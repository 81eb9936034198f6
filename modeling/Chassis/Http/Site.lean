-- The site that the service offers: two pages, and what is answered elsewhere. Status and
-- page depend on the method and the path alone; what foreign origins may do is said on top.
import Chassis.Document.Json
import Chassis.Http.Cors
import Chassis.Settings.Basic
import Chassis.Text.Utf8

namespace Chassis.Http

/-- What the pages tell, and which origins may read them. -/
structure Site where
  appName : String
  appVersion : String
  allowed : List String
  deriving DecidableEq, Repr

/-! ## Pages -/

inductive Page where
  | top
  | health
  deriving DecidableEq, Repr

def Page.ofPath? (path : String) : Option Page :=
  if path = "/" then some .top else if path = "/health" then some .health else none

/-- What a page tells: names and texts. -/
def Site.content (site : Site) : Page → List (String × String)
  | .top => [("message", site.appName ++ " backend running"), ("version", site.appVersion)]
  | .health => [("status", "ok"), ("app", site.appName)]

/-- Names and texts as an object, without blanks. -/
def objectText (members : List (String × String)) : String :=
  Document.Json.writeObject (members.map fun (name, text) => (name, Document.Json.writeString text))

def Site.page (site : Site) (page : Page) : String := objectText (site.content page)

/-! ## Responses -/

def lengthHeader (body : String) : String × Text.Native :=
  ("content-length", .text (toString (Text.utf8 body).length))

/-- The header with the methods of a page. -/
def allowHeader : String × Text.Native := ("allow", .text "GET,HEAD")

def Site.pageResponse (site : Site) (page : Page) : Response where
  status := 200
  headers := [("content-type", .text "application/json"), lengthHeader (site.page page)]
  body := site.page page

/-- A response without a body. -/
def bare (status : Nat) (headers : Headers) : Response := ⟨status, headers, ""⟩

/-- What stands at the path of a target: a page, nothing, or there is no path at all. -/
inductive Place where
  | page (page : Page)
  | nothing
  | noPath
  deriving DecidableEq, Repr

def Place.ofTarget (target : String) : Place :=
  match path? target with
  | none => .noPath
  | some path => (Page.ofPath? path).elim .nothing .page

/-- The headers of a response without a body, at a place. -/
def Place.bareHeaders : Place → Headers
  | page _ => [allowHeader, lengthHeader ""]
  | nothing => []
  | noPath => [lengthHeader ""]

/-- The response for a method at a place, without what it says to foreign origins. -/
def Site.answer (site : Site) (method : String) (place : Place) : Response :=
  if method = "OPTIONS" then bare 200 place.bareHeaders
  else match place with
    | .page page =>
      if method = "GET" then site.pageResponse page
      else if method = "HEAD" then { site.pageResponse page with body := "" }
      else bare 405 place.bareHeaders
    | place => bare 404 place.bareHeaders

def Site.respond (site : Site) (request : Request) : Response :=
  let response := site.answer request.method (Place.ofTarget request.target)
  { response with headers := corsHeaders site.allowed request ++ response.headers }

/-! ## Opening -/

/-- What comes of opening a site. -/
inductive Opening where
  | opened (site : Site)
  | crashed
  deriving DecidableEq, Repr

end Chassis.Http

namespace Chassis.Settings

def site (s : Settings) : Http.Site := ⟨s.appName, s.appVersion, Http.allowed s.corsOrigins⟩

/-- The warnings about the site that the settings ask for. -/
def siteEvents (s : Settings) : List Logging.Event := Http.skipEvents s.corsOrigins

/-- Opens the site that the settings ask for. A policy that cannot be made, or cannot be used, is a
crash; by then the warnings have been given. -/
def openSite (s : Settings) : Http.Opening × List Logging.Event :=
  let opening := match Http.Policy.ofOrigins? s.corsOrigins with
    | none => .crashed
    | some policy =>
      if policy.isUsable then .opened ⟨s.appName, s.appVersion, policy.origins.values⟩ else .crashed
  (opening, s.siteEvents)

end Chassis.Settings
