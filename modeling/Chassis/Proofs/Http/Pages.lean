-- What the pages say: a page is one JSON object, whose members are those that it tells and no
-- other, whatever characters the settings put in their texts. So what the settings call the service
-- can be told from the top page.
import Chassis.Proofs.Document.Objects
import Chassis.Proofs.Http.Table

namespace Chassis.Http

open Document (Value Table)
open Document.Json (IsObject)

/-! ## Objects of texts -/

/-- Names and texts as a table. -/
def textTable (members : List (String × String)) : Table :=
  members.map fun (name, text) => (name, .ofText text)

theorem keys_textTable (members : List (String × String)) :
    (textTable members).map (·.1) = members.map (·.1) := by
  unfold textTable
  rw [List.map_map]
  rfl

theorem textTable_injective : Function.Injective textTable := by
  apply List.map_injective_iff.mpr
  intro member other h
  obtain ⟨hname, htext⟩ := Prod.mk.inj h
  injection htext with _ hscalar
  injection hscalar with htext
  exact Prod.ext hname htext

/-- An object of texts has the members that it is made of. -/
theorem isObject_objectText (depth : Nat) (members : List (String × String)) :
    IsObject depth (objectText members).toList (textTable members) := by
  refine Document.Json.isObject_writeObject ?_
  unfold textTable
  rw [List.forall₂_map_left_iff, List.forall₂_map_right_iff, List.forall₂_same]
  exact fun member _ => ⟨rfl, Document.Json.reads_writeString depth member.2⟩

theorem read_objectText {members : List (String × String)} (h : (members.map (·.1)).Nodup) :
    Document.Json.read (objectText members) = .ok (.table (textTable members)) :=
  Document.Json.read_object (isObject_objectText 126 members) ((keys_textTable members).symm ▸ h)

/-! ## Pages -/

theorem nodup_content (site : Site) (page : Page) : ((site.content page).map (·.1)).Nodup := by
  cases page with
  | top =>
    have hnames : (site.content .top).map (·.1) = ["message", "version"] := rfl
    rw [hnames]
    decide
  | health =>
    have hnames : (site.content .health).map (·.1) = ["status", "app"] := rfl
    rw [hnames]
    decide

theorem read_page (site : Site) (page : Page) :
    Document.Json.read (site.page page) = .ok (.table (textTable (site.content page))) :=
  read_objectText (nodup_content site page)

/-- Two sites show the same page just when they tell the same on it. -/
theorem page_eq_iff {site other : Site} {page : Page} :
    site.page page = other.page page ↔ site.content page = other.content page := by
  constructor
  · intro h
    have hread := congrArg Document.Json.read h
    rw [read_page, read_page] at hread
    injection hread with htable
    injection htable with hentries
    exact textTable_injective hentries
  · exact congrArg objectText

/-- What the top page tells is what the settings call the service. -/
theorem content_top_eq_iff {site other : Site} :
    site.content .top = other.content .top ↔ site.appName = other.appName ∧
    site.appVersion = other.appVersion := by
  unfold Site.content
  simp

/-! ## Responses -/

theorem ofTarget_of_path {target path : String} {page : Page} (hpath : path? target = some path)
    (hpage : Page.ofPath? path = some page) : Place.ofTarget target = .page page := by
  unfold Place.ofTarget
  rw [hpath]
  simp only [hpage, Option.elim]

/-- A response with one object: it has these members, each a text, and no other. -/
structure Response.Tells (response : Response) (members : List (String × String)) : Prop where
  status : response.status = 200
  written : IsObject 126 response.body.toList (textTable members)
  decoded : Document.Json.read response.body = .ok (.table (textTable members))

section

variable (site : Site) {request : Request} {page : Page} (hmethod : request.method = "GET")
  (hplace : Place.ofTarget request.target = .page page)
include hmethod hplace

theorem body_of_page : (site.respond request).body = site.page page := by
  rw [body_respond, hmethod, hplace]
  rfl

theorem tells_of_page : (site.respond request).Tells (site.content page) where
  status := by
    rw [status_respond, hmethod, hplace]
    rfl
  written := by
    rw [body_of_page site hmethod hplace]
    exact isObject_objectText 126 (site.content page)
  decoded := by
    rw [body_of_page site hmethod hplace]
    exact read_page site page

end

/-- Whatever the settings call the service, its top page is an object with a message and a version,
its health page one with a status and the name, and neither has any other member. Top pages are the
same just when name and version are. -/
theorem pages_tell_what_the_settings_say (settings : Settings) (request : Request)
    (hmethod : request.method = "GET") :
    (path? request.target = some "/" →
      (settings.site.respond request).Tells
          [("message", settings.appName ++ " backend running"), ("version", settings.appVersion)] ∧
        ∀ (others : Settings) (other : Request), other.method = "GET" →
          path? other.target = some "/" →
          ((settings.site.respond request).body = (others.site.respond other).body ↔
            settings.appName = others.appName ∧ settings.appVersion = others.appVersion)) ∧
      (path? request.target = some "/health" →
        (settings.site.respond request).Tells [("status", "ok"), ("app", settings.appName)]) := by
  constructor
  · intro hpath
    have hplace : Place.ofTarget request.target = .page .top := ofTarget_of_path hpath rfl
    refine ⟨tells_of_page settings.site hmethod hplace, ?_⟩
    intro others other hget htop
    rw [body_of_page settings.site hmethod hplace,
      body_of_page others.site hget (ofTarget_of_path htop rfl),
      page_eq_iff, content_top_eq_iff]
    rfl
  · intro hpath
    have hpage : Page.ofPath? "/health" = some .health := by decide
    exact tells_of_page settings.site hmethod (ofTarget_of_path hpath hpage)

/-- A name with quotes, a comma, a backslash and a control character is told as it is. -/
theorem a_name_cannot_end_its_member :
    ∃ settings, Settings.ofShelf ⟨id, id⟩ (fun _ => none) [("APP_NAME", "a\",\"b\\\u0001")] =
      .ok settings ∧
      (settings.site.respond ⟨"GET", "/?c", [], []⟩).Tells
        [("message", "a\",\"b\\\u0001" ++ " backend running"), ("version", "0.1.0")] ∧
      (settings.site.respond ⟨"GET", "/health", [], []⟩).Tells
        [("status", "ok"), ("app", "a\",\"b\\\u0001")] := by
  have hload :
      ((Settings.ofShelf ⟨id, id⟩ (fun _ => none) [("APP_NAME", "a\",\"b\\\u0001")]).toOption.map
      fun settings => (settings.appName, settings.appVersion)) = some ("a\",\"b\\\u0001",
      "0.1.0") := rfl
  obtain ⟨settings, hsettings, hnames⟩ := exists_of_toOption hload
  obtain ⟨hname, hversion⟩ := Prod.mk.inj hnames
  have htop :=
    ((pages_tell_what_the_settings_say settings ⟨"GET", "/?c", [], []⟩ rfl).1 (by decide)).1
  have hhealth :=
    (pages_tell_what_the_settings_say settings ⟨"GET", "/health", [], []⟩ rfl).2 (by decide)
  rw [hname, hversion] at htop
  rw [hname] at hhealth
  exact ⟨settings, hsettings, htop, hhealth⟩

end Chassis.Http
