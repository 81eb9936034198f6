-- What decides a response. Status, page and plain headers come from the method, the path and what
-- the settings call the service; what foreign origins are told comes from the list of origins and
-- from three headers of the request. No other part of a request counts.
import Chassis.Proofs.Http.Origins

namespace Chassis.Http

open Text (Native)

/-! ## Targets -/

theorem beforeQuery_query (path query : List Char) :
    beforeQuery (path ++ '?' :: query) = beforeQuery path := by
  unfold beforeQuery
  induction path with
  | nil => simp
  | cons c rest ih =>
    rw [List.cons_append, List.takeWhile_cons, List.takeWhile_cons, ih]

theorem afterScheme?_append {target rest : List Char} (h : afterScheme? target = some rest)
    (more : List Char) :
    afterScheme? (target ++ more) = some (rest ++ more) := by
  fun_induction afterScheme? target with
  | case1 after =>
    cases h
    rfl
  | case2 after => cases h
  | case3 c after hscheme hslash ih =>
    -- What comes after `c` has a scheme in it, so it does not begin with a slash, nor is it empty.
    obtain ⟨d, tail, rfl, hd⟩ : ∃ d tail, after = d :: tail ∧ d ≠ '/' := by
      cases after with
      | nil => cases h
      | cons d tail =>
        refine ⟨d, tail, rfl, ?_⟩
        rintro rfl
        cases h
    rw [List.cons_append, afterScheme?]
    · exact ih h
    · intro tail' hc heq
      rw [List.cons_append, List.cons.injEq] at heq
      exact hd heq.1
    · exact hslash
  | case4 => cases h

theorem path?_of_slash {target : String} {rest : List Char} (h : target.toList = '/' :: rest) :
    path? target = some (String.ofList ('/' :: beforeQuery rest)) := by
  unfold path?
  rw [h]
  rfl

theorem path?_of_no_slash {target : String} (h : ∀ rest, target.toList ≠ '/' :: rest) :
    path? target = (afterScheme? target.toList).map fun rest =>
      let path := (beforeQuery rest).dropWhile (· ≠ '/')
      if path.isEmpty then "/" else String.ofList path := by
  unfold path?
  split
  · exact absurd ‹_› (h _)
  · rfl

/-- A query does not change the path. -/
theorem path?_query {target path : String} (h : path? target = some path) (query : String) :
    path? (target ++ "?" ++ query) = some path := by
  have hlist : (target ++ "?" ++ query).toList = target.toList ++ '?' :: query.toList := by simp
  by_cases hslash : ∃ rest, target.toList = '/' :: rest
  · obtain ⟨rest, hrest⟩ := hslash
    rw [hrest, List.cons_append] at hlist
    rw [path?_of_slash hlist, beforeQuery_query, ← path?_of_slash hrest, h]
  · rw [path?_of_no_slash (not_exists.mp hslash)] at h
    obtain ⟨rest, hrest, hpath⟩ := Option.map_eq_some_iff.mp h
    have hother (rest : List Char) : (target ++ "?" ++ query).toList ≠ '/' :: rest := by
      rw [hlist]
      intro heq
      cases hchars : target.toList with
      | nil => rw [hchars] at hrest; cases hrest
      | cons c cs =>
        rw [hchars, List.cons_append, List.cons.injEq] at heq
        exact hslash ⟨cs, by rw [hchars, heq.1]⟩
    rw [path?_of_no_slash hother, hlist, afterScheme?_append hrest, Option.map_some,
      beforeQuery_query, hpath]

/-! ## Headers -/

/-- The headers that tell foreign origins what they may do, and that say what this depends on. -/
def corsNames : List String := ["access-control-allow-origin", "access-control-allow-credentials",
  "access-control-allow-methods", "access-control-allow-headers", "vary"]

/-- A header of these names. -/
def isCors (header : String × Native) : Bool := corsNames.contains (lowerName header.1)

/-- What a response tells foreign origins. -/
def Response.corsPart (response : Response) : Headers := response.headers.filter isCors

/-- The other headers of a response. -/
def Response.plainPart (response : Response) : Headers :=
  response.headers.filter fun header => !isCors header

theorem lowerName_cors {name : String} (hname : name ∈ corsNames) : lowerName name = name := by
  have hfixed : ∀ name ∈ corsNames, name ∈ "access-control-allow-origin" :: otherNames := by decide
  exact lowerName_fixed name (hfixed name hname)

theorem lowerName_plain {name : String} (hname : name ∈ plainNames) : lowerName name = name :=
  lowerName_fixed name (List.mem_cons_of_mem _ (mem_otherNames_of_plain name hname))

theorem not_mem_corsNames : ∀ name ∈ plainNames, name ∉ corsNames := by decide

theorem isCors_of_mem {name : String} (hname : name ∈ corsNames) (value : Native) :
    isCors (name, value) = true := by
  unfold isCors
  rw [lowerName_cors hname]
  exact List.contains_iff_mem.mpr hname

theorem isCors_header? {name : String} {value : Option Native} (hname : name ∈ corsNames) :
    ∀ header ∈ header? name value, isCors header = true := by
  intro header hheader
  cases value with
  | none => cases hheader
  | some value => rw [List.mem_singleton.mp hheader]; exact isCors_of_mem hname value

theorem isCors_corsHeaders (allowed : List String) (request : Request) :
    ∀ header ∈ corsHeaders allowed request, isCors header = true := by
  have hechoed : ∀ header ∈ echoed request.headers, isCors header = true := by
    unfold echoed
    rw [List.forall_mem_append]
    exact ⟨isCors_header? (by decide), isCors_header? (by decide)⟩
  have hstatic : ∀ header ∈ [credentialsHeader, varyHeader], isCors header = true := by
    rw [List.forall_mem_cons, List.forall_mem_singleton]
    exact ⟨isCors_of_mem (by decide) _, isCors_of_mem (by decide) _⟩
  unfold corsHeaders originHeader
  rw [List.forall_mem_append, List.forall_mem_append]
  refine ⟨⟨isCors_header? (by decide), hstatic⟩, ?_⟩
  split
  · exact hechoed
  · intro header hheader
    cases hheader

theorem isCors_answer (site : Site) (method : String) (place : Place) :
    ∀ header ∈ (site.answer method place).headers, isCors header = false := by
  intro header hheader
  have hplain := answer_names site method place header hheader
  unfold isCors
  rw [lowerName_plain hplain, ← Bool.not_eq_true, List.contains_iff_mem]
  exact not_mem_corsNames header.1 hplain

theorem corsPart_respond (site : Site) (request : Request) :
    (site.respond request).corsPart = corsHeaders site.allowed request := by
  unfold Response.corsPart Site.respond
  rw [List.filter_append, List.filter_eq_self.mpr (isCors_corsHeaders _ _),
    List.filter_eq_nil_iff.mpr, List.append_nil]
  intro header hheader
  rw [isCors_answer _ _ _ header hheader]
  exact Bool.false_ne_true

theorem plainPart_respond (site : Site) (request : Request) :
    (site.respond request).plainPart =
    (site.answer request.method (Place.ofTarget request.target)).headers := by
  unfold Response.plainPart Site.respond
  rw [List.filter_append, List.filter_eq_nil_iff.mpr, List.filter_eq_self.mpr, List.nil_append]
  · intro header hheader
    rw [isCors_answer _ _ _ header hheader]
    rfl
  · intro header hheader
    rw [isCors_corsHeaders _ _ header hheader]
    exact Bool.false_ne_true

/-- The values of a header that is told to foreign origins. -/
theorem all_respond (site : Site) (request : Request) {name : String} (hname : name ∈ corsNames) :
    (site.respond request).headers.all name = (corsHeaders site.allowed request).all name := by
  have hplain : ∀ other ∈ plainNames, lowerName other ≠ name := by
    intro other hother heq
    rw [lowerName_plain hother] at heq
    exact not_mem_corsNames other hother (heq ▸ hname)
  unfold Site.respond
  rw [Headers.all_append, Headers.all_eq_nil (answer_names _ _ _) hplain, List.append_nil]

theorem all_header? {name : String} (hname : name ∈ corsNames) (value : Option Native)
    (other : String) :
    Headers.all (header? name value) other = if name = other then value.toList else [] := by
  cases value with
  | none => simp [header?, Headers.all]
  | some value =>
    have hall : Headers.all (header? name (some value)) other = if lowerName name = other then
        [value] else [] := by
      by_cases h : lowerName name = other <;> simp [header?, Headers.all, h]
    rw [hall, lowerName_cors hname]
    rfl

theorem all_corsHeaders (allowed : List String) (request : Request) {name : String}
    (hname : name ≠ "access-control-allow-origin") : (corsHeaders allowed request).all name =
      Headers.all [credentialsHeader, varyHeader] name ++
        if request.method = "OPTIONS" then (echoed request.headers).all name else [] := by
  unfold corsHeaders originHeader
  rw [Headers.all_append, Headers.all_append, all_header? (by decide), if_neg (Ne.symm hname),
    List.nil_append]
  by_cases hmethod : request.method = "OPTIONS"
  · rw [if_pos hmethod, if_pos hmethod]
  · rw [if_neg hmethod, if_neg hmethod]
    rfl

theorem all_echoed (headers : Headers) (name : String) : (echoed headers).all name =
    (if "access-control-allow-methods" = name then
      (headers.first? "access-control-request-method").toList else []) ++
      if "access-control-allow-headers" = name then
        (headers.first? "access-control-request-headers").toList else [] := by
  unfold echoed
  rw [Headers.all_append, all_header? (by decide), all_header? (by decide)]

/-- What every response says, whatever the request. -/
theorem all_static (name : String) : Headers.all [credentialsHeader, varyHeader] name =
    (if "access-control-allow-credentials" = name then [.text "true"] else []) ++
      if "vary" = name then
        [.text "origin, access-control-request-method, access-control-request-headers"]
        else [] := by
  have hparts : [credentialsHeader, varyHeader] =
      header? credentialsHeader.1 credentialsHeader.2 ++ header? varyHeader.1 varyHeader.2 := rfl
  rw [hparts, Headers.all_append, all_header? (by decide), all_header? (by decide)]
  rfl

theorem all_echoed_eq_nil (headers : Headers) {name : String}
    (hmethods : "access-control-allow-methods" ≠ name)
    (hheaders : "access-control-allow-headers" ≠ name) : (echoed headers).all name = [] := by
  rw [all_echoed, if_neg hmethods, if_neg hheaders, List.append_nil]

theorem status_respond (site : Site) (request : Request) : (site.respond request).status =
    (site.answer request.method (Place.ofTarget request.target)).status := rfl

theorem body_respond (site : Site) (request : Request) : (site.respond request).body =
    (site.answer request.method (Place.ofTarget request.target)).body := rfl

/-! ## The table -/

theorem answer_congr {site other : Site} (hname : site.appName = other.appName)
    (hversion : site.appVersion = other.appVersion) (method : String) (place : Place) :
    site.answer method place = other.answer method place := by
  have hcontent (page : Page) : site.content page = other.content page := by
    cases page
    · simp only [Site.content, hname, hversion]
    · simp only [Site.content, hname]
  simp only [Site.answer, Site.pageResponse, Site.page, hcontent]

theorem corsHeaders_congr (allowed : List String) {request other : Request}
    (horigin : request.headers.first? "origin" = other.headers.first? "origin")
    (hmethod : request.method = "OPTIONS" ↔ other.method = "OPTIONS")
    (hasked : request.method = "OPTIONS" →
      request.headers.first? "access-control-request-method" =
      other.headers.first? "access-control-request-method" ∧
        request.headers.first? "access-control-request-headers" =
          other.headers.first? "access-control-request-headers") :
    corsHeaders allowed request = corsHeaders allowed other := by
  unfold corsHeaders originHeader
  rw [horigin]
  by_cases hoptions : request.method = "OPTIONS"
  · obtain ⟨hmethods, hheaders⟩ := hasked hoptions
    rw [if_pos hoptions, if_pos (hmethod.mp hoptions), echoed, echoed, hmethods, hheaders]
  · rw [if_neg hoptions, if_neg fun h => hoptions (hmethod.mpr h)]

/-- A target that names a page. -/
def NamesPage (target : String) : Prop := path? target = some "/" ∨ path? target = some "/health"

theorem ofTarget_eq_page {target : String} : (∃ page, Place.ofTarget target = .page page) ↔
    NamesPage target := by
  unfold Place.ofTarget NamesPage
  cases path? target with
  | none => simp
  | some path =>
    by_cases htop : path = "/"
    · simp [Page.ofPath?, htop]
    · by_cases hhealth : path = "/health" <;> simp [Page.ofPath?, htop, hhealth]

theorem ofTarget_congr {target other : String} (h : path? target = path? other) :
    Place.ofTarget target = Place.ofTarget other := by
  unfold Place.ofTarget
  rw [h]

theorem status_of_page (site : Site) {method : String} (hmethod : method ≠ "OPTIONS")
    (page : Page) :
    (site.answer method (.page page)).status = if method = "GET" ∨ method = "HEAD" then 200
    else 405 := by
  unfold Site.answer
  rw [if_neg hmethod]
  by_cases hget : method = "GET"
  · simp [hget, Site.pageResponse]
  · by_cases hhead : method = "HEAD" <;> simp [hget, hhead, Site.pageResponse, bare]

theorem status_of_no_page (site : Site) {method : String} (hmethod : method ≠ "OPTIONS")
    {place : Place} (hplace : ¬ ∃ page, place = .page page) :
    (site.answer method place).status = 404 := by
  unfold Site.answer
  rw [if_neg hmethod]
  cases place with
  | page page => exact absurd ⟨page, rfl⟩ hplace
  | nothing => rfl
  | noPath => rfl

theorem status_table (site : Site) {request : Request} (hmethod : request.method ≠ "OPTIONS") :
    ((site.respond request).status = 200 ↔
      NamesPage request.target ∧ (request.method = "GET" ∨ request.method = "HEAD")) ∧
      ((site.respond request).status = 405 ↔
        NamesPage request.target ∧ ¬ (request.method = "GET" ∨ request.method = "HEAD")) ∧
      ((site.respond request).status = 404 ↔ ¬ NamesPage request.target) := by
  rw [← ofTarget_eq_page, status_respond]
  by_cases hpage : ∃ page, Place.ofTarget request.target = .page page
  · obtain ⟨page, hpage'⟩ := hpage
    rw [hpage', status_of_page site hmethod]
    by_cases hmay : request.method = "GET" ∨ request.method = "HEAD" <;> simp [hmay]
  · rw [status_of_no_page site hmethod hpage]
    simp [hpage]

theorem respond_head (site : Site) (request : Request) :
    site.respond { request with method := "HEAD" } =
      { site.respond { request with method := "GET" } with body := "" } := by
  have hcors : corsHeaders site.allowed { request with method := "HEAD" } =
      corsHeaders site.allowed { request with method := "GET" } :=
    corsHeaders_congr site.allowed rfl (by simp) (by simp)
  unfold Site.respond
  rw [hcors]
  cases Place.ofTarget request.target <;> simp [Site.answer, bare]

/-- Status, page and plain headers of a response depend on the method, the path and what the
settings call the service; what foreign origins are told depends on the list of origins, the first
origin of the request, and for a preflight on what it asks first. Nothing depends on the body. A
preflight is answered without a page, and what it asks is granted. Elsewhere the two pages are there
for two methods, and no other path is. Every response says that credentials are allowed and what it
depends on. -/
theorem what_decides_a_response (settings : Settings) (request : Request) :
    let response := settings.site.respond request
    (∀ (others : Settings) (other : Request), settings.appName = others.appName →
      settings.appVersion = others.appVersion → request.method = other.method →
      path? request.target = path? other.target →
        response.status = (others.site.respond other).status ∧
          response.body = (others.site.respond other).body ∧
          response.plainPart = (others.site.respond other).plainPart) ∧
      (∀ path query, path? request.target = some path →
        settings.site.respond { request with target := request.target ++ "?" ++ query } =
          response) ∧
      (∀ body, settings.site.respond { request with body } = response) ∧
      (∀ (others : Settings) (other : Request), settings.corsOrigins = others.corsOrigins →
        request.headers.first? "origin" = other.headers.first? "origin" →
        (request.method = "OPTIONS" ↔ other.method = "OPTIONS") →
        (request.method = "OPTIONS" →
          request.headers.first? "access-control-request-method" =
              other.headers.first? "access-control-request-method" ∧
            request.headers.first? "access-control-request-headers" =
              other.headers.first? "access-control-request-headers") →
          response.corsPart = (others.site.respond other).corsPart) ∧
      (request.method = "OPTIONS" → response.status = 200 ∧ response.body = "" ∧
        response.headers.all "access-control-allow-methods" =
          (request.headers.first? "access-control-request-method").toList ∧
        response.headers.all "access-control-allow-headers" =
          (request.headers.first? "access-control-request-headers").toList) ∧
      (request.method ≠ "OPTIONS" →
        (response.status = 200 ↔ NamesPage request.target ∧
          (request.method = "GET" ∨ request.method = "HEAD")) ∧
          (response.status = 405 ↔ NamesPage request.target ∧
            ¬ (request.method = "GET" ∨ request.method = "HEAD")) ∧
          (response.status = 404 ↔ ¬ NamesPage request.target)) ∧
      settings.site.respond { request with method := "HEAD" } =
        { settings.site.respond { request with method := "GET" } with body := "" } ∧
      response.headers.all "access-control-allow-credentials" = [.text "true"] ∧
      response.headers.all "vary" =
        [.text "origin, access-control-request-method, access-control-request-headers"] := by
  intro response
  have htold (name : String) (hname : name ∈ corsNames)
      (hne : name ≠ "access-control-allow-origin") :
      response.headers.all name = Headers.all [credentialsHeader, varyHeader] name ++
        if request.method = "OPTIONS" then (echoed request.headers).all name else [] := by
    rw [all_respond settings.site request hname, all_corsHeaders _ _ hne]
  refine ⟨?_, ?_, fun _ => rfl, ?_, ?_, status_table settings.site,
    respond_head settings.site request, ?_, ?_⟩
  · intro others other hname hversion hmethod hpath
    have hanswer : settings.site.answer request.method (Place.ofTarget request.target) =
        others.site.answer other.method (Place.ofTarget other.target) := by
      rw [hmethod, ofTarget_congr hpath]
      exact answer_congr hname hversion _ _
    simp only [response, status_respond, body_respond, plainPart_respond, hanswer, and_self]
  · intro path query hpath
    have hplace : Place.ofTarget (request.target ++ "?" ++ query) = Place.ofTarget request.target :=
      ofTarget_congr ((path?_query hpath query).trans hpath.symm)
    simp only [response, Site.respond, hplace, corsHeaders]
  · intro others other horigins horigin hmethod hasked
    have hallowed : settings.site.allowed = others.site.allowed := congrArg allowed horigins
    rw [corsPart_respond, corsPart_respond, hallowed]
    exact corsHeaders_congr _ horigin hmethod hasked
  · intro hmethod
    have hanswer (place : Place) : settings.site.answer request.method place =
        bare 200 place.bareHeaders :=
      if_pos hmethod
    have hmethods := htold "access-control-allow-methods" (by decide) (by decide)
    have hheaders := htold "access-control-allow-headers" (by decide) (by decide)
    rw [if_pos hmethod, all_echoed] at hmethods hheaders
    refine ⟨?_, ?_, hmethods.trans ?_, hheaders.trans ?_⟩
    · rw [status_respond, hanswer]
      rfl
    · rw [body_respond, hanswer]
      rfl
    · rw [if_pos rfl, if_neg (by decide), List.append_nil]
      rfl
    · rw [if_pos rfl, if_neg (by decide), List.nil_append]
      rfl
  · rw [htold _ (by decide) (by decide), all_echoed_eq_nil _ (by decide) (by decide), ite_self,
      List.append_nil, all_static]
    rfl
  · rw [htold _ (by decide) (by decide), all_echoed_eq_nil _ (by decide) (by decide), ite_self,
      List.append_nil, all_static]
    rfl

/-- A query and an origin that is not listed change no page. -/
theorem a_query_and_an_origin_change_no_page :
    ∃ settings, Settings.ofShelf ⟨id, id⟩ (fun _ => none) [] = .ok settings ∧
      (settings.site.respond ⟨"GET", "/health", [], []⟩).status = 200 ∧
      (settings.site.respond ⟨"GET", "/health?full", [("Origin", .text "https://a.example")],
        []⟩).status = 200 ∧
      (settings.site.respond ⟨"GET", "/health", [], []⟩).body =
        (settings.site.respond ⟨"GET", "/health?full", [("Origin", .text "https://a.example")],
          []⟩).body := by
  obtain ⟨settings, hload⟩ := exists_of_isOk (Settings.isOk_defaults ⟨id, id⟩)
  obtain ⟨hsame, -, -, -, -, htable, -⟩ :=
    what_decides_a_response settings ⟨"GET", "/health", [], []⟩
  have hpath : path? "/health" = path? "/health?full" := by decide
  have hpage : NamesPage "/health" := Or.inr (by decide)
  obtain ⟨hstatus, hbody, -⟩ :=
    hsame settings ⟨"GET", "/health?full", [("Origin", .text "https://a.example")], []⟩ rfl
      rfl rfl hpath
  have hok := (htable (by decide)).1.mpr ⟨hpage, Or.inl rfl⟩
  exact ⟨settings, hload, hok, hstatus.symm.trans hok, hbody⟩

end Chassis.Http
