-- Who may read responses: a foreign origin is let in if the settings list it, byte for byte, and
-- an entry of the list that is no origin changes nothing for the others.
import Chassis.Http.Site
import Chassis.Proofs.Settings.Origins

namespace Chassis.Http

open Text (Native)
open Settings (mem_tidy mentioned? ofShelf originsOfText originsOfText_of_loaded tidy_of_loaded)

/-! ## The list -/

/-- An entry that lets nobody in. -/
def IsIdle (entry : String) : Prop := entry = "*" ∨ isHeaderValue entry = false

theorem skip?_isNone (entry : String) : (skip? entry).isNone = true ↔ ¬IsIdle entry := by
  unfold skip? IsIdle
  by_cases hstar : entry = "*"
  · simp [hstar]
  · cases hvalue : isHeaderValue entry <;> simp [hstar]

theorem mem_allowed {origins : List String} {origin : String} :
    origin ∈ allowed origins ↔ origin ∈ origins ∧ ¬IsIdle origin := by
  unfold allowed
  rw [List.mem_filter, skip?_isNone]

/-- An idle entry may as well be missing. -/
theorem allowed_idle (before after : List String) {entry : String} (h : IsIdle entry) :
    allowed (before ++ entry :: after) = allowed (before ++ after) := by
  have hskip : ¬(skip? entry).isNone = true := fun hnone => (skip?_isNone entry).mp hnone h
  unfold allowed
  rw [List.filter_append, List.filter_append, List.filter_cons, if_neg hskip]

/-! ## The header -/

/-- The values of all headers of a name, which is given in lower case. -/
def Headers.all (headers : Headers) (name : String) : List Native :=
  (headers.filter fun header => lowerName header.1 == name).map (·.2)

/-- The origins that a response lets in. -/
def Response.letsIn (response : Response) : List Native :=
  response.headers.all "access-control-allow-origin"

theorem Headers.all_append (headers more : Headers) (name : String) :
    Headers.all (headers ++ more) name = headers.all name ++ more.all name := by
  unfold Headers.all
  rw [List.filter_append, List.map_append]

theorem Headers.all_eq_nil {headers : Headers} {names : List String} {name : String}
    (h : ∀ header ∈ headers, header.1 ∈ names) (hother : ∀ other ∈ names, lowerName other ≠ name) :
    headers.all name = [] := by
  unfold Headers.all
  rw [List.map_eq_nil_iff, List.filter_eq_nil_iff]
  intro header hheader
  rw [beq_iff_eq]
  exact hother header.1 (h header hheader)

/-- The headers that say nothing to foreign origins. -/
def plainNames : List String := ["allow", "content-length", "content-type"]

/-- The headers that are set whatever the settings list. -/
def otherNames : List String := ["access-control-allow-credentials", "access-control-allow-headers",
  "access-control-allow-methods", "allow", "content-length", "content-type", "vary"]

/-- The headers that are set are called in lower case. -/
theorem lowerName_fixed : ∀ name ∈ "access-control-allow-origin" :: otherNames,
      lowerName name = name := by decide

theorem otherNames_ne {name : String} (hname : name ∈ otherNames) :
    lowerName name ≠ "access-control-allow-origin" := by
  rw [lowerName_fixed name (List.mem_cons_of_mem _ hname)]
  rintro rfl
  exact absurd hname (by decide)

theorem mem_otherNames_of_plain : ∀ name ∈ plainNames, name ∈ otherNames := by decide

theorem header?_names {name : String} {value : Option Native} (hname : name ∈ otherNames) :
    ∀ header ∈ header? name value, header.1 ∈ otherNames := by
  unfold header?
  cases value with
  | none => exact fun header hheader => nomatch hheader
  | some value =>
    intro header hheader
    rw [List.mem_singleton.mp hheader]
    exact hname

theorem echoed_names (headers : Headers) : ∀ header ∈ echoed headers, header.1 ∈ otherNames := by
  intro header hheader
  rcases List.mem_append.mp hheader with hmethods | hnames
  · exact header?_names (by decide) header hmethods
  · exact header?_names (by decide) header hnames

theorem bareHeaders_names (place : Place) : ∀ header ∈ place.bareHeaders,
      header.1 ∈ plainNames := by
  cases place <;> simp [Place.bareHeaders, allowHeader, lengthHeader, plainNames]

/-- No answer says anything to foreign origins. -/
theorem answer_names (site : Site) (method : String) (place : Place) :
    ∀ header ∈ (site.answer method place).headers, header.1 ∈ plainNames := by
  have hbare (status : Nat) : ∀ header ∈ (bare status place.bareHeaders).headers,
      header.1 ∈ plainNames :=
    bareHeaders_names place
  have hpage (page : Page) : ∀ header ∈ (site.pageResponse page).headers,
      header.1 ∈ plainNames := by
    simp [Site.pageResponse, lengthHeader, plainNames]
  unfold Site.answer
  split
  · exact hbare 200
  · cases place with
    | page page =>
      simp only
      split
      · exact hpage page
      · split
        · exact hpage page
        · exact hbare 405
    | nothing => exact hbare 404
    | noPath => exact hbare 404

/-- A response lets in the first origin of the request, if it is allowed, and nobody else. -/
theorem letsIn_respond (site : Site) (request : Request) :
    (site.respond request).letsIn =
    ((request.headers.first? "origin").filter (site.allowed.map .text).contains).toList := by
  have horigin (value : Option Native) :
      (header? "access-control-allow-origin" value).all "access-control-allow-origin" =
          value.toList := by
    cases value with
    | none => rfl
    | some value => simp [header?, Headers.all, lowerName_fixed _ List.mem_cons_self]
  have hstatic : ∀ header ∈ [credentialsHeader, varyHeader], header.1 ∈ otherNames := by decide
  have hechoed : ∀ header ∈ (if request.method = "OPTIONS" then echoed request.headers else []),
      header.1 ∈ otherNames := by
    split
    · exact echoed_names request.headers
    · exact fun header hheader => nomatch hheader
  unfold Response.letsIn Site.respond corsHeaders originHeader
  simp only [Headers.all_append]
  rw [horigin, Headers.all_eq_nil hstatic fun _ => otherNames_ne,
    Headers.all_eq_nil hechoed fun _ => otherNames_ne,
    Headers.all_eq_nil (answer_names site _ _) fun name hname =>
      otherNames_ne (mem_otherNames_of_plain name hname)]
  simp

/-! ## Loaded settings -/

/-- An origin that the settings list, and that may stand in a header. -/
def IsListed (settings : Settings) (origin : String) : Prop :=
  origin ∈ settings.corsOrigins ∧ isHeaderValue origin = true ∧ origin ≠ "*"

theorem site_allows {settings : Settings} {origin : String} :
    (settings.site.allowed.map Native.text).contains (.text origin) = true ↔
    IsListed settings origin := by
  have hidle : ¬IsIdle origin ↔ isHeaderValue origin = true ∧ origin ≠ "*" := by
    unfold IsIdle
    rw [not_or, Bool.not_eq_false, and_comm]
  unfold IsListed
  rw [← hidle, List.contains_iff_mem, List.mem_map_of_injective fun _ _ => Native.text.inj]
  exact mem_allowed

/-- A response lets in one origin: that of the request. -/
theorem letsIn_eq_singleton {settings : Settings} {request : Request} {origin : String} :
    (settings.site.respond request).letsIn = [.text origin] ↔
      request.headers.first? "origin" = some (.text origin) ∧ IsListed settings origin := by
  rw [letsIn_respond, Option.toList_eq_singleton_iff, Option.filter_eq_some_iff, site_allows]

theorem letsIn_eq_nil {settings : Settings} {request : Request} :
    (settings.site.respond request).letsIn = [] ↔
      ¬∃ origin, request.headers.first? "origin" = some (.text origin) ∧
      IsListed settings origin := by
  constructor
  · rintro hnil ⟨origin, horigin⟩
    rw [letsIn_eq_singleton.mpr horigin] at hnil
    cases hnil
  · intro hnone
    rw [letsIn_respond, Option.toList_eq_nil_iff, Option.filter_eq_none_iff]
    intro first hfirst hallowed
    obtain ⟨origin, -, rfl⟩ := List.mem_map.mp (List.contains_iff_mem.mp hallowed)
    exact hnone ⟨origin, hfirst, site_allows.mp hallowed⟩

/-- An idle entry in the list changes no response at all. -/
theorem respond_idle (settings : Settings) (before after : List String) {entry : String}
    (h : IsIdle entry) (request : Request) :
    ({ settings with corsOrigins := before ++ entry :: after } : Settings).site.respond request =
      ({ settings with corsOrigins := before ++ after } : Settings).site.respond request := by
  unfold Settings.site
  simp only [allowed_idle before after h]

/-- A response lets in the first origin of its request if the loaded list has it, byte for byte, as
one of its entries that may stand in a header and are no asterisk; otherwise it lets in nobody.
Other entries make no difference. The list has trimmed entries only, none of them empty, and is
that of the variable when there is one. -/
theorem only_listed_origins_are_let_in {place : Settings.Place} {shelf : Settings.Shelf}
    {vars : Settings.Variables} {settings : Settings}
    (hload : ofShelf place shelf vars = .ok settings) :
    (∀ request : Request,
      (∀ origin, (settings.site.respond request).letsIn = [.text origin] ↔
        request.headers.first? "origin" = some (.text origin) ∧ IsListed settings origin) ∧
      ((settings.site.respond request).letsIn = [] ↔
        ¬∃ origin, request.headers.first? "origin" = some (.text origin) ∧
          IsListed settings origin) ∧
      (settings.site.respond request).letsIn.length ≤ 1 ∧
      .text "*" ∉ (settings.site.respond request).letsIn) ∧
      (∀ before entry after, IsIdle entry → ∀ request : Request,
        ({ settings with corsOrigins := before ++ entry :: after } : Settings).site.respond
            request =
          ({ settings with corsOrigins := before ++ after } : Settings).site.respond request) ∧
      (∀ origin ∈ settings.corsOrigins, origin ≠ "" ∧ Text.trimmed origin = origin) ∧
      ∀ text, mentioned? vars "CORS_ORIGINS" = some text →
        originsOfText text = .ok settings.corsOrigins := by
  refine ⟨fun request => ⟨fun _ => letsIn_eq_singleton, letsIn_eq_nil, ?_, ?_⟩,
    fun before _ after => respond_idle settings before after, ?_,
    fun _ => originsOfText_of_loaded hload⟩
  · rw [letsIn_respond]
    exact Option.length_toList_le
  · intro hstar
    rw [letsIn_respond, Option.mem_toList, Option.filter_eq_some_iff] at hstar
    exact (site_allows.mp hstar.2).2.2 rfl
  · obtain ⟨entries, hentries⟩ := tidy_of_loaded hload
    rw [hentries]
    exact fun _ => mem_tidy

/-- An asterisk that is listed lets nobody in who calls himself so, and keeps nobody out. -/
theorem an_asterisk_lets_nobody_in :
    ∃ settings, ofShelf ⟨id, id⟩ (fun _ => none) [("CORS_ORIGINS", "https://a.example, *")] =
      .ok settings ∧
      (settings.site.respond ⟨"GET", "/", [("Origin", .text "*")], []⟩).letsIn = [] ∧
      (settings.site.respond ⟨"GET", "/", [("Origin", .text "https://a.example")], []⟩).letsIn =
        [.text "https://a.example"] := by
  obtain ⟨settings, hload⟩ : ∃ settings, ofShelf ⟨id, id⟩ (fun _ => none)
      [("CORS_ORIGINS", "https://a.example, *")] = .ok settings :=
    exists_of_isOk (by decide +kernel)
  obtain ⟨hletsIn, -, -, htext⟩ := only_listed_origins_are_let_in hload
  have horigins : settings.corsOrigins = ["https://a.example", "*"] := by
    have hparse : originsOfText "https://a.example, *" = .ok ["https://a.example", "*"] := by
      decide +kernel
    exact Except.ok.inj ((htext _ rfl).symm.trans hparse)
  refine ⟨settings, hload, (hletsIn _).2.1.mpr ?_, ((hletsIn _).1 _).mpr ⟨by decide +kernel, ?_⟩⟩
  · rintro ⟨origin, horigin, hlisted⟩
    have hstar : origin = "*" := by
      have hfirst : Headers.first? [("Origin", .text "*")] "origin" = some (.text "*") := by
        decide +kernel
      exact Native.text.inj (Option.some.inj (horigin.symm.trans hfirst))
    exact hlisted.2.2 hstar
  · unfold IsListed
    rw [horigins]
    decide +kernel

end Chassis.Http
