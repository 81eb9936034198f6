-- The pool under any uses of it, by any of its clones. What is said of sessions agrees with those
-- that are live: each of them is opened once, and closed once at most. Nobody is given a session of
-- a pool that is closed.
import Mathlib.Data.List.Nodup
import Chassis.Http.Extraction
import Chassis.Proofs.Bind
import Chassis.Proofs.Session.Factory

namespace Chassis.Session

open Http (Extraction)
open Logging (Event)

/-! ## Uses of a pool -/

/-- What can be done with a pool. Whoever holds a clone of the factory asks for a session, for
himself or for a request, or closes the pool. Whoever holds a session queries the database, and ends
the session by closing it or by letting go of it. -/
inductive Use where
  | acquire (clone : Nat) (now : Conditions)
  | extract (clone : Nat) (now : Conditions)
  | query (number : Nat) (reply : Reply)
  | close (number clock : Nat)
  | drop (number clock : Nat)
  | closePool (clone : Nat)

/-- What comes of a use. -/
inductive Result where
  | attempted (attempt : Factory.Attempt)
  | extracted (extraction : Extraction)
  | queried (answer : Except Fault Nat)
  | ended
  | closed (isDrained : Bool)

/-- The id that is drawn for a use which is to give a session. -/
def Use.drawn? : Use → Option String
  | .acquire _ now | .extract _ now => some now.id
  | _ => none

/-- The ids that are drawn for uses, in order. -/
def drawn (uses : List Use) : List String := uses.filterMap Use.drawn?

/-- No id is drawn twice. -/
def DrawDistinctIds (uses : List Use) : Prop := (drawn uses).Nodup

namespace Factory

/-- One use. All clones are the same pool, so it does not matter which of them is used. -/
def use (f : Factory) : Use → Factory × Result × List Event
  | .acquire _ now =>
    let (f, attempt, events) := f.acquire now
    (f, .attempted attempt, events)
  | .extract _ now =>
    let (f, extraction, events) := Http.extract f now
    (f, .extracted extraction, events)
  | .query number reply =>
    let (f, answer) := f.query number reply
    (f, .queried answer, [])
  | .close number clock | .drop number clock =>
    let (f, events) := f.release number clock
    (f, .ended, events)
  | .closePool _ =>
    let (f, isDrained, events) := f.close
    (f, .closed isDrained, events)

/-- Uses one after another. -/
def uses (f : Factory) : List Use → Factory × List Event
  | [] => (f, [])
  | use :: rest =>
    let (f, _, events) := f.use use
    let (f, more) := f.uses rest
    (f, events ++ more)

end Factory

/-! ## What is said of sessions -/

/-- What can be said of a session. -/
inductive Mark where
  | opened
  | closed
  deriving DecidableEq

namespace Mark

/-- The message that says it. -/
def message : Mark → String
  | opened => "Database session opened"
  | closed => "Database session closed"

/-- The mark of a message. -/
def ofMessage? (message : String) : Option Mark := [opened, closed].find? (·.message == message)

theorem ofMessage?_message (mark : Mark) : ofMessage? mark.message = some mark := by
  cases mark <;> decide

end Mark

/-- How often something is said of sessions. -/
def timesSaid (mark : Mark) (events : List Event) : Nat := events.countP (·.message == mark.message)

/-- What is said of the session of an id, in order. -/
def marksOf (id : String) (events : List Event) : List Mark :=
  (events.filter fun event => event.fields.lookup "session_id" == some (.display id)).filterMap
    fun event => Mark.ofMessage? event.message

theorem timesSaid_append (mark : Mark) (events more : List Event) :
    timesSaid mark (events ++ more) = timesSaid mark events + timesSaid mark more :=
  List.countP_append

theorem marksOf_append (id : String) (events more : List Event) :
    marksOf id (events ++ more) = marksOf id events ++ marksOf id more := by
  simp [marksOf]

/-- Events that say nothing of sessions that begin or end. -/
def AreQuiet (events : List Event) : Prop := ∀ event ∈ events, Mark.ofMessage? event.message = none

namespace AreQuiet

variable {events : List Event} (h : AreQuiet events)
include h

theorem timesSaid_eq_zero (mark : Mark) : timesSaid mark events = 0 := by
  refine List.countP_eq_zero.mpr fun event hevent hsaid => ?_
  have hnone := h event hevent
  rw [eq_of_beq hsaid, Mark.ofMessage?_message] at hnone
  cases hnone

theorem marksOf_eq_nil (id : String) : marksOf id events = [] := by
  refine List.filterMap_eq_nil_iff.mpr fun event hevent => ?_
  exact h event (List.mem_filter.mp hevent).1

end AreQuiet

theorem areQuiet_nil : AreQuiet [] := by
  intro event hevent
  cases hevent

theorem AreQuiet.append {events more : List Event} (h : AreQuiet events) (hmore : AreQuiet more) :
    AreQuiet (events ++ more) := by
  intro event hevent
  rcases List.mem_append.mp hevent with hmem | hmem
  · exact h event hmem
  · exact hmore event hmem

theorem areQuiet_singleton {event : Event} (h : Mark.ofMessage? event.message = none) :
    AreQuiet [event] := by
  intro other hother
  rw [List.mem_singleton.mp hother]
  exact h

theorem areQuiet_shortage (shortage : Shortage) : AreQuiet [Factory.shortageEvent shortage] := by
  refine areQuiet_singleton ?_
  change Mark.ofMessage? "Failed to acquire database session" = none
  decide

theorem areQuiet_unavailable (fault : Fault) : AreQuiet [Factory.unavailableEvent fault] := by
  refine areQuiet_singleton ?_
  change Mark.ofMessage? "Database session unavailable" = none
  decide

/-- An event that says something of the session of an id says it of no other. -/
theorem marksOf_singleton {event : Event} {mark : Mark} {id : String}
    (hmessage : event.message = mark.message)
    (hid : event.fields.lookup "session_id" = some (.display id)) (other : String) :
    marksOf other [event] = if other = id then [mark] else [] := by
  have hmark : Mark.ofMessage? event.message = some mark := by
    rw [hmessage, Mark.ofMessage?_message]
  by_cases h : other = id
  · simp [marksOf, hid, h, hmark]
  · simp [marksOf, hid, h, Ne.symm h]

theorem marksOf_opened (id other : String) :
    marksOf other [Factory.openedEvent id] = if other = id then [.opened] else [] :=
  marksOf_singleton rfl rfl other

theorem marksOf_closed (id : String) (elapsed : Nat) (other : String) :
    marksOf other [Factory.closedEvent id elapsed] = if other = id then [.closed] else [] :=
  marksOf_singleton rfl rfl other

theorem timesSaid_singleton {event : Event} {mark : Mark} (hmessage : event.message = mark.message)
    (other : Mark) :
    timesSaid other [event] = if other = mark then 1 else 0 := by
  cases mark <;> cases other <;> simp [timesSaid, hmessage, Mark.message]

namespace Factory

/-! ## What a use can do -/

/-- The sessions that are live: the number by which each is held, and the id that was drawn for
it. -/
def held (f : Factory) : List (Nat × String) :=
  f.live.map fun session => (session.number, session.id)

/-- The ids of the sessions that are live. -/
def ids (f : Factory) : List String := f.live.map (·.id)

theorem length_held (f : Factory) : f.held.length = f.live.length := List.length_map _

theorem ids_eq (f : Factory) : f.ids = f.held.map (·.2) := by simp [ids, held]

/-- What an attempt to have a session can come to. -/
inductive Tries (f : Factory) (now : Conditions) : Factory → Attempt → List Event → Prop
  | given {f' : Factory} : f.isClosed = false → f.live.length < f.config.maxConnections →
      f'.config = f.config → f'.live = ⟨f.opened, now.id, now.clock, false⟩ :: f.live →
      f'.opened = f.opened + 1 → Tries f now f' (.session f.opened) [openedEvent now.id]
  | lacking (shortage : Shortage) :
      Tries f now f (.failed (.connectionFailed shortage.message)) [shortageEvent shortage]
  | crashed : f.isClosed = false → Tries f now f .crashed []

/-- What a use can do to the sessions, if an id is drawn for it: nothing, or one of them begins or
ends. -/
inductive Change (f : Factory) : Option String → Factory → List Event → Prop
  | quiet {drawn : Option String} {f' : Factory} {events : List Event} : f'.config = f.config →
      f'.opened = f.opened → f'.held = f.held → AreQuiet events → Change f drawn f' events
  | opens (id : String) {f' : Factory} : f.held.length < f.config.maxConnections →
      f'.config = f.config →
      f'.opened = f.opened + 1 → f'.held = (f.opened, id) :: f.held →
        Change f (some id) f' [openedEvent id]
  | closes (session : Nat × String) (elapsed : Nat) {f' : Factory} : session ∈ f.held →
      f'.config = f.config →
      f'.opened = f.opened → f'.held = f.held.filter (·.1 != session.1) →
      Change f none f' [closedEvent session.2 elapsed]

variable {f f' : Factory}

theorem connect_eq_ok {login : Login} (h : f.connect login = .ok f') :
    f.live.length < f.config.maxConnections ∧ f'.config = f.config ∧ f'.live = f.live ∧
    f'.opened = f.opened := by
  unfold connect at h
  split at h
  · cases h
  · rename_i hroom
    simp only [Bool.or_eq_true, decide_eq_true_eq, not_or, Nat.not_le] at hroom
    split at h
    · cases h
      exact ⟨hroom.2, rfl, rfl, rfl⟩
    · split at h
      · cases h
        exact ⟨hroom.2, rfl, rfl, rfl⟩
      · cases h

theorem tries_acquire (f : Factory) (now : Conditions) :
    Tries f now (f.acquire now).1 (f.acquire now).2.1 (f.acquire now).2.2 := by
  unfold acquire
  split
  · exact .lacking .closed
  · rename_i hopen
    have hopen' : f.isClosed = false := by simpa using hopen
    split
    · exact .crashed hopen'
    · split
      · exact .lacking _
      · rename_i connected hconnect
        obtain ⟨hroom, hconfig, hlive, hopened⟩ := connect_eq_ok hconnect
        have hgiven : Tries f now
            { connected with
              live := ⟨f.opened, now.id, now.clock, false⟩ :: f.live, opened := f.opened + 1 }
            (.session f.opened) [openedEvent now.id] := .given hopen' hroom hconfig rfl rfl
        simpa only [hlive, hopened] using hgiven

/-- A request tries as anybody does. When there is no session for it that is an error of its own,
and the request is turned away. -/
theorem extract_cases (f : Factory) (now : Conditions) :
    ((f.acquire now).2.1 = .crashed ∧
      Http.extract f now = ((f.acquire now).1, .crashed, (f.acquire now).2.2)) ∨
      (∃ id, (f.acquire now).2.1 = .session id ∧
        Http.extract f now = ((f.acquire now).1, .session id, (f.acquire now).2.2)) ∨
      ∃ fault, (f.acquire now).2.1 = .failed fault ∧ Http.extract f now =
        ((f.acquire now).1, .rejected Http.unavailable.measured,
          (f.acquire now).2.2 ++ [unavailableEvent fault]) := by
  unfold Http.extract acquireForRequest
  obtain ⟨after, attempt, events⟩ := f.acquire now
  cases attempt with
  | session id => exact Or.inr (Or.inl ⟨id, rfl, rfl⟩)
  | failed fault => exact Or.inr (Or.inr ⟨fault, rfl, rfl⟩)
  | crashed => exact Or.inl ⟨rfl, rfl⟩

theorem Tries.change {now : Conditions} {attempt : Attempt} {events : List Event}
    (h : Tries f now f' attempt events) : Change f (some now.id) f' events := by
  cases h with
  | given _ hroom hconfig hlive hopened =>
    exact .opens now.id (by rwa [length_held]) hconfig hopened (by simp [held, hlive])
  | lacking shortage => exact .quiet rfl rfl rfl (areQuiet_shortage shortage)
  | crashed _ => exact .quiet rfl rfl rfl areQuiet_nil

theorem change_extract (f : Factory) (now : Conditions) :
    Change f (some now.id) (Http.extract f now).1 (Http.extract f now).2.2 := by
  have htries := tries_acquire f now
  rcases extract_cases f now with ⟨-, heq⟩ | ⟨number, -, heq⟩ | ⟨fault, hfailed, heq⟩
  · rw [heq]
    exact htries.change
  · rw [heq]
    exact htries.change
  · rw [heq]
    rw [hfailed] at htries
    generalize (f.acquire now).1 = after, (f.acquire now).2.2 = events at htries
    cases htries with
    | lacking shortage =>
      exact .quiet rfl rfl rfl ((areQuiet_shortage shortage).append (areQuiet_unavailable _))

/-- A query leaves the sessions as they are, but that a connection may be cut. -/
theorem held_query (f : Factory) (number : Nat) (reply : Reply) :
    (f.query number reply).1.config = f.config ∧
    (f.query number reply).1.opened = f.opened ∧ (f.query number reply).1.held = f.held := by
  unfold query
  split
  · exact ⟨rfl, rfl, rfl⟩
  · split
    · exact ⟨rfl, rfl, rfl⟩
    · exact ⟨rfl, rfl, rfl⟩
    · refine ⟨rfl, rfl, ?_⟩
      simp only [held, List.map_map]
      refine List.map_congr_left fun session _ => ?_
      simp only [Function.comp_apply]
      split <;> rfl

theorem change_query (f : Factory) (number : Nat) (reply : Reply) :
    Change f none (f.query number reply).1 [] := by
  obtain ⟨hconfig, hopened, hheld⟩ := held_query f number reply
  exact .quiet hconfig hopened hheld areQuiet_nil

theorem change_release (f : Factory) (number clock : Nat) :
    Change f none (f.release number clock).1 (f.release number clock).2 := by
  unfold release
  split
  · exact .quiet rfl rfl rfl areQuiet_nil
  · rename_i session hfind
    have hmem := List.mem_of_find?_eq_some hfind
    have hnumber : session.number = number := by simpa using List.find?_some hfind
    refine .closes (session.number, session.id) _ (List.mem_map_of_mem hmem) rfl rfl ?_
    simp [held, hnumber, List.filter_map, Function.comp_def]

theorem change_close (f : Factory) : Change f none f.close.1 f.close.2.2 := by
  simp only [close]
  split
  · exact .quiet rfl rfl rfl (areQuiet_singleton (by decide))
  · exact .quiet rfl rfl rfl areQuiet_nil

theorem change_use (f : Factory) (use : Use) :
    Change f use.drawn? (f.use use).1 (f.use use).2.2 := by
  cases use with
  | acquire clone now => exact (tries_acquire f now).change
  | extract clone now => exact change_extract f now
  | query number reply => exact change_query f number reply
  | close number clock => exact change_release f number clock
  | drop number clock => exact change_release f number clock
  | closePool clone => exact change_close f

/-! ## What holds after every use -/

/-- A pool whose numbers agree with what was said of its sessions. -/
structure Sound (config : Config) (f : Factory) (said : List Event) : Prop where
  asMade : f.config = config
  distinct : (f.held.map (·.1)).Nodup
  earlier : ∀ session ∈ f.held, session.1 < f.opened
  bounded : f.held.length ≤ config.maxConnections
  openings : timesSaid .opened said = f.opened
  closings : timesSaid .closed said + f.held.length = f.opened

/-- A pool whose ids, of which some have been drawn so far, agree with what was said of its
sessions. -/
structure Told (drawn : List String) (f : Factory) (said : List Event) : Prop where
  distinct : f.ids.Nodup
  known : ∀ id ∈ f.ids, id ∈ drawn
  live : ∀ id ∈ f.ids, marksOf id said = [.opened]
  ended : ∀ id, id ∉ f.ids → marksOf id said = [] ∨ marksOf id said = [.opened, .closed]
  unheard : ∀ id, id ∉ drawn → marksOf id said = []

theorem areQuiet_created (config : Config) : AreQuiet [createdEvent config] := by
  refine areQuiet_singleton ?_
  change Mark.ofMessage? "PostgreSQL session factory created" = none
  decide

theorem of_make_eq {username : String} {config : Config} {first : List Event}
    (h : make username config = (.made f, first)) :
    f.config = config ∧ f.live = [] ∧ f.opened = 0 ∧ first = [createdEvent config] := by
  unfold make at h
  split at h
  · cases h
  · split at h
    · cases h
    · cases h
      exact ⟨rfl, rfl, rfl, rfl⟩

theorem sound_make {username : String} {config : Config} {first : List Event}
    (h : make username config = (.made f, first)) : Sound config f first := by
  obtain ⟨hconfig, hlive, hopened, rfl⟩ := of_make_eq h
  have hheld : f.held = [] := by simp [held, hlive]
  have hsaid (mark : Mark) := (areQuiet_created config).timesSaid_eq_zero mark
  exact ⟨hconfig, by simp [hheld], by simp [hheld], by simp [hheld], by rw [hsaid, hopened],
    by rw [hsaid, hheld, hopened]; rfl⟩

theorem told_make {username : String} {config : Config} {first : List Event}
    (h : make username config = (.made f, first)) : Told [] f first := by
  obtain ⟨-, hlive, -, rfl⟩ := of_make_eq h
  have hids : f.ids = [] := by simp [ids, hlive]
  have hmarks := (areQuiet_created config).marksOf_eq_nil
  exact ⟨by simp [hids], by simp [hids], by simp [hids], fun id _ => Or.inl (hmarks id),
    fun id _ => hmarks id⟩

namespace Sound

variable {config : Config} {said events : List Event} (h : Sound config f said)
include h

theorem quiet (hconfig : f'.config = f.config) (hopened : f'.opened = f.opened)
    (hheld : f'.held = f.held) (hquiet : AreQuiet events) : Sound config f' (said ++ events) where
  asMade := hconfig.trans h.asMade
  distinct := hheld ▸ h.distinct
  earlier := by
    rw [hheld, hopened]
    exact h.earlier
  bounded := hheld ▸ h.bounded
  openings := by rw [timesSaid_append, hquiet.timesSaid_eq_zero, Nat.add_zero, hopened, h.openings]
  closings := by
    rw [timesSaid_append, hquiet.timesSaid_eq_zero, Nat.add_zero, hopened, hheld, h.closings]

/-- The number of a session that begins has not been given before. -/
theorem opens {id : String} (hroom : f.held.length < f.config.maxConnections)
    (hconfig : f'.config = f.config) (hopened : f'.opened = f.opened + 1)
    (hheld : f'.held = (f.opened, id) :: f.held) :
    Sound config f' (said ++ [openedEvent id]) := by
  have hnew : f.opened ∉ f.held.map (·.1) := by
    intro hmem
    obtain ⟨session, hsession, heq⟩ := List.mem_map.mp hmem
    exact Nat.lt_irrefl _ (heq ▸ h.earlier session hsession)
  have hsaid (mark : Mark) : timesSaid mark [openedEvent id] = if mark = .opened then 1 else 0 :=
    timesSaid_singleton rfl mark
  refine ⟨hconfig.trans h.asMade, ?_, ?_, ?_, ?_, ?_⟩
  · rw [hheld]
    exact List.nodup_cons.mpr ⟨hnew, h.distinct⟩
  · rw [hheld, hopened]
    intro session hsession
    rcases List.mem_cons.mp hsession with rfl | hsession
    · exact Nat.lt_succ_self _
    · exact Nat.lt_succ_of_lt (h.earlier session hsession)
  · rw [hheld, List.length_cons, ← h.asMade]
    exact hroom
  · rw [timesSaid_append, hsaid, h.openings, hopened, if_pos rfl]
  · have hclosings := h.closings
    rw [timesSaid_append, hsaid, hheld, hopened, List.length_cons, if_neg (by decide)]
    omega

/-- Of the sessions that are live, one has its number. -/
theorem length_filter {session : Nat × String} (hlive : session ∈ f.held) :
    (f.held.filter (·.1 != session.1)).length + 1 = f.held.length := by
  have hpos := List.length_pos_of_mem hlive
  have hlength := List.length_erase_of_mem (List.mem_map_of_mem (f := (·.1)) hlive)
  rw [h.distinct.erase_eq_filter, List.filter_map, List.length_map, List.length_map] at hlength
  simp only [Function.comp_def] at hlength
  omega

/-- A session that ends was opened, and has not been closed. -/
theorem closes {session : Nat × String} {elapsed : Nat} (hlive : session ∈ f.held)
    (hconfig : f'.config = f.config) (hopened : f'.opened = f.opened)
    (hheld : f'.held = f.held.filter (·.1 != session.1)) :
    Sound config f' (said ++ [closedEvent session.2 elapsed]) := by
  have hlength := h.length_filter hlive
  have hsaid (mark : Mark) : timesSaid mark [closedEvent session.2 elapsed] = if mark = .closed then
      1 else 0 :=
    timesSaid_singleton rfl mark
  refine ⟨hconfig.trans h.asMade, ?_, ?_, ?_, ?_, ?_⟩
  · rw [hheld]
    exact (List.filter_sublist.map _).nodup h.distinct
  · rw [hheld, hopened]
    exact fun other hother => h.earlier other (List.mem_filter.mp hother).1
  · have hbounded := h.bounded
    rw [hheld]
    omega
  · rw [timesSaid_append, hsaid, h.openings, hopened, if_neg (by decide), Nat.add_zero]
  · have hclosings := h.closings
    rw [timesSaid_append, hsaid, hheld, hopened, if_pos rfl]
    omega

theorem change {drawn : Option String} (hchange : Change f drawn f' events) :
    Sound config f' (said ++ events) := by
  cases hchange with
  | quiet hconfig hopened hheld hquiet => exact h.quiet hconfig hopened hheld hquiet
  | opens id hroom hconfig hopened hheld => exact h.opens hroom hconfig hopened hheld
  | closes session elapsed hlive hconfig hopened hheld => exact h.closes hlive hconfig hopened hheld

theorem uses (uses : List Use) : Sound config (f.uses uses).1 (said ++ (f.uses uses).2) := by
  induction uses generalizing f said with
  | nil =>
    rw [Factory.uses, List.append_nil]
    exact h
  | cons use rest ih =>
    have hrest := ih (h.change (change_use f use))
    rw [List.append_assoc] at hrest
    exact hrest

end Sound

namespace Told

variable {drawn : List String} {said events : List Event} (h : Told drawn f said)
include h

/-- Ids may be drawn that no session gets. -/
theorem quiet {more : List String} (hheld : f'.held = f.held) (hquiet : AreQuiet events) :
    Told (drawn ++ more) f' (said ++ events) := by
  have hids : f'.ids = f.ids := by rw [ids_eq, ids_eq, hheld]
  have hmarks (id : String) : marksOf id (said ++ events) = marksOf id said := by
    rw [marksOf_append, hquiet.marksOf_eq_nil, List.append_nil]
  refine ⟨hids ▸ h.distinct, fun id hid => ?_, fun id hid => ?_, fun id hid => ?_, fun id hid => ?_⟩
  · exact List.mem_append_left _ (h.known id (hids ▸ hid))
  · rw [hmarks]
    exact h.live id (hids ▸ hid)
  · rw [hmarks]
    exact h.ended id (hids ▸ hid)
  · rw [hmarks]
    exact h.unheard id fun hmem => hid (List.mem_append_left _ hmem)

/-- Nothing has been said of an id that is drawn for the first time. -/
theorem opens {id : String} (hnew : id ∉ drawn) (hheld : f'.held = (f.opened, id) :: f.held) :
    Told (drawn ++ [id]) f' (said ++ [openedEvent id]) := by
  have hids : f'.ids = id :: f.ids := by rw [ids_eq, ids_eq, hheld, List.map_cons]
  have hother {other : String} (hne : other ≠ id) : marksOf other (said ++ [openedEvent id]) =
      marksOf other said := by
    rw [marksOf_append, marksOf_opened, if_neg hne, List.append_nil]
  refine ⟨?_, fun other hmem => ?_, fun other hmem => ?_, fun other hmem => ?_,
    fun other hmem => ?_⟩
  · rw [hids]
    exact List.nodup_cons.mpr ⟨fun hmem => hnew (h.known id hmem), h.distinct⟩
  · rw [hids] at hmem
    rcases List.mem_cons.mp hmem with rfl | hmem
    · simp
    · exact List.mem_append_left _ (h.known other hmem)
  · rw [hids] at hmem
    by_cases heq : other = id
    · subst heq
      rw [marksOf_append, h.unheard other hnew, marksOf_opened, if_pos rfl, List.nil_append]
    · rw [hother heq]
      exact h.live other ((List.mem_cons.mp hmem).resolve_left heq)
  · rw [hids, List.mem_cons, not_or] at hmem
    rw [hother hmem.1]
    exact h.ended other hmem.2
  · rw [List.mem_append, List.mem_singleton, not_or] at hmem
    rw [hother hmem.2]
    exact h.unheard other hmem.1

/-- Whoever holds a session by its number holds the one with its id. -/
theorem ids_filter (hnumbers : (f.held.map (·.1)).Nodup) {session : Nat × String}
    (hlive : session ∈ f.held) :
    (f.held.filter (·.1 != session.1)).map (·.2) = f.ids.filter (· != session.2) := by
  have hdistinct := h.distinct
  rw [ids_eq] at hdistinct ⊢
  rw [List.filter_map]
  congr 1
  refine List.filter_congr fun other hother => ?_
  rw [Function.comp_apply, Bool.eq_iff_iff, bne_iff_ne, bne_iff_ne, not_iff_not]
  constructor
  · exact fun heq => congrArg _ (List.inj_on_of_nodup_map hnumbers hother hlive heq)
  · exact fun heq => congrArg _ (List.inj_on_of_nodup_map hdistinct hother hlive heq)

theorem closes (hnumbers : (f.held.map (·.1)).Nodup) {session : Nat × String} {elapsed : Nat}
    (hlive : session ∈ f.held) (hheld : f'.held = f.held.filter (·.1 != session.1)) :
    Told drawn f' (said ++ [closedEvent session.2 elapsed]) := by
  have hids : f'.ids = f.ids.filter (· != session.2) := by
    rw [ids_eq, hheld, h.ids_filter hnumbers hlive]
  have hmem_ids : session.2 ∈ f.ids := by
    rw [ids_eq]
    exact List.mem_map_of_mem hlive
  have hother {other : String} (hne : other ≠ session.2) :
      marksOf other (said ++ [closedEvent session.2 elapsed]) = marksOf other said := by
    rw [marksOf_append, marksOf_closed, if_neg hne, List.append_nil]
  refine ⟨hids ▸ h.distinct.filter _, fun other hmem => ?_, fun other hmem => ?_,
    fun other hmem => ?_, fun other hmem => ?_⟩
  · exact h.known other (List.mem_filter.mp (hids ▸ hmem)).1
  · obtain ⟨hmem, hne⟩ := List.mem_filter.mp (hids ▸ hmem)
    rw [hother (by simpa using hne)]
    exact h.live other hmem
  · by_cases heq : other = session.2
    · subst heq
      rw [marksOf_append, h.live _ hmem_ids, marksOf_closed, if_pos rfl]
      exact Or.inr rfl
    · rw [hother heq]
      exact h.ended other fun hin => hmem (hids ▸ List.mem_filter.mpr ⟨hin, by simpa using heq⟩)
  · have hne : other ≠ session.2 := by
      rintro rfl
      exact hmem (h.known _ hmem_ids)
    rw [hother hne]
    exact h.unheard other hmem

theorem change {use : Option String} (hnumbers : (f.held.map (·.1)).Nodup)
    (hchange : Change f use f' events) (hnew : ∀ id ∈ use, id ∉ drawn) :
    Told (drawn ++ use.toList) f' (said ++ events) := by
  cases hchange with
  | quiet _ _ hheld hquiet => exact h.quiet hheld hquiet
  | opens id _ _ _ hheld => exact h.opens (hnew id rfl) hheld
  | closes session elapsed hlive _ _ hheld =>
    rw [Option.toList_none, List.append_nil]
    exact h.closes hnumbers hlive hheld

theorem uses {config : Config} (hsound : Sound config f said) (uses : List Use)
    (hdistinct : (drawn ++ Session.drawn uses).Nodup) :
    Told (drawn ++ Session.drawn uses) (f.uses uses).1 (said ++ (f.uses uses).2) := by
  induction uses generalizing f drawn said with
  | nil =>
    rw [Factory.uses, Session.drawn, List.filterMap_nil, List.append_nil, List.append_nil]
    exact h
  | cons use rest ih =>
    have hdrawn : Session.drawn (use :: rest) = use.drawn?.toList ++ Session.drawn rest := by
      cases hid : use.drawn? <;> simp [Session.drawn, hid]
    rw [hdrawn, ← List.append_assoc] at hdistinct ⊢
    have hchange := change_use f use
    have hnew : ∀ id ∈ use.drawn?, id ∉ drawn := by
      intro id hid hmem
      exact List.disjoint_of_nodup_append hdistinct.of_append_left hmem (by simpa using hid)
    have hrest := ih (h.change hsound.distinct hchange hnew) (hsound.change hchange) hdistinct
    rw [List.append_assoc said] at hrest
    exact hrest

theorem marked (id : String) :
    marksOf id said <+: [.opened, .closed] ∧ (id ∈ f.ids ↔ marksOf id said = [.opened]) := by
  by_cases hlive : id ∈ f.ids
  · simp [h.live id hlive, hlive]
  · rcases h.ended id hlive with hnone | hboth
    · simp [hnone, hlive]
    · simp [hboth, hlive]

end Told

/-! ## Closed pools -/

theorem isClosed_close (f : Factory) : f.close.1.isClosed = true := by
  simp only [close]
  split <;> rfl

theorem isClosed_use (f : Factory) (use : Use) (h : f.isClosed = true) :
    (f.use use).1.isClosed = true := by
  cases use with
  | acquire clone now => exact (isClosed_acquire f now).trans h
  | extract clone now =>
    have hacquire : (f.acquire now).1.isClosed = true := (isClosed_acquire f now).trans h
    change (Http.extract f now).1.isClosed = true
    rcases extract_cases f now with ⟨-, heq⟩ | ⟨id, -, heq⟩ | ⟨fault, -, heq⟩ <;>
      rw [heq] <;>
      exact hacquire
  | query number reply =>
    change (f.query number reply).1.isClosed = true
    unfold query
    split
    · exact h
    · split <;> exact h
  | close number clock => exact (release_fst f number clock).1.trans h
  | drop number clock => exact (release_fst f number clock).1.trans h
  | closePool clone => exact isClosed_close f

theorem isClosed_uses (f : Factory) (uses : List Use) (h : f.isClosed = true) :
    (f.uses uses).1.isClosed = true := by
  induction uses generalizing f with
  | nil => exact h
  | cons use rest ih => exact ih _ (isClosed_use f use h)

/-- Once some clone has closed the pool, it stays closed. -/
theorem isClosed_of_closePool (f : Factory) {uses : List Use} {clone : Nat}
    (h : .closePool clone ∈ uses) :
    (f.uses uses).1.isClosed = true := by
  induction uses generalizing f with
  | nil => cases h
  | cons use rest ih =>
    rcases List.mem_cons.mp h with rfl | hrest
    · exact isClosed_uses _ rest (isClosed_close f)
    · exact ih _ hrest

theorem acquire_closed (h : f.isClosed = true) (now : Conditions) :
    f.acquire now = (f, .failed closedFault, [shortageEvent .closed]) := by
  simp [acquire, h, lack, closedFault]

/-! ## Attempts that fail -/

/-- An attempt that fails leaves the pool as it is, and is one warning. -/
theorem acquire_of_failed {now : Conditions} {fault : Fault}
    (h : (f.acquire now).2.1 = .failed fault) :
    ∃ shortage : Shortage, fault = .connectionFailed shortage.message ∧
      f.acquire now = (f, .failed fault, [shortageEvent shortage]) := by
  have htries := tries_acquire f now
  generalize f.acquire now = outcome at h htries
  obtain ⟨after, attempt, events⟩ := outcome
  dsimp only at h htries
  cases htries with
  | given => cases h
  | lacking shortage =>
    cases h
    exact ⟨shortage, rfl, rfl⟩
  | crashed => cases h

/-- A request goes without a session exactly when an attempt to have one fails. That is an error of
its own, and the request is turned away. -/
theorem extract_of_failed {now : Conditions} {fault : Fault}
    (h : (f.acquire now).2.1 = .failed fault) :
    Http.extract f now =
      ((f.acquire now).1, .rejected Http.unavailable.measured,
        (f.acquire now).2.2 ++ [unavailableEvent fault]) := by
  rcases extract_cases f now with ⟨hcrashed, -⟩ | ⟨id, hid, -⟩ | ⟨other, hother, heq⟩
  · rw [h] at hcrashed
    cases hcrashed
  · rw [h] at hid
    cases hid
  · rw [h] at hother
    cases hother
    exact heq

theorem failed_of_extract {now : Conditions} {response : Http.Response}
    (h : (Http.extract f now).2.1 = .rejected response) :
    ∃ fault, (f.acquire now).2.1 = .failed fault := by
  rcases extract_cases f now with ⟨-, heq⟩ | ⟨id, -, heq⟩ | ⟨fault, hfailed, -⟩
  · rw [heq] at h
    cases h
  · rw [heq] at h
    cases h
  · exact ⟨fault, hfailed⟩

end Factory

/-! ## The pool in use -/

/-- Any uses of a pool, by any of its clones. The sessions that were said to be opened and not said
to be closed are those that are live, and they are never more than the pool has room for. If no id
is drawn twice, of a session nothing is said, or that it is opened, or that it is opened and then
that it is closed; and it is live when it is said to be opened and not to be closed. An attempt that
fails is one warning, and changes nothing. For a request it is an error as well, and the request is
answered with status 500. Once any clone has closed the pool, all clones refuse. -/
theorem live_sessions_are_accounted_for {username : String} {config : Config} {factory : Factory}
    {first : List Event} (hmade : Factory.make username config = (.made factory, first))
    (uses : List Use) :
    let after := (factory.uses uses).1
    let said := first ++ (factory.uses uses).2
    timesSaid .opened said = timesSaid .closed said + after.live.length ∧
      after.live.length ≤ config.maxConnections ∧
      (DrawDistinctIds uses →
        ∀ id, marksOf id said <+: [.opened, .closed] ∧
          (id ∈ after.ids ↔ marksOf id said = [.opened])) ∧
      (∀ now fault, (after.acquire now).2.1 = .failed fault → ∃ shortage : Shortage,
        fault = .connectionFailed shortage.message ∧
        after.acquire now = (after, .failed fault, [Factory.shortageEvent shortage]) ∧
        Http.extract after now = (after, .rejected Http.unavailable.measured,
          [Factory.shortageEvent shortage, Factory.unavailableEvent fault]) ∧
        AreQuiet [Factory.shortageEvent shortage, Factory.unavailableEvent fault]) ∧
      (∀ now response, (Http.extract after now).2.1 = .rejected response →
        response.status = 500 ∧ ∃ fault, (after.acquire now).2.1 = .failed fault) ∧
      ∀ clone, .closePool clone ∈ uses → ∀ other now,
        (after.use (.acquire other now)).2.1 = .attempted (.failed closedFault) := by
  intro after said
  have hfirst := Factory.sound_make hmade
  have hsound : Factory.Sound config after said := hfirst.uses uses
  have hclosings := hsound.closings
  rw [Factory.length_held] at hclosings
  refine ⟨?_, Factory.length_held after ▸ hsound.bounded, fun hdistinct => ?_, ?_, ?_, ?_⟩
  · rw [hsound.openings, hclosings]
  · exact ((Factory.told_make hmade).uses hfirst uses hdistinct).marked
  · intro now fault hfailed
    obtain ⟨shortage, rfl, hacquire⟩ := Factory.acquire_of_failed hfailed
    refine ⟨shortage, rfl, hacquire, ?_,
      (areQuiet_shortage shortage).append (areQuiet_unavailable _)⟩
    rw [Factory.extract_of_failed hfailed, hacquire]
    rfl
  · intro now response hrejected
    obtain ⟨fault, hfailed⟩ := Factory.failed_of_extract hrejected
    rw [Factory.extract_of_failed hfailed] at hrejected
    cases hrejected
    exact ⟨rfl, fault, hfailed⟩
  · intro clone hclose other now
    have hclosed : after.isClosed = true := Factory.isClosed_of_closePool factory hclose
    change Result.attempted (after.acquire now).2.1 = _
    rw [Factory.acquire_closed hclosed]

/-- A pool with room for two sessions. -/
def smallPool : Factory where
  config := ⟨"postgres://db/app", 2, 1000, false⟩
  options := { Options.usual "app" with host := "db", database := some "app" }
  live := []
  idle := 0
  isClosed := false
  logins := 0
  opened := 0

/-- Two clones are given a session each, and a third request goes without. One session is closed,
one clone closes the pool while the other session is live, and then that session is let go. -/
def busyUses : List Use :=
  let now (id : String) : Conditions := ⟨.accepted, 0, id⟩
  [.acquire 0 (now "a"), .extract 1 (now "b"), .extract 0 (now "c"), .close 0 5, .closePool 1,
    .acquire 0 (now "d"), .drop 1 7]

/-- Both sessions are closed in the end, and the other clone gets none. -/
theorem a_busy_pool_is_left_empty :
    let said := [Factory.createdEvent smallPool.config] ++ (smallPool.uses busyUses).2
    Factory.make "app" smallPool.config =
      (.made smallPool, [Factory.createdEvent smallPool.config]) ∧
      timesSaid .opened said = 2 ∧ timesSaid .closed said = 2 ∧
      DrawDistinctIds busyUses ∧ (∀ id, marksOf id said ≠ [.opened]) ∧
      (((smallPool.uses busyUses).1).use (.acquire 0 ⟨.accepted, 9, "e"⟩)).2.1 =
        .attempted (.failed closedFault) := by
  have hparse : (Options.usual "app").parse smallPool.config.url = .ok smallPool.options :=
    toOption_eq_some.mp (by decide +kernel)
  have hmade : Factory.make "app" smallPool.config =
      (.made smallPool, [Factory.createdEvent smallPool.config]) := by
    rw [Factory.make, hparse]
    rfl
  have hdistinct : DrawDistinctIds busyUses := by
    unfold DrawDistinctIds
    decide
  obtain ⟨hbalance, -, hmarks, -, -, hclosed⟩ := live_sessions_are_accounted_for hmade busyUses
  have hcounts :
      timesSaid .opened ([Factory.createdEvent smallPool.config] ++ (smallPool.uses busyUses).2) =
        2 ∧
      (smallPool.uses busyUses).1.live.length = 0 := by
    decide +kernel
  have hempty : (smallPool.uses busyUses).1.ids = [] := by
    rw [Factory.ids, List.length_eq_zero_iff.mp hcounts.2, List.map_nil]
  rw [hcounts.1, hcounts.2] at hbalance
  refine ⟨hmade, hcounts.1, hbalance.symm, hdistinct, fun id hid => ?_,
    hclosed 1 (by simp [busyUses]) 0 _⟩
  have hlive := (hmarks hdistinct id).2.mpr hid
  rw [hempty] at hlive
  cases hlive

end Chassis.Session
