-- The life of the server, over any moves. What is seen of it has one shape, which grows with its
-- phases: every request comes to its end before the server says that it stops, and the pool is
-- closed after that and not before.
import Mathlib.Data.List.Nodup
import Chassis.Http.Server
import Chassis.Proofs.Session.Factory
import Chassis.Proofs.Settings.Fields

namespace Chassis.Http

open Logging (Event)
open Session (Conditions Factory closedFault)

/-! ## What is seen -/

/-- A sign of the end: the server stops, the pool closes and is closed, serving returns. -/
def Sign.isLast (sign : Sign) : Bool :=
  sign == .event stoppingEvent || sign == .closing || sign == .event Factory.poolClosedEvent ||
    sign == .returned

/-- A sign of a connection or of a request. -/
def Sign.isBusy : Sign → Bool
  | accepted _ => true
  | started _ _ => true
  | answered _ _ => true
  | dropped _ => true
  | attempted _ _ => true
  | _ => false

/-- The phases in which the pool is closed. -/
def Phase.isOver : Phase → Bool
  | closing => true
  | stopped => true
  | _ => false

/-- Signs that say nothing of the end, and while that goes on nothing of requests. -/
def AreUsual (phase : Phase) (signs : List Sign) : Prop :=
  ∀ sign ∈ signs, sign.isLast = false ∧ (phase.isOver = true → sign.isBusy = false)

/-- All that is seen until a phase. -/
def Told (signs : List Sign) : Phase → Prop
  | .closing => ∃ before after, signs = before ++ .event stoppingEvent :: .closing :: after ∧
      AreUsual .draining before ∧ AreUsual .closing after
  | .stopped => ∃ before between after,
      signs = before ++ .event stoppingEvent :: .closing ::
        (between ++ .event Factory.poolClosedEvent :: .returned :: after) ∧
      AreUsual .draining before ∧ AreUsual .closing between ∧ AreUsual .stopped after
  | _ => AreUsual .draining signs

theorem AreUsual.append {phase : Phase} {signs more : List Sign} (h : AreUsual phase signs)
    (hmore : AreUsual phase more) : AreUsual phase (signs ++ more) := by
  intro sign hsign
  rcases List.mem_append.mp hsign with hmem | hmem
  · exact h sign hmem
  · exact hmore sign hmem

theorem AreUsual.draining {phase : Phase} {signs : List Sign} (h : AreUsual phase signs) :
    AreUsual .draining signs :=
  fun sign hsign => ⟨(h sign hsign).1, fun hover => by cases hover⟩

theorem AreUsual.not_mem {phase : Phase} {signs : List Sign} (h : AreUsual phase signs)
    {sign : Sign} (hlast : sign.isLast = true) : sign ∉ signs := by
  intro hmem
  rw [(h sign hmem).1] at hlast
  cases hlast

/-- As long as the phase is the same, what is seen is usual. -/
theorem Told.append {phase : Phase} {signs more : List Sign} (h : Told signs phase)
    (hmore : AreUsual phase more) :
    Told (signs ++ more) phase := by
  cases phase with
  | serving => exact AreUsual.append h hmore.draining
  | draining => exact AreUsual.append h hmore
  | closing =>
    obtain ⟨before, after, rfl, hbefore, hafter⟩ := h
    exact ⟨before, after ++ more, by simp, hbefore, hafter.append hmore⟩
  | stopped =>
    obtain ⟨before, between, after, rfl, hbefore, hbetween, hafter⟩ := h
    exact ⟨before, between, after ++ more, by simp, hbefore, hbetween, hafter.append hmore⟩

/-- Until the pool is closed, nothing of the end is seen. -/
theorem Told.not_over {signs : List Sign} {phase : Phase} (h : Told signs phase)
    (hphase : phase.isOver = false) :
    AreUsual .draining signs := by
  cases phase with
  | serving => exact h
  | draining => exact h
  | closing => cases hphase
  | stopped => cases hphase

/-- From then on it is seen that the server stops and that the pool closes, both once, and requests
are seen only before. -/
theorem Told.over {signs : List Sign} {phase : Phase} (h : Told signs phase)
    (hphase : phase.isOver = true) :
    ∃ before after, signs = before ++ .event stoppingEvent :: .closing :: after ∧
      AreUsual .draining before ∧
      ∀ sign ∈ after, sign ≠ .event stoppingEvent ∧ sign ≠ .closing ∧ sign.isBusy = false := by
  have husual {phase : Phase} (hphase : phase.isOver = true) {signs : List Sign}
      (h : AreUsual phase signs) :
      ∀ sign ∈ signs, sign ≠ .event stoppingEvent ∧ sign ≠ .closing ∧ sign.isBusy = false := by
    intro sign hsign
    refine ⟨?_, ?_, (h sign hsign).2 hphase⟩
    · rintro rfl
      exact h.not_mem (by decide) hsign
    · rintro rfl
      exact h.not_mem (by decide) hsign
  cases phase with
  | serving => cases hphase
  | draining => cases hphase
  | closing =>
    obtain ⟨before, after, rfl, hbefore, hafter⟩ := h
    exact ⟨before, after, rfl, hbefore, husual rfl hafter⟩
  | stopped =>
    obtain ⟨before, between, after, rfl, hbefore, hbetween, hafter⟩ := h
    refine ⟨before, _, rfl, hbefore, ?_⟩
    have hclosed : Factory.poolClosedEvent ≠ stoppingEvent := by decide
    simp only [List.forall_mem_append, List.forall_mem_cons]
    exact ⟨husual rfl hbetween, ⟨by simp [hclosed], nofun, rfl⟩, ⟨nofun, nofun, rfl⟩,
      husual rfl hafter⟩

/-- That serving returns is seen at the very end, once, when the pool is closed. -/
theorem Told.returned {signs : List Sign} {phase : Phase} (h : Told signs phase)
    (hreturned : .returned ∈ signs) :
    phase = .stopped ∧ ∃ before after, signs = before ++ .event Factory.poolClosedEvent ::
    .returned :: after ∧
      .closing ∈ before ∧ .event Factory.poolClosedEvent ∉ before ++ after ∧
      .returned ∉ before ++ after := by
  cases phase with
  | serving => exact absurd hreturned (AreUsual.not_mem h (by decide))
  | draining => exact absurd hreturned (AreUsual.not_mem h (by decide))
  | closing =>
    obtain ⟨before, after, rfl, hbefore, hafter⟩ := h
    have hnot : .returned ∉ before := hbefore.not_mem (by decide)
    have hnot' : .returned ∉ after := hafter.not_mem (by decide)
    simp [hnot, hnot'] at hreturned
  | stopped =>
    obtain ⟨before, between, after, rfl, hbefore, hbetween, hafter⟩ := h
    refine ⟨rfl, before ++ .event stoppingEvent :: .closing :: between, after, by simp,
      by simp, ?_, ?_⟩
    · have hne : Factory.poolClosedEvent ≠ stoppingEvent := by decide
      simp [hne, hbefore.not_mem, hbetween.not_mem, hafter.not_mem, Sign.isLast]
    · simp [hbefore.not_mem, hbetween.not_mem, hafter.not_mem, Sign.isLast]

theorem areUsual_nil (phase : Phase) : AreUsual phase [] := by
  intro sign hsign
  cases hsign

theorem isLast_event {event : Event} (hstopping : event ≠ stoppingEvent)
    (hclosed : event ≠ Factory.poolClosedEvent) :
    Sign.isLast (.event event) = false := by
  simp [Sign.isLast, hstopping, hclosed]

theorem areUsual_sessionEvents (phase : Phase) {events : List Event}
    (h : ∀ event ∈ events, Factory.IsSessionEvent event) : AreUsual phase (events.map .event) := by
  intro sign hsign
  obtain ⟨event, hevent, rfl⟩ := List.mem_map.mp hsign
  refine ⟨?_, fun _ => rfl⟩
  rcases h event hevent with ⟨id, rfl⟩ | ⟨id, elapsed, rfl⟩ | ⟨shortage, rfl⟩ | ⟨fault, rfl⟩
  · exact isLast_event (by simp [Factory.openedEvent, stoppingEvent])
      (by simp [Factory.openedEvent, Factory.poolClosedEvent])
  · exact isLast_event (by simp [Factory.closedEvent, stoppingEvent])
      (by simp [Factory.closedEvent, Factory.poolClosedEvent])
  · exact isLast_event (by simp [Factory.shortageEvent, stoppingEvent])
      (by simp [Factory.shortageEvent, Factory.poolClosedEvent])
  · exact isLast_event (by simp [Factory.unavailableEvent, stoppingEvent])
      (by simp [Factory.unavailableEvent, Factory.poolClosedEvent])

theorem areUsual_opened (settings : Settings) (factory : Factory) (address : String) :
    AreUsual .serving (Server.opened settings factory address).2 := by
  intro sign hsign
  refine ⟨?_, fun hover => by cases hover⟩
  rcases List.mem_cons.mp hsign with rfl | hmem
  · exact isLast_event (by simp [startingEvent, stoppingEvent])
      (by simp [startingEvent, Factory.poolClosedEvent])
  · obtain ⟨event, hevent, rfl⟩ := List.mem_map.mp hmem
    obtain ⟨origin, -, horigin⟩ := List.mem_filterMap.mp hevent
    obtain ⟨skip, -, rfl⟩ := Option.map_eq_some_iff.mp horigin
    cases skip <;> exact isLast_event (by simp [Skip.event, stoppingEvent])
      (by simp [Skip.event, Factory.poolClosedEvent])

namespace Server

/-! ## What holds after every move -/

/-- A server and all that has been seen of it. -/
structure Sound (settings : Settings) (server : Server) (signs : List Sign) : Prop where
  site : server.site = settings.site
  told : Told signs server.phase
  closed : server.factory.isClosed = server.phase.isOver
  left : server.phase.isOver = true → server.connections = []
  released : server.phase = .stopped → server.factory.live = []
  tied : ∀ exchange ∈ server.underWay, exchange.connection ∈ server.connections
  bounded : ∀ exchange ∈ server.underWay, exchange.id < server.asked
  distinct : (server.underWay.map (·.id)).Nodup
  /-- A request is under way, or it was answered, or its peer has hung up. -/
  settled : ∀ id request, .started id request ∈ signs →
    (∃ exchange ∈ server.underWay, exchange.id = id ∧ exchange.request = request) ∨
      .answered id (settings.site.respond request) ∈ signs ∨ .dropped id ∈ signs
  /-- No request was refused for the pool being closed. -/
  served : ∀ id, .attempted id (.failed closedFault) ∉ signs

theorem sound_opened (settings : Settings) {factory : Factory} (hopen : factory.isClosed = false)
    (address : String) :
    Sound settings (opened settings factory address).1 (opened settings factory address).2 := by
  have hnone (sign : Sign) (hsign : sign.isBusy = true) :
      sign ∉ (opened settings factory address).2 := by
    intro hmem
    rcases List.mem_cons.mp hmem with rfl | hmem
    · cases hsign
    · obtain ⟨event, -, rfl⟩ := List.mem_map.mp hmem
      cases hsign
  refine ⟨rfl, (areUsual_opened settings factory address).draining, hopen, nofun, nofun,
    nofun, nofun, List.nodup_nil, ?_, ?_⟩
  · intro id request hmem
    exact absurd hmem (hnone _ rfl)
  · exact fun id => hnone _ rfl

variable {settings : Settings} {server : Server} {signs : List Sign}

/-- Nothing is under way once the pool is closed. -/
theorem Sound.not_over (h : Sound settings server signs) {exchange : Exchange}
    (hexchange : exchange ∈ server.underWay) :
    server.phase.isOver = false := by
  rw [Bool.eq_false_iff]
  intro hover
  have hconnection := h.tied exchange hexchange
  rw [h.left hover] at hconnection
  cases hconnection

theorem Sound.settled_append (h : Sound settings server signs) {more : List Sign}
    (hstarted : ∀ id request, .started id request ∉ more) {id : Nat} {request : Request}
    (hmem : .started id request ∈ signs ++ more) :
    (∃ exchange ∈ server.underWay, exchange.id = id ∧ exchange.request = request) ∨
      .answered id (settings.site.respond request) ∈ signs ++ more ∨
      .dropped id ∈ signs ++ more := by
  rcases List.mem_append.mp hmem with hmem | hmem
  · rcases h.settled id request hmem with hunder | hanswered | hdropped
    · exact Or.inl hunder
    · exact Or.inr (Or.inl (List.mem_append_left more hanswered))
    · exact Or.inr (Or.inr (List.mem_append_left more hdropped))
  · exact absurd hmem (hstarted id request)

theorem Sound.served_append (h : Sound settings server signs) {more : List Sign}
    (hserved : ∀ id, .attempted id (.failed closedFault) ∉ more) (id : Nat) :
    .attempted id (.failed closedFault) ∉ signs ++ more := by
  intro hmem
  rcases List.mem_append.mp hmem with hmem | hmem
  · exact h.served id hmem
  · exact hserved id hmem

/-- More is seen, and no request starts. -/
theorem Sound.append (h : Sound settings server signs) {more : List Sign}
    (husual : AreUsual server.phase more) (hstarted : ∀ id request, .started id request ∉ more)
    (hserved : ∀ id, .attempted id (.failed closedFault) ∉ more) :
    Sound settings server (signs ++ more) :=
  { h with
    told := h.told.append husual
    settled := fun _ _ => h.settled_append hstarted
    served := h.served_append hserved }

theorem Sound.append_nil (h : Sound settings server signs) : Sound settings server (signs ++ []) :=
  h.append (areUsual_nil _) (by simp) (by simp)

/-- Events of sessions are seen. -/
theorem Sound.append_events (h : Sound settings server signs) {events : List Event}
    (hevents : ∀ event ∈ events, Factory.IsSessionEvent event) :
    Sound settings server (signs ++ events.map .event) :=
  h.append (areUsual_sessionEvents _ hevents) (by simp) (by simp)

theorem areUsual_busy {phase : Phase} (hphase : phase.isOver = false) {more : List Sign}
    (h : ∀ sign ∈ more, sign.isBusy = true) : AreUsual phase more := by
  intro sign hsign
  refine ⟨?_, fun hover => by rw [hphase] at hover; cases hover⟩
  have hbusy := h sign hsign
  cases sign <;> first | rfl | cases hbusy

theorem Sound.connect (h : Sound settings server signs) :
    Sound settings server.connect.1 (signs ++ server.connect.2) := by
  unfold Server.connect
  split
  · rename_i hserving
    have hphase : server.phase.isOver = false := by rw [hserving]; rfl
    have hseen : Sound settings server (signs ++ [.accepted server.accepted]) :=
      h.append (areUsual_busy hphase (by simp [Sign.isBusy])) (by simp) (by simp)
    refine { hseen with left := fun hover => ?_, tied := fun exchange hexchange => ?_ }
    · exact absurd (hphase.symm.trans hover) Bool.false_ne_true
    · exact List.mem_cons_of_mem _ (h.tied exchange hexchange)
  · exact h.append (by simp [AreUsual, Sign.isLast, Sign.isBusy]) (by simp) (by simp)

theorem Sound.ask (h : Sound settings server signs) (connection : Nat) (request : Request) :
    Sound settings (server.ask connection request).1
      (signs ++ (server.ask connection request).2) := by
  unfold Server.ask
  split
  · rename_i hconnection
    have hphase : server.phase.isOver = false := by
      rw [Bool.eq_false_iff]
      intro hover
      rw [h.left hover] at hconnection
      cases hconnection
    refine { h with
      told := h.told.append (areUsual_busy hphase (by simp [Sign.isBusy]))
      tied := ?_, bounded := ?_, distinct := ?_, settled := ?_
      served := h.served_append (by simp) }
    · simpa using ⟨hconnection, h.tied⟩
    · intro exchange hexchange
      rcases List.mem_cons.mp hexchange with rfl | hmem
      · exact Nat.lt_succ_self _
      · exact Nat.lt_succ_of_lt (h.bounded exchange hmem)
    · rw [List.map_cons, List.nodup_cons]
      refine ⟨fun hmem => ?_, h.distinct⟩
      obtain ⟨exchange, hexchange, heq⟩ := List.mem_map.mp hmem
      have hlt := h.bounded exchange hexchange
      dsimp only at heq
      omega
    · intro id other hmem
      rcases List.mem_append.mp hmem with hmem | hmem
      · rcases h.settled id other hmem with ⟨exchange, hexchange, heq⟩ | hanswered | hdropped
        · exact Or.inl ⟨exchange, List.mem_cons_of_mem _ hexchange, heq⟩
        · exact Or.inr (Or.inl (List.mem_append_left _ hanswered))
        · exact Or.inr (Or.inr (List.mem_append_left _ hdropped))
      · cases List.mem_singleton.mp hmem
        exact Or.inl ⟨_, List.mem_cons_self, rfl, rfl⟩
  · exact h.append_nil

/-- The request of a number is the only one under way that has it. -/
theorem Sound.eq_of_exchange? (h : Sound settings server signs) {id : Nat}
    {exchange other : Exchange} (hexchange : server.exchange? id = some exchange)
    (hother : other ∈ server.underWay) (hid : other.id = id) :
    other = exchange := by
  have hmem := List.mem_of_find?_eq_some hexchange
  have hfound := List.find?_some hexchange
  rw [beq_iff_eq] at hfound
  exact List.inj_on_of_nodup_map h.distinct hother hmem (hid.trans hfound.symm)

/-- Requests come to their end: those that are no longer under way are answered or dropped. -/
theorem Sound.finish (h : Sound settings server signs) {more : List Sign} {rest : List Exchange}
    (husual : AreUsual server.phase more) (hsub : rest.Sublist server.underWay)
    (hmore : ∀ sign ∈ more, (∃ id response, sign = .answered id response) ∨
      ∃ id, sign = .dropped id)
    (hended : ∀ exchange ∈ server.underWay, exchange ∈ rest ∨
      .answered exchange.id (settings.site.respond exchange.request) ∈ more ∨
      .dropped exchange.id ∈ more) :
    Sound settings { server with underWay := rest } (signs ++ more) := by
  refine { h with
    told := h.told.append husual
    tied := fun exchange hexchange => h.tied exchange (hsub.subset hexchange)
    bounded := fun exchange hexchange => h.bounded exchange (hsub.subset hexchange)
    distinct := h.distinct.sublist (hsub.map _), settled := fun id request hmem => ?_
    served := h.served_append fun id hmem => ?_ }
  · have hstarted (id : Nat) (request : Request) : .started id request ∉ more := by
      intro hmem
      rcases hmore _ hmem with ⟨_, _, heq⟩ | ⟨_, heq⟩ <;> cases heq
    rcases h.settled_append hstarted hmem with ⟨exchange, hexchange, rfl, rfl⟩ | hended'
    · rcases hended exchange hexchange with hrest | hanswered | hdropped
      · exact Or.inl ⟨exchange, hrest, rfl, rfl⟩
      · exact Or.inr (Or.inl (List.mem_append_right _ hanswered))
      · exact Or.inr (Or.inr (List.mem_append_right _ hdropped))
    · exact Or.inr hended'
  · rcases hmore _ hmem with ⟨_, _, heq⟩ | ⟨_, heq⟩ <;> cases heq

theorem Sound.answer (h : Sound settings server signs) (id : Nat) :
    Sound settings (server.answer id).1 (signs ++ (server.answer id).2) := by
  unfold Server.answer
  split
  · exact h.append_nil
  · rename_i exchange hexchange
    have hphase := h.not_over (List.mem_of_find?_eq_some hexchange)
    refine h.finish (areUsual_busy hphase (by simp [Sign.isBusy])) List.filter_sublist ?_ ?_
    · intro sign hsign
      exact Or.inl ⟨id, _, List.mem_singleton.mp hsign⟩
    · intro other hother
      by_cases hid : other.id = id
      · have heq := h.eq_of_exchange? hexchange hother hid
        rw [hid, heq, ← h.site]
        exact Or.inr (Or.inl (List.mem_singleton_self _))
      · exact Or.inl (List.mem_filter.mpr ⟨hother, by simpa using hid⟩)

theorem Sound.leave (h : Sound settings server signs) (connection : Nat) :
    Sound settings (server.leave connection).1 (signs ++ (server.leave connection).2) := by
  unfold Server.leave
  split
  · exact h.append_nil
  · rename_i hidle
    refine { h.append_nil with left := fun hover => ?_, tied := fun exchange hexchange => ?_ }
    · dsimp only
      rw [h.left hover]
      rfl
    · rw [List.any_eq_true] at hidle
      refine List.mem_filter.mpr ⟨h.tied exchange hexchange, ?_⟩
      rw [bne_iff_ne]
      exact fun heq => hidle ⟨exchange, hexchange, by simpa using heq⟩

theorem Sound.hangUp (h : Sound settings server signs) (connection : Nat) :
    Sound settings (server.hangUp connection).1 (signs ++ (server.hangUp connection).2) := by
  unfold Server.hangUp
  have hseen :
      Sound settings { server with underWay := server.underWay.filter (·.connection != connection) }
      (signs ++ (server.underWay.filter (·.connection == connection)).map fun exchange =>
          .dropped exchange.id) := by
    refine h.finish (fun sign hsign => ?_) List.filter_sublist (fun sign hsign => ?_)
      fun exchange hexchange => ?_
    · obtain ⟨exchange, hexchange, rfl⟩ := List.mem_map.mp hsign
      refine ⟨rfl, fun hover => ?_⟩
      rw [h.not_over (List.mem_filter.mp hexchange).1] at hover
      cases hover
    · obtain ⟨exchange, -, rfl⟩ := List.mem_map.mp hsign
      exact Or.inr ⟨exchange.id, rfl⟩
    · by_cases hon : exchange.connection = connection
      · refine Or.inr
          (Or.inr (List.mem_map.mpr ⟨exchange, List.mem_filter.mpr ⟨hexchange, ?_⟩, rfl⟩))
        simpa using hon
      · exact Or.inl (List.mem_filter.mpr ⟨hexchange, by simpa using hon⟩)
  refine { hseen with left := fun hover => ?_, tied := fun exchange hexchange => ?_ }
  · dsimp only
    rw [h.left hover]
    rfl
  · obtain ⟨hmem, hother⟩ := List.mem_filter.mp hexchange
    exact List.mem_filter.mpr ⟨h.tied exchange hmem, hother⟩

theorem Sound.acquire (h : Sound settings server signs) (id : Nat) (now : Conditions) :
    Sound settings (server.acquire id now).1 (signs ++ (server.acquire id now).2) := by
  unfold Server.acquire
  split
  · exact h.append_nil
  · rename_i exchange hexchange
    have hphase := h.not_over (List.mem_of_find?_eq_some hexchange)
    have hopen : server.factory.isClosed = false := h.closed.trans hphase
    have hkept := Factory.isClosed_acquireForRequest server.factory now
    have hevents := Factory.isSessionEvent_acquireForRequest server.factory now
    have hserved (fault : Session.Fault) :=
      @Factory.acquireForRequest_ne_closedFault server.factory now hopen fault
    generalize server.factory.acquireForRequest now = result at hkept hevents hserved ⊢
    obtain ⟨factory, attempt, events⟩ := result
    dsimp only at hkept hevents hserved ⊢
    rw [← List.append_assoc]
    have hseen : Sound settings server (signs ++ events.map .event ++ [.attempted id attempt]) := by
      refine (h.append_events hevents).append (areUsual_busy hphase (by simp [Sign.isBusy]))
        (by simp) fun other hmem => ?_
      cases List.mem_singleton.mp hmem
      exact hserved closedFault rfl rfl
    refine { hseen with closed := hkept.trans h.closed, released := fun hstopped => ?_ }
    dsimp only at hstopped
    rw [hstopped] at hphase
    cases hphase

theorem Sound.release (h : Sound settings server signs) (session clock : Nat) :
    Sound settings (server.release session clock).1
      (signs ++ (server.release session clock).2) := by
  unfold Server.release
  obtain ⟨hkept, hlive⟩ := Factory.release_fst server.factory session clock
  have hevents := Factory.isSessionEvent_release server.factory session clock
  generalize server.factory.release session clock = result at hkept hlive hevents ⊢
  obtain ⟨factory, events⟩ := result
  dsimp only at hkept hlive hevents ⊢
  refine { h.append_events hevents with
    closed := hkept.trans h.closed, released := fun hstopped => ?_ }
  dsimp only at hstopped ⊢
  rw [hlive, h.released hstopped]
  rfl

theorem Sound.shutdown (h : Sound settings server signs) :
    Sound settings server.shutdown.1 (signs ++ server.shutdown.2) := by
  unfold Server.shutdown
  split
  · rename_i hserving
    have htold := h.append_nil.told
    have hclosed := h.closed
    rw [hserving] at htold hclosed
    exact { h.append_nil with told := htold, closed := hclosed, left := nofun, released := nofun }
  · exact h.append_nil

theorem Sound.settle (h : Sound settings server signs) :
    Sound settings server.settle.1 (signs ++ server.settle.2) := by
  have htold := h.told
  unfold Server.settle
  split
  · rename_i hdraining
    rw [hdraining] at htold
    split
    · rename_i hidle
      refine { h with
        told := ⟨signs, [], rfl, htold, areUsual_nil _⟩
        closed := rfl, left := fun _ => List.isEmpty_iff.mp hidle, released := nofun
        settled := fun _ _ => h.settled_append (by simp), served := h.served_append (by simp) }
    · exact h.append_nil
  · rename_i hclosing
    rw [hclosing] at htold
    split
    · rename_i hdrained
      obtain ⟨before, after, rfl, hbefore, hafter⟩ := htold
      refine { h with
        told := ⟨before, after, [], by simp, hbefore, hafter, areUsual_nil _⟩
        closed := ?_, left := fun _ => h.left ?_, released := fun _ => List.isEmpty_iff.mp hdrained
        settled := fun _ _ => h.settled_append (by simp), served := h.served_append (by simp) }
      · rw [h.closed, hclosing]
        rfl
      · rw [hclosing]
        rfl
    · exact h.append_nil
  · exact h.append_nil

/-- Every move keeps what holds. -/
theorem Sound.step (h : Sound settings server signs) (move : Move) :
    Sound settings (server.step move).1 (signs ++ (server.step move).2) := by
  cases move with
  | connect => exact h.connect
  | ask connection request => exact h.ask connection request
  | answer id => exact h.answer id
  | leave connection => exact h.leave connection
  | hangUp connection => exact h.hangUp connection
  | acquire id now => exact h.acquire id now
  | release session clock => exact h.release session clock
  | shutdown => exact h.shutdown
  | settle => exact h.settle

theorem Sound.steps (h : Sound settings server signs) (moves : List Move) :
    Sound settings (server.steps moves).1 (signs ++ (server.steps moves).2) := by
  induction moves generalizing server signs with
  | nil => exact h.append_nil
  | cons move rest ih =>
    rw [Server.steps, ← List.append_assoc]
    exact ih (h.step move)

/-! ## What a move can do -/

/-- Only a server that serves accepts connections, which it does not begin to do again, and only a
peer that hangs up drops requests. -/
theorem step_spec (server : Server) (move : Move) :
    (server.phase ≠ .serving → (server.step move).1.phase ≠ .serving) ∧
      (∀ connection, .accepted connection ∈ (server.step move).2 → server.phase = .serving) ∧
      ∀ id, .dropped id ∈ (server.step move).2 → ∃ connection, move = .hangUp connection := by
  cases move with
  | connect =>
    simp only [Server.step, Server.connect]
    split <;> simp_all
  | ask connection request =>
    simp only [Server.step, Server.ask]
    split <;> simp
  | answer id =>
    simp only [Server.step, Server.answer]
    split <;> simp
  | leave connection =>
    simp only [Server.step, Server.leave]
    split <;> simp
  | hangUp connection => simp [Server.step, Server.hangUp]
  | acquire id now =>
    simp only [Server.step, Server.acquire]
    split <;> simp
  | release session clock => simp [Server.step, Server.release]
  | shutdown =>
    simp only [Server.step, Server.shutdown]
    split <;> simp
  | settle =>
    simp only [Server.step, Server.settle]
    split
    · split <;> simp
    · split <;> simp
    · simp

theorem not_accepted {server : Server} (h : server.phase ≠ .serving) (moves : List Move)
    (connection : Nat) :
    .accepted connection ∉ (server.steps moves).2 := by
  induction moves generalizing server with
  | nil => simp [Server.steps]
  | cons move rest ih =>
    obtain ⟨hphase, haccepted, -⟩ := step_spec server move
    rw [Server.steps, List.mem_append, not_or]
    exact ⟨fun hmem => h (haccepted connection hmem), ih (hphase h)⟩

theorem not_dropped {server : Server} {moves : List Move}
    (h : ∀ connection, .hangUp connection ∉ moves) (id : Nat) :
    .dropped id ∉ (server.steps moves).2 := by
  induction moves generalizing server with
  | nil => simp [Server.steps]
  | cons move rest ih =>
    rw [Server.steps, List.mem_append, not_or]
    refine ⟨fun hdropped => ?_,
      ih fun connection hmem => h connection (List.mem_cons_of_mem _ hmem)⟩
    obtain ⟨connection, rfl⟩ := (step_spec server move).2.2 id hdropped
    exact h connection List.mem_cons_self

theorem phase_shutdown (server : Server) : server.shutdown.1.phase ≠ .serving := by
  unfold Server.shutdown
  split
  · simp
  · assumption

theorem steps_append (server : Server) (moves later : List Move) :
    server.steps (moves ++ later) =
      (((server.steps moves).1.steps later).1,
        (server.steps moves).2 ++ ((server.steps moves).1.steps later).2) := by
  induction moves generalizing server with
  | nil => rfl
  | cons move rest ih => simp only [List.cons_append, Server.steps, ih, List.append_assoc]

/-! ## Coming to the end -/

/-- Some moves lead to the end, and nobody hangs up on the way. -/
def CanStop (server : Server) : Prop :=
  ∃ moves, (∀ connection, .hangUp connection ∉ moves) ∧ (server.steps moves).1.phase = .stopped

/-- One more move on the way, which is not to hang up. -/
theorem CanStop.before {server : Server} (move : Move)
    (hpatient : ∀ connection, move ≠ .hangUp connection) (h : CanStop (server.step move).1) :
    CanStop server := by
  obtain ⟨moves, hmoves, hstopped⟩ := h
  refine ⟨move :: moves, fun connection hmem => ?_, hstopped⟩
  rcases List.mem_cons.mp hmem with heq | hmem
  · exact hpatient connection heq.symm
  · exact hmoves connection hmem

theorem length_filter_lt {α : Type} {p : α → Bool} {first : α} (hfirst : p first = false)
    (rest : List α) :
    ((first :: rest).filter p).length < (first :: rest).length := by
  rw [List.filter_cons_of_neg (by simp [hfirst]), List.length_cons]
  exact Nat.lt_succ_of_le (List.length_filter_le p rest)

/-- While the pool closes, the sessions are released one after another. -/
theorem canStop_of_closing {server : Server} (h : server.phase = .closing) : CanStop server := by
  induction hlength : server.factory.live.length using Nat.strongRecOn generalizing server with
  | ind n ih =>
    cases hlive : server.factory.live with
    | nil =>
      refine ⟨[.settle], by simp, ?_⟩
      simp [Server.steps, Server.step, Server.settle, h, Factory.isDrained, hlive]
    | cons live rest =>
      refine CanStop.before (.release live.number 0) (by simp) (ih _ ?_ h rfl)
      have hreleased := (Factory.release_fst server.factory live.number 0).2
      rw [← hlength]
      simp only [Server.step, Server.release, hreleased, hlive]
      exact length_filter_lt (by simp) rest

/-- While the server drains, the requests under way are answered, and then the connections are
closed. -/
theorem canStop_of_draining {server : Server} (h : server.phase = .draining) : CanStop server := by
  induction hlength : server.underWay.length + server.connections.length
    using Nat.strongRecOn generalizing server with
  | ind n ih =>
    cases hunder : server.underWay with
    | cons exchange rest =>
      have hfind : server.exchange? exchange.id = some exchange := by simp [exchange?, hunder]
      refine CanStop.before (.answer exchange.id) (by simp) (ih _ ?_ ?_ rfl)
      · have hlt : ((exchange :: rest).filter (·.id != exchange.id)).length <
            (exchange :: rest).length :=
          length_filter_lt (by simp) rest
        rw [← hlength]
        simp only [Server.step, Server.answer, hfind, hunder]
        omega
      · simp only [Server.step, Server.answer, hfind]
        exact h
    | nil =>
      cases hconnections : server.connections with
      | cons connection rest =>
        refine CanStop.before (.leave connection) (by simp) (ih _ ?_ ?_ rfl)
        · have hlt : ((connection :: rest).filter (· != connection)).length <
              (connection :: rest).length :=
            length_filter_lt (by simp) rest
          rw [← hlength]
          simp only [Server.step, Server.leave, hunder, hconnections, List.any_nil,
            Bool.false_eq_true, if_false, List.length_nil]
          omega
        · simp [Server.step, Server.leave, hunder, h]
      | nil =>
        refine CanStop.before .settle (by simp) (canStop_of_closing ?_)
        simp [Server.step, Server.settle, h, hconnections]

theorem canStop (server : Server) : CanStop server := by
  cases hphase : server.phase with
  | serving =>
    refine CanStop.before .shutdown (by simp) (canStop_of_draining ?_)
    simp [Server.step, Server.shutdown, hphase]
  | draining => exact canStop_of_draining hphase
  | closing => exact canStop_of_closing hphase
  | stopped => exact ⟨[], by simp, hphase⟩

end Server

/-! ## Serving -/

/-- The order of what is seen of a server. -/
structure IsOrderly (settings : Settings) (address : String) (server : Server)
    (signs : List Sign) : Prop where
  /-- The first thing is that the server starts. -/
  starts : ∃ rest, signs = .event (startingEvent settings address) :: rest
  /-- When the server says that it stops, all requests have had their response, unless their peer
  was gone, and then the pool closes, once. -/
  stops : .event stoppingEvent ∈ signs → ∃ before after,
    signs = before ++ .event stoppingEvent :: .closing :: after ∧
      .event stoppingEvent ∉ before ++ after ∧ .closing ∉ before ++ after ∧
      ∀ id request, .started id request ∈ signs → .started id request ∈ before ∧
        (.answered id (settings.site.respond request) ∈ before ∨ .dropped id ∈ before)
  closes : .closing ∈ signs ↔ .event stoppingEvent ∈ signs
  closed : server.factory.isClosed = true ↔ .closing ∈ signs
  /-- No request meets a closed pool. -/
  opens : server.underWay ≠ [] → server.factory.isClosed = false
  served : ∀ id, .attempted id (.failed closedFault) ∉ signs
  /-- Serving returns when the pool is closed, once. -/
  returns : .returned ∈ signs → server.factory.isClosed = true ∧ server.factory.live = [] ∧
    ∃ before after, signs = before ++ .event Factory.poolClosedEvent :: .returned :: after ∧
      .closing ∈ before ∧ .event Factory.poolClosedEvent ∉ before ++ after ∧
        .returned ∉ before ++ after

namespace Server.Sound

variable {settings : Settings} {server : Server} {signs : List Sign}
    (h : Sound settings server signs)
include h

/-- The pool is closed when it has been seen to close, which is when the server was seen to stop. -/
theorem mem_iff_over : (.event stoppingEvent ∈ signs ↔ server.phase.isOver = true) ∧
    (.closing ∈ signs ↔ server.phase.isOver = true) := by
  cases hover : server.phase.isOver with
  | false =>
    have husual := h.told.not_over hover
    have hstopping : .event stoppingEvent ∉ signs := husual.not_mem (by decide)
    have hclosing : .closing ∉ signs := husual.not_mem (by decide)
    simp [hstopping, hclosing]
  | true =>
    obtain ⟨before, after, rfl, -⟩ := h.told.over hover
    simp

theorem stops (hover : server.phase.isOver = true) : ∃ before after,
    signs = before ++ .event stoppingEvent :: .closing :: after ∧
      .event stoppingEvent ∉ before ++ after ∧ .closing ∉ before ++ after ∧
      ∀ id request, .started id request ∈ signs → .started id request ∈ before ∧
        (.answered id (settings.site.respond request) ∈ before ∨ .dropped id ∈ before) := by
  obtain ⟨before, after, hsigns, hbefore, hafter⟩ := h.told.over hover
  have hbusy {sign : Sign} (hmem : sign ∈ signs) (hbusy : sign.isBusy = true) : sign ∈ before := by
    rw [hsigns, List.mem_append, List.mem_cons, List.mem_cons] at hmem
    rcases hmem with hmem | rfl | rfl | hmem
    · exact hmem
    · cases hbusy
    · cases hbusy
    · rw [(hafter sign hmem).2.2] at hbusy
      cases hbusy
  refine ⟨before, after, hsigns, ?_, ?_, fun id request hstarted => ⟨hbusy hstarted rfl, ?_⟩⟩
  · rw [List.mem_append, not_or]
    exact ⟨hbefore.not_mem (by decide), fun hmem => (hafter _ hmem).1 rfl⟩
  · rw [List.mem_append, not_or]
    exact ⟨hbefore.not_mem (by decide), fun hmem => (hafter _ hmem).2.1 rfl⟩
  · rcases h.settled id request hstarted with ⟨exchange, hexchange, -⟩ | hanswered | hdropped
    · rw [h.not_over hexchange] at hover
      cases hover
    · exact Or.inl (hbusy hanswered rfl)
    · exact Or.inr (hbusy hdropped rfl)

theorem isOrderly {address : String}
    (hstarts : ∃ rest, signs = .event (startingEvent settings address) :: rest) :
    IsOrderly settings address server signs := by
  obtain ⟨hstopping, hclosing⟩ := h.mem_iff_over
  refine ⟨hstarts, fun hmem => h.stops (hstopping.mp hmem), hclosing.trans hstopping.symm, ?_,
    fun hunder => ?_, h.served, fun hreturned => ?_⟩
  · rw [h.closed, hclosing]
  · obtain ⟨exchange, hexchange⟩ := List.exists_mem_of_ne_nil _ hunder
    rw [h.closed, h.not_over hexchange]
  · obtain ⟨hstopped, hrest⟩ := h.told.returned hreturned
    refine ⟨?_, h.released hstopped, hrest⟩
    rw [h.closed, hstopped]
    rfl

end Server.Sound

theorem serve_ok {ε : Type} (settings : Settings) (factory : Factory) (address : String)
    (moves : List Move) :
    serve settings factory (.ok address : Except ε String) moves =
      .ok (((Server.opened settings factory address).1.steps moves).1,
        (Server.opened settings factory address).2 ++
        ((Server.opened settings factory address).1.steps moves).2) := rfl

/-- More moves after those of a run go on with it. -/
theorem serve_append {ε : Type} {settings : Settings} {factory : Factory} {address : String}
    {moves : List Move} {server : Server} {signs : List Sign}
    (h : serve settings factory (.ok address : Except ε String) moves = .ok (server, signs))
    (later : List Move) :
    serve settings factory (.ok address : Except ε String) (moves ++ later) =
      .ok ((server.steps later).1, signs ++ (server.steps later).2) := by
  rw [serve_ok, Except.ok.injEq, Prod.mk.injEq] at h
  obtain ⟨rfl, rfl⟩ := h
  rw [serve_ok, Server.steps_append]
  simp only [List.append_assoc]

/-- Whatever connections and requests come, and whenever the server is told to stop: it says first
that it starts, accepts nothing after it was told to stop, and says that it stops when every request
has had its response, but for those whose peer hung up. Only then the pool is closed, so that no
request meets a closed one, and serving returns when it is closed. It can always come to that.
Without an address nothing is served. -/
theorem serving_ends_in_order {ε : Type} (settings : Settings) {factory : Factory}
    (hopen : factory.isClosed = false) (moves : List Move) :
    (∀ fault : ε, serve settings factory (.error fault) moves = .error fault) ∧
      ∀ address, ∃ server signs, serve settings factory (.ok address : Except ε String) moves =
        .ok (server, signs) ∧
        IsOrderly settings address server signs ∧
        ((∀ connection, .hangUp connection ∉ moves) → ∀ id, .dropped id ∉ signs) ∧
        (∀ later, ∃ server' more,
          serve settings factory (.ok address : Except ε String) (moves ++ .shutdown :: later) =
            .ok (server', signs ++ more) ∧ ∀ connection, .accepted connection ∉ more) ∧
        ∃ later server' more, (∀ connection, .hangUp connection ∉ later) ∧
          serve settings factory (.ok address : Except ε String) (moves ++ later) =
          .ok (server', signs ++ more) ∧
          .returned ∈ signs ++ more := by
  refine ⟨fun fault => rfl, fun address => ⟨_, _, serve_ok settings factory address moves, ?_⟩⟩
  have hsound := (Server.sound_opened settings hopen address).steps moves
  refine ⟨hsound.isOrderly ⟨_, rfl⟩, fun hpatient id hmem => ?_, fun later => ?_, ?_⟩
  · rcases List.mem_append.mp hmem with hmem | hmem
    · simp [Server.opened] at hmem
    · exact Server.not_dropped hpatient id hmem
  · refine ⟨_, _, serve_append (serve_ok settings factory address moves) _,
      fun connection hmem => ?_⟩
    exact Server.not_accepted (Server.phase_shutdown _) later connection hmem
  · obtain ⟨later, hpatient, hstopped⟩ :=
      Server.canStop ((Server.opened settings factory address).1.steps moves).1
    refine ⟨later, _, _, hpatient, serve_append (serve_ok settings factory address moves) _, ?_⟩
    have htold := (hsound.steps later).told
    rw [hstopped] at htold
    obtain ⟨before, between, after, hsigns, -⟩ := htold
    rw [hsigns]
    simp

/-- A pool without sessions. -/
def freshPool : Factory := ⟨⟨"", 1, 1000, false⟩, .usual "postgres", [], 0, false, 0, 0⟩

/-- A request that is under way when the server is told to stop has its response before the server
says that it stops. -/
theorem a_request_under_way_is_answered :
    let request : Request := ⟨"GET", "/", [], []⟩
    let moves : List Move :=
      [.connect, .ask 0 request, .shutdown, .settle, .connect, .answer 0, .leave 0,
        .settle, .settle]
    ∃ settings server signs, Settings.ofShelf ⟨id, id⟩ (fun _ => none) [] = .ok settings ∧
      serve settings freshPool (.ok "[::]:8000" : Except Unit String) moves = .ok (server, signs) ∧
      server.phase = .stopped ∧
      ∃ before after, signs = before ++ .event stoppingEvent :: .closing :: after ∧
        .answered 0 (settings.site.respond request) ∈ before := by
  intro request moves
  obtain ⟨settings, hload⟩ := exists_of_isOk (Settings.isOk_defaults ⟨id, id⟩)
  have hopen : freshPool.isClosed = false := rfl
  obtain ⟨server, signs, hserve, horder, hpatient, -⟩ :=
    (serving_ends_in_order settings hopen moves).2 "[::]:8000"
  have hrun : serve settings freshPool (.ok "[::]:8000" : Except Unit String) moves =
      .ok (⟨settings.site, freshPool.beginClose, .stopped, [], [], 1, 1⟩,
        .event (startingEvent settings "[::]:8000") :: settings.siteEvents.map .event ++
          [.accepted 0, .started 0 request, .refused, .answered 0 (settings.site.respond request),
            .event stoppingEvent, .closing, .event Factory.poolClosedEvent, .returned]) := rfl
  rw [hrun, Except.ok.injEq, Prod.mk.injEq] at hserve
  obtain ⟨rfl, rfl⟩ := hserve
  obtain ⟨before, after, hsigns, -, -, hanswered⟩ := horder.stops (by simp)
  refine ⟨settings, _, _, hload, hrun, rfl, before, after, hsigns, ?_⟩
  rcases (hanswered 0 request (by simp)).2 with hmem | hdropped
  · exact hmem
  · refine absurd ?_ (hpatient (by simp [moves]) 0)
    rw [hsigns]
    exact List.mem_append_left _ hdropped

end Chassis.Http
