-- Sessions that are lent to some work. However the work ends, its session is given back: the pool
-- holds the sessions that it held before, and the outcome of the work is handed on, as a scope
-- hands it on.
import Chassis.Proofs.Session.Rounds
import Chassis.Proofs.Session.Uses

namespace Chassis.Session

open Logging (Event)

namespace Factory

variable {f : Factory} {session : Live} {others : List Live}

/-! ## Work with the newest session -/

/-- A query in the newest session can only cut its connection. -/
theorem query_newest (hlive : f.live = session :: others)
    (hnew : ∀ other ∈ others, other.number ≠ session.number) (reply : Reply) :
    ∃ isCut, (f.query session.number reply).1 =
      { f with live := { session with isCut } :: others } := by
  have hsame : f = { f with live := { session with isCut := session.isCut } :: others } := by
    rw [← hlive]
  unfold query
  split
  · exact ⟨_, hsame⟩
  · cases reply with
    | rows count => exact ⟨_, hsame⟩
    | refused text => exact ⟨_, hsame⟩
    | cut =>
      refine ⟨true, ?_⟩
      have hothers : others.map (fun other => if other.number = session.number then
          { other with isCut := true } else other) = others :=
        (List.map_congr_left fun other hother => if_neg (hnew other hother)).trans others.map_id
      simp [hlive, hothers]

/-- So can the whole work. -/
theorem perform_newest (hlive : f.live = session :: others)
    (hnew : ∀ other ∈ others, other.number ≠ session.number) (rows : List Nat) (acts : List Act) :
    ∃ isCut, (f.perform session.number rows acts).1 =
      { f with live := { session with isCut } :: others } := by
  have hsame : f = { f with live := { session with isCut := session.isCut } :: others } := by
    rw [← hlive]
  induction acts generalizing f session rows with
  | nil => exact ⟨_, hsame⟩
  | cons act rest ih =>
    cases act with
    | query reply =>
      obtain ⟨isCut, hquery⟩ := query_newest hlive hnew reply
      unfold perform
      generalize f.query session.number reply = answer at hquery
      obtain ⟨after, result⟩ := answer
      dsimp only at hquery
      subst hquery
      cases result with
      | error fault => exact ⟨isCut, rfl⟩
      | ok count => exact @ih _ { session with isCut } rfl hnew (rows ++ [count]) rfl
    | fail fault => exact ⟨_, hsame⟩
    | reject text => exact ⟨_, hsame⟩
    | crash => exact ⟨_, hsame⟩

/-- The queries of some work are uses of the pool, of which nothing is said. -/
theorem perform_uses (f : Factory) (number : Nat) (rows : List Nat) (acts : List Act) :
    ∃ replies : List Reply, f.uses (replies.map (.query number)) =
      ((f.perform number rows acts).1, []) := by
  induction acts generalizing f rows with
  | nil => exact ⟨[], rfl⟩
  | cons act rest ih =>
    cases act with
    | query reply =>
      unfold perform
      cases hquery : f.query number reply with
      | mk after result =>
        cases result with
        | error fault => exact ⟨[reply], by simp [uses, use, hquery]⟩
        | ok count =>
          obtain ⟨replies, hreplies⟩ := ih after (rows ++ [count])
          exact ⟨reply :: replies, by simp [uses, use, hquery, hreplies]⟩
    | fail fault => exact ⟨[], rfl⟩
    | reject text => exact ⟨[], rfl⟩
    | crash => exact ⟨[], rfl⟩

theorem uses_append (f : Factory) (uses more : List Use) : f.uses (uses ++ more) =
    (((f.uses uses).1.uses more).1, (f.uses uses).2 ++ ((f.uses uses).1.uses more).2) := by
  induction uses generalizing f with
  | nil => simp [Factory.uses]
  | cons use rest ih => simp [Factory.uses, ih, List.append_assoc]

/-- The newest session is released, and no other. -/
theorem release_newest (hlive : f.live = session :: others)
    (hnew : ∀ other ∈ others, other.number ≠ session.number) (clock : Nat) :
    (f.release session.number clock).1.live = others ∧
      (f.release session.number clock).2 = [closedEvent session.id (clock - session.openedAt)] := by
  have hothers : others.filter (·.number != session.number) = others :=
    List.filter_eq_self.mpr fun other hother => by simpa using hnew other hother
  unfold release
  rw [hlive, List.find?_cons_of_pos (by simp)]
  simp [hothers]

/-! ## Lending -/

/-- Lending is an attempt to have a session, queries, and the end of the session. -/
theorem withSession_uses (f : Factory) (now : Conditions) (acts : List Act) (finish : Nat) :
    ∃ uses, drawn uses = [now.id] ∧
      f.uses uses = ((f.withSession now acts finish).1, (f.withSession now acts finish).2.2) := by
  obtain ⟨after, attempt, events, htried⟩ : ∃ after attempt events,
      f.acquire now = (after, attempt, events) :=
    ⟨_, _, _, rfl⟩
  cases attempt with
  | failed fault => exact ⟨[.acquire 0 now], rfl, by simp [Factory.uses, use, withSession, htried]⟩
  | crashed => exact ⟨[.acquire 0 now], rfl, by simp [Factory.uses, use, withSession, htried]⟩
  | session number =>
    obtain ⟨replies, hreplies⟩ := perform_uses after number [] acts
    refine ⟨.acquire 0 now :: (replies.map (.query number) ++ [.close number finish]), ?_, ?_⟩
    · simp [drawn, Use.drawn?]
    · simp [Factory.uses, use, withSession, htried, uses_append, hreplies]

/-- A session that is lent is given back in the end; or there is none. -/
theorem withSession_cases (hearlier : ∀ live ∈ f.live, live.number < f.opened) (now : Conditions)
    (acts : List Act) (finish : Nat) :
    ((f.acquire now).2.1 = .crashed ∧ f.withSession now acts finish = (f, .crashed, [])) ∨
      (∃ shortage : Shortage, (f.acquire now).2.1 = .failed (.connectionFailed shortage.message) ∧
        f.withSession now acts finish =
          (f, .failed (.connectionFailed shortage.message), [shortageEvent shortage])) ∨
      ∃ number after, (f.acquire now).2.1 = .session number ∧ after.live = f.live ∧
        f.withSession now acts finish = (after, ((f.acquire now).1.perform number [] acts).2,
          [openedEvent now.id, closedEvent now.id (finish - now.clock)]) := by
  have htries := tries_acquire f now
  unfold withSession
  generalize f.acquire now = tried at htries ⊢
  obtain ⟨given, attempt, events⟩ := tried
  dsimp only at htries ⊢
  cases htries with
  | crashed hopen => exact Or.inl ⟨rfl, rfl⟩
  | lacking shortage => exact Or.inr (Or.inl ⟨shortage, rfl, rfl⟩)
  | given hopen hroom hconfig hlive hopened =>
    have hnew : ∀ other ∈ f.live, other.number ≠ f.opened :=
      fun other hother => (hearlier other hother).ne
    obtain ⟨isCut, hperform⟩ := perform_newest hlive hnew [] acts
    have hreleased := release_newest (f := (given.perform f.opened [] acts).1)
      (congrArg live hperform) hnew finish
    refine Or.inr (Or.inr ⟨f.opened, _, rfl, hreleased.1, ?_⟩)
    dsimp only
    rw [hreleased.2]
    rfl

/-! ## The scope of some work -/

/-- What the pool answers to a scope that asks for a session. -/
def acquisition (f : Factory) (now : Conditions) : Acquisition :=
  match (f.acquire now).2.1 with
  | .failed fault => .refuse 0 fault
  | _ => .grant 0 0

/-- What comes of work with the session that is acquired, if one is. -/
def workOutcome (f : Factory) (now : Conditions) (acts : List Act) : Outcome :=
  match (f.acquire now).2.1 with
  | .session number => ((f.acquire now).1.perform number [] acts).2
  | .failed fault => .failed fault
  | .crashed => .crashed

/-- The scope that lends a session to some work. -/
def lending (f : Factory) (now : Conditions) (acts : List Act) : Scope :=
  .mk "work" (f.acquisition now) (.stop (.outright (f.workOutcome now acts)))

end Factory

theorem Task.poll_tell {task next : Task} {scope : Nat} {notice : Notice}
    (h : task.step? = some (.tell scope notice, next)) :
    task.poll = (next.poll.1, notice :: next.poll.2) := by
  rw [poll_eq, h]

/-- A scope that has its session at once runs its work, and then the session is released. -/
theorem runScope_granted (name : String) (value : Int) (ending : Ending) :
    runScope (.mk name (.grant 0 value) (.stop ending)) none =
      (some (ending.outcome value), [.acquired name, .started name, .released name value]) := by
  have hpoll : (Task.ofScope (.mk name (.grant 0 value) (.stop ending))).poll =
      (⟨.leaving (ending.outcome value), [], 1⟩,
        [.acquired name, .started name, .released name value]) := by
    refine (Task.poll_tell rfl).trans ?_
    rw [Task.poll_tell rfl, Task.poll_tell rfl, Task.poll_of_outcome? rfl]
    rfl
  unfold runScope
  rw [Option.getD_none, Scope.weight, Work.weight, Task.polls, hpoll]
  dsimp only
  rw [Task.polls_of_outcome? rfl]
  rfl

/-- A scope that is refused a session does nothing. -/
theorem runScope_refused (name : String) (fault : Fault) (work : Work) :
    runScope (.mk name (.refuse 0 fault) work) none = (some (.failed fault), [.refused name]) := by
  have hpoll : (Task.ofScope (.mk name (.refuse 0 fault) work)).poll =
      (⟨.leaving (.failed fault), [], 1⟩, [.refused name]) := by
    refine (Task.poll_tell rfl).trans ?_
    rw [Task.poll_of_outcome? rfl]
    rfl
  unfold runScope
  rw [Option.getD_none, Scope.weight, Task.polls, hpoll]
  rfl

/-- However a pool has been used, and whatever the work with a session does. Lending is a number of
uses of the pool, for which one id is drawn. In the end the pool holds the sessions that it held
before, and what comes of it is what comes of the work, or why there is no session. That is as a
scope has it: what is opened is what the scope acquires, and what is closed is what it releases. If
the attempt to have a session crashes, nothing is done. -/
theorem a_session_is_lent_and_given_back {username : String} {config : Config} {factory : Factory}
    {first : List Event} (hmade : Factory.make username config = (.made factory, first))
    (uses : List Use) (now : Conditions) (acts : List Factory.Act) (finish : Nat) :
    let pool := (factory.uses uses).1
    let lent := pool.withSession now acts finish
    let scope := runScope (pool.lending now acts) none
    (∃ more, drawn more = [now.id] ∧ pool.uses more = (lent.1, lent.2.2)) ∧
      lent.1.live = pool.live ∧
      lent.2.1 = pool.workOutcome now acts ∧
      ((pool.acquire now).2.1 = .crashed → lent = (pool, .crashed, [])) ∧
      ((pool.acquire now).2.1 ≠ .crashed → scope.1 = some lent.2.1 ∧
        timesSaid .opened lent.2.2 = acquisitions scope.2 ∧
        timesSaid .closed lent.2.2 = releases scope.2) := by
  intro pool lent scope
  have hsound := (Factory.sound_make hmade).uses uses
  have hearlier : ∀ live ∈ pool.live, live.number < pool.opened := fun live hlive =>
    hsound.earlier _ (List.mem_map_of_mem hlive)
  refine ⟨pool.withSession_uses now acts finish, ?_⟩
  rcases Factory.withSession_cases hearlier now acts finish with
    ⟨hattempt, hlent⟩ | ⟨shortage, hattempt, hlent⟩ | ⟨number, after, hattempt, hlive, hlent⟩
  · rw [show lent = _ from hlent, hattempt]
    exact ⟨rfl, by simp [Factory.workOutcome, hattempt], fun _ => rfl, fun h => absurd rfl h⟩
  · have hscope :
        scope = (some (.failed (.connectionFailed shortage.message)), [.refused "work"]) := by
      change runScope (.mk "work" (pool.acquisition now) _) none = _
      rw [Factory.acquisition, hattempt]
      exact runScope_refused _ _ _
    rw [show lent = _ from hlent, hattempt, hscope]
    have hquiet := areQuiet_shortage shortage
    refine ⟨rfl, by simp [Factory.workOutcome, hattempt], nofun, fun _ => ⟨rfl, ?_, ?_⟩⟩
    · exact hquiet.timesSaid_eq_zero .opened
    · exact hquiet.timesSaid_eq_zero .closed
  · have hscope : scope = (some (pool.workOutcome now acts),
        [.acquired "work", .started "work", .released "work" 0]) := by
      change runScope (.mk "work" (pool.acquisition now) _) none = _
      rw [Factory.acquisition, hattempt]
      exact runScope_granted _ _ _
    have houtcome : lent.2.1 = pool.workOutcome now acts := by
      rw [show lent = _ from hlent, Factory.workOutcome, hattempt]
    refine ⟨(congrArg (·.1.live) hlent).trans hlive, houtcome, fun h => ?_, fun _ => ⟨?_, ?_, ?_⟩⟩
    · cases hattempt.symm.trans h
    · rw [hscope, houtcome]
    · rw [show lent = _ from hlent, hscope]
      rfl
    · rw [show lent = _ from hlent, hscope]
      rfl

end Chassis.Session
