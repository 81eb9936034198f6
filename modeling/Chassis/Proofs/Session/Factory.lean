-- What the factory keeps when sessions come and go: whether it is closed. While it is open, nobody
-- is refused for its being closed.
import Chassis.Session.Factory

namespace Chassis.Session

open Logging (Event)

/-- The fault of somebody who asks a closed pool for a session. -/
def closedFault : Fault := .connectionFailed Shortage.closed.message

theorem head?_message (shortage : Shortage) :
    shortage.message.toList.head? = some (match shortage with
    | .timedOut => 'p'
    | .closed => 'a'
    | .refused _ => 'e'
    | .unreachable _ => 'e') := by
  cases shortage with
  | timedOut => decide
  | closed => decide
  | refused text =>
    change ("error returned from database: " ++ text).toList.head? = some 'e'
    rw [String.toList_append, List.head?_append]
    rfl
  | unreachable text =>
    change ("error communicating with database: " ++ text).toList.head? = some 'e'
    rw [String.toList_append, List.head?_append]
    rfl

theorem ne_closedFault_of_message {shortage : Shortage} (h : shortage ≠ .closed) :
    Fault.connectionFailed shortage.message ≠ closedFault := by
  intro heq
  rw [closedFault, Fault.connectionFailed.injEq] at heq
  have hhead := head?_message shortage
  rw [heq, head?_message] at hhead
  cases shortage <;> simp at hhead h

theorem Login.shortage?_ne_closed {login : Login} {shortage : Shortage}
    (h : login.shortage? = some shortage) :
    shortage ≠ .closed := by
  unfold Login.shortage? at h
  rintro rfl
  cases login with
  | refused state text =>
    simp only [Option.some.injEq] at h
    split at h <;> cases h
  | _ => cases h

namespace Factory

variable {f f' : Factory} {now : Conditions}

theorem isClosed_connect {login : Login} (h : f.connect login = .ok f') :
    f'.isClosed = f.isClosed := by
  unfold connect at h
  split at h
  · cases h
  · split at h
    · cases h
      rfl
    · split at h
      · cases h
        rfl
      · cases h

theorem connect_ne_closed {login : Login} {shortage : Shortage}
    (h : f.connect login = .error shortage) :
    shortage ≠ .closed := by
  unfold connect at h
  split at h
  · cases h
    decide
  · split at h
    · cases h
    · split at h
      · cases h
      · rename_i hlogin
        cases h
        exact Login.shortage?_ne_closed hlogin

theorem isClosed_acquire (f : Factory) (now : Conditions) :
    (f.acquire now).1.isClosed = f.isClosed := by
  unfold acquire
  split
  · rfl
  · split
    · rfl
    · split
      · rfl
      · rename_i factory hconnect
        have hkept := isClosed_connect hconnect
        exact hkept

theorem isClosed_acquireForRequest (f : Factory) (now : Conditions) :
    (f.acquireForRequest now).1.isClosed = f.isClosed := by
  have hacquire := isClosed_acquire f now
  unfold acquireForRequest
  split
  · rename_i heq
    rw [heq] at hacquire
    exact hacquire
  · exact hacquire

theorem acquire_ne_closedFault (hopen : f.isClosed = false) {fault : Fault}
    (h : (f.acquire now).2.1 = .failed fault) : fault ≠ closedFault := by
  unfold acquire at h
  rw [hopen] at h
  simp only [Bool.false_eq_true, if_false] at h
  split at h
  · cases h
  · split at h
    · rename_i shortage hconnect
      cases h
      exact ne_closedFault_of_message (connect_ne_closed hconnect)
    · cases h

/-- A pool that is open does not refuse a request as a closed one does. -/
theorem acquireForRequest_ne_closedFault (hopen : f.isClosed = false) {fault : Fault}
    (h : (f.acquireForRequest now).2.1 = .failed fault) : fault ≠ closedFault := by
  unfold acquireForRequest at h
  split at h
  · rename_i hfailed
    have hattempt : (f.acquire now).2.1 = .failed fault := by
      rw [hfailed]
      exact h
    exact acquire_ne_closedFault hopen hattempt
  · exact acquire_ne_closedFault hopen h

/-- A session that is released is no longer live, and all others are. -/
theorem release_fst (f : Factory) (session clock : Nat) :
    (f.release session clock).1.isClosed = f.isClosed ∧
      (f.release session clock).1.live = f.live.filter (·.number != session) := by
  unfold release
  split
  · rename_i hnone
    refine ⟨rfl, (List.filter_eq_self.mpr fun live hlive => ?_).symm⟩
    have hne := List.find?_eq_none.mp hnone live hlive
    simpa using hne
  · exact ⟨rfl, rfl⟩

/-! ## Events -/

/-- An event of a session, or of an attempt to have one. -/
def IsSessionEvent (event : Event) : Prop :=
  (∃ id, event = openedEvent id) ∨ (∃ id elapsed, event = closedEvent id elapsed) ∨
    (∃ shortage, event = shortageEvent shortage) ∨ ∃ fault, event = unavailableEvent fault

theorem isSessionEvent_acquireForRequest (f : Factory) (now : Conditions) :
    ∀ event ∈ (f.acquireForRequest now).2.2, IsSessionEvent event := by
  have hacquire : ∀ event ∈ (f.acquire now).2.2, IsSessionEvent event := by
    intro event hevent
    unfold acquire at hevent
    split at hevent
    · exact Or.inr (Or.inr (Or.inl ⟨_, List.mem_singleton.mp hevent⟩))
    · split at hevent
      · cases hevent
      · split at hevent
        · exact Or.inr (Or.inr (Or.inl ⟨_, List.mem_singleton.mp hevent⟩))
        · exact Or.inl ⟨_, List.mem_singleton.mp hevent⟩
  intro event hevent
  unfold acquireForRequest at hevent
  split at hevent
  · rename_i heq
    rw [heq] at hacquire
    rcases List.mem_append.mp hevent with hmem | hmem
    · exact hacquire event hmem
    · exact Or.inr (Or.inr (Or.inr ⟨_, List.mem_singleton.mp hmem⟩))
  · exact hacquire event hevent

theorem isSessionEvent_release (f : Factory) (session clock : Nat) :
    ∀ event ∈ (f.release session clock).2, IsSessionEvent event := by
  intro event hevent
  unfold release at hevent
  split at hevent
  · cases hevent
  · exact Or.inr (Or.inl ⟨_, _, List.mem_singleton.mp hevent⟩)

end Factory

end Chassis.Session
