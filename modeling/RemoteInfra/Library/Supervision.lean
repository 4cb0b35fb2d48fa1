/-!
# Tasks under one gather

A task waits at some location of its code, or has ended, or was cancelled.  A gather over
tasks ends with the first of them that fails, and else when none is pending any more.
-/

namespace RemoteInfra.Library

inductive Coroutine (Exc Loc : Type)
  | pending (loc : Loc)
  | finished (result : Except Exc Unit)
  | cancelled

/-- What a gather sees of a task. -/
inductive CoroutineStatus
  | pending
  | succeeded
  | failed
  deriving DecidableEq

namespace Coroutine

variable {Exc Loc : Type}

def status : Coroutine Exc Loc → CoroutineStatus
  | .pending _ => .pending
  | .finished (.ok _) => .succeeded
  | .finished (.error _) => .failed
  | .cancelled => .failed

@[simp] theorem status_pending (loc : Loc) :
    (pending loc : Coroutine Exc Loc).status = .pending := rfl

@[simp] theorem status_finished_ok :
    (finished (.ok ()) : Coroutine Exc Loc).status = .succeeded := rfl

@[simp] theorem status_finished_error (e : Exc) :
    (finished (.error e) : Coroutine Exc Loc).status = .failed := rfl

def cancel : Coroutine Exc Loc → Coroutine Exc Loc
  | .pending _ => .cancelled
  | task => task

/-- After an awaited call ended with `result`, a task whose handler catches `caught` goes on as
`next` unless an exception escapes. -/
def contain (caught : Exc → Bool) (result : Except Exc Unit) (next : Coroutine Exc Loc) :
    Coroutine Exc Loc :=
  match result with
  | .ok _ => next
  | .error e => if caught e then next else .finished (.error e)

/-- A handler that catches what was raised goes on. -/
theorem contain_of_caught {caught : Exc → Bool} {result : Except Exc Unit}
    (h : ∀ e, result = .error e → caught e = true) (next : Coroutine Exc Loc) :
    contain caught result next = next := by
  cases result with
  | ok _ => rfl
  | error e => simp [contain, h e rfl]

/-- What escapes the handler ends the task. -/
theorem contain_of_escaped {caught : Exc → Bool} {e : Exc} (h : caught e = false)
    (next : Coroutine Exc Loc) : contain caught (.error e) next = .finished (.error e) := by
  simp [contain, h]

end Coroutine

/-- Whether a gather over tasks of these statuses has ended. -/
def gatherEnded (statuses : List CoroutineStatus) : Bool :=
  statuses.any (· = .failed) || statuses.all (· ≠ .pending)

theorem gatherEnded_of_failed {statuses : List CoroutineStatus} (h : .failed ∈ statuses) :
    gatherEnded statuses = true := by
  rw [gatherEnded, Bool.or_eq_true]
  exact .inl (List.any_eq_true.mpr ⟨_, h, by simp⟩)

theorem not_gatherEnded {statuses : List CoroutineStatus} (hpending : .pending ∈ statuses)
    (hfailed : .failed ∉ statuses) : gatherEnded statuses = false := by
  rw [gatherEnded, Bool.or_eq_false_iff]
  refine ⟨List.any_eq_false.mpr fun status hmem ↦ ?_, List.all_eq_false.mpr ⟨_, hpending, ?_⟩⟩
  · rintro h
    exact hfailed (of_decide_eq_true h ▸ hmem)
  · simp

end RemoteInfra.Library
