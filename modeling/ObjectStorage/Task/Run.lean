import ObjectStorage.Task.Basic

/-!
# Running tasks

A task runs in a context by one poll after the other. At each poll the cancellation token comes
first, then the task, then the deadline: a task that is ready succeeds even when it is late. With
no poll left a task that still waits has no outcome.
-/
namespace ObjectStorage

/-- A poll to come: the time on the clock, and whether the token has been fired from outside. -/
structure Moment where
  time : Duration
  canceled : Bool
deriving DecidableEq

namespace Moment

def isLate (m : Moment) : Option Duration → Bool
  | some deadline => deadline.totalNanos ≤ m.time.totalNanos
  | none => false

end Moment

abbrev Outcome (α : Type) := Option (Except Error α) × Surroundings

namespace Task

variable {α : Type}

def runUntil (token : CancelToken) (deadline : Option Duration) :
    List Moment → Task (Except Error α) → Surroundings → Outcome α
  | [], _, s => (none, s)
  | m :: ms, t, s =>
    if m.canceled || s.fired.contains token then (some (.error .canceled), s)
    else
      match t.poll token s with
      | (.ready result, s) => (some result, s)
      | (.waiting rest, s) =>
        if m.isLate deadline then (some (.error .deadlineExceeded), s)
        else runUntil token deadline ms rest s

/-- Runs a task in a context; `timeout` makes a deadline where the context has none. -/
def run (c : Context) (timeout : Option Duration) (ms : List Moment)
    (t : Task (Except Error α)) (s : Surroundings) : Outcome α :=
  match ms with
  | [] => (none, s)
  | m :: _ => t.runUntil c.token (c.effectiveDeadline m.time timeout) ms s

def finish (token : CancelToken) : Nat → Task (Except Error α) → Surroundings → Outcome α
  | 0, _, s => (none, s)
  | n + 1, t, s =>
    match t.poll token s with
    | (.ready result, s) => (some result, s)
    | (.waiting rest, s) => finish token n rest s

theorem runUntil_canceled (token : CancelToken) (deadline : Option Duration) (m : Moment)
    (ms : List Moment) (t : Task (Except Error α)) (s : Surroundings)
    (h : s.fired.contains token = true) :
    t.runUntil token deadline (m :: ms) s = (some (.error .canceled), s) := by
  rw [runUntil, if_pos (by simp only [h, Bool.or_true])]

end Task

end ObjectStorage
