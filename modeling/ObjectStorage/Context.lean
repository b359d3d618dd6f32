import ObjectStorage.Time.Duration

/-!
# Contexts

The deadline and the cancellation token of an operation. Deadlines are times on a clock that only
goes forward; a token is a name, and whoever knows the name can fire it.
-/
namespace ObjectStorage

abbrev CancelToken := Nat

structure Context where
  deadline : Option Duration
  token : CancelToken
deriving DecidableEq

namespace Context

def background (token : CancelToken) : Context := ⟨none, token⟩

/-- Times on the clock are words of 63 bits of seconds. -/
def isRepresentable (t : Duration) : Bool := t.seconds < 0x8000000000000000

def after? (now timeout : Duration) : Option Duration :=
  let t := now.add timeout
  if isRepresentable t then some t else none

def withTimeout (token : CancelToken) (now timeout : Duration) : Context :=
  { background token with deadline := after? now timeout }

def withDeadline (c : Context) (t : Duration) : Context := { c with deadline := some t }

/-- The deadline that counts: the context's own, else one made of the timeout given. -/
def effectiveDeadline (c : Context) (now : Duration) (timeout : Option Duration) :
    Option Duration :=
  match c.deadline with
  | some t => some t
  | none => timeout.bind (after? now)

theorem effectiveDeadline_of_deadline {c : Context} {t : Duration} (h : c.deadline = some t)
    (now : Duration) (timeout : Option Duration) : c.effectiveDeadline now timeout = some t := by
  simp [effectiveDeadline, h]

end Context

end ObjectStorage
