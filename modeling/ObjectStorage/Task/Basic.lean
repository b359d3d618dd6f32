import ObjectStorage.Context
import ObjectStorage.Credential.Provider
import ObjectStorage.Request
import ObjectStorage.Response

/-!
# Tasks

A task is work that may have to wait. It reads the clock, asks a provider for credentials and
exchanges a request for a response; these are all its ways to touch its surroundings. A poll runs
a task until it is done or has to wait.
-/
namespace ObjectStorage

inductive Task (α : Type) where
  | done (value : α)
  | wait (rest : Task α)
  | never
  | readClock (next : Instant → Task α)
  | askProvider (next : Except Error Credentials → Task α)
  | exchange (request : Request) (next : Except Error Response → Task α)

/-- What tasks meet: variables, a provider, a clock and a network, with a record of the requests
that were sent and of the tokens that have fired. -/
structure Surroundings where
  environment : Environment
  provider : Provider
  clock : Nat → Instant
  readings : Nat
  network : Nat → Request → Reply
  sent : List Request
  fired : List CancelToken

namespace Surroundings

def tick (s : Surroundings) : Instant × Surroundings :=
  (s.clock s.readings, { s with readings := s.readings + 1 })

def ask (s : Surroundings) : Except Error Credentials × Surroundings :=
  let (answer, provider) :=
    s.provider.ask s.environment (s.clock s.readings, s.clock (s.readings + 1))
  (answer, { s with provider, readings := s.readings + 2 })

/-- Sends a request of a caller, who may give up meanwhile. -/
def send (s : Surroundings) (caller : CancelToken) (r : Request) : Reply × Surroundings :=
  let reply := s.network s.sent.length r
  (reply, { s with
    sent := s.sent ++ [r]
    fired := if reply.cancels then caller :: s.fired else s.fired })

end Surroundings

inductive Polled (α : Type) where
  | ready (value : α)
  | waiting (rest : Task α)

namespace Task

variable {α β : Type}

def bind : Task α → (α → Task β) → Task β
  | done a, f => f a
  | wait rest, f => wait (rest.bind f)
  | never, _ => never
  | readClock next, f => readClock fun t => (next t).bind f
  | askProvider next, f => askProvider fun c => (next c).bind f
  | exchange r next, f => exchange r fun a => (next a).bind f

instance : Monad Task where
  pure := done
  bind := bind

def delayed (t : Task α) : Nat → Task α
  | 0 => t
  | n + 1 => wait (t.delayed n)

def poll (caller : CancelToken) : Task α → Surroundings → Polled α × Surroundings
  | done a, s => (.ready a, s)
  | wait rest, s => (.waiting rest, s)
  | never, s => (.waiting never, s)
  | readClock next, s => (next s.tick.1).poll caller s.tick.2
  | askProvider next, s => (next s.ask.1).poll caller s.ask.2
  | exchange r next, s =>
    let (reply, after) := s.send caller r
    match reply.delay with
    | some 0 => (next reply.outcome).poll caller after
    | some (n + 1) => (.waiting ((next reply.outcome).delayed n), after)
    | none => (.waiting never, after)

theorem bind_done (t : Task α) : t.bind done = t := by
  induction t with
  | done a => rfl
  | never => rfl
  | wait rest ih => rw [bind, ih]
  | readClock next ih => rw [bind, funext ih]
  | askProvider next ih => rw [bind, funext ih]
  | exchange r next ih => rw [bind, funext ih]

theorem bind_bind {γ : Type} (t : Task α) (f : α → Task β) (g : β → Task γ) :
    (t.bind f).bind g = t.bind fun a => (f a).bind g := by
  induction t with
  | done a => rfl
  | never => rfl
  | wait rest ih => simp only [bind, ih]
  | readClock next ih => simp only [bind, ih]
  | askProvider next ih => simp only [bind, ih]
  | exchange r next ih => simp only [bind, ih]

theorem poll_delayed_succ (caller : CancelToken) (t : Task α) (n : Nat) (s : Surroundings) :
    (t.delayed (n + 1)).poll caller s = (.waiting (t.delayed n), s) := rfl

end Task

end ObjectStorage
