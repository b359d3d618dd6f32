import ObjectStorage.Credential.Cache

/-!
# A cache that callers share

Callers queue for a lock and get it in any order. The one that has it looks the cache up and either
lets go at once with what it found, or keeps the lock while a fetch is under way. A caller may be
dropped at any point, in the queue or with its fetch.
-/
namespace ObjectStorage

abbrev Caller := Nat

/-- A fetch under way, with the reading that found the cache stale and what the source answers. -/
structure Flight where
  caller : Caller
  first : Instant
  answer : Except Error Credentials

inductive Ending where
  | reused (caller : Caller) (now : Instant) (found : Credentials)
  | fetched (caller : Caller) (first last : Instant) (answer result : Except Error Credentials)
  | left (caller : Caller)
  | abandoned (caller : Caller) (first : Instant)

structure SharedCache where
  cache : Cache
  waiting : List Caller
  flight : Option Flight
  history : List Ending

namespace SharedCache

inductive Event where
  | call (caller : Caller)
  /-- A caller gets the lock and reads the clock. -/
  | enter (caller : Caller) (first : Instant)
  /-- The source answers, and the clock is read again. -/
  | settle (last : Instant)
  /-- A caller in the queue is dropped. -/
  | leave (caller : Caller)
  /-- The caller whose fetch is under way is dropped. -/
  | abandon

def new (source : TokenSource) (margin : Duration) : SharedCache := ⟨.new source margin, [], none, []⟩

def enter (s : SharedCache) (caller : Caller) (first : Instant) : SharedCache :=
  let waiting := s.waiting.erase caller
  match s.cache.lookup first with
  | some k => { s with waiting, history := s.history ++ [.reused caller first k] }
  | none =>
    { s with
      cache := s.cache.fetch.2
      waiting
      flight := some ⟨caller, first, s.cache.fetch.1⟩ }

def settle (s : SharedCache) (f : Flight) (last : Instant) : SharedCache :=
  let (result, cache) := s.cache.settle f.answer last
  { s with
    cache
    flight := none
    history := s.history ++ [.fetched f.caller f.first last f.answer result] }

def step (s : SharedCache) : Event → Option SharedCache
  | .call caller => some { s with waiting := s.waiting ++ [caller] }
  | .enter caller first =>
    if s.flight.isNone && s.waiting.contains caller then some (s.enter caller first) else none
  | .settle last => s.flight.map (s.settle · last)
  | .leave caller =>
    if s.waiting.contains caller then
      some { s with
        waiting := s.waiting.erase caller
        history := s.history ++ [.left caller] }
    else none
  | .abandon => s.flight.map fun f =>
    { s with flight := none, history := s.history ++ [.abandoned f.caller f.first] }

def run (s : SharedCache) (events : List Event) : Option SharedCache := events.foldlM step s

end SharedCache

end ObjectStorage
