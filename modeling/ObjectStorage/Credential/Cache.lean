import ObjectStorage.Credential.Basic

/-!
# Refreshed credentials

A cache keeps the credentials of the last fetch that succeeded and hands them out until they
expire within the margin. A call looks the cache up at its first reading of the clock and settles
a fetch at its second; what it fetches may fail or be expired already, and then nothing is kept.
-/
namespace ObjectStorage

/-- What a token source answers to its fetches in order. -/
abbrev TokenSource := Nat → Except Error Credentials

structure Cache where
  source : TokenSource
  margin : Duration
  fetches : Nat
  cached : Option Credentials

namespace Cache

def usualMargin : Duration := .ofSeconds 300

def new (source : TokenSource) (margin : Duration) : Cache := ⟨source, margin, 0, none⟩

def lookup (c : Cache) (now : Instant) : Option Credentials :=
  c.cached.filter fun k => !k.expiresWithin c.margin now

/-- The answer of a call whose fetch gave `fetched`, and what the cache keeps of it. -/
def settle (c : Cache) (fetched : Except Error Credentials) (now : Instant) :
    Except Error Credentials × Cache :=
  match fetched with
  | .error e => (.error e, c)
  | .ok k =>
    if k.isExpired now then (.error (.argument .expiredToken), c)
    else (.ok k, { c with cached := some k })

def fetch (c : Cache) : Except Error Credentials × Cache :=
  (c.source c.fetches, { c with fetches := c.fetches + 1 })

/-- A whole call, with its two readings of the clock. -/
def ask (c : Cache) (first last : Instant) : Except Error Credentials × Cache :=
  match c.lookup first with
  | some k => (.ok k, c)
  | none =>
    let (fetched, c) := c.fetch
    c.settle fetched last

theorem lookup_some {c : Cache} {now : Instant} {k : Credentials} (h : c.lookup now = some k) :
    c.cached = some k ∧ k.expiresWithin c.margin now = false := by
  simpa [lookup, Option.filter_eq_some_iff] using h

theorem ask_of_lookup {c : Cache} {first last : Instant} {k : Credentials}
    (h : c.lookup first = some k) : c.ask first last = (.ok k, c) := by
  simp [ask, h]

theorem ask_of_stale {c : Cache} {first last : Instant} (h : c.lookup first = none) :
    c.ask first last = c.fetch.2.settle (c.source c.fetches) last := by
  simp [ask, h, fetch]

end Cache

end ObjectStorage
