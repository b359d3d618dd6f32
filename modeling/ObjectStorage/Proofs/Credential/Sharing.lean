import ObjectStorage.Credential.Shared
import ObjectStorage.Proofs.Credential.Expiry

/-!
# What callers get from a cache they share

The history of the calls that have ended determines what is cached and how often was fetched, and
each of them fits what came before it. `run_sound` is about every run: calls, fetches and callers
that are dropped may interleave in any way, and the clock may go back.
-/
namespace ObjectStorage

def IsStale (margin : Duration) (cached : Option Credentials) (now : Instant) : Prop :=
  ∀ k, cached = some k → k.expiresWithin margin now = true

def accept (answer : Except Error Credentials) (now : Instant) : Except Error Credentials :=
  match answer with
  | .ok k => if k.isExpired now then .error (.argument .expiredToken) else .ok k
  | .error e => .error e

theorem accept_eq_ok {answer : Except Error Credentials} {now : Instant} {k : Credentials} :
    accept answer now = .ok k ↔ answer = .ok k ∧ k.isExpired now = false := by
  cases answer with
  | error e => simp [accept]
  | ok c =>
    rw [accept]
    split
    · next he =>
      constructor
      · intro h
        cases h
      · rintro ⟨h, hk⟩
        cases h
        rw [he] at hk
        cases hk
    · next he =>
      rw [Bool.not_eq_true] at he
      constructor
      · intro h
        cases h
        exact ⟨rfl, he⟩
      · rintro ⟨h, -⟩
        exact h

namespace Ending

def result? : Ending → Option (Instant × Except Error Credentials)
  | reused _ now k => some (now, .ok k)
  | fetched _ _ last _ result => some (last, result)
  | left _ | abandoned _ _ => none

def kept? : Ending → Option Credentials
  | fetched _ _ last answer _ => (accept answer last).toOption
  | reused _ _ _ | left _ | abandoned _ _ => none

def fetches : Ending → Nat
  | fetched .. | abandoned _ _ => 1
  | reused _ _ _ | left _ => 0

end Ending

/-- The credentials of the latest fetch that succeeded unexpired. -/
def kept (history : List Ending) : Option Credentials := (history.filterMap Ending.kept?).getLast?

def fetchCount (history : List Ending) : Nat := history.foldl (fun n e => n + e.fetches) 0

theorem kept_append (history : List Ending) (e : Ending) :
    kept (history ++ [e]) = e.kept?.or (kept history) := by
  rw [kept, List.filterMap_append, List.getLast?_append]
  cases he : e.kept? with
  | none => simp [he, kept]
  | some k => simp [he]

theorem fetchCount_append (history : List Ending) (e : Ending) :
    fetchCount (history ++ [e]) = fetchCount history + e.fetches :=
  List.foldl_append

/-- A call that fits what ended before it: it fetches exactly if the cache is stale at its first
reading, and its result is what is cached or what it fetched. -/
def Ending.Fits (source : TokenSource) (margin : Duration) (before : List Ending) : Ending → Prop
  | reused _ now k => kept before = some k ∧ k.expiresWithin margin now = false
  | fetched _ first last answer result =>
    IsStale margin (kept before) first ∧ answer = source (fetchCount before) ∧
      result = accept answer last
  | left _ => True
  | abandoned _ first => IsStale margin (kept before) first

theorem Ending.Fits.of_ok {source : TokenSource} {margin : Duration} {before : List Ending}
    {e : Ending} (h : e.Fits source margin before) {t : Instant} {k : Credentials}
    (hr : e.result? = some (t, .ok k)) :
    k.isExpired t = false ∧ kept (before ++ [e]) = some k := by
  rw [kept_append]
  cases e with
  | reused caller now found =>
    cases hr
    exact ⟨Credentials.isExpired_of_fresh h.2, h.1⟩
  | fetched caller first last answer result =>
    obtain ⟨-, -, hresult⟩ := h
    cases hr
    rw [Ending.kept?, ← hresult]
    exact ⟨(accept_eq_ok.1 hresult.symm).2, rfl⟩
  | left caller => cases hr
  | abandoned caller first => cases hr

theorem Ending.Fits.of_not_ok {source : TokenSource} {margin : Duration} {before : List Ending}
    {e : Ending} (h : e.Fits source margin before)
    (hr : ∀ t k, e.result? ≠ some (t, .ok k)) : kept (before ++ [e]) = kept before := by
  rw [kept_append]
  cases e with
  | reused caller now found => exact absurd rfl (hr now found)
  | fetched caller first last answer result =>
    obtain ⟨-, -, hresult⟩ := h
    cases result with
    | error e =>
      rw [Ending.kept?, ← hresult]
      rfl
    | ok k => exact absurd rfl (hr last k)
  | left caller => rfl
  | abandoned caller first => rfl

theorem isStale_iff_lookup {c : Cache} {now : Instant} :
    IsStale c.margin c.cached now ↔ c.lookup now = none := by
  simp [IsStale, Cache.lookup, Option.filter_eq_none_iff]

theorem settle_eq_accept (c : Cache) (answer : Except Error Credentials) (now : Instant) :
    c.settle answer now =
      (accept answer now, { c with cached := (accept answer now).toOption.or c.cached }) := by
  cases answer with
  | error e => rfl
  | ok k =>
    rw [Cache.settle, accept]
    split <;> rfl

namespace SharedCache

/-- The history tells what is cached, what was fetched, and why. -/
structure Sound (source : TokenSource) (margin : Duration) (s : SharedCache) : Prop where
  source_eq : s.cache.source = source
  margin_eq : s.cache.margin = margin
  cached : s.cache.cached = kept s.history
  fetches : s.cache.fetches = fetchCount s.history + s.flight.toList.length
  flight : ∀ f, s.flight = some f →
    IsStale margin (kept s.history) f.first ∧ f.answer = source (fetchCount s.history)
  fits : ∀ before e after, s.history = before ++ e :: after → e.Fits source margin before

theorem sound_new (source : TokenSource) (margin : Duration) :
    Sound source margin (new source margin) := by
  refine ⟨rfl, rfl, rfl, rfl, fun f hf => ?_, fun before e after h => ?_⟩
  · cases hf
  · cases before <;> cases h

theorem fits_append {source : TokenSource} {margin : Duration} {history : List Ending} {e : Ending}
    (h : ∀ before e after, history = before ++ e :: after → e.Fits source margin before)
    (he : e.Fits source margin history) :
    ∀ before e' after, history ++ [e] = before ++ e' :: after → e'.Fits source margin before := by
  intro before e' after heq
  rcases List.eq_nil_or_concat after with rfl | ⟨after, last, rfl⟩
  · obtain ⟨rfl, h⟩ := List.append_inj' heq rfl
    cases h
    exact he
  · rw [List.concat_eq_append, ← List.cons_append, ← List.append_assoc] at heq
    exact h _ _ _ (List.append_inj' heq rfl).1

variable {source : TokenSource} {margin : Duration} {s s' : SharedCache}

theorem Sound.enter (h : Sound source margin s) (idle : s.flight = none) (caller : Caller)
    (first : Instant) : Sound source margin (s.enter caller first) := by
  rw [SharedCache.enter]
  split
  · next k hk =>
    obtain ⟨hc, fresh⟩ := Cache.lookup_some hk
    have fits : (Ending.reused caller first k).Fits source margin s.history :=
      ⟨h.cached ▸ hc, h.margin_eq ▸ fresh⟩
    refine ⟨h.source_eq, h.margin_eq, ?_, ?_, ?_, fits_append h.fits fits⟩
    · rw [kept_append]
      exact h.cached
    · rw [fetchCount_append]
      exact h.fetches
    · intro f hf
      cases idle.symm.trans hf
  · next hk =>
    have fetches : s.cache.fetches = fetchCount s.history := by
      rw [h.fetches, idle]
      rfl
    refine ⟨h.source_eq, h.margin_eq, h.cached, congrArg (· + 1) fetches, ?_, h.fits⟩
    intro f hf
    cases hf
    refine ⟨?_, ?_⟩
    · rw [← h.cached, ← h.margin_eq]
      exact isStale_iff_lookup.2 hk
    · rw [← fetches, ← h.source_eq]
      rfl

theorem Sound.settle (h : Sound source margin s) {f : Flight} (hf : s.flight = some f)
    (last : Instant) : Sound source margin (s.settle f last) := by
  obtain ⟨stale, answer⟩ := h.flight f hf
  rw [SharedCache.settle, settle_eq_accept]
  have fits : (Ending.fetched f.caller f.first last f.answer (accept f.answer last)).Fits source
      margin s.history := ⟨stale, answer, rfl⟩
  refine ⟨h.source_eq, h.margin_eq, ?_, ?_, fun _ hg => (by cases hg), fits_append h.fits fits⟩
  · rw [kept_append, ← h.cached]
    rfl
  · rw [fetchCount_append]
    exact h.fetches.trans (congrArg (fetchCount s.history + ·.toList.length) hf)

theorem Sound.step (h : Sound source margin s) {e : Event} (hs : s.step e = some s') :
    Sound source margin s' := by
  cases e with
  | call caller =>
    cases hs
    exact ⟨h.source_eq, h.margin_eq, h.cached, h.fetches, h.flight, h.fits⟩
  | enter caller first =>
    rw [SharedCache.step] at hs
    split at hs
    · next hc =>
      cases hs
      rw [Bool.and_eq_true, Option.isNone_iff_eq_none] at hc
      exact h.enter hc.1 caller first
    · cases hs
  | settle last =>
    obtain ⟨f, hf, rfl⟩ := Option.map_eq_some_iff.1 hs
    exact h.settle hf last
  | leave caller =>
    rw [SharedCache.step] at hs
    split at hs
    · cases hs
      refine ⟨h.source_eq, h.margin_eq, ?_, ?_, ?_, fits_append h.fits trivial⟩
      · rw [kept_append]
        exact h.cached
      · rw [fetchCount_append]
        exact h.fetches
      · intro f hf
        rw [kept_append, fetchCount_append]
        exact h.flight f hf
    · cases hs
  | abandon =>
    obtain ⟨f, hf, rfl⟩ := Option.map_eq_some_iff.1 hs
    have fits : (Ending.abandoned f.caller f.first).Fits source margin s.history := (h.flight f hf).1
    refine ⟨h.source_eq, h.margin_eq, ?_, ?_, fun _ hg => (by cases hg), fits_append h.fits fits⟩
    · rw [kept_append]
      exact h.cached
    · rw [fetchCount_append]
      exact h.fetches.trans (congrArg (fetchCount s.history + ·.toList.length) hf)

theorem run_cons (s : SharedCache) (e : Event) (events : List Event) :
    s.run (e :: events) = (s.step e).bind (·.run events) := List.foldlM_cons

theorem Sound.run (h : Sound source margin s) {events : List Event} (hr : s.run events = some s') :
    Sound source margin s' := by
  induction events generalizing s with
  | nil =>
    cases hr
    exact h
  | cons e events ih =>
    rw [run_cons] at hr
    obtain ⟨s₁, hs, hr⟩ := Option.bind_eq_some_iff.1 hr
    exact ih (h.step hs) hr

/-- Callers with readings at which the cached credentials outlive the margin all get them, in any
order, and nobody fetches. -/
theorem run_enters {k : Credentials} (idle : s.flight = none) (hk : s.cache.cached = some k)
    {calls : List (Caller × Instant)}
    (fresh : ∀ call ∈ calls, k.expiresWithin s.cache.margin call.2 = false)
    (queued : (calls.map Prod.fst).Perm s.waiting) :
    s.run (calls.map fun call => .enter call.1 call.2) =
      some { s with
        waiting := []
        history := s.history ++ calls.map fun call => .reused call.1 call.2 k } := by
  induction calls generalizing s with
  | nil =>
    have hw : s.waiting = [] := List.nil_perm.1 queued
    rw [List.map_nil, List.map_nil, List.append_nil, ← hw]
    rfl
  | cons call calls ih =>
    have hlookup : s.cache.lookup call.2 = some k := by
      simp [Cache.lookup, hk, fresh call List.mem_cons_self]
    have free : (s.flight.isNone && s.waiting.contains call.1) = true := by
      rw [idle, List.contains_iff_mem.2 (queued.subset List.mem_cons_self)]
      rfl
    have hstep : s.step (.enter call.1 call.2) = some { s with
        waiting := s.waiting.erase call.1
        history := s.history ++ [.reused call.1 call.2 k] } := by
      rw [SharedCache.step, if_pos free, SharedCache.enter, hlookup]
    have rest : (calls.map Prod.fst).Perm (s.waiting.erase call.1) := by
      have he := queued.erase call.1
      rwa [List.map_cons, List.erase_cons_head] at he
    have others := ih (s := { s with
      waiting := s.waiting.erase call.1
      history := s.history ++ [.reused call.1 call.2 k] }) idle hk
      (fun c hc => fresh c (List.mem_cons_of_mem _ hc)) rest
    rw [List.append_assoc] at others
    rw [List.map_cons, run_cons, hstep]
    exact others

/-- Callers that queue on a stale cache cause one fetch, and it serves them all. -/
theorem run_queue {k : Credentials} {caller : Caller} {first last : Instant}
    {calls : List (Caller × Instant)} (idle : s.flight = none)
    (stale : IsStale s.cache.margin s.cache.cached first)
    (answer : s.cache.source s.cache.fetches = .ok k) (alive : k.isExpired last = false)
    (fresh : ∀ call ∈ calls, k.expiresWithin s.cache.margin call.2 = false)
    (queued : (caller :: calls.map Prod.fst).Perm s.waiting) :
    s.run (.enter caller first :: .settle last :: calls.map fun call => .enter call.1 call.2) =
      some ⟨{ s.cache with fetches := s.cache.fetches + 1, cached := some k }, [], none,
        s.history ++ .fetched caller first last (.ok k) (.ok k) ::
          calls.map fun call => .reused call.1 call.2 k⟩ := by
  have free : (s.flight.isNone && s.waiting.contains caller) = true := by
    rw [idle, List.contains_iff_mem.2 (queued.subset List.mem_cons_self)]
    rfl
  have entered : s.step (.enter caller first) = some { s with
      cache := s.cache.fetch.2
      waiting := s.waiting.erase caller
      flight := some ⟨caller, first, .ok k⟩ } := by
    rw [step, if_pos free, enter, isStale_iff_lookup.1 stale]
    simp only [Cache.fetch, answer]
  have settled : s.cache.fetch.2.settle (.ok k) last =
      (.ok k, { s.cache with fetches := s.cache.fetches + 1, cached := some k }) := by
    rw [settle_eq_accept, accept_eq_ok.2 ⟨rfl, alive⟩]
    rfl
  have others := run_enters (s := ⟨{ s.cache with
      fetches := s.cache.fetches + 1
      cached := some k }, s.waiting.erase caller, none,
      s.history ++ [.fetched caller first last (.ok k) (.ok k)]⟩) rfl rfl fresh
    (by simpa using queued.erase caller)
  rw [run_cons, entered, Option.bind_some, run_cons, step, Option.map_some, settle, settled]
  rw [List.append_assoc] at others
  exact others

/-- A call that nobody disturbs is a call of the cache. -/
theorem ask_eq_enter (idle : s.flight = none) (caller : Caller) (first last : Instant) :
    match (s.enter caller first).flight with
    | none => ∃ k, s.cache.ask first last = (.ok k, (s.enter caller first).cache) ∧
      (s.enter caller first).history = s.history ++ [.reused caller first k]
    | some f => ∃ result,
      s.cache.ask first last = (result, ((s.enter caller first).settle f last).cache) ∧
        ((s.enter caller first).settle f last).history =
          s.history ++ [.fetched caller first last f.answer result] := by
  cases hl : s.cache.lookup first with
  | some k =>
    simp only [enter, hl, idle]
    exact ⟨k, Cache.ask_of_lookup hl, rfl⟩
  | none =>
    simp only [enter, hl]
    exact ⟨_, Cache.ask_of_stale hl, rfl⟩

variable {events : List Event}

/-- What holds in every run of callers over a cache, whatever the source answers and the clock shows. -/
theorem run_sound (h : (new source margin).run events = some s) :
    (s.cache.cached = kept s.history ∧
      s.cache.fetches = fetchCount s.history + s.flight.toList.length) ∧
    (∀ before e after, s.history = before ++ e :: after →
      e.Fits source margin before ∧
      (∀ t k, e.result? = some (t, .ok k) → k.isExpired t = false ∧ kept (before ++ [e]) = some k) ∧
      ((∀ t k, e.result? ≠ some (t, .ok k)) → kept (before ++ [e]) = kept before)) ∧
    (∀ f, s.flight = some f → IsStale margin s.cache.cached f.first ∧
      ∀ caller t, s.step (.enter caller t) = none) ∧
    (∀ caller first last k (calls : List (Caller × Instant)), s.flight = none →
      IsStale margin s.cache.cached first →
      source s.cache.fetches = .ok k → k.isExpired last = false →
      (∀ call ∈ calls, k.expiresWithin margin call.2 = false) →
      (caller :: calls.map Prod.fst).Perm s.waiting →
      ∃ s', s.run (.enter caller first :: .settle last ::
          calls.map fun call => .enter call.1 call.2) = some s' ∧
        s'.cache.fetches = s.cache.fetches + 1 ∧
        s'.history = s.history ++ .fetched caller first last (.ok k) (.ok k) ::
          calls.map fun call => .reused call.1 call.2 k) := by
  have sound := (sound_new source margin).run h
  refine ⟨⟨sound.cached, sound.fetches⟩, fun before e after hh => ?_, fun f hf => ?_, ?_⟩
  · have fits := sound.fits before e after hh
    exact ⟨fits, fun t k => fits.of_ok, fits.of_not_ok⟩
  · refine ⟨sound.cached ▸ (sound.flight f hf).1, fun caller t => ?_⟩
    rw [step, if_neg]
    simp [hf]
  · intro caller first last k calls idle stale answer alive fresh queued
    rw [← sound.margin_eq] at stale fresh
    rw [← sound.source_eq] at answer
    exact ⟨_, run_queue idle stale answer alive fresh queued, rfl, rfl⟩

def sourceOfThird : TokenSource := fun n =>
  if n < 2 then .error (.network "connection reset" false)
  else .ok ⟨"AKTEST", "secret", none, some (.ofSeconds 1000)⟩

theorem run_sound_of_third : ∃ s s',
    (new sourceOfThird Cache.usualMargin).run [.call 0, .call 1, .call 2, .enter 0 (.ofSeconds 7),
      .abandon, .enter 2 (.ofSeconds 6), .settle (.ofSeconds 8), .call 3, .call 4] = some s ∧
    s.run [.enter 4 (.ofSeconds 9), .settle (.ofSeconds 20), .enter 1 (.ofSeconds 699),
      .enter 3 (.ofSeconds 5)] = some s' ∧
    s.cache.fetches = 2 ∧ s'.cache.fetches = 3 ∧ s'.history = s.history ++
      .fetched 4 (.ofSeconds 9) (.ofSeconds 20) (sourceOfThird 2) (sourceOfThird 2) ::
        [.reused 1 (.ofSeconds 699) ⟨"AKTEST", "secret", none, some (.ofSeconds 1000)⟩,
          .reused 3 (.ofSeconds 5) ⟨"AKTEST", "secret", none, some (.ofSeconds 1000)⟩] := by
  have parts : ((new sourceOfThird Cache.usualMargin).run [.call 0, .call 1, .call 2,
      .enter 0 (.ofSeconds 7), .abandon, .enter 2 (.ofSeconds 6), .settle (.ofSeconds 8), .call 3,
      .call 4]).map (fun s => (s.waiting, s.flight.isNone, s.cache.cached, s.cache.fetches)) =
      some ([1, 3, 4], true, none, 2) := by
    rfl
  obtain ⟨s, hs, parts⟩ := Option.map_eq_some_iff.1 parts
  simp only [Prod.mk.injEq, Option.isNone_iff_eq_none] at parts
  obtain ⟨waiting, idle, cached, fetches⟩ := parts
  obtain ⟨-, -, -, queue⟩ := run_sound hs
  obtain ⟨s', hs', count, history⟩ := queue 4 (.ofSeconds 9) (.ofSeconds 20)
    ⟨"AKTEST", "secret", none, some (.ofSeconds 1000)⟩
    [(1, .ofSeconds 699), (3, .ofSeconds 5)] idle (by rw [cached]; exact fun k hk => by cases hk)
    (by rw [fetches]; rfl) (by decide) (by decide) (by rw [waiting]; decide)
  exact ⟨s, s', hs, hs', fetches, by rw [count, fetches], history⟩

end SharedCache

end ObjectStorage
