import ObjectStorage.Credential.Basic

/-!
# Expiry in time

Credentials that expire within a margin also do within a longer one, and at any later time. This
holds in leap seconds, where subtraction follows rules of its own, and at both ends of what can be
counted, where credentials are taken to expire. Outside leap seconds they expire within a margin
exactly when no more nanoseconds than it has are left: `expiresWithin_exact`.
-/
namespace ObjectStorage

namespace Instant

theorem le_refl (t : Instant) : t ≤ t :=
  le_iff.2 (Or.inr ⟨rfl, Nat.le_refl _⟩)

/-- Nanoseconds since 1970, a leap second's going over into the next one. -/
def total (t : Instant) : Int := t.seconds * 1000000000 + t.nanos

theorem total_before (seconds : Int) {nanos : Nat} (d : Duration) (hn : nanos < 1000000000) :
    (before seconds nanos d).total = seconds * 1000000000 + nanos - d.totalNanos ∧
      (before seconds nanos d).nanos < 1000000000 := by
  have hd := d.nanos_lt
  rw [before]
  split
  · simp only [total, Duration.totalNanos]
    omega
  · simp only [total, Duration.totalNanos]
    omega

theorem le_of_total {a b : Instant} (ha : a.nanos < 1000000000) (h : a.total ≤ b.total)
    (hb : b.nanos < 1000000000) : a ≤ b := by
  rw [le_iff]
  simp only [total] at h
  omega

theorem sub_antitone (t : Instant) {d d' : Duration} (h : d.totalNanos ≤ d'.totalNanos) :
    t.sub d' ≤ t.sub d := by
  have ht := t.nanos_lt
  have hd := d.nanos_lt
  have hd' := d'.nanos_lt
  rw [sub, sub]
  split
  · next hn =>
    obtain ⟨he, hb⟩ := total_before t.seconds d hn
    obtain ⟨he', hb'⟩ := total_before t.seconds d' hn
    exact le_of_total hb' (by omega) hb
  · next hn =>
    have hm : t.nanos - 1000000000 < 1000000000 := by omega
    obtain ⟨he, hb⟩ := total_before (t.seconds + 1) d hm
    obtain ⟨he', hb'⟩ := total_before (t.seconds + 1) d' hm
    by_cases hs : d.seconds = 0
    · by_cases hs' : d'.seconds = 0
      · rw [if_pos hs, if_pos hs', le_iff]
        simp only [Duration.totalNanos] at h
        exact Or.inr ⟨rfl, by simp only; omega⟩
      · -- the longer duration leaves the leap second, which only its own seconds can
        rw [if_pos hs, if_neg hs', le_iff]
        simp only [total, Duration.totalNanos] at he' ⊢
        omega
    · have hs' : d'.seconds ≠ 0 := by
        simp only [Duration.totalNanos] at h
        omega
      rw [if_neg hs, if_neg hs']
      exact le_of_total hb' (by omega) hb

def lastSecond : Int := 8210266876799

example : firstSecond = secondsPerDay * Date.toDays ⟨-262143, 1, 1⟩ ∧
    lastSecond + 1 = secondsPerDay * Date.toDays ⟨262143, 1, 1⟩ := by
  decide

/-- An instant of the years that can be told, outside leap seconds. -/
structure IsOrdinary (t : Instant) : Prop where
  no_leap : t.isLeap = false
  first_le : firstSecond ≤ t.seconds
  le_last : t.seconds ≤ lastSecond

variable {a b t : Instant}

theorem IsOrdinary.nanos_lt (h : t.IsOrdinary) : t.nanos < 1000000000 := by
  have whole := h.no_leap
  simp only [isLeap, ge_iff_le, decide_eq_false_iff_not, Nat.not_le] at whole
  exact whole

theorem le_iff_total (ha : a.nanos < 1000000000) (hb : b.nanos < 1000000000) :
    a ≤ b ↔ a.total ≤ b.total := by
  refine ⟨fun h => ?_, fun h => le_of_total ha h hb⟩
  rw [le_iff] at h
  simp only [total]
  omega

/-- No two ordinary instants are further apart than the longest margin that is counted. -/
theorem IsOrdinary.sub_lt (ha : a.IsOrdinary) (hb : b.IsOrdinary) :
    a.total - b.total < Credentials.longestMargin.totalNanos := by
  have nanos := ha.nanos_lt
  have last := ha.le_last
  have first := hb.first_le
  simp only [lastSecond] at last
  simp only [firstSecond] at first
  simp only [total, Duration.totalNanos, Credentials.longestMargin]
  omega

end Instant

namespace Credentials

theorem isCountable_iff (m : Duration) :
    isCountable m = true ↔ m.totalNanos ≤ longestMargin.totalNanos := by
  have hm := m.nanos_lt
  simp only [isCountable, Bool.or_eq_true, Bool.and_eq_true, decide_eq_true_eq, beq_iff_eq,
    Duration.totalNanos]
  simp only [longestMargin]
  omega

/-- What `isWithin` says where nothing is out of bounds, and that it says yes where something is. -/
theorem isWithin_iff {e : Instant} {m : Duration} {now : Instant} :
    isWithin e m now = true ↔
      (m.totalNanos ≤ longestMargin.totalNanos → Instant.firstSecond ≤ (e.sub m).seconds →
        e.sub m ≤ now) := by
  rw [isWithin, ← isCountable_iff]
  by_cases hc : isCountable m = true
  · rw [if_pos hc, Instant.sub?]
    by_cases hs : (e.sub m).seconds < Instant.firstSecond
    · simp [hs, Int.not_le.2 hs]
    · simp [hs, hc, Int.not_lt.1 hs]
  · simp [hc]

theorem isWithin_mono {e : Instant} {m m' : Duration} {now now' : Instant}
    (hm : m.totalNanos ≤ m'.totalNanos) (ht : now ≤ now') (h : isWithin e m now = true) :
    isWithin e m' now' = true := by
  rw [isWithin_iff] at *
  intro hc hs
  have hle := e.sub_antitone hm
  have hsec : (e.sub m').seconds ≤ (e.sub m).seconds := by
    rw [Instant.le_iff] at hle
    omega
  exact Instant.le_trans hle (Instant.le_trans (h (by omega) (by omega)) ht)

theorem expiresWithin_mono {c : Credentials} {m m' : Duration} {now now' : Instant}
    (hm : m.totalNanos ≤ m'.totalNanos) (ht : now ≤ now') (h : c.expiresWithin m now = true) :
    c.expiresWithin m' now' = true := by
  rw [expiresWithin] at *
  split
  · next e he =>
    rw [he] at h
    exact isWithin_mono hm ht h
  · next he =>
    rw [he] at h
    exact h

theorem isExpired_of_fresh {c : Credentials} {m : Duration} {now : Instant}
    (h : c.expiresWithin m now = false) : c.isExpired now = false := by
  cases he : c.isExpired now with
  | false => rfl
  | true =>
    have hm : Duration.zero.totalNanos ≤ m.totalNanos := Nat.zero_le _
    rw [expiresWithin_mono hm (Instant.le_refl now) he] at h
    cases h

theorem isWithin_iff_total {e now : Instant} (he : e.IsOrdinary) (hn : now.IsOrdinary)
    (m : Duration) : isWithin e m now = true ↔ e.total - now.total ≤ m.totalNanos := by
  have back : e.sub m = Instant.before e.seconds e.nanos m := if_pos he.nanos_lt
  obtain ⟨reached, whole⟩ := Instant.total_before e.seconds m he.nanos_lt
  have total : (e.sub m).total = e.total - m.totalNanos := by
    rw [back]
    exact reached
  rw [← back] at whole
  rw [isWithin_iff, Instant.le_iff_total whole hn.nanos_lt, total]
  constructor
  · intro h
    by_cases countable : m.totalNanos ≤ longestMargin.totalNanos
    · by_cases early : Instant.firstSecond ≤ (e.sub m).seconds
      · have reached := h countable early
        omega
      · -- what lies before the first instant lies before the present one
        have first := hn.first_le
        simp only [Instant.total] at total ⊢
        omega
    · have near := he.sub_lt hn
      omega
  · intro h _ _
    omega

/-- Credentials expire within a margin if the nanoseconds that are left do not exceed it, and once
they do they also do later and within more. -/
theorem expiresWithin_exact (c : Credentials) (m : Duration) (now : Instant) :
    (c.expiration = none → c.expiresWithin m now = false) ∧
    (∀ e, c.expiration = some e → e.IsOrdinary → now.IsOrdinary →
      (c.expiresWithin m now = true ↔ e.total - now.total ≤ m.totalNanos)) ∧
    ∀ m' now', m.totalNanos ≤ m'.totalNanos → now ≤ now' →
      c.expiresWithin m now = true → c.expiresWithin m' now' = true := by
  refine ⟨fun none => expiresWithin_of_expiration_none none m now, fun e given he hn => ?_,
    fun m' now' hm ht h => expiresWithin_mono hm ht h⟩
  rw [expiresWithin, given]
  exact isWithin_iff_total he hn m

/-- From the first instant to the last one it takes all the nanoseconds between them, which are
more than fit into 63 bits, and in a leap second credentials stay expired. -/
theorem expiresWithin_exact_of_ends :
    let last : Instant := ⟨Instant.lastSecond, 999999999, by decide⟩
    let first : Instant := ⟨Instant.firstSecond, 0, by decide⟩
    let c : Credentials := { new "AKTEST" "secret" with expiration := some last }
    let life : Duration := ⟨16544868105599, 999999999, by decide⟩
    let less : Duration := ⟨16544868105599, 999999998, by decide⟩
    last.IsOrdinary ∧ first.IsOrdinary ∧ c.expiresWithin life first = true ∧
      c.expiresWithin less first = false ∧
      c.expiresWithin .greatest ⟨59, 1500000000, by decide⟩ = true := by
  intro last first c life less
  have hl : last.IsOrdinary := ⟨by decide, by decide, by decide⟩
  have hf : first.IsOrdinary := ⟨by decide, by decide, by decide⟩
  obtain ⟨-, exact_life, later⟩ := expiresWithin_exact c life first
  have expired := (exact_life last rfl hl hf).2 (by decide)
  refine ⟨hl, hf, expired, ?_, later _ _ (by decide) (by decide) expired⟩
  obtain ⟨-, exact_less, -⟩ := expiresWithin_exact c less first
  rw [← Bool.not_eq_true, exact_less last rfl hl hf]
  decide

end Credentials

end ObjectStorage
