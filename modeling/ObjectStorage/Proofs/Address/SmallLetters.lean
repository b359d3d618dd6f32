import ObjectStorage.Proofs.Address.Target

/-!
# Small letters

What a domain is written with is mapped and composed, and no step of that leaves a capital letter:
the tables hold none, and syllables are far from ASCII. So the name of an endpoint's host is its own
lower case: `isSmall_of_read`.
-/
namespace ObjectStorage

namespace Unicode

theorem Table.rows_ofList (text : List Char) :
    Table.rows (String.ofList text) = ((text.splitOnP Char.isWhitespace).filter (!·.isEmpty)).map
      fun row => (row.splitOn '.').map Table.number := by
  rw [Table.rows, String.toList_ofList]

def isSmallPoint (n : Nat) : Bool := n < 0x41 || 0x5A < n

def hasSmallImages : List Nat → Bool
  | [_, b] => isSmallPoint b
  | [_, n, _, b, t] => (List.range n).all fun k => isSmallPoint (b + k * t)
  | _ => true

set_option maxRecDepth 1000000 in
theorem compositionRows_small : compositionRows.all (·.all isSmallPoint) = true := by
  rw [compositionRows, Table.rows_ofList]
  decide +kernel

set_option maxRecDepth 1000000 in
theorem expansionRows_small : expansionRows.all (·.all isSmallPoint) = true := by
  rw [expansionRows, Table.rows_ofList]
  decide +kernel

set_option maxRecDepth 1000000 in
theorem runRows_small : runRows.all hasSmallImages = true := by
  rw [runRows, Table.rows_ofList]
  decide +kernel

def IsSmall (c : Char) : Prop := isSmallPoint c.toNat = true

instance (c : Char) : Decidable (IsSmall c) := inferInstanceAs (Decidable (_ = true))

theorem isSmall_ofNat {n : Nat} (h : isSmallPoint n = true) : IsSmall (Char.ofNat n) := by
  by_cases valid : n.isValidChar
  · have point : Char.ofNat n = Char.ofNatAux n valid := dif_pos valid
    rw [point]
    exact h
  · -- what is no code point stands for the first one
    have none : Char.ofNat n = '\x00' := dif_neg valid
    rw [none]
    rfl

theorem isSmall_ofNat_of_lt {n : Nat} (h : 0x5A < n) : IsSmall (Char.ofNat n) :=
  isSmall_ofNat (by simp [isSmallPoint, h])

theorem isSmall_of_lt {c : Char} (h : 0x5A < c.toNat) : IsSmall c := by
  simp [IsSmall, isSmallPoint, h]

theorem toLower_eq_self {c : Char} (h : IsSmall c) : c.toLower = c := by
  refine dif_neg ?_
  rintro ⟨lower, upper⟩
  simp only [IsSmall, isSmallPoint, Bool.or_eq_true, decide_eq_true_eq] at h
  have hl : 0x41 ≤ c.toNat := UInt32.le_iff_toNat_le.1 lower
  have hu : c.toNat ≤ 0x5A := UInt32.le_iff_toNat_le.1 upper
  omega

theorem isSmall_toLower {c : Char} (h : c.toNat < 0x80) : IsSmall c.toLower :=
  forall_char_lt (p := fun c => IsSmall c.toLower) (by decide) h

theorem isSmall_of_rows {rows : List (List Nat)} (h : rows.all (·.all isSmallPoint) = true)
    {row : List Nat} (hr : row ∈ rows) : ∀ n ∈ row, IsSmall (Char.ofNat n) := fun n hn =>
  isSmall_ofNat (List.all_eq_true.1 (List.all_eq_true.1 h row hr) n hn)

theorem Run.image?_small {row : List Nat} (small : hasSmallImages row = true) {run : Run}
    (hr : Run.ofRow? row = some run) {n m : Nat} (h : run.image? n = some m) :
    isSmallPoint m = true := by
  have image : ∃ k < run.count, m = run.target + k * run.targetStep := by
    rw [Run.image?] at h
    split at h
    · next hk =>
      cases h
      exact ⟨_, hk.2, rfl⟩
    · cases h
  obtain ⟨k, hk, rfl⟩ := image
  rw [Run.ofRow?.eq_def] at hr
  split at hr
  · cases hr
    obtain rfl : k = 0 := Nat.lt_one_iff.1 hk
    simpa [hasSmallImages] using small
  · cases hr
    exact List.all_eq_true.1 small k (List.mem_range.2 hk)
  · cases hr

theorem isSmall_of_image {n m : Nat} (h : runs.findSome? (·.image? n) = some m) :
    IsSmall (Char.ofNat m) := by
  obtain ⟨run, hrun, himage⟩ := List.exists_of_findSome?_eq_some h
  obtain ⟨row, hrow, hr⟩ := List.mem_filterMap.1 hrun
  exact isSmall_ofNat (Run.image?_small (List.all_eq_true.1 runRows_small row hrow) hr himage)

theorem isSmall_of_mapChar? {c : Char} {cs : List Char} (h : mapChar? c = some cs) :
    ∀ d ∈ cs, IsSmall d := by
  intro d hd
  by_cases ascii : c.toNat < 0x80
  · rw [mapChar?_of_ascii ascii] at h
    cases h
    rw [List.mem_singleton.1 hd]
    exact isSmall_toLower ascii
  · simp only [mapChar?, if_neg ascii] at h
    split at h
    · cases h
      cases hd
    · split at h
      · cases h
      · split at h
        · next m _ hm =>
          cases h
          rw [List.mem_singleton.1 hd]
          exact isSmall_of_image hm
        · next row hm hrow =>
          cases h
          obtain ⟨n, hn, rfl⟩ := List.mem_map.1 hd
          exact isSmall_of_rows expansionRows_small (List.mem_of_find?_eq_some hrow) n
            (List.mem_of_mem_tail hn)
        · cases h
          rw [List.mem_singleton.1 hd]
          exact isSmall_of_lt (by omega)

theorem isSmall_of_mapText? {s mapped : List Char} (h : mapText? s = some mapped) :
    ∀ c ∈ mapped, IsSmall c := by
  obtain ⟨parts, hp, rfl⟩ := Option.map_eq_some_iff.1 h
  clear h
  induction s generalizing parts with
  | nil =>
    cases hp
    simp
  | cons c s ih =>
    rw [List.mapM_cons] at hp
    obtain ⟨part, hc, hp⟩ := Option.bind_eq_some_iff.1 hp
    obtain ⟨later, hs, hp⟩ := Option.bind_eq_some_iff.1 hp
    cases hp
    intro d hd
    rw [List.flatten_cons] at hd
    rcases List.mem_append.1 hd with hd | hd
    · exact isSmall_of_mapChar? hc d hd
    · exact ih later hs d hd

theorem isSmall_of_compositions {c : Char} {parts : List Char} (h : (c, parts) ∈ compositions) :
    IsSmall c ∧ ∀ d ∈ parts, IsSmall d := by
  obtain ⟨row, hrow, hr⟩ := List.mem_filterMap.1 h
  have small := isSmall_of_rows compositionRows_small hrow
  split at hr
  · next n ns =>
    cases hr
    refine ⟨small n List.mem_cons_self, fun d hd => ?_⟩
    obtain ⟨m, hm, rfl⟩ := List.mem_map.1 hd
    exact small m (List.mem_cons_of_mem n hm)
  · cases hr

theorem isSmall_syllableParts (k : Nat) : ∀ c ∈ syllableParts k, IsSmall c := by
  intro c hc
  simp only [syllableParts, List.mem_cons] at hc
  rcases hc with rfl | rfl | hc
  · exact isSmall_ofNat_of_lt (by omega)
  · exact isSmall_ofNat_of_lt (by omega)
  · split at hc
    · cases hc
    · rw [List.mem_singleton.1 hc]
      exact isSmall_ofNat_of_lt (by omega)

theorem isSmall_decomposeChar {c : Char} (h : IsSmall c) : ∀ d ∈ decomposeChar c, IsSmall d := by
  intro d hd
  rw [decomposeChar] at hd
  split at hd
  · rwa [List.mem_singleton.1 hd]
  · split at hd
    · exact isSmall_syllableParts _ d hd
    · split at hd
      · next found => exact (isSmall_of_compositions (List.mem_of_find?_eq_some found)).2 d hd
      · rw [List.mem_singleton.1 hd]
        exact h

theorem isSmall_of_composeSyllable? {a b c : Char} (h : composeSyllable? a b = some c) :
    IsSmall c := by
  rw [composeSyllable?] at h
  split at h
  · rw [← Option.some.inj h]
    exact isSmall_ofNat_of_lt (by omega)
  · split at h
    · next hs =>
      rw [← Option.some.inj h]
      have syllable := hs.1
      simp only [isSyllable, Bool.and_eq_true, decide_eq_true_eq] at syllable
      exact isSmall_ofNat_of_lt (by omega)
    · cases h

theorem isSmall_of_composePair? {a b c : Char} (h : composePair? a b = some c) : IsSmall c := by
  rw [composePair?] at h
  split at h
  · cases h
  · split at h
    · next hs =>
      cases h
      exact isSmall_of_composeSyllable? hs
    · obtain ⟨entry, found, rfl⟩ := Option.map_eq_some_iff.1 h
      exact (isSmall_of_compositions (List.mem_of_find?_eq_some found)).1

theorem isSmall_sortMarks {s : List Char} (h : ∀ c ∈ s, IsSmall c) :
    ∀ c ∈ sortMarks s, IsSmall c := by
  have step : ∀ r : List Char, (∀ c ∈ r, IsSmall c) →
      ∀ c ∈ s.foldl (fun r c => sink c r) r, IsSmall c := by
    induction s with
    | nil => exact fun r hr => hr
    | cons d s ih =>
      intro r hr
      refine ih (fun c hc => h c (List.mem_cons_of_mem d hc)) (sink d r) fun c hc => ?_
      rcases mem_sink.1 hc with rfl | hc
      · exact h c List.mem_cons_self
      · exact hr c hc
  intro c hc
  exact step [] (by simp) c (List.mem_reverse.1 hc)

theorem isSmall_joinMarks {letter : Char} {marks s : List Char} (hl : IsSmall letter)
    (hm : ∀ c ∈ marks, IsSmall c) (h : ∀ c ∈ s, IsSmall c) :
    ∀ c ∈ joinMarks letter marks s, IsSmall c := by
  induction s generalizing letter marks with
  | nil => simpa [joinMarks] using ⟨hl, hm⟩
  | cons d r ih =>
    have hd := h d List.mem_cons_self
    have hr : ∀ c ∈ r, IsSmall c := fun c hc => h c (List.mem_cons_of_mem d hc)
    rw [joinMarks.eq_def]
    simp only
    split
    · next joined hj =>
      have pair := (Option.ite_none_right_eq_some.1 hj).2
      exact ih (isSmall_of_composePair? pair) hm hr
    · split
      · intro c hc
        rcases List.mem_append.1 hc with hc | hc
        · rcases List.mem_cons.1 hc with rfl | hc
          · exact hl
          · exact hm c (List.mem_reverse.1 hc)
        · exact ih hd (by simp) hr c hc
      · exact ih hl (List.forall_mem_cons.2 ⟨hd, hm⟩) hr

theorem isSmall_compose {s : List Char} (h : ∀ c ∈ s, IsSmall c) : ∀ c ∈ compose s, IsSmall c := by
  have parts : ∀ c ∈ decompose s, IsSmall c := by
    intro c hc
    obtain ⟨d, hd, hc⟩ := List.mem_flatMap.1 hc
    exact isSmall_decomposeChar (h d hd) c hc
  have sorted := isSmall_sortMarks parts
  rw [compose, joinAll]
  split
  · exact sorted
  · next c r hdrop =>
    have later : ∀ d ∈ c :: r, IsSmall d := fun d hd =>
      sorted d ((List.dropWhile_sublist _).subset (hdrop ▸ hd))
    intro d hd
    rcases List.mem_append.1 hd with hd | hd
    · exact sorted d ((List.takeWhile_sublist _).subset hd)
    · exact isSmall_joinMarks (later c List.mem_cons_self) (by simp)
        (fun e he => later e (List.mem_cons_of_mem c he)) d hd

end Unicode

namespace Domain

open Unicode

theorem isSmall_writeLabel {label : List Char} (h : ∀ c ∈ label, IsSmall c) :
    ∀ c ∈ writeLabel label, IsSmall c := by
  intro c hc
  rw [writeLabel] at hc
  split at hc
  · exact h c hc
  · rcases List.mem_append.1 hc with hc | hc
    · have hmark : mark.all (fun x => decide (IsSmall x)) = true := by decide
      exact of_decide_eq_true (List.all_eq_true.1 hmark c hc)
    · have digits : ∀ d < 36, IsSmall (Punycode.digit d) := by decide
      exact Punycode.forall_encode digits (by decide) (fun x hx _ => h x hx) c hc

theorem isSmall_read {b : Bytes} {name : List Char} (h : read b = .ok name) :
    ∀ c ∈ name, IsSmall c := by
  rw [read] at h
  split at h
  · next labels hl =>
    cases h
    obtain ⟨text, -, hl⟩ := Option.bind_eq_some_iff.1 hl
    obtain ⟨mapped, hm, rfl, -⟩ := labels?_eq_some hl
    have small := isSmall_compose (isSmall_of_mapText? hm)
    intro c hc
    rcases mem_intercalate hc with rfl | ⟨w, hw, hcw⟩
    · decide
    · obtain ⟨label, hlabel, rfl⟩ := List.mem_map.1 hw
      exact isSmall_writeLabel (fun x hx => small x (mem_of_mem_splitOn hlabel hx)) c hcw
  · cases h

end Domain

namespace Host

theorem isSmall_of_read {cs : List Char} {n : String} (h : read cs = .ok (.name n)) :
    ∀ c ∈ n.toList, Unicode.IsSmall c := by
  cases hb : bracketed? cs with
  | some x =>
    rw [read, hb] at h
    obtain ⟨a, ha⟩ := eq_v6_of_bracketed (hb.trans (congrArg some h))
    cases ha
  | none =>
    obtain ⟨name, hd, -, ⟨-, a, -, hv⟩ | ⟨-, hn⟩⟩ := read_eq_ok hb h
    · cases hv
    · cases hn
      rw [String.toList_ofList]
      exact Domain.isSmall_read hd

end Host

namespace Endpoint

theorem map_toLower_host {text : String} {e : Url} (h : read text = .ok e) {n : String}
    (hn : e.host = some (.name n)) : n.toList.map Char.toLower = n.toList := by
  obtain ⟨-, host, written, hhost, hr⟩ := exists_host_of_read h
  rw [hn] at hhost
  cases hhost
  have small := Host.isSmall_of_read hr
  exact (List.map_congr_left fun c hc => Unicode.toLower_eq_self (small c hc)).trans (List.map_id _)

end Endpoint

end ObjectStorage
