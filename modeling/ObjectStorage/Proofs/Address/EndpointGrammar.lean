import Mathlib.Data.List.Infix
import ObjectStorage.Endpoint
import ObjectStorage.Proofs.Text.Trimmed

/-!
# The grammar of endpoints

Which texts are endpoints and what is derived from one, said apart from how they are read: the URL
that a text denotes, the region that the first label of its host names, and the hosts in front of
which no label can stand.
-/
namespace ObjectStorage.Endpoint

def written (text : String) : String :=
  if "://".toList <:+: (Blank.trim text).toList then Blank.trim text
  else "https://" ++ Blank.trim text

structure Denotes (text : String) (u : Url) : Prop where
  read : Url.read (written text) = .ok u
  scheme : u.scheme = "http" ∨ u.scheme = "https"
  host : u.host.isSome
  query : u.query = none
  fragment : u.fragment = none

theorem hasScheme_iff {cs : List Char} : hasScheme cs = true ↔ "://".toList <:+: cs := by
  induction cs with
  | nil => simp [hasScheme]
  | cons c r ih =>
    rw [hasScheme, Bool.or_eq_true, List.isPrefixOf_iff_prefix, ih, List.infix_cons_iff]

theorem problem?_eq_none_iff {u : Url} : problem? u = none ↔
    (u.scheme = "http" ∨ u.scheme = "https") ∧ u.host.isSome ∧ u.query = none ∧
      u.fragment = none := by
  unfold problem?
  by_cases scheme : u.scheme = "http" ∨ u.scheme = "https"
  · have known : (u.scheme != "http" && u.scheme != "https") = false := by
      rcases scheme with h | h <;> simp [h]
    rw [known]
    cases u.host <;> cases u.query <;> cases u.fragment <;> simp [scheme]
  · have unknown : (u.scheme != "http" && u.scheme != "https") = true := by
      simpa [not_or] using scheme
    simp [unknown, scheme]

theorem read_defaultScheme : Url.read defaultScheme = .error .emptyHost := by
  rfl

theorem read_eq_ok_iff {text : String} {u : Url} : read text = .ok u ↔ Denotes text u := by
  have same : written text = if hasScheme (Blank.trim text).toList then Blank.trim text
      else defaultScheme ++ Blank.trim text := by
    unfold written
    simp only [hasScheme_iff]
    rfl
  have meaning : Denotes text u ↔ Url.read (written text) = .ok u ∧ problem? u = none := by
    rw [problem?_eq_none_iff]
    exact ⟨fun h => ⟨h.read, h.scheme, h.host, h.query, h.fragment⟩,
      fun ⟨read, scheme, host, query, fragment⟩ => ⟨read, scheme, host, query, fragment⟩⟩
  rw [meaning, same, read]
  by_cases blank : Blank.trim text = ""
  · -- A blank text is refused on its own, and would be refused as a URL too.
    simp [blank, invalid, hasScheme, read_defaultScheme]
  · rw [if_neg (by simpa using blank)]
    cases Url.read (if hasScheme (Blank.trim text).toList then Blank.trim text
      else defaultScheme ++ Blank.trim text) with
    | error e => simp [invalid]
    | ok v =>
      cases hv : problem? v with
      | some problem =>
        simp only [hv, invalid, reduceCtorEq, Except.ok.injEq, false_iff, not_and]
        rintro rfl
        rw [hv]
        exact Option.some_ne_none problem
      | none =>
        simp only [hv, Except.ok.injEq, iff_self_and]
        rintro rfl
        exact hv

theorem after?_eq_some_iff {start cs rest : List Char} :
    after? start cs = some rest ↔ cs = start ++ rest := by
  rw [after?]
  split
  · next h =>
    obtain ⟨r, rfl⟩ := List.isPrefixOf_iff_prefix.1 h
    rw [List.drop_left, Option.some_inj, List.append_cancel_left_eq]
  · next h =>
    constructor
    · intro none
      cases none
    · rintro rfl
      exact absurd (List.isPrefixOf_iff_prefix.2 (List.prefix_append start rest)) h

theorem after?_eq_none_iff {start cs : List Char} : after? start cs = none ↔ ¬ start <+: cs := by
  rw [Option.eq_none_iff_forall_ne_some]
  constructor
  · rintro h ⟨rest, rfl⟩
    exact h rest (after?_eq_some_iff.2 rfl)
  · intro h rest there
    exact h ⟨rest, (after?_eq_some_iff.1 there).symm⟩

/-- A region stands behind `tos-`, and an `s3-` before it belongs to neither. -/
def LabelNames (label region : List Char) : Prop :=
  region ≠ [] ∧ (label = "tos-s3-".toList ++ region ∨
    label = "tos-".toList ++ region ∧ ¬ "s3-".toList <+: region)

theorem regionOfLabel?_eq_some_iff {label region : List Char} :
    regionOfLabel? label = some region ↔ LabelNames label region := by
  have kept (found : List Char) :
      (if found.isEmpty then none else some found) = some region ↔ region ≠ [] ∧ found = region := by
    cases found with
    | nil => simp
    | cons c r => simpa using fun h => h ▸ List.cons_ne_nil c r
  rw [regionOfLabel?, LabelNames]
  cases behind : after? "tos-".toList label with
  | none =>
    have none : ¬ "tos-".toList <+: label := after?_eq_none_iff.1 behind
    simp only [Option.bind_none, reduceCtorEq, false_iff, not_and, not_or]
    refine fun _ => ⟨?_, ?_⟩
    · rintro rfl
      exact none ⟨"s3-".toList ++ region, rfl⟩
    · rintro rfl
      exact absurd (List.prefix_append _ region) none
  | some rest =>
    rw [after?_eq_some_iff] at behind
    subst behind
    rw [Option.bind_some, kept, show "tos-s3-".toList = "tos-".toList ++ "s3-".toList from rfl,
      List.append_assoc, List.append_cancel_left_eq, List.append_cancel_left_eq]
    refine and_congr_right fun _ => ?_
    cases second : after? "s3-".toList rest with
    | none =>
      have none : ¬ "s3-".toList <+: rest := after?_eq_none_iff.1 second
      constructor
      · rintro rfl
        exact .inr ⟨rfl, none⟩
      · rintro (rfl | ⟨rfl, -⟩)
        · exact absurd (List.prefix_append _ region) none
        · rfl
    | some found =>
      rw [after?_eq_some_iff] at second
      subst second
      rw [Option.getD_some, List.append_cancel_left_eq]
      constructor
      · exact .inl
      · rintro (rfl | ⟨rfl, none⟩)
        · rfl
        · exact absurd (List.prefix_append _ found) none

def NamesRegion (u : Url) (region : String) : Prop :=
  ∃ (name : String) (label : List Char), u.host = some (.name name) ∧ '.' ∉ label ∧
    (name.toList = label ∨ ∃ labels, name.toList = label ++ '.' :: labels) ∧
    LabelNames label region.toList

theorem takeWhile_eq_iff {cs label : List Char} : cs.takeWhile (· != '.') = label ↔
    '.' ∉ label ∧ (cs = label ∨ ∃ labels, cs = label ++ '.' :: labels) := by
  constructor
  · rintro rfl
    refine ⟨fun dot => by simpa using List.mem_takeWhile_imp dot, ?_⟩
    have all := List.takeWhile_append_dropWhile (p := (· != '.')) (l := cs)
    cases behind : cs.dropWhile (· != '.') with
    | nil => exact .inl (by rw [behind, List.append_nil] at all; exact all.symm)
    | cons c labels =>
      have first : (cs.dropWhile (· != '.')).head? = some c := by
        rw [behind]
        rfl
      have dot : c = '.' := by simpa using Blank.head?_dropWhile first
      exact .inr ⟨labels, by rw [behind, dot] at all; exact all.symm⟩
  · rintro ⟨nodot, whole⟩
    have kept : ∀ c ∈ label, (c != '.') = true := fun c hc => by
      simpa using fun h : c = '.' => nodot (h ▸ hc)
    rcases whole with rfl | ⟨labels, rfl⟩
    · exact List.takeWhile_eq_self_iff.2 kept
    · rw [List.takeWhile_append_of_pos kept]
      simp

theorem region?_eq_some_iff {u : Url} {region : String} :
    region? u = some region ↔ NamesRegion u region := by
  unfold region? NamesRegion
  cases u.host with
  | none => simp
  | some host =>
    cases host with
    | v4 a => simp
    | v6 a => simp
    | name name =>
      simp only [Option.map_eq_some_iff, regionOfLabel?_eq_some_iff, Option.some.injEq,
        Host.name.injEq]
      constructor
      · rintro ⟨found, named, rfl⟩
        obtain ⟨nodot, whole⟩ := takeWhile_eq_iff.1 rfl
        exact ⟨name, _, rfl, nodot, whole, by rwa [String.toList_ofList]⟩
      · rintro ⟨_, label, rfl, nodot, whole, named⟩
        refine ⟨region.toList, ?_, String.ofList_toList⟩
        rwa [takeWhile_eq_iff.2 ⟨nodot, whole⟩]

theorem isBare_iff {u : Url} : isBare u = true ↔
    (∃ a, u.host = some (.v4 a)) ∨ (∃ a, u.host = some (.v6 a)) ∨
      u.host = some (.name "localhost") := by
  unfold isBare
  cases u.host with
  | none => simp
  | some host => cases host <;> simp

end ObjectStorage.Endpoint
