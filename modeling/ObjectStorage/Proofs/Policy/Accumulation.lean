import ObjectStorage.Policy.Statement
import ObjectStorage.Proofs.Policy.Lookup

/-!
# Conditions that calls have added

A statement after any sequence of calls of `withCondition`. Conditions are known by the operators in
them and the values at each place, a place being an operator and a key. One call changes its own
place alone and appends there, so the sequence counts place by place: `conditions_addAll` says what
is there in the end, and which sequences cannot be told apart.
-/
namespace ObjectStorage

namespace Conditions

def has (c : Conditions) (operator : String) : Bool := (c.get? operator).isSome

def valuesAt (c : Conditions) (operator key : String) : Option (List String) :=
  (c.get? operator).bind (·.get? key)

/-- An operator may be there without keys, so the values do not determine the conditions alone. -/
theorem eq_of_valuesAt {c d : Conditions} (operators : ∀ o, has c o = has d o)
    (values : ∀ o k, valuesAt c o k = valuesAt d o k) : c = d := by
  refine Dictionary.eq_of_get? fun o => ?_
  have there := operators o
  have same := values o
  unfold has at there
  unfold valuesAt at same
  cases hc : c.get? o with
  | none =>
    cases hd : d.get? o with
    | none => rfl
    | some keys => rw [hc, hd] at there; cases there
  | some keys =>
    cases hd : d.get? o with
    | none => rw [hc, hd] at there; cases there
    | some keys' =>
      rw [hc, hd] at same
      rw [Dictionary.eq_of_get? same]

end Conditions

namespace Statement

open Conditions

structure Addition where
  operator : String
  key : String
  values : List String
deriving DecidableEq

def Addition.isAt (a : Addition) (operator key : String) : Bool :=
  a.operator == operator && a.key == key

def add (s : Statement) (a : Addition) : Statement := s.withCondition a.operator a.key a.values

def addAll (s : Statement) (calls : List Addition) : Statement := calls.foldl add s

/-- The values that calls name for a place, in the order of the calls. -/
def named (calls : List Addition) (operator key : String) : List String :=
  (calls.filter (·.isAt operator key)).flatMap (·.values)

/-- Two sequences name the same places and for each of them the same values in the same order. -/
structure Agree (calls others : List Addition) : Prop where
  places : ∀ o k, calls.any (·.isAt o k) = others.any (·.isAt o k)
  values : ∀ o k, named calls o k = named others o k

variable {a b : Addition} {calls others : List Addition} {o k : String}

theorem Addition.isAt_iff : a.isAt o k = true ↔ a.operator = o ∧ a.key = k := by
  rw [isAt, Bool.and_eq_true, beq_iff_eq, beq_iff_eq]

theorem has_add (s : Statement) (a : Addition) (o : String) :
    has (s.add a).conditions o = (has s.conditions o || a.operator == o) := by
  rw [has, add, withCondition, Dictionary.get?_alter]
  by_cases ho : o = a.operator
  · rw [if_pos ho, ho, beq_self_eq_true, Bool.or_true]
    rfl
  · rw [if_neg ho, beq_false_of_ne (Ne.symm ho), Bool.or_false]
    rfl

/-- A call appends at its own place, and other places stay as they are. -/
theorem valuesAt_add (s : Statement) (a : Addition) (o k : String) :
    valuesAt (s.add a).conditions o k =
      if a.isAt o k then some ((valuesAt s.conditions o k).getD [] ++ a.values)
      else valuesAt s.conditions o k := by
  rw [valuesAt, add, withCondition, Dictionary.get?_alter]
  by_cases ho : o = a.operator
  · subst ho
    rw [if_pos rfl, Option.bind_some, Dictionary.get?_alter]
    have inner : ((s.conditions.get? a.operator).getD .empty).get? k =
        valuesAt s.conditions a.operator k := by
      rw [valuesAt]
      cases s.conditions.get? a.operator <;> rfl
    by_cases hk : k = a.key
    · subst hk
      rw [if_pos rfl, if_pos (Addition.isAt_iff.2 ⟨rfl, rfl⟩), inner]
    · rw [if_neg hk, if_neg fun h => hk (Addition.isAt_iff.1 h).2.symm, inner]
  · rw [if_neg ho, if_neg fun h => ho (Addition.isAt_iff.1 h).1.symm]
    rfl

theorem has_addAll (s : Statement) (calls : List Addition) (o : String) :
    has (s.addAll calls).conditions o = (has s.conditions o || calls.any (·.operator == o)) := by
  induction calls generalizing s with
  | nil =>
    rw [List.any_nil, Bool.or_false]
    rfl
  | cons a calls ih =>
    rw [List.any_cons, ← Bool.or_assoc, ← has_add]
    exact ih (s.add a)

theorem isSome_valuesAt_addAll (s : Statement) (calls : List Addition) (o k : String) :
    (valuesAt (s.addAll calls).conditions o k).isSome =
      ((valuesAt s.conditions o k).isSome || calls.any (·.isAt o k)) := by
  induction calls generalizing s with
  | nil =>
    rw [List.any_nil, Bool.or_false]
    rfl
  | cons a calls ih =>
    have step : (valuesAt (s.add a).conditions o k).isSome =
        ((valuesAt s.conditions o k).isSome || a.isAt o k) := by
      rw [valuesAt_add]
      cases a.isAt o k <;> simp
    rw [List.any_cons, ← Bool.or_assoc, ← step]
    exact ih (s.add a)

theorem getD_valuesAt_addAll (s : Statement) (calls : List Addition) (o k : String) :
    (valuesAt (s.addAll calls).conditions o k).getD [] =
      (valuesAt s.conditions o k).getD [] ++ named calls o k := by
  induction calls generalizing s with
  | nil =>
    rw [named, List.filter_nil, List.flatMap_nil, List.append_nil]
    rfl
  | cons a calls ih =>
    have step : (valuesAt (s.add a).conditions o k).getD [] ++ named calls o k =
        (valuesAt s.conditions o k).getD [] ++ named (a :: calls) o k := by
      rw [valuesAt_add, named, named, List.filter_cons]
      cases a.isAt o k <;> simp
    rw [← step]
    exact ih (s.add a)

theorem addAll_frame (s : Statement) (calls : List Addition) :
    s.addAll calls = { s with conditions := (s.addAll calls).conditions } := by
  induction calls generalizing s with
  | nil => rfl
  | cons a calls ih => exact ih (s.add a)

theorem any_operator_iff :
    calls.any (·.operator == o) = true ↔ ∃ k, calls.any (·.isAt o k) = true := by
  simp only [List.any_eq_true, Addition.isAt_iff, beq_iff_eq]
  constructor
  · rintro ⟨a, ha, ho⟩
    exact ⟨a.key, a, ha, ho, rfl⟩
  · rintro ⟨_, a, ha, ho, -⟩
    exact ⟨a, ha, ho⟩

theorem Agree.addAll_eq (h : Agree calls others) (s : Statement) :
    s.addAll calls = s.addAll others := by
  have operators (o : String) :
      has (s.addAll calls).conditions o = has (s.addAll others).conditions o := by
    rw [has_addAll, has_addAll]
    congr 1
    rw [Bool.eq_iff_iff, any_operator_iff, any_operator_iff]
    simp only [h.places]
  have values (o k : String) :
      valuesAt (s.addAll calls).conditions o k = valuesAt (s.addAll others).conditions o k := by
    have there : (valuesAt (s.addAll calls).conditions o k).isSome =
        (valuesAt (s.addAll others).conditions o k).isSome := by
      rw [isSome_valuesAt_addAll, isSome_valuesAt_addAll, h.places]
    have same : (valuesAt (s.addAll calls).conditions o k).getD [] =
        (valuesAt (s.addAll others).conditions o k).getD [] := by
      rw [getD_valuesAt_addAll, getD_valuesAt_addAll, h.values]
    revert there same
    cases valuesAt (s.addAll calls).conditions o k <;>
      cases valuesAt (s.addAll others).conditions o k <;> simp
  rw [addAll_frame s calls, addAll_frame s others, eq_of_valuesAt operators values]

theorem agree_swap (apart : (a.operator, a.key) ≠ (b.operator, b.key))
    (before rest : List Addition) :
    Agree (before ++ a :: b :: rest) (before ++ b :: a :: rest) := by
  constructor
  · intro o k
    simp only [List.any_append, List.any_cons]
    rw [Bool.or_left_comm (a.isAt o k)]
  · intro o k
    -- At most one of the two is at the place.
    have one : a.isAt o k = false ∨ b.isAt o k = false := by
      rw [← Bool.not_eq_true, ← Bool.not_eq_true, ← not_and_or]
      rintro ⟨ha, hb⟩
      obtain ⟨rfl, rfl⟩ := Addition.isAt_iff.1 ha
      obtain ⟨ho, hk⟩ := Addition.isAt_iff.1 hb
      exact apart (by rw [ho, hk])
    simp only [named, List.filter_append, List.filter_cons]
    rcases one with h | h <;> simp only [h, Bool.false_eq_true, if_false]

/-- Nothing is lost and nothing added in another place: what is there after a sequence of calls, and
in which order. Calls for different places may change places, and sequences that agree at every place
give one statement and one text. -/
theorem conditions_addAll (s : Statement) (calls : List Addition) :
    (∀ o k, (valuesAt (s.addAll calls).conditions o k).isSome ↔
      (valuesAt s.conditions o k).isSome ∨ ∃ a ∈ calls, a.operator = o ∧ a.key = k) ∧
    (∀ o k values, valuesAt (s.addAll calls).conditions o k = some values →
      values = (valuesAt s.conditions o k).getD [] ++
        (calls.filter (·.isAt o k)).flatMap (·.values)) ∧
    (∀ o, has (s.addAll calls).conditions o ↔
      has s.conditions o ∨ ∃ a ∈ calls, a.operator = o) ∧
    s.addAll calls = { s with conditions := (s.addAll calls).conditions } ∧
    (∀ before a b rest, calls = before ++ a :: b :: rest →
      (a.operator, a.key) ≠ (b.operator, b.key) →
      s.addAll calls = s.addAll (before ++ b :: a :: rest)) ∧
    ∀ others, Agree calls others → s.addAll calls = s.addAll others ∧
      Utf8.encode (s.addAll calls).toJson.printChars =
        Utf8.encode (s.addAll others).toJson.printChars := by
  refine ⟨fun o k => ?_, fun o k values h => ?_, fun o => ?_, addAll_frame s calls, ?_,
    fun others agree => ?_⟩
  · simp [isSome_valuesAt_addAll, Addition.isAt_iff]
  · have all := getD_valuesAt_addAll s calls o k
    rw [h, Option.getD_some] at all
    exact all
  · simp [has_addAll]
  · rintro before a b rest rfl apart
    exact (agree_swap apart before rest).addAll_eq s
  · have same := agree.addAll_eq s
    exact ⟨same, by rw [same]⟩

/-- A call without values makes its place, wherever it stands between two calls for another one. -/
theorem conditions_addAll_prefix :
    let first : Addition := ⟨"StringLike", "tos:prefix", ["a"]⟩
    let bare : Addition := ⟨"IpAddress", "tos:SourceIp", []⟩
    let second : Addition := ⟨"StringLike", "tos:prefix", ["b", "a"]⟩
    let s := empty.addAll [first, bare, second]
    (valuesAt s.conditions "IpAddress" "tos:SourceIp").isSome ∧
    (∀ values, valuesAt s.conditions "StringLike" "tos:prefix" = some values →
      values = ["a", "b", "a"]) ∧
    s = empty.addAll [bare, first, second] ∧
    Utf8.encode s.toJson.printChars =
      Utf8.encode (empty.addAll [first, second, bare]).toJson.printChars := by
  intro first bare second s
  have all := conditions_addAll empty [first, bare, second]
  refine ⟨(all.1 _ _).2 (.inr ⟨bare, by simp, rfl, rfl⟩), fun values h => ?_,
    all.2.2.2.2.1 [] first bare [second] rfl (by decide), ?_⟩
  · exact (all.2.1 _ _ values h).trans (by decide)
  · exact (all.2.2.2.2.2 [first, second, bare]
      (agree_swap (a := bare) (b := second) (by decide) [first] [])).2

end Statement

end ObjectStorage
