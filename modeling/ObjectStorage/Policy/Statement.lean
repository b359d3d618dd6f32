import ObjectStorage.Policy.Effect
import ObjectStorage.Policy.Principals

/-!
# Statements

One rule of a policy. Every field may be missing, and a missing field is not written. Conditions
map an operator and a key to the values allowed; `withCondition` only ever adds values.
-/
namespace ObjectStorage

abbrev Conditions := Dictionary (Dictionary (List String))

structure Statement where
  sid : Option String
  effect : Option Effect
  principals : Principals
  actions : Compact
  resources : Compact
  conditions : Conditions
deriving DecidableEq

namespace Statement

def empty : Statement := ⟨none, none, .unstated, .empty, .empty, .empty⟩

instance : Inhabited Statement := ⟨empty⟩

def ofEffect (e : Effect) : Statement := { empty with effect := some e }

def withSid (s : Statement) (sid : String) : Statement := { s with sid := some sid }

def withPrincipals (s : Statement) (p : Principals) : Statement := { s with principals := p }

def withActions (s : Statement) (c : Compact) : Statement := { s with actions := c }

def withResources (s : Statement) (c : Compact) : Statement := { s with resources := c }

/-- Adds values under an operator and a key; both are there afterwards even without values. -/
def withCondition (s : Statement) (operator key : String) (values : List String) : Statement :=
  { s with
    conditions := s.conditions.alter operator fun keys? =>
      (keys?.getD .empty).alter key fun values? => values?.getD [] ++ values }

def conditionsToJson (c : Conditions) : Json.Value :=
  .object (c.entries.map fun (operator, keys) =>
    (operator, .object (keys.entries.map fun (key, values) => (key, .list (values.map .text)))))

def conditionsToJson? (c : Conditions) : Option Json.Value :=
  if c.isEmpty then none else some (conditionsToJson c)

open Json.Value in
def toJson (s : Statement) : Json.Value :=
  .object (
    member "Sid" (s.sid.map .text) ++
    member "Effect" (s.effect.map fun e => .text e.word) ++
    member "Principal" s.principals.toJson? ++
    member "Action" s.actions.toJson? ++
    member "Resource" s.resources.toJson? ++
    member "Condition" (conditionsToJson? s.conditions))

def conditionsOfTree (t : Json.Tree) : Except Json.Error Conditions := do
  let operators? ← Json.optional (Json.Tree.toEntries (Json.Tree.toEntries Compact.ofTree)) t
  return .ofList ((operators?.getD []).map fun (operator, keys) =>
    (operator, .ofList (keys.map fun (key, c) => (key, c.values))))

open Json in
def shape : Json.Shape Statement where
  name := "Statement"
  fields := [
    ⟨"Sid", false, fun t => do
      let v ← optional Tree.toText t
      return fun s => { s with sid := v }⟩,
    ⟨"Effect", false, fun t => do
      let v ← optional Tree.toText t
      return fun s => { s with effect := v.map .ofWord }⟩,
    ⟨"Principal", false, fun t => do
      let v ← Principals.ofTree t
      return fun s => { s with principals := v }⟩,
    ⟨"Action", false, fun t => do
      let v ← Compact.ofTree t
      return fun s => { s with actions := v }⟩,
    ⟨"Resource", false, fun t => do
      let v ← Compact.ofTree t
      return fun s => { s with resources := v }⟩,
    ⟨"Condition", false, fun t => do
      let v ← conditionsOfTree t
      return fun s => { s with conditions := v }⟩]
  blank := empty

def decode (data : Bytes) : Except Json.Error Statement := Json.decode shape.read data

end Statement

end ObjectStorage
