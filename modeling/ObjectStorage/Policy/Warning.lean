import ObjectStorage.Policy.Rules

/-!
# Warnings about policies

Problems that do not keep a policy from being written. They come in the order of the statements.
-/
namespace ObjectStorage

inductive Warning where
  | missingEffect (index : Nat)
  | unknownEffect (index : Nat) (effect : String)
  | invalidSid (index : Nat) (sid : String)
  | missingActions (index : Nat)
deriving DecidableEq, Repr

namespace Warning

def message : Warning → String
  | missingEffect i => "statement " ++ toString i ++ " has no Effect"
  | unknownEffect i effect =>
    "statement " ++ toString i ++ " has Effect '" ++ effect ++ "', expected Allow or Deny"
  | invalidSid i sid =>
    "statement " ++ toString i ++ " has Sid '" ++ sid ++ "' with characters outside [A-Za-z0-9]"
  | missingActions i => "statement " ++ toString i ++ " has no Action"

def isValidSid (sid : String) : Bool := sid.toList.all Char.isAlphanum

end Warning

open Warning in
def Statement.warnings (i : Nat) (s : Statement) : List Warning :=
  (match s.effect with
    | none => [missingEffect i]
    | some (.other word) => [unknownEffect i word]
    | some _ => []) ++
  (match s.sid with
    | some sid => if isValidSid sid then [] else [invalidSid i sid]
    | none => []) ++
  (if s.actions.isEmpty then [missingActions i] else [])

def Rules.warnings (r : Rules) : List Warning :=
  r.statements.zipIdx.flatMap fun (s, i) => s.warnings i

end ObjectStorage
