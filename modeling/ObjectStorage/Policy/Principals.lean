import ObjectStorage.Policy.Compact
import ObjectStorage.Policy.Dictionary

/-!
# Principals

Whom a statement is about: unstated, everyone, or identities listed by provider. Everyone is
written as a star; a provider called star, or an identity called star, is not everyone.
-/
namespace ObjectStorage

inductive Principals where
  | unstated
  | everyone
  | listed (providers : Dictionary Compact)
deriving DecidableEq

namespace Principals

instance : Inhabited Principals := ⟨unstated⟩

def star : String := "*"

/-- Providers without identities are left out, and nobody left is unstated. -/
def ofProviders (entries : List (String × Compact)) : Principals :=
  let d := Dictionary.ofList (entries.filter fun e => !e.2.isEmpty)
  if d.isEmpty then unstated else listed d

def isAbsent : Principals → Bool
  | unstated => true
  | everyone => false
  | listed providers => providers.entries.all fun e => e.2.isEmpty

def get? : Principals → String → Option Compact
  | listed providers, provider => providers.get? provider
  | _, _ => none

def toJson : Principals → Json.Value
  | unstated => .null
  | everyone => .text star
  | listed providers =>
    .object ((providers.filter fun c => !c.isEmpty).entries.map fun e => (e.1, e.2.toJson))

def toJson? (p : Principals) : Option Json.Value := if p.isAbsent then none else some p.toJson

def encode (p : Principals) : Bytes :=
  if p.isAbsent then [] else Utf8.encode p.toJson.printChars

def expected : String := "\"*\", [\"*\"], or an object of identity providers"

def ofText (t : String) : Except Json.Error Principals :=
  if t = star then .ok everyone
  else .error (.refused ("principal string must be \"*\", got \"" ++ t ++ "\""))

def ofTexts (ts : List String) : Except Json.Error Principals :=
  if ts = [star] then .ok everyone
  else .error (.refused ("principal array must be [\"*\"], got " ++ Quoted.listed ts))

def ofTree : Json.Tree → Except Json.Error Principals
  | .null => .ok unstated
  | .text value => value.bind ofText
  | .list items ending => (Json.readAll Json.Tree.toText items ending).bind ofTexts
  | .object members ending =>
    (Json.readEntries Compact.ofTree members ending).map fun es => listed (.ofList es)
  | t => .error (t.mismatch expected)

def decode (data : Bytes) : Except Error Principals :=
  match Blank.trimBy Blank.isJsonBlank data with
  | [] => .ok unstated
  | data => (Json.decode ofTree data).mapError fun e => .document (.policy (.json e))

end Principals

end ObjectStorage
