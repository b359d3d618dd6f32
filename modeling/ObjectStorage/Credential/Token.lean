import ObjectStorage.Credential.Provider
import ObjectStorage.Json.Decode
import ObjectStorage.Time.Rfc3339
import ObjectStorage.Transport

/-!
# Tokens

The answer of a token endpoint: temporary credentials as a JSON record.
-/
namespace ObjectStorage.Token

def expirationOfTree : Json.Tree → Except Json.Error Instant
  | .text value => do
    let t ← value
    (Rfc3339.read t.toList).mapError fun p => .refused p.message
  | t => .error (t.mismatch "an RFC 3339 formatted date and time string")

open Json in
def shape : Json.Shape Credentials where
  name := "TokenResponse"
  fields := [
    ⟨"AccessKeyId", true, fun t => do
      let v ← Tree.toText t
      return fun c => { c with accessKey := v }⟩,
    ⟨"SecretAccessKey", true, fun t => do
      let v ← Tree.toText t
      return fun c => { c with secretKey := v }⟩,
    ⟨"SessionToken", false, fun t => do
      let v ← optional Tree.toText t
      return fun c => { c with token := v.bind Provider.nonEmpty }⟩,
    ⟨"ExpiredTime", false, fun t => do
      let v ← optional expirationOfTree t
      return fun c => { c with expiration := v }⟩]
  blank := .new "" ""

def quotedChars : Nat := 200

def excerpt (text : List Char) : String := String.ofList (text.take quotedChars)

def ofAnswer (status : Nat) (body : Bytes) : Except Error Credentials :=
  let text := Utf8.decodeLossy body
  if Status.isSuccess status then
    (Json.decode shape.read (Utf8.encode text)).mapError fun e => .argument (.malformedToken e)
  else .error (.argument (.tokenRefused status (excerpt text)))

/-- The failure of a token endpoint that cannot be asked, or where nobody listens. -/
def unreachable (endpoint : String) : Error :=
  let failed (reason : String) := Error.network ("token endpoint " ++ endpoint ++ ": " ++ reason)
  match Transport.unusable? endpoint, Url.read endpoint with
  | some reason, _ => failed reason false
  | none, .ok u => failed (Transport.refusal u) true
  | none, .error e => failed e.message false

end ObjectStorage.Token
