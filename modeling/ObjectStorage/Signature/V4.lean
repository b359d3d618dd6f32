import ObjectStorage.Credential.Basic
import ObjectStorage.Digest.Hmac
import ObjectStorage.Signature.Canonical

/-!
# Signatures

A request is signed with a key that is made of the secret, the date, the region and the service.
Signing sets headers one by one, so a failure leaves those that were set before it.
-/
namespace ObjectStorage.V4

def algorithm : String := "TOS4-HMAC-SHA256"

def service : String := "tos"

def hostHeader : String := "host"

def dateHeader : String := "x-tos-date"

def digestHeader : String := "x-tos-content-sha256"

def tokenHeader : String := "x-tos-security-token"

def authorizationHeader : String := "authorization"

/-- The digest that stands for a body that no signature covers. -/
def unsignedPayload : String := "UNSIGNED-PAYLOAD"

def dateOf (now : Instant) : String := String.ofList (now.stampChars.take 8)

def scope (region : String) (now : Instant) : String :=
  dateOf now ++ "/" ++ region ++ "/" ++ service ++ "/request"

def hmac (key : Bytes) (message : String) : Bytes := Hmac.authenticate key (Utf8.ofString message)

def signingKey (secret region : String) (now : Instant) : Bytes :=
  hmac (hmac (hmac (hmac (Utf8.ofString secret) (dateOf now)) region) service) "request"

def stringToSign (region : String) (now : Instant) (canonical : String) : String :=
  algorithm ++ "\n" ++ now.stamp ++ "\n" ++ scope region now ++ "\n" ++
    Bytes.hex (Sha256.digest (Utf8.ofString canonical))

def signature (secret region : String) (now : Instant) (canonical : String) : String :=
  Bytes.hex (hmac (signingKey secret region now) (stringToSign region now canonical))

def authorization (c : Credentials) (region : String) (now : Instant) (names canonical : String) :
    String :=
  algorithm ++ " Credential=" ++ c.accessKey ++ "/" ++ scope region now ++ ", SignedHeaders=" ++
    names ++ ", Signature=" ++ signature c.secretKey region now canonical

abbrev Edit := EStateM Error Headers

def reading {α : Type} (f : Headers → Except Error α) : Edit α := fun h =>
  match f h with
  | .ok a => .ok a h
  | .error e => .error e h

def setting (name value : String) : Edit Unit := fun h =>
  match h.set name value with
  | .ok h => .ok () h
  | .error e => .error e h

def payloadDigest (r : Request) (h : Headers) : Except Error String :=
  match h.get? digestHeader with
  | some v =>
    match Headers.textOf? v with
    | some t => .ok t
    | none => .error (.argument .headerText)
  | none => .ok (Bytes.hex (Sha256.digest (r.body.getD [])))

def hostOf (u : Url) : Except Error String :=
  match u.authority? with
  | some host => .ok host
  | none => .error (.argument .urlWithoutHost)

def setToken : Option String → Edit Unit
  | some t => setting tokenHeader t
  | none => modify (·.erase tokenHeader)

def edit (r : Request) (c : Credentials) (region : String) (now : Instant) : Edit Unit := do
  let payload ← reading (payloadDigest r)
  let host ← reading fun _ => hostOf r.url
  setting hostHeader host
  setting dateHeader now.stamp
  setting digestHeader payload
  setToken c.token
  let canonical ← reading (Canonical.text r · payload)
  let names ← reading fun h => .ok (Canonical.names h)
  setting authorizationHeader (authorization c region now names canonical)

/-- The request after signing, and why signing stopped if it did. -/
def sign (r : Request) (c : Credentials) (region : String) (now : Instant) :
    Request × Except Error Unit :=
  match edit r c region now r.headers with
  | .ok _ h => ({ r with headers := h }, .ok ())
  | .error e h => ({ r with headers := h }, .error e)

end ObjectStorage.V4
