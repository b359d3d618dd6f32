import ObjectStorage.Error
import ObjectStorage.Text.Utf8
import ObjectStorage.Time.Instant

/-!
# Credentials

An access key with its secret and, for temporary credentials, a token and an expiration. The text
of credentials shows neither secret nor token.
-/
namespace ObjectStorage

/-- Variables of the process that uses the library; a value need not be text. -/
structure Environment where
  entries : List (String × Bytes)

namespace Environment

def text? (env : Environment) (name : String) : Option String :=
  (env.entries.find? (·.1 == name)).bind fun v => Utf8.toString? v.2

end Environment

structure Credentials where
  accessKey : String
  secretKey : String
  token : Option String
  expiration : Option Instant
deriving DecidableEq

namespace Credentials

def new (accessKey secretKey : String) : Credentials := ⟨accessKey, secretKey, none, none⟩

/-- The longest margin that is counted in milliseconds of 64 bits. -/
def longestMargin : Duration := ⟨9223372036854775, 807000000, by decide⟩

def isCountable (margin : Duration) : Bool :=
  margin.seconds < longestMargin.seconds ||
    (margin.seconds == longestMargin.seconds && margin.nanos ≤ longestMargin.nanos)

def isWithin (expiration : Instant) (margin : Duration) (now : Instant) : Bool :=
  if isCountable margin then
    match expiration.sub? margin with
    | some refreshAt => decide (refreshAt ≤ now)
    | none => true
  else true

def expiresWithin (c : Credentials) (margin : Duration) (now : Instant) : Bool :=
  match c.expiration with
  | some expiration => isWithin expiration margin now
  | none => false

def isExpired (c : Credentials) (now : Instant) : Bool := c.expiresWithin .zero now

def optionText (o : Option String) : String :=
  match o with
  | some t => "Some(" ++ t ++ ")"
  | none => "None"

def mask : String := "\"****\""

def text (c : Credentials) : String :=
  "Credentials \x7b access_key_id: " ++ Quoted.quote c.accessKey ++ ", secret_access_key: " ++
    mask ++ ", security_token: " ++ optionText (c.token.map fun _ => mask) ++ ", expiration: " ++
    optionText (c.expiration.map Instant.text) ++ " \x7d"

theorem expiresWithin_of_expiration_none {c : Credentials} (h : c.expiration = none)
    (margin : Duration) (now : Instant) : c.expiresWithin margin now = false := by
  simp [expiresWithin, h]

end Credentials

end ObjectStorage
