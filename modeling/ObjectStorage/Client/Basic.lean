import ObjectStorage.Client.Config
import ObjectStorage.Credential.Provider
import ObjectStorage.Signature.Signer

/-!
# Clients

A client is a configuration with a signer and a choice of credentials; without credentials its
requests are anonymous. A builder collects settings, of which the last of a kind counts.
-/
namespace ObjectStorage

/-- `provider` is where credentials come from at first; asking it changes it. -/
structure Client where
  config : ClientConfig
  provider : Option Provider
  signer : Signer

inductive Setting where
  | region (name : String)
  | credentials (provider : Provider)
  | signer (signer : Signer)
  | requestTimeout (timeout : Duration)
  | checksums (on : Bool)
  | userAgent (extra : String)
  | guessContentType (on : Bool)
  | maxRetries (count : Nat)
  | pathStyle (on : Bool)

structure ClientBuilder where
  endpoint : String
  choices : Choices
  provider : Option Provider
  signer : Signer

namespace ClientBuilder

def new (endpoint : String) : ClientBuilder := ⟨endpoint, .usual, none, .v4⟩

def apply (b : ClientBuilder) : Setting → ClientBuilder
  | .region name => { b with choices := { b.choices with region := name } }
  | .credentials p => { b with provider := some p }
  | .signer s => { b with signer := s }
  | .requestTimeout t => { b with choices := { b.choices with requestTimeout := t } }
  | .checksums on => { b with choices := { b.choices with checksums := on } }
  | .userAgent extra => { b with choices := { b.choices with userAgent := some extra } }
  | .guessContentType on => { b with choices := { b.choices with guessContentType := on } }
  | .maxRetries count => { b with choices := { b.choices with maxRetries := count } }
  | .pathStyle on => { b with choices := { b.choices with pathStyle := some on } }

def applyAll (b : ClientBuilder) (settings : List Setting) : ClientBuilder :=
  settings.foldl apply b

def build (b : ClientBuilder) : Except Error Client := do
  let endpoint ← Endpoint.read b.endpoint
  return ⟨b.choices.resolve endpoint, b.provider, b.signer⟩

end ClientBuilder

namespace Client

def details (c : Client) : String :=
  "Client \x7b config: " ++ c.config.details ++ ", anonymous: " ++
    ClientConfig.flag c.provider.isNone ++ ", signer: " ++ c.signer.name ++ ", .. \x7d"

def blockingDetails (c : Client) : String := "Client \x7b inner: " ++ c.details ++ ", .. \x7d"

end Client

end ObjectStorage
