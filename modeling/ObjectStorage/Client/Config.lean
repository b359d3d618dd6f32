import ObjectStorage.Endpoint
import ObjectStorage.Time.Duration

/-!
# Configuration

What a client is made of besides its endpoint. A setting may be given more than once and the last
one counts; what is not given is derived from the endpoint or has a usual value.
-/
namespace ObjectStorage

structure ClientConfig where
  endpoint : Url
  region : String
  requestTimeout : Duration
  userAgent : String
  checksums : Bool
  guessContentType : Bool
  maxRetries : Nat
  pathStyle : Bool
deriving DecidableEq

/-- Choices of a caller before they are resolved against an endpoint. -/
structure Choices where
  region : String
  requestTimeout : Duration
  userAgent : Option String
  checksums : Bool
  guessContentType : Bool
  maxRetries : Nat
  pathStyle : Option Bool
deriving DecidableEq

namespace ClientConfig

def usualTimeout : Duration := .ofSeconds 120

def greatestRetries : Nat := 5

def product : String := "tos-rust-sdk/0.1.0"

end ClientConfig

namespace Choices

def usual : Choices := ⟨"", ClientConfig.usualTimeout, none, true, true, 0, none⟩

def regionFor (c : Choices) (endpoint : Url) : String :=
  let chosen := Blank.trim c.region
  if chosen.isEmpty then (Endpoint.region? endpoint).getD "" else chosen

def userAgentText (c : Choices) : String :=
  let extra := Blank.trim (c.userAgent.getD "")
  if extra.isEmpty then ClientConfig.product else ClientConfig.product ++ " " ++ extra

def resolve (c : Choices) (endpoint : Url) : ClientConfig :=
  { endpoint
    region := c.regionFor endpoint
    requestTimeout := c.requestTimeout
    userAgent := c.userAgentText
    checksums := c.checksums
    guessContentType := c.guessContentType
    maxRetries := min c.maxRetries ClientConfig.greatestRetries
    pathStyle := c.pathStyle.getD (Endpoint.isBare endpoint) }

end Choices

namespace ClientConfig

def flag (b : Bool) : String := if b then "true" else "false"

def details (c : ClientConfig) : String :=
  "ClientConfig \x7b endpoint: " ++ c.endpoint.details ++ ", region: " ++ Quoted.quote c.region ++
    ", request_timeout: " ++ c.requestTimeout.text ++ ", user_agent: " ++
    Quoted.quote c.userAgent ++ ", enable_crc: " ++ flag c.checksums ++
    ", auto_recognize_content_type: " ++ flag c.guessContentType ++ ", max_retry_count: " ++
    toString c.maxRetries ++ ", path_style: " ++ flag c.pathStyle ++ " \x7d"

end ClientConfig

end ObjectStorage
