import ObjectStorage.Bytes
import ObjectStorage.Json.Error
import ObjectStorage.Status
import ObjectStorage.Url.Error

/-!
# Errors

Every operation ends in a result or in an `Error`: the caller's input is wrong, a document cannot
be read, the network failed, the caller gave up, or the service refused. `Error.message` is the
one place where causes are worded.
-/
namespace ObjectStorage

inductive EndpointProblem where
  | blank
  | url (cause : Url.Error)
  | scheme (name : String)
  | noHost
  | queryOrFragment
deriving DecidableEq, Repr

inductive ArgumentProblem where
  | endpoint (text : String) (problem : EndpointProblem)
  | missingRegion
  | bucketName (bucket : String)
  | emptyKey
  | keyWithoutBucket
  | headerName (name : String)
  | headerValue (name : String)
  | headerText
  | urlWithoutHost
  | variableUnset (name : String)
  | variablesEmpty (first second : String)
  | noProviders
  | expiredToken
  | tokenRefused (status : Nat) (body : String)
  | malformedToken (cause : Json.Error)
  | stated (message : String)
deriving DecidableEq, Repr

inductive PolicyProblem where
  | json (cause : Json.Error)
  | unexpectedByte (byte : UInt8)
deriving DecidableEq, Repr

inductive DocumentProblem where
  | policy (problem : PolicyProblem)
  | json (cause : Json.Error)
  | unreadableChecksum (operation text : String)
  | checksumMismatch (operation : String) (ours theirs : Nat)
  | stated (message : String)
deriving DecidableEq, Repr

structure Refusal where
  code : String
  message : String
  requestId : String
  hostId : String
deriving DecidableEq, Repr

inductive Error where
  | argument (problem : ArgumentProblem)
  | document (problem : DocumentProblem)
  /-- `beforeSending` tells that no byte of the request has left. -/
  | network (message : String) (beforeSending : Bool)
  | canceled
  | deadlineExceeded
  | service (status : Nat) (refusal : Refusal)
  /-- A failure status whose body is no refusal. -/
  | unreadable (status : Nat) (body : String) (requestId : Option String)
deriving DecidableEq, Repr

namespace EndpointProblem

def message : EndpointProblem → String
  | blank => "endpoint is empty"
  | url cause => cause.message
  | scheme name => "unsupported scheme '" ++ name ++ "'"
  | noHost => "endpoint has no host"
  | queryOrFragment => "endpoint must not carry a query or fragment"

end EndpointProblem

namespace ArgumentProblem

def message : ArgumentProblem → String
  | endpoint text problem => "InvalidEndpoint: '" ++ text ++ "': " ++ problem.message
  | missingRegion =>
    "MissingRegion: region is required by the signer and could not be derived from the endpoint"
  | bucketName bucket =>
    "Invalid bucket name '" ++ bucket ++ "'. Expected 3-63 lowercase letters, digits or '-', " ++
      "not starting or ending with '-'"
  | emptyKey => "object key must not be empty"
  | keyWithoutBucket => "object key given without a bucket"
  | headerName name => "invalid header name '" ++ name ++ "': invalid HTTP header name"
  | headerValue name =>
    "invalid value for header '" ++ name ++ "': failed to parse header value"
  | headerText => "non-ASCII header value: failed to convert header to a str"
  | urlWithoutHost => "URL missing host"
  | variableUnset name => name ++ " not set"
  | variablesEmpty first second => first ++ " or " ++ second ++ " is empty"
  | noProviders => "no credential providers configured"
  | expiredToken => "token source returned expired credentials"
  | tokenRefused status body =>
    "token endpoint returned HTTP " ++ Status.line status ++ ": " ++ body
  | malformedToken cause => "token endpoint returned malformed credentials: " ++ cause.message
  | stated message => message

end ArgumentProblem

namespace PolicyProblem

def message : PolicyProblem → String
  | json cause => cause.message
  | unexpectedByte byte =>
    "expected a string or an array of strings, found byte 0x" ++ Bytes.hex [byte]

end PolicyProblem

namespace DocumentProblem

def message : DocumentProblem → String
  | policy problem => "InvalidPolicySyntax: " ++ problem.message
  | json cause => cause.message
  | unreadableChecksum operation text => operation ++ ": unparseable CRC64 header '" ++ text ++ "'"
  | checksumMismatch operation ours theirs =>
    operation ++ ": CRC64 mismatch (client: " ++ toString ours ++ ", server: " ++ toString theirs ++
      ")"
  | stated message => message

end DocumentProblem

namespace Error

def message : Error → String
  | argument problem => "invalid argument: " ++ problem.message
  | document problem => "serialization error: " ++ problem.message
  | network message _ => "network error: " ++ message
  | canceled => "operation canceled"
  | deadlineExceeded => "deadline exceeded"
  | service status r =>
    "service error (status: " ++ toString status ++ ", RequestId: " ++ r.requestId ++ "): [" ++
      r.code ++ "] " ++ r.message
  | unreadable status body _ => "HTTP " ++ toString status ++ " with body: " ++ body

def isTransient (status : Nat) : Bool := status == 429 || status ≥ 500

def isTransientCode (code : String) : Bool :=
  code == "SlowDown" || code == "ServiceUnavailable" ||
    "Internal".toList.isPrefixOf code.toList

def isRetryable : Error → Bool
  | network _ _ => true
  | service status r => isTransient status || isTransientCode r.code
  | unreadable status _ _ => isTransient status
  | argument _ | document _ | canceled | deadlineExceeded => false

def isBeforeSending : Error → Bool
  | network _ beforeSending => beforeSending
  | _ => false

def requestId? : Error → Option String
  | service _ r => some r.requestId
  | unreadable _ _ requestId => requestId
  | _ => none

def code? : Error → Option String
  | service _ r => some r.code
  | _ => none

def status? : Error → Option Nat
  | service status _ => some status
  | unreadable status _ _ => some status
  | _ => none

end Error

end ObjectStorage
