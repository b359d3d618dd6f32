import ObjectStorage.Checksum
import ObjectStorage.Client.Config
import ObjectStorage.Signature.V4

/-!
# Operations

What a caller asks of the service: a method on a bucket, an object or the service itself, with
parameters, headers and a body. `request` makes the request that says so to an endpoint, or
refuses an operation that none can say.
-/
namespace ObjectStorage

structure Operation where
  method : String
  bucket : Option String
  key : Option String
  query : List Query.Pair
  headers : List (String × String)
  body : Option Bytes
  unsignedPayload : Bool
deriving DecidableEq

namespace Operation

def new (method : String) : Operation := ⟨method, none, none, [], [], none, false⟩

def withBucket (o : Operation) (bucket : String) : Operation := { o with bucket := some bucket }

def withKey (o : Operation) (key : String) : Operation := { o with key := some key }

def withQuery (o : Operation) (name value : String) : Operation :=
  { o with query := o.query ++ [(name, value)] }

def withHeader (o : Operation) (name value : String) : Operation :=
  { o with headers := o.headers ++ [(name, value)] }

def withBody (o : Operation) (body : Bytes) : Operation := { o with body := some body }

def hasHeader (o : Operation) (name : String) : Bool :=
  o.headers.any fun h => Headers.lower h.1 == Headers.lower name

def isBucketEnd (c : Char) : Bool := c.isLower || c.isDigit

def isBucketName (cs : List Char) : Bool :=
  3 ≤ cs.length && cs.length ≤ 63 && cs.all (fun c => isBucketEnd c || c == '-') &&
    cs.head?.any isBucketEnd && cs.getLast?.any isBucketEnd

def checkBucket (bucket : String) : Except Error Unit :=
  if isBucketName bucket.toList then .ok () else .error (.argument (.bucketName bucket))

def checkKey (key : Option String) : Except Error Unit :=
  if key = some "" then .error (.argument .emptyKey) else .ok ()

def hostedUrl (endpoint : Url) (bucket : String) : Except Error Url :=
  match endpoint.hostText? with
  | none => .error (.argument (.endpoint endpoint.text .noHost))
  | some host =>
    let virtual := bucket ++ "." ++ host
    (endpoint.withHost virtual).mapError fun e => .argument (.endpoint virtual (.url e))

def keyChars (key : Option String) : List Char :=
  Percent.encodePathChars ((key.getD "").toList)

def bucketUrl (c : ClientConfig) (bucket : String) (key : Option String) : Except Error Url := do
  checkBucket bucket
  if c.pathStyle then
    checkKey key
    return c.endpoint.withPath ('/' :: bucket.toList ++ '/' :: keyChars key)
  else
    let url ← hostedUrl c.endpoint bucket
    checkKey key
    return url.withPath ('/' :: keyChars key)

def url (c : ClientConfig) (o : Operation) : Except Error Url := do
  let u ← match o.bucket, o.key with
    | some bucket, key => bucketUrl c bucket key
    | none, some _ => .error (.argument .keyWithoutBucket)
    | none, none => .ok (c.endpoint.withPath ['/'])
  return u.withPairs o.query

def userAgentHeader : String := "user-agent"

def contentTypeHeader : String := "content-type"

/-- The type of a body that is given none. -/
def usualContentType : String := "application/octet-stream"

def setAll (h : Headers) : List (String × String) → Except Error Headers
  | [] => .ok h
  | (name, value) :: r => do
    let h ← h.set (Headers.lower name) value
    setAll h r

def setBodyHeaders (c : ClientConfig) (o : Operation) (h : Headers) : Except Error Headers :=
  match o.body with
  | none => .ok h
  | some body => do
    let h ← if c.checksums && !o.hasHeader Checksum.header then
        h.set Checksum.header (toString (Checksum.ofContent body))
      else .ok h
    if h.contains contentTypeHeader then .ok h
    else h.set contentTypeHeader usualContentType

def requestHeaders (c : ClientConfig) (o : Operation) (u : Url) : Except Error Headers := do
  let h ← setAll .empty o.headers
  let h ← h.set V4.hostHeader (u.authority?.getD "")
  let h ← h.set userAgentHeader c.userAgent
  let h ← setBodyHeaders c o h
  if o.unsignedPayload then h.set V4.digestHeader V4.unsignedPayload else .ok h

def request (c : ClientConfig) (o : Operation) : Except Error Request := do
  let u ← o.url c
  let h ← o.requestHeaders c u
  return ⟨o.method, u, h, o.body⟩

end Operation

end ObjectStorage
