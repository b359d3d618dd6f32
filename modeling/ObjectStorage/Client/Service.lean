import ObjectStorage.Client.Answer
import ObjectStorage.Client.Call

/-!
# The service

The operations of a client. Each runs in a context over the polls to come. Where an answer has a
body that counts, reading it is part of the run.
-/
namespace ObjectStorage.Client

variable (c : Client) (ctx : Context) (ms : List Moment)

def execute (o : Operation) (s : Surroundings) : Outcome Response := c.run ctx ms (c.send o) s

/-- An outcome whose answer is looked at after the run. -/
def conclude {α β : Type} (f : α → Except Error β) (outcome : Outcome α) : Outcome β :=
  (outcome.1.map (·.bind f), outcome.2)

def headBucket (bucket : String) (s : Surroundings) : Outcome BucketInfo :=
  conclude (fun r => .ok (.ofHeaders r.headers))
    (c.execute ctx ms ((Operation.new "HEAD").withBucket bucket) s)

def policyOperation (method bucket : String) : Operation :=
  ((Operation.new method).withBucket bucket).withQuery "policy" ""

def putPolicyOperation (bucket : String) (rules : Rules) : Operation :=
  ((policyOperation "PUT" bucket).withHeader Operation.contentTypeHeader
    "application/json").withBody rules.encode

def putBucketPolicy (bucket : String) (rules : Rules) (s : Surroundings) : Outcome Receipt :=
  conclude (fun r => .ok (.ofHeaders r.headers))
    (c.execute ctx ms (putPolicyOperation bucket rules) s)

def getBucketPolicy (bucket : String) (s : Surroundings) : Outcome PolicyAnswer :=
  c.run ctx ms (do
    let r ← c.send (policyOperation "GET" bucket)
    let body ← r.content
    let rules ← Call.ofExcept (Rules.decode body)
    return ⟨r.headers.requestId, rules⟩) s

def deleteBucketPolicy (bucket : String) (s : Surroundings) : Outcome Receipt :=
  conclude (fun r => .ok (.ofHeaders r.headers))
    (c.execute ctx ms (policyOperation "DELETE" bucket) s)

def objectOperation (method bucket key : String) : Operation :=
  ((Operation.new method).withBucket bucket).withKey key

/-- The content's type is what `guess` makes of the key, if the client is to guess. -/
def putOperation (guess : String → Option String) (bucket key : String) (content : Bytes) :
    Operation :=
  let o := objectOperation "PUT" bucket key
  let o := match if c.config.guessContentType then guess key else none with
    | some type => o.withHeader Operation.contentTypeHeader type
    | none => o
  o.withBody content

def verify (h : Headers) (content : Bytes) (operation : String) : Except Error Unit :=
  if c.config.checksums then Checksum.verify h (Checksum.ofContent content) operation else .ok ()

def putObject (guess : String → Option String) (bucket key : String) (content : Bytes)
    (s : Surroundings) : Outcome ObjectInfo :=
  conclude (fun r => (c.verify r.headers content "PutObject").map fun _ => .ofHeaders r.headers)
    (c.execute ctx ms (c.putOperation guess bucket key content) s)

def getObject (bucket key : String) (s : Surroundings) : Outcome ObjectAnswer :=
  c.run ctx ms (do
    let r ← c.send (objectOperation "GET" bucket key)
    let content ← r.content
    Call.ofExcept (c.verify r.headers content "GetObject")
    return .ofParts r.headers content) s

/-- Any operation with the body of its answer, which is read after the run without a deadline;
`polls` bounds the polls for it. -/
def fetch (polls : Nat) (o : Operation) (s : Surroundings) : Outcome Bytes :=
  match c.execute ctx ms o s with
  | (some (.ok r), s) => Task.finish ctx.token polls r.content s
  | (some (.error e), s) => (some (.error e), s)
  | (none, s) => (none, s)

end ObjectStorage.Client
