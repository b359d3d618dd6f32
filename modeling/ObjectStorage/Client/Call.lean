import ObjectStorage.Client.Basic
import ObjectStorage.Operation
import ObjectStorage.Refusal
import ObjectStorage.Task.Run

/-!
# Calls

A call sends an operation as one request or, while the network fails before anything was sent, as
several: the request is made once and signed anew for each attempt. What comes back is the answer
with its body unread, or the error that the service tells of.
-/
namespace ObjectStorage

abbrev Call (α : Type) := ExceptT Error Task α

namespace Call

variable {α : Type}

def ofExcept : Except Error α → Call α
  | .ok a => pure a
  | .error e => throw e

def now : Call Instant := ExceptT.mk (Task.readClock fun t => .done (.ok t))

def credentials : Call Credentials := ExceptT.mk (Task.askProvider .done)

end Call

namespace Body

def read : Body → Task (Except Error Bytes)
  | [] => .done (.ok [])
  | .chunk data :: r => (read r).bind fun rest => .done (rest.map (data ++ ·))
  | .failure e :: _ => .done (.error e)
  | .pause :: r => .wait (read r)
  | .silence :: _ => .never

/-- What a reader gets piece by piece, failures included. -/
def pieces : Body → List (Except Error Bytes)
  | [] => []
  | .chunk data :: r => .ok data :: pieces r
  | .failure e :: r => .error e :: pieces r
  | .pause :: r => pieces r
  | .silence :: _ => []

end Body

namespace Response

def content (r : Response) : Call Bytes := ExceptT.mk (Body.read r.body)

/-- The response, if it is an answer; a refusal's body is read, and one that fails is empty. -/
def check (r : Response) : Call Response :=
  if r.isAnswer then pure r
  else ExceptT.mk ((Body.read r.body).bind fun body =>
    let text := match body with
      | .ok b => Utf8.decodeLossy b
      | .error _ => []
    .done (.error (Refusal.toError r.status r.headers text)))

end Response

namespace Client

def credentials (c : Client) : Call (Option Credentials) :=
  match c.provider with
  | none => pure none
  | some _ => some <$> Call.credentials

def checkRegion (c : Client) (credentials : Option Credentials) : Call Unit :=
  if credentials.isSome && c.config.region.isEmpty && c.signer.requiresRegion then
    throw (.argument .missingRegion)
  else pure ()

def sign (c : Client) (credentials : Option Credentials) (r : Request) : Call Request :=
  match credentials with
  | none => pure r
  | some k => do
    let now ← Call.now
    Call.ofExcept (c.signer.sign r k c.config.region now)

/-- Sends a request, and again at most `retries` times. -/
def attempt (c : Client) (credentials : Option Credentials) (r : Request) : Nat → Call Response
  | 0 => do
    let signed ← c.sign credentials r
    let response ← ExceptT.mk (Task.exchange signed .done)
    response.check
  | retries + 1 => do
    let signed ← c.sign credentials r
    ExceptT.mk (Task.exchange signed fun outcome =>
      match outcome with
      | .ok response => response.check
      | .error e =>
        if e.isBeforeSending then c.attempt credentials r retries else .done (.error e))

def send (c : Client) (o : Operation) : Call Response := do
  let r ← Call.ofExcept (o.request c.config)
  let k ← c.credentials
  c.checkRegion k
  c.attempt k r c.config.maxRetries

def run {α : Type} (c : Client) (ctx : Context) (ms : List Moment) (call : Call α)
    (s : Surroundings) : Outcome α :=
  Task.run ctx (some c.config.requestTimeout) ms call s

end Client

end ObjectStorage
