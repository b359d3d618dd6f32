import ObjectStorage.Headers
import ObjectStorage.Status

/-!
# Responses

A status, headers and a body that arrives piece by piece. A body is the list of what its reader
meets: pieces, pauses, a failure, or silence to the end of time.
-/
namespace ObjectStorage

inductive BodyEvent where
  | chunk (data : Bytes)
  | failure (error : Error)
  /-- Nothing has arrived when the reader looks. -/
  | pause
  /-- Nothing arrives any more. -/
  | silence
deriving DecidableEq

abbrev Body := List BodyEvent

structure Response where
  status : Nat
  headers : Headers
  body : Body
deriving DecidableEq

namespace Response

def details (r : Response) : String :=
  "HttpResponse \x7b status: " ++ toString r.status ++ ", headers: " ++ r.headers.details ++
    ", .. \x7d"

def isAnswer (r : Response) : Bool := r.status < 400

end Response

/-- What the network makes of a request, and when: after some polls, or never. -/
structure Reply where
  delay : Option Nat
  outcome : Except Error Response
  /-- Whether the caller gives up while the reply is under way. -/
  cancels : Bool

namespace Reply

def atOnce (outcome : Except Error Response) : Reply := ⟨some 0, outcome, false⟩

end Reply

end ObjectStorage
