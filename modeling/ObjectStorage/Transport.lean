import ObjectStorage.Error
import ObjectStorage.Url.Read

/-!
# The network transport

What is said of a request that never reaches a server: its address is none that the transport can
use, or nobody listens there. An address is shown without its user.
-/
namespace ObjectStorage.Transport

def shown (u : Url) : String := " for url (" ++ u.withoutUser.text ++ ")"

def unusable? (address : String) : Option String :=
  match Url.read address with
  | .error _ => some "builder error"
  | .ok u =>
    if u.host.isSome && (u.scheme == "http" || u.scheme == "https") then none
    else some ("builder error" ++ shown u)

def refusal (u : Url) : String := "error sending request" ++ shown u

def refused (u : Url) : Error := .network (refusal u) true

end ObjectStorage.Transport
