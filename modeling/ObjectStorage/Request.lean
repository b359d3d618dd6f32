import ObjectStorage.Headers
import ObjectStorage.Url.Read

/-!
# Requests

What is sent: a method, an address, headers and perhaps a body.
-/
namespace ObjectStorage

structure Request where
  method : String
  url : Url
  headers : Headers
  body : Option Bytes
deriving DecidableEq

namespace Request

def new (method : String) (url : Url) : Request := ⟨method, url, .empty, none⟩

end Request

end ObjectStorage
