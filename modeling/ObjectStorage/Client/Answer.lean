import ObjectStorage.Checksum
import ObjectStorage.Policy.Rules
import ObjectStorage.Refusal
import ObjectStorage.Response

/-!
# Answers

What the service tells in its answers, by operation. A header that is not visible text is as good
as absent.
-/
namespace ObjectStorage

structure BucketInfo where
  requestId : String
  region : Option String
  storageClass : Option String
deriving DecidableEq

structure Receipt where
  requestId : String
deriving DecidableEq

structure PolicyAnswer where
  requestId : String
  rules : Rules
deriving DecidableEq

structure ObjectInfo where
  requestId : String
  etag : Option String
  versionId : Option String
  checksum : Option Nat
deriving DecidableEq

structure ObjectAnswer where
  info : ObjectInfo
  contentType : Option String
  content : Bytes
deriving DecidableEq

namespace Headers

def requestId (h : Headers) : String := (Refusal.requestId? h).getD ""

end Headers

def BucketInfo.ofHeaders (h : Headers) : BucketInfo :=
  ⟨h.requestId, h.text? "x-tos-bucket-region", h.text? "x-tos-storage-class"⟩

def Receipt.ofHeaders (h : Headers) : Receipt := ⟨h.requestId⟩

def ObjectInfo.ofHeaders (h : Headers) : ObjectInfo :=
  ⟨h.requestId, h.text? "etag", h.text? "x-tos-version-id", Checksum.stated? h⟩

def ObjectAnswer.ofParts (h : Headers) (content : Bytes) : ObjectAnswer :=
  ⟨.ofHeaders h, h.text? "content-type", content⟩

end ObjectStorage
