import ObjectStorage.Digest.Sha256

/-!
# HMAC-SHA-256

A key longer than a block is replaced by its digest; the inner and the outer key differ from it by
a constant byte each.
-/
namespace ObjectStorage.Hmac

def blockSize : Nat := 64

def blockKey (key : Bytes) : Bytes :=
  let k := if key.length > blockSize then Sha256.digest key else key
  k ++ List.replicate (blockSize - k.length) 0

def masked (key : Bytes) (b : UInt8) : Bytes := (blockKey key).map (· ^^^ b)

def authenticate (key message : Bytes) : Bytes :=
  Sha256.digest (masked key 0x5C ++ Sha256.digest (masked key 0x36 ++ message))

example : Bytes.hex (authenticate (List.replicate 20 0x0B)
      [0x48, 0x69, 0x20, 0x54, 0x68, 0x65, 0x72, 0x65]) =
    "b0344c61d8db38535ca8afceaf0bf12b881dc200c9833da726e9376c2e32cff7" := by
  decide +kernel

end ObjectStorage.Hmac
