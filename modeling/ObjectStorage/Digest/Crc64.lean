import ObjectStorage.Bytes

/-!
# CRC-64

The reflected ECMA-182 polynomial, with all ones as the start and as the final mask. A byte is
added to the low end of the remainder, which is then shifted out bit by bit.
-/
namespace ObjectStorage.Crc64

def polynomial : UInt64 := 0xC96C5795D7870F42

def shift (c : UInt64) : UInt64 :=
  if c &&& 1 = 1 then (c >>> 1) ^^^ polynomial else c >>> 1

def shifts : Nat → UInt64 → UInt64
  | 0, c => c
  | n + 1, c => shifts n (shift c)

def step (c : UInt64) (b : UInt8) : UInt64 := shifts 8 (c ^^^ b.toUInt64)

def mask : UInt64 := 0xFFFFFFFFFFFFFFFF

def remainder (start : UInt64) (data : Bytes) : UInt64 := data.foldl step start

def checksum (data : Bytes) : UInt64 := remainder mask data ^^^ mask

theorem remainder_append (start : UInt64) (a b : Bytes) :
    remainder start (a ++ b) = remainder (remainder start a) b :=
  List.foldl_append

example : checksum [0x31, 0x32, 0x33, 0x34, 0x35, 0x36, 0x37, 0x38, 0x39] =
    0x995DC9BBDF1939FA := by
  decide +kernel

end ObjectStorage.Crc64
