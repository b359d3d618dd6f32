import ObjectStorage.Digest.Crc64
import ObjectStorage.Headers
import ObjectStorage.Number.Decimal
import ObjectStorage.Text.Blank

/-!
# Checksums of transfers

The service states the CRC-64 of an object as a decimal number in a header. A header that is not
there, or not visible text, proves nothing and is not held against the transfer.
-/
namespace ObjectStorage.Checksum

def header : String := "x-tos-hash-crc64ecma"

def ofContent (content : Bytes) : Nat := (Crc64.checksum content).toNat

def ofText? (text : String) : Option Nat := Decimal.word? (Blank.trimChars text.toList)

def stated? (h : Headers) : Option Nat := (h.text? header).bind ofText?

def verify (h : Headers) (ours : Nat) (operation : String) : Except Error Unit :=
  match h.text? header with
  | none => .ok ()
  | some text =>
    match ofText? text with
    | none => .error (.document (.unreadableChecksum operation text))
    | some theirs =>
      if theirs = ours then .ok ()
      else .error (.document (.checksumMismatch operation ours theirs))

end ObjectStorage.Checksum
