import ObjectStorage.Text.Percent
import ObjectStorage.Unicode.Composition
import ObjectStorage.Unicode.Direction
import ObjectStorage.Unicode.DomainMapping
import ObjectStorage.Unicode.Joining
import ObjectStorage.Url.Error
import ObjectStorage.Url.Punycode

/-!
# Domains

A domain is a row of labels between points. It is written in ASCII: a label with other characters
is written in Punycode after the mark `xn--`, which no other label has.
-/
namespace ObjectStorage.Domain

open Unicode

def isForbidden (c : Char) : Bool :=
  c.toNat ≤ 0x20 || c.toNat == 0x7F || "%#/:<>?@[\\]^|".toList.contains c

def mark : List Char := "xn--".toList

/-- Whether a label with characters beyond ASCII is in its only form. -/
def isWellFormed (label : List Char) : Bool :=
  label.all (fun c => mapChar? c == some [c]) && compose label == label &&
    !label.head?.any isMark && !mark.isPrefixOf label && joinersFit [] label

def plainLabel? (label : List Char) : Option (List Char) :=
  let isAscii := label.all Punycode.isAscii
  let plain? :=
    if isAscii && mark.isPrefixOf label then
      (Punycode.decode? (label.drop mark.length)).filter (!·.all Punycode.isAscii)
    else some label
  plain?.filter fun plain => plain.all Punycode.isAscii || isWellFormed plain

def writeLabel (label : List Char) : List Char :=
  if label.all Punycode.isAscii then label else mark ++ Punycode.encode label

def labels? (name : List Char) : Option (List (List Char)) := do
  let mapped ← mapText? name
  let labels := (compose mapped).splitOn '.'
  let plain ← labels.mapM plainLabel?
  if (compose mapped).any isForbidden || (plain.any runsLeft && !plain.all isLegible) then none
  else some labels

def read (b : Bytes) : Except Url.Error (List Char) :=
  match (Utf8.decode? b).bind labels? with
  | some labels => .ok (['.'].intercalate (labels.map writeLabel))
  | none => .error .invalidDomain

end ObjectStorage.Domain
