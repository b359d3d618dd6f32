import ObjectStorage.Bytes
import ObjectStorage.Number.Decimal
import ObjectStorage.Url.Error

/-!
# IPv4 addresses

An address is a word of 32 bits. It is read from one to four numbers between dots, each decimal,
octal (after a zero) or hexadecimal (after `0x`); the last one fills what the others leave.
-/
namespace ObjectStorage

structure Ipv4 where
  number : Nat
  number_lt : number < 0x100000000
deriving DecidableEq

namespace Ipv4

def octets (a : Ipv4) : List Nat :=
  [a.number / 0x1000000, a.number / 0x10000 % 256, a.number / 256 % 256, a.number % 256]

def textChars (a : Ipv4) : List Char := ['.'].intercalate (a.octets.map Decimal.chars)

def digit? (radix : Nat) (c : Char) : Option Nat :=
  (Bytes.hexValue? c).filter (· < radix)

def ofDigits? (radix : Nat) (cs : List Char) : Option Nat :=
  cs.foldlM (fun n c => (digit? radix c).map (n * radix + ·)) 0

def part? : List Char → Option Nat
  | [] => none
  | '0' :: 'x' :: r => ofDigits? 16 r
  | '0' :: 'X' :: r => ofDigits? 16 r
  | '0' :: c :: r => ofDigits? 8 (c :: r)
  | r => ofDigits? 10 r

def parts (name : List Char) : List (List Char) :=
  let ps := name.splitOn '.'
  if ps.getLast? = some [] then ps.dropLast else ps

/-- A name whose last part looks like a number has to be an address. -/
def endsInNumber (name : List Char) : Bool :=
  match (parts name).getLast? with
  | some p => (!p.isEmpty && p.all Char.isDigit) || (part? p).isSome
  | none => false

def ofNumbers? (numbers : List Nat) : Option Ipv4 :=
  let leading := numbers.dropLast
  let last := numbers.getLast?.getD 0
  if leading.length > 3 || leading.any (· > 255) || last ≥ Nat.pow 256 (4 - leading.length) then
    none
  else
    let n := leading.foldl (fun n b => n * 256 + b) 0 * Nat.pow 256 (4 - leading.length) + last
    if h : n < 0x100000000 then some ⟨n, h⟩ else none

def read (name : List Char) : Except Url.Error Ipv4 :=
  match (parts name).mapM part? with
  | some numbers =>
    match ofNumbers? numbers with
    | some a => .ok a
    | none => .error .invalidIpv4
  | none => .error .invalidIpv4

end Ipv4

end ObjectStorage
