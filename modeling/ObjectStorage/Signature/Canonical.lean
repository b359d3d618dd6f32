import ObjectStorage.Request
import ObjectStorage.Text.Blank

/-!
# Canonical requests

The text that a signature is computed over: method, path, sorted query, the headers that take
part with their names, and the digest of the body.
-/
namespace ObjectStorage.Canonical

abbrev Part := List Char × List Char

def encodePair (p : Query.Pair) : Part :=
  (Percent.encodeChars p.1.toList, Percent.encodeChars p.2.toList)

/-- Names first, then values, each by code points. -/
def ble (a b : Part) : Bool := a.1 < b.1 || (a.1 == b.1 && (a.2 < b.2 || a.2 == b.2))

def queryParts (ps : List Query.Pair) : List Part := (ps.map encodePair).mergeSort ble

def queryChars (ps : List Query.Pair) : List Char :=
  ['&'].intercalate ((queryParts ps).map fun p => p.1 ++ '=' :: p.2)

def pathChars (u : Url) : List Char := if u.pathChars.isEmpty then ['/'] else u.pathChars

def isSigned (name : String) : Bool :=
  name == "host" || name == "content-type" || name == "content-md5" ||
    "x-tos-".toList.isPrefixOf name.toList

def signedNames (h : Headers) : List String :=
  (h.names.filter isSigned).mergeSort fun a b => decide (a ≤ b)

def valueText (value : Bytes) : Except Error String :=
  match Headers.textOf? value with
  | some t => .ok (Blank.trim t)
  | none => .error (.argument .headerText)

def line (h : Headers) (name : String) : Except Error String := do
  let values ← (h.getAll name).mapM valueText
  return name ++ ":" ++ ",".intercalate values

def lines (h : Headers) : Except Error String := do
  let ls ← (signedNames h).mapM (line h)
  return "\n".intercalate ls

def names (h : Headers) : String := ";".intercalate (signedNames h)

def text (r : Request) (h : Headers) (payload : String) : Except Error String := do
  let ls ← lines h
  return r.method ++ "\n" ++ String.ofList (pathChars r.url) ++ "\n" ++
    String.ofList (queryChars r.url.pairs) ++ "\n" ++ ls ++ "\n\n" ++ names h ++ "\n" ++ payload

end ObjectStorage.Canonical
