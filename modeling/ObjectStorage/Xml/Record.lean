import ObjectStorage.Xml.Entity
import ObjectStorage.Xml.Token

/-!
# Records in XML

The root element of a text is read as a record: each child with a known name gives the text of a
field, other children and text between them are skipped. A field has text only, without the
blanks at its ends; the name of the root is free, and so is what follows it. Of a child that is
skipped only the data in front is looked at: its references must stand for characters.
-/
namespace ObjectStorage.Xml

inductive Part where
  | text (raw : List Char)
  | literal (content : List Char)
  | doctype
deriving DecidableEq

namespace Part

def dropFirstBlanks : List Part → List Part
  | .text t :: r =>
    let t := t.dropWhile isBlank
    if t.isEmpty then dropFirstBlanks r else .text t :: r
  | ps => ps

def dropLastBlanks : List Part → List Part
  | [] => []
  | [.text t] => [.text (t.reverse.dropWhile isBlank).reverse]
  | p :: r => p :: dropLastBlanks r

def value? : Part → Option (List Char)
  | .text t => unescape? t
  | .literal c => some c
  | .doctype => none

/-- The runs of data between declarations. -/
def runs : List Part → List (List Part)
  | [] => [[]]
  | .doctype :: ps => [] :: runs ps
  | p :: ps =>
    match runs ps with
    | [] => [[p]]
    | run :: rest => (p :: run) :: rest

/-- The text of a field. Blanks do not count beside a declaration, as at the ends of the field, and
only one run of data may be left. -/
def join? (ps : List Part) : Option (List Char) :=
  match ((runs ps).map dropFirstBlanks).filter (!·.isEmpty) with
  | [] => some []
  | [run] => ((dropLastBlanks run).mapM value?).map List.flatten
  | _ => none

end Part

def localName (name : List Char) : List Char :=
  if name.contains ':' then (name.dropWhile (· != ':')).drop 1 else name

/-- The attributes in a start tag, each a name and a quoted value; `names` are those before.
Nothing else may stand there, and no name twice. The number bounds the attributes. -/
def attributesOk : Nat → List (List Char) → List Char → Bool
  | 0, _, _ => false
  | n + 1, names, cs =>
    match cs.dropWhile isBlank with
    | [] => true
    | c :: r =>
      let key := c :: r.takeWhile (fun d => d != '=' && !isBlank d)
      match (r.dropWhile (fun d => d != '=' && !isBlank d)).dropWhile isBlank with
      | '=' :: r =>
        match r.dropWhile isBlank with
        | q :: r =>
          if (q = '"' ∨ q = '\'') ∧ !names.contains key then
            match r.dropWhile (· != q) with
            | _ :: r => attributesOk n (key :: names) r
            | [] => false
          else false
        | [] => false
      | _ => false

def hasAttributes (content : List Char) : Bool :=
  attributesOk (content.length + 1) [] (content.drop (Token.nameOf content).length)

/-- The references in the first data of an element stand for characters. Blanks and declarations may
come before the data; `started` says that some was read. -/
def firstDataOk (started : Bool) : List Token → Bool
  | .text raw :: ts => (unescape? raw).isSome && firstDataOk (started || !raw.all isBlank) ts
  | .literal _ :: ts => firstDataOk true ts
  | .doctype :: ts => started || firstDataOk false ts
  | _ => true

/-- What a reader of the root's children is in: the root, a field, or elements to be skipped, the
innermost first. -/
inductive Place where
  | root
  | field (name : List Char) (parts : List Part)
  | skipped (names : List (List Char))

abbrev Entry := String × List Char

def entries (known : List String) (root : List Char) : Place → List Token → Option (List Entry)
  | _, [] => none
  | _, .broken :: _ => none
  | .root, .text raw :: ts =>
    match unescape? raw with
    | some _ => entries known root .root ts
    | none => none
  | .root, .literal _ :: ts => entries known root .root ts
  | .root, .doctype :: ts => entries known root .root ts
  | .root, .closing name :: _ => if name = root then some [] else none
  | .root, .opening content :: ts =>
    let name := Token.nameOf content
    if known.contains (String.ofList (localName name)) then
      entries known root (.field name []) ts
    else if firstDataOk false ts then entries known root (.skipped [name]) ts
    else none
  | .field name parts, .text raw :: ts =>
    entries known root (.field name (parts ++ [.text raw])) ts
  | .field name parts, .literal content :: ts =>
    entries known root (.field name (parts ++ [.literal content])) ts
  | .field name parts, .doctype :: ts =>
    entries known root (.field name (parts ++ [.doctype])) ts
  | .field _ _, .opening _ :: _ => none
  | .field name parts, .closing other :: ts =>
    if other = name then
      match Part.join? parts with
      | some value =>
        (entries known root .root ts).map ((String.ofList (localName name), value) :: ·)
      | none => none
    else none
  | .skipped names, .opening content :: ts =>
    entries known root (.skipped (Token.nameOf content :: names)) ts
  | .skipped names, .closing other :: ts =>
    match names with
    | [] => none
    | name :: names =>
      if other = name then
        entries known root (if names.isEmpty then .root else .skipped names) ts
      else none
  | .skipped names, .text _ :: ts => entries known root (.skipped names) ts
  | .skipped names, .literal _ :: ts => entries known root (.skipped names) ts
  | .skipped names, .doctype :: ts => entries known root (.skipped names) ts

def rootEntries (known : List String) : List Token → Option (List Entry)
  | .doctype :: ts => rootEntries known ts
  | .text raw :: ts => if raw.all isBlank then rootEntries known ts else none
  | .opening content :: ts =>
    if hasAttributes content then entries known (Token.nameOf content) .root ts else none
  | _ => none

/-- The known fields of a text that is a record; none of them may come twice. -/
def record? (known : List String) (cs : List Char) : Option (List Entry) :=
  (rootEntries known (tokensOf cs)).filter fun es => decide (es.map (·.1)).Nodup

end ObjectStorage.Xml
