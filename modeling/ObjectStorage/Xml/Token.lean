import ObjectStorage.Bytes

/-!
# Markup

The tokens of an XML text: tags, character data and sections of literal text. Comments and
processing instructions leave no token. A text whose markup does not end has a last token that
says so. `tokens_text` and `tokens_tag` say how character data and a tag are read.
-/
namespace ObjectStorage.Xml

def isBlank (c : Char) : Bool := c == ' ' || c == '\t' || c == '\n' || c == '\r'

inductive Token where
  /-- What stands in a start tag: a name and attributes. -/
  | opening (content : List Char)
  | closing (name : List Char)
  | text (raw : List Char)
  | literal (content : List Char)
  | doctype
  | broken
deriving DecidableEq

/-- Where in a markup a reader is. What was read comes last first. -/
inductive Mode where
  | text (read : List Char)
  | markup
  | tag (quote : Option Char) (read : List Char)
  | instruction (read : List Char)
  | bang
  | comment (read : List Char)
  | literal (read : List Char)
  | doctype (depth : Nat) (read : List Char)

namespace Token

def nameOf (content : List Char) : List Char := content.takeWhile (!isBlank ·)

def ofText (read : List Char) : List Token := if read.isEmpty then [] else [.text read.reverse]

def ofTag (content : List Char) : List Token :=
  match content with
  | '/' :: r =>
    let name := (r.reverse.dropWhile isBlank).reverse
    [.closing (if name.isEmpty then r else name)]
  | _ =>
    if content.getLast? = some '/' then
      [.opening content.dropLast, .closing (nameOf content.dropLast)]
    else [.opening content]

def startsWith (start : String) (cs : List Char) : Bool := start.toList.isPrefixOf cs

def ofLiteral (content : List Char) : List Token :=
  if startsWith "[CDATA[" content then [.literal ((content.drop 7).take (content.length - 9))]
  else [.broken]

def ofDoctype (content : List Char) : List Token :=
  if (content.take 7).map Char.toLower = "doctype".toList && (content.drop 7).any (!isBlank ·)
  then [.doctype] else [.broken]

def ofComment (content : List Char) : List Token :=
  if startsWith "--" content then [] else [.broken]

def isBroken (ts : List Token) : Bool := ts.getLast? = some .broken

end Token

open Xml.Token

def endsWith (tail : String) (read : List Char) : Bool := tail.toList.reverse.isPrefixOf read

def tokens : Mode → List Char → List Token
  | .text read, [] => ofText read
  | _, [] => [.broken]
  | .text read, c :: r =>
    if c = '<' then ofText read ++ tokens .markup r else tokens (.text (c :: read)) r
  | .markup, c :: r =>
    if c = '!' then tokens .bang r
    else if c = '?' then tokens (.instruction [c]) r
    else if c = '>' then ofTag [] ++ tokens (.text []) r
    else tokens (.tag (if c = '"' ∨ c = '\'' then some c else none) [c]) r
  | .tag none read, c :: r =>
    if c = '>' then ofTag read.reverse ++ tokens (.text []) r
    else tokens (.tag (if c = '"' ∨ c = '\'' then some c else none) (c :: read)) r
  | .tag (some q) read, c :: r => tokens (.tag (if c = q then none else some q) (c :: read)) r
  | .instruction read, c :: r =>
    if c = '>' ∧ endsWith "?" read then
      if read.length < 2 then [.broken] else tokens (.text []) r
    else tokens (.instruction (c :: read)) r
  | .bang, c :: r =>
    if c = '-' then tokens (.comment [c]) r
    else if c = '[' then tokens (.literal [c]) r
    else if c = 'D' ∨ c = 'd' then tokens (.doctype 0 [c]) r
    else [.broken]
  | .comment read, c :: r =>
    if c = '>' ∧ read.length ≥ 4 ∧ endsWith "--" read then
      if isBroken (ofComment read.reverse) then [.broken] else tokens (.text []) r
    else tokens (.comment (c :: read)) r
  | .literal read, c :: r =>
    if c = '>' ∧ endsWith "]]" read then
      let ts := ofLiteral read.reverse
      if isBroken ts then ts else ts ++ tokens (.text []) r
    else tokens (.literal (c :: read)) r
  | .doctype depth read, c :: r =>
    if c = '<' then tokens (.doctype (depth + 1) (c :: read)) r
    else if c = '>' then
      match depth with
      | 0 =>
        let ts := ofDoctype read.reverse
        if isBroken ts then ts else ts ++ tokens (.text []) r
      | depth + 1 => tokens (.doctype depth (c :: read)) r
    else tokens (.doctype depth (c :: read)) r

/-- The tokens of a text, which may have a byte order mark in front. -/
def tokensOf (cs : List Char) : List Token :=
  match cs with
  | '\ufeff' :: r => tokens (.text []) r
  | cs => tokens (.text []) cs

theorem tokens_data (s read cs : List Char) (h : ∀ c ∈ s, c ≠ '<') :
    tokens (.text read) (s ++ cs) = tokens (.text (s.reverse ++ read)) cs := by
  induction s generalizing read with
  | nil => rfl
  | cons c s ih =>
    have hc : c ≠ '<' := h c (List.mem_cons_self ..)
    have hs := ih (c :: read) fun d hd => h d (List.mem_cons_of_mem c hd)
    rw [List.cons_append, tokens, if_neg hc, hs, List.reverse_cons, List.append_assoc,
      List.singleton_append]

theorem tokens_text (s read r : List Char) (h : ∀ c ∈ s, c ≠ '<') :
    tokens (.text read) (s ++ '<' :: r) = ofText (s.reverse ++ read) ++ tokens .markup r := by
  rw [tokens_data s read _ h, tokens, if_pos rfl]

theorem tokens_tag (s read r : List Char) (h : ∀ c ∈ s, c ≠ '>' ∧ c ≠ '"' ∧ c ≠ '\'') :
    tokens (.tag none read) (s ++ '>' :: r) =
      ofTag (read.reverse ++ s) ++ tokens (.text []) r := by
  induction s generalizing read with
  | nil => simp [tokens]
  | cons c s ih =>
    obtain ⟨h₁, h₂, h₃⟩ := h c (List.mem_cons_self ..)
    have hs := ih (c :: read) fun d hd => h d (List.mem_cons_of_mem c hd)
    simp only [List.cons_append, tokens, h₁, h₂, h₃, if_false, or_self, hs, List.reverse_cons,
      List.append_assoc, List.nil_append]

end ObjectStorage.Xml
