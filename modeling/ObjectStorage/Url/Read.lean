import ObjectStorage.Text.Blank
import ObjectStorage.Url.Basic

/-!
# Reading URLs

A URL is read from the left: scheme, user, host, port, path, query and fragment. Blanks at both
ends and line breaks and tabs anywhere do not count.
-/
namespace ObjectStorage.Url

def isLineBreakOrTab (c : Char) : Bool := c == '\t' || c == '\n' || c == '\r'

def isSchemeChar (c : Char) : Bool := c.isAlphanum || c == '+' || c == '-' || c == '.'

def splitScheme? (cs : List Char) : Option (String × List Char) :=
  let name := cs.takeWhile isSchemeChar
  match name.head?, cs.dropWhile isSchemeChar with
  | some c, ':' :: r =>
    if c.isAlpha then some (String.ofList (name.map Char.toLower), r) else none
  | _, _ => none

/-- Where an authority ends; `special` makes a backslash a slash. -/
def endsAuthority (special : Bool) (c : Char) : Bool :=
  c == '/' || c == '?' || c == '#' || (special && c == '\\')

def isUserKept (c : Char) : Bool := Path.isKept c && !"/:;=@[\\]^|".toList.contains c

/-- What stands before the last `@`, if there is one, and what follows. -/
def splitUser (cs : List Char) : Option (List Char) × List Char :=
  if cs.contains '@' then
    (some ((cs.reverse.dropWhile (· != '@')).drop 1).reverse,
      (cs.reverse.takeWhile (· != '@')).reverse)
  else (none, cs)

def hostChars : Bool → List Char → List Char
  | _, [] => []
  | inside, c :: r =>
    if c == ':' && !inside then []
    else c :: hostChars (if c == '[' then true else if c == ']' then false else inside) r

def greatestPort : Nat := 65535

def readPort (scheme : String) (cs : List Char) : Except Error (Option Nat × List Char) :=
  let digits := cs.takeWhile Char.isDigit
  let rest := cs.dropWhile Char.isDigit
  let n := Decimal.ofChars digits
  if n > greatestPort then .error .invalidPort
  else if !rest.isEmpty && !rest.head?.any (endsAuthority true) then .error .invalidPort
  else .ok (if digits.isEmpty || defaultPort scheme = some n then none else some n, rest)

def isQueryKept (special : Bool) (c : Char) : Bool :=
  0x20 < c.toNat && c.toNat < 0x7F && c != '"' && c != '#' && c != '<' && c != '>' &&
    !(special && c == '\'')

def isFragmentKept (c : Char) : Bool :=
  0x20 < c.toNat && c.toNat < 0x7F && c != '"' && c != '<' && c != '>' && c != '`'

def fragmentOf (cs : List Char) : Option (List Char) :=
  match cs.dropWhile (· != '#') with
  | [] => none
  | _ :: r => some (Percent.encodeBy isFragmentKept r)

def queryOf (special : Bool) (cs : List Char) : Option (List Char) :=
  match cs.dropWhile (fun c => c != '?' && c != '#') with
  | '?' :: r => some (Percent.encodeBy (isQueryKept special) (r.takeWhile (· != '#')))
  | _ => none

def untilQuery (cs : List Char) : List Char := cs.takeWhile fun c => c != '?' && c != '#'

def isSlash (special : Bool) (c : Char) : Bool := c == '/' || (special && c == '\\')

/-- The path of a text that comes after an authority. A special URL always has one. -/
def pathOf (special : Bool) (cs : List Char) : Path :=
  match cs with
  | [] => if special then .root else ⟨[]⟩
  | c :: r => .ofChars (isSlash special) (if isSlash special c then r else c :: r)

def complete (scheme : String) (user password : List Char) (host : Option Host)
    (port : Option Nat) (rest : List Char) : Url :=
  { scheme, username := user, password, host, port
    place := .path (pathOf (isSpecial scheme) (untilQuery rest))
    query := queryOf (isSpecial scheme) rest
    fragment := fragmentOf rest }

def encodeUser (cs : List Char) : List Char := Percent.encodeBy isUserKept cs

def readAuthority (scheme : String) (cs : List Char) : Except Error Url := do
  let special := isSpecial scheme
  let (user, place) := splitUser (cs.takeWhile (!endsAuthority special ·))
  let rest := cs.dropWhile (!endsAuthority special ·)
  if user = some [] ∧ place = [] ∧ rest ≠ [] then throw .emptyHost
  let name := ((user.getD []).takeWhile (· != ':'))
  let password := ((user.getD []).dropWhile (· != ':')).drop 1
  let written := hostChars false place
  let after := place.drop written.length
  if special && written.isEmpty then throw .emptyHost
  let host ← if special then Host.read written else Host.readPlain written
  if written.isEmpty && !after.isEmpty then throw .emptyHost
  let (port, rest) ←
    if after.isEmpty then pure (none, rest) else readPort scheme (after.drop 1 ++ rest)
  if written.isEmpty && !(name.isEmpty && password.isEmpty) then throw .emptyHost
  return complete scheme (encodeUser name) (encodeUser password) (some host) port rest

/-- A local path has no empty segments in front. -/
def localPath (p : Path) : Path :=
  match p.segments.dropWhile List.isEmpty with
  | [] => .root
  | ss => ⟨ss⟩

/-- A URL of a local file: the host may be left out or be this one. -/
def readFile (cs : List Char) : Except Error Url := do
  let slashes := (cs.take 2).takeWhile (isSlash true)
  let (host, rest) ←
    if slashes.length = 2 then
      let written := (cs.drop 2).takeWhile (!endsAuthority true ·)
      if Path.isDrive written || written.isEmpty then pure (none, cs.drop 2)
      else do
        let host ← Host.read written
        pure (if host = .name "localhost" then none else some host,
          (cs.drop 2).drop written.length)
    else pure (none, cs)
  let u := complete "file" [] [] host none rest
  return match u.place with
    | .path p => { u with place := .path (localPath p) }
    | .text _ => u

def isTextKept (c : Char) : Bool := 0x20 ≤ c.toNat && c.toNat < 0x7F

def readPlain (scheme : String) (cs : List Char) : Url :=
  match cs with
  | '/' :: _ => complete scheme [] [] none none cs
  | _ =>
    { complete scheme [] [] none none cs with
      place := .text (Percent.encodeBy isTextKept (untilQuery cs)) }

def read (s : String) : Except Error Url :=
  let trimmed := Blank.trimBy (fun c => c.toNat ≤ 0x20) s.toList
  match splitScheme? (trimmed.filter (!isLineBreakOrTab ·)) with
  | none => .error .relativeWithoutBase
  | some ("file", cs) => readFile cs
  | some (scheme, cs) =>
    if isSpecial scheme then readAuthority scheme (cs.dropWhile (isSlash true))
    else
      match cs with
      | '/' :: '/' :: r => readAuthority scheme r
      | cs => .ok (readPlain scheme cs)

/-- The text up to a colon outside brackets, which a host cannot hold. -/
def hostPart (cs : List Char) : Except Error (List Char) :=
  if cs.head? = some '[' ∧ cs.getLast? = some ']' then .ok cs
  else if cs.head? = some ':' then .error .invalidDomainCharacter
  else .ok (cs.takeWhile (· != ':'))

def withHost (u : Url) (host : String) : Except Error Url := do
  let cs ← hostPart host.toList
  let host ← if isSpecial u.scheme then Host.read cs else Host.readPlain cs
  return { u with host := some host }

def withPath (u : Url) (path : List Char) : Url :=
  { u with place := .path (pathOf (isSpecial u.scheme) path) }

def withPairs (u : Url) (ps : List Query.Pair) : Url :=
  if ps.isEmpty then u
  else { u with query := some ((match u.query with
    | some q => if q.isEmpty then [] else q ++ ['&']
    | none => []) ++ Query.encode ps) }

end ObjectStorage.Url
