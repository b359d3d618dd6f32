import ObjectStorage.Text.Blank
import ObjectStorage.Json.Number
import ObjectStorage.Json.Text

/-!
# JSON texts as trees

`readTree` reads one value as far as its syntax holds. A tree may end early: the last thing in it
is then `broken`, or the ending of its innermost open list or object says what was met instead of
the closing bracket. Whether a number fits or a string is well formed is kept with the leaf, so
that a member nobody asks for can be skipped without looking at it. `Tree.check` asks everything
at once, `Tree.skip` asks only for the syntax.
-/
namespace ObjectStorage.Json

inductive Ending where
  | closed
  /-- The last item is itself incomplete. -/
  | cut
  | endOfInput
  | commaThenClose
  | commaThenEnd
  /-- A comma, or the opening bracket, and then no key. -/
  | noKey (afterComma : Bool)
  | stray
deriving DecidableEq, Repr

/-- A leaf holds the cause why its content is refused, if it is. -/
inductive Tree where
  | null
  | boolean (value : Bool)
  | number (value : Except Error Number)
  | text (value : Except Error String)
  | list (items : List Tree) (ending : Ending)
  | object (members : List (Except Error String × Tree)) (ending : Ending)
  /-- No value: why it cannot be read, and why it cannot be skipped. -/
  | broken (reading skipping : Error)

def skipBlanks (s : Bytes) : Bytes := s.dropWhile Blank.isJsonBlank

def readWord (word : Bytes) (value : Tree) (s : Bytes) : Tree × Option Bytes :=
  match word, s with
  | [], s => (value, some s)
  | _ :: _, [] => (.broken .endInValue .endInValue, none)
  | w :: ws, b :: r =>
    if w = b then readWord ws value r else (.broken .expectedWord .expectedWord, none)

def readNumberTree (negative : Bool) (s : Bytes) : Tree × Option Bytes :=
  match readNumber negative s, skipNumber s with
  | .ok (value, rest), _ => (.number value, some rest)
  | .error e, .error e' => (.broken e e', none)
  | .error e, .ok _ => (.broken e e, none)

/-- The content of the string after an opening quote and what follows the string, or why it has
no end. -/
def readTextLeaf (s : Bytes) : Except (Error × Error) (Except Error String × Bytes) :=
  match skipText (s.length + 1) s with
  | .ok rest => .ok (readText s, rest)
  | .error e =>
    match readText s with
    | .error e' => .error (e', e)
    | .ok _ => .error (e, e)

def readLeaf (b : UInt8) (r : Bytes) : Tree × Option Bytes :=
  if b = 0x6E then readWord [0x75, 0x6C, 0x6C] .null r
  else if b = 0x74 then readWord [0x72, 0x75, 0x65] (.boolean true) r
  else if b = 0x66 then readWord [0x61, 0x6C, 0x73, 0x65] (.boolean false) r
  else if b = 0x2D then readNumberTree true r
  else if isDigit b then readNumberTree false (b :: r)
  else if b = 0x22 then
    match readTextLeaf r with
    | .ok (value, rest) => (.text value, some rest)
    | .error (reading, skipping) => (.broken reading skipping, none)
  else (.broken .expectedValue .expectedValue, none)

mutual

def readValue : Nat → Bytes → Tree × Option Bytes
  | 0, _ => (.broken .endInValue .endInValue, none)
  | fuel + 1, s =>
    match skipBlanks s with
    | [] => (.broken .endInValue .endInValue, none)
    | b :: r =>
      if b = 0x5B then
        let (items, ending, rest) := readItems fuel true r
        (.list items ending, rest)
      else if b = 0x7B then
        let (members, ending, rest) := readMembers fuel true r
        (.object members ending, rest)
      else readLeaf b r

/-- The items of a list, from its opening bracket or from the end of an item on. -/
def readItems : Nat → Bool → Bytes → List Tree × Ending × Option Bytes
  | 0, _, _ => ([], .endOfInput, none)
  | fuel + 1, first, s =>
    match skipBlanks s with
    | [] => ([], .endOfInput, none)
    | b :: r =>
      if b = 0x5D then ([], .closed, some r)
      else if first then readItem fuel (b :: r)
      else if b = 0x2C then
        match skipBlanks r with
        | [] => ([], .commaThenEnd, none)
        | c :: r => if c = 0x5D then ([], .commaThenClose, none) else readItem fuel (c :: r)
      else ([], .stray, none)

def readItem : Nat → Bytes → List Tree × Ending × Option Bytes
  | 0, _ => ([], .endOfInput, none)
  | fuel + 1, s =>
    match readValue fuel s with
    | (item, none) => ([item], .cut, none)
    | (item, some rest) =>
      let (items, ending, rest) := readItems fuel false rest
      (item :: items, ending, rest)

/-- The members of an object, from its opening brace or from the end of a member on. -/
def readMembers : Nat → Bool → Bytes → List (Except Error String × Tree) × Ending × Option Bytes
  | 0, _, _ => ([], .endOfInput, none)
  | fuel + 1, first, s =>
    match skipBlanks s with
    | [] => ([], .endOfInput, none)
    | b :: r =>
      if b = 0x7D then ([], .closed, some r)
      else if first then
        if b = 0x22 then readMember fuel r else ([], .noKey false, none)
      else if b = 0x2C then
        match skipBlanks r with
        | [] => ([], .commaThenEnd, none)
        | c :: r =>
          if c = 0x22 then readMember fuel r
          else if c = 0x7D then ([], .commaThenClose, none)
          else ([], .noKey true, none)
      else ([], .stray, none)

def readMember : Nat → Bytes → List (Except Error String × Tree) × Ending × Option Bytes
  | 0, _ => ([], .endOfInput, none)
  | fuel + 1, s =>
    match readTextLeaf s with
    | .error (reading, skipping) =>
      ([(.error reading, .broken reading skipping)], .cut, none)
    | .ok (key, rest) =>
      match skipBlanks rest with
      | [] => ([(key, .broken .endInObject .endInObject)], .cut, none)
      | b :: r =>
        if b = 0x3A then
          match readValue fuel r with
          | (value, none) => ([(key, value)], .cut, none)
          | (value, some rest) =>
            let (members, ending, rest) := readMembers fuel false rest
            ((key, value) :: members, ending, rest)
        else ([(key, .broken .expectedColon .expectedColon)], .cut, none)

end

/-- A tree and what follows it. Two steps for each byte and two for the end suffice. -/
def readTree (s : Bytes) : Tree × Option Bytes := readValue (2 * s.length + 2) s

def Ending.afterItems : Ending → Option Error
  | .closed => none
  | .cut => some .endInList
  | .endOfInput => some .endInList
  | .commaThenClose => some .trailingComma
  | .commaThenEnd => some .endInValue
  | .noKey _ => some .expectedListEnd
  | .stray => some .expectedListEnd

/-- Why the end of a list is refused by a reader that wants no further item, if it is. -/
def Ending.afterLast : Ending → Option Error
  | .closed => none
  | .cut => some .trailingCharacters
  | .endOfInput => some .endInList
  | .commaThenClose => some .trailingComma
  | .commaThenEnd => some .trailingCharacters
  | .noKey _ => some .trailingCharacters
  | .stray => some .trailingCharacters

def Ending.afterMembers : Ending → Option Error
  | .closed => none
  | .cut => some .endInObject
  | .endOfInput => some .endInObject
  | .commaThenClose => some .trailingComma
  | .commaThenEnd => some .endInValue
  | .noKey _ => some .keyNotText
  | .stray => some .expectedObjectEnd

/-- Why a list that is skipped has no end, if it has none. -/
def Ending.skippedItems : Ending → Option Error
  | .closed => none
  | .cut => some .endInList
  | .endOfInput => some .endInList
  | .commaThenClose => some .expectedValue
  | .commaThenEnd => some .endInValue
  | .noKey _ => some .expectedListEnd
  | .stray => some .expectedListEnd

def Ending.skippedMembers : Ending → Option Error
  | .closed => none
  | .cut => some .endInObject
  | .endOfInput => some .endInObject
  | .commaThenClose => some .keyNotText
  | .commaThenEnd => some .endInObject
  | .noKey _ => some .keyNotText
  | .stray => some .expectedObjectEnd

def raise : Option Error → Except Error Unit
  | none => .ok ()
  | some e => .error e

mutual

/-- Refuses a value with anything wrong in it, or one that nests `depth` lists and objects. -/
def Tree.check : Nat → Tree → Except Error Unit
  | _, .null => .ok ()
  | _, .boolean _ => .ok ()
  | _, .number value => value.map fun _ => ()
  | _, .text value => value.map fun _ => ()
  | depth, .list items ending =>
    if depth ≤ 1 then .error .tooDeep
    else do
      checkItems (depth - 1) items
      raise ending.afterItems
  | depth, .object members ending =>
    if depth ≤ 1 then .error .tooDeep
    else do
      checkMembers (depth - 1) members
      raise ending.afterMembers
  | _, .broken reading _ => .error reading

def checkItems : Nat → List Tree → Except Error Unit
  | _, [] => .ok ()
  | depth, t :: r => do
    t.check depth
    checkItems depth r

def checkMembers : Nat → List (Except Error String × Tree) → Except Error Unit
  | _, [] => .ok ()
  | depth, (key, t) :: r => do
    let _ ← key
    t.check depth
    checkMembers depth r

end

mutual

def Tree.skip : Tree → Except Error Unit
  | .null => .ok ()
  | .boolean _ => .ok ()
  | .number _ => .ok ()
  | .text _ => .ok ()
  | .list items ending => do
    skipItems items
    raise ending.skippedItems
  | .object members ending => do
    skipMembers members
    raise ending.skippedMembers
  | .broken _ skipping => .error skipping

def skipItems : List Tree → Except Error Unit
  | [] => .ok ()
  | t :: r => do
    t.skip
    skipItems r

def skipMembers : List (Except Error String × Tree) → Except Error Unit
  | [] => .ok ()
  | (_, t) :: r => do
    t.skip
    skipMembers r

end

def depthLimit : Nat := 128

end ObjectStorage.Json
