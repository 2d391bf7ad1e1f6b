import PolicyAudit.Json.Basic
import PolicyAudit.Text.Utf8

/-! # JSON text as far as it reads

A reader that goes from left to right and stops at the first fault still knows the tree up to
there.  A `Draft` is that tree: a `fault` stands where the text stops being JSON, and nothing
follows it.  Whether a decoder meets the fault depends on what it finds before, so that an error of
type in front of a fault is reported as an error of type.

Two kinds of scalar are well formed and yet denote no value: a string with half of a surrogate pair
or with bytes that are not UTF-8, and a number above the greatest double.  They are `unusable`,
which matters only to a decoder that wants their value.

The reader looks at bytes, each as the character of its number: all that structures a text of JSON
is ASCII, and only the content of a string is decoded.

`Draft.ofBytes` reads the first value of some bytes; what follows that value is not looked at.
`Json.draft` is the draft of a value that is known in full, and `Draft.complete?` is the way
back. -/

namespace PolicyAudit.Json

inductive Draft where
  /-- The text stops being JSON here. -/
  | fault
  /-- A well-formed scalar that denotes no value. -/
  | unusable
  | null
  | bool (value : Bool)
  | number (value : Number)
  | string (value : String)
  | array (items : List Draft)
  /-- Members in their order; a key that cannot be read or used is absent. -/
  | object (members : List (Option String × Draft))

namespace Draft

instance : Inhabited Draft := ⟨fault⟩

/-! ### Faults -/

mutual

/-- No fault stands anywhere in the draft. -/
def isLegible : Draft → Bool
  | fault => false
  | array items => areLegible items
  | object members => membersLegible members
  | _ => true

def areLegible : List Draft → Bool
  | [] => true
  | item :: items => item.isLegible && areLegible items

def membersLegible : List (Option String × Draft) → Bool
  | [] => true
  | (_, value) :: members => value.isLegible && membersLegible members

end

/-! ### Scalars -/

/-- The blanks of JSON. -/
def isJsonBlank (c : Char) : Bool := c = ' ' || c = '\n' || c = '\t' || c = '\r'

def skipBlanks (cs : List Char) : List Char := cs.dropWhile isJsonBlank

/-- The value of a hexadecimal digit of either case. -/
def hexDigit? (c : Char) : Option Nat :=
  if '0' ≤ c ∧ c ≤ '9' then some (c.toNat - 0x30)
  else if 'A' ≤ c ∧ c ≤ 'F' then some (c.toNat - 0x37)
  else if 'a' ≤ c ∧ c ≤ 'f' then some (c.toNat - 0x57)
  else none

/-- The character of an escape of one letter. -/
def shortEscape? (c : Char) : Option Char :=
  if c = '"' ∨ c = '\\' ∨ c = '/' then some c
  else if c = 'b' then some '\x08'
  else if c = 'f' then some '\x0c'
  else if c = 'n' then some '\n'
  else if c = 'r' then some '\r'
  else if c = 't' then some '\t'
  else none

/-- A part of a string: a byte, or a 16-bit unit given by its number. -/
inductive Piece where
  | byte (b : UInt8)
  | unit (u : Nat)

/-- The pieces up to the closing quote, last piece first, and what follows the quote. -/
def readPieces (done : List Piece) : List Char → Option (List Piece × List Char)
  | [] => none
  | '"' :: rest => some (done, rest)
  | '\\' :: 'u' :: a :: b :: c :: d :: rest =>
    match hexDigit? a, hexDigit? b, hexDigit? c, hexDigit? d with
    | some a, some b, some c, some d =>
      readPieces (.unit (((a * 16 + b) * 16 + c) * 16 + d) :: done) rest
    | _, _, _, _ => none
  | '\\' :: c :: rest =>
    match shortEscape? c with
    | some c => readPieces (.byte c.toUInt8 :: done) rest
    | none => none
  | c :: rest =>
    if c = '\\' ∨ c.toNat < 0x20 then none else readPieces (.byte c.toUInt8 :: done) rest

/-- The bytes of the pieces, which come last piece first; none for half of a pair. -/
def joinPieces (done : List UInt8) : List Piece → Option (List UInt8)
  | [] => some done
  | .byte b :: rest => joinPieces (b :: done) rest
  | .unit low :: rest =>
    if low < 0xd800 ∨ 0xdfff < low then
      joinPieces (String.utf8EncodeChar (Char.ofNat low) ++ done) rest
    else if low < 0xdc00 then none
    else match rest with
      | .unit high :: rest =>
        if 0xd800 ≤ high ∧ high < 0xdc00 then
          let c := Char.ofNat (0x10000 + (high - 0xd800) * 0x400 + (low - 0xdc00))
          joinPieces (String.utf8EncodeChar c ++ done) rest
        else none
      | _ => none

/-- The string behind an opening quote, absent if it denotes no text, and what follows it. -/
def readString? (cs : List Char) : Option (Option String × List Char) := do
  let (pieces, rest) ← readPieces [] cs
  some ((joinPieces [] pieces).bind Text.ofBytes?, rest)

/-- The number at the front. -/
def readNumber (cs : List Char) : Draft × Option (List Char) :=
  match Number.Numeral.read? cs with
  | none => (fault, none)
  | some (numeral, rest) =>
    match Number.ofNumeral numeral with
    | some n => (number n, some rest)
    | none => (unusable, some rest)

/-! ### Values -/

mutual

/-- The value at the front, and what follows it unless a fault was met.  Each call inside another
has less fuel, and needs less text. -/
def readValue : Nat → List Char → Draft × Option (List Char)
  | 0, _ => (fault, none)
  | fuel + 1, cs =>
    match skipBlanks cs with
    | 'n' :: 'u' :: 'l' :: 'l' :: rest => (null, some rest)
    | 't' :: 'r' :: 'u' :: 'e' :: rest => (bool true, some rest)
    | 'f' :: 'a' :: 'l' :: 's' :: 'e' :: rest => (bool false, some rest)
    | '"' :: rest =>
      match readString? rest with
      | none => (fault, none)
      | some (some s, rest) => (string s, some rest)
      | some (none, rest) => (unusable, some rest)
    | '[' :: rest =>
      match skipBlanks rest with
      | ']' :: rest => (array [], some rest)
      | rest => let (items, rest) := readItems fuel rest; (array items, rest)
    | '\x7b' :: rest =>
      match skipBlanks rest with
      | '\x7d' :: rest => (object [], some rest)
      | rest => let (members, rest) := readMembers fuel rest; (object members, rest)
    | c :: rest =>
      if c = '-' ∨ ('0' ≤ c ∧ c ≤ '9') then readNumber (c :: rest) else (fault, none)
    | [] => (fault, none)

/-- The items up to the closing bracket. -/
def readItems : Nat → List Char → List Draft × Option (List Char)
  | 0, _ => ([fault], none)
  | fuel + 1, cs =>
    match readValue fuel cs with
    | (item, none) => ([item], none)
    | (item, some rest) =>
      match skipBlanks rest with
      | ']' :: rest => ([item], some rest)
      | ',' :: rest => let (items, rest) := readItems fuel rest; (item :: items, rest)
      | _ => ([item, fault], none)

/-- The members up to the closing brace. -/
def readMembers : Nat → List Char → List (Option String × Draft) × Option (List Char)
  | 0, _ => ([(none, fault)], none)
  | fuel + 1, cs =>
    match skipBlanks cs with
    | '"' :: rest =>
      match readString? rest with
      | none => ([(none, fault)], none)
      | some (key, rest) =>
        match skipBlanks rest with
        | ':' :: rest =>
          match readValue fuel rest with
          | (value, none) => ([(key, value)], none)
          | (value, some rest) =>
            match skipBlanks rest with
            | '\x7d' :: rest => ([(key, value)], some rest)
            | ',' :: rest =>
              let (members, rest) := readMembers fuel rest
              ((key, value) :: members, rest)
            | _ => ([(key, value), (none, fault)], none)
        | _ => ([(key, fault)], none)
    | _ => ([(none, fault)], none)

end

/-- The first value of a text with these bytes, as far as it reads. -/
def ofBytes (bs : List UInt8) : Draft := (readValue (bs.length + 1) (bs.map Char.ofUInt8)).1

/-! ### Drafts and values -/

mutual

/-- The value of a draft that has no fault and nothing unusable. -/
def complete? : Draft → Option Json
  | fault => none
  | unusable => none
  | null => some .null
  | bool b => some (.bool b)
  | number n => some (.number n)
  | string s => some (.string s)
  | array items => (completeItems? items).map .array
  | object members => (completeMembers? members).map .object

def completeItems? : List Draft → Option (List Json)
  | [] => some []
  | item :: items => do
    let item ← item.complete?
    let items ← completeItems? items
    some (item :: items)

def completeMembers? : List (Option String × Draft) → Option (List (String × Json))
  | [] => some []
  | (key, value) :: members => do
    let key ← key
    let value ← value.complete?
    let members ← completeMembers? members
    some ((key, value) :: members)

end

end Draft

mutual

/-- The draft of a value that is known in full. -/
def draft : Json → Draft
  | null => .null
  | bool b => .bool b
  | number n => .number n
  | string s => .string s
  | array items => .array (draftItems items)
  | object members => .object (draftMembers members)

def draftItems : List Json → List Draft
  | [] => []
  | item :: items => item.draft :: draftItems items

def draftMembers : List (String × Json) → List (Option String × Draft)
  | [] => []
  | (key, value) :: members => (some key, value.draft) :: draftMembers members

end

@[simp] theorem draftItems_eq_map (items : List Json) : draftItems items = items.map draft := by
  induction items with
  | nil => rfl
  | cons item items ih => simp [draftItems, ih]

@[simp] theorem draftMembers_eq_map (members : List (String × Json)) :
    draftMembers members = members.map fun m => (some m.1, m.2.draft) := by
  induction members with
  | nil => rfl
  | cons m members ih => simp [draftMembers, ih]

/-- The value of a whole text: one value, with nothing but blanks around it. -/
def ofText? (s : String) : Option Json :=
  let cs := (Text.bytes s).map Char.ofUInt8
  match Draft.readValue (cs.length + 1) cs with
  | (d, some rest) => if (Draft.skipBlanks rest).isEmpty then d.complete? else none
  | (_, none) => none

end PolicyAudit.Json
