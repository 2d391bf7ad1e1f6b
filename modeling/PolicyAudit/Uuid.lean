/-! # Identifiers of 128 bits

A `Uuid` is a row of 32 hexadecimal digits.  It is written in lower case as five groups of 8, 4, 4,
4 and 12 digits with hyphens between them.  It is read in either case from 32 digits in a row, from
five groups, and from five groups in braces or behind `urn:uuid:`, itself in either case.

What cannot be read is described by the first fault of a fixed list: its length, a character that is
neither digit nor hyphen, the number of groups, the length of a group.  Text of the length of five
groups is taken for five groups as it stands, whatever its characters; of other text a wrapper is
seen before the groups.  The length of the last group counts all that stands behind the other four,
a wrapper included. -/

namespace PolicyAudit

structure Uuid where
  digits : List (Fin 16)
  length_digits : digits.length = 32
deriving DecidableEq, Repr

namespace Uuid

/-! ### Text -/

/-- A digit in lower case. -/
def digitChar (d : Fin 16) : Char :=
  if d.val < 10 then Char.ofNat (0x30 + d.val) else Char.ofNat (0x57 + d.val)

/-- The digit that a character of either case stands for. -/
def digit? (c : Char) : Option (Fin 16) :=
  let n := c.toNat
  if 0x30 ≤ n ∧ n ≤ 0x39 then some (Fin.ofNat 16 (n - 0x30))
  else if 0x41 ≤ n ∧ n ≤ 0x46 then some (Fin.ofNat 16 (n - 0x37))
  else if 0x61 ≤ n ∧ n ≤ 0x66 then some (Fin.ofNat 16 (n - 0x57))
  else none

theorem digit?_digitChar (d : Fin 16) : digit? (digitChar d) = some d := by
  revert d; decide

/-- Thirty-two characters in five groups. -/
def group (cs : List Char) : List Char :=
  cs.take 8 ++ '-' :: (cs.drop 8).take 4 ++ '-' :: (cs.drop 12).take 4 ++ '-' ::
    (cs.drop 16).take 4 ++ '-' :: cs.drop 20

/-- The characters of five groups of the right lengths, without the hyphens between them. -/
def ungroup? (cs : List Char) : Option (List Char) :=
  if cs.length = 36 ∧ cs[8]? = some '-' ∧ cs[13]? = some '-' ∧ cs[18]? = some '-' ∧
      cs[23]? = some '-' then
    some (cs.take 8 ++ (cs.drop 9).take 4 ++ (cs.drop 14).take 4 ++ (cs.drop 19).take 4 ++
      cs.drop 24)
  else none

/-- The hyphenated text in lower case. -/
def text (u : Uuid) : String := String.ofList (group (u.digits.map digitChar))

/-- The digits in a row, in lower case. -/
def simpleText (u : Uuid) : String := String.ofList (u.digits.map digitChar)

/-- Thirty-two digits in a row. -/
def ofDigits? (cs : List Char) : Option Uuid :=
  match cs.mapM digit? with
  | some ds => if h : ds.length = 32 then some ⟨ds, h⟩ else none
  | none => none

/-- The number that the digits stand for.  Numbers order identifiers as their digits do. -/
def value (u : Uuid) : Nat := u.digits.foldl (fun n d => n * 16 + d.val) 0

/-- The identifier with the given number, modulo `2 ^ 128`. -/
def ofNat (n : Nat) : Uuid :=
  ⟨(List.range 32).map fun i => Fin.ofNat 16 (n / Nat.pow 16 (31 - i)), by simp⟩

/-! ### Reading -/

inductive ReadError where
  | length (found : Nat)
  | character (found : Char) (index : Nat)
  | groupCount (found : Nat)
  | groupLength (group expected found : Nat)
deriving DecidableEq, Repr

def ReadError.message : ReadError → String
  | length n => "invalid length: found " ++ toString n
  | character c i => "invalid character: found `" ++ c.toString ++ "` at " ++ toString i
  | groupCount n => "invalid group count: expected 5, found " ++ toString n
  | groupLength g expected n =>
    "invalid group length in group " ++ toString g ++ ": expected " ++ toString expected ++
      ", found " ++ toString n

/-- The number of bytes of the characters in UTF-8. -/
def byteLength (cs : List Char) : Nat := cs.foldl (fun n c => n + c.utf8Size) 0

/-- The text before the groups of a URN, in any case. -/
def urnMark : List Char := "urn:uuid:".toList

/-- The characters between braces. -/
def unbrace? : List Char → Option (List Char)
  | '\x7b' :: rest => if rest.getLast? = some '\x7d' then some rest.dropLast else none
  | _ => none

/-- The characters behind the mark of a URN. -/
def unmark? (cs : List Char) : Option (List Char) :=
  if (cs.take urnMark.length).map Char.toLower = urnMark then some (cs.drop urnMark.length)
  else none

/-- The first character that is neither digit nor hyphen, and its byte index from `index` on. -/
def strayCharacter? (index : Nat) : List Char → Option (Char × Nat)
  | [] => none
  | c :: cs =>
    if c = '-' ∨ (digit? c).isSome then strayCharacter? (index + c.utf8Size) cs
    else some (c, index)

/-- The indices of the hyphens, from `index` on. -/
def hyphens (index : Nat) : List Char → List Nat
  | [] => []
  | c :: cs => if c = '-' then index :: hyphens (index + 1) cs else hyphens (index + 1) cs

/-- What is wrong with characters that cannot be read.  `length` is that of the text that the last
group is measured in. -/
def fault (inside : List Char) (offset length : Nat) (isPlain : Bool) : ReadError :=
  match strayCharacter? offset inside with
  | some (c, i) => .character c i
  | none =>
    let hs := hyphens 0 inside
    if hs.isEmpty ∧ isPlain ∧ length ≠ 36 then .length length
    else match hs with
      | [a, b, c, d] =>
        if a ≠ 8 then .groupLength 0 8 a
        else if b ≠ 13 then .groupLength 1 4 (b - 9)
        else if c ≠ 18 then .groupLength 2 4 (c - 14)
        else if d ≠ 23 then .groupLength 3 4 (d - 19)
        else .groupLength 4 12 (length - 24)
      | hs => .groupCount (hs.length + 1)

/-- What is wrong with a whole text that cannot be read. -/
def faultOf (cs : List Char) : ReadError :=
  let n := byteLength cs
  if n = 0 ∨ 45 < n then .length n
  else match unbrace? cs with
    | some inside => fault inside 1 n false
    | none =>
      match unmark? cs with
      | some inside => fault inside urnMark.length n false
      | none => fault cs 0 n true

/-- Five groups, in characters of the length of five groups. -/
def readGroups (cs : List Char) : Except ReadError Uuid :=
  match (ungroup? cs).bind ofDigits? with
  | some u => .ok u
  | none => .error (fault cs 0 (byteLength cs) true)

/-- The identifier that the characters are a text of. -/
def readChars (cs : List Char) : Except ReadError Uuid :=
  let n := byteLength cs
  if n = 32 then
    match ofDigits? cs with
    | some u => .ok u
    | none => .error (faultOf cs)
  else if n = 36 then readGroups cs
  else
    match (if n = 38 then unbrace? cs else none), (if n = 45 then unmark? cs else none) with
    | some inside, _ => readGroups inside
    | none, some inside => readGroups inside
    | none, none => .error (faultOf cs)

/-- The identifier that a text stands for. -/
def read (s : String) : Except ReadError Uuid := readChars s.toList

end Uuid
end PolicyAudit
