import PolicyAudit.Xml.Cursor

/-! # Text and attribute values

A reference such as `&lt;` or `&#13;` stands for one character.  The literal characters around it
are normalised: in text a carriage return, alone or before a line feed, becomes a line feed; in an
attribute value a line end or a tab becomes a blank.  Characters that come from references stay as
they are.

In text, the character behind a reference is taken as it is as well, and a literal carriage return
in front of a reference stays. -/

namespace PolicyAudit.Xml

/-! ### References -/

/-- The value of digits in some base; none for a character that is no digit. -/
def digitsValue? (base : Nat) (digit? : Char → Option Nat) (cs : List Char) : Option Nat :=
  cs.foldl (fun n c => do some ((← n) * base + (← digit? c))) (some 0)

def decimalDigit? (c : Char) : Option Nat :=
  if '0' ≤ c ∧ c ≤ '9' then some (c.toNat - 0x30) else none

def hexDigit? (c : Char) : Option Nat :=
  if 'A' ≤ c ∧ c ≤ 'F' then some (c.toNat - 0x37)
  else if 'a' ≤ c ∧ c ≤ 'f' then some (c.toNat - 0x57)
  else decimalDigit? c

/-- The character with a number of at most 32 bits; numbers that no character has give the
replacement character. -/
def characterOf? (n : Nat) : Option Char :=
  if Nat.pow 2 32 ≤ n then none
  else
    let c := if h : n.isValidChar then Char.ofNatAux n h else '\ufffd'
    if isXmlChar c then some c else none

/-- The character of a reference by number. -/
def numbered? (base : Nat) (digit? : Char → Option Nat) (cs : List Char) : Option Char :=
  if cs.isEmpty then none else (digitsValue? base digit? cs).bind characterOf?

/-- The characters that have a name in every document. -/
def namedCharacters : List (String × Char) :=
  [("quot", '"'), ("amp", '&'), ("apos", '\''), ("lt", '<'), ("gt", '>')]

/-- The character that a reference stands for, given what is between `&` and `;`. -/
def resolveReference (start : Position) (body : List Char) : Except Error Char :=
  let numbered (c : Option Char) : Except Error Char :=
    match c with
    | some c => .ok c
    | none => .error (.malformedReference start)
  match body with
  | '#' :: 'x' :: digits => numbered (numbered? 16 hexDigit? digits)
  | '#' :: digits => numbered (numbered? 10 decimalDigit? digits)
  | name =>
    if isPlainName name then
      match namedCharacters.find? (·.1 = String.ofList name) with
      | some (_, c) => .ok c
      | none => .error (.unknownEntity (String.ofList name) start)
    else .error (.malformedReference start)

/-- A character of a text, and where it comes from. -/
inductive Piece where
  | literal (c : Char)
  | referenced (c : Char)
deriving DecidableEq, Repr

/-- The pieces of a text, last piece first.  `pending` is the place of a reference that has begun,
with its characters so far, last one first. -/
def readPieces (done : List Piece) (pending : Option (Position × List Char))
    (position : Position) : List Char → Except Error (List Piece)
  | [] =>
    match pending with
    | none => .ok done
    | some (start, _) => .error (.malformedReference start)
  | c :: cs =>
    match pending with
    | none =>
      if c = '&' then readPieces done (some (position, [])) (position.after c) cs
      else readPieces (.literal c :: done) none (position.after c) cs
    | some (start, body) =>
      if c = ';' then
        match resolveReference start body.reverse with
        | .ok r => readPieces (.referenced r :: done) none (position.after c) cs
        | .error e => .error e
      else readPieces done (some (start, c :: body)) (position.after c) cs

/-- The pieces of a text that begins at a position. -/
def pieces (start : Position) (cs : List Char) : Except Error (List Piece) :=
  (readPieces [] none start cs).map List.reverse

/-! ### Normalisation -/

/-- The characters of an attribute value. -/
def attributeChars : List Piece → List Char
  | [] => []
  | .referenced c :: rest => c :: attributeChars rest
  | .literal '\r' :: .literal '\n' :: rest => ' ' :: attributeChars rest
  | .literal c :: rest => (if c = '\n' ∨ c = '\r' ∨ c = '\t' then ' ' else c) :: attributeChars rest

/-- Adds a literal character to a text whose characters are given last one first. -/
def pushLiteral (done : List Char) (c : Char) (isLast : Bool) : List Char :=
  let end_ := if isLast ∧ c = '\r' then '\n' else c
  match done with
  | '\r' :: front => if c = '\n' then '\n' :: front else end_ :: '\n' :: front
  | done => end_ :: done

/-- The characters of a text, last one first.  `asIs` holds behind a reference. -/
def textCharsLoop (done : List Char) (asIs : Bool) : List Piece → List Char
  | [] => done
  | .referenced c :: rest => textCharsLoop (c :: done) true rest
  | .literal c :: rest =>
    if asIs then textCharsLoop (c :: done) false rest
    else textCharsLoop (pushLiteral done c rest.isEmpty) false rest

/-- The characters of a text. -/
def textChars (ps : List Piece) : List Char := (textCharsLoop [] false ps).reverse

end PolicyAudit.Xml
