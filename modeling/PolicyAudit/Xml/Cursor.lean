import PolicyAudit.Xml.Error

/-! # Reading a text from left to right

A `Cursor` is the rest of a text with the position where it begins.  The readers of this module
recognise the smallest parts of an XML text: single characters, runs of characters and names. -/

namespace PolicyAudit.Xml

/-! ### Characters -/

/-- The blanks of XML. -/
def isSpace (c : Char) : Bool := c = ' ' || c = '\t' || c = '\n' || c = '\r'

/-- A character that a document may hold. -/
def isXmlChar (c : Char) : Bool :=
  if c.toNat < 0x20 then isSpace c else c.toNat ≠ 0xfffe && c.toNat ≠ 0xffff

/-- A character that a name may begin with, the colon apart. -/
def isNameStart (c : Char) : Bool :=
  let n := c.toNat
  ('A' ≤ c && c ≤ 'Z') || ('a' ≤ c && c ≤ 'z') || c = '_' || (0xc0 ≤ n && n ≤ 0xd6) ||
    (0xd8 ≤ n && n ≤ 0xf6) || (0xf8 ≤ n && n ≤ 0x2ff) || (0x370 ≤ n && n ≤ 0x37d) ||
    (0x37f ≤ n && n ≤ 0x1fff) || (0x200c ≤ n && n ≤ 0x200d) || (0x2070 ≤ n && n ≤ 0x218f) ||
    (0x2c00 ≤ n && n ≤ 0x2fef) || (0x3001 ≤ n && n ≤ 0xd7ff) || (0xf900 ≤ n && n ≤ 0xfdcf) ||
    (0xfdf0 ≤ n && n ≤ 0xfffd) || (0x10000 ≤ n && n ≤ 0xeffff)

/-- A character that a name may go on with, the colon apart. -/
def isNameChar (c : Char) : Bool :=
  let n := c.toNat
  isNameStart c || ('0' ≤ c && c ≤ '9') || c = '-' || c = '.' || n = 0xb7 ||
    (0x300 ≤ n && n ≤ 0x36f) || (0x203f ≤ n && n ≤ 0x2040)

/-- Characters that form a name in which colons have no meaning of their own. -/
def isPlainName : List Char → Bool
  | [] => false
  | c :: cs => (isNameStart c || c = ':') && cs.all fun c => isNameChar c || c = ':'

/-! ### Cursors -/

structure Cursor where
  rest : List Char
  position : Position
deriving Repr

abbrev Reader (α : Type) := StateT Cursor (Except Error) α

/-- The position where the rest begins. -/
def here : Reader Position := do pure (← get).position

/-- Nothing is left. -/
def atEnd : Reader Bool := do pure (← get).rest.isEmpty

/-- The rest begins with the given text. -/
def looksAt (s : String) : Reader Bool := do pure (s.toList.isPrefixOf (← get).rest)

/-- The first byte of a character in UTF-8. -/
def firstByte (c : Char) : UInt8 := ((String.utf8EncodeChar c).head?).getD 0

/-- The next character, which is left there. -/
def peek : Reader Char := fun s =>
  match s.rest with
  | [] => .error .unexpectedEnd
  | c :: _ => .ok (c, s)

/-- The position behind some characters. -/
def Position.afterAll (p : Position) (cs : List Char) : Position := cs.foldl Position.after p

/-- Goes on by some characters. -/
def advance (n : Nat) : Reader Unit :=
  modify fun s => ⟨s.rest.drop n, s.position.afterAll (s.rest.take n)⟩

/-- The characters at the front that satisfy a property. -/
def takeWhile (p : Char → Bool) : Reader (List Char) := do
  let run := (← get).rest.takeWhile p
  advance run.length
  pure run

def skipSpaces : Reader Unit := do
  let _ ← takeWhile isSpace

/-- The characters before the first place where the rest satisfies `stop`, last one first. -/
def takeUntilLoop (stop : List Char → Bool) (done : List Char) (position : Position) :
    List Char → Except Error (List Char × Cursor)
  | [] => .ok (done, ⟨[], position⟩)
  | c :: cs =>
    if !isXmlChar c then .error (.nonXmlCharacter c position)
    else if stop (c :: cs) then .ok (done, ⟨c :: cs, position⟩)
    else takeUntilLoop stop (c :: done) (position.after c) cs

/-- The characters before the first place where the rest satisfies `stop`.  All of them must be
characters of XML. -/
def takeUntil (stop : List Char → Bool) : Reader (List Char) := fun s =>
  (takeUntilLoop stop [] s.position s.rest).map fun r => (r.1.reverse, r.2)

/-- The next character, which must be `c`. -/
def expect (c : Char) : Reader Unit := do
  let d ← peek
  if d = c then advance 1 else throw (.wrongByte c (firstByte d) (← here))

/-- The next characters, which must be those of the text. -/
def expectString (s : String) : Reader Unit := do
  if ← looksAt s then advance s.toList.length else throw (.missingString s (← here))

/-! ### Names -/

/-- A name with the qualifier in front of its colon; the qualifier may be empty. -/
structure QName where
  qualifier : String
  localName : String
deriving DecidableEq, Repr

def QName.text (n : QName) : String :=
  if n.qualifier.isEmpty then n.localName else n.qualifier ++ ":" ++ n.localName

/-- The characters begin with one that a name may begin with. -/
def beginsName : List Char → Bool
  | [] => false
  | c :: _ => isNameStart c

/-- A name with at most one colon. -/
def readQName : Reader QName := do
  let start ← here
  let first ← takeWhile isNameChar
  if ← looksAt ":" then
    advance 1
    let second ← takeWhile isNameChar
    if (← looksAt ":") || !beginsName second || !(first.isEmpty || beginsName first) then
      throw (.invalidName start)
    pure ⟨String.ofList first, String.ofList second⟩
  else if beginsName first then pure ⟨"", String.ofList first⟩
  else throw (.invalidName start)

/-- A name in which colons have no meaning of their own. -/
def readName : Reader String := do
  let start ← here
  let name ← takeWhile fun c => isNameChar c || c = ':'
  if isPlainName name then pure (String.ofList name) else throw (.invalidName start)

end PolicyAudit.Xml
