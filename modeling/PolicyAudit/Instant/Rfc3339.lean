import PolicyAudit.Instant.Basic
import PolicyAudit.Text.Blank

/-! # Instants as text

An instant is written in universal time, `2024-01-02T03:04:05Z`, with 3, 6 or 9 digits of a
fraction where fewer are not exact.  A leap second is written as second 60.  A year outside
0–9999 has a sign.

The reader is looser than the writer.  Blanks may stand between the parts, the numbers of month,
day, hour, minute and second may have one digit, a signed year any number of digits, and a fraction
too, of which nine count.  A `T` of either case or one blank parts date and time; the zone is `Z` or
`UTC` in either case, or a signed offset of hours and minutes. -/

namespace PolicyAudit.Instant

/-! ### Writing -/

/-- A number with zeros in front up to the given width. -/
def padded (width n : Nat) : List Char :=
  let ds := Nat.toDigits 10 n
  List.replicate (width - ds.length) '0' ++ ds

/-- A year of four digits, or one with a sign and at least four digits. -/
def yearText (year : Int) : List Char :=
  if 0 ≤ year ∧ year ≤ 9999 then padded 4 year.toNat
  else (if year < 0 then '-' else '+') :: padded 4 year.natAbs

/-- The fraction of a second in as few groups of three digits as are exact. -/
def fractionText (nano : Nat) : List Char :=
  if nano = 0 then []
  else if nano % 1000000 = 0 then '.' :: padded 3 (nano / 1000000)
  else if nano % 1000 = 0 then '.' :: padded 6 (nano / 1000)
  else '.' :: padded 9 nano

/-- The characters of an instant. -/
def chars (i : Instant) : List Char :=
  let t := i.time
  let isLeap := nanosPerSecond ≤ t.nano
  let second := t.second % 60 + (if isLeap then 1 else 0)
  let nano := if isLeap then t.nano - nanosPerSecond else t.nano
  yearText i.date.year ++ '-' :: padded 2 i.date.month ++ '-' :: padded 2 i.date.day ++ 'T' ::
    padded 2 (t.second / 3600) ++ ':' :: padded 2 (t.second / 60 % 60) ++ ':' ::
    padded 2 second ++ fractionText nano ++ ['Z']

/-- The text of an instant. -/
def text (i : Instant) : String := String.ofList i.chars

/-! ### Reading -/

inductive ReadError where
  | tooShort
  | invalid
  | outOfRange
  | trailing
  | impossible
deriving DecidableEq, Repr

def ReadError.message : ReadError → String
  | tooShort => "premature end of input"
  | invalid => "input contains invalid characters"
  | outOfRange => "input is out of range"
  | trailing => "trailing input"
  | impossible => "no possible date and time matching input"

/-- A step of the reader takes characters to a value and the characters behind it. -/
abbrev Reader (α : Type) := StateT (List Char) (Except ReadError) α

def isDigit (c : Char) : Bool := '0' ≤ c && c ≤ '9'

/-- The number that digits stand for. -/
def digitsValue (cs : List Char) : Nat := cs.foldl (fun n c => n * 10 + (c.toNat - 0x30)) 0

/-- At least one digit, and at most `width` if a width is given. -/
def readDigits (width : Option Nat) : Reader (List Char) := fun cs =>
  let run := cs.takeWhile isDigit
  let ds := match width with
    | some n => run.take n
    | none => run
  if cs.isEmpty then .error .tooShort
  else if ds.isEmpty then .error .invalid
  else .ok (ds, cs.drop ds.length)

def skipBlanks : Reader Unit := fun cs => .ok ((), Text.trimStartChars cs)

/-- The next character, which must be `c`. -/
def expect (c : Char) : Reader Unit
  | [] => .error .tooShort
  | d :: cs => if d = c then .ok ((), cs) else .error .invalid

/-- A number of one or two digits between two bounds, perhaps behind blanks. -/
def readPart (low high : Nat) : Reader Nat := do
  skipBlanks
  let n := digitsValue (← readDigits (some 2))
  if low ≤ n ∧ n ≤ high then pure n else throw .outOfRange

/-- A separator, perhaps behind blanks. -/
def separator (c : Char) : Reader Unit := do
  skipBlanks
  expect c

/-- The greatest year that is computed with. -/
def maxReadYear : Int := (Nat.pow 2 31 - 1 : Nat)

/-- A year: up to four digits, or a sign and any number of digits. -/
def readYear : Reader Int := do
  skipBlanks
  let year : Int ← match ← get with
    | '-' :: cs => do set cs; pure (-(digitsValue (← readDigits none) : Int))
    | '+' :: cs => do set cs; pure (digitsValue (← readDigits none) : Int)
    | _ => do pure (digitsValue (← readDigits (some 4)) : Int)
  if -maxReadYear - 1 ≤ year ∧ year ≤ maxReadYear then pure year else throw .outOfRange

/-- The character between date and time. -/
def readMark : Reader Unit
  | [] => .error .tooShort
  | c :: cs => if c = 't' ∨ c = 'T' ∨ c = ' ' then .ok ((), cs) else .error .invalid

/-- The nanoseconds of a fraction, if there is one. -/
def readFraction : Reader Nat := do
  match ← get with
  | '.' :: cs => do
    set cs
    let ds ← readDigits none
    let kept := ds.take 9
    pure (digitsValue kept * Nat.pow 10 (9 - kept.length))
  | _ => pure 0

/-- Two decimal digits; the text is too short when it has fewer than two bytes left. -/
def readTwoDigits : Reader (Nat × Nat)
  | [] => .error .tooShort
  | [c] => if c.toNat < 0x80 then .error .tooShort else .error .invalid
  | a :: b :: cs =>
    if isDigit a && isDigit b then .ok ((a.toNat - 0x30, b.toNat - 0x30), cs) else .error .invalid

/-- The minutes of an offset. -/
def readOffsetMinutes : Reader Nat := do
  let (a, b) ← readTwoDigits
  if a < 6 then pure (a * 10 + b) else throw .outOfRange

/-- The offset of a zone in minutes.  Colons and blanks may part its hours and minutes. -/
def readOffset : Reader Int := do
  let isNegative ← match ← get with
    | [] => throw .tooShort
    | c :: cs =>
      if c = '+' then do set cs; pure false
      else if c = '-' ∨ c = '\u2212' then do set cs; pure true
      else throw .invalid
  let (a, b) ← readTwoDigits
  modify fun cs => cs.dropWhile fun c => c = ':' || Text.isBlank c
  let minutes : Int := (a * 10 + b) * 60 + (← readOffsetMinutes)
  pure (if isNegative then -minutes else minutes)

/-- The zone: universal time by name, or an offset. -/
def readZone : Reader Int := do
  skipBlanks
  match ← get with
  | u :: t :: c :: cs =>
    if (u = 'u' ∨ u = 'U') ∧ (t = 't' ∨ t = 'T') ∧ (c = 'c' ∨ c = 'C') then do set cs; pure 0
    else zuluOrOffset
  | _ => zuluOrOffset
where
  zuluOrOffset : Reader Int := do
    match ← get with
    | c :: cs => if c = 'z' ∨ c = 'Z' then do set cs; pure 0 else readOffset
    | [] => readOffset

/-- What the parts of a text say before they are checked against the calendar. -/
structure Reading where
  year : Int
  month : Nat
  day : Nat
  hour : Nat
  minute : Nat
  second : Nat
  nano : Nat
  offset : Int
deriving DecidableEq, Repr

def readParts : Reader Reading := do
  let year ← readYear
  separator '-'
  let month ← readPart 1 12
  separator '-'
  let day ← readPart 1 31
  readMark
  let hour ← readPart 0 23
  separator ':'
  let minute ← readPart 0 59
  separator ':'
  let second ← readPart 0 60
  let nano ← readFraction
  let offset ← readZone
  skipBlanks
  unless (← get).isEmpty do throw .trailing
  pure ⟨year, month, day, hour, minute, second, nano, offset⟩

/-- The instant that the parts name.  Second 60 prolongs second 59. -/
def Reading.instant (r : Reading) : Except ReadError Instant :=
  let isLeap := r.second = 60
  let second := r.hour * 3600 + r.minute * 60 + (if isLeap then 59 else r.second)
  let nano := r.nano + (if isLeap then nanosPerSecond else 0)
  match Date.ofParts? r.year r.month r.day, TimeOfDay.ofParts? second nano with
  | some date, some time =>
    if 24 * 60 ≤ r.offset.natAbs then .error .outOfRange
    else match shift? date time r.offset with
      | some i => .ok i
      | none => .error .impossible
  | _, _ => .error .outOfRange

/-- The instant that a text stands for. -/
def read (s : String) : Except ReadError Instant := do
  let (r, _) ← readParts s.toList
  r.instant

end PolicyAudit.Instant
