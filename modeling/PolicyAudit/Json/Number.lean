import PolicyAudit.Decimal.Shortest

/-! # JSON numbers

A number without point and exponent is an integer when it fits a 64-bit word, signed if it has a
minus sign; every other number, and the negative zero, is a double.  The digits of a numeral are
collected as long as they fit a 64-bit word.  Later digits of the whole part only raise the
exponent, and later digits after the point are dropped. -/

namespace PolicyAudit.Json

inductive Number where
  | unsigned (value : Nat)
  | negative (magnitude : Nat)
  | double (isNegative : Bool) (magnitude : Binary64)
deriving DecidableEq, Repr

namespace Number

/-- The decimal text of a number. -/
def text : Number → String
  | unsigned n => toString n
  | negative n => "-" ++ toString n
  | double isNegative x => (if isNegative then "-" else "") ++ x.text

/-- The greatest unsigned word. -/
def maxWord : Nat := Nat.pow 2 64 - 1

/-- The greatest exponent that is computed with. -/
def maxExponent : Nat := Nat.pow 2 31 - 1

/-- The value of a decimal digit of the ASCII range. -/
def digit? (c : Char) : Option Nat :=
  if '0' ≤ c ∧ c ≤ '9' then some (c.toNat - 0x30) else none

/-- The digits at the front, and the characters behind them. -/
def spanDigits : List Char → List Nat × List Char
  | [] => ([], [])
  | c :: rest =>
    match digit? c with
    | some d => let r := spanDigits rest; (d :: r.1, r.2)
    | none => ([], c :: rest)

/-- Collects digits while the word has room; answers the word and the digits without room. -/
def collect (word : Nat) : List Nat → Nat × List Nat
  | [] => (word, [])
  | d :: ds => if maxWord < word * 10 + d then (word, d :: ds) else collect (word * 10 + d) ds

/-- The value of a list of digits. -/
def digitsValue (ds : List Nat) : Nat := ds.foldl (fun n d => n * 10 + d) 0

/-- The parts of a numeral: digits before and after the point, and the exponent's sign and
digits.  The last two are absent where the numeral has no point or no exponent. -/
structure Numeral where
  isNegative : Bool
  whole : List Nat
  fraction : Option (List Nat)
  exponent : Option (Bool × List Nat)
deriving DecidableEq, Repr

/-- The fraction at the front: a point and at least one digit. -/
def readFraction? : List Char → Option (Option (List Nat) × List Char)
  | '.' :: rest =>
    match spanDigits rest with
    | ([], _) => none
    | (ds, rest) => some (some ds, rest)
  | cs => some (none, cs)

/-- The exponent at the front: a letter, perhaps a sign, and at least one digit. -/
def readExponent? (cs : List Char) : Option (Option (Bool × List Nat) × List Char) :=
  let digits (isNegative : Bool) (rest : List Char) :=
    match spanDigits rest with
    | ([], _) => none
    | (ds, rest) => some (some (isNegative, ds), rest)
  match cs with
  | c :: rest =>
    if c = 'e' ∨ c = 'E' then
      match rest with
      | '+' :: rest => digits false rest
      | '-' :: rest => digits true rest
      | rest => digits false rest
    else some (none, cs)
  | [] => some (none, [])

/-- The numeral at the front and what is behind it.  A leading zero stands alone. -/
def Numeral.read? (cs : List Char) : Option (Numeral × List Char) := do
  let (isNegative, cs) := match cs with
    | '-' :: rest => (true, rest)
    | cs => (false, cs)
  let (whole, cs) := spanDigits cs
  if whole.isEmpty ∨ (whole.head? = some 0 ∧ 1 < whole.length) then none
  let (fraction, cs) ← readFraction? cs
  let (exponent, cs) ← readExponent? cs
  some (⟨isNegative, whole, fraction, exponent⟩, cs)

/-- The number that a numeral stands for; none when it exceeds the greatest double. -/
def ofNumeral (n : Numeral) : Option Number := do
  let (word, excess) := collect 0 n.whole
  let doubled (exponent : Int) (word : Nat) : Option Number := do
    match n.exponent with
    | none => some (double n.isNegative (← Binary64.ofDecimal word exponent))
    | some (down, ds) =>
      let e := digitsValue ds
      if maxExponent < e then
        if word = 0 ∨ down then some (double n.isNegative Binary64.zero) else none
      else
        let e : Int := if down then exponent - e else exponent + e
        some (double n.isNegative (← Binary64.ofDecimal word e))
  match n.fraction with
  | some ds =>
    let (word', left) := collect word ds
    doubled ((excess.length : Int) - (ds.length - left.length : Nat)) word'
  | none =>
    if excess.isEmpty ∧ n.exponent.isNone then
      if n.isNegative = false then some (unsigned word)
      else if word = 0 ∨ Nat.pow 2 63 < word then some (double true (← Binary64.ofRatio word 1))
      else some (negative word)
    else doubled excess.length word

end Number
end PolicyAudit.Json
