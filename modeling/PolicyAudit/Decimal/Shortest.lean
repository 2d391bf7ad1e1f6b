import PolicyAudit.Decimal.Binary64

/-! # The shortest decimal that reads back

`Binary64.shortest` gives the fewest digits whose decimal rounds to the magnitude, and of those
digits the ones nearest to it.  For each number of digits, the two neighbours of the magnitude on
the decimal grid of that many digits are tested against the interval of numbers that round to it;
the first grid with a hit wins.

`Binary64.text` writes them: without an exponent from `10 ^ -5` up to `10 ^ 16`, with at least one
digit after the point, and otherwise as one digit, a point if more digits follow, and the
exponent with its sign. -/

namespace PolicyAudit

/-- The decimal `digits · 10 ^ exponent`. -/
structure Decimal where
  digits : Nat
  exponent : Int
deriving DecidableEq, Repr

namespace Binary64

/-- The number of decimal digits of a natural number. -/
def digitCount (n : Nat) : Nat := (Nat.toDigits 10 n).length

/-- The exponent of the leading digit of `num / den`, for positive `num` and `den`. -/
def leadingExponent (num den : Nat) : Int :=
  if den ≤ num then (digitCount (num / den) : Int) - 1
  else -(digitCount ((den + num - 1) / num - 1) : Int)

/-- Whether `digits · 10 ^ k` rounds to the magnitude.  Quarters of the last place are counted:
the interval reaches half a place up and, below the least significand of an exponent, a quarter
of a place down. -/
def readsBack (x : Binary64) (digits : Nat) (k : Int) : Bool :=
  let m := 4 * x.significand
  let low := if x.significand = Nat.pow 2 52 ∧ minExponent < x.exponent then m - 1 else m - 2
  let high := m + 2
  let place : Binary64 := ⟨1, x.exponent - 2⟩
  let u := place.toRatio
  let c := if 0 ≤ k then (digits * Nat.pow 10 k.toNat, 1) else (digits, Nat.pow 10 (-k).toNat)
  let value := c.1 * u.2
  let unit := u.1 * c.2
  if x.significand % 2 = 0 then low * unit ≤ value && value ≤ high * unit
  else low * unit < value && value < high * unit

/-- The neighbour on the grid `10 ^ k` that rounds to the magnitude, the nearer one of two. -/
def onGrid? (x : Binary64) (k : Int) : Option Decimal :=
  let v := x.toRatio
  let s := if 0 ≤ k then (v.1, v.2 * Nat.pow 10 k.toNat) else (v.1 * Nat.pow 10 (-k).toNat, v.2)
  let below := s.1 / s.2
  let rest := s.1 % s.2
  let order := if 2 * rest < s.2 ∨ (2 * rest = s.2 ∧ below % 2 = 0) then [below, below + 1]
    else [below + 1, below]
  (order.find? (x.readsBack · k)).map fun d => ⟨d, k⟩

/-- Without the zeros at the end of the digits. -/
def stripZeros (d : Decimal) : Decimal :=
  let ds := (Nat.toDigits 10 d.digits).reverse
  let zeros := (ds.takeWhile (· == '0')).length
  if d.digits = 0 then d else ⟨d.digits / Nat.pow 10 zeros, d.exponent + zeros⟩

/-- The fewest digits that read back. -/
def shortest (x : Binary64) : Decimal :=
  if x.significand = 0 then ⟨0, 0⟩
  else
    let lead := leadingExponent x.toRatio.1 x.toRatio.2
    let hit := (List.range 17).findSome? fun (n : Nat) => x.onGrid? (lead - n)
    stripZeros (hit.getD ⟨x.significand, x.exponent⟩)

/-- An exponent with its sign, a plus included. -/
def signedText (e : Int) : String := if e < 0 then toString e else "+" ++ toString e

/-- The decimal text of the magnitude. -/
def text (x : Binary64) : String :=
  if x.significand = 0 then "0.0"
  else
    let d := x.shortest
    let ds := Nat.toDigits 10 d.digits
    let point : Int := ds.length + d.exponent
    if 0 ≤ d.exponent ∧ point ≤ 16 then
      String.ofList (ds ++ List.replicate d.exponent.toNat '0' ++ ['.', '0'])
    else if 0 < point ∧ point ≤ 16 then
      String.ofList (ds.take point.toNat ++ ['.'] ++ ds.drop point.toNat)
    else if -5 < point ∧ point ≤ 0 then
      String.ofList (['0', '.'] ++ List.replicate (-point).toNat '0' ++ ds)
    else
      let mantissa := if ds.length = 1 then ds else ds.take 1 ++ ['.'] ++ ds.drop 1
      String.ofList mantissa ++ "e" ++ signedText (point - 1)

end Binary64
end PolicyAudit
