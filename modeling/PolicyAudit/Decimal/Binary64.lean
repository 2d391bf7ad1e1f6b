/-! # Double-precision magnitudes

A magnitude is a number `significand · 2 ^ exponent` that a double-precision word can hold:
53 bits of significand, and exponents from -1074 to 971.  `Binary64.ofRatio` rounds a quotient of
natural numbers to the nearest magnitude, a tie to the even significand.  `Binary64.ofDecimal`
reads a decimal numeral the way JSON numbers are read here: the digits are rounded first, then
multiplied or divided by a rounded power of ten, so that a numeral of many digits may end a unit
away from the nearest magnitude. -/

namespace PolicyAudit

/-- The magnitude `significand · 2 ^ exponent`. -/
structure Binary64 where
  significand : Nat
  exponent : Int
deriving DecidableEq, Repr

namespace Binary64

/-- The least exponent, that of the magnitudes near zero. -/
def minExponent : Int := -1074

/-- The greatest exponent. -/
def maxExponent : Int := 971

def zero : Binary64 := ⟨0, minExponent⟩

/-- The quotient `num / den · 2 ^ (-q)` as numerator and denominator. -/
def unscale (num den : Nat) (q : Int) : Nat × Nat :=
  if 0 ≤ q then (num, den * Nat.pow 2 q.toNat) else (num * Nat.pow 2 (-q).toNat, den)

/-- The natural number nearest to `num / den`, a tie to the even one. -/
def divNearestEven (num den : Nat) : Nat :=
  let d := num / den
  let r := num % den
  if 2 * r < den then d
  else if den < 2 * r then d + 1
  else if d % 2 = 0 then d else d + 1

/-- The magnitude nearest to `num / den`, a tie to the even significand; none when it would exceed
the greatest magnitude. -/
def ofRatio (num den : Nat) : Option Binary64 :=
  if num = 0 then some zero
  else
    let guess : Int := max ((Nat.log2 num : Int) - (Nat.log2 den : Int) - 53) minExponent
    let scaled := unscale num den guess
    let q := if Nat.pow 2 53 ≤ scaled.1 / scaled.2 then guess + 1 else guess
    let exact := unscale num den q
    let m := divNearestEven exact.1 exact.2
    let rounded : Binary64 := if m = Nat.pow 2 53 then ⟨Nat.pow 2 52, q + 1⟩ else ⟨m, q⟩
    if maxExponent < rounded.exponent then none else some rounded

/-- The magnitude as numerator and denominator. -/
def toRatio (x : Binary64) : Nat × Nat :=
  if 0 ≤ x.exponent then (x.significand * Nat.pow 2 x.exponent.toNat, 1)
  else (x.significand, Nat.pow 2 (-x.exponent).toNat)

/-- The rounded product. -/
def mul (x y : Binary64) : Option Binary64 :=
  ofRatio (x.toRatio.1 * y.toRatio.1) (x.toRatio.2 * y.toRatio.2)

/-- The rounded quotient. -/
def div (x y : Binary64) : Option Binary64 :=
  ofRatio (x.toRatio.1 * y.toRatio.2) (x.toRatio.2 * y.toRatio.1)

/-- The greatest exponent whose power of ten is a magnitude. -/
def maxPower : Nat := 308

/-- Division by a power of ten, in steps of at most `10 ^ 308`. -/
def divPower (x : Binary64) (n : Nat) : Option Binary64 :=
  if x.significand = 0 then some x
  else if n ≤ maxPower then do x.div (← ofRatio (Nat.pow 10 n) 1)
  else do (← x.div (← ofRatio (Nat.pow 10 maxPower) 1)).divPower (n - maxPower)
termination_by n
decreasing_by
  have hlarge : ¬ n ≤ maxPower := by assumption
  simp only [maxPower] at hlarge ⊢
  omega

/-- The magnitude of the numeral `digits · 10 ^ exponent`; none when it exceeds the greatest. -/
def ofDecimal (digits : Nat) (exponent : Int) : Option Binary64 := do
  let x ← ofRatio digits 1
  if exponent < 0 then x.divPower (-exponent).toNat
  else if x.significand = 0 then some x
  else if exponent.toNat ≤ maxPower then x.mul (← ofRatio (Nat.pow 10 exponent.toNat) 1)
  else none

end Binary64
end PolicyAudit
