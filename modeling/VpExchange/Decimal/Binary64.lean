/-!
Finite binary64 numbers as exact values, and the reading of a decimal numeral as one: at most
three correctly rounded steps, so that the result can be a neighbour of the nearest number.
-/

set_option autoImplicit false

namespace VpExchange

/-- The number `mantissa * 2 ^ exponent`, negated if `negative`. The mantissa is below `2 ^ 53`, the
exponent from `-1074` to `971`, and only numbers with the least exponent have a mantissa below
`2 ^ 52`. -/
structure Binary64 where
  negative : Bool
  mantissa : Nat
  exponent : Int
deriving DecidableEq, Repr

namespace Binary64

def scaled (base num den : Nat) (e : Int) : Nat × Nat :=
  (num * base.pow e.toNat, den * base.pow (-e).toNat)

def roundEven (num den : Nat) : Nat :=
  let q := num / den
  let r := num % den
  if den < 2 * r then q + 1
  else if 2 * r = den then q + q % 2
  else q

def exponentOf (num den : Nat) : Int :=
  let e : Int := (num.log2 : Int) - (den.log2 : Int) - 52
  let (a, b) := scaled 2 num den (-e)
  max (-1074) (if a / b < 1 <<< 52 then e - 1 else e)

def zero (negative : Bool) : Binary64 := ⟨negative, 0, -1074⟩

-- The nearest number to `num / den`; `none` if that is too large to be finite.
def round (negative : Bool) (num den : Nat) : Option Binary64 :=
  if num = 0 then some (zero negative)
  else
    let e := exponentOf num den
    let (a, b) := scaled 2 num den (-e)
    let m := roundEven a b
    let (m, e) := if m = 1 <<< 53 then (1 <<< 52, e + 1) else (m, e)
    if 971 < e then none else some ⟨negative, m, e⟩

def mul (x y : Binary64) : Option Binary64 :=
  let (num, den) := scaled 2 (x.mantissa * y.mantissa) 1 (x.exponent + y.exponent)
  round x.negative num den

def div (x y : Binary64) : Option Binary64 :=
  let (num, den) := scaled 2 x.mantissa y.mantissa (x.exponent - y.exponent)
  round x.negative num den

def tenToThe (n : Nat) : Option Binary64 := round false (Nat.pow 10 n) 1

def divTenToThe (x : Binary64) (n : Nat) : Option Binary64 := do
  if n ≤ 308 then div x (← tenToThe n)
  else if x.mantissa = 0 then return x
  else divTenToThe (← div x (← tenToThe 308)) (n - 308)
termination_by n

-- A decimal numeral `significand * 10 ^ exponent`: the significand is rounded first, then scaled by one
-- rounded multiplication, or by rounded divisions.
def ofDecimal (negative : Bool) (significand : Nat) (exponent : Int) : Option Binary64 := do
  let x ← round negative significand 1
  if exponent < 0 then divTenToThe x exponent.natAbs
  else if x.mantissa = 0 then return x
  else if 308 < exponent then none
  else mul x (← tenToThe exponent.toNat)

end Binary64

end VpExchange
