import VpExchange.Decimal.Binary64

/-!
The shortest decimal digits that read back as a given binary64 number: on the decimal grids of one,
two, three and more digits the two neighbours of the number are tried, and the first grid with a
neighbour inside the interval of reals that round to the number wins.
-/

set_option autoImplicit false

namespace VpExchange.Decimal

def digitsOf (n : Nat) : List Nat := (Nat.toDigits 10 n).map fun c => c.toNat - 48

def decade (num den : Nat) : Int :=
  let e : Int := ((digitsOf num).length : Int) - ((digitsOf den).length : Int)
  let (a, b) := Binary64.scaled 10 num den (-e)
  if b ≤ a then e else e - 1

-- The reals that round to a number lie from `low / den` to `high / den`, the ends included if `closed`;
-- the number itself is `mid / den`.
structure Interval where
  low : Nat
  mid : Nat
  high : Nat
  den : Nat
  closed : Bool

-- Below a power of two the next number is only half as far away.
def Interval.of (x : Binary64) : Interval :=
  let (unit, den) := Binary64.scaled 2 1 4 x.exponent
  let below := if x.mantissa = 1 <<< 52 ∧ x.exponent ≠ -1074 then 1 else 2
  { low := (4 * x.mantissa - below) * unit
    mid := 4 * x.mantissa * unit
    high := (4 * x.mantissa + 2) * unit
    den := den
    closed := x.mantissa % 2 = 0 }

/-- The multiple of `10 ^ place` nearest to the number among its two neighbours inside the interval;
a tie goes to the even multiple. -/
def Interval.hit (i : Interval) (place : Int) : Option Nat :=
  let (low, _) := Binary64.scaled 10 i.low i.den (-place)
  let (high, _) := Binary64.scaled 10 i.high i.den (-place)
  let (mid, den) := Binary64.scaled 10 i.mid i.den (-place)
  let inside (c : Nat) : Bool :=
    if i.closed then low ≤ c * den && c * den ≤ high else low < c * den && c * den < high
  let lower := mid / den
  let upper := lower + 1
  match inside lower, inside upper with
  | false, false => none
  | true, false => some lower
  | false, true => some upper
  | true, true =>
    let toLower := mid - lower * den
    let toUpper := upper * den - mid
    if toLower < toUpper then some lower
    else if toUpper < toLower then some upper
    else some (lower + lower % 2)

structure Scientific where
  digits : List Nat
  exponent : Int
deriving DecidableEq, Repr

def Scientific.ofMultiple (n : Nat) (place : Int) : Scientific :=
  let ds := digitsOf n
  ⟨(ds.reverse.dropWhile (· == 0)).reverse, ds.length + place - 1⟩

def shortest (x : Binary64) : Scientific :=
  let i := Interval.of x
  let e := decade i.mid i.den
  let found := (List.range 17).findSome? fun (k : Nat) =>
    let place := e - (k : Int)
    (i.hit place).map fun n => Scientific.ofMultiple n place
  found.getD ⟨[0], 0⟩

end VpExchange.Decimal
