import Colloquy.Json.Decimal

/-!
# Numbers

JSON has one grammar of numbers; a reader tells three kinds apart. A numeral without fraction and
exponent is a **natural** number if it fits sixty-four bits, a **negative** one if it is below zero
and fits sixty-four bits with sign, and everything else is a **floating** number, minus zero among
them.

## How a floating number is read

The digits are taken into a sixty-four bit significand from the left; from the first digit that
does not fit on, those before the point only count as places and those after it are dropped. The
significand is then multiplied or divided by a power of ten, both of them as doubles, which is
within a unit of the last place and not always the nearest double. A result beyond the largest
double is out of range.
-/

namespace Colloquy.Json

/-- A number as reading tells numbers apart; a floating one is kept by its bits. -/
inductive Number where
  | natural (n : UInt64)
  | negative (n : Int64)
  | floating (bits : UInt64)
deriving DecidableEq, Repr

/-- The written form of a number. -/
def Number.text : Number → String
  | .natural n => toString n.toNat
  | .negative n => toString n.toInt
  | .floating bits => (Binary.ofBits bits).text

/-- A **numeral** by its parts: the sign, the digits before and after the point, and the sign and
digits of the exponent. -/
structure Numeral where
  negative : Bool
  whole : List Char
  fraction : Option (List Char)
  exponent : Option (Bool × List Char)
deriving DecidableEq, Repr

/-- The value of a digit. -/
def digitValue (c : Char) : Nat := c.toNat - '0'.toNat

/-- Takes digits into the significand as long as sixty-four bits hold it, and leaves the rest. -/
def absorb (significand : Nat) : List Char → Nat × List Char
  | [] => (significand, [])
  | c :: rest =>
    let next := 10 * significand + digitValue c
    if next < UInt64.size then absorb next rest else (significand, c :: rest)

/-- The number that a list of digits spells. -/
def spelledNat (digits : List Char) : Nat :=
  digits.foldl (fun n c => 10 * n + digitValue c) 0

/-- Moves the point of a double by `places`, at most 308 of them at a time; `none` beyond the
largest double. Two steps to the right of the point leave nothing of any significand, so the count
of steps is never used up. -/
def movePoint : Nat → Float → Int → Option Float
  | 0, f, _ => some f
  | steps + 1, f, places =>
    if places.natAbs ≤ 308 then
      let power := Float.ofScientific 1 false places.natAbs
      if places < 0 then some (f / power)
      else
        let product := f * power
        if product.isInf then none else some product
    else if f == 0.0 then some f
    else if places < 0 then movePoint steps (f / 1e308) (places + 308)
    else none

/-- The floating number with this sign, significand and number of places. -/
def floating (negative : Bool) (significand : Nat) (places : Int) : Option Number :=
  (movePoint 8 significand.toUInt64.toFloat places).map fun f =>
    .floating (if negative then -f else f).toBits

/-- The integer that a numeral without fraction and exponent stands for, if sixty-four bits hold
it; minus zero is none. -/
def integer? (negative : Bool) (n : Nat) : Option Number :=
  if negative then
    if 0 < n ∧ n ≤ Nat.pow 2 63 then some (.negative (Int64.ofInt (-(n : Int)))) else none
  else some (.natural n.toUInt64)

/-- The **value of a numeral**, or nothing if it is out of range. -/
def Numeral.value (l : Numeral) : Option Number :=
  let (whole, rest) := absorb 0 l.whole
  let plain : Option Number :=
    if l.fraction.isNone ∧ l.exponent.isNone ∧ rest = [] then integer? l.negative whole else none
  match plain with
  | some n => some n
  | none =>
    let (significand, dropped) := absorb whole (l.fraction.getD [])
    let places : Int := rest.length - ((l.fraction.getD []).length - dropped.length : Nat)
    match l.exponent with
    | none => floating l.negative significand places
    | some (down, digits) =>
      let e := spelledNat digits
      if e < Nat.pow 2 31 then
        floating l.negative significand (if down then places - e else places + e)
      else if significand ≠ 0 ∧ ¬ down then none
      else floating l.negative 0 0

end Colloquy.Json
