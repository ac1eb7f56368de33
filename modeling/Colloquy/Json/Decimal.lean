/-!
# The shortest decimal of a double

A finite double stands for a number `m · 2^q`, and every real of a certain interval around it
rounds to it. Among the decimals in that interval the **shortest** one is written: for one digit,
two digits and so on, the two neighbours of the number on that decimal grid are tried, the first
grid with a hit wins, of two hits the nearer, and of two equally near ones the even one.

All of this is exact arithmetic on natural numbers.

## The written form

`positional` and the two functions after it fix how the digits are laid out: with a decimal point
inside or beside them, up to sixteen places before the point and five zeros behind it, and with an
exponent otherwise. A point that would end the text is followed by a zero.
-/

namespace Colloquy.Json

/-- A double that is neither infinite nor no number: `significand · 2^exponent`, and whether the
interval that rounds to it reaches only half as far down as up. -/
structure Binary where
  negative : Bool
  significand : Nat
  exponent : Int
  lowGapHalved : Bool
deriving DecidableEq, Repr

/-- The parts of a finite double, read off its bits. -/
def Binary.ofBits (bits : UInt64) : Binary :=
  let fraction : Nat := bits.toNat % Nat.pow 2 52
  let scale : Nat := bits.toNat / Nat.pow 2 52 % Nat.pow 2 11
  let negative := bits.toNat / Nat.pow 2 63 == 1
  if scale = 0 then ⟨negative, fraction, -1074, false⟩
  else ⟨negative, Nat.pow 2 52 + fraction, (scale : Int) - 1075, fraction = 0 ∧ scale > 1⟩

/-- A decimal `digits · 10^exponent`. -/
structure Decimal where
  digits : Nat
  exponent : Int
deriving DecidableEq, Repr

/-- How many zeros stand between the point and the first digit of `num / den`, a number below one;
at most `fuel`. -/
def leadingZeros (den : Nat) : Nat → Nat → Nat
  | 0, _ => 0
  | fuel + 1, num => if 10 * num < den then leadingZeros den fuel (10 * num) + 1 else 0

/-- The number of digits before the decimal point of `num / den`; for a number below one, less the
number of zeros after it. -/
def pointPlace (num den : Nat) : Int :=
  if num < den then -(leadingZeros den 400 num : Int)
  else (Nat.toDigits 10 (num / den)).length

/-- `num / den` in units of `10^place`, as a fraction. -/
def inUnits (num den : Nat) (place : Int) : Nat × Nat :=
  (num * Nat.pow 10 (-place).toNat, den * Nat.pow 10 place.toNat)

/-- The neighbour of `num / den` on the grid of multiples of `10^place` that lies within the
bounds, the nearer one if both do. -/
def gridHit (num den low high : Nat) (even : Bool) (place : Int) : Option Nat :=
  let (n, d) := inUnits num den place
  let (l, _) := inUnits low den place
  let (h, _) := inUnits high den place
  let within (k : Nat) : Bool := if even then l ≤ k * d && k * d ≤ h else l < k * d && k * d < h
  let below := n / d
  let above := below + 1
  if within below then
    if within above then
      let toBelow := n - below * d
      let toAbove := above * d - n
      if toBelow < toAbove || (toBelow == toAbove && below % 2 == 0) then some below else some above
    else some below
  else if within above then some above else none

/-- The first grid with a hit, from the place given downwards. -/
def firstHit (num den low high : Nat) (even : Bool) : Nat → Int → Decimal
  | 0, place => ⟨num / den, place⟩
  | fuel + 1, place =>
    match gridHit num den low high even place with
    | some digits => ⟨digits, place⟩
    | none => firstHit num den low high even fuel (place - 1)

/-- The decimal without zeros at its end. -/
def Decimal.stripped : Nat → Decimal → Decimal
  | 0, d => d
  | fuel + 1, d =>
    if d.digits ≠ 0 ∧ d.digits % 10 = 0 then stripped fuel ⟨d.digits / 10, d.exponent + 1⟩ else d

/-- The **shortest decimal** that rounds to the number. -/
def Binary.shortest (b : Binary) : Decimal :=
  let up := Nat.pow 2 b.exponent.toNat
  let den := 4 * Nat.pow 2 (-b.exponent).toNat
  let num := 4 * b.significand * up
  let low := (4 * b.significand - if b.lowGapHalved then 1 else 2) * up
  let high := (4 * b.significand + 2) * up
  let place := pointPlace num den - 1
  (firstHit num den low high (b.significand % 2 = 0) 18 place).stripped 20

/-- The digits of a decimal from the left. -/
def Decimal.characters (d : Decimal) : List Char := Nat.toDigits 10 d.digits

/-- A decimal whose point stands after `point` of its digits is written **positionally** when the
point is neither more than sixteen places to the right nor five or more to the left. -/
def positional (point : Int) : Bool := -5 < point && point ≤ 16

/-- The digits with the point among or beside them. -/
def layOut (cs : List Char) (point : Int) : List Char :=
  if point ≤ 0 then '0' :: '.' :: List.replicate (-point).toNat '0' ++ cs
  else if cs.length ≤ point.toNat then
    cs ++ List.replicate (point.toNat - cs.length) '0' ++ ['.', '0']
  else cs.take point.toNat ++ '.' :: cs.drop point.toNat

/-- The digits with an exponent, which always has a sign: the point after the first of them, if
there are more. -/
def withExponent (cs : List Char) (point : Int) : List Char :=
  let head := cs.take 1 ++ if cs.length = 1 then [] else '.' :: cs.drop 1
  let sign := if point < 1 then '-' else '+'
  head ++ 'e' :: sign :: Nat.toDigits 10 (point - 1).natAbs

/-- The **written form** of a finite double. -/
def Binary.text (b : Binary) : String :=
  let sign := if b.negative then ['-'] else []
  if b.significand = 0 then String.ofList (sign ++ ['0', '.', '0'])
  else
    let d := b.shortest
    let cs := d.characters
    let point := cs.length + d.exponent
    String.ofList (sign ++ if positional point then layOut cs point else withExponent cs point)

end Colloquy.Json
