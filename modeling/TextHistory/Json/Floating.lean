/-!
# Floating point numbers and their shortest texts

A number that is no machine word is only ever shown, in the message that refuses it. It is shown
with the fewest digits that read back as the same double, and of those with the nearest ones.

A double is `mantissa * 2 ^ scale`, and the reals that round to it are an interval around it,
its ends included when the mantissa is even. For one digit, two digits and so on, the two
neighbours of the double on the grid of that many digits are tried; the first grid with a
neighbour inside the interval gives the digits. All of this is exact arithmetic on natural
numbers (`shortestDigits`).
-/

namespace TextHistory.Json

/-- Digits and the exponent of the first one: `digits = 123` and `exponent = 5` is `1.23e5`. -/
structure Scientific where
  /-- The digits, as a number. -/
  digits : Nat
  /-- The power of ten that the first digit counts. -/
  exponent : Int
deriving DecidableEq

/-- A positive double, as its mantissa and the power of two that it counts, with a flag for the
gap below it being half the gap above it. -/
structure Binary where
  /-- The mantissa. -/
  mantissa : Nat
  /-- The power of two that the mantissa counts. -/
  scale : Int
  /-- Whether the next smaller double is only half as far away as the next larger one. -/
  narrowBelow : Bool

/-- The bit of the mantissa that the bits of a double leave out. -/
def hiddenBit : Nat := 0x10_0000_0000_0000

/-- The bit of a double that is set in negative ones. -/
def signBit : Nat := 0x8000_0000_0000_0000

/-- The parts of a positive finite double. -/
def Binary.ofFloat (f : Float) : Binary :=
  let bits := f.toBits.toNat
  let field : Nat := bits / hiddenBit % 2048
  let fraction : Nat := bits % hiddenBit
  if field = 0 then ⟨fraction, -1074, false⟩
  else ⟨hiddenBit + fraction, (field : Int) - 1075, fraction = 0 && 1 < field⟩

/-- A positive integer power, split into a numerator and a denominator. -/
def powerRatio (base : Nat) (exponent : Int) : Nat × Nat :=
  if 0 ≤ exponent then (Nat.pow base exponent.toNat, 1)
  else (1, Nat.pow base (-exponent).toNat)

/-- The power of ten that the first digit of `num / den` counts. -/
def leadingExponent (num den : Nat) : Int :=
  if den ≤ num then ((Nat.toDigits 10 (num / den)).length : Int) - 1
  else
    match (List.range 400).find? fun j ↦ den ≤ num * Nat.pow 10 (j + 1) with
    | some j => -((j : Int) + 1)
    | none => -400

/-- The neighbour of a double on the grid of `count` digits that reads back as the double, if
there is one; of two such neighbours the nearer one, and of two as near the even one. -/
def neighbour? (b : Binary) (leading : Int) (count : Nat) : Option Scientific :=
  let (twoNum, twoDen) := powerRatio 2 (b.scale - 2)
  let (gridNum, gridDen) := powerRatio 10 (leading - (count : Int) + 1)
  let unit := twoNum * gridDen
  let grid := twoDen * gridNum
  let value := 4 * b.mantissa * unit
  let low := (4 * b.mantissa - if b.narrowBelow then 1 else 2) * unit
  let high := (4 * b.mantissa + 2) * unit
  let fits (c : Nat) : Bool :=
    if b.mantissa % 2 = 0 then low ≤ c * grid && c * grid ≤ high
    else low < c * grid && c * grid < high
  let below := value / grid
  let down := value - below * grid
  let up := (below + 1) * grid - value
  let chosen : Option Nat :=
    if fits below && fits (below + 1) then
      some (if up < down || up == down && below % 2 == 1 then below + 1 else below)
    else if fits below then some below
    else if fits (below + 1) then some (below + 1)
    else none
  chosen.map fun c ↦
    if c = Nat.pow 10 count then ⟨1, leading + 1⟩ else ⟨c, leading⟩

/-- The fewest digits that read back as a positive double. -/
def shortestDigits (b : Binary) : Scientific :=
  let (num, den) := powerRatio 2 b.scale
  let leading := leadingExponent (b.mantissa * num) den
  ((List.range 17).findSome? fun n ↦ neighbour? b leading (n + 1)).getD ⟨b.mantissa, leading⟩

/-- The text of digits and an exponent: positional where the first digit counts a power of ten
from the minus fifth to the fifteenth, and then with at least one digit on either side of the
point; with a signed exponent otherwise. -/
def Scientific.text (s : Scientific) : String :=
  let ds := Nat.toDigits 10 s.digits
  String.ofList <|
    if -5 ≤ s.exponent && s.exponent ≤ 15 then
      if s.exponent < 0 then
        ['0', '.'] ++ List.replicate ((-s.exponent).toNat - 1) '0' ++ ds
      else
        let whole := s.exponent.toNat + 1
        if ds.length ≤ whole then
          ds ++ List.replicate (whole - ds.length) '0' ++ ['.', '0']
        else ds.take whole ++ '.' :: ds.drop whole
    else
      let sign := if s.exponent < 0 then '-' else '+'
      let tail := 'e' :: sign :: Nat.toDigits 10 s.exponent.natAbs
      match ds with
      | [d] => d :: tail
      | d :: rest => d :: '.' :: rest ++ tail
      | [] => tail

/-- The shortest text of a finite double. -/
def floatText (f : Float) : String :=
  let sign := if signBit ≤ f.toBits.toNat then "-" else ""
  if f == 0 then sign ++ "0.0" else sign ++ (shortestDigits (.ofFloat f)).text

/-! ### Reading decimals -/

/-- A power of ten, as a double. -/
def tenToThe (n : Nat) : Float := Float.ofScientific 1 false n

/-- `f` divided by a power of ten, in steps that stay within range. -/
def scaleDown (f : Float) (exponent : Nat) : Float :=
  if exponent ≤ 308 then f / tenToThe exponent
  else if f == 0 then f
  else scaleDown (f / tenToThe 308) (exponent - 308)
termination_by exponent

/-- `significand * 10 ^ exponent` in floating point, or nothing if that is too large. -/
def decimalValue? (significand : Nat) (exponent : Int) : Option Float :=
  let f := Float.ofNat significand
  if exponent < 0 then some (scaleDown f (-exponent).toNat)
  else if exponent ≤ 308 then
    let g := f * tenToThe exponent.toNat
    if g.isInf then none else some g
  else if f == 0 then some f
  else none

end TextHistory.Json
