import SheetFormula.Text.Quoted

/-!
# Numbers and their text

A number of a formula is kept as the 64 bits of a binary64 value. It is written with the fewest digits that
identify it, positionally when it is neither very small nor very large, else with an exponent. All arithmetic
is exact, on natural numbers. Main definitions:

* `Double.Class`, `Double.classify` — what 64 bits stand for: not a number, an infinity, zero, or a finite
  magnitude `significand * 2 ^ exponent`;
* `Double.Interval` — the reals that round to a finite magnitude, on a common scale of quarter units;
* `Decimal` — `coefficient * 10 ^ exponent`;
* `Decimal.onGrid?` — the multiple of `10 ^ k` nearest to a value, among those that round to it;
* `Decimal.shortest` — the result on the coarsest grid that has one;
* `Decimal.Notation`, `Decimal.write` — the decisions of a number format, and a decimal in such a format;
* `Double.text` — the text of 64 bits.
-/

namespace SheetFormula

/-! ## Binary64 values -/

namespace Double

/-- **What 64 bits stand for**. A finite magnitude is `significand * 2 ^ exponent`; `closeBelow` says that the
next value below is only half as far away as the next value above. -/
inductive Class where
  /-- Not a number. -/
  | nan
  /-- An infinity. -/
  | infinite (negative : Bool)
  /-- A zero, with its sign. -/
  | zero (negative : Bool)
  /-- A finite value other than zero. -/
  | finite (negative : Bool) (significand : Nat) (exponent : Int) (closeBelow : Bool)
  deriving DecidableEq, Repr

/-- **Class of a bit pattern**: one sign bit, eleven exponent bits, fifty-two fraction bits. -/
def classify (bits : UInt64) : Class :=
  let n := bits.toNat
  let negative := decide (0x8000000000000000 ≤ n)
  let biased : Nat := n / 0x10000000000000 % 0x800
  let fraction : Nat := n % 0x10000000000000
  if biased = 2047 then
    if fraction = 0 then .infinite negative else .nan
  else if biased = 0 then
    if fraction = 0 then .zero negative else .finite negative fraction (-1074) false
  else .finite negative (0x10000000000000 + fraction) ((biased : Int) - 1075) (fraction = 0 && 1 < biased)

/-- **Rounding interval** of a finite magnitude, in units of `2 ^ (exponent - 2)`: the value itself, the two
midpoints to its neighbours, and whether a midpoint still rounds to it. -/
structure Interval where
  /-- Lower midpoint. -/
  low : Nat
  /-- The value. -/
  mid : Nat
  /-- Upper midpoint. -/
  high : Nat
  /-- Whether the midpoints belong to the interval. -/
  closed : Bool
  deriving DecidableEq, Repr

/-- The interval of reals that round to `significand`: ties go to the even significand. -/
def Interval.around (significand : Nat) (closeBelow : Bool) : Interval where
  low := 4 * significand - (if closeBelow then 1 else 2)
  mid := 4 * significand
  high := 4 * significand + 2
  closed := significand % 2 = 0

end Double

/-! ## Shortest decimals -/

/-- **A decimal** `coefficient * 10 ^ exponent`. -/
structure Decimal where
  /-- All digits, as one number. -/
  coefficient : Nat
  /-- The place of the last digit. -/
  exponent : Int
  deriving DecidableEq, Repr

namespace Decimal

/-- Whether `x` lies in the interval `[low, high]`, or strictly inside when it is open. -/
def between (closed : Bool) (low x high : Nat) : Bool :=
  if closed then low ≤ x && x ≤ high else low < x && x < high

/-- **Nearest point of a decimal grid**: of the two multiples of `10 ^ k` next to `i.mid * 2 ^ scale`, the
nearer one that lies in the interval; when both are equally near, the even one. -/
def onGrid? (i : Double.Interval) (scale : Int) (k : Int) : Option Nat :=
  let up := Nat.pow 2 scale.toNat * Nat.pow 10 (-k).toNat
  let unit := Nat.pow 2 (-scale).toNat * Nat.pow 10 k.toNat
  let below := i.mid * up / unit
  let above := below + 1
  let inside (d : Nat) : Bool := between i.closed (i.low * up) (d * unit) (i.high * up)
  let gapBelow := i.mid * up - below * unit
  let gapAbove := above * unit - i.mid * up
  match inside below, inside above with
  | false, false => none
  | true, false => some below
  | false, true => some above
  | true, true =>
    if gapBelow < gapAbove then some below
    else if gapAbove < gapBelow then some above
    else if below % 2 = 0 then some below else some above

/-- The first grid that has a point in the interval, going from `10 ^ k` to finer grids. -/
def search (i : Double.Interval) (scale : Int) : Nat → Int → Decimal
  | 0, k => ⟨i.mid, k⟩
  | fuel + 1, k =>
    match onGrid? i scale k with
    | some d => ⟨d, k⟩
    | none => search i scale fuel (k - 1)

/-- **Shortest decimal** of `significand * 2 ^ exponent`. The search starts above the leading digit, whose
place is bounded through `log₁₀ 2 < 0.30103`, and a grid of seventeen digits always has a point. -/
def shortest (significand : Nat) (exponent : Int) (closeBelow : Bool) : Decimal :=
  let magnitude : Int := Nat.log2 significand + 1 + exponent
  search (.around significand closeBelow) (exponent - 2) 24 (Int.fdiv (magnitude * 30103) 100000 + 2)

end Decimal

/-! ## Text of numbers -/

namespace Decimal

/-- **Decisions of a number format**: the leading digit's places that are written positionally, and the
least number of exponent digits. -/
structure Notation where
  /-- The smallest place of the leading digit that is written positionally. -/
  firstPositional : Int
  /-- The smallest place of the leading digit that is too large to be written positionally. -/
  pastPositional : Int
  /-- An exponent has at least this many digits. -/
  exponentDigits : Nat
  deriving DecidableEq, Repr

/-- Digits with a point after the first, when there are more. -/
def pointed : List Char → String
  | [] => ""
  | [d] => String.ofList [d]
  | d :: rest => String.ofList (d :: '.' :: rest)

/-- **Exponent form**: one digit, the others behind a point, and a signed exponent. -/
def scientific (f : Notation) (digits : List Char) (place : Int) : String :=
  pointed digits ++ "e" ++ (if place < 0 then "-" else "+") ++
    Digits.padLeft '0' f.exponentDigits (Digits.natural 10 place.natAbs)

/-- **Positional form** of digits whose first stands at `place`. -/
def positional (digits : List Char) (place : Int) : String :=
  if place < 0 then
    "0." ++ String.ofList (List.replicate (place.natAbs - 1) '0' ++ digits)
  else
    let whole := place.toNat + 1
    let padded := digits ++ List.replicate (whole - digits.length) '0'
    let fraction := padded.drop whole
    String.ofList (padded.take whole) ++ (if fraction.isEmpty then "" else "." ++ String.ofList fraction)

/-- **Write a decimal** in a format. -/
def write (f : Notation) (d : Decimal) : String :=
  let digits := Nat.toDigits 10 d.coefficient
  let place : Int := digits.length - 1 + d.exponent
  if place < f.firstPositional || f.pastPositional ≤ place then scientific f digits place
  else positional digits place

end Decimal

namespace Double

/-- Formulas write numbers positionally from `0.0001` up to a million, and otherwise with an exponent of at
least two digits. -/
def formulaNotation : Decimal.Notation := ⟨-4, 6, 2⟩

/-- **Text of a number**. -/
def text (bits : UInt64) : String :=
  match classify bits with
  | .nan => "NaN"
  | .infinite negative => if negative then "-Inf" else "+Inf"
  | .zero negative => if negative then "-0" else "0"
  | .finite negative significand exponent closeBelow =>
    (if negative then "-" else "") ++ (Decimal.shortest significand exponent closeBelow).write formulaNotation

end Double

end SheetFormula
