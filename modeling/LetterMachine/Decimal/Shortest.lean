import LetterMachine.Decimal.Nearest

/-!
The shortest decimal that reads back as a floating-point number, and among those of that length the
one that lies nearest.
-/

namespace LetterMachine.Decimal

/-- A positive number and the reals that round to it, all four times as large as an integer of
units: the number, the ends of the interval, whether the ends belong to it, and the power of two
that the units are. -/
structure Rounding where
  value : Nat
  low : Nat
  high : Nat
  closed : Bool
  power : Int
  deriving DecidableEq, Repr

/-- The reals that round to the finite positive number with the given bits. The gap below a power of
two is half the gap above it. -/
def Rounding.ofBits (bits : Nat) : Rounding :=
  let biased := bits >>> 52
  let fraction := bits % (1 <<< 52)
  let m := if biased = 0 then fraction else fraction + (1 <<< 52)
  let below := if fraction = 0 ∧ 1 < biased then 1 else 2
  ⟨4 * m, 4 * m - below, 4 * m + 2, m % 2 == 0, (max biased 1 : Int) - 1077⟩

/-- A decimal grid: numerators over a denominator, such that the numerator of a point is a multiple
of the step. -/
structure Grid where
  value : Nat
  low : Nat
  high : Nat
  step : Nat
  deriving DecidableEq, Repr

/-- The interval of a number on the grid of a power of ten. -/
def Rounding.onGrid (r : Rounding) (power : Int) : Grid :=
  let up (n : Nat) : Nat :=
    (if r.power < 0 then n else n <<< r.power.toNat) *
      (if power < 0 then Nat.pow 10 (-power).toNat else 1)
  let down := if r.power < 0 then (-r.power).toNat else 0
  let step := (if power < 0 then 1 else Nat.pow 10 power.toNat) <<< down
  ⟨up r.value, up r.low, up r.high, step⟩

/-- The point of the grid nearest to the number, among the two next to it that round to it. Of two
that are equally near, the even one. -/
def Grid.point? (g : Grid) (closed : Bool) : Option Nat :=
  let below := g.value / g.step
  let inside (n : Nat) : Bool :=
    let x := n * g.step
    if closed then g.low ≤ x && x ≤ g.high else g.low < x && x < g.high
  let nearest := roundedQuotient g.value g.step
  let other := if nearest = below then below + 1 else below
  if inside nearest then some nearest
  else if inside other then some other
  else none

/-- The power of ten of the first digit of a positive number. -/
def firstPower (r : Rounding) : Int :=
  let estimate : Int := (((r.value.log2 : Int) + r.power) * 30103).fdiv 100000
  let reaches (p : Int) : Bool :=
    let g := r.onGrid p
    decide (g.step ≤ g.value)
  if reaches (estimate + 1) then estimate + 1
  else if reaches estimate then estimate
  else estimate - 1

/-- The fewest digits of a decimal that rounds to the number, with the power of ten of their last. A
number just below a power of ten may round to that power, which has a zero at its end. -/
def search (r : Rounding) (first : Int) : Nat → Nat → Nat × Int
  | 0, _ => (0, 0)
  | n + 1, digits =>
    let power := first - digits + 1
    match (r.onGrid power).point? r.closed with
    | some m => if m % 10 = 0 then (m / 10, power + 1) else (m, power)
    | none => search r first n (digits + 1)

/-- The shortest decimal of the finite positive number with the given bits: a numerator without
zeros at its end, and a power of ten. -/
def shortest (bits : Nat) : Nat × Int :=
  let r := Rounding.ofBits bits
  search r (firstPower r) 17 1

/-- A decimal with a point, from its digits and the place of the point among them. -/
def positional (digits : Text) (point : Int) : Text :=
  if point ≤ 0 then '0' :: '.' :: (List.replicate (-point).toNat '0' ++ digits)
  else if digits.length ≤ point.toNat then
    digits ++ List.replicate (point.toNat - digits.length) '0' ++ ['.', '0']
  else digits.take point.toNat ++ '.' :: digits.drop point.toNat

/-- A decimal with an exponent of at least two digits. -/
def scientific (digits : Text) (point : Int) : Text :=
  let e := point - 1
  (match digits with
    | [d] => [d]
    | d :: more => d :: '.' :: more
    | [] => []) ++
  'e' :: (if e < 0 then '-' else '+') :: (Text.ofNat e.natAbs).leftpad 2 '0'

/-- The text of a floating-point number: with a point from a ten-thousandth up to sixteen digits
before the point, and with an exponent outside that range. -/
def textOfBits (bits : Nat) : Text :=
  let negative := bits >>> 63 == 1
  let bits := bits % (1 <<< 63)
  if infinityBits < bits then "nan".toList
  else
    let unsigned :=
      if bits = infinityBits then "inf".toList
      else if bits = 0 then "0.0".toList
      else
        let (m, power) := shortest bits
        let digits := Text.ofNat m
        let point := digits.length + power
        if -4 < point ∧ point ≤ 16 then positional digits point else scientific digits point
    if negative then '-' :: unsigned else unsigned

/-- The text of a floating-point number. -/
def text (x : Float) : Text := textOfBits x.toBits.toNat

end LetterMachine.Decimal
