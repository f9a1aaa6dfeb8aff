-- The shortest decimal that reads back as a given double. A double stands for
-- all reals that round to it. Of the decimals among these, the ones with the
-- fewest digits count, and of those the nearest.

import ImageGateway.Native.Basic

namespace ImageGateway.Decimal

/-- A positive double m * 2^q as a fraction, with the ends of the interval that rounds to it. All
three share one denominator. The ends belong to the interval exactly if m is even. -/
structure Rounding where
  low : Nat
  value : Nat
  high : Nat
  denominator : Nat
  closed : Bool

/-- The interval of a double, by its stored exponent and fraction. The gap below a power of two is
half as wide as the gap above. -/
def Rounding.of (exponent fraction : Nat) : Rounding :=
  let m := if exponent = 0 then fraction else fraction + (1 <<< 52)
  let gap := if fraction = 0 ∧ 1 < exponent then 1 else 2
  let shift : Int := (if exponent = 0 then 1 else (exponent : Int)) - 1077
  let scale := 1 <<< shift.toNat
  ⟨(4 * m - gap) * scale, 4 * m * scale, (4 * m + 2) * scale, 1 <<< (-shift).toNat, m % 2 = 0⟩

/-- A power of ten. -/
def tenTo (n : Nat) : Nat := Nat.pow 10 n

/-- Whether the fraction n / d is below 10^k. -/
def belowPower (n d : Nat) (k : Int) : Bool := n * tenTo (-k).toNat < d * tenTo k.toNat

/-- The least exponent from `k` on, within `fuel` steps, whose power of ten is above n / d. -/
def powerAbove (n d : Nat) : Nat → Int → Int
  | 0, k => k
  | fuel + 1, k => if belowPower n d k then k else powerAbove n d fuel (k + 1)

/-- A decimal: coefficient * 10^exponent. -/
structure Scaled where
  coefficient : Nat
  exponent : Int
  deriving DecidableEq, Repr

/-- The decimal with exponent `e` that is nearest to the double, if one lies in its interval. Of
two that are equally near, the even one. -/
def onGrid (r : Rounding) (e : Int) : Option Scaled :=
  let step := r.denominator * tenTo e.toNat
  let scale := tenTo (-e).toNat
  let inside (c : Nat) : Bool :=
    if r.closed then r.low * scale ≤ c * step && c * step ≤ r.high * scale
    else r.low * scale < c * step && c * step < r.high * scale
  let below := r.value * scale / step
  let rest := r.value * scale % step
  let belowFirst := 2 * rest < step || (2 * rest == step && below % 2 == 0)
  let first := if belowFirst then below else below + 1
  let second := if belowFirst then below + 1 else below
  if inside first then some ⟨first, e⟩
  else if inside second then some ⟨second, e⟩
  else none

/-- The first grid with a hit, from the grid `e` on to finer ones. -/
def firstHit (r : Rounding) : Nat → Int → Scaled
  | 0, e => ⟨r.value * tenTo (-e).toNat / (r.denominator * tenTo e.toNat), e⟩
  | fuel + 1, e =>
    match onGrid r e with
    | some s => s
    | none => firstHit r fuel (e - 1)

/-- A coefficient without the zeros at its end, which the exponent takes over. -/
def dropZeros : Nat → Scaled → Scaled
  | 0, s => s
  | fuel + 1, s =>
    if s.coefficient % 10 = 0 ∧ s.coefficient ≠ 0 then
      dropZeros fuel ⟨s.coefficient / 10, s.exponent + 1⟩
    else s

/-- The shortest decimal of a positive double. -/
def shortest (exponent fraction : Nat) : Scaled :=
  let r := Rounding.of exponent fraction
  let top := powerAbove r.value r.denominator 640 (-324)
  dropZeros 20 (firstHit r 17 (top - 1))

/-- How a decimal is laid out: the exponents of the first digit that are written without a power
of ten. -/
structure Layout where
  leastPlain : Int
  greatestPlain : Int

/-- The text of a decimal that is not zero. A power of ten is written with its sign, and with no
more digits than it has. -/
def Layout.render (layout : Layout) (s : Scaled) : String :=
  let digits := (toString s.coefficient).toList
  let lead : Int := s.exponent + digits.length - 1
  if layout.leastPlain ≤ lead ∧ lead ≤ layout.greatestPlain then
    let point := lead + 1
    if point ≤ 0 then
      "0." ++ String.ofList (List.replicate (-point).toNat '0' ++ digits)
    else
      let whole := digits.take point.toNat
      let rest := digits.drop point.toNat
      String.ofList (whole ++ List.replicate (point.toNat - whole.length) '0') ++ "."
        ++ (if rest.isEmpty then "0" else String.ofList rest)
  else
    let mantissa :=
      match digits with
      | d :: e :: rest => String.ofList (d :: '.' :: e :: rest)
      | short => String.ofList short
    mantissa ++ "e" ++ (if lead < 0 then "-" else "+") ++ toString lead.natAbs

/-- The text of a finite double. -/
def Layout.text (layout : Layout) (x : Double) : String :=
  let bits := x.bits.toNat
  let sign := if bits >>> 63 = 1 then "-" else ""
  let exponent := (bits >>> 52) % (1 <<< 11)
  let fraction := bits % (1 <<< 52)
  sign ++ if exponent = 0 ∧ fraction = 0 then "0.0"
    else layout.render (shortest exponent fraction)

end ImageGateway.Decimal
