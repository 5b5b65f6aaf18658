/-!
# Shortest decimals

A finite binary floating point number stands for all the decimals that are rounded to it. The
shortest of them is the one with the fewest digits, and among those the one nearest to the number
itself. Everything here is exact arithmetic on natural numbers: a number is `m · 2 ^ q`, given by
its mantissa and exponent, and a decimal is `digits · 10 ^ scale`.
-/

namespace CallableLookup.Decimal

/-- A positive binary number `mantissa · 2 ^ exponent`. At the foot of a binade the numbers below
are half as far away as the numbers above. -/
structure Binary where
  mantissa : Nat
  exponent : Int
  atFoot : Bool
deriving Repr, DecidableEq

/-- A decimal `digits · 10 ^ scale`. -/
structure Scaled where
  digits : Nat
  scale : Int
deriving Repr, DecidableEq

/-- A fraction of natural numbers. -/
structure Ratio where
  num : Nat
  den : Nat

namespace Ratio

/-- `n · base ^ exponent` as a fraction. -/
def scaled (n base : Nat) (exponent : Int) : Ratio :=
  if 0 ≤ exponent then ⟨n * Nat.pow base exponent.toNat, 1⟩
  else ⟨n, Nat.pow base (-exponent).toNat⟩

/-- The quotient of two fractions. -/
def div (a b : Ratio) : Ratio := ⟨a.num * b.den, a.den * b.num⟩

/-- The order of fractions. -/
def le (a b : Ratio) : Bool := a.num * b.den ≤ b.num * a.den

/-- The strict order of fractions. -/
def lt (a b : Ratio) : Bool := a.num * b.den < b.num * a.den

/-- The distance of two fractions. -/
def distance (a b : Ratio) : Ratio :=
  let x := a.num * b.den
  let y := b.num * a.den
  ⟨if x ≤ y then y - x else x - y, a.den * b.den⟩

end Ratio

namespace Binary

/-- The number itself. -/
def value (b : Binary) : Ratio :=
  .scaled (4 * b.mantissa) 2 (b.exponent - 2)

/-- The least real that is rounded to the number or to its lower neighbour. -/
def lower (b : Binary) : Ratio :=
  .scaled (4 * b.mantissa - (if b.atFoot then 1 else 2)) 2 (b.exponent - 2)

/-- The greatest real that is rounded to the number or to its upper neighbour. -/
def upper (b : Binary) : Ratio :=
  .scaled (4 * b.mantissa + 2) 2 (b.exponent - 2)

/-- Whether a real is rounded to the number. The ends count for an even mantissa. -/
def contains (b : Binary) (r : Ratio) : Bool :=
  if b.mantissa % 2 == 0 then b.lower.le r && r.le b.upper else b.lower.lt r && r.lt b.upper

/-- The decimal nearest to the number on the grid of multiples of `10 ^ scale` that is rounded
to it, if there is one. Of two that are equally near the even one is taken. -/
def onGrid? (b : Binary) (scale : Int) : Option Scaled :=
  let steps := b.value.div (.scaled 1 10 scale)
  let below := steps.num / steps.den
  let fits (n : Nat) : Bool := 0 < n && b.contains (.scaled n 10 scale)
  let down := Ratio.distance b.value (.scaled below 10 scale)
  let up := Ratio.distance b.value (.scaled (below + 1) 10 scale)
  let downFirst := down.lt up || (down.le up && below % 2 == 0)
  let (near, far) := if downFirst then (below, below + 1) else (below + 1, below)
  if fits near then some ⟨near, scale⟩ else if fits far then some ⟨far, scale⟩ else none

/-- The scales from coarse to fine. The coarsest is above every number, and on the finest every
number lies itself. -/
def scales (coarsest : Int) (count : Nat) : List Int :=
  (List.range count).map fun i : Nat => coarsest - (i : Int)

/-- The shortest decimal that is rounded to the number. -/
def shortest (b : Binary) : Scaled :=
  ((scales 310 640).findSome? b.onGrid?).getD ⟨b.mantissa, 0⟩

end Binary

/-- Trailing zeros of the digits moved into the scale. -/
def Scaled.trimmed (d : Scaled) : Scaled :=
  go d.digits d
where
  /-- One zero after the other, at most `fuel` of them. -/
  go : Nat → Scaled → Scaled
    | 0, d => d
    | fuel + 1, d =>
      if d.digits % 10 == 0 && d.digits != 0 then go fuel ⟨d.digits / 10, d.scale + 1⟩ else d

/-- The parts of a finite floating point number: its sign, and the number without it unless that
is zero. -/
def parts (x : Float) : Bool × Option Binary :=
  let bits := x.toBits.toNat
  let negative := Nat.pow 2 63 ≤ bits
  let exponent : Nat := (bits / Nat.pow 2 52) % Nat.pow 2 11
  let fraction : Nat := bits % Nat.pow 2 52
  if exponent == 0 then
    (negative, if fraction == 0 then none else some ⟨fraction, -1074, false⟩)
  else
    (negative, some ⟨Nat.pow 2 52 + fraction, (exponent : Int) - 1075,
      fraction == 0 && 1 < exponent⟩)

/-- Digits with a point in them or behind them, so that the value is `digits · 10 ^ scale`. From
`10 ^ 16` on and below `10 ^ -5` an exponent is written, always with its sign. -/
def layout (digits : String) (scale : Int) : String :=
  let length : Int := digits.length
  let point := length + scale
  if 0 ≤ scale && point ≤ 16 then
    digits ++ String.ofList (List.replicate scale.toNat '0') ++ ".0"
  else if 0 < point && point ≤ 16 then
    String.ofList (digits.toList.take point.toNat) ++ "." ++
      String.ofList (digits.toList.drop point.toNat)
  else if -5 < point && point ≤ 0 then
    "0." ++ String.ofList (List.replicate (-point).toNat '0') ++ digits
  else
    let exponent := (if point < 1 then "-" else "+") ++ toString (point - 1).natAbs
    if digits.length == 1 then digits ++ "e" ++ exponent
    else
      String.ofList (digits.toList.take 1) ++ "." ++ String.ofList (digits.toList.drop 1) ++
        "e" ++ exponent

/-- The shortest text that reads back as a finite floating point number. -/
def text (x : Float) : String :=
  let (negative, size) := parts x
  let body := match size with
    | none => "0.0"
    | some b =>
      let d := b.shortest.trimmed
      layout (toString d.digits) d.scale
  if negative then "-" ++ body else body

end CallableLookup.Decimal
