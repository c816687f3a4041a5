import PipelineGraph.Number.Text

namespace PipelineGraph.Json

open Number

/-- Takes digits into a significand as long as it fits into 64 bits, and counts the digits that are
left. -/
def takeDigits (significand : Nat) : List Char → Nat × Nat
  | [] => (significand, 0)
  | c :: cs =>
    let next := 10 * significand + (c.toNat - '0'.toNat)
    if next < Nat.pow 2 64 then takeDigits next cs else (significand, cs.length + 1)

def powerOfTen (n : Nat) : Number.Dyadic := roundRatio binary64 (Nat.pow 10 n) 1

def divideRepeatedly : Nat → Number.Dyadic → Number.Dyadic
  | 0, x => x
  | n + 1, x =>
    if x.significand = 0 then x else divideRepeatedly n (x.div binary64 (powerOfTen 308))

/-- `significand * 10 ^ exponent` in double precision, where the significand, the power and the
result are rounded each. `none` is a number too large. -/
def scaleTen? (significand : Nat) (exponent : Int) : Option Number.Dyadic :=
  let x := roundRatio binary64 significand 1
  match exponent with
  | .ofNat n =>
    if significand = 0 then some x
    else if 308 < n then none
    else
      let y := x.mul binary64 (powerOfTen n)
      if y.overflows binary64 then none else some y
  | .negSucc n => some ((divideRepeatedly (n / 308) x).div binary64 (powerOfTen (n % 308 + 1)))

/-- The number in double precision. Digits beyond 64 bits only count by their places. -/
def double? (d : Decimal) : Option Number.Dyadic :=
  let (whole, dropped) := takeDigits 0 d.whole
  let (significand, ignored) := takeDigits whole d.fraction
  scaleTen? significand (d.exponent + dropped - (d.fraction.length - ignored : Nat))

def float32? (literal : List Char) : Option Float32 := do
  let d ← decimal? literal
  let limit : Nat := if d.negative then Nat.pow 2 63 else Nat.pow 2 64 - 1
  if d.integral ∧ d.digits ≤ limit then return d.toFloat32
  let x ← double? d
  return (x.round binary32).toFloat32 d.negative

end PipelineGraph.Json
