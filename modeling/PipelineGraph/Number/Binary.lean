namespace PipelineGraph.Number

/-- The number `significand * 2 ^ exponent`. -/
structure Dyadic where
  significand : Nat
  exponent : Int
deriving DecidableEq

structure BinaryFormat where
  precision : Nat
  leastExponent : Int
  greatestExponent : Int

def binary32 : BinaryFormat := ⟨24, -149, 104⟩

def binary64 : BinaryFormat := ⟨53, -1074, 971⟩

/-- The integer nearest to `num / den`; a tie goes to the even one. -/
def divideToEven (num den : Nat) : Nat :=
  let q := num / den
  let r := num % den
  if 2 * r < den then q else if den < 2 * r then q + 1 else q + q % 2

def scale (num den : Nat) (exponent : Int) : Nat × Nat :=
  match exponent with
  | .ofNat n => (num, den * Nat.pow 2 n)
  | .negSucc n => (num * Nat.pow 2 (n + 1), den)

def lastPlace (fmt : BinaryFormat) (num den : Nat) : Int :=
  let d : Int := (num.log2 : Int) - den.log2
  let (a, b) := scale num den d
  max fmt.leastExponent (if b ≤ a then d - fmt.precision + 1 else d - fmt.precision)

/-- The number of the format nearest to `num / den`, with no upper limit on the exponent. -/
def roundRatio (fmt : BinaryFormat) (num den : Nat) : Dyadic :=
  if num = 0 then ⟨0, fmt.leastExponent⟩ else
    let e := lastPlace fmt num den
    let (a, b) := scale num den e
    let m := divideToEven a b
    if m = Nat.pow 2 fmt.precision then ⟨Nat.pow 2 (fmt.precision - 1), e + 1⟩ else ⟨m, e⟩

namespace Dyadic

def ratio (x : Dyadic) : Nat × Nat :=
  match x.exponent with
  | .ofNat n => (x.significand * Nat.pow 2 n, 1)
  | .negSucc n => (x.significand, Nat.pow 2 (n + 1))

def round (fmt : BinaryFormat) (x : Dyadic) : Dyadic := roundRatio fmt x.ratio.1 x.ratio.2

def mul (fmt : BinaryFormat) (x y : Dyadic) : Dyadic :=
  roundRatio fmt (x.ratio.1 * y.ratio.1) (x.ratio.2 * y.ratio.2)

def div (fmt : BinaryFormat) (x y : Dyadic) : Dyadic :=
  roundRatio fmt (x.ratio.1 * y.ratio.2) (x.ratio.2 * y.ratio.1)

def overflows (fmt : BinaryFormat) (x : Dyadic) : Bool := fmt.greatestExponent < x.exponent

/-- The single precision number with this magnitude, which is already rounded to its format;
infinity where it overflows. -/
def toFloat32 (negative : Bool) (x : Dyadic) : Float32 :=
  let sign : Nat := if negative then Nat.pow 2 31 else 0
  let magnitude : Nat :=
    if x.overflows binary32 then 255 * Nat.pow 2 23
    else if x.significand < Nat.pow 2 23 then x.significand
    else (x.exponent + 150).toNat * Nat.pow 2 23 + (x.significand - Nat.pow 2 23)
  Float32.ofBits (UInt32.ofNat (sign + magnitude))

end Dyadic

def magnitude (x : Float32) : Dyadic :=
  let bits : Nat := x.toBits.toNat % Nat.pow 2 31
  let field : Nat := bits / Nat.pow 2 23
  let fraction : Nat := bits % Nat.pow 2 23
  if field = 0 then ⟨fraction, -149⟩ else ⟨fraction + Nat.pow 2 23, Int.ofNat field - 150⟩

def isNegative (x : Float32) : Bool := Nat.pow 2 31 ≤ x.toBits.toNat

end PipelineGraph.Number
