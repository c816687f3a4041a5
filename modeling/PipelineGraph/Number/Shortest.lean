import PipelineGraph.Number.Binary

namespace PipelineGraph.Number

inductive Tie where
  | even
  | up
deriving DecidableEq

structure Scientific where
  digits : Nat
  exponent : Int
deriving DecidableEq

def Scientific.strip (fuel : Nat) (s : Scientific) : Scientific :=
  match fuel with
  | 0 => s
  | n + 1 => if s.digits % 10 = 0 then strip n ⟨s.digits / 10, s.exponent + 1⟩ else s

/-- The exponent `k` with `10 ^ (k - 1) ≤ num / den < 10 ^ k`, for a positive single precision
number. -/
def decimalMagnitude (num den : Nat) : Int :=
  if den ≤ num then ((Nat.toDigits 10 (num / den)).length : Int)
  else match (List.range 60).find? fun j ↦ den ≤ num * Nat.pow 10 j with
    | some j => 1 - (j : Int)
    | none => -60

def scaleDecimal (num den : Nat) (exponent : Int) : Nat × Nat :=
  match exponent with
  | .ofNat n => (num, den * Nat.pow 10 n)
  | .negSucc n => (num * Nat.pow 10 (n + 1), den)

/-- The real numbers that round to `x`, as the fractions `low / den` and `high / den` around
`value / den`. Both ends belong to it exactly if the significand is even. -/
structure Neighbourhood where
  low : Nat
  value : Nat
  high : Nat
  den : Nat
  closed : Bool

def Dyadic.neighbourhood (x : Dyadic) : Neighbourhood :=
  let m := x.significand
  let low := if m = Nat.pow 2 23 ∧ -149 < x.exponent then 4 * m - 1 else 4 * m - 2
  let (up, den) := match x.exponent - 2 with
    | .ofNat n => (Nat.pow 2 n, 1)
    | .negSucc n => (1, Nat.pow 2 (n + 1))
  ⟨low * up, 4 * m * up, (4 * m + 2) * up, den, m % 2 = 0⟩

def Neighbourhood.holds (r : Neighbourhood) (digits : Nat) (exponent : Int) : Bool :=
  let (low, den) := scaleDecimal r.low r.den exponent
  let (high, den') := scaleDecimal r.high r.den exponent
  if r.closed then low ≤ digits * den && digits * den' ≤ high
  else low < digits * den && digits * den' < high

/-- The decimals just below and above the value on the grid of step `10 ^ exponent`, as far as they
are in the neighbourhood; of two, the nearer one. -/
def Neighbourhood.onGrid (r : Neighbourhood) (tie : Tie) (exponent : Int) : Option Scientific :=
  let (num, den) := scaleDecimal r.value r.den exponent
  let below := num / den
  let twice := 2 * (num % den)
  match r.holds below exponent, r.holds (below + 1) exponent with
  | false, false => none
  | true, false => some ⟨below, exponent⟩
  | false, true => some ⟨below + 1, exponent⟩
  | true, true =>
    if twice < den then some ⟨below, exponent⟩
    else if den < twice then some ⟨below + 1, exponent⟩
    else match tie with
      | .even => some ⟨below + below % 2, exponent⟩
      | .up => some ⟨below + 1, exponent⟩

/-- The fewest decimal digits that round to the number, and of those the nearest. -/
def shortest (tie : Tie) (x : Dyadic) : Scientific :=
  if x.significand = 0 then ⟨0, 0⟩ else
    let r := x.neighbourhood
    let k := decimalMagnitude r.value r.den
    match (List.range 9).findSome? fun (n : Nat) ↦ r.onGrid tie (k - (n + 1)) with
    | some s => s.strip 9
    | none => ⟨0, 0⟩

end PipelineGraph.Number
