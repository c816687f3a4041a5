import PipelineGraph.Number.Shortest

namespace PipelineGraph.Number

structure NumberStyle where
  tie : Tie
  positional : Int → Bool

/-- Digits with the point placed, and at least one digit on each side of it. -/
def positionalText (ds : List Char) (exponent : Int) : List Char :=
  match exponent with
  | .ofNat n => ds ++ List.replicate n '0' ++ ['.', '0']
  | .negSucc n =>
    if n + 1 < ds.length then
      ds.take (ds.length - (n + 1)) ++ '.' :: ds.drop (ds.length - (n + 1))
    else '0' :: '.' :: (List.replicate (n + 1 - ds.length) '0' ++ ds)

def exponentText (ds : List Char) (leading : Int) : List Char :=
  let mantissa := match ds with
    | [] => []
    | [d] => [d]
    | d :: rest => d :: '.' :: rest
  let sign := if leading < 0 then '-' else '+'
  mantissa ++ 'e' :: sign :: Nat.toDigits 10 leading.natAbs

def finiteText (style : NumberStyle) (x : Float32) : List Char :=
  let s := shortest style.tie (magnitude x)
  let ds := Nat.toDigits 10 s.digits
  let leading : Int := s.exponent + ds.length - 1
  let body := if style.positional leading then positionalText ds s.exponent
    else exponentText ds leading
  if isNegative x then '-' :: body else body

def numberText (style : NumberStyle) (x : Float32) : List Char :=
  if x.isNaN then ['N', 'a', 'N']
  else if x.isInf then if isNegative x then ['-', 'i', 'n', 'f'] else ['i', 'n', 'f']
  else finiteText style x

/-- A number as it stands in a text. It is `integral` if it is written as digits only. -/
structure Decimal where
  negative : Bool
  whole : List Char
  fraction : List Char
  exponent : Int
  integral : Bool
deriving DecidableEq

namespace Decimal

def digits (d : Decimal) : Nat := Nat.ofDigitChars 10 (d.whole ++ d.fraction) 0

def place (d : Decimal) : Int := d.exponent - d.fraction.length

end Decimal

def exponentPart? (cs : List Char) : Option Int :=
  match cs with
  | [] => some 0
  | c :: rest =>
    if c = 'e' ∨ c = 'E' then
      let (negative, ds) := match rest with
        | '-' :: ds => (true, ds)
        | '+' :: ds => (false, ds)
        | ds => (false, ds)
      let exponent := Nat.ofDigitChars 10 ds 0
      if ds.isEmpty ∨ ¬ ds.all Char.isDigit then none
      else some (if negative then - (exponent : Int) else exponent)
    else none

def unsignedDecimal? (negative : Bool) (cs : List Char) : Option Decimal := do
  let whole := cs.takeWhile Char.isDigit
  let rest := cs.dropWhile Char.isDigit
  let (fraction, rest', pointed) := match rest with
    | '.' :: r => (r.takeWhile Char.isDigit, r.dropWhile Char.isDigit, true)
    | r => ([], r, false)
  if whole.isEmpty ∧ fraction.isEmpty then none
  let exponent ← exponentPart? rest'
  return { negative, whole, fraction, exponent, integral := !pointed && rest'.isEmpty }

def decimal? (cs : List Char) : Option Decimal :=
  match cs with
  | '-' :: rest => unsignedDecimal? true rest
  | '+' :: rest => unsignedDecimal? false rest
  | _ => unsignedDecimal? false cs

namespace Decimal

/-- The magnitude as a number of the format. An exponent beyond the reach of every format is
decided without computing its power: `none` is a number too large. -/
def round? (fmt : BinaryFormat) (d : Decimal) : Option Dyadic :=
  if d.digits = 0 then some ⟨0, fmt.leastExponent⟩ else
    let leading : Int := d.place + (Nat.toDigits 10 d.digits).length
    if 400 < leading then none
    else if leading < -400 then some ⟨0, fmt.leastExponent⟩
    else
      let x := match d.place with
        | .ofNat n => roundRatio fmt (d.digits * Nat.pow 10 n) 1
        | .negSucc n => roundRatio fmt d.digits (Nat.pow 10 (n + 1))
      if x.overflows fmt then none else some x

def infinite (negative : Bool) : Float32 :=
  Float32.ofBits (if negative then 0xff800000 else 0x7f800000)

def toFloat32 (d : Decimal) : Float32 :=
  match d.round? binary32 with
  | some x => x.toFloat32 d.negative
  | none => infinite d.negative

end Decimal

end PipelineGraph.Number
