import PipelineGraph.Number.Text
import PipelineGraph.Uuid

namespace PipelineGraph.Ron

open Number

def numberStyle : NumberStyle := ⟨.up, fun _ ↦ true⟩

def dropSuffix? (suffix : List Char) (cs : List Char) : Option (List Char) :=
  if suffix.isSuffixOf cs then some (cs.take (cs.length - suffix.length)) else none

def notFinite? (cs : List Char) : Option Float32 :=
  match cs with
  | ['i', 'n', 'f'] => some (Decimal.infinite false)
  | ['+', 'i', 'n', 'f'] => some (Decimal.infinite false)
  | ['-', 'i', 'n', 'f'] => some (Decimal.infinite true)
  | ['N', 'a', 'N'] => some (Float32.ofBits 0x7fc00000)
  | ['+', 'N', 'a', 'N'] => some (Float32.ofBits 0x7fc00000)
  | ['-', 'N', 'a', 'N'] => some (Float32.ofBits 0xffc00000)
  | _ => none

/-- Drops underscores. There must be a digit or exponent letter before each of them, with no point
in between. -/
def dropUnderscores? (afterDigit : Bool) : List Char → Option (List Char)
  | [] => some []
  | c :: rest =>
    if c = '_' then if afterDigit then dropUnderscores? afterDigit rest else none
    else do
      let after := if c = '.' then false else afterDigit || c.isDigit || c = 'e' || c = 'E'
      return c :: (← dropUnderscores? after rest)

def plainDecimal? (cs : List Char) : Option Decimal := do decimal? (← dropUnderscores? false cs)

def plainFloat32? (cs : List Char) : Option Float32 :=
  notFinite? cs <|> (plainDecimal? cs).map Decimal.toFloat32

def float32? (literal : List Char) : Option Float32 :=
  plainFloat32? ((dropSuffix? ['f', '3', '2'] literal).getD literal)

def integerSuffixes : List (List Char × Int × Int) := [
  ("i8".toList, -128, 127),
  ("i16".toList, -32768, 32767),
  ("i32".toList, -2147483648, 2147483647),
  ("i64".toList, -9223372036854775808, 9223372036854775807),
  ("u8".toList, 0, 255),
  ("u16".toList, 0, 65535),
  ("u32".toList, 0, 4294967295),
  ("u64".toList, 0, 18446744073709551615)]

def natural? (base : Nat) (cs : List Char) : Option Nat :=
  match cs with
  | [] => none
  | c :: _ =>
    if c = '_' then none
    else (cs.filter (· ≠ '_')).foldl (fun acc d ↦ do
      let n ← acc
      let v ← hexValue? d
      if v < base then some (n * base + v) else none) (some 0)

def unsignedInteger? : List Char → Option Nat
  | '0' :: 'b' :: ds => natural? 2 ds
  | '0' :: 'o' :: ds => natural? 8 ds
  | '0' :: 'x' :: ds => natural? 16 ds
  | ds => natural? 10 ds

def integer? : List Char → Option Int
  | '+' :: ds => (unsignedInteger? ds).map Int.ofNat
  | '-' :: ds => (unsignedInteger? ds).map fun n ↦ - Int.ofNat n
  | ds => (unsignedInteger? ds).map Int.ofNat

def isInteger (literal : List Char) : Bool :=
  match integerSuffixes.find? fun s ↦ s.1.isSuffixOf literal with
  | some (suffix, least, greatest) =>
    match (dropSuffix? suffix literal).bind integer? with
    | some n => least ≤ n && n ≤ greatest
    | none => false
  | none =>
    match integer? literal with
    | some n => -9223372036854775808 ≤ n && n ≤ 18446744073709551615
    | none => false

def isNumber (literal : List Char) : Bool :=
  (float32? literal).isSome || isInteger literal ||
    ((dropSuffix? ['f', '6', '4'] literal).bind plainFloat32?).isSome

end PipelineGraph.Ron
