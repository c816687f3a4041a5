namespace PipelineGraph

structure Uuid where
  bits : BitVec 128
deriving DecidableEq

def hexDigit (n : Nat) : Char :=
  if n < 10 then Char.ofNat (48 + n) else Char.ofNat (87 + n)

def hexValue? (c : Char) : Option Nat :=
  if '0' ≤ c ∧ c ≤ '9' then some (c.toNat - 48)
  else if 'a' ≤ c ∧ c ≤ 'f' then some (c.toNat - 87)
  else if 'A' ≤ c ∧ c ≤ 'F' then some (c.toNat - 55)
  else none

def hexDigits : Nat → Nat → List Char
  | 0, _ => []
  | n + 1, value => hexDigits n (value / 16) ++ [hexDigit (value % 16)]

def hexNumber? (cs : List Char) : Option Nat :=
  cs.foldl (fun acc c ↦ do return (← acc) * 16 + (← hexValue? c)) (some 0)

namespace Uuid

def nil : Uuid := ⟨0⟩

instance : Inhabited Uuid := ⟨nil⟩

def ofNat (n : Nat) : Uuid := ⟨BitVec.ofNat 128 n⟩

/-- The bits of a number with six of them replaced by the mark of a random identifier. -/
def ofRandom (n : Nat) : Uuid :=
  ⟨BitVec.ofNat 128 n &&& 0xffffffffffff0fff3fffffffffffffff ||| 0x40008000000000000000⟩

def hyphenate (ds : List Char) : List Char :=
  ds.take 8 ++ '-' :: ((ds.drop 8).take 4 ++ '-' :: ((ds.drop 12).take 4 ++
    '-' :: ((ds.drop 16).take 4 ++ '-' :: ds.drop 20)))

def toChars (u : Uuid) : List Char := hyphenate (hexDigits 32 u.bits.toNat)

def toString (u : Uuid) : String := String.ofList u.toChars

def ofDigits? (cs : List Char) : Option Uuid :=
  if cs.length = 32 then (hexNumber? cs).map ofNat else none

def ofHyphenated? (cs : List Char) : Option Uuid :=
  let ds := cs.take 8 ++ ((cs.drop 9).take 4 ++ ((cs.drop 14).take 4 ++
    ((cs.drop 19).take 4 ++ cs.drop 24)))
  if hyphenate ds = cs then ofDigits? ds else none

/-- Reads the hyphenated form, bare, in braces or after `urn:uuid:`, or 32 plain digits. -/
def ofChars? (cs : List Char) : Option Uuid :=
  match cs with
  | 'u' :: 'r' :: 'n' :: ':' :: 'u' :: 'u' :: 'i' :: 'd' :: ':' :: rest => ofHyphenated? rest
  | '{' :: rest =>
    if rest.getLast? = some '}' then ofHyphenated? rest.dropLast else none
  | _ => if cs.length = 32 then ofDigits? cs else ofHyphenated? cs

def ofString? (s : String) : Option Uuid := ofChars? s.toList

end Uuid

end PipelineGraph
