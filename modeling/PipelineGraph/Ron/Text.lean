import PipelineGraph.Text.Visible
import PipelineGraph.Uuid

namespace PipelineGraph.Ron

open Text

def numberedEscape (c : Char) : List Char :=
  '\\' :: 'u' :: '{' :: (Nat.toDigits 16 c.toNat ++ ['}'])

/-- How a character is written in a string or character literal. What cannot be shown by itself is
written by its number. -/
def escapeChar (c : Char) : List Char :=
  match c with
  | '\x00' => ['\\', '0']
  | '\t' => ['\\', 't']
  | '\n' => ['\\', 'n']
  | '\r' => ['\\', 'r']
  | '"' => ['\\', '"']
  | '\'' => ['\\', '\'']
  | '\\' => ['\\', '\\']
  | c => if isVisible c then [c] else numberedEscape c

def escape (cs : List Char) : List Char := cs.flatMap escapeChar

def shortEscape? (c : Char) : Option Char :=
  match c with
  | '0' => some '\x00'
  | 't' => some '\t'
  | 'n' => some '\n'
  | 'r' => some '\r'
  | '"' => some '"'
  | '\'' => some '\''
  | '\\' => some '\\'
  | _ => none

def numberedChar? (digits : List Char) : Option Char := do
  let n ← if digits.isEmpty ∨ 6 < digits.length then none else hexNumber? digits
  if n.isValidChar then some (Char.ofNat n) else none

def encodedLength? (first : Nat) : Option Nat :=
  if first < 0x80 then some 1
  else if first < 0xc2 then none
  else if first < 0xe0 then some 2
  else if first < 0xf0 then some 3
  else if first < 0xf5 then some 4
  else none

def decodeBytes? (bytes : List Nat) : Option Char :=
  match bytes with
  | [] => none
  | [b] => if b < 0x80 then some (Char.ofNat b) else none
  | first :: rest =>
    let lead := first % Nat.pow 2 (6 - rest.length)
    let n := rest.foldl (fun n b ↦ n * 64 + b % 64) lead
    if n.isValidChar ∧ (Char.ofNat n).utf8Size = bytes.length ∧
        rest.all fun b ↦ 0x80 ≤ b && b < 0xc0 then
      some (Char.ofNat n)
    else none

end PipelineGraph.Ron
