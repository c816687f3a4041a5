import PipelineGraph.Json.Text
import PipelineGraph.Number.Text
import PipelineGraph.Text.Reader

namespace PipelineGraph.Json

open Text (Reader)

def isBlank (c : Char) : Bool := c = ' ' || c = '\n' || c = '\t' || c = '\r'

def skipBlanks (cs : List Char) : List Char := cs.dropWhile isBlank

def scanString : Reader (List Char)
  | [] => none
  | '"' :: rest => some ([], rest)
  | '\\' :: 'u' :: a :: b :: c :: d :: rest => do
    let _ ← hexNumber? [a, b, c, d]
    let (literal, rest) ← scanString rest
    return ('\\' :: 'u' :: a :: b :: c :: d :: literal, rest)
  | '\\' :: c :: rest => do
    let _ ← shortEscape? c
    let (literal, rest) ← scanString rest
    return ('\\' :: c :: literal, rest)
  | c :: rest =>
    if c.toNat < 0x20 then none else do
      let (literal, rest) ← scanString rest
      return (c :: literal, rest)

def scanDigits : Reader (List Char) := fun cs ↦
  match cs.takeWhile Char.isDigit with
  | [] => none
  | ds => some (ds, cs.dropWhile Char.isDigit)

def scanWhole : Reader (List Char)
  | '0' :: rest => some (['0'], rest)
  | cs => scanDigits cs

def scanFraction : Reader (List Char)
  | '.' :: rest => do
    let (ds, rest) ← scanDigits rest
    return ('.' :: ds, rest)
  | cs => some ([], cs)

def scanSign : Reader (List Char)
  | '+' :: rest => some (['+'], rest)
  | '-' :: rest => some (['-'], rest)
  | cs => some ([], cs)

def scanExponent : Reader (List Char)
  | [] => some ([], [])
  | c :: rest =>
    if c = 'e' ∨ c = 'E' then do
      let (sign, rest) ← scanSign rest
      let (ds, rest) ← scanDigits rest
      return (c :: (sign ++ ds), rest)
    else some ([], c :: rest)

def scanUnsigned : Reader (List Char) := fun cs ↦ do
  let (whole, rest) ← scanWhole cs
  let (fraction, rest) ← scanFraction rest
  let (exponent, rest) ← scanExponent rest
  return (whole ++ (fraction ++ exponent), rest)

def scanNumber : Reader (List Char)
  | '-' :: rest => do
    let (literal, rest) ← scanUnsigned rest
    return ('-' :: literal, rest)
  | cs => scanUnsigned cs

def sepBy {α : Type} (item : Reader α) (close : Char) : Nat → Reader (List α)
  | 0, _ => none
  | fuel + 1, cs => do
    let (x, rest) ← item cs
    match skipBlanks rest with
    | [] => none
    | c :: rest =>
      if c = ',' then
        let (xs, rest) ← sepBy item close fuel rest
        return (x :: xs, rest)
      else if c = close then return ([x], rest)
      else none

def enclosed {α : Type} (item : Reader α) (close : Char) (fuel : Nat) : Reader (List α) := fun cs ↦
  match skipBlanks cs with
  | [] => none
  | c :: rest => if c = close then some ([], rest) else sepBy item close fuel (c :: rest)

def member {α : Type} (value : Reader α) : Reader (List Char × α) := fun cs ↦
  match skipBlanks cs with
  | '"' :: rest => do
    let (key, rest) ← scanString rest
    match skipBlanks rest with
    | ':' :: rest =>
      let (x, rest) ← value rest
      return ((key, x), rest)
    | _ => none
  | _ => none

/-- Reads a value. The fuel bounds nesting and lengths; the length of the text is enough. -/
def value : Nat → Reader Json
  | 0, _ => none
  | fuel + 1, cs =>
    match skipBlanks cs with
    | 'n' :: 'u' :: 'l' :: 'l' :: rest => some (null, rest)
    | 't' :: 'r' :: 'u' :: 'e' :: rest => some (bool true, rest)
    | 'f' :: 'a' :: 'l' :: 's' :: 'e' :: rest => some (bool false, rest)
    | '"' :: rest => (scanString rest).map fun (literal, rest) ↦ (string literal, rest)
    | '[' :: rest =>
      (enclosed (value fuel) ']' fuel rest).map fun (items, rest) ↦ (array items, rest)
    | '{' :: rest =>
      (enclosed (member (value fuel)) '}' fuel rest).map fun (members, rest) ↦
        (object members, rest)
    | cs => (scanNumber cs).map fun (literal, rest) ↦ (number literal, rest)

def parseChars? (cs : List Char) : Option Json := do
  let (j, rest) ← value (cs.length + 1) cs
  if (skipBlanks rest).isEmpty then some j else none

def parse? (s : String) : Option Json := parseChars? s.toList

end PipelineGraph.Json
