import PipelineGraph.Ron.Basic
import PipelineGraph.Ron.Number
import PipelineGraph.Text.Identifier
import PipelineGraph.Text.Reader

namespace PipelineGraph.Ron

open Text

def isBlank (c : Char) : Bool :=
  c = ' ' || c = '\n' || c = '\t' || c = '\r' || c = '\x0b' || c = '\x0c' || c = '\u0085' ||
    c = '\u200e' || c = '\u200f' || c = '\u2028' || c = '\u2029'

/-- Where a place between two tokens is: outside comments, in one that ends with its line, or in
nested ones. -/
inductive Comment where
  | outside
  | line
  | block (depth : Nat)

/-- Drops the rest of a comment, and blanks and comments after it. A block that is not closed
leaves nothing that could be read. -/
def skipFrom : Comment → List Char → Option (List Char)
  | .outside, '/' :: '/' :: rest => skipFrom .line rest
  | .outside, '/' :: '*' :: rest => skipFrom (.block 0) rest
  | .outside, c :: rest => if isBlank c then skipFrom .outside rest else some (c :: rest)
  | .line, c :: rest => skipFrom (if c = '\n' then .outside else .line) rest
  | .block depth, '/' :: '*' :: rest => skipFrom (.block (depth + 1)) rest
  | .block 0, '*' :: '/' :: rest => skipFrom .outside rest
  | .block (depth + 1), '*' :: '/' :: rest => skipFrom (.block depth) rest
  | .block depth, _ :: rest => skipFrom (.block depth) rest
  | .block _, [] => none
  | _, [] => some []

def skipBlanks (cs : List Char) : Option (List Char) := skipFrom .outside cs

def expect (c : Char) (cs : List Char) : Option (List Char) := do
  match ← skipBlanks cs with
  | d :: rest => if d = c then some rest else none
  | [] => none

def expectAll (expected : List Char) (cs : List Char) : Option (List Char) :=
  expected.foldlM (fun cs c ↦ expect c cs) cs

def scanBytes : Nat → List Nat → Reader Char
  | 0, before, cs => (decodeBytes? before.reverse).map fun c ↦ (c, cs)
  | n + 1, before, cs =>
    match cs with
    | '\\' :: 'x' :: a :: b :: rest => do scanBytes n ((← hexNumber? [a, b]) :: before) rest
    | _ => none

def scanEscape : Reader Char
  | 'x' :: a :: b :: rest => do
    let first ← hexNumber? [a, b]
    scanBytes ((← encodedLength? first) - 1) [first] rest
  | 'u' :: '{' :: rest =>
    match rest.dropWhile (· ≠ '}') with
    | _ :: after => (numberedChar? (rest.takeWhile (· ≠ '}'))).map fun c ↦ (c, after)
    | [] => none
  | c :: rest => (shortEscape? c).map fun c ↦ (c, rest)
  | [] => none

def scanByteEscape : Reader Char
  | 'x' :: a :: b :: rest => (hexNumber? [a, b]).map fun n ↦ (Char.ofNat n, rest)
  | c :: rest => (shortEscape? c).map fun c ↦ (c, rest)
  | [] => none

def scanQuoted (scanEscape : Reader Char) : Nat → Reader (List Char)
  | 0, _ => none
  | _ + 1, [] => none
  | _ + 1, '"' :: rest => some ([], rest)
  | fuel + 1, '\\' :: rest => do
    let (c, rest) ← scanEscape rest
    let (content, rest) ← scanQuoted scanEscape fuel rest
    return (c :: content, rest)
  | fuel + 1, c :: rest => do
    let (content, rest) ← scanQuoted scanEscape fuel rest
    return (c :: content, rest)

def scanRaw (hashes : Nat) : Reader (List Char)
  | [] => none
  | c :: rest =>
    if c = '"' ∧ (List.replicate hashes '#').isPrefixOf rest then some ([], rest.drop hashes)
    else do
      let (content, rest) ← scanRaw hashes rest
      return (c :: content, rest)

def scanRawString (cs : List Char) : Option (List Char × List Char) :=
  match cs.dropWhile (· = '#') with
  | '"' :: rest => scanRaw (cs.takeWhile (· = '#')).length rest
  | _ => none

def scanCharacter (scanEscape : Reader Char) (cs : List Char) : Option (Char × List Char) := do
  let (c, rest) ← match cs with
    | '\\' :: rest => scanEscape rest
    | c :: rest => some (c, rest)
    | [] => none
  match rest with
  | '\'' :: rest => return (c, rest)
  | _ => none

def isRawPart (c : Char) : Bool := isIdentifierPart c || c = '.' || c = '+' || c = '-'

def startsLiteral : List Char → Bool
  | 'r' :: '"' :: _ | 'r' :: '#' :: '"' :: _ | 'r' :: '#' :: '#' :: _ => true
  | 'b' :: '"' :: _ | 'b' :: '\'' :: _ => true
  | 'b' :: 'r' :: '"' :: _ | 'b' :: 'r' :: '#' :: '"' :: _ => true
  | _ => false

/-- Reads an identifier. One that is not raw must not run into a sign or a dot. -/
def scanIdentifier (cs : List Char) : Option (Identifier × List Char) :=
  if startsLiteral cs then none
  else match cs with
    | 'r' :: '#' :: rest =>
      match rest.takeWhile isRawPart with
      | [] => none
      | name => some (⟨name, true⟩, rest.dropWhile isRawPart)
    | c :: _ =>
      if isIdentifierStart c then
        let rest := cs.dropWhile isIdentifierPart
        if (rest.head?.map isRawPart).getD false then none
        else some (⟨cs.takeWhile isIdentifierPart, false⟩, rest)
      else none
    | [] => none

def isNumberStart (c : Char) : Bool := c.isDigit || c = '+' || c = '-' || c = '.'

def isNumberPart (c : Char) : Bool := c.isAlphanum || c = '+' || c = '-' || c = '.' || c = '_'

def scanAtom (cs : List Char) : Option (Ron × List Char) :=
  match cs with
  | '"' :: rest =>
    (scanQuoted scanEscape (rest.length + 1) rest).map fun (content, rest) ↦ (string content, rest)
  | '\'' :: rest => (scanCharacter scanEscape rest).map fun (c, rest) ↦ (character c, rest)
  | 'b' :: '"' :: rest =>
    (scanQuoted scanByteEscape (rest.length + 1) rest).map fun (content, rest) ↦
      (bytes content, rest)
  | 'b' :: '\'' :: rest => (scanCharacter scanByteEscape rest).map fun (c, rest) ↦ (bytes [c], rest)
  | 'b' :: 'r' :: rest =>
    if startsLiteral cs then (scanRawString rest).map fun (content, rest) ↦ (bytes content, rest)
    else (scanIdentifier cs).map fun (name, rest) ↦ (word name, rest)
  | 'r' :: rest =>
    if startsLiteral cs then (scanRawString rest).map fun (content, rest) ↦ (string content, rest)
    else (scanIdentifier cs).map fun (name, rest) ↦ (word name, rest)
  | c :: _ =>
    if isNumberStart c then
      let literal := cs.takeWhile isNumberPart
      if isNumber literal then some (number literal, cs.dropWhile isNumberPart) else none
    else (scanIdentifier cs).map fun (name, rest) ↦ (word name, rest)
  | [] => none

/-- Reads items with commas between them, and perhaps one after the last, up to the closing
character. The fuel bounds their number. -/
def sepBy {α : Type} (item : Reader α) (close : Char) : Nat → Reader (List α)
  | 0, _ => none
  | fuel + 1, cs => do
    match ← skipBlanks cs with
    | [] => none
    | c :: rest =>
      if c = close then return ([], rest)
      let (x, rest) ← item (c :: rest)
      match ← skipBlanks rest with
      | [] => none
      | d :: rest =>
        if d = ',' then
          let (xs, rest) ← sepBy item close fuel rest
          return (x :: xs, rest)
        else if d = close then return ([x], rest)
        else none

def enclosed {α : Type} (item : Reader α) (close : Char) : Reader (List α) := fun cs ↦
  sepBy item close (cs.length + 1) cs

def field (value : Reader Ron) : Reader (Identifier × Ron) := fun cs ↦ do
  let (name, rest) ← scanIdentifier cs
  let (t, rest) ← value (← skipBlanks (← expect ':' rest))
  return ((name, t), rest)

def entry (value : Reader Ron) : Reader (Ron × Ron) := fun cs ↦ do
  let (key, rest) ← value cs
  let (t, rest) ← value (← skipBlanks (← expect ':' rest))
  return ((key, t), rest)

def startsField (cs : List Char) : Bool :=
  match (skipBlanks cs).bind scanIdentifier with
  | some (_, rest) => (expect ':' rest).isSome
  | none => false

def parenthesized (name : Option Identifier) (value : Reader Ron) : Reader Ron := fun cs ↦
  if startsField cs then
    (enclosed (field value) ')' cs).map fun (fields, rest) ↦ (record name fields, rest)
  else (enclosed value ')' cs).map fun (items, rest) ↦ (tuple name items, rest)

/-- Reads a value in which at most so many others may be nested. -/
def value : Nat → Reader Ron
  | 0, cs => scanAtom cs
  | depth + 1, cs =>
    match cs with
    | '(' :: rest => parenthesized none (value depth) rest
    | '[' :: rest =>
      (enclosed (value depth) ']' rest).map fun (items, rest) ↦ (list items, rest)
    | '{' :: rest =>
      (enclosed (entry (value depth)) '}' rest).map fun (entries, rest) ↦ (map entries, rest)
    | cs => do
      let (t, rest) ← scanAtom cs
      match t, expect '(' rest with
      | word name, some rest => parenthesized (some name) (value depth) rest
      | t, _ => return (t, rest)

def nestingLimit : Nat := 64

/-- Variants of the notation that a text may ask for in its first lines. -/
structure Extensions where
  unwrapNewtypes : Bool := false
  implicitSome : Bool := false
  unwrapVariants : Bool := false
  explicitNames : Bool := false
deriving DecidableEq

namespace Extensions

def enable? (e : Extensions) (name : Identifier) : Option Extensions :=
  match String.ofList name.name with
  | "unwrap_newtypes" => some { e with unwrapNewtypes := true }
  | "implicit_some" => some { e with implicitSome := true }
  | "unwrap_variant_newtypes" => some { e with unwrapVariants := true }
  | "explicit_struct_names" => some { e with explicitNames := true }
  | _ => none

end Extensions

def scanExtensions : Nat → Extensions → List Char → Option (Extensions × List Char)
  | 0, _, _ => none
  | fuel + 1, e, cs => do
    match ← skipBlanks cs with
    | '#' :: rest =>
      let rest ← expectAll ['!', '['] rest
      let (name, rest) ← scanIdentifier (← skipBlanks rest)
      if name ≠ ⟨"enable".toList, false⟩ then none
      let (names, rest) ← enclosed scanIdentifier ')' (← expect '(' rest)
      if names.isEmpty then none
      scanExtensions fuel (← names.foldlM Extensions.enable? e) (← expect ']' rest)
    | cs => return (e, cs)

def parseChars? (cs : List Char) : Option (Extensions × Ron) := do
  let (e, rest) ← scanExtensions (cs.length + 1) {} cs
  let (t, rest) ← value nestingLimit (← skipBlanks rest)
  if (← skipBlanks rest).isEmpty then some (e, t) else none

def parse? (s : String) : Option (Extensions × Ron) := parseChars? s.toList

end PipelineGraph.Ron
