import PipelineGraph.Port
import PipelineGraph.Text.Blank

namespace PipelineGraph.Expression

open Text

def isDigits (cs : List Char) : Bool := !cs.isEmpty && cs.all Char.isDigit

def isSignedDigits : List Char → Bool
  | '-' :: cs => isDigits cs
  | cs => isDigits cs

def isUnsignedDecimal (cs : List Char) : Bool :=
  match cs.dropWhile (· ≠ '.') with
  | [] => isDigits cs
  | _ :: fraction => isDigits (cs.takeWhile (· ≠ '.')) && isDigits fraction

def isDecimal : List Char → Bool
  | '-' :: cs => isUnsignedDecimal cs
  | cs => isUnsignedDecimal cs

def isQuoted : List Char → Bool
  | q :: c :: cs => (q = '"' || q = '\'') && (c :: cs).getLast? = some q
  | _ => false

def isBareLiteral (cs : List Char) : ValueType → Bool
  | .string => isQuoted cs
  | .bool => cs = "true".toList || cs = "false".toList
  | .int32 | .int64 => isSignedDigits cs
  | .uint32 | .uint64 => isDigits cs
  | .float | .double => isDecimal cs
  | .none => false

def isLetter (c : Char) : Bool := c.isAlpha || c = '_'

def isWordCharacter (c : Char) : Bool := c.isAlphanum || c = '_' || c = '-'

/-- An ASCII letter or underscore, followed by letters, digits, underscores and hyphens. -/
def isIdentifier : List Char → Bool
  | [] => false
  | c :: cs => isLetter c && cs.all isWordCharacter

/-- The name of a node and of one of its outputs. Without a dot the output is empty. -/
structure Reference where
  node : String
  output : String
deriving DecidableEq

def splitReference (cs : List Char) : Reference :=
  ⟨String.ofList (cs.takeWhile (· ≠ '.')), String.ofList ((cs.dropWhile (· ≠ '.')).drop 1)⟩

/-- Whether a text without blanks at its ends is an identifier or two joined by a dot. -/
def isBareReference (cs : List Char) : Bool :=
  match cs.dropWhile (· ≠ '.') with
  | [] => isIdentifier cs
  | _ :: output => isIdentifier (cs.takeWhile (· ≠ '.')) && isIdentifier output

def isLiteral (text : String) (type : ValueType) : Bool := isBareLiteral (trim text.toList) type

def isReference (text : String) : Bool := isBareReference (trim text.toList)

end PipelineGraph.Expression
