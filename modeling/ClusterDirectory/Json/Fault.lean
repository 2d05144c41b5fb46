import ClusterDirectory.Json.Printer
import ClusterDirectory.Text.Quoted

namespace ClusterDirectory.Json

inductive Shape
  | null
  | bool (b : Bool)
  | number (n : JsonNumber)
  | text (s : String)
  | list
  | object
  deriving DecidableEq, Repr

inductive Cause
  | endInValue
  | endInList
  | endInObject
  | endInText
  | expectedValue
  | expectedLiteral
  | expectedColon
  | expectedCommaOrBrace
  | expectedCommaOrBracket
  | trailingComma
  | trailingBytes
  | keyNotText
  | invalidNumber
  | numberOutOfRange
  | invalidEscape
  | controlCharacter
  | invalidUtf8
  | loneSurrogate
  | unfinishedEscape
  | tooDeep
  | wrongType (found : Shape) (expected : String)
  | unknownVariant (name : String) (known : List String)
  | duplicateField (name : String)
  | missingField (name : String)
  | wrongLength (count : Nat) (expected : String)
  deriving DecidableEq, Repr

inductive Category
  | ended
  | form
  | content
  deriving DecidableEq, Repr

def Cause.category : Cause → Category
  | .endInValue | .endInList | .endInObject | .endInText => .ended
  | .wrongType .. | .unknownVariant .. | .duplicateField _ | .missingField _ | .wrongLength .. =>
      .content
  | _ => .form

def Shape.message : Shape → String
  | .null => "null"
  | .bool b => s!"boolean `{b}`"
  | .number (.whole n) => s!"integer `{n}`"
  | .number (.real x) => s!"floating point `{String.ofList (x.text numberLayout)}`"
  | .text s => s!"string {Text.quoted s}"
  | .list => "sequence"
  | .object => "map"

def Cause.message : Cause → String
  | .endInValue => "EOF while parsing a value"
  | .endInList => "EOF while parsing a list"
  | .endInObject => "EOF while parsing an object"
  | .endInText => "EOF while parsing a string"
  | .expectedValue => "expected value"
  | .expectedLiteral => "expected ident"
  | .expectedColon => "expected `:`"
  | .expectedCommaOrBrace => "expected `,` or `\x7d`"
  | .expectedCommaOrBracket => "expected `,` or `]`"
  | .trailingComma => "trailing comma"
  | .trailingBytes => "trailing characters"
  | .keyNotText => "key must be a string"
  | .invalidNumber => "invalid number"
  | .numberOutOfRange => "number out of range"
  | .invalidEscape => "invalid escape"
  | .controlCharacter => "control character (\\u0000-\\u001F) found while parsing a string"
  | .invalidUtf8 => "invalid unicode code point"
  | .loneSurrogate => "lone leading surrogate in hex escape"
  | .unfinishedEscape => "unexpected end of hex escape"
  | .tooDeep => "recursion limit exceeded"
  | .wrongType found expected => s!"invalid type: {found.message}, expected {expected}"
  | .unknownVariant name known =>
      let names := ", ".intercalate (known.map fun n => s!"`{n}`")
      s!"unknown variant `{name}`, expected one of {names}"
  | .duplicateField name => s!"duplicate field `{name}`"
  | .missingField name => s!"missing field `{name}`"
  | .wrongLength count expected => s!"invalid length {count}, expected {expected}"

/-- A cause, and how many bytes of the input lie after the place where it showed. A reader that
notes texts as it goes keeps with the fault those noted before it. -/
structure Fault where
  cause : Cause
  left : Nat
  noted : List String := []
  deriving DecidableEq, Repr

/-- The line of the place, from one, and how many bytes of that line lie before it. -/
def Fault.position (f : Fault) (input : List UInt8) : Nat × Nat :=
  let passed := input.take (input.length - f.left)
  (passed.count 0x0A + 1, (passed.reverse.takeWhile (· != 0x0A)).length)

end ClusterDirectory.Json
