/-
Why a document could not be read.

Reading goes from left to right and stops at the first problem, so one fault names
everything that is wrong.  The wording is in `message` and nowhere else.
-/
import ReviewDesk.Text.Quoted
import ReviewDesk.Decimal.Text

namespace ReviewDesk.Json

/-- What was being read when the input ended. -/
inductive Unfinished where
  | value | list | object | text
  deriving DecidableEq, Repr

/-- A value met where another kind of value was wanted. -/
inductive Found where
  | null
  | bool (b : Bool)
  | int (n : Int)
  | double (x : Float)
  | text (s : String)
  | list
  | object

/-- The reasons to refuse a document. -/
inductive Fault where
  | unfinished (what : Unfinished)
  | expectedValue
  | expectedIdent
  | expectedColon
  | expectedListCommaOrEnd
  | expectedObjectCommaOrEnd
  | keyMustBeText
  | trailingComma
  | trailingCharacters
  | invalidNumber
  | numberOutOfRange
  | controlCharacter
  | invalidEscape
  | loneLeadingSurrogate
  | unfinishedSurrogate
  | invalidCodePoint
  | nestedTooDeep
  | wrongType (found : Found) (expected : String)
  | outOfRange (n : Int) (expected : String)
  | missingField (key : String)
  | duplicateField (key : String)
  | tooShort (size : Nat) (expected : String)
  | unknownVariant (name : String) (expected : String)

/-- What it is called in a message. -/
def Unfinished.name : Unfinished → String
  | .value => "a value"
  | .list => "a list"
  | .object => "an object"
  | .text => "a string"

/-- The value as a message has it. -/
def Found.describe : Found → String
  | .null => "null"
  | .bool b => "boolean `" ++ (if b then "true" else "false") ++ "`"
  | .int n => "integer `" ++ Decimal.ofInt n ++ "`"
  | .double x => "floating point `" ++ Decimal.ofFloat x ++ "`"
  | .text s => "string " ++ Text.quoted s
  | .list => "sequence"
  | .object => "map"

/-- The wording of every fault. -/
def Fault.message : Fault → String
  | .unfinished what => "EOF while parsing " ++ what.name
  | .expectedValue => "expected value"
  | .expectedIdent => "expected ident"
  | .expectedColon => "expected `:`"
  | .expectedListCommaOrEnd => "expected `,` or `]`"
  | .expectedObjectCommaOrEnd => "expected `,` or `\x7d`"
  | .keyMustBeText => "key must be a string"
  | .trailingComma => "trailing comma"
  | .trailingCharacters => "trailing characters"
  | .invalidNumber => "invalid number"
  | .numberOutOfRange => "number out of range"
  | .controlCharacter =>
    "control character (\\u0000-\\u001F) found while parsing a string"
  | .invalidEscape => "invalid escape"
  | .loneLeadingSurrogate => "lone leading surrogate in hex escape"
  | .unfinishedSurrogate => "unexpected end of hex escape"
  | .invalidCodePoint => "invalid unicode code point"
  | .nestedTooDeep => "recursion limit exceeded"
  | .wrongType found expected => "invalid type: " ++ found.describe ++ ", expected " ++ expected
  | .outOfRange n expected =>
    "invalid value: integer `" ++ Decimal.ofInt n ++ "`, expected " ++ expected
  | .missingField key => "missing field `" ++ key ++ "`"
  | .duplicateField key => "duplicate field `" ++ key ++ "`"
  | .tooShort size expected =>
    "invalid length " ++ Decimal.ofNat size ++ ", expected " ++ expected
  | .unknownVariant name expected =>
    "unknown variant `" ++ name ++ "`, expected " ++ expected

end ReviewDesk.Json
