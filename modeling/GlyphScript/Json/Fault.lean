/-!
# Why a text is no JSON document

A fault names its cause and the place where reading stopped. Places count
lines, and bytes of the UTF-8 text within a line.
-/

namespace GlyphScript.Json

inductive Cause where
  | endInList
  | endInObject
  | endInText
  | endInValue
  | colonExpected
  | listEndExpected
  | objectEndExpected
  | wordExpected
  | valueExpected
  | invalidEscape
  | invalidNumber
  | outOfRange
  | controlCharacter
  | keyExpected
  | loneSurrogate
  | surrogateExpected
  | trailingComma
  | trailingCharacters
  | tooDeep
deriving DecidableEq, Repr

def Cause.message : Cause → String
  | endInList => "EOF while parsing a list"
  | endInObject => "EOF while parsing an object"
  | endInText => "EOF while parsing a string"
  | endInValue => "EOF while parsing a value"
  | colonExpected => "expected `:`"
  | listEndExpected => "expected `,` or `]`"
  | objectEndExpected => "expected `,` or `\x7d`"
  | wordExpected => "expected ident"
  | valueExpected => "expected value"
  | invalidEscape => "invalid escape"
  | invalidNumber => "invalid number"
  | outOfRange => "number out of range"
  | controlCharacter => "control character (\\u0000-\\u001F) found while parsing a string"
  | keyExpected => "key must be a string"
  | loneSurrogate => "lone leading surrogate in hex escape"
  | surrogateExpected => "unexpected end of hex escape"
  | trailingComma => "trailing comma"
  | trailingCharacters => "trailing characters"
  | tooDeep => "recursion limit exceeded"

/-- Reading stopped before `rest`, having looked at `ahead` bytes of it. -/
structure Fault where
  cause : Cause
  rest : List Char
  ahead : Nat
deriving DecidableEq, Repr

/-- A fault at the character that is to be read next. -/
def Fault.next (cause : Cause) (rest : List Char) : Fault := ⟨cause, rest, 1⟩

/-- A fault at the character that was read last. -/
def Fault.last (cause : Cause) (rest : List Char) : Fault := ⟨cause, rest, 0⟩

def utf8 (cs : List Char) : List UInt8 :=
  (String.ofList cs).toUTF8.toList

/-- The line and the column, in bytes, that a stretch of text ends at. -/
def endPlace (bytes : List UInt8) : Nat × Nat :=
  bytes.foldl (fun place b => if b = 10 then (place.1 + 1, 0) else (place.1, place.2 + 1)) (1, 0)

/-- Line and column of a fault in a document. -/
def Fault.place (fault : Fault) (document : List Char) : Nat × Nat :=
  let read := utf8 (document.take (document.length - fault.rest.length))
  endPlace (read ++ (utf8 fault.rest).take fault.ahead)

def Fault.message (fault : Fault) (document : List Char) : String :=
  let (line, column) := fault.place document
  fault.cause.message ++ " at line " ++ toString line ++ " column " ++ toString column

end GlyphScript.Json
