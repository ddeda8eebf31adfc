import GlyphScript.Json.Number
import GlyphScript.Value

/-!
# Reading a JSON document

The grammar is that of RFC 8259, read strictly. Of several entries with one key
the last one stands, and containers nest at most `maxDepth` deep.
-/

namespace GlyphScript.Json

abbrev Reading (α : Type) := Except Fault (α × List Char)

def maxDepth : Nat := 127

def isSpace (c : Char) : Bool :=
  c == ' ' || c == '\t' || c == '\n' || c == '\r'

def skipSpace (cs : List Char) : List Char :=
  cs.dropWhile isSpace

/-- The rest of a word whose first letter is already read. -/
def readWord : List Char → List Char → Except Fault (List Char)
  | [], cs => .ok cs
  | _ :: _, [] => .error (.last .endInValue [])
  | expected :: word, c :: cs =>
      if c = expected then readWord word cs else .error (.next .wordExpected (c :: cs))

/-! ## Texts -/

def hexValue? (c : Char) : Option Nat :=
  if '0' ≤ c ∧ c ≤ '9' then some (c.toNat - 48)
  else if 'a' ≤ c ∧ c ≤ 'f' then some (c.toNat - 87)
  else if 'A' ≤ c ∧ c ≤ 'F' then some (c.toNat - 55)
  else none

/-- The number that four hexadecimal digits stand for. -/
def hexUnit? (a b c d : Char) : Option Nat := do
  return ((← hexValue? a) * 16 + (← hexValue? b)) * 256 + (← hexValue? c) * 16 + (← hexValue? d)

/-- The fault of an escape that does not have four hexadecimal digits. -/
def escapeFault (cs : List Char) : Fault :=
  if (utf8 (cs.take 4)).length < 4 then .last .endInText [] else ⟨.invalidEscape, cs, 4⟩

def isHighSurrogate (n : Nat) : Bool := 0xD800 ≤ n && n ≤ 0xDBFF

def isLowSurrogate (n : Nat) : Bool := 0xDC00 ≤ n && n ≤ 0xDFFF

def joinSurrogates (high low : Nat) : Char :=
  Char.ofNat ((high - 0xD800) * 0x400 + (low - 0xDC00) + 0x10000)

/-- What an escape of one letter stands for. -/
def escapedChar? (c : Char) : Option Char :=
  if c = '"' ∨ c = '\\' ∨ c = '/' then some c
  else if c = 'b' then some '\x08'
  else if c = 'f' then some '\x0c'
  else if c = 'n' then some '\n'
  else if c = 'r' then some '\r'
  else if c = 't' then some '\t'
  else none

/-- The character behind `\u`, a pair of escapes for one beyond 16 bits. -/
def readCodeUnit (cs : List Char) : Reading Char :=
  match cs with
  | a :: b :: c :: d :: rest =>
      match hexUnit? a b c d with
      | none => .error (escapeFault cs)
      | some n =>
          if isLowSurrogate n then .error (.last .loneSurrogate rest)
          else if isHighSurrogate n then
            match rest with
            | '\\' :: 'u' :: low =>
                match low with
                | a :: b :: c :: d :: rest =>
                    match hexUnit? a b c d with
                    | none => .error (escapeFault low)
                    | some m =>
                        if isLowSurrogate m then .ok (joinSurrogates n m, rest)
                        else .error (.last .loneSurrogate rest)
                | _ => .error (escapeFault low)
            | [] => .error (.last .endInText [])
            | ['\\'] => .error (.last .endInText [])
            | '\\' :: other => .error (.next .surrogateExpected other)
            | other => .error (.next .surrogateExpected other)
          else .ok (Char.ofNat n, rest)
  | _ => .error (escapeFault cs)

/-- A text behind its opening quote, of which `read` are the characters already
read, last one first. Every turn reads at least one character, so the length of
the text is enough `fuel`. -/
def readText (fuel : Nat) (read : List Char) (cs : List Char) : Reading (List Char) :=
  match fuel, cs with
  | _, [] => .error (.last .endInText [])
  | 0, _ => .error (.last .endInText [])
  | fuel + 1, c :: rest =>
      if c = '"' then .ok (read.reverse, rest)
      else if c = '\\' then
        match rest with
        | [] => .error (.last .endInText [])
        | e :: tail =>
            if e = 'u' then
              match readCodeUnit tail with
              | .ok (decoded, tail) => readText fuel (decoded :: read) tail
              | .error fault => .error fault
            else
              match escapedChar? e with
              | some decoded => readText fuel (decoded :: read) tail
              | none => .error (.next .invalidEscape rest)
      else if c < ' ' then .error (.last .controlCharacter rest)
      else readText fuel (c :: read) rest

def readString (cs : List Char) : Reading String :=
  (readText cs.length [] cs).map fun (decoded, rest) => (String.ofList decoded, rest)

/-! ## Containers -/

/-- Further items of a list, each behind a comma, up to the closing bracket.
`read` holds the items before them, last one first. -/
def readItems (readItem : List Char → Reading Value) :
    Nat → List Value → List Char → Reading (List Value)
  | 0, _, cs => .error (.next .endInList cs)
  | fuel + 1, read, cs =>
      match skipSpace cs with
      | ']' :: rest => .ok (read.reverse, rest)
      | ',' :: rest =>
          match skipSpace rest with
          | [] => .error (.next .endInValue [])
          | ']' :: tail => .error (.next .trailingComma (']' :: tail))
          | next =>
              match readItem next with
              | .ok (item, tail) => readItems readItem fuel (item :: read) tail
              | .error fault => .error fault
      | [] => .error (.next .endInList [])
      | other => .error (.next .listEndExpected other)

/-- A list behind its opening bracket. -/
def readList (readItem : List Char → Reading Value) (cs : List Char) : Reading Value :=
  match skipSpace cs with
  | [] => .error (.next .endInList [])
  | ']' :: rest => .ok (.list [], rest)
  | first =>
      match readItem first with
      | .ok (item, rest) =>
          (readItems readItem cs.length [item] rest).map fun (items, rest) => (.list items, rest)
      | .error fault => .error fault

/-- One entry of an object, from the opening quote of its key on. -/
def readEntry (readItem : List Char → Reading Value) (cs : List Char) :
    Reading (String × Value) :=
  match cs with
  | '"' :: rest =>
      match readString rest with
      | .ok (key, rest) =>
          match skipSpace rest with
          | ':' :: rest => (readItem rest).map fun (value, rest) => ((key, value), rest)
          | [] => .error (.next .endInObject [])
          | other => .error (.next .colonExpected other)
      | .error fault => .error fault
  | other => .error (.next .keyExpected other)

/-- Further entries of an object, each behind a comma, up to the closing brace. -/
def readEntries (readItem : List Char → Reading Value) :
    Nat → Dict → List Char → Reading Dict
  | 0, _, cs => .error (.next .endInObject cs)
  | fuel + 1, read, cs =>
      match skipSpace cs with
      | '\x7d' :: rest => .ok (read, rest)
      | ',' :: rest =>
          match skipSpace rest with
          | [] => .error (.next .endInValue [])
          | '\x7d' :: tail => .error (.next .trailingComma ('\x7d' :: tail))
          | next =>
              match readEntry readItem next with
              | .ok (entry, tail) =>
                  readEntries readItem fuel (read.insert entry.1 entry.2) tail
              | .error fault => .error fault
      | [] => .error (.next .endInObject [])
      | other => .error (.next .objectEndExpected other)

/-- An object behind its opening brace. -/
def readObject (readItem : List Char → Reading Value) (cs : List Char) : Reading Value :=
  match skipSpace cs with
  | [] => .error (.next .endInObject [])
  | '\x7d' :: rest => .ok (.dict [], rest)
  | first =>
      match readEntry readItem first with
      | .ok (entry, rest) =>
          (readEntries readItem cs.length [entry] rest).map fun (entries, rest) =>
            (.dict entries, rest)
      | .error fault => .error fault

/-! ## Values and documents -/

/-- Reads a value that holds no other values. -/
def readScalar (cs : List Char) : Reading Value :=
  match cs with
  | [] => .error (.next .endInValue [])
  | c :: rest =>
      if c = 'n' then (readWord "ull".toList rest).map (Value.null, ·)
      else if c = 't' then (readWord "rue".toList rest).map (Value.bool true, ·)
      else if c = 'f' then (readWord "alse".toList rest).map (Value.bool false, ·)
      else if c = '-' then (readNumber true rest).map fun (x, rest) => (.number x, rest)
      else if Text.isAsciiDigit c then
        (readNumber false cs).map fun (x, rest) => (.number x, rest)
      else if c = '"' then (readString rest).map fun (s, rest) => (.text s, rest)
      else .error (.next .valueExpected cs)

/-- Reads a value inside of which containers may nest `depth` deep. -/
def readValue : Nat → List Char → Reading Value
  | depth, cs =>
      match skipSpace cs with
      | '[' :: rest =>
          match depth with
          | 0 => .error (.next .tooDeep ('[' :: rest))
          | depth + 1 => readList (readValue depth) rest
      | '\x7b' :: rest =>
          match depth with
          | 0 => .error (.next .tooDeep ('\x7b' :: rest))
          | depth + 1 => readObject (readValue depth) rest
      | other => readScalar other

/-- Reads a whole document: one value with nothing but blanks around it. -/
def read (document : List Char) : Except Fault Value :=
  match readValue maxDepth document with
  | .ok (value, rest) =>
      match skipSpace rest with
      | [] => .ok value
      | other => .error (.next .trailingCharacters other)
  | .error fault => .error fault

def read? (document : List Char) : Option Value :=
  (read document).toOption

end GlyphScript.Json
