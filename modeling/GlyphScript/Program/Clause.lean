import GlyphScript.Program.Basic
import GlyphScript.Token.Basic

/-!
# Clauses

Behind its marker a construct has parameters, written as atoms, and JSON
literals. Tokens that are neither are passed over.
-/

namespace GlyphScript

/-- A part of a construct. -/
inductive Clause where
  | param (name : String) (value : Value)
  | data (value : Option Value)

def Token.isName (token : Token) : Bool :=
  token.kind == .identifier || token.kind == .atom

def withoutAtSigns (literal : String) : String :=
  String.ofList (literal.toList.dropWhile (· = '@'))

/-- The name that is referred to, as an atom; null if there is no name. -/
def readReference : List Token → Value × List Token
  | [] => (.null, [])
  | token :: rest =>
      if token.isName then (.text ("@" ++ withoutAtSigns token.literal), rest)
      else (.null, token :: rest)

/-- The value that tokens start with, and the tokens behind it. Names stand for
themselves. Where no value starts there is null. -/
def readValue : List Token → Value × List Token
  | [] => (.null, [])
  | token :: rest =>
      match token.kind with
      | .json | .string | .number => (token.value.getD .null, rest)
      | .identifier | .atom => (.text token.literal, rest)
      | .keyword .trueWord => (.bool true, rest)
      | .keyword .falseWord => (.bool false, rest)
      | .keyword .nullWord => (.null, rest)
      | .glyph .yax => readReference rest
      | _ => (.null, token :: rest)

theorem readReference_length (tokens : List Token) :
    (readReference tokens).2.length ≤ tokens.length := by
  unfold readReference
  split
  · simp
  · split <;> simp

theorem readValue_length (tokens : List Token) :
    (readValue tokens).2.length ≤ tokens.length := by
  unfold readValue
  split
  · simp
  · next token rest =>
      have reference := readReference_length rest
      split <;> simp
      omega

/-- The value of a parameter, from behind its atom on. Without a colon an atom
opens the next parameter, and this one is null. -/
def readArgument : List Token → Value × List Token
  | [] => (.null, [])
  | token :: rest =>
      if token.kind = .operator .colon then readValue rest
      else if token.kind = .atom then (.null, token :: rest)
      else readValue (token :: rest)

theorem readArgument_length (tokens : List Token) :
    (readArgument tokens).2.length ≤ tokens.length := by
  unfold readArgument
  split
  · simp
  · next token rest =>
      have value_rest := readValue_length rest
      have value_all := readValue_length (token :: rest)
      split
      · simp only [List.length_cons]; omega
      · split
        · simp
        · exact value_all

/-- The clauses of a construct, from behind its marker on. -/
def clauses : List Token → List Clause
  | [] => []
  | token :: rest =>
      match token.kind with
      | .atom =>
          let argument := readArgument rest
          .param (withoutAtSigns token.literal) argument.1 :: clauses argument.2
      | .json => .data token.value :: clauses rest
      | _ => clauses rest
termination_by tokens => tokens.length
decreasing_by
  · have shorter := readArgument_length rest
    simp only [List.length_cons]
    omega
  · simp
  · simp

namespace Clause

/-- The parameters of a construct. -/
def params (parts : List Clause) : Dict :=
  parts.foldl (fun acc part => match part with
    | param name value => acc.insert name value
    | data _ => acc) []

/-- The handler that the parameters name: the last text under that name. -/
def handler? (parts : List Clause) : Option String :=
  parts.foldl (fun acc part => match part with
    | param "handler" (.text target) => some target
    | _ => acc) none

/-- The values of the JSON literals. -/
def literals (parts : List Clause) : List Value :=
  parts.filterMap fun
    | data value => value
    | param _ _ => none

/-- Parameters and the entries of JSON objects in one dict. -/
def content (parts : List Clause) : Dict :=
  parts.foldl (fun acc part => match part with
    | param name value => acc.insert name value
    | data (some (.dict entries)) => acc.extend entries
    | data _ => acc) []

end Clause

end GlyphScript
