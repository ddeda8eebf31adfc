/-!
# Kinds of tokens

The closed sets of glyphs, operators and keywords, and the kinds of tokens built
from them. Each has the text that it has in a source and the word that it has in
a listing of tokens.
-/

namespace GlyphScript

/-- The character that encloses glyph markers. -/
def glyphMark : Char := '⟁'

/-- Words that are markers when they stand between glyph marks. -/
inductive Glyph where
  | pop
  | wo
  | sek
  | xul
  | chen
  | yax
  | kayab
  | shen
  | thenBranch
  | elseBranch
  | kumku
deriving DecidableEq, Repr

namespace Glyph

def all : List Glyph :=
  [pop, wo, sek, xul, chen, yax, kayab, shen, thenBranch, elseBranch, kumku]

def text : Glyph → String
  | pop => "Pop"
  | wo => "Wo"
  | sek => "Sek"
  | xul => "Xul"
  | chen => "Ch'en"
  | yax => "Yax"
  | kayab => "K'ayab"
  | shen => "Shen"
  | thenBranch => "then"
  | elseBranch => "else"
  | kumku => "Kumk'u"

def word : Glyph → String
  | pop => "Pop"
  | wo => "Wo"
  | sek => "Sek"
  | xul => "Xul"
  | chen => "Chen"
  | yax => "Yax"
  | kayab => "Kayab"
  | shen => "Shen"
  | thenBranch => "Then"
  | elseBranch => "Else"
  | kumku => "Kumku"

def ofText? (content : String) : Option Glyph :=
  all.find? fun glyph => glyph.text == content

end Glyph

inductive Operator where
  | assign
  | plus
  | minus
  | star
  | slash
  | percent
  | caret
  | equal
  | notEqual
  | less
  | greater
  | lessEqual
  | greaterEqual
  | both
  | either
  | bang
  | ampersand
  | pipe
  | dot
  | comma
  | colon
  | semicolon
  | question
  | leftParen
  | rightParen
  | leftBrace
  | rightBrace
  | leftBracket
  | rightBracket
deriving DecidableEq, Repr

namespace Operator

/-- Operators of two characters, which win over those of one. -/
def doubles : List Operator :=
  [equal, notEqual, lessEqual, greaterEqual, both, either]

def singles : List Operator :=
  [assign, plus, minus, star, slash, percent, caret, less, greater, bang, ampersand, pipe, dot,
    comma, colon, semicolon, question, leftParen, rightParen, leftBrace, rightBrace,
    leftBracket, rightBracket]

def text : Operator → String
  | assign => "="
  | plus => "+"
  | minus => "-"
  | star => "*"
  | slash => "/"
  | percent => "%"
  | caret => "^"
  | equal => "=="
  | notEqual => "!="
  | less => "<"
  | greater => ">"
  | lessEqual => "<="
  | greaterEqual => ">="
  | both => "&&"
  | either => "||"
  | bang => "!"
  | ampersand => "&"
  | pipe => "|"
  | dot => "."
  | comma => ","
  | colon => ":"
  | semicolon => ";"
  | question => "?"
  | leftParen => "("
  | rightParen => ")"
  | leftBrace => "\x7b"
  | rightBrace => "\x7d"
  | leftBracket => "["
  | rightBracket => "]"

def word : Operator → String
  | assign => "Assign"
  | plus => "Plus"
  | minus => "Minus"
  | star => "Star"
  | slash => "Slash"
  | percent => "Percent"
  | caret => "Caret"
  | equal => "EqEq"
  | notEqual => "NotEq"
  | less => "Lt"
  | greater => "Gt"
  | lessEqual => "Le"
  | greaterEqual => "Ge"
  | both => "AndAnd"
  | either => "OrOr"
  | bang => "Bang"
  | ampersand => "Amp"
  | pipe => "Pipe"
  | dot => "Dot"
  | comma => "Comma"
  | colon => "Colon"
  | semicolon => "Semicolon"
  | question => "Question"
  | leftParen => "LParen"
  | rightParen => "RParen"
  | leftBrace => "LBrace"
  | rightBrace => "RBrace"
  | leftBracket => "LBracket"
  | rightBracket => "RBracket"

/-- The operator that a text starts with, the longer one if there are two. -/
def read? (cs : List Char) : Option Operator :=
  (doubles.find? fun op => op.text.toList.isPrefixOf cs).or
    (singles.find? fun op => op.text.toList.isPrefixOf cs)

end Operator

/-- Identifiers that are reserved. -/
inductive Keyword where
  | defineFunction
  | defineClass
  | defineMacro
  | returnWord
  | ifWord
  | forWord
  | whileWord
  | inWord
  | fromWord
  | toWord
  | newWord
  | trueWord
  | falseWord
  | nullWord
  | mapWord
  | goWord
  | channel
  | observable
  | subscribe
  | query
  | assertFact
  | defineRule
  | matrixMultiply
  | transpose
  | softmax
deriving DecidableEq, Repr

namespace Keyword

def all : List Keyword :=
  [defineFunction, defineClass, defineMacro, returnWord, ifWord, forWord, whileWord, inWord,
    fromWord, toWord, newWord, trueWord, falseWord, nullWord, mapWord, goWord, channel,
    observable, subscribe, query, assertFact, defineRule, matrixMultiply, transpose, softmax]

def text : Keyword → String
  | defineFunction => "define_function"
  | defineClass => "define_class"
  | defineMacro => "define_macro"
  | returnWord => "return"
  | ifWord => "if"
  | forWord => "for"
  | whileWord => "while"
  | inWord => "in"
  | fromWord => "from"
  | toWord => "to"
  | newWord => "new"
  | trueWord => "true"
  | falseWord => "false"
  | nullWord => "null"
  | mapWord => "map"
  | goWord => "go"
  | channel => "channel"
  | observable => "observable"
  | subscribe => "subscribe"
  | query => "query"
  | assertFact => "assert_fact"
  | defineRule => "define_rule"
  | matrixMultiply => "matrix_multiply"
  | transpose => "transpose"
  | softmax => "softmax"

def word : Keyword → String
  | defineFunction => "DefineFunction"
  | defineClass => "DefineClass"
  | defineMacro => "DefineMacro"
  | returnWord => "Return"
  | ifWord => "If"
  | forWord => "For"
  | whileWord => "While"
  | inWord => "In"
  | fromWord => "From"
  | toWord => "To"
  | newWord => "New"
  | trueWord => "True"
  | falseWord => "False"
  | nullWord => "Null"
  | mapWord => "Map"
  | goWord => "Go"
  | channel => "Channel"
  | observable => "Observable"
  | subscribe => "Subscribe"
  | query => "Query"
  | assertFact => "AssertFact"
  | defineRule => "DefineRule"
  | matrixMultiply => "MatrixMultiply"
  | transpose => "Transpose"
  | softmax => "Softmax"

def ofText? (identifier : String) : Option Keyword :=
  all.find? fun keyword => keyword.text == identifier

end Keyword

/-- What a capability line declares. -/
inductive Capability where
  | block
  | vector
  | var
deriving DecidableEq, Repr

/-- The word that announces the capability on its line. -/
def Capability.text : Capability → String
  | block => "BLOCK"
  | vector => "ATOMIC_VECTOR"
  | var => "ATOMIC_VARIABLE"

/-- Markers open the constructs of a program. -/
inductive Marker where
  | declaration
  | assignment
  | controlVector
  | block
  | returned
  | atomicBlock
  | capability (capability : Capability)
deriving DecidableEq, Repr

inductive Kind where
  | illegal
  | endOfFile
  | newline
  | comment
  | blockComment
  | glyph (glyph : Glyph)
  | atomicBlock
  | capability (capability : Capability)
  | identifier
  | number
  | string
  | json
  | atom
  | operator (operator : Operator)
  | keyword (keyword : Keyword)
deriving DecidableEq, Repr

namespace Kind

def all : List Kind :=
  [illegal, endOfFile, newline, comment, blockComment] ++ Glyph.all.map glyph ++ [atomicBlock] ++
    [.block, .vector, .var].map capability ++ [identifier, number, string, json, atom] ++
    (Operator.singles ++ Operator.doubles).map operator ++ Keyword.all.map keyword

/-- The word of the kind in a listing of tokens. -/
def word : Kind → String
  | illegal => "Illegal"
  | endOfFile => "Eof"
  | newline => "Newline"
  | comment => "Comment"
  | blockComment => "BlockComment"
  | glyph g => g.word
  | atomicBlock => "AtomicBlock"
  | capability .block => "CoolBlock"
  | capability .vector => "CoolVector"
  | capability .var => "CoolVariable"
  | identifier => "Ident"
  | number => "Number"
  | string => "String"
  | json => "Json"
  | atom => "At"
  | operator op => op.word
  | keyword k => k.word

def ofWord? (word : String) : Option Kind :=
  all.find? fun kind => kind.word == word

/-- The kind in words, as messages name it. -/
def description : Kind → String
  | illegal => "illegal character"
  | endOfFile => "end of file"
  | newline => "newline"
  | comment => "comment"
  | blockComment => "comment"
  | glyph g => String.ofList [glyphMark] ++ g.text ++ String.ofList [glyphMark]
  | atomicBlock => "atomic block"
  | capability c => "C@@L " ++ c.text
  | identifier => "identifier"
  | number => "number"
  | string => "string"
  | json => "JSON literal"
  | atom => "@atom"
  | operator op => "'" ++ op.text ++ "'"
  | keyword k => "keyword '" ++ k.text ++ "'"

/-- The marker that a token of this kind is. -/
def marker? : Kind → Option Marker
  | glyph .pop => some .declaration
  | glyph .wo => some .assignment
  | glyph .sek => some .controlVector
  | glyph .xul => some .block
  | glyph .chen => some .returned
  | atomicBlock => some .atomicBlock
  | capability c => some (.capability c)
  | _ => none

def isMarker (kind : Kind) : Bool :=
  kind.marker?.isSome

/-- Trivia has no meaning in a program. -/
def isTrivia : Kind → Bool
  | comment => true
  | blockComment => true
  | newline => true
  | _ => false

end Kind

end GlyphScript
