import GlyphScript.Builtin.Kinds
import GlyphScript.Builtin.Matrices
import GlyphScript.Builtin.Texts
import GlyphScript.Text.Blank

/-!
# The table of builtins

Builtins are functions on values that never fail. They are found by name in one
fixed table. Only `print` has an effect, the line that it writes.
-/

namespace GlyphScript

namespace Builtin

/-- What a call of a builtin gives: a value, and the text that it printed. -/
structure Result where
  value : Value
  printed : String

/-- A builtin that prints nothing. -/
def silent (f : List Value → Value) (args : List Value) : Result :=
  ⟨f args, ""⟩

def table : List (String × (List Value → Result)) := [
  ("abs", silent (unary Float.abs)),
  ("min", silent (binary Decimal.lesser)),
  ("max", silent (binary Decimal.greater)),
  ("floor", silent (unary Decimal.floor)),
  ("ceil", silent (unary Decimal.ceiling)),
  ("round", silent (unary Decimal.rounded)),
  ("sqrt", silent (unary Float.sqrt)),
  ("pow", silent (binary Float.pow)),
  ("exp", silent (unary Float.exp)),
  ("log", silent (unary Float.log)),
  ("len", silent sizeOfFirst),
  ("push", silent push),
  ("pop", silent pop),
  ("slice", silent slice),
  ("concat", silent concat),
  ("map", silent firstOrNull),
  ("filter", silent firstOrNull),
  ("reduce", silent firstOrNull),
  ("reverse", silent reverse),
  ("sort", silent sort),
  ("upper", silent (textMap Text.upper)),
  ("lower", silent (textMap Text.lower)),
  ("trim", silent (textMap Text.trim)),
  ("split", silent split),
  ("join", silent join),
  ("replace", silent replace),
  ("contains", silent (textTest fun s part => Text.contains part s)),
  ("starts", silent (textTest fun s part => part.isPrefixOf s)),
  ("ends", silent (textTest fun s part => part.isSuffixOf s)),
  ("type", silent typeOf),
  ("str", silent toText),
  ("int", silent toInteger),
  ("float", silent toNumber),
  ("bool", silent toBool),
  ("array", silent .list),
  ("object", silent object),
  ("matrix_multiply", silent matrixProduct),
  ("transpose", silent transpose),
  ("softmax", silent softmax),
  ("dot", silent dotProduct),
  ("zeros", silent (filled 0)),
  ("ones", silent (filled 1)),
  ("print", fun args => ⟨.null, printedLine args⟩),
  ("range", silent range),
  ("keys", silent keys),
  ("values", silent values)]

def names : List String :=
  table.map Prod.fst

def find? (name : String) : Option (List Value → Result) :=
  table.lookup name

/-- Calls a builtin by name; none if there is no builtin of that name. -/
def call? (name : String) (args : List Value) : Option Result :=
  (find? name).map fun f => f args

end Builtin

end GlyphScript
