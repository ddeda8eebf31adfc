import GlyphScript.Value

/-!
# The store

What the handlers of the library read and write: the manifest of the loaded
program, the boot log, the associative memory, tapes, trace records and counts
of n-grams. The log of errors and the registered vectors are kept with them.
-/

namespace GlyphScript

structure Store where
  manifest : Dict
  booted : Bool
  bootSteps : List String
  errors : List String
  memory : Dict
  tapes : Dict
  traces : List Value
  ngrams : Table Nat
  vectors : Table Dict

namespace Store

def empty : Store :=
  ⟨[], false, [], [], [], [], [], [], []⟩

def logError (store : Store) (message : String) : Store :=
  { store with errors := store.errors ++ [message] }

def remember (store : Store) (key : String) (value : Value) : Store :=
  { store with memory := store.memory.insert key value }

end Store

end GlyphScript
