import GlyphScript.Library.Answer

/-!
# Associative memory
-/

namespace GlyphScript.Library

def recallKey (key : String) (store : Store) : Value × Store :=
  (success [("key", .text key), ("value", (store.memory.find? key).getD .null)], store)

def storeKey (key : String) (value : Value) (store : Store) : Value × Store :=
  (success [("key", .text key)], store.remember key value)

def listMemory (store : Store) : Value × Store :=
  (success [("count", .ofNat store.memory.length), ("keys", .ofTexts store.memory.names)], store)

end GlyphScript.Library
