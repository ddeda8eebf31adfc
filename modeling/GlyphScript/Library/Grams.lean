import GlyphScript.Library.Answer
import GlyphScript.Text.Split

/-!
# N-gram statistics

An n-gram is a window of consecutive items of an observed sequence. It is stored
by the texts of its items with a separator between them, together with how often
it was observed.
-/

namespace GlyphScript.Library

def separator : List Char := ['|']

def gramOf (items : List Value) : String :=
  String.ofList (Text.join separator (items.map fun item => item.toText.toList))

/-- The windows of `size` consecutive items, from left to right. -/
def windows {α : Type} (size : Nat) (items : List α) : List (List α) :=
  (List.range (items.length + 1 - size)).map fun start => (items.drop start).take size

/-- The window of a request: its size cut to an integer, or three if it is no
number or less than one. -/
def windowSize (body : Dict) : Nat :=
  match (body.find? "window_size").bind Value.number? with
  | some size => if 1 ≤ size then Decimal.toNat64 size else 3
  | none => 3

/-- One more observation of a gram. -/
def countGram (grams : Table Nat) (gram : String) : Table Nat :=
  grams.insert gram ((grams.find? gram).getD 0 + 1)

def observe (body : Dict) (store : Store) : Value × Store :=
  match (body.find? "sequence").bind Value.list? with
  | none => (failure "No sequence provided", store)
  | some sequence =>
      let grams := (windows (windowSize body) sequence).map gramOf
      let counted := grams.foldl countGram store.ngrams
      (success [("observed", .ofNat sequence.length), ("n_grams_count", .ofNat counted.length)],
        { store with ngrams := counted })

/-- The more frequent one comes first; of equally frequent ones the lesser text. -/
def ranksBefore (left right : String × Nat) : Bool :=
  right.2 < left.2 || left.2 == right.2 && left.1 ≤ right.1

def ranked (counts : List (String × Nat)) : List (String × Nat) :=
  counts.mergeSort ranksBefore

def total (counts : List (String × Nat)) : Nat :=
  counts.foldl (fun sum entry => sum + entry.2) 0

/-- A text with its count and its share of all counts. -/
def share (textKey shareKey : String) (all : Nat) (entry : String × Nat) : Value :=
  .record [(textKey, .text entry.1), ("count", .ofNat entry.2),
    (shareKey, .number (Float.ofNat entry.2 / Float.ofNat all))]

def analyze (store : Store) : Value × Store :=
  let patterns := ranked store.ngrams
  (success [("mode", .text "analyze"),
    ("top_patterns", .list (patterns.map (share "gram" "frequency" (total patterns)))),
    ("total_patterns", .ofNat patterns.length)], store)

/-- The item that follows the given ones in a gram that starts with them. -/
def following? (given : List String) (gram : String) : Option String :=
  let parts := (Text.splitOn separator gram.toList).map String.ofList
  if given.isPrefixOf parts then parts[given.length]? else none

/-- What followed the given items, with its count, for every stored gram. -/
def candidates (given : List String) (grams : Table Nat) : List (String × Nat) :=
  grams.filterMap fun (gram, count) => (following? given gram).map (·, count)

def suggest (body : Dict) (store : Store) : Value × Store :=
  match (body.find? "prefix").bind Value.list? with
  | none => (failure "No prefix provided", store)
  | some given =>
      let found := ranked (candidates (given.map Value.toText) store.ngrams)
      (success [("mode", .text "suggest"), ("prefix", .list given),
        ("suggestions", .list (found.map (share "next" "confidence" (total found))))], store)

end GlyphScript.Library
