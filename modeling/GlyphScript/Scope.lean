import GlyphScript.Value

/-!
# Scopes

A scope binds names to values and may stand inside another one, its parent.
Scopes are numbered in the order of their making, so a parent has a smaller
number than its children. A name is looked up from a scope outward along the
chain of its parents.
-/

namespace GlyphScript

structure Scope where
  parent : Option Nat
  bindings : Dict

/-- All scopes, each at the place of its number. -/
structure Forest where
  scopes : List Scope

namespace Forest

/-- One scope without a parent. -/
def start : Forest :=
  ⟨[⟨none, []⟩]⟩

def parent? (forest : Forest) (id : Nat) : Option Nat :=
  forest.scopes[id]?.bind Scope.parent

/-- What a scope itself binds. -/
def own (forest : Forest) (id : Nat) : Dict :=
  (forest.scopes[id]?.map Scope.bindings).getD []

/-- A scope, its parent, the parent of that, and so on. -/
def chain (forest : Forest) (id : Nat) : List Nat :=
  id :: match forest.parent? id with
    | some outer => if outer < id then forest.chain outer else []
    | none => []

/-- The value of a name in the nearest scope that binds it. -/
def get? (forest : Forest) (id : Nat) (name : String) : Option Value :=
  (forest.chain id).findSome? fun scope => (forest.own scope).find? name

/-- The nearest scope that binds a name. -/
def owner? (forest : Forest) (id : Nat) (name : String) : Option Nat :=
  (forest.chain id).find? fun scope => (forest.own scope).contains name

/-- Adds a scope, whose number is the count of scopes before. -/
def add (forest : Forest) (scope : Scope) : Nat × Forest :=
  (forest.scopes.length, ⟨forest.scopes ++ [scope]⟩)

def addRoot (forest : Forest) : Nat × Forest :=
  forest.add ⟨none, []⟩

def addChild (forest : Forest) (id : Nat) : Nat × Forest :=
  forest.add ⟨some id, []⟩

/-- A second scope with the same bindings and the same parent. -/
def addClone (forest : Forest) (id : Nat) : Nat × Forest :=
  forest.add ⟨forest.parent? id, forest.own id⟩

/-- Takes away a scope and those made after it. -/
def close (forest : Forest) (id : Nat) : Forest :=
  ⟨forest.scopes.take id⟩

/-- Changes the bindings of one scope. -/
def modify (forest : Forest) (id : Nat) (change : Dict → Dict) : Forest :=
  ⟨forest.scopes.modify id fun scope => { scope with bindings := change scope.bindings }⟩

/-- Binds a name in the scope itself. -/
def set (forest : Forest) (id : Nat) (name : String) (value : Value) : Forest :=
  forest.modify id (·.insert name value)

/-- Binds a name anew in the nearest scope that binds it; false if none does. -/
def update (forest : Forest) (id : Nat) (name : String) (value : Value) : Bool × Forest :=
  match forest.owner? id name with
  | some owner => (true, forest.set owner name value)
  | none => (false, forest)

/-- Removes a name from the scope itself, and gives the value it had. -/
def delete (forest : Forest) (id : Nat) (name : String) : Option Value × Forest :=
  ((forest.own id).find? name, forest.modify id (·.erase name))

/-- The names that a scope itself binds, in order. -/
def names (forest : Forest) (id : Nat) : List String :=
  (forest.own id).names

/-- The names that can be looked up, those of nearer scopes first. -/
def visibleNames (forest : Forest) (id : Nat) : List String :=
  (forest.chain id).foldl (fun seen scope =>
    seen ++ (forest.names scope).filter (!seen.contains ·)) []

end Forest

end GlyphScript
