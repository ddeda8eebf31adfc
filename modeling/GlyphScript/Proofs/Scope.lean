import GlyphScript.Proofs.Table
import GlyphScript.Scope

/-!
# The theory of scopes

Scopes are shared: a scope can be the parent of many others, so one change can be seen
from many places. What is seen is decided by the nearest scope that binds a name.

Results:
1. `Built.wellFormed`: in every forest that operations build, a parent is older than
   its children, so a chain ends, and each scope binds a name once.
2. `owner?_eq_some_iff`, `get?_eq_bind`: a look-up finds the nearest binding.
3. `update_visibility`: who sees an update, and that nothing else changes.
-/

namespace GlyphScript

namespace Forest

/-! ## Changes of one scope -/

theorem parent?_modify (forest : Forest) (id : Nat) (change : Dict → Dict) (other : Nat) :
    (forest.modify id change).parent? other = forest.parent? other := by
  unfold parent? modify
  rw [List.getElem?_modify]
  cases forest.scopes[other]? with
  | none => rfl
  | some scope => split <;> rfl

theorem own_modify_other (forest : Forest) {id other : Nat} (change : Dict → Dict)
    (different : other ≠ id) : (forest.modify id change).own other = forest.own other := by
  unfold own modify
  rw [List.getElem?_modify_ne _ _ (Ne.symm different)]

theorem own_modify_self (forest : Forest) {id : Nat} (change : Dict → Dict)
    (present : id < forest.scopes.length) :
    (forest.modify id change).own id = change (forest.own id) := by
  unfold own modify
  rw [List.getElem?_modify_eq, List.getElem?_eq_getElem present]
  rfl

/-- A scope that is not there binds nothing. -/
theorem own_of_length_le (forest : Forest) {id : Nat} (absent : forest.scopes.length ≤ id) :
    forest.own id = [] := by
  rw [own, List.getElem?_eq_none absent]
  rfl

theorem lt_length_of_contains {forest : Forest} {id : Nat} {name : String}
    (bound : (forest.own id).contains name = true) : id < forest.scopes.length := by
  rcases Nat.lt_or_ge id forest.scopes.length with present | absent
  · exact present
  · rw [own_of_length_le forest absent] at bound
    cases bound

/-- A property of dicts that changes keep holds in every scope after a change. -/
theorem forall_own_modify {forest : Forest} {holds : Dict → Prop} (id : Nat)
    {change : Dict → Dict} (kept : ∀ bindings, holds bindings → holds (change bindings))
    (all : ∀ other, holds (forest.own other)) (other : Nat) :
    holds ((forest.modify id change).own other) := by
  by_cases same : other = id
  · subst same
    rcases Nat.lt_or_ge other forest.scopes.length with present | absent
    · rw [own_modify_self forest change present]
      exact kept _ (all other)
    · have empty : (forest.modify other change).own other = forest.own other := by
        have still : (forest.modify other change).scopes.length ≤ other := by
          rwa [modify, List.length_modify]
        rw [own_of_length_le _ still, own_of_length_le _ absent]
      rw [empty]
      exact all other
  · rw [own_modify_other forest change same]
    exact all other

/-! ## New scopes -/

theorem scopes_add (forest : Forest) (scope : Scope) (id : Nat) :
    (forest.add scope).2.scopes[id]? =
      if id = forest.scopes.length then some scope else forest.scopes[id]? := by
  unfold add
  rw [List.getElem?_append]
  by_cases last : id = forest.scopes.length
  · simp [last]
  · rw [if_neg last]
    split
    · rfl
    · next outside =>
        rw [List.getElem?_eq_none (by simp; omega), List.getElem?_eq_none (by omega)]

theorem parent?_add (forest : Forest) (scope : Scope) (id : Nat) :
    (forest.add scope).2.parent? id =
      if id = forest.scopes.length then scope.parent else forest.parent? id := by
  unfold parent?
  rw [scopes_add]
  split <;> rfl

theorem own_add (forest : Forest) (scope : Scope) (id : Nat) :
    (forest.add scope).2.own id =
      if id = forest.scopes.length then scope.bindings else forest.own id := by
  unfold own
  rw [scopes_add]
  split <;> rfl

/-! ## Forests that operations build -/

/-- The forests that come from operations on scopes that are there. -/
inductive Built : Forest → Prop
  | start : Built .start
  | root {forest : Forest} (built : Built forest) : Built forest.addRoot.2
  | child {forest : Forest} (built : Built forest) (id : Nat)
      (present : id < forest.scopes.length) : Built (forest.addChild id).2
  | clone {forest : Forest} (built : Built forest) (id : Nat)
      (present : id < forest.scopes.length) : Built (forest.addClone id).2
  | set {forest : Forest} (built : Built forest) (id : Nat) (name : String) (value : Value) :
      Built (forest.set id name value)
  | update {forest : Forest} (built : Built forest) (id : Nat) (name : String) (value : Value) :
      Built (forest.update id name value).2
  | delete {forest : Forest} (built : Built forest) (id : Nat) (name : String) :
      Built (forest.delete id name).2

/-- Chains go from younger to older scopes, and each scope binds a name once. -/
structure WellFormed (forest : Forest) : Prop where
  parents : ∀ id outer, forest.parent? id = some outer → outer < id
  ordered : ∀ id, (forest.own id).Ordered

theorem WellFormed.modify {forest : Forest} (formed : forest.WellFormed) (id : Nat)
    {change : Dict → Dict} (kept : ∀ bindings, Table.Ordered bindings → (change bindings).Ordered) :
    (forest.modify id change).WellFormed where
  parents := by
    intro other outer parent
    rw [parent?_modify] at parent
    exact formed.parents other outer parent
  ordered := forall_own_modify id kept formed.ordered

theorem WellFormed.add {forest : Forest} (formed : forest.WellFormed) {scope : Scope}
    (older : ∀ outer, scope.parent = some outer → outer < forest.scopes.length)
    (ordered : scope.bindings.Ordered) : (forest.add scope).2.WellFormed where
  parents := by
    intro id outer parent
    rw [parent?_add] at parent
    split at parent
    · next last => exact last ▸ older outer parent
    · exact formed.parents id outer parent
  ordered := by
    intro id
    rw [own_add]
    split
    · exact ordered
    · exact formed.ordered id

theorem WellFormed.set {forest : Forest} (formed : forest.WellFormed) (id : Nat) (name : String)
    (value : Value) : (forest.set id name value).WellFormed :=
  formed.modify id fun _ ordered => ordered.insert name value

theorem Built.wellFormed {forest : Forest} (built : forest.Built) : forest.WellFormed := by
  induction built with
  | start =>
      refine ⟨?_, ?_⟩
      · intro id outer parent
        cases id <;> cases parent
      · intro id
        cases id <;> exact List.Pairwise.nil
  | root _ ih => exact ih.add nofun List.Pairwise.nil
  | child _ id present ih =>
      refine ih.add ?_ List.Pairwise.nil
      rintro outer ⟨⟩
      exact present
  | clone _ id present ih =>
      refine ih.add ?_ (ih.ordered id)
      intro outer parent
      exact Nat.lt_trans (ih.parents id outer parent) present
  | set _ id name value ih => exact ih.set id name value
  | update _ id name value ih =>
      unfold Forest.update
      split
      · next owner _ => exact ih.set owner name value
      · exact ih
  | delete _ id name ih => exact ih.modify id fun _ ordered => ordered.erase name

/-! ## Chains and owners -/

/-- Seen from a scope, the nearest scope that binds a name. -/
inductive NearestOwner (forest : Forest) (name : String) : Nat → Nat → Prop
  | here {scope : Nat} (bound : (forest.own scope).contains name = true) :
      NearestOwner forest name scope scope
  | outward {scope outer owner : Nat} (free : (forest.own scope).contains name = false)
      (parent : forest.parent? scope = some outer)
      (above : NearestOwner forest name outer owner) : NearestOwner forest name scope owner

theorem NearestOwner.bound {forest : Forest} {name : String} {scope owner : Nat}
    (nearest : forest.NearestOwner name scope owner) :
    (forest.own owner).contains name = true := by
  induction nearest with
  | here bound => exact bound
  | outward _ _ _ ih => exact ih

theorem NearestOwner.unique {forest : Forest} {name : String} {scope owner other : Nat}
    (nearest : forest.NearestOwner name scope owner)
    (again : forest.NearestOwner name scope other) : owner = other := by
  induction nearest with
  | here bound =>
      cases again with
      | here => rfl
      | outward free => rw [bound] at free; cases free
  | outward free parent _ ih =>
      cases again with
      | here bound => rw [bound] at free; cases free
      | outward _ parentAgain above =>
          cases parent.symm.trans parentAgain
          exact ih above

/-- The first scope has no parent. -/
theorem chain_zero (forest : Forest) : forest.chain 0 = [0] := by
  rw [chain]
  cases forest.parent? 0 with
  | none => rfl
  | some outer => simp

theorem owner?_of_bound {forest : Forest} {scope : Nat} {name : String}
    (bound : (forest.own scope).contains name = true) :
    forest.owner? scope name = some scope := by
  rw [owner?, chain]
  exact List.find?_cons_of_pos bound

theorem owner?_of_free {forest : Forest} (formed : forest.WellFormed) {scope : Nat}
    {name : String} (free : (forest.own scope).contains name = false) :
    forest.owner? scope name = (forest.parent? scope).bind (forest.owner? · name) := by
  rw [owner?, chain, List.find?_cons_of_neg (by simp [free])]
  cases parent : forest.parent? scope with
  | none => rfl
  | some outer =>
      simp only [if_pos (formed.parents scope outer parent)]
      rfl

/-- Looking for the owner along the chain finds the nearest one. -/
theorem owner?_eq_some_iff {forest : Forest} (formed : forest.WellFormed) {scope owner : Nat}
    {name : String} :
    forest.owner? scope name = some owner ↔ forest.NearestOwner name scope owner := by
  constructor
  · -- Parents are older, so the search is an induction on the number of the scope.
    induction scope using Nat.strongRecOn with
    | ind scope ih =>
        intro found
        cases bound : (forest.own scope).contains name with
        | true =>
            rw [owner?_of_bound bound] at found
            cases found
            exact .here bound
        | false =>
            rw [owner?_of_free formed bound] at found
            obtain ⟨outer, parent, above⟩ := Option.bind_eq_some_iff.mp found
            exact .outward bound parent (ih outer (formed.parents scope outer parent) above)
  · intro nearest
    induction nearest with
    | here bound => exact owner?_of_bound bound
    | outward free parent _ ih => rw [owner?_of_free formed free, parent, Option.bind_some, ih]

/-- The value of a name is the one that its owner binds. -/
theorem get?_eq_bind (forest : Forest) (scope : Nat) (name : String) :
    forest.get? scope name =
      (forest.owner? scope name).bind fun owner => (forest.own owner).find? name := by
  unfold get? owner?
  induction forest.chain scope with
  | nil => rfl
  | cons first rest ih =>
      cases found : (forest.own first).find? name with
      | none =>
          have free : (forest.own first).contains name = false := by
            rw [Table.contains, found]
            rfl
          rw [List.findSome?_cons, found, List.find?_cons_of_neg (by simp [free])]
          exact ih
      | some value =>
          have bound : (forest.own first).contains name = true := by
            rw [Table.contains, found]
            rfl
          have here : (first :: rest).find? (fun scope => (forest.own scope).contains name) =
              some first := List.find?_cons_of_pos bound
          rw [List.findSome?_cons, found, here, Option.bind_some, found]

theorem get?_eq_none_iff (forest : Forest) (scope : Nat) (name : String) :
    forest.get? scope name = none ↔ forest.owner? scope name = none := by
  rw [get?_eq_bind]
  cases found : forest.owner? scope name with
  | none => exact ⟨fun _ => rfl, fun _ => rfl⟩
  | some owner =>
      have bound := List.find?_some (p := fun scope => (forest.own scope).contains name) found
      simp [Option.isSome_iff_ne_none.mp bound]

/-! ## Updates -/

section Update

variable {forest : Forest} {owner : Nat} {name : String} (value : Value)

theorem chain_modify (forest : Forest) (id : Nat) (change : Dict → Dict) (scope : Nat) :
    (forest.modify id change).chain scope = forest.chain scope := by
  induction scope using Nat.strongRecOn with
  | ind scope ih =>
      rw [chain, chain, parent?_modify]
      cases forest.parent? scope with
      | none => rfl
      | some outer =>
          by_cases older : outer < scope
          · simp only [if_pos older, ih outer older]
          · simp only [if_neg older]

theorem own_set_owner (bound : (forest.own owner).contains name = true) (scope : Nat) :
    (forest.set owner name value).own scope =
      if scope = owner then (forest.own owner).insert name value else forest.own scope := by
  by_cases same : scope = owner
  · rw [if_pos same, same]
    exact own_modify_self forest _ (lt_length_of_contains bound)
  · rw [if_neg same]
    exact own_modify_other forest _ same

/-- Binding a name anew where it is bound changes no set of names. -/
theorem names_set_owner (ordered : (forest.own owner).Ordered)
    (bound : (forest.own owner).contains name = true) (scope : Nat) :
    (forest.set owner name value).names scope = forest.names scope := by
  rw [names, own_set_owner value bound]
  split
  · next same =>
      subst same
      exact Table.names_insert_of_contains ordered bound value
  · rfl

theorem contains_set_owner (bound : (forest.own owner).contains name = true) (scope : Nat)
    (other : String) :
    ((forest.set owner name value).own scope).contains other =
      (forest.own scope).contains other := by
  rw [own_set_owner value bound]
  split
  · next same =>
      subst same
      rw [Table.contains, Table.find?_insert]
      split
      · next sameName => rw [sameName, bound]; rfl
      · rfl
  · rfl

/-- So every name keeps its owner, seen from any scope. -/
theorem owner?_set_owner (bound : (forest.own owner).contains name = true) (scope : Nat)
    (other : String) :
    (forest.set owner name value).owner? scope other = forest.owner? scope other := by
  have sameChain : (forest.set owner name value).chain scope = forest.chain scope :=
    chain_modify forest owner _ scope
  unfold owner?
  rw [sameChain]
  congr 1
  funext place
  exact contains_set_owner value bound place other

theorem get?_set_owner (bound : (forest.own owner).contains name = true) (scope : Nat)
    (other : String) :
    (forest.set owner name value).get? scope other =
      if other = name ∧ forest.owner? scope name = some owner then some value
      else forest.get? scope other := by
  rw [get?_eq_bind, get?_eq_bind, owner?_set_owner value bound]
  cases found : forest.owner? scope other with
  | none =>
      rw [if_neg]
      · rfl
      · rintro ⟨rfl, owned⟩
        rw [found] at owned
        cases owned
  | some place =>
      rw [Option.bind_some, Option.bind_some, own_set_owner value bound]
      by_cases sameName : other = name
      · subst sameName
        by_cases samePlace : place = owner
        · subst samePlace
          rw [if_pos rfl, Table.find?_insert_self, if_pos ⟨rfl, found⟩]
        · rw [if_neg samePlace, if_neg]
          rintro ⟨_, owned⟩
          exact samePlace (Option.some.inj (found.symm.trans owned))
      · have apart : ¬ (other = name ∧ forest.owner? scope name = some owner) :=
          fun both => sameName both.1
        rw [if_neg apart]
        split
        · next samePlace => rw [Table.find?_insert_other _ value sameName, samePlace]
        · rfl

end Update

/-- In every forest that operations build, an update finds nothing to change exactly
if the name has no value. Otherwise all scopes for which the same scope is the nearest
owner of the name see the new value, all other look-ups give what they gave, and no scope
binds other names than before. -/
theorem update_visibility {forest : Forest} (built : forest.Built) (scope : Nat) (name : String)
    (value : Value) :
    (forest.update scope name value = (false, forest) ↔ forest.get? scope name = none) ∧
    (forest.get? scope name ≠ none →
      (forest.update scope name value).1 = true ∧
      ∀ (other : Nat) (key : String),
        (key = name ∧ (∃ owner, forest.NearestOwner name other owner ∧
            forest.NearestOwner name scope owner) →
          (forest.update scope name value).2.get? other key = some value) ∧
        (¬ (key = name ∧ ∃ owner, forest.NearestOwner name other owner ∧
            forest.NearestOwner name scope owner) →
          (forest.update scope name value).2.get? other key = forest.get? other key)) ∧
    ∀ other, (forest.update scope name value).2.names other = forest.names other := by
  have formed := built.wellFormed
  rw [get?_eq_none_iff, Ne, get?_eq_none_iff]
  unfold update
  cases found : forest.owner? scope name with
  | none =>
      refine ⟨⟨fun _ => rfl, fun _ => rfl⟩, fun owned => absurd rfl owned, fun _ => rfl⟩
  | some owner =>
      have nearest := (owner?_eq_some_iff formed).mp found
      have bound := nearest.bound
      refine ⟨⟨nofun, nofun⟩, fun _ => ⟨rfl, fun other key => ⟨?_, ?_⟩⟩,
        names_set_owner value (formed.ordered owner) bound⟩
      · rintro ⟨rfl, place, fromOther, fromScope⟩
        cases nearest.unique fromScope
        rw [get?_set_owner value bound,
          if_pos ⟨rfl, (owner?_eq_some_iff formed).mpr fromOther⟩]
      · intro apart
        rw [get?_set_owner value bound, if_neg]
        rintro ⟨sameName, owned⟩
        exact apart ⟨sameName, owner, (owner?_eq_some_iff formed).mp owned, nearest⟩

/-- A root that binds `x`, a clone of it, a child that sees it and a child that hides it. -/
def sharedScopes : Forest :=
  let bound := start.set 0 "x" (.text "old")
  let grown := ((bound.addClone 0).2.addChild 0).2.addChild 0
  grown.2.set 3 "x" (.text "hidden")

theorem sharedScopes_built : sharedScopes.Built := by
  have bound := Built.start.set 0 "x" (.text "old")
  have grown := ((bound.clone 0 (by decide)).child 0 (by decide)).child 0 (by decide)
  exact grown.set 3 "x" (.text "hidden")

/-- An update through the first child is seen by it and by the root, not by the clone
and not by the child that hides the name. -/
theorem update_visibility_sharedScopes :
    let after := (sharedScopes.update 2 "x" (.text "new")).2
    after.get? 0 "x" = some (.text "new") ∧ after.get? 2 "x" = some (.text "new") ∧
      after.get? 1 "x" = sharedScopes.get? 1 "x" ∧ after.get? 3 "x" = sharedScopes.get? 3 "x" ∧
      after.names 2 = [] := by
  have root : sharedScopes.NearestOwner "x" 0 0 := .here rfl
  have child : sharedScopes.NearestOwner "x" 2 0 := .outward rfl rfl root
  have seen : sharedScopes.get? 2 "x" ≠ none := by
    rw [Ne, get?_eq_none_iff, (owner?_eq_some_iff sharedScopes_built.wellFormed).mpr child]
    nofun
  obtain ⟨_, others, sameNames⟩ :=
    update_visibility sharedScopes_built 2 "x" (.text "new")
  obtain ⟨_, look⟩ := others seen
  refine ⟨(look 0 "x").1 ⟨rfl, 0, root, child⟩, (look 2 "x").1 ⟨rfl, 0, child, child⟩,
    (look 1 "x").2 ?_, (look 3 "x").2 ?_, sameNames 2⟩
  · rintro ⟨_, owner, fromClone, fromChild⟩
    cases fromClone.unique (.here rfl)
    cases child.unique fromChild
  · rintro ⟨_, owner, fromHiding, fromChild⟩
    cases fromHiding.unique (.here rfl)
    cases child.unique fromChild

end Forest

end GlyphScript
