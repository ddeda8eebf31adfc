import GlyphScript.Proofs.Scope

/-!
# The names that a scope sees

The names that can be looked up from a scope are listed scope by scope along its chain, each
name once. After any number of scopes the list holds exactly the names that these scopes
bind, those of nearer owners first (`Collected`); one more scope keeps that
(`Collected.step`), so the list of the whole chain has it (`collected_visibleNames`).

Result: `visibleNames_exact`, the listed names are those that have a value, in the order of
their owners.
-/

namespace GlyphScript.Forest

/-! ## Scopes inside other scopes -/

/-- One scope stands inside another one if that is its parent, or the parent of its parent,
and so on. -/
inductive Inside (forest : Forest) : Nat → Nat → Prop
  | parent {scope outer : Nat} (parent : forest.parent? scope = some outer) :
      Inside forest scope outer
  | further {scope outer far : Nat} (parent : forest.parent? scope = some outer)
      (above : Inside forest outer far) : Inside forest scope far

theorem Inside.lt {forest : Forest} (formed : forest.WellFormed) {scope far : Nat}
    (inside : forest.Inside scope far) : far < scope := by
  induction inside with
  | parent parent => exact formed.parents _ _ parent
  | further parent _ ih => exact Nat.lt_trans ih (formed.parents _ _ parent)

theorem inside_of_mem_chain {forest : Forest} {scope outer far : Nat}
    (parent : forest.parent? scope = some outer) (member : far ∈ forest.chain outer) :
    forest.Inside scope far := by
  induction outer using Nat.strongRecOn generalizing scope with
  | ind outer ih =>
      rw [chain, List.mem_cons] at member
      rcases member with rfl | above
      · exact .parent parent
      · cases next : forest.parent? outer with
        | none => simp [next] at above
        | some beyond =>
            simp only [next] at above
            split at above
            · next older => exact .further parent (ih beyond older next above)
            · cases above

/-- A chain goes from inside to outside. -/
theorem chain_pairwise_inside (forest : Forest) (scope : Nat) :
    (forest.chain scope).Pairwise forest.Inside := by
  induction scope using Nat.strongRecOn with
  | ind scope ih =>
      rw [chain]
      cases parent : forest.parent? scope with
      | none => exact List.pairwise_singleton _ _
      | some outer =>
          by_cases older : outer < scope
          · simp only [if_pos older]
            exact List.pairwise_cons.mpr ⟨fun _ => inside_of_mem_chain parent, ih outer older⟩
          · simp only [if_neg older]
            exact List.pairwise_singleton _ _

/-! ## Collecting the names of scopes -/

/-- The first of some scopes that binds a name. -/
def firstOwner? (forest : Forest) (scopes : List Nat) (name : String) : Option Nat :=
  scopes.find? fun scope => (forest.own scope).contains name

theorem mem_names_iff {forest : Forest} {scope : Nat} {name : String} :
    name ∈ forest.names scope ↔ (forest.own scope).contains name = true := by
  rw [Table.contains, Option.isSome_iff_ne_none, Ne, Table.find?_eq_none_iff, Classical.not_not]
  rfl

theorem firstOwner?_eq_none_iff {forest : Forest} {scopes : List Nat} {name : String} :
    forest.firstOwner? scopes name = none ↔ ∀ scope ∈ scopes, name ∉ forest.names scope := by
  simp only [firstOwner?, List.find?_eq_none, mem_names_iff]

theorem firstOwner?_append (forest : Forest) (scopes others : List Nat) (name : String) :
    forest.firstOwner? (scopes ++ others) name =
      (forest.firstOwner? scopes name).or (forest.firstOwner? others name) :=
  List.find?_append

/-- Among some scopes, one name has a nearer owner than another one, or it has the same
owner and comes first by its characters. -/
def Sooner (forest : Forest) (scopes : List Nat) (left right : String) : Prop :=
  ∃ near far, forest.firstOwner? scopes left = some near ∧
    forest.firstOwner? scopes right = some far ∧
    (forest.Inside near far ∨ near = far ∧ left < right)

/-- Names keep their owners, and so their order, when scopes further out are visited. -/
theorem Sooner.append {forest : Forest} {scopes : List Nat} {left right : String}
    (sooner : forest.Sooner scopes left right) (others : List Nat) :
    forest.Sooner (scopes ++ others) left right := by
  obtain ⟨near, far, ofLeft, ofRight, order⟩ := sooner
  refine ⟨near, far, ?_, ?_, order⟩
  · rw [firstOwner?_append, ofLeft, Option.some_or]
  · rw [firstOwner?_append, ofRight, Option.some_or]

/-- The names of the visited scopes, each once, in the order of their owners. -/
structure Collected (forest : Forest) (visited : List Nat) (seen : List String) : Prop where
  complete : ∀ name, name ∈ seen ↔ ∃ scope ∈ visited, name ∈ forest.names scope
  ordered : seen.Pairwise (forest.Sooner visited)

namespace Collected

variable {forest : Forest} {visited : List Nat} {seen : List String}

/-- A name that was seen has its owner among the visited scopes. -/
theorem owned (collected : Collected forest visited seen) {name : String} (old : name ∈ seen) :
    ∃ near ∈ visited, forest.firstOwner? visited name = some near := by
  have bound : forest.firstOwner? visited name ≠ none := by
    obtain ⟨scope, member, bound⟩ := (collected.complete name).mp old
    exact fun none => firstOwner?_eq_none_iff.mp none scope member bound
  obtain ⟨near, found⟩ := Option.ne_none_iff_exists'.mp bound
  exact ⟨near, List.mem_of_find?_eq_some found, found⟩

/-- A name that is new in a scope has that scope as its owner. -/
theorem owned_of_new (collected : Collected forest visited seen) {place : Nat}
    {name : String} (bound : name ∈ forest.names place) (new : name ∉ seen) :
    forest.firstOwner? (visited ++ [place]) name = some place := by
  have before : forest.firstOwner? visited name = none := by
    rw [firstOwner?_eq_none_iff]
    intro scope member boundBefore
    exact new ((collected.complete name).mpr ⟨scope, member, boundBefore⟩)
  rw [firstOwner?_append, before, Option.none_or]
  exact List.find?_cons_of_pos (mem_names_iff.mp bound)

/-- Visiting one more scope adds the names that were not seen before. -/
theorem step (collected : Collected forest visited seen) {place : Nat}
    (sorted : (forest.own place).Ordered) (outside : ∀ near ∈ visited, forest.Inside near place) :
    Collected forest (visited ++ [place])
      (seen ++ (forest.names place).filter (!seen.contains ·)) where
  complete := by
    intro name
    rw [List.mem_append, List.mem_filter]
    constructor
    · rintro (old | ⟨bound, _⟩)
      · obtain ⟨scope, member, bound⟩ := (collected.complete name).mp old
        exact ⟨scope, List.mem_append_left _ member, bound⟩
      · exact ⟨place, by simp, bound⟩
    · rintro ⟨scope, member, bound⟩
      by_cases old : name ∈ seen
      · exact .inl old
      · rcases List.mem_append.mp member with earlier | last
        · exact absurd ((collected.complete name).mpr ⟨scope, earlier, bound⟩) old
        · cases List.mem_singleton.mp last
          exact .inr ⟨bound, by simpa using old⟩
  ordered := by
    have new : ∀ name ∈ (forest.names place).filter (!seen.contains ·),
        forest.firstOwner? (visited ++ [place]) name = some place := by
      intro name member
      obtain ⟨bound, fresh⟩ := List.mem_filter.mp member
      exact collected.owned_of_new bound (by simpa using fresh)
    refine List.pairwise_append.mpr ⟨?_, ?_, ?_⟩
    · exact collected.ordered.imp (·.append [place])
    · have ascending : (forest.names place).Pairwise (· < ·) := List.pairwise_map.mpr sorted
      refine (ascending.sublist List.filter_sublist).imp_of_mem ?_
      intro left right ofLeft ofRight below
      exact ⟨place, place, new left ofLeft, new right ofRight, .inr ⟨rfl, below⟩⟩
    · -- An old name is owned by a visited scope, which stands inside the new one.
      intro left old right added
      obtain ⟨near, member, found⟩ := collected.owned old
      have kept : forest.firstOwner? (visited ++ [place]) left = some near := by
        rw [firstOwner?_append, found, Option.some_or]
      exact ⟨near, place, kept, new right added, .inl (outside near member)⟩

/-- Visiting scopes one after the other, from inside to outside. -/
theorem run (formed : forest.WellFormed) (collected : Collected forest visited seen)
    {others : List Nat} (outward : (visited ++ others).Pairwise forest.Inside) :
    Collected forest (visited ++ others)
      (others.foldl (fun seen scope =>
        seen ++ (forest.names scope).filter (!seen.contains ·)) seen) := by
  induction others generalizing visited seen with
  | nil => simpa using collected
  | cons place rest ih =>
      -- The next scope stands outside of all visited ones, so its new names come last.
      have outside : ∀ near ∈ visited, forest.Inside near place := by
        intro near member
        exact (List.pairwise_append.mp outward).2.2 near member place List.mem_cons_self
      rw [← List.singleton_append, ← List.append_assoc] at outward ⊢
      exact ih (collected.step (formed.ordered place) outside) outward

end Collected

theorem collected_visibleNames {forest : Forest} (formed : forest.WellFormed) (scope : Nat) :
    Collected forest (forest.chain scope) (forest.visibleNames scope) := by
  have nothing : Collected forest [] [] := ⟨by simp, List.Pairwise.nil⟩
  exact nothing.run formed (chain_pairwise_inside forest scope)

/-! ## The list of visible names -/

/-- Seen from a scope, one name is listed before another one: the nearest scope that binds it
stands inside the nearest scope that binds the other name, or both are the same scope and
the name is the smaller one. -/
def ListedBefore (forest : Forest) (scope : Nat) (left right : String) : Prop :=
  ∃ near far, forest.NearestOwner left scope near ∧ forest.NearestOwner right scope far ∧
    (forest.Inside near far ∨ near = far ∧ left < right)

theorem ListedBefore.ne {forest : Forest} (formed : forest.WellFormed) {scope : Nat}
    {left right : String} (before : forest.ListedBefore scope left right) : left ≠ right := by
  rintro rfl
  obtain ⟨near, far, ofNear, ofFar, order⟩ := before
  cases ofNear.unique ofFar
  rcases order with inside | ⟨_, below⟩
  · exact Nat.lt_irrefl _ (inside.lt formed)
  · exact String.lt_irrefl _ below

/-- In every forest that operations build, the names listed for a scope are exactly those
that have a value there. No name is listed twice. Names with nearer owners come first, and
names with the same owner are in ascending order. -/
theorem visibleNames_exact {forest : Forest} (built : forest.Built) (scope : Nat) :
    (forest.visibleNames scope).Nodup ∧
    (∀ name, name ∈ forest.visibleNames scope ↔ (forest.get? scope name).isSome = true) ∧
    (forest.visibleNames scope).Pairwise (forest.ListedBefore scope) := by
  have formed := built.wellFormed
  have collected := collected_visibleNames formed scope
  have listed : (forest.visibleNames scope).Pairwise (forest.ListedBefore scope) := by
    refine collected.ordered.imp ?_
    rintro left right ⟨near, far, ofLeft, ofRight, order⟩
    exact ⟨near, far, (owner?_eq_some_iff formed).mp ofLeft,
      (owner?_eq_some_iff formed).mp ofRight, order⟩
  refine ⟨listed.imp (·.ne formed), ?_, listed⟩
  intro name
  have unbound : forest.owner? scope name = none ↔
      ∀ place ∈ forest.chain scope, name ∉ forest.names place := firstOwner?_eq_none_iff
  rw [collected.complete, Option.isSome_iff_ne_none, Ne, get?_eq_none_iff, unbound]
  simp

/-- A root, a child that binds one of its names anew, and a child of that child. -/
def layeredScopes : Forest :=
  let root := (start.set 0 "a" (.text "outer")).set 0 "b" (.text "outer")
  let middle := ((root.addChild 0).2.set 1 "c" (.text "middle")).set 1 "b" (.text "middle")
  (middle.addChild 1).2.set 2 "d" .null

theorem layeredScopes_built : layeredScopes.Built := by
  have root := (Built.start.set 0 "a" (.text "outer")).set 0 "b" (.text "outer")
  have middle := ((root.child 0 (by decide)).set 1 "c" (.text "middle")).set 1 "b" (.text "middle")
  exact (middle.child 1 (by decide)).set 2 "d" .null

/-- The innermost names come first, and the name that is bound twice is listed once, with the
names of the nearer scope. -/
theorem visibleNames_exact_layeredScopes :
    layeredScopes.Built ∧ layeredScopes.visibleNames 2 = ["d", "b", "c", "a"] ∧
    (layeredScopes.visibleNames 2).Nodup ∧
    (∀ name, name ∈ layeredScopes.visibleNames 2 ↔
      (layeredScopes.get? 2 name).isSome = true) ∧
    (layeredScopes.visibleNames 2).Pairwise (layeredScopes.ListedBefore 2) := by
  have outward : layeredScopes.chain 2 = [2, 1, 0] := by
    have middle : layeredScopes.parent? 2 = some 1 := rfl
    have root : layeredScopes.parent? 1 = some 0 := rfl
    rw [chain, middle]
    simp [chain, root, chain_zero]
  refine ⟨layeredScopes_built, ?_, visibleNames_exact layeredScopes_built 2⟩
  rw [visibleNames, outward]
  decide

end GlyphScript.Forest
