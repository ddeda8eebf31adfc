import GlyphScript.Token.Lexer

/-!
# Tokens stand in reading order

Every token takes at least one character, so each token of a source stands before
the next one (`tokenize_pairwise`).
-/

namespace GlyphScript

namespace Location

/-- Reading order: an earlier line, or an earlier column of the same line. -/
def Before (left right : Location) : Prop :=
  left.line < right.line ∨ left.line = right.line ∧ left.column < right.column

instance (left right : Location) : Decidable (left.Before right) :=
  inferInstanceAs (Decidable (_ ∨ _))

theorem Before.trans {left middle right : Location} (first : left.Before middle)
    (second : middle.Before right) : left.Before right := by
  unfold Before at *
  omega

theorem before_next (here : Location) (c : Char) : here.Before (here.next c) := by
  unfold next Before
  split
  · left
    exact Nat.lt_succ_self _
  · right
    exact ⟨rfl, Nat.lt_succ_self _⟩

/-- A stretch of text that is not empty ends behind the place where it starts. -/
theorem before_after_cons (here : Location) (c : Char) (cs : List Char) :
    here.Before (here.after (c :: cs)) := by
  induction cs generalizing here c with
  | nil => exact before_next here c
  | cons d rest ih => exact (before_next here c).trans (ih (here.next c) d)

end Location

theorem before_of_mem_tokensFrom {here start : Location} {cs : List Char}
    (ahead : start.Before here) {token : Token} (member : token ∈ tokensFrom here cs) :
    start.Before token.location := by
  fun_induction tokensFrom here cs with
  | case1 here =>
      rw [List.mem_singleton.mp member]
      exact ahead
  | case2 here c rest gap ih => exact ih (ahead.trans (here.before_next c)) member
  | case3 here c rest noGap found ih =>
      rcases List.mem_cons.mp member with equal | inRest
      · rw [equal]
        exact ahead
      · exact ih (ahead.trans (here.before_after_cons c _)) inRest

theorem tokensFrom_pairwise (here : Location) (cs : List Char) :
    (tokensFrom here cs).Pairwise fun left right => left.location.Before right.location := by
  fun_induction tokensFrom here cs with
  | case1 here => exact List.pairwise_singleton _ _
  | case2 here c rest gap ih => exact ih
  | case3 here c rest noGap found ih =>
      refine List.pairwise_cons.mpr ⟨?_, ih⟩
      intro token member
      exact before_of_mem_tokensFrom (here.before_after_cons c _) member

theorem tokenize_pairwise (source : List Char) :
    (tokenize source).Pairwise fun left right => left.location.Before right.location :=
  tokensFrom_pairwise .start source

theorem endOfFile_mem_tokensFrom (here : Location) (cs : List Char) :
    ∃ token ∈ tokensFrom here cs, token.kind = .endOfFile := by
  fun_induction tokensFrom here cs with
  | case1 here => exact ⟨_, List.mem_singleton_self _, rfl⟩
  | case2 here c rest gap ih => exact ih
  | case3 here c rest noGap found ih =>
      obtain ⟨token, member, isEnd⟩ := ih
      exact ⟨token, List.mem_cons_of_mem _ member, isEnd⟩

end GlyphScript
