import GlyphScript.Program.Parser
import GlyphScript.Proofs.Stretch

/-!
# Segments and what stands behind them

A segment ends before the next marker, so tokens behind a marker do not change the
segments before it (`segmentsBefore_append`). The only thing that reaches across is
the place of an error: a marker that lacks its name complains about the next token
(`error?_construct`).
-/

namespace GlyphScript

/-- What a name is required for behind a marker. -/
def Marker.nameRole? : Marker → Option NameRole
  | declaration => some .declaration
  | assignment => some .assignment
  | controlVector => some .controlVector
  | block => some .block
  | _ => none

/-- What a name is required for behind a token of this kind. -/
def Kind.nameRole? (kind : Kind) : Option NameRole :=
  kind.marker?.bind Marker.nameRole?

/-! ## Tokens that other tokens follow -/

/-- Kind and place of the first token, or of what stands behind the tokens. -/
def firstBefore (behind : Kind × Location) : List Token → Kind × Location
  | token :: _ => (token.kind, token.location)
  | [] => behind

/-- The segments of tokens behind which something stands. -/
def segmentsBefore (behind : Kind × Location) : List Token → List Segment
  | [] => []
  | token :: rest =>
      match token.kind.marker? with
      | some marker =>
          ⟨marker, token, rest.takeWhile fun token => !token.kind.isMarker,
            firstBefore behind rest⟩ :: segmentsBefore behind rest
      | none => segmentsBefore behind rest

theorem firstOr_eq (stop : Location) (tokens : List Token) :
    firstOr stop tokens = firstBefore (.endOfFile, stop) tokens := by
  cases tokens with
  | nil => rfl
  | cons token rest => rfl

theorem segments_eq (stop : Location) (tokens : List Token) :
    segments stop tokens = segmentsBefore (.endOfFile, stop) tokens := by
  induction tokens with
  | nil => rfl
  | cons token rest ih =>
      cases marker : token.kind.marker? with
      | none => simp only [segments, segmentsBefore, marker, ih]
      | some found => simp only [segments, segmentsBefore, marker, firstOr_eq, ih]

theorem segmentsBefore_cons_marker (behind : Kind × Location) {token : Token} {marker : Marker}
    (isMarker : token.kind.marker? = some marker) (rest : List Token) :
    segmentsBefore behind (token :: rest) =
      ⟨marker, token, rest.takeWhile fun token => !token.kind.isMarker,
        firstBefore behind rest⟩ :: segmentsBefore behind rest := by
  rw [segmentsBefore, isMarker]

theorem segmentsBefore_cons_other (behind : Kind × Location) {token : Token}
    (noMarker : token.kind.marker? = none) (rest : List Token) :
    segmentsBefore behind (token :: rest) = segmentsBefore behind rest := by
  rw [segmentsBefore, noMarker]

/-- No segment starts at tokens that are no markers. -/
theorem segmentsBefore_of_noMarker (behind : Kind × Location) {body : List Token}
    (inside : ∀ other ∈ body, other.kind.isMarker = false) (rest : List Token) :
    segmentsBefore behind (body ++ rest) = segmentsBefore behind rest := by
  induction body with
  | nil => rfl
  | cons other others ih =>
      have noMarker : other.kind.marker? = none :=
        Option.isNone_iff_eq_none.mp
          (Option.isSome_eq_false_iff.mp (inside other List.mem_cons_self))
      rw [List.cons_append, segmentsBefore_cons_other behind noMarker,
        ih fun next inOthers => inside next (List.mem_cons_of_mem other inOthers)]

theorem firstBefore_append (behind : Kind × Location) (tokens : List Token) (head : Token)
    (rest : List Token) :
    firstBefore behind (tokens ++ head :: rest) =
      firstBefore (head.kind, head.location) tokens := by
  cases tokens with
  | nil => rfl
  | cons token others => rfl

/-- Tokens are cut before a marker, whatever stands before or behind it. -/
theorem segmentsBefore_append (behind : Kind × Location) (tokens : List Token) {head : Token}
    (isMarker : head.kind.isMarker = true) (rest : List Token) :
    segmentsBefore behind (tokens ++ head :: rest) =
      segmentsBefore (head.kind, head.location) tokens ++
        segmentsBefore behind (head :: rest) := by
  induction tokens with
  | nil => rfl
  | cons token others ih =>
      have body := @Stretch.takeWhile_append _ (fun token : Token => !token.kind.isMarker) others
        (head :: rest) (by simp [isMarker])
      cases marker : token.kind.marker? with
      | none =>
          rw [List.cons_append, segmentsBefore_cons_other behind marker, ih,
            segmentsBefore_cons_other _ marker]
      | some found =>
          rw [List.cons_append, segmentsBefore_cons_marker behind marker, ih,
            segmentsBefore_cons_marker _ marker, body, firstBefore_append]
          rfl

/-! ## Errors -/

namespace Segment

/-- The body starts with an identifier exactly if the next token is one. -/
def Aligned (segment : Segment) : Prop :=
  (∃ token rest, segment.body = token :: rest ∧ token.kind = .identifier) ↔
    segment.next.1 = .identifier

theorem named_of_identifier {segment : Segment} (aligned : segment.Aligned) (role : NameRole)
    (identifier : segment.next.1 = .identifier) :
    ∃ name rest, segment.named role = .ok (name, rest) := by
  obtain ⟨token, rest, body, isIdentifier⟩ := aligned.mpr identifier
  exact ⟨token.literal, rest, by simp [named, body, isIdentifier]⟩

theorem named_of_other {segment : Segment} (aligned : segment.Aligned) (role : NameRole)
    (other : segment.next.1 ≠ .identifier) :
    segment.named role = .error ⟨role, segment.next.1, segment.next.2⟩ := by
  unfold named
  split
  · next token rest body =>
      split
      · next isIdentifier => exact absurd (aligned.mp ⟨token, rest, body, isIdentifier⟩) other
      · rfl
  · rfl

end Segment

theorem aligned_of_mem {behind : Kind × Location} (noName : behind.1 ≠ .identifier)
    {tokens : List Token} {segment : Segment} (member : segment ∈ segmentsBefore behind tokens) :
    segment.Aligned := by
  induction tokens with
  | nil => simp [segmentsBefore] at member
  | cons token rest ih =>
      cases marker : token.kind.marker? with
      | none =>
          rw [segmentsBefore_cons_other behind marker] at member
          exact ih member
      | some found =>
          rw [segmentsBefore_cons_marker behind marker] at member
          rcases List.mem_cons.mp member with equal | inRest
          · subst equal
            cases rest with
            | nil => simp [Segment.Aligned, firstBefore, noName]
            | cons next others =>
                constructor
                · rintro ⟨first, behindFirst, body, isIdentifier⟩
                  simp only [List.takeWhile_cons] at body
                  split at body
                  · rw [(List.cons.inj body).1]
                    exact isIdentifier
                  · cases body
                · intro isIdentifier
                  simp only [firstBefore] at isIdentifier
                  refine ⟨next, others.takeWhile fun token => !token.kind.isMarker, ?_,
                    isIdentifier⟩
                  simp only
                  rw [List.takeWhile_cons, if_pos (by rw [isIdentifier]; rfl)]
          · exact ih inRest

/-- The error of a marker that requires a name, and of the token behind it. -/
def missingName? (role? : Option NameRole) (next : Kind × Location) : Option ParseError :=
  role?.bind fun role =>
    if next.1 = .identifier then none else some ⟨role, next.1, next.2⟩

theorem error?_of_named {segment : Segment} (aligned : segment.Aligned) (role : NameRole)
    (build : String × List Token → Construct) :
    Item.error? ((segment.named role).map build) = missingName? (some role) segment.next := by
  by_cases identifier : segment.next.1 = .identifier
  · obtain ⟨name, rest, named⟩ := segment.named_of_identifier aligned role identifier
    rw [named, missingName?, Option.bind_some, if_pos identifier]
    rfl
  · rw [segment.named_of_other aligned role identifier, missingName?, Option.bind_some,
      if_neg identifier]
    rfl

/-- A segment gives an error exactly if its marker requires a name and the next
token is no identifier. -/
theorem error?_construct {segment : Segment} (aligned : segment.Aligned) :
    Item.error? segment.construct = missingName? segment.marker.nameRole? segment.next := by
  unfold Segment.construct
  cases segment.marker with
  | declaration => exact error?_of_named aligned .declaration _
  | assignment => exact error?_of_named aligned .assignment _
  | controlVector => exact error?_of_named aligned .controlVector _
  | block => exact error?_of_named aligned .block _
  | returned => rfl
  | atomicBlock => rfl
  | capability capability =>
      cases capability with
      | block => rfl
      | vector => rfl
      | var => rfl

end GlyphScript
