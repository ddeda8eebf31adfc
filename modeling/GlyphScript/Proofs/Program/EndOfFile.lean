import GlyphScript.Proofs.Program.Constructs

/-!
# Nothing behind the end of the file counts

A pass over the tokens stops at the first token that ends the file, whatever stands
behind it. It looks at no token behind that one, and every loop of it ends.

Results:
1. `Draft.complete_cons`: filing constructs one by one gives each block its return.
2. `program_reads`: a pass over all tokens.
3. `Ends.parse_eq`, `parse_agrees`: it gives the program and the errors of the segments.
4. `parseTokens_stops_at_end`: all this about the first end of the file.
-/

namespace GlyphScript

/-! ## Filing constructs one by one -/

namespace Draft

/-- The program of a draft and of the items that are still to be filed. -/
def complete (draft : Draft) : List Item → Program
  | .ok (.returned statement) :: rest =>
      (gather rest).foldl Program.add (draft.fileReturn statement)
  | items => (gather items).foldl Program.add draft.program

theorem complete_nil (draft : Draft) : draft.complete [] = draft.program := by
  simp [complete, gather]

theorem complete_other (draft : Draft) {item : Item} (other : item.isReturn = false)
    (rest : List Item) :
    draft.complete (item :: rest) = (gather (item :: rest)).foldl Program.add draft.program := by
  cases item with
  | error error => rfl
  | ok construct =>
      cases construct with
      | returned statement => cases other
      | _ => rfl

theorem complete_settled (program : Program) (items : List Item) :
    complete ⟨program, false⟩ items = (gather items).foldl Program.add program := by
  unfold complete
  split
  · rw [gather]
    · rfl
    · rintro block ⟨⟩
  · rfl

/-- A return that comes right behind a block is filed as if it had been read with the
block. -/
theorem complete_block (program : Program) {block : Block} (waiting : block.emit = none)
    (items : List Item) :
    complete ⟨program.add (.block block), true⟩ items =
      (gather (withoutReturn items)).foldl Program.add
        (program.add (.block { block with emit := leadingReturn? items })) := by
  obtain ⟨name, params, body, emit, location⟩ := block
  subst waiting
  cases items with
  | nil => rfl
  | cons item rest =>
      rw [withoutReturn_cons, leadingReturn?_cons]
      cases returned : item.isReturn with
      | true =>
          obtain ⟨statement, rfl⟩ := Item.eq_of_isReturn returned
          simp [complete, fileReturn, Program.add, Item.return?, Construct.return?,
            Except.toOption]
      | false =>
          have absent : item.return? = none :=
            Option.isNone_iff_eq_none.mp (Option.isSome_eq_false_iff.mp returned)
          rw [complete_other _ returned, absent]
          rfl

/-- Items are filed one by one. -/
theorem complete_cons (draft : Draft) {item : Item} (rest : List Item)
    (waiting : ∀ block, item = .ok (.block block) → block.emit = none) :
    draft.complete (item :: rest) = (draft.file (item.opened rest)).complete (item.left rest) := by
  cases item with
  | error error =>
      rw [complete_other draft rfl, gather]
      exact (complete_settled draft.program rest).symm
  | ok construct =>
      cases construct with
      | returned statement => exact (complete_settled (draft.fileReturn statement) rest).symm
      | block block =>
          rw [complete_other draft rfl, gather]
          exact (@complete_block draft.program
            { block with
              body := ((rest.takeWhile Item.isCapability).filterMap Item.capability?).map
                .capabilityBlock }
            (waiting block rfl) (rest.dropWhile Item.isCapability)).symm
      | _ =>
          rw [complete_other draft rfl, gather]
          · exact (complete_settled (draft.program.add _) rest).symm
          · rintro block ⟨⟩

end Draft

namespace Descent

/-! ## Programs -/

/-- Blocks wait for a return when their segment has been read. -/
theorem emit_construct (segment : Segment) :
    ∀ block, segment.construct = .ok (.block block) → block.emit = none := by
  intro block read
  have isBlock : segment.marker = .block := (segment.marker_of_construct _ read).symm
  unfold Segment.construct at read
  rw [isBlock] at read
  cases named : segment.named .block with
  | error error =>
      simp only [named] at read
      cases read
  | ok pair =>
      simp only [named] at read
      cases read
      rfl

/-- A marker is filed with what it opens. -/
theorem programRound_marker {stop token : Token} (noEnd : token.kind ≠ .endOfFile)
    {marker : Marker} (isMarker : token.kind.marker? = some marker) {rest left : List Token}
    {errors : List ParseError} {found : Option Construct}
    (reads : Reads stop (constructBehind marker token) rest errors found left) (draft : Draft) :
    Reads stop (programRound draft) (token :: rest) errors (.inr (draft.file found)) left := by
  refine (look_reads stop _).andThen ?_
  rw [nextToken_cons, if_neg noEnd, isMarker, ← List.append_nil errors]
  exact ((advance_reads noEnd rest).andThen reads).bind (.pure stop left _)

/-- A pass over all tokens ends at the end of the file. -/
theorem program_reads {stop : Token} (isEnd : stop.kind = .endOfFile) {ahead : List Token}
    (noEnd : ∀ token ∈ ahead, token.kind ≠ .endOfFile) (draft : Draft) :
    Reads stop (program draft) ahead ((itemsUpTo stop ahead).filterMap Item.error?)
      (draft.complete (itemsUpTo stop ahead)) [] := by
  -- Each round moves on: behind the next token, or behind what a marker opens.
  induction size : ahead.length using Nat.strongRecOn generalizing ahead draft with
  | ind size ih =>
  subst size
  cases ahead with
  | nil =>
      show Reads stop (program draft) [] [] (draft.complete []) []
      rw [draft.complete_nil]
      refine .lastRound ((look_reads stop []).andThen ?_)
      rw [nextToken_nil, if_pos isEnd]
      exact .pure stop [] _
  | cons token rest =>
      obtain ⟨first, restNoEnd⟩ := List.forall_mem_cons.mp noEnd
      cases found : token.kind.marker? with
      | none =>
          have items : itemsUpTo stop (token :: rest) = itemsUpTo stop rest := by
            rw [itemsUpTo, itemsBefore, segmentsBefore_cons_other _ found]
            rfl
          have round : Reads stop (programRound draft) (token :: rest) [] (.inr draft) rest := by
            refine (look_reads stop _).andThen ?_
            rw [nextToken_cons, if_neg first, found]
            exact (advance_reads first rest).andThen (.pure stop rest _)
          rw [items]
          exact round.nextRound (ih rest.length (Nat.lt_succ_self _) restNoEnd draft rfl)
      | some marker =>
          obtain ⟨body, others, rfl, cut⟩ := Cut.exists_of_noEnd isEnd restNoEnd
          have othersNoEnd := (List.forall_mem_append.mp restNoEnd).2
          obtain ⟨left, shorter, leaves, reads⟩ := construct_finds cut othersNoEnd marker token
          rw [cut.itemsUpTo_cons found, draft.complete_cons _ (emit_construct _), ← leaves,
            filterMap_cons_toList, ← Item.filterMap_error?_left, ← leaves]
          refine (programRound_marker first found reads draft).nextRound ?_
          exact ih left.length (Nat.lt_succ_of_le shorter.length_le)
            (fun other member => restNoEnd other (shorter.mem member)) _ rfl

/-! ## The end of the file -/

/-- The tokens that count are `ahead`, and behind them `stop` is the first token that
ends the file. -/
structure Ends (tokens ahead : List Token) (stop : Token) : Prop where
  isEnd : stop.kind = .endOfFile
  noEnd : ∀ token ∈ ahead, token.kind ≠ .endOfFile
  split : ∃ behind, ended tokens = ahead ++ stop :: behind
  kept : significant tokens = ⟨ahead, stop.location⟩

/-- The first end-of-file token of some tokens ends the file. -/
theorem ends_of_end {before : List Token} {stop : Token}
    (noEnd : ∀ token ∈ before, token.kind ≠ .endOfFile) (isEnd : stop.kind = .endOfFile)
    (behind : List Token) :
    Ends (before ++ stop :: behind) (before.filter fun token => !token.kind.isTrivia) stop := by
  have keptNoEnd : ∀ token ∈ before.filter fun token => !token.kind.isTrivia,
      token.kind ≠ .endOfFile := by
    intro token member
    exact noEnd token (List.mem_filter.mp member).1
  have kept : (before ++ stop :: behind).filter (fun token => !token.kind.isTrivia) =
      before.filter (fun token => !token.kind.isTrivia) ++
        stop :: behind.filter fun token => !token.kind.isTrivia := by
    rw [List.filter_append, List.filter_cons_of_pos (by simp [isEnd, Kind.isTrivia])]
  refine ⟨isEnd, keptNoEnd, ?_, ?_⟩
  · simp only [ended, kept]
    split
    · exact ⟨_, rfl⟩
    · exact ⟨_, List.append_assoc _ _ _⟩
  · obtain ⟨taken, dropped⟩ := @Stretch.cut_append _
      (fun token : Token => decide (token.kind ≠ .endOfFile)) _
      (stop :: behind.filter fun token => !token.kind.isTrivia)
      (fun token member => decide_eq_true (keptNoEnd token member)) (by simp [isEnd])
    simp only [significant, kept, taken, dropped]

/-- Without an end-of-file token, one is added. -/
theorem ends_of_noEnd {tokens : List Token}
    (noEnd : ∀ token ∈ tokens, token.kind ≠ .endOfFile) :
    let kept := tokens.filter fun token => !token.kind.isTrivia
    Ends tokens kept
      ⟨.endOfFile, "", none, (kept.getLast?.map Token.location).getD ⟨0, 0⟩⟩ := by
  intro kept
  have keptNoEnd : ∀ token ∈ kept, token.kind ≠ .endOfFile := by
    intro token member
    exact noEnd token (List.mem_filter.mp member).1
  refine ⟨rfl, keptNoEnd, ⟨[], ?_⟩, significant_of_noEnd noEnd⟩
  refine if_neg ?_
  intro last
  obtain ⟨token, isLast, isEnd⟩ := Option.map_eq_some_iff.mp last
  exact keptNoEnd token (List.mem_of_getLast? isLast) isEnd

theorem exists_ends (tokens : List Token) : ∃ ahead stop, Ends tokens ahead stop := by
  have parts := @List.takeWhile_append_dropWhile _
    (fun token : Token => decide (token.kind ≠ .endOfFile)) tokens
  have isEnd := List.head?_dropWhile_not
    (fun token : Token => decide (token.kind ≠ .endOfFile)) tokens
  have noEnd : ∀ token ∈ tokens.takeWhile fun token => token.kind ≠ .endOfFile,
      token.kind ≠ .endOfFile := by
    intro token member
    simpa using List.all_eq_true.mp List.all_takeWhile token member
  cases found : tokens.dropWhile fun token => token.kind ≠ .endOfFile with
  | nil =>
      rw [found, List.append_nil] at parts
      rw [← parts]
      exact ⟨_, _, ends_of_noEnd noEnd⟩
  | cons stop behind =>
      rw [found] at isEnd parts
      rw [← parts]
      exact ⟨_, _, ends_of_end noEnd (by simpa using isEnd) behind⟩

namespace Ends

variable {tokens ahead : List Token} {stop : Token}

/-- A pass over all tokens ends at the first end of the file. It has stood nowhere behind
that, and gives the program and the errors that the segments give. -/
theorem parse_eq (ends : Ends tokens ahead stop) :
    ∃ last, parse tokens = Part.some ((parseTokens tokens).program, last) ∧
      last.errors = (parseTokens tokens).errors ∧ last.position = ahead.length ∧
      ∀ place ∈ last.trail, place ≤ ahead.length := by
  obtain ⟨behind, split⟩ := ends.split
  obtain ⟨last, given, -, moved, added, stood⟩ :=
    program_reads ends.isEnd ends.noEnd ⟨.empty, false⟩ (ended tokens) behind ⟨0, [], []⟩ split
  have items : itemsUpTo stop ahead =
      (segments (significant tokens).stop (significant tokens).tokens).map Segment.construct := by
    rw [segments_eq, ends.kept, itemsUpTo, itemsBefore, ends.isEnd]
  rw [Draft.complete_settled, items] at given
  rw [items] at added
  refine ⟨last, given, added, by simpa using moved, ?_⟩
  intro place member
  simpa using stood place member

/-- Wherever it is called before the end of the file, whatever opens a construct moves
on, but not behind the end. -/
theorem construct_advances (ends : Ends tokens ahead stop) (marker : Marker) {cursor : Cursor}
    (before : cursor.position < ahead.length) :
    ∃ found later, construct marker (ended tokens) cursor = Part.some (found, later) ∧
      cursor.position < later.position ∧ later.position ≤ ahead.length ∧
      ∀ place ∈ later.trail, place ∈ cursor.trail ∨ place ≤ ahead.length := by
  obtain ⟨behind, split⟩ := ends.split
  have size : (ahead.drop cursor.position).length = ahead.length - cursor.position :=
    List.length_drop
  have noEnd : ∀ token ∈ ahead.drop cursor.position, token.kind ≠ .endOfFile := by
    intro token member
    exact ends.noEnd token (List.mem_of_mem_drop member)
  have stands : (ended tokens).drop cursor.position =
      ahead.drop cursor.position ++ stop :: behind := by
    rw [split, List.drop_append_of_le_length (Nat.le_of_lt before)]
  rw [List.drop_eq_getElem_cons before] at size noEnd stands
  obtain ⟨errors, found, left, shorter, reads⟩ := construct_reads ends.isEnd noEnd marker
  obtain ⟨later, given, -, moved, -, stood⟩ := reads (ended tokens) behind cursor stands
  have shorterThan := shorter.length_le
  rw [size] at moved stood
  rw [List.length_cons] at size
  refine ⟨found, later, given, by omega, by omega, ?_⟩
  intro place member
  refine (stood place member).imp_right ?_
  omega

end Ends

/-- For all tokens, a pass gives the program and the errors that the segments give. -/
theorem parse_agrees (tokens : List Token) :
    ∃ last, parse tokens = Part.some ((parseTokens tokens).program, last) ∧
      last.errors = (parseTokens tokens).errors := by
  obtain ⟨ahead, stop, ends⟩ := exists_ends tokens
  obtain ⟨last, given, errors, -⟩ := ends.parse_eq
  exact ⟨last, given, errors⟩

end Descent

/-- Nothing behind the first token that ends the file changes what is parsed. A pass over
all tokens, of which `kept.length` come before that one, ends there with the same program
and the same errors, and has stood nowhere behind it. Called at any place before it,
whatever opens a construct ends too: it moves on, and not behind that token. -/
theorem parseTokens_stops_at_end {before : List Token} {stop : Token}
    (noEnd : ∀ token ∈ before, token.kind ≠ .endOfFile) (isEnd : stop.kind = .endOfFile)
    (behind : List Token) :
    let tokens := Descent.ended (before ++ [stop] ++ behind)
    let kept := before.filter fun token => !token.kind.isTrivia
    let parsed := parseTokens (before ++ [stop])
    parseTokens (before ++ [stop] ++ behind) = parsed ∧
    tokens.take kept.length = kept ∧ tokens[kept.length]? = some stop ∧
    (∃ last, Descent.parse (before ++ [stop] ++ behind) = Part.some (parsed.program, last) ∧
      last.errors = parsed.errors ∧ last.position = kept.length ∧
      ∀ place ∈ last.trail, place ≤ kept.length) ∧
    ∀ marker cursor, cursor.position < kept.length →
      ∃ found later, Descent.construct marker tokens cursor = Part.some (found, later) ∧
        cursor.position < later.position ∧ later.position ≤ kept.length ∧
        ∀ place ∈ later.trail, place ∈ cursor.trail ∨ place ≤ kept.length := by
  intro tokens kept parsed
  have whole : before ++ [stop] ++ behind = before ++ stop :: behind := List.append_assoc _ _ _
  have alone := Descent.ends_of_end noEnd isEnd []
  have ends := Descent.ends_of_end noEnd isEnd behind
  rw [← whole] at ends
  have same : parseTokens (before ++ [stop] ++ behind) = parsed := by
    simp only [parsed, parseTokens, ends.kept, alone.kept]
  have agrees := ends.parse_eq
  rw [same] at agrees
  obtain ⟨others, split⟩ := ends.split
  have shape : tokens = kept ++ stop :: others := split
  have starts : tokens.take kept.length = kept := by rw [shape, List.take_left]
  have isNext : tokens[kept.length]? = some stop := by simp [shape]
  exact ⟨same, starts, isNext, agrees, fun marker cursor => ends.construct_advances marker⟩

/-- A capability of a block, cut short behind a reference without a name. -/
def openReference : List Token :=
  [⟨.glyph .xul, "⟁Xul⟁", none, ⟨1, 1⟩⟩, ⟨.identifier, "fold", none, ⟨1, 7⟩⟩,
    ⟨.newline, "\n", none, ⟨1, 11⟩⟩, ⟨.capability .block, "C@@L BLOCK", none, ⟨2, 1⟩⟩,
    ⟨.atom, "@depth", none, ⟨3, 1⟩⟩, ⟨.operator .colon, ":", none, ⟨3, 7⟩⟩,
    ⟨.glyph .yax, "⟁Yax⟁", none, ⟨3, 9⟩⟩]

/-- The end of a file, with a text and a value of its own. -/
def loadedEnd : Token :=
  ⟨.endOfFile, "depth", some (.text "depth"), ⟨3, 14⟩⟩

/-- The name that the reference lacks, and a declaration between two more ends. -/
def strayTokens : List Token :=
  [⟨.identifier, "depth", none, ⟨4, 1⟩⟩, ⟨.endOfFile, "", none, ⟨5, 1⟩⟩,
    ⟨.glyph .pop, "⟁Pop⟁", none, ⟨6, 1⟩⟩, ⟨.endOfFile, "", none, ⟨7, 1⟩⟩]

theorem parseTokens_stops_at_end_openReference :
    let tokens := Descent.ended (openReference ++ [loadedEnd] ++ strayTokens)
    let parsed := parseTokens (openReference ++ [loadedEnd])
    parseTokens (openReference ++ [loadedEnd] ++ strayTokens) = parsed ∧
    tokens.take 6 = (openReference.filter fun token => !token.kind.isTrivia) ∧
    tokens[6]? = some loadedEnd ∧
    (∃ last, Descent.parse (openReference ++ [loadedEnd] ++ strayTokens) =
        Part.some (parsed.program, last) ∧
      last.errors = parsed.errors ∧ last.position = 6 ∧ ∀ place ∈ last.trail, place ≤ 6) ∧
    ∀ marker cursor, cursor.position < 6 →
      ∃ found later, Descent.construct marker tokens cursor = Part.some (found, later) ∧
        cursor.position < later.position ∧ later.position ≤ 6 ∧
        ∀ place ∈ later.trail, place ∈ cursor.trail ∨ place ≤ 6 :=
  @parseTokens_stops_at_end openReference loadedEnd (by decide) rfl strayTokens

end GlyphScript
