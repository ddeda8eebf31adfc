import Mathlib.Data.PFun
import GlyphScript.Program.Parser

/-!
# Parsing in one pass

A program can also be read by recursive descent, without cutting its tokens into
segments: a cursor moves over the tokens, and each part of a construct looks at the
next token and decides whether to move behind it. The loops carry no bound of their
own. A pass that never ends has no result, nor has one that looks for a token where
there is none.

Results:
1. `Reads`, `Reads.bind`: what a part of a pass makes of the tokens before the end of the
   file, and that parts one after the other stay before that end.
2. `loop_eq`, `Reads.lastRound`, `Reads.nextRound`: loops, round by round.
3. `look_reads`, `advance_reads`: the two steps that every part is made of.
-/

namespace GlyphScript

/-- Nothing from a token of this kind on belongs to the construct before it. -/
def Kind.closes (kind : Kind) : Bool :=
  kind == .endOfFile || kind.isMarker

/-- Where a pass over the tokens stands. -/
structure Cursor where
  position : Nat
  /-- The positions where the pass stood whenever it looked or moved, the last one
  first. -/
  trail : List Nat
  errors : List ParseError

/-- A part of a pass over the tokens. It has no result if it looks for a token where
there is none, or if it never ends. -/
abbrev Descent := ReaderT (List Token) (StateT Cursor Part)

namespace Descent

/-! ## Moving the cursor -/

/-- The next token. Behind the last token that one is seen again. -/
def look : Descent Token := fun tokens cursor => do
  let token ← Part.ofOption tokens[min cursor.position (tokens.length - 1)]?
  return (token, { cursor with trail := cursor.position :: cursor.trail })

/-- Moves behind the next token, whatever it is. -/
def move : Descent Unit := fun _ cursor =>
  return ((), { cursor with
    position := cursor.position + 1
    trail := (cursor.position + 1) :: cursor.trail })

def report (error : ParseError) : Descent Unit := fun _ cursor =>
  return ((), { cursor with errors := cursor.errors ++ [error] })

/-- Moves behind the next token, but never behind the end of the file. -/
def advance : Descent Token := do
  let token ← look
  if token.kind = .endOfFile then return token
  else
    move
    return token

/-- Moves behind the next token if it is of this kind. -/
def accept (kind : Kind) : Descent Bool := do
  if (← look).kind = kind then
    let _ ← advance
    return true
  else return false

def atConstructEnd : Descent Bool := do
  return (← look).kind.closes

/-- Goes on from round to round until one gives a result, however many that takes. -/
def loop {σ α : Type} (round : σ → Descent (α ⊕ σ)) (state : σ) : Descent α :=
  fun tokens cursor =>
    PFun.fix (fun (here : σ × Cursor) =>
      (round here.1 tokens here.2).map fun (outcome, later) =>
        outcome.map (·, later) (·, later)) (state, cursor)

/-! ## Values and clauses -/

def reference : Descent Value := do
  if (← look).isName then return .text ("@" ++ withoutAtSigns (← advance).literal)
  else return .null

def value : Descent Value := do
  match (← look).kind with
  | .json | .string | .number => return (← advance).value.getD .null
  | .identifier | .atom => return .text (← advance).literal
  | .keyword .trueWord =>
      let _ ← advance
      return .bool true
  | .keyword .falseWord =>
      let _ ← advance
      return .bool false
  | .keyword .nullWord =>
      let _ ← advance
      return .null
  | .glyph .yax =>
      let _ ← advance
      reference
  | _ => return .null

/-- The value of a parameter, from behind its atom on. -/
def argument : Descent Value := do
  if ← accept (.operator .colon) then value
  else if (← look).kind = .atom then return .null
  else value

/-- A parameter or a JSON literal, or a token that is passed over. -/
def clause : Descent (Option Clause) := do
  match (← look).kind with
  | .atom =>
      let atom ← advance
      return some (.param (withoutAtSigns atom.literal) (← argument))
  | .json => return some (.data (← advance).value)
  | _ =>
      let _ ← advance
      return none

def collectRound (found : List Clause) : Descent (List Clause ⊕ List Clause) := do
  if ← atConstructEnd then return .inl found
  else
    let part ← clause
    return .inr (found ++ part.toList)

/-- The clauses up to the end of the construct, behind those that were found before. -/
def collect (found : List Clause) : Descent (List Clause) :=
  loop collectRound found

/-! ## Constructs -/

/-- Reads on behind a name. Without a name there is an error and no construct. -/
def named (role : NameRole) (read : String → Descent (Option Construct)) :
    Descent (Option Construct) := do
  let token ← look
  if token.kind = .identifier then
    let name ← advance
    read name.literal
  else
    report ⟨role, token.kind, token.location⟩
    return none

def declared : Descent Value := do
  if (← look).kind = .json then return (← advance).value.getD .null
  else return .null

def assigned : Descent Value := do
  let _ ← accept (.operator .assign)
  value

def returned : Descent Value := do
  if (← look).kind = .atom then
    let atom ← advance
    return .dict [(withoutAtSigns atom.literal, ← argument)]
  else value

/-- A capability, from behind its marker on. -/
def capabilityBlock (marker : Token) : Descent CapabilityBlock := do
  let parts ← collect []
  return ⟨marker.constructName?.getD "unknown", Clause.handler? parts, Clause.params parts,
    Clause.literals parts, marker.location⟩

/-- The clauses of a block, and the capabilities in it. -/
abbrev BlockParts := List Clause × List CapabilityBlock

def blockRound (parts : BlockParts) : Descent (BlockParts ⊕ BlockParts) := do
  if (← look).kind = .capability .block then
    let marker ← advance
    let block ← capabilityBlock marker
    return .inr (parts.1, parts.2 ++ [block])
  else if ← atConstructEnd then return .inl parts
  else
    let part ← clause
    return .inr (parts.1 ++ part.toList, parts.2)

/-- The parts of a block up to a marker that does not belong to it, behind those that were
found before. -/
def blockParts (parts : BlockParts) : Descent BlockParts :=
  loop blockRound parts

/-- What a marker opens, from behind its token on. -/
def constructBehind (marker : Marker) (token : Token) : Descent (Option Construct) :=
  match marker with
  | .declaration => named .declaration fun name =>
      return some (.declaration ⟨name, ← declared, token.location⟩)
  | .assignment => named .assignment fun name =>
      return some (.assignment ⟨name, ← assigned, token.location⟩)
  | .controlVector => named .controlVector fun name =>
      return some (.controlVector ⟨name, Clause.params (← collect []), [], token.location⟩)
  | .block => named .block fun name => do
      let (found, nested) ← blockParts ([], [])
      return some (.block ⟨name, Clause.params found, nested.map .capabilityBlock, none,
        token.location⟩)
  | .returned => return some (.returned ⟨← returned, token.location⟩)
  | .atomicBlock =>
      return some (.atomicBlock ⟨token.constructName?.getD "unknown",
        Clause.content (← collect []), token.location⟩)
  | .capability .block => return some (.capabilityBlock (← capabilityBlock token))
  | .capability .vector =>
      return some (.capabilityVector ⟨token.constructName?.getD "@unknown",
        Clause.params (← collect []), token.location⟩)
  | .capability .var => do
      let params := Clause.params (← collect [])
      return some (.capabilityVariable ⟨token.constructName?.getD "@unknown",
        (params.find? "default").getD .null,
        ((params.find? "scope").bind Value.text?).getD "global", token.location⟩)

/-- What a marker opens. The next token is taken for that marker, whatever it is. -/
def construct (marker : Marker) : Descent (Option Construct) := do
  let token ← advance
  constructBehind marker token

end Descent

/-! ## Programs -/

/-- What has been filed of a program. -/
structure Draft where
  program : Program
  /-- Only passed-over tokens have come behind the last block. -/
  afterBlock : Bool

namespace Draft

/-- Files a return: right behind a block it is the value of that block. -/
def fileReturn (draft : Draft) (statement : Return) : Program :=
  match draft.afterBlock, draft.program.blocks.getLast? with
  | true, some block =>
      match block.emit with
      | none =>
          { draft.program with
            blocks := draft.program.blocks.dropLast ++
              [{ block with emit := some statement.value }] }
      | some _ => draft.program.add (.returned statement)
  | _, _ => draft.program.add (.returned statement)

/-- Files what a marker gave, if it gave a construct. -/
def file (draft : Draft) : Option Construct → Draft
  | some (.returned statement) => ⟨draft.fileReturn statement, false⟩
  | some (.block block) => ⟨draft.program.add (.block block), true⟩
  | some construct => ⟨draft.program.add construct, false⟩
  | none => ⟨draft.program, false⟩

end Draft

namespace Descent

def programRound (draft : Draft) : Descent (Program ⊕ Draft) := do
  let token ← look
  if token.kind = .endOfFile then return .inl draft.program
  else
    match token.kind.marker? with
    | some marker =>
        let found ← construct marker
        return .inr (draft.file found)
    | none =>
        let _ ← advance
        return .inr draft

def program (draft : Draft) : Descent Program :=
  loop programRound draft

/-- The tokens that count, with an end-of-file token as the last one. -/
def ended (tokens : List Token) : List Token :=
  let kept := tokens.filter fun token => !token.kind.isTrivia
  if kept.getLast?.map Token.kind = some .endOfFile then kept
  else kept ++ [⟨.endOfFile, "", none, (kept.getLast?.map Token.location).getD ⟨0, 0⟩⟩]

/-- A pass over all tokens, from the first one on. -/
def parse (tokens : List Token) : Part (Program × Cursor) :=
  program ⟨.empty, false⟩ (ended tokens) ⟨0, [], []⟩

/-! ## What a part of a pass reads -/

/-- The token that comes next if `stop` stands behind `ahead`. -/
def nextToken (stop : Token) : List Token → Token
  | token :: _ => token
  | [] => stop

@[simp] theorem nextToken_cons (stop token : Token) (rest : List Token) :
    nextToken stop (token :: rest) = token :=
  rfl

@[simp] theorem nextToken_nil (stop : Token) : nextToken stop [] = stop :=
  rfl

/-- Where the tokens `ahead` stand between the cursor and an end of the file, `stop`, the
part of a pass ends. It gives `result`, adds `errors` and leaves `rest` of these tokens.
It has stood nowhere behind `stop`. -/
def Reads {α : Type} (stop : Token) (part : Descent α) (ahead : List Token)
    (errors : List ParseError) (result : α) (rest : List Token) : Prop :=
  ∀ (tokens behind : List Token) (cursor : Cursor),
    tokens.drop cursor.position = ahead ++ stop :: behind →
    ∃ later : Cursor, part tokens cursor = Part.some (result, later) ∧
      tokens.drop later.position = rest ++ stop :: behind ∧
      later.position + rest.length = cursor.position + ahead.length ∧
      later.errors = cursor.errors ++ errors ∧
      ∀ place ∈ later.trail, place ∈ cursor.trail ∨ place ≤ cursor.position + ahead.length

namespace Reads

variable {α β : Type} {stop : Token} {part : Descent α} {next : α → Descent β}
  {ahead middle rest : List Token} {errors more : List ParseError} {a : α} {b : β}

protected theorem pure (stop : Token) (ahead : List Token) (a : α) :
    Reads stop (pure a) ahead [] a ahead := by
  intro tokens behind cursor stands
  exact ⟨cursor, rfl, stands, rfl, (List.append_nil _).symm, fun place seen => .inl seen⟩

/-- One part after the other. Both have the same end of the file before them. -/
protected theorem bind (first : Reads stop part ahead errors a middle)
    (second : Reads stop (next a) middle more b rest) :
    Reads stop (part >>= next) ahead (errors ++ more) b rest := by
  intro tokens behind cursor stands
  obtain ⟨between, given, standsBetween, moved, added, stoodFirst⟩ :=
    first tokens behind cursor stands
  obtain ⟨later, givenNext, standsLater, movedNext, addedNext, stoodSecond⟩ :=
    second tokens behind between standsBetween
  refine ⟨later, ?_, standsLater, movedNext.trans moved, ?_, ?_⟩
  · show (part tokens cursor).bind (fun pair => next pair.1 tokens pair.2) = _
    rw [given, Part.bind_some]
    exact givenNext
  · rw [addedNext, added, List.append_assoc]
  · intro place seen
    rcases stoodSecond place seen with old | near
    · exact stoodFirst place old
    · exact .inr (moved ▸ near)

theorem andThen (first : Reads stop part ahead [] a middle)
    (second : Reads stop (next a) middle errors b rest) :
    Reads stop (part >>= next) ahead errors b rest :=
  first.bind second

end Reads

/-- A loop is its first round, and the loop from there if that round gives no result. -/
theorem loop_eq {σ α : Type} (round : σ → Descent (α ⊕ σ)) (state : σ) :
    loop round state = round state >>= Sum.elim pure (loop round) := by
  funext tokens cursor
  refine Part.ext fun result => PFun.mem_fix_iff.trans ?_
  show _ ↔ result ∈ (round state tokens cursor).bind fun pair =>
    Sum.elim pure (loop round) pair.1 tokens pair.2
  rw [Part.mem_bind_iff]
  constructor
  · rintro (stops | ⟨next, goes, given⟩)
    · obtain ⟨⟨outcome, later⟩, played, same⟩ := (Part.mem_map_iff _).mp stops
      cases outcome with
      | inl a =>
          cases same
          exact ⟨_, played, Part.mem_some _⟩
      | inr other => cases same
    · obtain ⟨⟨outcome, later⟩, played, same⟩ := (Part.mem_map_iff _).mp goes
      cases outcome with
      | inl a => cases same
      | inr other =>
          cases same
          exact ⟨_, played, given⟩
  · rintro ⟨⟨outcome, later⟩, played, given⟩
    cases outcome with
    | inl a =>
        rw [Part.mem_some_iff.mp given]
        exact .inl (Part.mem_map _ played)
    | inr other => exact .inr ⟨_, Part.mem_map _ played, given⟩

namespace Reads

variable {σ α : Type} {stop : Token} {round : σ → Descent (α ⊕ σ)} {state next : σ}
  {ahead middle rest : List Token} {errors more : List ParseError} {a : α}

theorem lastRound (reads : Reads stop (round state) ahead errors (.inl a) rest) :
    Reads stop (loop round state) ahead errors a rest := by
  rw [loop_eq, ← List.append_nil errors]
  exact reads.bind (.pure stop rest a)

theorem nextRound (reads : Reads stop (round state) ahead errors (.inr next) middle)
    (others : Reads stop (loop round next) middle more a rest) :
    Reads stop (loop round state) ahead (errors ++ more) a rest := by
  rw [loop_eq]
  exact reads.bind others

end Reads

section

variable {stop token : Token} {ahead rest : List Token}

theorem look_of_drop {tokens behind : List Token} {cursor : Cursor}
    (stands : tokens.drop cursor.position = token :: behind) :
    look tokens cursor =
      Part.some (token, { cursor with trail := cursor.position :: cursor.trail }) := by
  have found : tokens[cursor.position]? = some token := by
    rw [← List.head?_drop, stands]
    rfl
  obtain ⟨inside, -⟩ := List.getElem?_eq_some_iff.mp found
  have same : min cursor.position (tokens.length - 1) = cursor.position := by omega
  rw [look, same, found]
  exact Part.bind_some token _

theorem look_reads (stop : Token) (ahead : List Token) :
    Reads stop look ahead [] (nextToken stop ahead) ahead := by
  intro tokens behind cursor stands
  refine ⟨_, @look_of_drop _ _ (ahead ++ stop :: behind).tail _ ?_, stands, rfl,
    (List.append_nil _).symm, ?_⟩
  · rw [stands]
    cases ahead with
    | nil => rfl
    | cons token others => rfl
  · intro place seen
    rcases List.mem_cons.mp seen with here | earlier
    · exact .inr (here ▸ Nat.le_add_right _ _)
    · exact .inl earlier

theorem move_reads (stop token : Token) (rest : List Token) :
    Reads stop move (token :: rest) [] () rest := by
  intro tokens behind cursor stands
  have inside : cursor.position + 1 + rest.length =
      cursor.position + (token :: rest).length := by
    rw [List.length_cons]
    omega
  refine ⟨_, rfl, ?_, inside, (List.append_nil _).symm, ?_⟩
  · show tokens.drop (cursor.position + 1) = _
    rw [← List.tail_drop, stands]
    rfl
  · intro place stood
    rcases List.mem_cons.mp stood with now | earlier
    · exact .inr (now ▸ inside ▸ Nat.le_add_right _ _)
    · exact .inl earlier

theorem report_reads (stop : Token) (ahead : List Token) (error : ParseError) :
    Reads stop (report error) ahead [error] () ahead := by
  intro tokens behind cursor stands
  exact ⟨_, rfl, stands, rfl, rfl, fun place seen => .inl seen⟩

theorem advance_reads (noEnd : token.kind ≠ .endOfFile) (rest : List Token) :
    Reads stop advance (token :: rest) [] token rest := by
  refine (look_reads stop (token :: rest)).andThen ?_
  rw [nextToken_cons, if_neg noEnd]
  exact (move_reads stop token rest).andThen (.pure stop rest token)

theorem accept_other {kind : Kind} (other : (nextToken stop ahead).kind ≠ kind) :
    Reads stop (accept kind) ahead [] false ahead := by
  refine (look_reads stop ahead).andThen ?_
  rw [if_neg other]
  exact .pure stop ahead false

theorem accept_same {kind : Kind} (same : token.kind = kind) (noEnd : kind ≠ .endOfFile)
    (rest : List Token) : Reads stop (accept kind) (token :: rest) [] true rest := by
  refine (look_reads stop (token :: rest)).andThen ?_
  rw [nextToken_cons, if_pos same]
  exact (advance_reads (same ▸ noEnd) rest).andThen (.pure stop rest true)

theorem atConstructEnd_reads (stop : Token) (ahead : List Token) :
    Reads stop atConstructEnd ahead [] (nextToken stop ahead).kind.closes ahead :=
  (look_reads stop ahead).andThen (.pure stop ahead _)

end

end Descent

end GlyphScript
