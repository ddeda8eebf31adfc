import GlyphScript.Proofs.Library.Continuations
import GlyphScript.Proofs.Session.Requests

/-!
# Observed grams

The grams of a session are those of the sequences that it was given to observe. All of
them are counted, and the order of the requests makes no difference. Suggestions are made
from them.

Results:
1. `ngrams_eq`: the grams of a session.
2. `ngrams_of_history`: their number, and that they are the same for all orders of the
   requests.
3. `suggestions_of_history`: what is suggested after texts, if windows of one text more were
   observed.
4. `suggestions_by_window`: what is suggested if windows of any sizes were observed.
-/

namespace GlyphScript

/-! ## Counts -/

namespace Library

/-- Observing is all that is ever done to the grams. -/
theorem writtenBy_ngrams : WrittenBy "gram_observe" Store.ngrams fun request ngrams =>
    (observedGrams request.body).foldl countGram ngrams where
  named request store := observe_ngrams request.body store
  others name different request store := by
    rcases (serve_effect name request store).framed.ngrams with same | ⟨named, _⟩
    · exact same
    · exact absurd named different
  apart _ _ _ _ _ := rfl

theorem changedBy_observations (requests : List Request) :
    changedBy (fun request ngrams => (observedGrams request.body).foldl countGram ngrams)
      requests [] = counted ((requests.map Request.body).flatMap observedGrams) := by
  induction requests using List.reverseRecOn with
  | nil => rfl
  | append_singleton others last ih =>
      rw [List.map_append, List.flatMap_append, List.map_singleton, List.flatMap_singleton,
        counted_append, ← ih, changedBy, changedBy, List.foldl_append]
      rfl

end Library

open Library

section

variable {limit : Nat} {commands : List Command} {calls : List CallTree} {session : Session}

theorem Session.History.ngrams_eq
    (history : (Session.start limit).History commands calls session)
    (inside : ∀ command ∈ commands, command.registers = false) :
    session.machine.store.ngrams =
      counted ((bodiesTo "gram_observe" calls).flatMap observedGrams) := by
  rw [history.view_eq writtenBy_ngrams nofun inside]
  exact changedBy_observations _

/-- Whatever commands a session is given, if none of them registers a handler from outside:
the stored counts add up to the number of windows in all requests to observe, and sessions
with the same requests in different orders have the same grams. Which window a request asks
for is said by `WindowAsked`. -/
theorem ngrams_of_history (history : (Session.start limit).History commands calls session)
    (inside : ∀ command ∈ commands, command.registers = false) :
    session.machine.store.ngrams.entries.sum =
      ((bodiesTo "gram_observe" calls).map windowCount).sum ∧
    (∀ otherLimit others otherCalls other,
      (Session.start otherLimit).History others otherCalls other →
      (∀ command ∈ others, command.registers = false) →
      (bodiesTo "gram_observe" otherCalls).Perm (bodiesTo "gram_observe" calls) →
      other.machine.store.ngrams = session.machine.store.ngrams) ∧
    (∀ body items size, body.find? "sequence" = some (.list items) → WindowAsked body size →
      windowCount body = items.length + 1 - size) ∧
    ∀ body, ∃ size, 1 ≤ size ∧ WindowAsked body size := by
  have grams := history.ngrams_eq inside
  refine ⟨?_, ?_, ?_, ?_⟩
  · rw [grams, sum_counted, List.length_flatMap]
    simp only [length_observedGrams]
  · intro otherLimit others otherCalls other otherHistory otherInside perm
    rw [grams, otherHistory.ngrams_eq otherInside]
    exact counted_of_perm (perm.flatMap_right observedGrams)
  · intro body items size sequence asked
    rw [windowCount, sequence, ← windowAsked_iff.mp asked]
    rfl
  · intro body
    have asked := windowAsked_windowSize body
    exact ⟨windowSize body, asked.one_le, asked⟩

end

/-- A program with the capabilities for grams and records. -/
def observingProgram : Program :=
  { Program.empty with
    capabilityBlocks := [("cms_rlhf_post", ⟨"cms_rlhf_post", none, [], [], ⟨1, 1⟩⟩),
      ("gram_observe", ⟨"gram_observe", none, [], [], ⟨2, 1⟩⟩)] }

/-- Asks for windows of two, with a fraction to cut off. -/
def pairsBody : Dict :=
  [("sequence", .list [.text "a", .null, .text "a", .null]), ("window_size", .number 2.9)]

/-- Asks for windows of less than one item, and so of three. -/
def triplesBody : Dict :=
  [("sequence", .list [.number 1, .list [], .text "a|b", .bool true]), ("window_size", .number 0.5)]

/-- Three windows of two items and two of three, in either order and with a post between. -/
theorem ngrams_of_history_bothOrders :
    ∃ calls session otherCalls other,
      (Session.start 4).History (Session.callingCommands observingProgram
        [.withBody "gram_observe" pairsBody, .withBody "cms_rlhf_post" [],
          .withBody "gram_observe" triplesBody]) calls session ∧
      (Session.start 7).History (Session.callingCommands observingProgram
        [.withBody "gram_observe" triplesBody, .withBody "gram_observe" pairsBody])
        otherCalls other ∧
      session.machine.store.ngrams.entries.sum = 5 ∧
      other.machine.store.ngrams = session.machine.store.ngrams := by
  obtain ⟨calls, session, history, asked⟩ := Session.exists_history_calling
    4 (by decide) observingProgram
    [.withBody "gram_observe" pairsBody, .withBody "cms_rlhf_post" [],
      .withBody "gram_observe" triplesBody] (by decide)
  obtain ⟨otherCalls, other, otherHistory, otherAsked⟩ := Session.exists_history_calling
    7 (by decide) observingProgram
    [.withBody "gram_observe" triplesBody, .withBody "gram_observe" pairsBody] (by decide)
  obtain ⟨sum, sameGrams, _⟩ :=
    ngrams_of_history history (Session.callingCommands_inside _ _)
  refine ⟨calls, session, otherCalls, other, history, otherHistory, ?_, ?_⟩
  · rw [sum, asked]
    rfl
  · refine sameGrams 7 _ _ _ otherHistory (Session.callingCommands_inside _ _) ?_
    rw [asked, otherAsked]
    exact .swap _ _ _

/-! ## Suggestions -/

namespace Library

/-- The body asks to observe windows of a size in texts without the separator. -/
structure Observes (size : Nat) (body : Dict) (texts : List String) : Prop where
  sequence : body.find? "sequence" = some (.list (texts.map .text))
  window : WindowAsked body size
  separate : Separate texts

theorem Observes.grams_eq {size : Nat} {body : Dict} {texts : List String}
    (observes : Observes size body texts) :
    observedGrams body = (windows size texts).map textGram := by
  rw [observedGrams, observes.sequence, windowAsked_iff.mp observes.window]
  show (windows size (texts.map Value.text)).map gramOf = _
  rw [windows_map, List.map_map]
  rfl

theorem Observes.readable {size : Nat} {body : Dict} {texts : List String}
    (observes : Observes size body texts) : Readable (windows size texts) := by
  intro window member
  obtain ⟨length, part⟩ := mem_windows member
  constructor
  · rw [← List.length_pos_iff, length]
    exact observes.window.one_le
  · exact fun text inWindow => observes.separate text (part.subset inWindow)

/-- Texts, and the size of the windows in which they are observed. -/
structure Observation where
  size : Nat
  texts : List String

namespace Observation

def windows (observation : Observation) : List (List String) :=
  Library.windows observation.size observation.texts

def AskedBy (body : Dict) (observation : Observation) : Prop :=
  Observes observation.size body observation.texts

variable {bodies : List Dict} {observations : List Observation}

theorem grams_eq (observed : List.Forall₂ AskedBy bodies observations) :
    bodies.flatMap observedGrams = (observations.flatMap windows).map textGram := by
  induction observed with
  | nil => rfl
  | cons first _ ih =>
      rw [List.flatMap_cons, List.flatMap_cons, List.map_append, Observes.grams_eq first, ih]
      rfl

theorem readable (observed : List.Forall₂ AskedBy bodies observations) :
    Readable (observations.flatMap windows) := by
  induction observed with
  | nil => nofun
  | cons first _ ih =>
      intro window member
      rw [List.flatMap_cons, List.mem_append] at member
      rcases member with inFirst | inOthers
      · exact Observes.readable first window inFirst
      · exact ih window inOthers

end Observation

theorem Observes.allGrams_eq {size : Nat} {bodies : List Dict} {sequences : List (List String)}
    (observed : List.Forall₂ (Observes size) bodies sequences) :
    bodies.flatMap observedGrams = (sequences.flatMap (windows size)).map textGram := by
  have each : List.Forall₂ Observation.AskedBy bodies (sequences.map (Observation.mk size)) :=
    List.forall₂_map_right_iff.mpr observed
  rw [Observation.grams_eq each, List.flatMap_map]
  rfl

theorem Observes.allSeparate {size : Nat} {bodies : List Dict} {sequences : List (List String)}
    (observed : List.Forall₂ (Observes size) bodies sequences) :
    ∀ texts ∈ sequences, Separate texts := by
  induction observed with
  | nil => nofun
  | cons first _ ih => exact List.forall_mem_cons.mpr ⟨first.separate, ih⟩

/-- All windows are long enough for one text behind the given ones. -/
theorem extends_windows (given : List String) {sequences : List (List String)}
    (separate : ∀ texts ∈ sequences, Separate texts) :
    Extends given (sequences.flatMap (windows (given.length + 1))) := by
  intro window member
  obtain ⟨texts, inSequences, inTexts⟩ := List.mem_flatMap.mp member
  obtain ⟨length, part⟩ := mem_windows inTexts
  exact ⟨length, fun text inWindow => separate texts inSequences text (part.subset inWindow)⟩

theorem count_allWindows (given : List String) (item : String) (sequences : List (List String)) :
    (sequences.flatMap (windows (given.length + 1))).count (given ++ [item]) =
      (sequences.map (occurrences (given ++ [item]))).sum := by
  have length : (given ++ [item]).length = given.length + 1 := List.length_append
  rw [List.count_flatMap, ← length]
  congr 1
  exact List.map_congr_left fun texts _ => count_windows (given ++ [item]) texts

theorem mem_allWindows_iff {given : List String} {item : String} {sequences : List (List String)} :
    given ++ [item] ∈ sequences.flatMap (windows (given.length + 1)) ↔
      ∃ texts ∈ sequences, given ++ [item] <:+: texts := by
  have length : (given ++ [item]).length = given.length + 1 := List.length_append
  rw [List.mem_flatMap, ← length]
  simp only [← List.count_pos_iff, count_windows, occurrences_pos_iff]

end Library

/-- If all requests were to observe texts without the separator, in windows of one text
more than the given ones: an item is suggested exactly if it stands behind the given texts
in an observed sequence, and only once. Its count is the number of places where it does. The
more frequent items come first, and of equally frequent ones the lesser text. -/
theorem suggestions_of_history {limit : Nat} {commands : List Command} {calls : List CallTree}
    {session : Session} (history : (Session.start limit).History commands calls session)
    (inside : ∀ command ∈ commands, command.registers = false) {given : List String}
    {sequences : List (List String)}
    (observed : List.Forall₂ (Observes (given.length + 1)) (bodiesTo "gram_observe" calls)
      sequences)
    {request : Request} (asked : request.body.find? "prefix" = some (.list (given.map .text))) :
    ∃ found : List (String × Nat),
      Suggests (Library.serve "gram_suggest_next" request session.machine.store).1 found ∧
      (∀ item, item ∈ found.map Prod.fst ↔ ∃ texts ∈ sequences, given ++ [item] <:+: texts) ∧
      (∀ item count, (item, count) ∈ found →
        count = (sequences.map (occurrences (given ++ [item]))).sum) ∧
      (found.map Prod.fst).Nodup ∧
      found.Pairwise fun left right => right.2 < left.2 ∨ left.2 = right.2 ∧ left.1 < right.1 := by
  have grams := history.ngrams_eq inside
  rw [Observes.allGrams_eq observed] at grams
  have longer := extends_windows given (Observes.allSeparate observed)
  have answers := suggests_suggest asked session.machine.store
  rw [grams] at answers
  have same := ranked_perm
    (candidates given (counted ((sequences.flatMap (windows (given.length + 1))).map textGram)))
  refine ⟨_, answers, ?_, ?_, ?_, ?_⟩
  · intro item
    rw [(same.map Prod.fst).mem_iff, ← mem_allWindows_iff, List.mem_map]
    constructor
    · rintro ⟨⟨_, count⟩, member, rfl⟩
      exact (longer.mem_candidates_iff.mp member).1
    · intro present
      exact ⟨(item, _), longer.mem_candidates_iff.mpr ⟨present, rfl⟩, rfl⟩
  · intro item count member
    rw [(longer.mem_candidates_iff.mp (same.mem_iff.mp member)).2, count_allWindows]
  · exact (same.map Prod.fst).nodup_iff.mpr longer.candidates_distinct
  · exact ranked_descending longer.candidates_distinct

def firstTexts : List String := ["a", "b", "a", "c", "a", "b"]

def secondTexts : List String := ["a", "", "a", "c"]

/-- Asks to observe texts in windows of two. -/
def textsBody (texts : List String) : Dict :=
  [("sequence", .list (texts.map .text)), ("window_size", .number 2)]

/-- Asks what comes behind one text. -/
def suggestionRequest (text : String) : Request :=
  ⟨"gram_suggest_next", [], [("prefix", .list [.text text])], [], 1⟩

/-- The empty text is an item like any other. -/
theorem suggestions_of_history_afterA :
    ∃ calls session, (Session.start 4).History (Session.callingCommands observingProgram
        [.withBody "gram_observe" (textsBody firstTexts), .withBody "cms_rlhf_post" [],
          .withBody "gram_observe" (textsBody secondTexts)]) calls session ∧
      ∃ found, Suggests (Library.serve "gram_suggest_next" (suggestionRequest "a")
          session.machine.store).1 found ∧
        ("b", 2) ∈ found ∧ ("c", 2) ∈ found ∧ ("", 1) ∈ found ∧ "a" ∉ found.map Prod.fst := by
  obtain ⟨calls, session, history, asked⟩ := Session.exists_history_calling
    4 (by decide) observingProgram
    [.withBody "gram_observe" (textsBody firstTexts), .withBody "cms_rlhf_post" [],
      .withBody "gram_observe" (textsBody secondTexts)] (by decide)
  have observed : List.Forall₂ (Observes (["a"].length + 1)) (bodiesTo "gram_observe" calls)
      [firstTexts, secondTexts] := by
    rw [asked]
    exact .cons ⟨rfl, windowAsked_iff.mpr rfl, by unfold Separate; decide⟩
      (.cons ⟨rfl, windowAsked_iff.mpr rfl, by unfold Separate; decide⟩ .nil)
  have given : (suggestionRequest "a").body.find? "prefix" =
      some (.list (["a"].map .text)) := rfl
  obtain ⟨found, suggests, member, counts, _⟩ := suggestions_of_history history
    (Session.callingCommands_inside _ _) observed given
  have present : ∀ item, (∃ texts ∈ [firstTexts, secondTexts], ["a"] ++ [item] <:+: texts) →
      (item, ([firstTexts, secondTexts].map (occurrences (["a"] ++ [item]))).sum) ∈ found := by
    intro item stands
    obtain ⟨⟨_, count⟩, inFound, rfl⟩ := List.mem_map.mp ((member item).mpr stands)
    exact counts _ count inFound ▸ inFound
  refine ⟨calls, session, history, found, suggests, present "b" (by decide),
    present "c" (by decide), present "" (by decide), ?_⟩
  rw [member]
  decide

theorem find?_suggestionRequest (text : String) :
    (suggestionRequest text).body.find? "prefix" = some (.list [.text text]) :=
  rfl

/-- Asks to observe texts in windows of the usual size, which is three. -/
def sequenceBody (texts : List String) : Dict :=
  [("sequence", .list (texts.map .text))]

/-- If all requests were to observe texts without the separator, in windows of any sizes: an
item is suggested once for each different window that starts with the given texts and the
item, with the number of times that this window was seen. These numbers add up to all such
windows. The greater counts come first, and of equal counts the lesser text. No item is
suggested twice exactly if windows that start with the same item behind the given texts are
the same, and only then is each count that of all windows with the item. -/
theorem suggestions_by_window {limit : Nat} {commands : List Command} {calls : List CallTree}
    {session : Session} (history : (Session.start limit).History commands calls session)
    (inside : ∀ command ∈ commands, command.registers = false)
    {observations : List Observation}
    (observed : List.Forall₂ Observation.AskedBy (bodiesTo "gram_observe" calls) observations)
    {items : List Value} {request : Request}
    (asked : request.body.find? "prefix" = some (.list items)) {given : List String}
    (read : items.map Value.toText = given) {seen : List (List String)}
    (gathered : observations.flatMap Observation.windows = seen) :
    ∃ found : List (String × Nat),
      Suggests (Library.serve "gram_suggest_next" request session.machine.store).1 found ∧
      ListedByWindow given seen found ∧
      (∀ item, (countsOf item found).sum = seen.countP (given ++ [item]).isPrefixOf) ∧
      (found.Pairwise fun left right =>
        right.2 < left.2 ∨ left.2 = right.2 ∧ left.1 ≤ right.1) ∧
      ((found.map Prod.fst).Nodup ↔ OneWay given seen) ∧
      ((∀ item count, (item, count) ∈ found →
        count = seen.countP (given ++ [item]).isPrefixOf) ↔ OneWay given seen) := by
  subst read gathered
  have grams := history.ngrams_eq inside
  rw [Observation.grams_eq observed] at grams
  have answers := suggests_ranked asked session.machine.store
  rw [grams] at answers
  have listed := (Observation.readable observed).listedByWindow (items.map Value.toText)
  exact ⟨_, answers, listed, listed.sum_eq, ranked_ordered _, listed.distinct_iff,
    listed.total_iff⟩

/-- What was seen twice in pairs and once in a triple is suggested with both counts. -/
theorem suggestions_by_window_twoSizes :
    ∃ calls session, (Session.start 4).History (Session.callingCommands observingProgram
        [.withBody "gram_observe" (textsBody firstTexts),
          .withBody "gram_observe" (sequenceBody ["a", "b", "c"])]) calls session ∧
      ∃ found, Suggests (Library.serve "gram_suggest_next" (suggestionRequest "a")
          session.machine.store).1 found ∧
        ("b", 2) ∈ found ∧ ("b", 1) ∈ found ∧ (countsOf "b" found).sum = 3 ∧
        ¬ (found.map Prod.fst).Nodup := by
  obtain ⟨calls, session, history, asked⟩ := Session.exists_history_calling
    4 (by decide) observingProgram
    [.withBody "gram_observe" (textsBody firstTexts),
      .withBody "gram_observe" (sequenceBody ["a", "b", "c"])] (by decide)
  have observed : List.Forall₂ Observation.AskedBy (bodiesTo "gram_observe" calls)
      [⟨2, firstTexts⟩, ⟨3, ["a", "b", "c"]⟩] := by
    rw [asked]
    exact .cons ⟨rfl, windowAsked_iff.mpr rfl, by unfold Separate; decide⟩
      (.cons ⟨rfl, windowAsked_iff.mpr rfl, by unfold Separate; decide⟩ .nil)
  obtain ⟨found, suggests, listed, sums, _, distinct, _⟩ := suggestions_by_window history
    (Session.callingCommands_inside _ _) observed (find?_suggestionRequest "a") rfl rfl
  refine ⟨calls, session, history, found, suggests, ?_, ?_, ?_, ?_⟩
  · exact mem_countsOf_iff.mp ((listed "b").mem_iff.mpr (by decide))
  · exact mem_countsOf_iff.mp ((listed "b").mem_iff.mpr (by decide))
  · rw [sums]
    decide
  · rw [distinct]
    intro oneWay
    exact absurd (oneWay "b" ["a", "b"] (by decide) ["a", "b", "c"] (by decide) (by decide)
      (by decide)) (by decide)

/-- Here one item stands three times behind another, before three different texts. -/
def branchingTexts : List String := ["a", "x", "p", "a", "x", "q", "a", "x", "r"]

def repeatedTexts : List String := ["a", "y", "s"]

/-- An item that came three times is suggested three times, behind one that came twice. -/
theorem suggestions_repeated :
    ∃ calls session, (Session.start 4).History (Session.callingCommands observingProgram
        [.withBody "gram_observe" (sequenceBody branchingTexts),
          .withBody "gram_observe" (sequenceBody repeatedTexts),
          .withBody "gram_observe" (sequenceBody repeatedTexts)]) calls session ∧
      occurrences ["a", "x"] branchingTexts = 3 ∧
      Suggests (Library.serve "gram_suggest_next" (suggestionRequest "a")
        session.machine.store).1 [("y", 2), ("x", 1), ("x", 1), ("x", 1)] := by
  obtain ⟨calls, session, history, asked⟩ := Session.exists_history_calling
    4 (by decide) observingProgram
    [.withBody "gram_observe" (sequenceBody branchingTexts),
      .withBody "gram_observe" (sequenceBody repeatedTexts),
      .withBody "gram_observe" (sequenceBody repeatedTexts)] (by decide)
  refine ⟨calls, session, history, by decide, ?_⟩
  have grams := history.ngrams_eq (Session.callingCommands_inside _ _)
  rw [asked] at grams
  have found : candidates ["a"] session.machine.store.ngrams =
      [("x", 1), ("x", 1), ("x", 1), ("y", 2)] := by
    rw [grams]
    decide +kernel
  have order : ranked [("x", 1), ("x", 1), ("x", 1), ("y", 2)] =
      [("y", 2), ("x", 1), ("x", 1), ("x", 1)] := by
    simp [ranked, List.mergeSort, ranksBefore]
  rw [← order, ← found]
  exact suggests_ranked (find?_suggestionRequest "a") session.machine.store

end GlyphScript
