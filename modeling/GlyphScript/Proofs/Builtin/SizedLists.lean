import Mathlib.Algebra.Order.Ring.Int
import Mathlib.Order.Interval.Set.Nat
import GlyphScript.Builtin

/-!
# Lists of a given size

Counting in steps is done with 64-bit integers. Where the next number does not fit into
64 bits, it is past the end of the count as well, so the count holds exactly the integers
that it should.

Results:
1. `sum?_eq_some_iff`, `notDue_of_overflow`: what is added, and why nothing is lost where it
   cannot be added.
2. `exists_dueFrom`, `map_countOn`: the numbers of a count, from any place in it.
3. `range_exact`: the numbers of a whole count.
4. `range_limited`, `filled_limited`, `sizes_limited`: how long the lists and their rows are.
-/

namespace GlyphScript.Builtin

/-! ## Sums of 64-bit integers -/

theorem sum?_eq_some_iff {a b c : Int64} : sum? a b = some c ↔ c.toInt = a.toInt + b.toInt := by
  unfold sum?
  constructor
  · intro added
    split at added
    · next fits =>
        cases added
        exact fits
    · cases added
  · intro equal
    have low := c.le_toInt
    have high := c.toInt_lt
    have fits : (a + b).toInt = a.toInt + b.toInt := by
      rw [Int64.toInt_add, ← equal]
      exact Int.bmod_eq_of_le (by omega) (by omega)
    rw [if_pos fits, Int64.toInt_inj.mp (equal.trans fits.symm)]

/-! ## The end of a count -/

/-- The exact number comes before the end of a count. -/
def Due (stop step n : ℤ) : Prop :=
  0 < step ∧ n < stop ∨ step < 0 ∧ stop < n

theorem isDue_iff {stop step n : Int64} :
    isDue stop step n = true ↔ Due stop.toInt step.toInt n.toInt := by
  simp [isDue, Due, Int64.lt_iff_toInt_lt]

/-- A number that 64 bits do not hold comes after the end. -/
theorem notDue_of_overflow {stop step n : Int64} (overflow : sum? n step = none) :
    ¬ Due stop.toInt step.toInt (n.toInt + step.toInt) := by
  intro due
  have low := n.le_toInt
  have high := n.toInt_lt
  have stopLow := stop.le_toInt
  have stopHigh := stop.toInt_lt
  have fits : -2 ^ 63 ≤ n.toInt + step.toInt ∧ n.toInt + step.toInt < 2 ^ 63 := by
    rcases due with ⟨up, below⟩ | ⟨down, above⟩ <;> omega
  have added : sum? n step = some (.ofInt (n.toInt + step.toInt)) :=
    sum?_eq_some_iff.mpr (Int64.toInt_ofInt_of_le fits.1 fits.2)
  rw [overflow] at added
  cases added

/-- Once the end has been passed, no number comes before it. -/
theorem notDue_later {stop step n : ℤ} (past : ¬ Due stop step n) (k : ℕ) :
    ¬ Due stop step (n + k * step) := by
  have count : 0 ≤ (k : ℤ) := Int.natCast_nonneg k
  rintro (⟨up, below⟩ | ⟨down, above⟩)
  · have more : 0 ≤ k * step := Int.mul_nonneg count up.le
    exact past (.inl ⟨up, by omega⟩)
  · have less : k * step ≤ 0 := Int.mul_nonpos_of_nonneg_of_nonpos count down.le
    exact past (.inr ⟨down, by omega⟩)

theorem exists_notDue (stop step n : ℤ) : ∃ k : ℕ, ¬ Due stop step (n + k * step) := by
  have count := Int.natCast_nonneg (stop - n).natAbs
  refine ⟨(stop - n).natAbs, ?_⟩
  rintro (⟨up, below⟩ | ⟨down, above⟩)
  · have passed := le_mul_of_one_le_right count (show 1 ≤ step from up)
    omega
  · have passed := le_mul_of_one_le_right count (show 1 ≤ -step by omega)
    rw [Int.mul_neg] at passed
    omega

/-- From a number on, so many are due: the first ones. -/
def DueFrom (stop step n : ℤ) (count : ℕ) : Prop :=
  ∀ k : ℕ, Due stop step (n + k * step) ↔ k < count

theorem exists_dueFrom (stop step n : ℤ) : ∃ count, DueFrom stop step n count := by
  classical
  have ends := exists_notDue stop step n
  refine ⟨Nat.find ends, fun k => ⟨?_, ?_⟩⟩
  · intro due
    by_contra reached
    obtain ⟨more, rfl⟩ := Nat.exists_eq_add_of_le (Nat.le_of_not_lt reached)
    have later := notDue_later (Nat.find_spec ends) more
    rw [add_assoc, ← add_mul] at later
    exact later (by exact_mod_cast due)
  · intro early
    exact not_not.mp (Nat.find_min ends early)

/-! ## The numbers of a count -/

/-- So many integers, each by `step` from the one before. -/
def progression (start step : ℤ) (count : ℕ) : List ℤ :=
  (List.range count).map fun (k : ℕ) => start + k * step

theorem place_succ (start step : ℤ) (k : ℕ) :
    start + (k + 1 : ℕ) * step = start + step + k * step := by
  rw [Nat.cast_succ, Int.add_mul, Int.one_mul]
  omega

theorem progression_succ (start step : ℤ) (count : ℕ) :
    progression start step (count + 1) = start :: progression (start + step) step count := by
  unfold progression
  rw [List.range_succ_eq_map, List.map_cons, List.map_map]
  congr 1
  · simp
  · exact List.map_congr_left fun k _ => place_succ start step k

theorem DueFrom.now_iff {stop step n : Int64} {count : ℕ}
    (due : DueFrom stop.toInt step.toInt n.toInt count) :
    isDue stop step n = true ↔ 0 < count := by
  rw [isDue_iff, ← due 0, Nat.cast_zero, Int.zero_mul, Int.add_zero]

theorem DueFrom.next {stop step n : ℤ} {count : ℕ} (due : DueFrom stop step n (count + 1)) :
    DueFrom stop step (n + step) count := by
  intro k
  rw [← place_succ, due, Nat.succ_lt_succ_iff]

/-- What does not fit is not due, so the number before it is the last one. -/
theorem DueFrom.last_of_overflow {stop step n : Int64} {count : ℕ}
    (due : DueFrom stop.toInt step.toInt n.toInt (count + 1)) (overflow : sum? n step = none) :
    count = 0 := by
  have past := @notDue_of_overflow stop step n overflow
  rw [← Int.add_zero (_ + _), ← Int.zero_mul step.toInt, ← Nat.cast_zero, due.next] at past
  omega

theorem map_countOn_of_ended {stop step n : Int64}
    (ended : DueFrom stop.toInt step.toInt n.toInt 0) (room : ℕ) (taken : List Int64) :
    (countOn stop step room n taken).map Int64.toInt = (taken.map Int64.toInt).reverse := by
  have notNow : ¬ isDue stop step n = true := fun now => Nat.lt_irrefl 0 (ended.now_iff.mp now)
  cases room <;> rw [countOn, if_neg notNow, List.map_reverse]

/-- A count gives the numbers taken so far and all that are due, unless there is no room
for them. -/
theorem map_countOn {stop step : Int64} {count : ℕ} (room : ℕ) {n : Int64} (taken : List Int64)
    (due : DueFrom stop.toInt step.toInt n.toInt count) :
    (countOn stop step room n taken).map Int64.toInt =
      if count ≤ room then
        (taken.map Int64.toInt).reverse ++ progression n.toInt step.toInt count
      else [] := by
  induction room generalizing count n taken with
  | zero =>
      cases count with
      | zero => rw [map_countOn_of_ended due, if_pos (Nat.le_refl 0)]; simp [progression]
      | succ count =>
          rw [countOn, if_pos (due.now_iff.mpr (Nat.succ_pos count)),
            if_neg (Nat.not_succ_le_zero _)]
          rfl
  | succ room ih =>
      cases count with
      | zero => rw [map_countOn_of_ended due, if_pos (Nat.zero_le _)]; simp [progression]
      | succ count =>
          rw [countOn, if_pos (due.now_iff.mpr (Nat.succ_pos count)), progression_succ]
          split
          · next next added =>
              have after : next.toInt = n.toInt + step.toInt := sum?_eq_some_iff.mp added
              have dueLater := after ▸ due.next
              rw [ih (n :: taken) dueLater, after]
              simp
          · next overflow =>
              obtain rfl := due.last_of_overflow overflow
              simp [progression]

/-! ## Whole counts -/

/-- The numbers that a count comes to, each with those taken before it (the last one
stands first). -/
inductive Reached (start stop step : Int64) : Int64 → List Int64 → Prop
  | start : Reached start stop step start []
  | next {n next : Int64} {taken : List Int64} (reached : Reached start stop step n taken)
      (due : isDue stop step n = true) (room : taken.length < maxLength)
      (added : sum? n step = some next) : Reached start stop step next (n :: taken)

namespace Reached

variable {start stop step n : Int64} {taken : List Int64}

/-- The count goes on from each number that it comes to. -/
theorem steps_eq (reached : Reached start stop step n taken) :
    steps start stop step = countOn stop step (maxLength - taken.length) n taken := by
  induction reached with
  | start => rfl
  | @next n next taken _ due room added ih =>
      have left : maxLength - taken.length = maxLength - (taken.length + 1) + 1 := by omega
      rw [ih, left, countOn, if_pos due, added]
      rfl

theorem toInt_eq (reached : Reached start stop step n taken) :
    n.toInt = start.toInt + taken.length * step.toInt := by
  induction reached with
  | start => simp
  | next _ _ _ added ih =>
      rw [sum?_eq_some_iff.mp added, ih, List.length_cons, Nat.cast_succ, Int.add_mul, Int.one_mul,
        Int.add_assoc]

theorem length_le (reached : Reached start stop step n taken) : taken.length ≤ maxLength := by
  cases reached with
  | start => exact Nat.zero_le _
  | next _ _ room _ => exact room

end Reached

theorem map_steps {start stop step : Int64} {count : ℕ}
    (due : DueFrom stop.toInt step.toInt start.toInt count) :
    (steps start stop step).map Int64.toInt =
      if count ≤ maxLength then progression start.toInt step.toInt count else [] :=
  map_countOn maxLength [] due

/-! ## Ranges -/

/-- An integer of 64 bits is the whole part of a number, as far as 64 bits hold it. -/
theorem toInt_toInt64 (value : Value) :
    (toInt64 value).toInt = Decimal.toInt64 value.toNumber := by
  have limits : Decimal.minInt64 = -2 ^ 63 ∧ Decimal.maxInt64 = 2 ^ 63 - 1 := by decide
  have fits : -2 ^ 63 ≤ Decimal.toInt64 value.toNumber ∧
      Decimal.toInt64 value.toNumber < 2 ^ 63 := by
    unfold Decimal.toInt64
    split
    · omega
    · split
      · decide
      · split <;> omega
  exact Int64.toInt_ofInt_of_le fits.1 fits.2

/-- The start, the end and the step that arguments ask for: their whole parts, as far as
64 bits hold them. Without a start it is zero, and without a step one. -/
inductive RangeAsked : List Value → Int64 → Int64 → Int64 → Prop
  | upTo {stop : Value} {last : Int64} (whole : last.toInt = Decimal.toInt64 stop.toNumber) :
      RangeAsked [stop] 0 last 1
  | between {start stop : Value} {first last : Int64}
      (wholeFirst : first.toInt = Decimal.toInt64 start.toNumber)
      (wholeLast : last.toInt = Decimal.toInt64 stop.toNumber) :
      RangeAsked [start, stop] first last 1
  | stepping {start stop step : Value} {others : List Value} {first last gap : Int64}
      (wholeFirst : first.toInt = Decimal.toInt64 start.toNumber)
      (wholeLast : last.toInt = Decimal.toInt64 stop.toNumber)
      (wholeGap : gap.toInt = Decimal.toInt64 step.toNumber) :
      RangeAsked (start :: stop :: step :: others) first last gap

theorem RangeAsked.range_eq {args : List Value} {start stop step : Int64}
    (asked : RangeAsked args start stop step) : range args = integers (steps start stop step) := by
  have same : ∀ {value : Value} {n : Int64}, n.toInt = Decimal.toInt64 value.toNumber →
      toInt64 value = n := by
    intro value n whole
    exact Int64.toInt_inj.mp ((toInt_toInt64 value).trans whole.symm)
  cases asked with
  | upTo whole => rw [range, same whole]
  | between wholeFirst wholeLast => rw [range, same wholeFirst, same wholeLast]
  | stepping wholeFirst wholeLast wholeGap =>
      rw [range, same wholeFirst, same wholeLast, same wholeGap]

/-- A range holds the integers from the start by the step to before the end, each as the
double next to it, and is empty if these are more than `maxLength`. The count that makes
it takes no more turns than that, and it comes to no number but those of exact
arithmetic. -/
theorem range_exact (start stop step : Int64) :
    let due := {k : ℕ | Due stop.toInt step.toInt (start.toInt + k * step.toInt)}
    let numbers :=
      if due.ncard ≤ maxLength then progression start.toInt step.toInt due.ncard else []
    due.Finite ∧ (step = 0 → numbers = []) ∧
    (steps start stop step).map Int64.toInt = numbers ∧
    (∀ args, RangeAsked args start stop step →
      range args = .list (numbers.map fun n => .number (Float.ofInt n))) ∧
    ∀ n taken, Reached start stop step n taken →
      n.toInt = start.toInt + taken.length * step.toInt ∧ taken.length ≤ maxLength ∧
      steps start stop step = countOn stop step (maxLength - taken.length) n taken := by
  intro due numbers
  obtain ⟨count, dueFrom⟩ := exists_dueFrom stop.toInt step.toInt start.toInt
  have initial : due = Set.Iio count := Set.ext dueFrom
  have counted : due.ncard = count := by rw [initial, Set.ncard_Iio_nat]
  have stepped : (steps start stop step).map Int64.toInt = numbers := by
    rw [map_steps dueFrom]
    simp only [numbers, counted]
  refine ⟨initial ▸ Set.finite_Iio count, ?_, stepped, ?_, ?_⟩
  · rintro rfl
    have none : count = 0 := by
      by_contra some
      rcases (dueFrom 0).mpr (Nat.pos_of_ne_zero some) with ⟨up, _⟩ | ⟨down, _⟩
      · exact absurd up (by decide)
      · exact absurd down (by decide)
    simp [numbers, counted, none, progression]
  · intro args asked
    rw [asked.range_eq, integers, ← stepped, List.map_map]
    rfl
  · intro n taken reached
    exact ⟨reached.toInt_eq, reached.length_le, reached.steps_eq⟩

/-! ## Limits -/

/-- No row of a list has more items than `maxLength`. -/
def RowsWithin (items : List Value) : Prop :=
  ∀ cells, Value.list cells ∈ items → cells.length ≤ maxLength

/-- The arguments ask for rows without columns, and for more rows than `maxLength`. -/
def AsksEmptyRows (args : List Value) : Prop :=
  ∃ size width others, args = size :: width :: others ∧ maxLength < toSize size ∧ toSize width = 0

theorem rowsWithin_replicate_number (count : ℕ) (fill : Float) :
    RowsWithin (List.replicate count (.number fill)) := by
  intro cells member
  cases List.eq_of_mem_replicate member

theorem length_steps_le (start stop step : Int64) :
    (steps start stop step).length ≤ maxLength := by
  obtain ⟨count, due⟩ := exists_dueFrom stop.toInt step.toInt start.toInt
  have length := congrArg List.length (map_steps due)
  rw [List.length_map] at length
  rw [length]
  split
  · next fits => simpa [progression] using fits
  · exact Nat.zero_le _

/-- A range is short, and it has no rows. -/
theorem range_limited (args : List Value) :
    ∃ items, range args = .list items ∧ items.length ≤ maxLength ∧ RowsWithin items := by
  have counted : ∀ start stop step, ∃ items, integers (steps start stop step) = .list items ∧
      items.length ≤ maxLength ∧ RowsWithin items := by
    intro start stop step
    refine ⟨_, rfl, ?_, ?_⟩
    · rw [List.length_map]
      exact length_steps_le start stop step
    · intro cells member
      obtain ⟨_, _, number⟩ := List.mem_map.mp member
      cases number
  match args with
  | [] => exact ⟨[], rfl, Nat.zero_le _, nofun⟩
  | [_] => exact counted _ _ _
  | [_, _] => exact counted _ _ _
  | _ :: _ :: _ :: _ => exact counted _ _ _

/-- A list of zeros or ones has short rows. It is short itself unless its rows are empty. -/
theorem filled_limited (fill : Float) (args : List Value) :
    ∃ items, filled fill args = .list items ∧ RowsWithin items ∧
      (items.length ≤ maxLength ↔ ¬ AsksEmptyRows args) := by
  match args with
  | [] => exact ⟨[], rfl, nofun, fun _ => nofun, fun _ => Nat.zero_le _⟩
  | [size] =>
      have oneSize : ¬ AsksEmptyRows [size] := nofun
      rw [filled]
      split
      · next fits =>
          refine ⟨_, rfl, rowsWithin_replicate_number _ fill, fun _ => oneSize, fun _ => ?_⟩
          rw [List.length_replicate]
          exact fits
      · exact ⟨[], rfl, nofun, fun _ => oneSize, fun _ => Nat.zero_le _⟩
  | size :: width :: others =>
      have asks : AsksEmptyRows (size :: width :: others) ↔
          maxLength < toSize size ∧ toSize width = 0 := by
        constructor
        · rintro ⟨_, _, _, ⟨⟩, empty⟩
          exact empty
        · exact fun empty => ⟨size, width, others, rfl, empty⟩
      rw [filled, asks]
      split
      · next fits =>
          refine ⟨_, rfl, ?_, ?_⟩
          · intro cells member
            obtain ⟨some, same⟩ := List.mem_replicate.mp member
            cases same
            rw [List.length_replicate]
            exact (Nat.le_mul_of_pos_left _ (Nat.pos_of_ne_zero some)).trans fits
          · rw [List.length_replicate]
            rcases Nat.eq_zero_or_pos (toSize width) with none | some
            · simp [none]
            · have short := (Nat.le_mul_of_pos_right (toSize size) some).trans fits
              exact ⟨fun _ empty => some.ne' empty.2, fun _ => short⟩
      · next exceeds =>
          refine ⟨[], rfl, nofun, ?_, fun _ => Nat.zero_le _⟩
          rintro _ ⟨_, none⟩
          exact exceeds (by rw [none, Nat.mul_zero]; exact Nat.zero_le _)

/-- The builtins that make lists of a given size. -/
def sizedBuiltins : List String := ["range", "zeros", "ones"]

/-- The lists that are made of given sizes have no rows of more than `maxLength` items. They
have no more items than that themselves, except for the lists of empty rows that are made
if no columns are asked for. -/
theorem sizes_limited {name : String} (sized : name ∈ sizedBuiltins) (args : List Value) :
    ∃ items, call? name args = some ⟨.list items, ""⟩ ∧ RowsWithin items ∧
      (items.length ≤ maxLength ↔ name = "range" ∨ ¬ AsksEmptyRows args) := by
  simp only [sizedBuiltins, List.mem_cons, List.not_mem_nil, or_false] at sized
  rcases sized with rfl | rfl | rfl
  · obtain ⟨items, made, short, rows⟩ := range_limited args
    have called : call? "range" args = some ⟨range args, ""⟩ := rfl
    rw [made] at called
    exact ⟨items, called, rows, fun _ => .inl rfl, fun _ => short⟩
  · obtain ⟨items, made, rows, short⟩ := filled_limited 0 args
    have called : call? "zeros" args = some ⟨filled 0 args, ""⟩ := rfl
    rw [made] at called
    exact ⟨items, called, rows, by simpa using short⟩
  · obtain ⟨items, made, rows, short⟩ := filled_limited 1 args
    have called : call? "ones" args = some ⟨filled 1 args, ""⟩ := rfl
    rw [made] at called
    exact ⟨items, called, rows, by simpa using short⟩

/-- One row of as many ones as there may be. -/
theorem sizes_limited_longestRow :
    "ones" ∈ sizedBuiltins ∧ ¬ AsksEmptyRows [.number 1, .number 1048576] ∧
      ∃ items, call? "ones" [.number 1, .number 1048576] = some ⟨.list items, ""⟩ ∧
        RowsWithin items ∧ items.length ≤ maxLength := by
  have sized : "ones" ∈ sizedBuiltins := by decide
  have columns : ¬ AsksEmptyRows [.number 1, .number 1048576] := by
    rintro ⟨_, _, _, ⟨⟩, _, none⟩
    revert none
    decide +kernel
  obtain ⟨items, called, rows, short⟩ := sizes_limited sized [.number 1, .number 1048576]
  exact ⟨sized, columns, items, called, rows, short.mpr (.inr columns)⟩

/-- One more row than there may be items, with nothing in it. -/
theorem zeros_exceed_limit :
    ∃ items, call? "zeros" [.number 1048577, .number 0] = some ⟨.list items, ""⟩ ∧
      items.length = maxLength + 1 := by
  have rows : toSize (.number 1048577) = maxLength + 1 := by decide +kernel
  have columns : toSize (.number 0) = 0 := by decide +kernel
  have made : filled 0 [.number 1048577, .number 0] =
      .list (List.replicate (maxLength + 1) (.list [])) := by
    rw [filled, rows, columns, Nat.mul_zero, if_pos (Nat.zero_le _)]
    rfl
  exact ⟨_, congrArg (fun list => some (Result.mk list "")) made, List.length_replicate⟩

end GlyphScript.Builtin
