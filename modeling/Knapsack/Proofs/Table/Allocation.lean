import Knapsack.Proofs.Table.Optima

/-!
# Which tables are made

The dimensions of a table are checked before any of its buffers: there is an item, and the width
and the number of flags are words. Then the buffers are asked for in a fixed order, and the first
that is too large is told with its length. What is made are rows of zeros, and no flag is set
(`allocate_by_size`).

`assemble` does this work buffer by buffer. There the matrix checks the product of its dimensions
once more, and whatever it would tell is never told (`assemble_eq`).
-/

namespace Knapsack

/-- Both rows of a pair have this element in every cell. -/
structure RowPair.Filled {α : Type} {width : Nat} (pair : RowPair α width) (x : α) : Prop where
  last : pair.last.toList = List.replicate width x
  next : pair.next.toList = List.replicate width x

theorem RowPair.filled_fill {α : Type} {width : Nat} (x : α) :
    (RowPair.fill x : RowPair α width).Filled x :=
  ⟨Vector.toList_replicate, Vector.toList_replicate⟩

namespace Table

/-- There is an item, and the width of the rows and the number of flags are words. -/
structure Addressable (count capacity : Nat) : Prop where
  positive : 0 < count
  width : capacity + 1 < wordCount
  flags : count * (capacity + 1) < wordCount

/-- A buffer that a table needs, as so many elements of so many bytes each. -/
structure Request where
  buffer : Buffer
  bytesEach : Nat
  length : Nat

/-- The buffers of a table in the order in which they are made. The rows of a pair have one size, so
the first stands for both. -/
def requests (count capacity : Nat) (tracked : Bool) : List Request :=
  ⟨.valueRow, 4, capacity + 1⟩ ::
    (if tracked then [⟨.weightRow, 8, capacity + 1⟩] else []) ++
      [⟨.decisionMatrix, 1, count * (capacity + 1)⟩]

namespace Request

def check (request : Request) : Except Refusal Unit :=
  checkBuffer request.buffer request.bytesEach request.length

def isOversized (request : Request) : Bool :=
  bufferLimit < request.bytesEach * request.length

end Request

/-- How the making of a table ends: the first of these that applies. -/
inductive AllocateOutcome (count capacity : Nat) (tracked : Bool) :
    Except Refusal (Table count capacity) → Prop where
  | tooWide (large : wordCount ≤ capacity + 1) :
      AllocateOutcome count capacity tracked (.error (.dimensions count capacity))
  | tooMany (width : capacity + 1 < wordCount)
      (large : count = 0 ∨ wordCount ≤ count * (capacity + 1)) :
      AllocateOutcome count capacity tracked (.error (.dimensions count (capacity + 1)))
  | oversized {request : Request} (addressable : Addressable count capacity)
      (first : (requests count capacity tracked).find? Request.isOversized = some request) :
      AllocateOutcome count capacity tracked
        (.error (.bufferSize request.buffer request.length))
  | made (addressable : Addressable count capacity)
      (fits : (requests count capacity tracked).find? Request.isOversized = none) :
      AllocateOutcome count capacity tracked (.ok (blank tracked))

/-- A table of zeros without any flag, with weights if they are tracked. -/
structure Zeroed {count capacity : Nat} (table : Table count capacity) (tracked : Bool) : Prop where
  values : table.values.Filled 0
  tracked : table.weights.isSome = tracked
  weights : ∀ pair ∈ table.weights, pair.Filled 0
  flags : ∀ item < count, ∀ cell < capacity + 1, table.decisions.isTaken item cell = .ok false

variable {count capacity : Nat} {tracked : Bool} {list : List Request} {request : Request}

/-! ## The order of the checks -/

theorem Request.check_of_fits (fits : ¬ request.isOversized) : request.check = .ok () :=
  if_neg (by simpa [isOversized] using fits)

theorem Request.check_of_oversized (large : request.isOversized) :
    request.check = .error (.bufferSize request.buffer request.length) :=
  if_pos (by simpa [isOversized] using large)

theorem forM_check_of_none (fits : list.find? Request.isOversized = none) :
    forM list Request.check = .ok () := by
  induction list with
  | nil => rfl
  | cons request list ih =>
    have first : ¬ request.isOversized := List.find?_eq_none.mp fits request List.mem_cons_self
    rw [List.find?_cons_of_neg first] at fits
    rw [List.forM_cons, Request.check_of_fits first]
    exact ih fits

theorem forM_check_of_some (first : list.find? Request.isOversized = some request) :
    forM list Request.check = .error (.bufferSize request.buffer request.length) := by
  induction list with
  | nil => cases first
  | cons other list ih =>
    rw [List.forM_cons]
    by_cases large : other.isOversized
    · rw [List.find?_cons_of_pos large] at first
      cases first
      rw [Request.check_of_oversized large]
      rfl
    · rw [List.find?_cons_of_neg large] at first
      rw [Request.check_of_fits large]
      exact ih first

theorem checkBuffers_eq_forM :
    checkBuffers count capacity tracked = forM (requests count capacity tracked) Request.check := by
  cases tracked <;> simp [checkBuffers, requests, Request.check]

theorem addressable_iff :
    Addressable count capacity ↔
      0 < count ∧ capacity + 1 < wordCount ∧ count * (capacity + 1) < wordCount := by
  constructor
  · rintro ⟨positive, width, flags⟩
    exact ⟨positive, width, flags⟩
  · rintro ⟨positive, width, flags⟩
    exact ⟨positive, width, flags⟩

theorem addressable_of_checkDimensions (passed : checkDimensions count capacity = .ok ()) :
    Addressable count capacity := by
  obtain ⟨width, positive, flags⟩ := checkDimensions_eq_ok_iff.mp passed
  exact ⟨positive, width, flags⟩

theorem allocate_outcome (count capacity : Nat) (tracked : Bool) :
    AllocateOutcome count capacity tracked (allocate count capacity tracked) := by
  unfold allocate
  cases dimensions : checkDimensions count capacity with
  | error cause =>
    unfold checkDimensions at dimensions
    split at dimensions
    · next large =>
      cases dimensions
      exact .tooWide large
    · next width =>
      split at dimensions
      · next large =>
        cases dimensions
        exact .tooMany (Nat.lt_of_not_le width) large
      · cases dimensions
  | ok =>
    have addressable := addressable_of_checkDimensions dimensions
    rw [checkBuffers_eq_forM]
    cases first : (requests count capacity tracked).find? Request.isOversized with
    | none =>
      rw [forM_check_of_none first]
      exact .made addressable first
    | some request =>
      rw [forM_check_of_some first]
      exact .oversized addressable first

theorem not_addressable_iff :
    ¬ Addressable count capacity ↔
      count = 0 ∨ wordCount ≤ capacity + 1 ∨ wordCount ≤ count * (capacity + 1) := by
  rw [addressable_iff]
  omega

theorem find?_requests_eq_none_iff :
    (requests count capacity tracked).find? Request.isOversized = none ↔
      4 * (capacity + 1) ≤ bufferLimit ∧ (tracked = true → 8 * (capacity + 1) ≤ bufferLimit) ∧
        count * (capacity + 1) ≤ bufferLimit := by
  cases tracked <;> simp [requests, Request.isOversized]

theorem zeroed_blank (tracked : Bool) : (blank tracked : Table count capacity).Zeroed tracked where
  values := RowPair.filled_fill 0
  tracked := tracked_blank tracked
  weights := by
    intro pair found
    cases tracked with
    | false => cases found
    | true =>
      cases found
      exact RowPair.filled_fill 0
  flags := by
    intro item item_lt cell cell_lt
    rw [Decisions.isTaken, dif_pos ⟨item_lt, cell_lt⟩]
    exact congrArg Except.ok (Decisions.get_blank _ _)

/-! ## Buffer by buffer -/

/-- A buffer with one element in all its places. -/
def makeBuffer {α : Type} (buffer : Buffer) (bytesEach length : Nat) (x : α) :
    Except Refusal (Vector α length) := do
  checkBuffer buffer bytesEach length
  return Vector.replicate length x

/-- A pair of rows, each a buffer of its own. -/
def makeRows {α : Type} (buffer : Buffer) (bytesEach width : Nat) (x : α) :
    Except Refusal (RowPair α width) := do
  let last ← makeBuffer buffer bytesEach width x
  let next ← makeBuffer buffer bytesEach width x
  return ⟨last, next⟩

/-- A matrix without flags. The product of its dimensions is checked here too, and `overflow` is
told if it is no word. -/
def makeDecisions (overflow : Refusal) (rows width : Nat) : Except Refusal (Decisions rows width) :=
  if wordCount ≤ rows * width then
    .error overflow
  else do
    let flags ← makeBuffer .decisionMatrix 1 (rows * width) false
    return ⟨flags⟩

/-- A table made of its parts one after the other, once its dimensions are checked. -/
def assemble (overflow : Refusal) (count capacity : Nat) (tracked : Bool) :
    Except Refusal (Table count capacity) := do
  checkDimensions count capacity
  let values ← makeRows .valueRow 4 (capacity + 1) 0
  let weights ←
    if tracked then
      some <$> makeRows .weightRow 8 (capacity + 1) 0
    else
      pure none
  let decisions ← makeDecisions overflow count (capacity + 1)
  return ⟨values, weights, decisions⟩

theorem makeRows_eq {α : Type} (buffer : Buffer) (bytesEach width : Nat) (x : α) :
    makeRows buffer bytesEach width x = do
      checkBuffer buffer bytesEach width
      return .fill x := by
  unfold makeRows makeBuffer
  cases checkBuffer buffer bytesEach width <;> rfl

theorem makeDecisions_eq (overflow : Refusal) {rows width : Nat} (word : rows * width < wordCount) :
    makeDecisions overflow rows width = do
      checkBuffer .decisionMatrix 1 (rows * width)
      return .blank := by
  rw [makeDecisions, if_neg (Nat.not_le_of_lt word)]
  unfold makeBuffer
  cases checkBuffer .decisionMatrix 1 (rows * width) <;> rfl

/-- The matrix finds its dimensions checked, so nothing of what its own check would tell is seen. -/
theorem assemble_eq (overflow : Refusal) (count capacity : Nat) (tracked : Bool) :
    assemble overflow count capacity tracked = allocate count capacity tracked := by
  unfold assemble allocate
  cases dimensions : checkDimensions count capacity with
  | error cause => rfl
  | ok =>
    have addressable := addressable_of_checkDimensions dimensions
    rw [makeRows_eq, makeRows_eq, makeDecisions_eq overflow addressable.flags, checkBuffers]
    cases checkBuffer .valueRow 4 (capacity + 1) with
    | error cause => rfl
    | ok =>
      cases tracked with
      | false => cases checkBuffer .decisionMatrix 1 (count * (capacity + 1)) <;> rfl
      | true =>
        cases checkBuffer .weightRow 8 (capacity + 1) with
        | error cause => rfl
        | ok => cases checkBuffer .decisionMatrix 1 (count * (capacity + 1)) <;> rfl

/-! ## By size -/

theorem exists_allocate_iff :
    (∃ table, allocate count capacity tracked = .ok table) ↔
      Addressable count capacity ∧
        (requests count capacity tracked).find? Request.isOversized = none := by
  have outcome := allocate_outcome count capacity tracked
  generalize allocate count capacity tracked = result at outcome
  cases outcome with
  | tooWide large =>
    have refused : ¬ Addressable count capacity := not_addressable_iff.mpr (.inr (.inl large))
    exact iff_of_false nofun fun both => refused both.1
  | tooMany width large =>
    have refused : ¬ Addressable count capacity := not_addressable_iff.mpr (large.imp_right .inr)
    exact iff_of_false nofun fun both => refused both.1
  | oversized addressable first =>
    refine iff_of_false nofun fun both => ?_
    rw [first] at both
    cases both.2
  | made addressable fits => exact iff_of_true ⟨_, rfl⟩ ⟨addressable, fits⟩

theorem allocate_eq_error_iff {cause : Refusal} :
    allocate count capacity tracked = .error cause ↔
      (¬ Addressable count capacity ∧
          cause = .dimensions count (if wordCount ≤ capacity + 1 then capacity else capacity + 1)) ∨
        (Addressable count capacity ∧
          ∃ request, (requests count capacity tracked).find? Request.isOversized = some request ∧
            cause = .bufferSize request.buffer request.length) := by
  have outcome := allocate_outcome count capacity tracked
  generalize allocate count capacity tracked = result at outcome
  cases outcome with
  | tooWide large =>
    have refused : ¬ Addressable count capacity := not_addressable_iff.mpr (.inr (.inl large))
    rw [if_pos large, Except.error.injEq, and_iff_right refused, or_iff_left, eq_comm]
    exact fun other => refused other.1
  | tooMany width large =>
    have refused : ¬ Addressable count capacity := not_addressable_iff.mpr (large.imp_right .inr)
    rw [if_neg (Nat.not_le_of_lt width), Except.error.injEq, and_iff_right refused, or_iff_left,
      eq_comm]
    exact fun other => refused other.1
  | oversized addressable first =>
    rw [or_iff_right fun other => other.1 addressable, and_iff_right addressable, first,
      Except.error.injEq]
    constructor
    · rintro rfl
      exact ⟨_, rfl, rfl⟩
    · rintro ⟨_, ⟨⟩, rfl⟩
      rfl
  | made addressable fits =>
    rw [fits]
    refine iff_of_false nofun ?_
    rintro (⟨refused, -⟩ | ⟨-, _, ⟨⟩, -⟩)
    exact refused addressable

/-- A table is made exactly if it has an item, its width and the number of its flags are words, and
none of its buffers has more bytes than a buffer may have. It is refused for its dimensions exactly
if these fail, whatever the buffers are, and otherwise for the first of its buffers that is too
large. A table that is made holds zeros and no flag. The check that a matrix makes of its own
dimensions never has an effect, whatever it would tell. -/
theorem allocate_by_size (count capacity : Nat) (tracked : Bool) :
    ((∃ table, allocate count capacity tracked = .ok table) ↔
        (0 < count ∧ capacity + 1 < wordCount ∧ count * (capacity + 1) < wordCount) ∧
          4 * (capacity + 1) ≤ bufferLimit ∧ (tracked = true → 8 * (capacity + 1) ≤ bufferLimit) ∧
          count * (capacity + 1) ≤ bufferLimit) ∧
      (∀ cause, allocate count capacity tracked = .error cause ↔
        ((count = 0 ∨ wordCount ≤ capacity + 1 ∨ wordCount ≤ count * (capacity + 1)) ∧
            cause =
              .dimensions count (if wordCount ≤ capacity + 1 then capacity else capacity + 1)) ∨
          (Addressable count capacity ∧
            ∃ request, (requests count capacity tracked).find? Request.isOversized = some request ∧
              cause = .bufferSize request.buffer request.length)) ∧
      (∀ table, allocate count capacity tracked = .ok table → table.Zeroed tracked) ∧
      ∀ overflow, assemble overflow count capacity tracked = allocate count capacity tracked := by
  refine ⟨?_, fun cause => ?_, fun table allocated => ?_,
    fun overflow => assemble_eq overflow count capacity tracked⟩
  · rw [exists_allocate_iff, addressable_iff, find?_requests_eq_none_iff]
  · rw [allocate_eq_error_iff, not_addressable_iff]
  · rw [(blank_of_allocate allocated).1]
    exact zeroed_blank tracked

example : allocate 3 9223372036854775807 false = .error (.dimensions 3 9223372036854775808) := rfl

example : allocate 9 1152921504606846975 true =
    .error (.bufferSize .weightRow 1152921504606846976) := rfl

end Table

end Knapsack
