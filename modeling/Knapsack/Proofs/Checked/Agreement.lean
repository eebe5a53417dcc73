import Knapsack.Proofs.Checked.Run
import Knapsack.Proofs.Solver.Outcome

/-!
# A checked run stops at no check

Every check passes, and the checked run is the run (`run_eq`). Each single step agrees where its
facts hold, and each loop keeps them: a sweep leaves the last rows alone, so that their weights stay
small; a filling tabulates the items it has entered, so that the weights are small to begin with;
and in a walk a set flag says that the item reaches the cell.
-/

namespace Knapsack.Checked

variable {rows capacity : Nat} {item : Item}

/-! ## Single steps -/

theorem cell_eq (cell : Fin (capacity + 1)) : Checked.cell capacity cell = .ok cell :=
  dif_pos cell.isLt

theorem subtract_eq {cell : Fin (capacity + 1)} (reached : item.Reaches cell) :
    subtract cell item = .ok (below item.load cell : Nat) :=
  if_pos reached

theorem add?_eq {entry : Entry}
    (small : ∀ weight, entry.weight = some weight → weight.toNat + item.load < wordCount) :
    add? entry item = .ok (entry.add? item.value item.load) := by
  obtain ⟨value, weight⟩ := entry
  unfold add? Entry.add?
  cases addValue? value item.value with
  | none => rfl
  | some sum =>
    cases weight with
    | none => rfl
    | some weight =>
      simp only [addWeight, if_pos (small weight rfl)]
      rfl

theorem flag_ok {α : Type} {index : Nat} (cell : Fin (capacity + 1)) (inside : index < rows)
    (words : rows * (capacity + 1) ≤ wordCount) (x : α) :
    flag index cell (capacity + 1) (.ok x) = .ok x :=
  if_pos (Nat.lt_of_lt_of_le (Decisions.offset_lt inside cell.isLt) words)

theorem mark_eq {index : Nat} (table : Table rows capacity) (cell : Fin (capacity + 1))
    (inside : index < rows) (words : rows * (capacity + 1) ≤ wordCount) :
    mark table index cell = .ok (table.mark index cell).1 := by
  have unhindered : (table.mark index cell).2 = none :=
    table.decisions.mark_snd_of_inside ⟨inside, cell.isLt⟩
  unfold mark
  split
  · next marked =>
    rw [marked]
    exact flag_ok cell inside words _
  · next marked =>
    rw [marked] at unhindered
    cases unhindered

/-! ## Filling -/

/-- Wherever the item reaches, the weight that its own is added to leaves the sum a word. -/
def Roomy (table : Table rows capacity) (item : Item) : Prop :=
  ∀ cell : Fin (capacity + 1), item.Reaches cell →
    ∀ weight, (table.lastEntry (below item.load cell)).weight = some weight →
      weight.toNat + item.load < wordCount

theorem Roomy.of_lastEntry_eq {table other : Table rows capacity} (roomy : Roomy table item)
    (same : other.lastEntry = table.lastEntry) : Roomy other item := by
  intro cell reached weight found
  rw [same] at found
  exact roomy cell reached weight found

section Filling

variable {table : Table rows capacity} {index : Nat}

theorem offer_eq {cell : Fin (capacity + 1)} (roomy : Roomy table item)
    (reached : item.Reaches cell) (inside : index < rows)
    (words : rows * (capacity + 1) ≤ wordCount) :
    offer index item cell table =
      .ok (table.offer index item.value (below item.load cell) cell) := by
  have distance : (cell : Nat) - (below item.load cell : Nat) = item.load :=
    Nat.sub_sub_self reached.2
  simp only [offer, subtract_eq reached, ok_bind, cell_eq, add?_eq (roomy cell reached),
    Table.offer, distance]
  cases (table.lastEntry (below item.load cell)).add? item.value item.load with
  | none => rfl
  | some entry =>
    by_cases better : entry.beats (table.nextEntry cell)
    · simp only [if_pos better, mark_eq _ cell inside words,
        Table.take_of_inside cell entry table inside]
      rfl
    · simp only [if_neg better]
      rfl

theorem sweep_eq (count : Nat) (within : item.load + count ≤ capacity + 1)
    (nonneg : 0 ≤ item.weight) (roomy : Roomy table item) (inside : index < rows)
    (words : rows * (capacity + 1) ≤ wordCount) :
    sweep index item (List.range' (capacity + 1 - count) count) table =
      .ok (table.sweep index item.value item.load count within) := by
  induction count generalizing table with
  | zero => rfl
  | succ count ih =>
    obtain ⟨cell, position⟩ : ∃ cell : Fin (capacity + 1), (cell : Nat) = capacity - count :=
      ⟨⟨capacity - count, by omega⟩, rfl⟩
    have first : capacity + 1 - (count + 1) = cell := by omega
    have following : (cell : Nat) + 1 = capacity + 1 - count := by omega
    have reached : item.Reaches cell := ⟨nonneg, by omega⟩
    have kept := table.lastEntry_offer index item.value (below item.load cell) cell
    rw [first, List.range'_succ, following, sweep, offer_eq roomy reached inside words,
      ok_bind]
    cases offered : table.offer index item.value (below item.load cell) cell with
    | mk after failure =>
      rw [offered] at kept
      cases failure with
      | none =>
        rw [Table.sweep_succ_passed within position offered]
        exact ih _ (roomy.of_lastEntry_eq kept)
      | some failure =>
        rw [Table.sweep_succ_stopped within position offered]
        rfl

theorem advance_eq (nonneg : 0 ≤ item.weight) (roomy : Roomy table item) (inside : index < rows)
    (words : rows * (capacity + 1) ≤ wordCount) :
    advance index item table = .ok (table.advance index item) := by
  have roomyCarried := roomy.of_lastEntry_eq table.lastEntry_carry'
  by_cases fits : item.load ≤ capacity
  case neg =>
    have none : capacity + 1 - item.load = 0 := by omega
    simp only [advance, Table.advance, Item.load?_of_nonneg nonneg, none, dif_neg fits]
    rfl
  case pos =>
    have whole : capacity + 1 - (capacity + 1 - item.load) = item.load := by omega
    have swept := sweep_eq (capacity + 1 - item.load) (by omega) nonneg roomyCarried inside words
    rw [whole] at swept
    simp only [advance, Table.advance, Item.load?_of_nonneg nonneg, swept, ok_bind,
      dif_pos fits]
    cases table.carry.sweep index item.value item.load _ _ with
    | mk after failure => cases failure <;> rfl

theorem fillFrom_eq (items : List Item) {done : List Item} (tabulates : table.Tabulates done)
    (word : capacity < wordCount) (words : rows * (capacity + 1) ≤ wordCount)
    (enough : done.length + items.length ≤ rows) (nonneg : NonNegative (done ++ items)) :
    fillFrom done.length items table = .ok (table.fillFrom done.length items) := by
  induction items generalizing done table with
  | nil => rfl
  | cons item items ih =>
    rw [List.length_cons] at enough
    rw [List.append_cons] at nonneg
    have inside : done.length < rows := by omega
    have length : (done ++ [item]).length = done.length + 1 := List.length_append
    have roomy : Roomy table item := fun cell reached weight found =>
      tabulates.weight_add_load_lt word reached found
    rw [fillFrom, advance_eq nonneg.init.last roomy inside words, ok_bind, Table.fillFrom]
    cases advanced : table.advance done.length item with
    | mk after failure =>
      cases failure with
      | none =>
        have rest := ih (tabulates.of_advance_eq word nonneg.init advanced) (by omega) nonneg
        rwa [length] at rest
      | some failure => rfl

end Filling

/-! ## Reading the answer -/

theorem scan_eq (table : Table rows capacity) (count : Nat) (within : count ≤ capacity)
    (best : Fin (capacity + 1)) :
    scan table (List.range' (capacity + 1 - count) count) best =
      .ok (table.bestCell count within best : Nat) := by
  induction count generalizing best with
  | zero => rfl
  | succ count ih =>
    have first : capacity + 1 - (count + 1) = capacity - count := by omega
    have following : capacity - count + 1 = capacity + 1 - count := by omega
    have next := cell_eq (⟨capacity - count, by omega⟩ : Fin (capacity + 1))
    rw [first, List.range'_succ, following, scan, next, cell_eq, ok_bind, ok_bind, Table.bestCell]
    rw [← ih (by omega), apply_ite Fin.val]

theorem terminal_eq (table : Table rows capacity) : terminal table = .ok table.terminal := by
  have origin : ((0 : Fin (capacity + 1)) : Nat) = 0 := rfl
  have one : capacity + 1 - capacity = 1 := Nat.add_sub_cancel_left capacity 1
  have scanned := scan_eq table capacity le_rfl 0
  rw [one, origin] at scanned
  cases found : table.weights with
  | none =>
    have last := cell_eq (Fin.last capacity)
    rw [Fin.val_last] at last
    simp only [terminal, found, ok_bind, last, Table.terminal, Table.terminalCell]
    rfl
  | some weights =>
    simp only [terminal, found, scanned, ok_bind, cell_eq, Table.terminal, Table.terminalCell]
    rfl

/-- The walk from a cell of a filled table, and the checked walk. -/
theorem walk_eq {decisions : Decisions rows (capacity + 1)} {tracked : Bool} {items : List Item}
    (explains : decisions.Explains tracked items) (enough : items.length ≤ rows)
    (word : capacity < wordCount) (words : rows * (capacity + 1) ≤ wordCount)
    (nonneg : NonNegative items) (cell : Fin (capacity + 1)) (found : List Nat) :
    ∃ selected, decisions.walk items.zipIdx.reverse cell found = .ok selected ∧
      walk decisions items.zipIdx.reverse cell found = .ok selected := by
  induction items using List.reverseRecOn generalizing cell found with
  | nil => exact ⟨found, rfl, rfl⟩
  | append_singleton items item ih =>
    have inside : items.length < rows := by
      rw [List.length_append, List.length_singleton] at enough
      exact enough
    have rest := ih explains.init (Nat.le_of_lt inside) nonneg.init
    rw [Decisions.zipIdx_concat_reverse, Decisions.walk, walk, explains.last,
      flag_ok cell inside words, ok_bind]
    by_cases gain : best tracked items cell < best tracked (items ++ [item]) cell
    · have reached := reaches_of_gain nonneg gain
      rw [decide_eq_true gain, if_pos rfl, subtract_eq reached, ok_bind,
        Decisions.cellBelow_of_reaches word reached]
      exact rest _ _
    · rw [decide_eq_false gain, if_neg Bool.false_ne_true]
      exact rest _ _

/-! ## The run -/

/-- The filling of a blank table, with all checks on. -/
theorem fill_blank_eq (tracked : Bool) {items : List Item} (word : capacity < wordCount)
    (words : items.length * (capacity + 1) ≤ wordCount) (nonneg : NonNegative items) :
    fillFrom 0 items (.blank tracked : Table items.length capacity) =
      .ok ((Table.blank tracked : Table items.length capacity).fill items) := by
  have start : (Table.blank tracked : Table items.length capacity).Tabulates [] :=
    Table.tabulates_blank tracked
  refine fillFrom_eq items start word words ?_ nonneg
  rw [List.length_nil, Nat.zero_add]

/-- Every check of a run passes, and the checked run is the run. -/
theorem run_eq (solver : Solver) (items : Option (List Item)) (capacity : Int32) :
    run solver items capacity = .ok (solver.run items capacity) := by
  cases items with
  | none => rfl
  | some items =>
    cases validated : solver.validate (some items) capacity with
    | error cause => simp only [run, Solver.run, validated]
    | ok accepted =>
      obtain ⟨rfl, admits⟩ := Solver.validate_eq_ok_iff.mp validated
      have words : accepted.length * (capacity.toNatClampNeg + 1) ≤ wordCount :=
        le_trans admits.flags_le (by decide)
      simp only [run, Solver.run, validated, admits.allocate,
        fill_blank_eq _ admits.word words admits.nonNegative, ok_bind]
      have outcome := Table.fill_outcome solver.config.tieBreak.tracksWeight admits.word
        (le_refl accepted.length) admits.nonNegative
      generalize Table.fill accepted _ = filled at outcome
      cases outcome with
      | overflow => rfl
      | @done table tabulates kept =>
        obtain ⟨selected, walked, walkedChecked⟩ :=
          walk_eq (Decisions.Explains.of_tabulates tabulates le_rfl) le_rfl admits.word words
            admits.nonNegative table.terminalCell []
        simp only [terminal_eq, ok_bind, Table.terminal, Decisions.solution, Decisions.selection,
          walked, walkedChecked]
        rfl

end Knapsack.Checked
