import Knapsack.Refusal

/-!
Which item is taken in which cell: a matrix of flags with one row per item, stored row after row in
one vector. A flag that is set stays set.
-/

namespace Knapsack

structure Decisions (rows width : Nat) where
  flags : Vector Bool (rows * width)

namespace Decisions

variable {rows width : Nat}

theorem offset_lt {item cell : Nat} (item_lt : item < rows) (cell_lt : cell < width) :
    item * width + cell < rows * width := by
  have := Nat.mul_le_mul_right width (Nat.succ_le_of_lt item_lt)
  rw [Nat.succ_mul] at this
  omega

def blank : Decisions rows width :=
  ⟨Vector.replicate (rows * width) false⟩

def get (decisions : Decisions rows width) (item : Fin rows) (cell : Fin width) : Bool :=
  have inside := offset_lt item.isLt cell.isLt
  decisions.flags[item.val * width + cell.val]

def set (decisions : Decisions rows width) (item : Fin rows) (cell : Fin width) :
    Decisions rows width :=
  ⟨decisions.flags.set (item * width + cell) true (offset_lt item.isLt cell.isLt)⟩

theorem offset_inj {item cell item' cell' : Nat} (cell_lt : cell < width) (cell_lt' : cell' < width)
    (same : item * width + cell = item' * width + cell') : item = item' ∧ cell = cell' := by
  have width_pos : 0 < width := Nat.zero_lt_of_lt cell_lt
  have rowsSame := congrArg (· / width) same
  have cellsSame := congrArg (· % width) same
  simp only [Nat.mul_comm _ width, Nat.mul_add_div width_pos, Nat.mul_add_mod,
    Nat.div_eq_of_lt cell_lt, Nat.div_eq_of_lt cell_lt', Nat.mod_eq_of_lt cell_lt,
    Nat.mod_eq_of_lt cell_lt', Nat.add_zero] at rowsSame cellsSame
  exact ⟨rowsSame, cellsSame⟩

@[simp]
theorem get_blank (item : Fin rows) (cell : Fin width) :
    (blank : Decisions rows width).get item cell = false := by
  simp [blank, get]

theorem get_set (decisions : Decisions rows width) (item item' : Fin rows) (cell cell' : Fin width) :
    (decisions.set item cell).get item' cell' =
      if item = item' ∧ cell = cell' then true else decisions.get item' cell' := by
  simp only [set, get, Vector.getElem_set]
  by_cases same : item * width + cell = item' * width + cell'
  · obtain ⟨rowSame, cellSame⟩ := offset_inj cell.isLt cell'.isLt same
    rw [if_pos same, if_pos ⟨Fin.ext rowSame, Fin.ext cellSame⟩]
  · rw [if_neg same, if_neg]
    rintro ⟨rfl, rfl⟩
    exact same rfl

def isTaken (decisions : Decisions rows width) (item cell : Nat) : Except StrayCell Bool :=
  if inside : item < rows ∧ cell < width then
    .ok (decisions.get ⟨item, inside.1⟩ ⟨cell, inside.2⟩)
  else
    .error ⟨item, cell, rows, width⟩

theorem isTaken_of_outside (decisions : Decisions rows width) {item cell : Nat}
    (outside : ¬(item < rows ∧ cell < width)) :
    decisions.isTaken item cell = .error ⟨item, cell, rows, width⟩ := by
  simp only [isTaken, dif_neg outside]

theorem inside_of_isTaken {decisions : Decisions rows width} {item cell : Nat} {flag : Bool}
    (read : decisions.isTaken item cell = .ok flag) : item < rows ∧ cell < width := by
  unfold isTaken at read
  split at read
  · next inside => exact inside
  · cases read

/-- Which cells a matrix has does not depend on its flags. -/
theorem isTaken_eq_error {decisions : Decisions rows width} {item cell : Nat} {stray : StrayCell}
    (missing : decisions.isTaken item cell = .error stray) (other : Decisions rows width) :
    other.isTaken item cell = .error stray := by
  unfold isTaken at missing ⊢
  split at missing
  · cases missing
  · next outside => rw [dif_neg outside, missing]

/-- Sets a flag. A cell outside the matrix is told and changes nothing. -/
def mark (decisions : Decisions rows width) (item cell : Nat) :
    Decisions rows width × Option StrayCell :=
  if inside : item < rows ∧ cell < width then
    (decisions.set ⟨item, inside.1⟩ ⟨cell, inside.2⟩, none)
  else
    (decisions, some ⟨item, cell, rows, width⟩)

theorem mark_of_outside (decisions : Decisions rows width) {item cell : Nat}
    (outside : ¬(item < rows ∧ cell < width)) :
    decisions.mark item cell = (decisions, some ⟨item, cell, rows, width⟩) := by
  simp only [mark, dif_neg outside]

theorem mark_snd_of_inside (decisions : Decisions rows width) {item cell : Nat}
    (inside : item < rows ∧ cell < width) : (decisions.mark item cell).2 = none := by
  simp only [mark, dif_pos inside]

/-- Setting a flag is seen in its cell alone. -/
theorem isTaken_mark (decisions : Decisions rows width) {item cell : Nat} (other otherCell : Nat)
    (inside : item < rows ∧ cell < width) :
    (decisions.mark item cell).1.isTaken other otherCell =
      if other = item ∧ otherCell = cell then .ok true else decisions.isTaken other otherCell := by
  simp only [mark, dif_pos inside, isTaken, get_set, Fin.mk.injEq]
  by_cases same : other = item ∧ otherCell = cell
  · obtain ⟨rfl, rfl⟩ := same
    simp only [inside, and_self, dite_true, if_true]
  · have different : ¬(item = other ∧ cell = otherCell) := fun both => same ⟨both.1.symm, both.2.symm⟩
    simp only [if_neg same, if_neg different]

end Decisions

end Knapsack
