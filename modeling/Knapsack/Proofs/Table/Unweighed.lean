import Knapsack.Proofs.Table.Sweep

/-!
# Weights decide no value

Two tables of one size are filled with the same items, one without weights and one with any. Where
values tie, the second may take an offer that the first leaves, so the two runs part: another weight
is written and another flag is set. Their values stay together all the same.

1. `Shadows` is what the plain table shares with the weighed one: the last value row, and every flag
   that it has set.
2. `Shadows.advance` keeps this over one item, also where the item cannot be entered: then both stop
   at the same cell.
3. `fill_values_unweighed` says it of whole fillings. Nothing is assumed of the weights.
-/

namespace Knapsack

namespace Entry

theorem map_value_add? (entry : Entry) (value : Int32) (weight : Nat) :
    (entry.add? value weight).map Entry.value = addValue? entry.value value := by
  unfold add?
  cases addValue? entry.value value <;> rfl

/-- A larger value beats whatever the weights are. -/
theorem beats_of_value_lt {entry other : Entry} (less : other.value < entry.value) :
    entry.beats other := by
  rw [beats, decide_eq_true less, Bool.true_or]

/-- Without a weight nothing else beats. -/
theorem value_lt_of_beats {entry other : Entry} (unweighed : entry.weight = none)
    (better : entry.beats other) : other.value < entry.value := by
  simp only [beats, unweighed, lighter, Bool.and_false, Bool.or_false, decide_eq_true_eq] at better
  exact better

/-- Weights have no part in the value that is settled on. -/
theorem value_settle (entry offer : Entry) :
    (entry.settle (some offer)).value =
      if entry.value < offer.value then offer.value else entry.value := by
  by_cases less : entry.value < offer.value
  · rw [settle, if_pos (beats_of_value_lt less), if_pos less]
  · rw [if_neg less, settle]
    split
    · next better =>
      -- It beats by its weight, so its value is the same.
      simp only [beats, less, decide_false, Bool.false_or, Bool.and_eq_true, beq_iff_eq] at better
      exact better.1
    · rfl

section Pairs

variable {entry other : Entry} {offer otherOffer : Option Entry}

theorem value_settle_congr (values : entry.value = other.value)
    (offers : offer.map Entry.value = otherOffer.map Entry.value) :
    (entry.settle offer).value = (other.settle otherOffer).value := by
  cases offer <;> cases otherOffer
  case none.none => exact values
  case none.some => cases offers
  case some.none => cases offers
  case some.some offer otherOffer =>
    rw [value_settle, value_settle, values, Option.some.inj offers]

/-- What is taken without weights is taken with any. -/
theorem yields_of_unweighed (values : entry.value = other.value)
    (offers : offer.map Entry.value = otherOffer.map Entry.value)
    (unweighed : ∀ made, offer = some made → made.weight = none)
    (taken : entry.yields offer) : other.yields otherOffer := by
  cases offer <;> cases otherOffer
  case none.none => cases taken
  case none.some => cases taken
  case some.none => cases offers
  case some.some offer otherOffer =>
    have less := value_lt_of_beats (unweighed offer rfl) taken
    rw [values, Option.some.inj offers] at less
    exact beats_of_value_lt less

end Pairs

end Entry

namespace Table

variable {rows capacity : Nat} {plain weighed after afterWeighed : Table rows capacity}

/-- A table without weights that has the last values of another and no flag that the other lacks. -/
structure Shadows (plain weighed : Table rows capacity) : Prop where
  unweighed : plain.tracked = false
  value : ∀ cell, (plain.lastEntry cell).value = (weighed.lastEntry cell).value
  taken : ∀ (item : Nat) (cell : Fin (capacity + 1)),
    plain.decisions.isTaken item cell = .ok true → weighed.decisions.isTaken item cell = .ok true

/-- How two runs end side by side: both are completed, or both stop at the same value that is too
large. -/
inductive SideBySide :
    Table rows capacity × Option Failure → Table rows capacity × Option Failure → Prop where
  | done {plain weighed : Table rows capacity} (shadows : Shadows plain weighed) :
      SideBySide (plain, none) (weighed, none)
  | overflow {plain weighed : Table rows capacity} {item cell : Nat}
      (shadows : Shadows plain weighed) :
      SideBySide (plain, some (.refused (.valueOverflow item cell)))
        (weighed, some (.refused (.valueOverflow item cell)))

namespace Shadows

theorem last (shadows : Shadows plain weighed) : plain.values.last = weighed.values.last :=
  Vector.ext fun cell inside => shadows.value ⟨cell, inside⟩

section Step

variable {index stop : Nat} {item : Item}

/-- Both tables offer a cell the same value, or none. -/
theorem map_value_extend? (shadows : Shadows plain weighed) (item : Item)
    (cell : Fin (capacity + 1)) :
    (Row.extend? plain.lastEntry item cell).map Entry.value =
      (Row.extend? weighed.lastEntry item cell).map Entry.value := by
  simp only [Row.extend?, Row.offer?, Entry.map_value_add?, shadows.value]

theorem extend?_eq_none_iff (shadows : Shadows plain weighed) (item : Item)
    (cell : Fin (capacity + 1)) :
    Row.extend? plain.lastEntry item cell = none ↔
      Row.extend? weighed.lastEntry item cell = none := by
  rw [← Option.map_eq_none_iff (f := Entry.value), shadows.map_value_extend?,
    Option.map_eq_none_iff]

theorem weight_extend? (shadows : Shadows plain weighed) {cell : Fin (capacity + 1)}
    {offer : Entry} (offered : Row.extend? plain.lastEntry item cell = some offer) :
    offer.weight = none := by
  have kept := Entry.weight_isSome_of_add? offered
  rw [isSome_weight_lastEntry, shadows.unweighed] at kept
  exact Option.isNone_iff_eq_none.mp (Option.isSome_eq_false_iff.mp kept)

theorem taken_marked (shadows : Shadows plain weighed)
    (marked : Marked index item stop plain after)
    (markedWeighed : Marked index item stop weighed afterWeighed) (other : Nat)
    (cell : Fin (capacity + 1)) (taken : after.decisions.isTaken other cell = .ok true) :
    afterWeighed.decisions.isTaken other cell = .ok true := by
  rw [marked] at taken
  rw [markedWeighed]
  split at taken
  · next hit =>
    obtain ⟨row, reached, yields⟩ := hit
    have yieldsWeighed := Entry.yields_of_unweighed (shadows.value cell)
      (shadows.map_value_extend? item cell) (fun _ => shadows.weight_extend?) yields
    rw [if_pos ⟨row, reached, yieldsWeighed⟩]
  · split
    · rfl
    · exact shadows.taken other cell taken

/-- One item, entered in both tables or in neither. -/
theorem advance (shadows : Shadows plain weighed) (item : Item) (inside : index < rows) :
    SideBySide (plain.advance index item) (weighed.advance index item) := by
  have outcome := advance_outcome index item plain
  have outcomeWeighed := advance_outcome index item weighed
  generalize plain.advance index item = result at outcome
  generalize weighed.advance index item = resultWeighed at outcomeWeighed
  cases outcome with
  | stray _ _ outside => exact absurd inside (Nat.not_lt_of_le outside)
  | done offered last marked tracked =>
    cases outcomeWeighed with
    | stray _ _ outside => exact absurd inside (Nat.not_lt_of_le outside)
    | overflow cell reached _ refused =>
      exact absurd ((shadows.extend?_eq_none_iff item cell).mpr refused) (offered cell reached)
    | done offeredWeighed lastWeighed markedWeighed =>
      refine .done ⟨tracked.trans shadows.unweighed, fun cell => ?_,
        shadows.taken_marked marked markedWeighed⟩
      rw [last, lastWeighed]
      split
      · exact Entry.value_settle_congr (shadows.value cell) (shadows.map_value_extend? item cell)
      · exact shadows.value cell
  | overflow cell reached offered refused last marked tracked =>
    cases outcomeWeighed with
    | stray _ _ outside => exact absurd inside (Nat.not_lt_of_le outside)
    | done offeredWeighed =>
      exact absurd ((shadows.extend?_eq_none_iff item cell).mp refused)
        (offeredWeighed cell reached)
    | overflow cellWeighed reachedWeighed offeredWeighed refusedWeighed lastWeighed
        markedWeighed =>
      -- The first cell that refuses the item is the same, as each table refuses where the other does.
      have same : cell = cellWeighed := by
        apply Fin.le_antisymm
        · refine Fin.not_lt.mp fun earlier => offered cellWeighed reachedWeighed earlier ?_
          exact (shadows.extend?_eq_none_iff item cellWeighed).mpr refusedWeighed
        · refine Fin.not_lt.mp fun earlier => offeredWeighed cell reached earlier ?_
          exact (shadows.extend?_eq_none_iff item cell).mp refused
      subst same
      refine .overflow ⟨tracked.trans shadows.unweighed, fun cell => ?_,
        shadows.taken_marked marked markedWeighed⟩
      rw [last, lastWeighed]
      exact shadows.value cell

end Step

theorem fillFrom {items : List Item} {index : Nat} (shadows : Shadows plain weighed)
    (enough : index + items.length ≤ rows) :
    SideBySide (plain.fillFrom index items) (weighed.fillFrom index items) := by
  induction items generalizing plain weighed index with
  | nil => exact .done shadows
  | cons item items ih =>
    rw [List.length_cons] at enough
    have inside : index < rows := by omega
    have step := shadows.advance item inside
    rw [Table.fillFrom, Table.fillFrom]
    generalize plain.advance index item = result at step
    generalize weighed.advance index item = resultWeighed at step
    cases step with
    | done next => exact ih next (by omega)
    | overflow next => exact .overflow next

end Shadows

/-- Two tables that differ in their weights alone, of which the first has none, are filled to the same
end and to the same values, and the flags that the first one gets are set in the second one too. -/
theorem fill_values_unweighed {items : List Item} (unweighed : plain.tracked = false)
    (values : plain.values = weighed.values) (decisions : plain.decisions = weighed.decisions)
    (enough : items.length ≤ rows) :
    (plain.fill items).2 = (weighed.fill items).2 ∧
      ((plain.fill items).2 = none ∨
        ∃ item cell, (plain.fill items).2 = some (.refused (.valueOverflow item cell))) ∧
      (plain.fill items).1.values.last = (weighed.fill items).1.values.last ∧
      ∀ (item : Nat) (cell : Fin (capacity + 1)),
        (plain.fill items).1.decisions.isTaken item cell = .ok true →
          (weighed.fill items).1.decisions.isTaken item cell = .ok true := by
  have shadows : Shadows plain weighed := by
    refine ⟨unweighed, fun cell => ?_, fun item cell taken => ?_⟩
    · simp only [lastEntry, values]
    · rw [← decisions]
      exact taken
  have ending : SideBySide (plain.fill items) (weighed.fill items) :=
    shadows.fillFrom (by rwa [Nat.zero_add])
  generalize plain.fill items = result at ending
  generalize weighed.fill items = resultWeighed at ending
  cases ending with
  | done shadows => exact ⟨rfl, .inl rfl, shadows.last, shadows.taken⟩
  | overflow shadows => exact ⟨rfl, .inr ⟨_, _, rfl⟩, shadows.last, shadows.taken⟩

/-- The first item ties in all cells, so it is taken only where its weight is less. The second one is
too much for the first cell of either table. -/
theorem fill_values_unweighed_tie :
    ∃ plain weighed : Table 2 2,
      plain.last = ⟨[3, 3, 3], none⟩ ∧ weighed.last = ⟨[3, 3, 3], some [1, 9, 2]⟩ ∧
      (plain.fill [⟨1, 0⟩, ⟨0, 2147483647⟩]).1.decisions.isTaken 0 1 = .ok false ∧
      (weighed.fill [⟨1, 0⟩, ⟨0, 2147483647⟩]).1.decisions.isTaken 0 1 = .ok true ∧
      (plain.fill [⟨1, 0⟩, ⟨0, 2147483647⟩]).2 = some (.refused (.valueOverflow 1 0)) ∧
      (weighed.fill [⟨1, 0⟩, ⟨0, 2147483647⟩]).2 = some (.refused (.valueOverflow 1 0)) ∧
      (plain.fill [⟨1, 0⟩, ⟨0, 2147483647⟩]).1.values.last =
        (weighed.fill [⟨1, 0⟩, ⟨0, 2147483647⟩]).1.values.last := by
  obtain ⟨plain, weighed, last, lastWeighed, unweighed, values, decisions, clear, set, ended⟩ :
      ∃ plain weighed : Table 2 2,
        plain.last = ⟨[3, 3, 3], none⟩ ∧ weighed.last = ⟨[3, 3, 3], some [1, 9, 2]⟩ ∧
        plain.tracked = false ∧ plain.values = weighed.values ∧
        plain.decisions = weighed.decisions ∧
        (plain.fill [⟨1, 0⟩, ⟨0, 2147483647⟩]).1.decisions.isTaken 0 1 = .ok false ∧
        (weighed.fill [⟨1, 0⟩, ⟨0, 2147483647⟩]).1.decisions.isTaken 0 1 = .ok true ∧
        (plain.fill [⟨1, 0⟩, ⟨0, 2147483647⟩]).2 = some (.refused (.valueOverflow 1 0)) :=
    ⟨⟨⟨#v[3, 3, 3], #v[0, 7, 0]⟩, none, .blank⟩,
      ⟨⟨#v[3, 3, 3], #v[0, 7, 0]⟩, some ⟨#v[1, 9, 2], #v[5, 5, 5]⟩, .blank⟩,
      rfl, rfl, rfl, rfl, rfl, rfl, rfl, rfl⟩
  have enough : ([⟨1, 0⟩, ⟨0, 2147483647⟩] : List Item).length ≤ 2 := by decide
  obtain ⟨same, -, rows, -⟩ := fill_values_unweighed unweighed values decisions enough
  exact ⟨plain, weighed, last, lastWeighed, clear, set, ended, same.symm.trans ended, rows⟩

end Table

end Knapsack
