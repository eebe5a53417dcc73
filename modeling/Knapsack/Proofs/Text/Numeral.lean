import Mathlib.Data.List.Induction
import Knapsack.Text.Numeral

/-!
# What numerals denote

The grammar of numerals, apart from the way they are read: `Digits` relates one or more digits to
their number in decimal, `Denotes` puts a sign before them. There may be any number of digits, zeros
in front included. Reading finds exactly what is denoted (`integer?_eq_some_iff`).
-/

namespace Knapsack.Numeral

/-- One or more digits, and the number that they are in decimal. -/
inductive Digits : List Char → Nat → Prop where
  | single {c : Char} (digit : c.isDigit) : Digits [c] (c.toNat - '0'.toNat)
  | more {front : List Char} {n : Nat} {c : Char} (before : Digits front n) (digit : c.isDigit) :
      Digits (front ++ [c]) (10 * n + (c.toNat - '0'.toNat))

/-- Digits with or without a sign, and the integer that they denote. -/
inductive Denotes : List Char → Int → Prop where
  | unsigned {digits : List Char} {n : Nat} (written : Digits digits n) : Denotes digits n
  | positive {digits : List Char} {n : Nat} (written : Digits digits n) : Denotes ('+' :: digits) n
  | negative {digits : List Char} {n : Nat} (written : Digits digits n) :
      Denotes ('-' :: digits) (-n)

variable {text : List Char}

/-! ## Digits -/

theorem Digits.ne_nil {n : Nat} (written : Digits text n) : text ≠ [] := by
  cases written with
  | single digit => exact List.cons_ne_nil _ _
  | more before digit => exact List.concat_ne_nil _ _

theorem Digits.isDigit {n : Nat} (written : Digits text n) : ∀ c ∈ text, c.isDigit := by
  induction written with
  | single digit => exact List.forall_mem_singleton.mpr digit
  | more before digit ih =>
    exact List.forall_mem_append.mpr ⟨ih, List.forall_mem_singleton.mpr digit⟩

theorem Digits.eq_ofDigitChars {n : Nat} (written : Digits text n) :
    n = Nat.ofDigitChars 10 text 0 := by
  induction written with
  | single digit => rw [Nat.ofDigitChars_cons, Nat.ofDigitChars_nil, Nat.mul_zero, Nat.zero_add]
  | more before digit ih =>
    rw [Nat.ofDigitChars_append, ← ih, Nat.ofDigitChars_cons, Nat.ofDigitChars_nil]

theorem digits_ofDigitChars (nonempty : text ≠ []) (digits : ∀ c ∈ text, c.isDigit) :
    Digits text (Nat.ofDigitChars 10 text 0) := by
  -- A digit behind the others makes the number ten times as large before it is added.
  induction text using List.reverseRecOn with
  | nil => exact absurd rfl nonempty
  | append_singleton front c ih =>
    obtain ⟨before, last⟩ := List.forall_mem_append.mp digits
    have digit := List.forall_mem_singleton.mp last
    rw [Nat.ofDigitChars_append, Nat.ofDigitChars_cons, Nat.ofDigitChars_nil]
    cases front with
    | nil =>
      rw [Nat.ofDigitChars_nil, Nat.mul_zero, Nat.zero_add]
      exact .single digit
    | cons d front => exact .more (ih (List.cons_ne_nil d front) before) digit

theorem natural?_eq_some_iff {n : Nat} : natural? text = some n ↔ Digits text n := by
  unfold natural?
  constructor
  · intro read
    split at read
    · next fine =>
      cases read
      exact digits_ofDigitChars fine.1 (List.all_eq_true.mp fine.2)
    · cases read
  · intro written
    rw [if_pos ⟨written.ne_nil, List.all_eq_true.mpr written.isDigit⟩, ← written.eq_ofDigitChars]

/-! ## Signs -/

theorem Digits.not_sign {c : Char} {digits : List Char} {n : Nat} (written : Digits (c :: digits) n)
    (noDigit : c.isDigit = false) : False := by
  have digit := written.isDigit c List.mem_cons_self
  rw [noDigit] at digit
  cases digit

/-- The number behind a minus is turned into its opposite as an integer. -/
theorem integer?_minus (digits : List Char) :
    integer? ('-' :: digits) = (natural? digits).map fun n : Nat => -(n : Int) := by
  rw [integer?]
  cases natural? digits <;> rfl

theorem integer?_eq_some_iff {n : Int} : integer? text = some n ↔ Denotes text n := by
  constructor
  · intro read
    unfold integer? at read
    split at read
    · rw [← integer?, integer?_minus] at read
      obtain ⟨m, number, rfl⟩ := Option.map_eq_some_iff.mp read
      exact .negative (natural?_eq_some_iff.mp number)
    · obtain ⟨m, number, rfl⟩ := Option.map_eq_some_iff.mp read
      exact .positive (natural?_eq_some_iff.mp number)
    · obtain ⟨m, number, rfl⟩ := Option.map_eq_some_iff.mp read
      exact .unsigned (natural?_eq_some_iff.mp number)
  · intro denotes
    cases denotes with
    | positive written =>
      rw [integer?, natural?_eq_some_iff.mpr written]
      rfl
    | negative written =>
      rw [integer?_minus, natural?_eq_some_iff.mpr written]
      rfl
    | @unsigned _ m written =>
      unfold integer?
      split
      · exact (written.not_sign rfl).elim
      · exact (written.not_sign rfl).elim
      · rw [natural?_eq_some_iff.mpr written]
        rfl

theorem Denotes.ne_nil {n : Int} (denotes : Denotes text n) : text ≠ [] := by
  cases denotes with
  | unsigned written => exact written.ne_nil
  | positive written => exact List.cons_ne_nil _ _
  | negative written => exact List.cons_ne_nil _ _

theorem Denotes.sign_or_digit {n : Int} (denotes : Denotes text n) :
    ∀ c ∈ text, c = '+' ∨ c = '-' ∨ c.isDigit := by
  cases denotes with
  | unsigned written => exact fun c member => .inr (.inr (written.isDigit c member))
  | positive written =>
    exact List.forall_mem_cons.mpr ⟨.inl rfl, fun c member =>
      .inr (.inr (written.isDigit c member))⟩
  | negative written =>
    exact List.forall_mem_cons.mpr ⟨.inr (.inl rfl), fun c member =>
      .inr (.inr (written.isDigit c member))⟩

theorem denotes_ofInt (n : Int) : Denotes (ofInt n) n :=
  integer?_eq_some_iff.mp (integer?_ofInt n)

end Knapsack.Numeral
