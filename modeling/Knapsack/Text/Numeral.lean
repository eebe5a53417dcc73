/-!
Decimal numerals: written with the fewest digits, read with an optional sign and any number of
digits. What is written is read back as the same number.
-/

namespace Knapsack.Numeral

def ofNat (n : Nat) : List Char :=
  Nat.toDigits 10 n

def ofInt : Int → List Char
  | .ofNat n => ofNat n
  | .negSucc n => '-' :: ofNat (n + 1)

def natural? (text : List Char) : Option Nat :=
  if text ≠ [] ∧ text.all Char.isDigit then some (Nat.ofDigitChars 10 text 0) else none

def integer? : List Char → Option Int
  | '-' :: digits => (natural? digits).map fun n => -n
  | '+' :: digits => (natural? digits).map Int.ofNat
  | digits => (natural? digits).map Int.ofNat

theorem isDigit_of_mem_ofNat {n : Nat} {c : Char} (present : c ∈ ofNat n) : c.isDigit = true :=
  Nat.isDigit_of_mem_toDigits (by decide) (by decide) present

theorem natural?_ofNat (n : Nat) : natural? (ofNat n) = some n := by
  have digits : (ofNat n).all Char.isDigit :=
    List.all_eq_true.mpr fun _ present => isDigit_of_mem_ofNat present
  rw [natural?, if_pos ⟨Nat.toDigits_ne_nil, digits⟩, ofNat, Nat.ofDigitChars_ten_toDigits]

theorem eq_zero_of_digitChar : ∀ n < 10, n.digitChar = '0' → n = 0 := by decide

/-- A numeral begins with a digit, and only zero begins with a zero. -/
theorem ofNat_eq_cons (n : Nat) :
    ∃ c tail, ofNat n = c :: tail ∧ c.isDigit = true ∧ (c = '0' → n = 0) := by
  induction n using Nat.strongRecOn with
  | ind n shorter =>
    unfold ofNat at shorter ⊢
    by_cases small : n < 10
    · refine ⟨n.digitChar, [], Nat.toDigits_of_lt_base small, ?_, eq_zero_of_digitChar n small⟩
      rw [Nat.isDigit_digitChar, decide_eq_true small]
    · obtain ⟨c, tail, written, digit, zero⟩ := shorter (n / 10) (by omega)
      refine ⟨c, tail ++ [(n % 10).digitChar], ?_, digit, fun first => ?_⟩
      · rw [Nat.toDigits_of_base_le (by decide) (Nat.le_of_not_lt small), written]
        rfl
      · have none := zero first
        omega

theorem ofInt_eq_cons (n : Int) :
    ∃ c tail, ofInt n = c :: tail ∧ (c = '-' ∨ c.isDigit = true) := by
  cases n with
  | ofNat m =>
    obtain ⟨c, tail, written, digit, _⟩ := ofNat_eq_cons m
    exact ⟨c, tail, written, .inr digit⟩
  | negSucc m => exact ⟨'-', ofNat (m + 1), rfl, .inl rfl⟩

theorem sign_or_digit_of_mem_ofInt {n : Int} {c : Char} (present : c ∈ ofInt n) :
    c = '-' ∨ c.isDigit = true := by
  cases n with
  | ofNat m => exact .inr (isDigit_of_mem_ofNat present)
  | negSucc m =>
    obtain sign | digit := List.mem_cons.mp present
    · exact .inl sign
    · exact .inr (isDigit_of_mem_ofNat digit)

theorem ne_of_mem_ofInt {n : Int} {c d : Char} (present : c ∈ ofInt n) (noSign : d ≠ '-')
    (noDigit : d.isDigit = false) : c ≠ d := by
  rintro rfl
  obtain sign | digit := sign_or_digit_of_mem_ofInt present
  · exact noSign sign
  · exact absurd (noDigit.symm.trans digit) (by decide)

theorem integer?_ofInt (n : Int) : integer? (ofInt n) = some n := by
  cases n with
  | ofNat m =>
    have digits := natural?_ofNat m
    obtain ⟨c, tail, written, digit, _⟩ := ofNat_eq_cons m
    change integer? (ofNat m) = _
    rw [written] at digits ⊢
    unfold integer?
    split
    · next same =>
      cases same
      exact absurd digit (by decide)
    · next same =>
      cases same
      exact absurd digit (by decide)
    · rw [digits]
      rfl
  | negSucc m =>
    change (natural? (ofNat (m + 1))).map (fun n => -(n : Int)) = _
    rw [natural?_ofNat]
    rfl

end Knapsack.Numeral
