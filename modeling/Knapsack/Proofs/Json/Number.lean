import Knapsack.Proofs.Json.Reads

/-!
# Numbers in a JSON text

What is written for a number is read back as that number: `reads_int32` for numbers of 32 bits with
sign, and `reads_word` for words. Both come from `number_ofInt`: all digits are taken, they make a
word, and none of the integers from `-2^63` to `2^64 - 1` is made a double.
-/

namespace Knapsack.Json

/-! ## Digits -/

theorem le_ofDigitChars (digits : List Char) (significand : Nat) :
    significand ≤ Nat.ofDigitChars 10 digits significand := by
  induction digits generalizing significand with
  | nil => exact Nat.le_refl _
  | cons c digits ih =>
    rw [Nat.ofDigitChars_cons]
    exact Nat.le_trans (by omega) (ih _)

/-- Digits that make a word are all taken. -/
theorem absorb_of_lt {digits : List Char} {significand : Nat}
    (small : Nat.ofDigitChars 10 digits significand < wordCount) :
    absorb significand digits = (Nat.ofDigitChars 10 digits significand, 0) := by
  induction digits generalizing significand with
  | nil => rfl
  | cons c digits ih =>
    rw [Nat.ofDigitChars_cons] at small ⊢
    have next := Nat.lt_of_le_of_lt (le_ofDigitChars digits _) small
    simp only [absorb, if_pos next]
    exact ih small

theorem afterDigits_of_stops {negative : Bool} {significand : Nat} {rest : List Char} {n : Number}
    (stops : Stops rest) (made : whole negative significand = .ok n) :
    afterDigits negative significand 0 rest = .ok (n, rest) := by
  unfold afterDigits
  split
  · exact absurd rfl (stops _ rfl).2.1
  · exact absurd rfl (stops _ rfl).2.2.1
  · exact absurd rfl (stops _ rfl).2.2.2
  · rw [if_pos rfl, made]

/-- A numeral without sign is read to its last digit. -/
theorem unsigned_ofNat {negative : Bool} {m : Nat} {rest : List Char} {n : Number}
    (small : m < wordCount) (stops : Stops rest) (made : whole negative m = .ok n) :
    unsigned negative (Numeral.ofNat m ++ rest) = .ok (n, rest) := by
  have taken : absorb 0 (Numeral.ofNat m) = (m, 0) := by
    have value : Nat.ofDigitChars 10 (Numeral.ofNat m) 0 = m := Nat.ofDigitChars_ten_toDigits
    rw [absorb_of_lt (by rwa [value]), value]
  have digits : ∀ c ∈ Numeral.ofNat m, c.isDigit = true := fun _ => Numeral.isDigit_of_mem_ofNat
  have ahead := takeWhile_digits digits (startsWithDigit_of_stops stops)
  have behind := dropWhile_digits digits (startsWithDigit_of_stops stops)
  obtain ⟨c, tail, written, digit, zero⟩ := Numeral.ofNat_eq_cons m
  by_cases first : c = '0'
  · cases zero first
    have alone : startsWithDigit rest = false := startsWithDigit_of_stops stops
    change unsigned negative ('0' :: rest) = _
    simp only [unsigned, alone]
    exact afterDigits_of_stops stops made
  · rw [written, List.cons_append] at ahead behind ⊢
    simp only [unsigned, if_neg first, if_pos digit, ahead, behind, ← written, taken]
    exact afterDigits_of_stops stops made

/-! ## Integers -/

/-- An integer is read back if its sign and its digits fit into the words read. -/
theorem number_ofInt {n : Int} {rest : List Char} (lower : -9223372036854775808 ≤ n)
    (upper : n < wordCount) (stops : Stops rest) :
    number (Numeral.ofInt n ++ rest) = .ok (.integer n, rest) := by
  cases n with
  | ofNat m =>
    obtain ⟨c, tail, written, digit, _⟩ := Numeral.ofNat_eq_cons m
    have unsign : number (Numeral.ofNat m ++ rest) = unsigned false (Numeral.ofNat m ++ rest) := by
      rw [written, List.cons_append]
      unfold number
      split
      · next same =>
        cases same
        exact absurd digit (by decide)
      · rfl
    exact unsign.trans (unsigned_ofNat (Int.ofNat_lt.mp upper) stops rfl)
  | negSucc m =>
    have below : ¬ (m + 1 = 0 ∨ Nat.pow 2 63 < m + 1) := by
      change ¬ (m + 1 = 0 ∨ 9223372036854775808 < m + 1)
      omega
    have made : whole true (m + 1) = .ok (.integer (.negSucc m)) := by
      rw [whole, if_neg (by decide), if_neg below]
      rfl
    have small : m + 1 < wordCount := by
      unfold wordCount
      omega
    exact unsigned_ofNat small stops made

theorem begins_ofInt (n : Int) : Begins (Numeral.ofInt n) := by
  obtain ⟨c, tail, written, numeral⟩ := Numeral.ofInt_eq_cons n
  rw [written]
  exact begins_of_sign_or_digit numeral tail

theorem finds_integer {α : Type} {wanted : String} {accept : Int → Option α} {n : Int} {x : α}
    (lower : -9223372036854775808 ≤ n) (upper : n < wordCount) (accepted : accept n = some x) :
    Finds (integer wanted accept) (Numeral.ofInt n) x := by
  refine ⟨begins_ofInt n, fun {gap rest} blank stops => ?_⟩
  have here := (begins_ofInt n).skipSpace_gap blank rest
  have read := number_ofInt lower upper stops
  obtain ⟨c, tail, written, numeral⟩ := Numeral.ofInt_eq_cons n
  rw [written, List.cons_append] at here read ⊢
  simp only [integer, here, if_pos numeral, read, accepted]

theorem finds_int32 (x : Int32) : Finds int32 (Numeral.ofInt x.toInt) x := by
  have lower := x.le_toInt
  have upper := x.toInt_lt
  exact finds_integer (by omega) (by unfold wordCount; omega) (int32?_eq_some_iff.mpr rfl)

theorem finds_word {n : Nat} (small : n < wordCount) : Finds word (Numeral.ofNat n) n :=
  finds_integer (n := n) (by omega) (Int.ofNat_lt.mpr small) rfl

theorem reads_int32 (x : Int32) : Reads int32 (Numeral.ofInt x.toInt) x :=
  (finds_int32 x).reads

theorem reads_word {n : Nat} (small : n < wordCount) : Reads word (Numeral.ofNat n) n :=
  (finds_word small).reads

end Knapsack.Json
