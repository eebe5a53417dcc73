import Knapsack.Json.String

/-!
# Strings in a JSON text

A character may be spelled in more than one way: as itself, by a short escape, or by the escape of
its number, which for the characters above `0xffff` are the escapes of two surrogates.

1. However a text is spelled, it is read as that text (`string_spells`), and so is what is written
   for it (`string_escaped`).
2. A string that is only skipped need not stand for a text: its surrogates may stand alone
   (`skipString_symbols`). What is written for a text is such a string (`symbols_escape`).
-/

namespace Knapsack.Json

/-! ## Escapes -/

/-- The letters of the short escapes, with what they stand for. -/
def shortEscapes : List (Char × Char) :=
  [('"', '"'), ('\\', '\\'), ('/', '/'), ('b', '\x08'), ('f', '\x0c'), ('n', '\n'), ('r', '\r'),
    ('t', '\t')]

theorem shortEscape?_eq_some_iff {d c : Char} :
    shortEscape? d = some c ↔ (d, c) ∈ shortEscapes := by
  constructor
  · unfold shortEscape?
    repeat' split
    all_goals
      intro stands
      cases stands
    all_goals
      subst d
      decide
  · intro listed
    simp only [shortEscapes, List.mem_cons, Prod.mk.injEq, List.not_mem_nil, or_false] at listed
    rcases listed with ⟨rfl, rfl⟩ | ⟨rfl, rfl⟩ | ⟨rfl, rfl⟩ | ⟨rfl, rfl⟩ | ⟨rfl, rfl⟩ | ⟨rfl, rfl⟩ |
      ⟨rfl, rfl⟩ | ⟨rfl, rfl⟩
    all_goals rfl

/-- A hexadecimal digit, small or capital. -/
def HexDigit (c : Char) (n : Nat) : Prop :=
  n < 16 ∧ (c = n.digitChar ∨ c = n.digitChar.toUpper)

theorem hexDigit?_digitChar :
    ∀ n < 16, hexDigit? n.digitChar = some n ∧ hexDigit? n.digitChar.toUpper = some n := by decide

theorem utf8Size_digitChar :
    ∀ n < 16, n.digitChar.utf8Size = 1 ∧ n.digitChar.toUpper.utf8Size = 1 := by decide

theorem HexDigit.of_lt {n : Nat} (small : n < 16) : HexDigit n.digitChar n :=
  ⟨small, .inl rfl⟩

theorem HexDigit.hexDigit? {c : Char} {n : Nat} (digit : HexDigit c n) :
    Json.hexDigit? c = some n := by
  obtain ⟨small, rfl | rfl⟩ := digit
  · exact (hexDigit?_digitChar n small).1
  · exact (hexDigit?_digitChar n small).2

theorem HexDigit.utf8Size {c : Char} {n : Nat} (digit : HexDigit c n) : c.utf8Size = 1 := by
  obtain ⟨small, rfl | rfl⟩ := digit
  · exact (utf8Size_digitChar n small).1
  · exact (utf8Size_digitChar n small).2

/-- The four digits of a unit. -/
inductive Hex : List Char → Nat → Prop where
  | digits {a b c d : Char} {w x y z unit : Nat} (first : HexDigit a w) (second : HexDigit b x)
      (third : HexDigit c y) (fourth : HexDigit d z)
      (value : unit = 16 * (16 * (16 * w + x) + y) + z) : Hex [a, b, c, d] unit

/-- The four digits of an escape are four bytes, whatever comes after them. -/
theorem Hex.fourBytesLeft {digits : List Char} {unit : Nat} (hex : Hex digits unit)
    (rest : List Char) : fourBytesLeft (digits ++ rest) = true := by
  cases hex with
  | digits first second third fourth _ =>
    simp [Json.fourBytesLeft, first.utf8Size, second.utf8Size, third.utf8Size, fourth.utf8Size]

section

variable {digits found : List Char} {unit : Nat} (hex : Hex digits unit) (rest : List Char)
include hex

/-- A unit that is no surrogate is read as the character of its number. -/
theorem stringFrom_unit (character : unit < 0xd800 ∨ 0xdfff < unit) :
    stringFrom .plain found ('\\' :: 'u' :: (digits ++ rest)) =
      stringFrom .plain (Char.ofNat unit :: found) rest := by
  have enough := hex.fourBytesLeft rest
  have trailing : ¬(0xdc00 ≤ unit ∧ unit ≤ 0xdfff) := by omega
  have leading : ¬(0xd800 ≤ unit ∧ unit ≤ 0xdbff) := by omega
  cases hex with
  | digits first second third fourth value =>
    subst value
    simp only [List.cons_append, List.nil_append] at enough ⊢
    simp [stringFrom, shortEscape?, enough, first.hexDigit?, second.hexDigit?, third.hexDigit?,
      fourth.hexDigit?, trailing, leading]

theorem stringFrom_leading (leading : 0xd800 ≤ unit ∧ unit ≤ 0xdbff) :
    stringFrom .plain found ('\\' :: 'u' :: (digits ++ rest)) =
      stringFrom (.paired unit) found rest := by
  have enough := hex.fourBytesLeft rest
  have trailing : ¬(0xdc00 ≤ unit ∧ unit ≤ 0xdfff) := by omega
  cases hex with
  | digits first second third fourth value =>
    subst value
    simp only [List.cons_append, List.nil_append] at enough ⊢
    simp [stringFrom, shortEscape?, enough, first.hexDigit?, second.hexDigit?, third.hexDigit?,
      fourth.hexDigit?, trailing, leading]

theorem stringFrom_trailing {lead : Nat} (trailing : 0xdc00 ≤ unit ∧ unit ≤ 0xdfff) :
    stringFrom (.paired lead) found ('\\' :: 'u' :: (digits ++ rest)) =
      stringFrom .plain
        (Char.ofNat (0x10000 + (lead - 0xd800) * 0x400 + (unit - 0xdc00)) :: found) rest := by
  have enough := hex.fourBytesLeft rest
  cases hex with
  | digits first second third fourth value =>
    subst value
    simp only [List.cons_append, List.nil_append] at enough ⊢
    simp [stringFrom, enough, first.hexDigit?, second.hexDigit?, third.hexDigit?,
      fourth.hexDigit?, trailing]

theorem skipStringFrom_unit :
    skipStringFrom .plain ('\\' :: 'u' :: (digits ++ rest)) = skipStringFrom .plain rest := by
  have enough := hex.fourBytesLeft rest
  cases hex with
  | digits first second third fourth value =>
    simp only [List.cons_append, List.nil_append] at enough ⊢
    simp [skipStringFrom, shortEscape?, enough, first.hexDigit?, second.hexDigit?,
      third.hexDigit?, fourth.hexDigit?]

end

/-! ## Strings that are read -/

/-- A way to write a character inside a string. -/
inductive Spelling (c : Char) : List Char → Prop where
  | plain (quote : c ≠ '"') (backslash : c ≠ '\\') (shown : ¬ c.toNat < 0x20) : Spelling c [c]
  | short {d : Char} (stands : (d, c) ∈ shortEscapes) : Spelling c ['\\', d]
  | unit {digits : List Char} (hex : Hex digits c.toNat) : Spelling c ('\\' :: 'u' :: digits)
  | pair {high low : List Char} (above : 0xffff < c.toNat)
      (leading : Hex high (0xd800 + (c.toNat - 0x10000) / 0x400))
      (trailing : Hex low (0xdc00 + (c.toNat - 0x10000) % 0x400)) :
      Spelling c ('\\' :: 'u' :: (high ++ '\\' :: 'u' :: low))

/-- The inside of a string that stands for a text. -/
inductive Spells : List Char → List Char → Prop where
  | nil : Spells [] []
  | cons {c : Char} {spelling body text : List Char} (first : Spelling c spelling)
      (later : Spells body text) : Spells (spelling ++ body) (c :: text)

/-- No character is a surrogate. -/
theorem toNat_range (c : Char) : c.toNat < 0xd800 ∨ 0xdfff < c.toNat ∧ c.toNat < 0x110000 :=
  c.valid

theorem stringFrom_spelling {c : Char} {spelling : List Char} (spelled : Spelling c spelling)
    (found rest : List Char) :
    stringFrom .plain found (spelling ++ rest) = stringFrom .plain (c :: found) rest := by
  cases spelled with
  | plain quote backslash shown => simp [stringFrom, quote, backslash, shown]
  | short stands => simp [stringFrom, shortEscape?_eq_some_iff.mpr stands]
  | unit hex =>
    have character := toNat_range c
    rw [List.cons_append, List.cons_append, stringFrom_unit hex rest (by omega), Char.ofNat_toNat]
  | @pair high low above leading trailing =>
    have range := toNat_range c
    have quotient : (c.toNat - 0x10000) / 0x400 < 0x400 := by omega
    have remainder : (c.toNat - 0x10000) % 0x400 < 0x400 := Nat.mod_lt _ (by decide)
    -- The two halves of the number make up the number again.
    have whole : 0x10000 + (0xd800 + (c.toNat - 0x10000) / 0x400 - 0xd800) * 0x400 +
        (0xdc00 + (c.toNat - 0x10000) % 0x400 - 0xdc00) = c.toNat := by omega
    rw [List.cons_append, List.cons_append, List.append_assoc,
      stringFrom_leading leading _ (by omega), List.cons_append, List.cons_append,
      stringFrom_trailing trailing rest (by omega), whole, Char.ofNat_toNat]

theorem stringFrom_spells {body text : List Char} (spells : Spells body text)
    (found rest : List Char) :
    stringFrom .plain found (body ++ '"' :: rest) = .ok (found.reverse ++ text, rest) := by
  induction spells generalizing found with
  | nil => simp [stringFrom]
  | cons first _ ih =>
    rw [List.append_assoc, stringFrom_spelling first, ih, List.reverse_cons, List.append_assoc,
      List.singleton_append]

/-- However a text is spelled, it is read as that text. -/
theorem string_spells {body text : List Char} (spells : Spells body text) (rest : List Char) :
    string (body ++ '"' :: rest) = .ok (text, rest) :=
  stringFrom_spells spells [] rest

/-! ## Strings that are skipped -/

/-- A character of a string, or an escape in it. -/
inductive Symbol : List Char → Prop where
  | plain {c : Char} (quote : c ≠ '"') (backslash : c ≠ '\\') (shown : ¬ c.toNat < 0x20) :
      Symbol [c]
  | short {d c : Char} (stands : (d, c) ∈ shortEscapes) : Symbol ['\\', d]
  | unit {digits : List Char} {unit : Nat} (hex : Hex digits unit) :
      Symbol ('\\' :: 'u' :: digits)

/-- The inside of a well-formed string, whether it stands for a text or not. -/
inductive Symbols : List Char → Prop where
  | nil : Symbols []
  | cons {symbol body : List Char} (first : Symbol symbol) (later : Symbols body) :
      Symbols (symbol ++ body)

theorem Symbol.symbols {symbol : List Char} (wellFormed : Symbol symbol) : Symbols symbol := by
  have alone := Symbols.cons wellFormed .nil
  rwa [List.append_nil] at alone

theorem Symbols.append {body later : List Char} (symbols : Symbols body)
    (laterSymbols : Symbols later) : Symbols (body ++ later) := by
  induction symbols with
  | nil => exact laterSymbols
  | cons first _ ih =>
    rw [List.append_assoc]
    exact .cons first ih

theorem Spelling.symbols {c : Char} {spelling : List Char} (spelled : Spelling c spelling) :
    Symbols spelling := by
  cases spelled with
  | plain quote backslash shown => exact (Symbol.plain quote backslash shown).symbols
  | short stands => exact (Symbol.short stands).symbols
  | unit hex => exact (Symbol.unit hex).symbols
  | pair _ leading trailing =>
    exact (Symbol.unit leading).symbols.append (Symbol.unit trailing).symbols

/-- A string that stands for a text is well formed. -/
theorem Spells.symbols {body text : List Char} (spells : Spells body text) : Symbols body := by
  induction spells with
  | nil => exact .nil
  | cons first _ ih => exact first.symbols.append ih

theorem skipStringFrom_symbol {symbol : List Char} (wellFormed : Symbol symbol)
    (rest : List Char) :
    skipStringFrom .plain (symbol ++ rest) = skipStringFrom .plain rest := by
  cases wellFormed with
  | plain quote backslash shown => simp [skipStringFrom, quote, backslash, shown]
  | short stands => simp [skipStringFrom, shortEscape?_eq_some_iff.mpr stands]
  | unit hex => exact skipStringFrom_unit hex rest

/-- A well-formed string is skipped to its closing quote. -/
theorem skipString_symbols {body : List Char} (symbols : Symbols body) (rest : List Char) :
    skipString (body ++ '"' :: rest) = .ok rest := by
  unfold skipString
  induction symbols with
  | nil => simp [skipStringFrom]
  | cons first _ ih => rw [List.append_assoc, skipStringFrom_symbol first, ih]

/-! ## Strings that are written -/

/-- How a character is written. -/
inductive Escaped (c : Char) : List Char → Prop where
  | short {d : Char} (stands : shortEscape? d = some c) : Escaped c ['\\', d]
  | control (below : c.toNat < 0x20) :
      Escaped c ['\\', 'u', '0', '0', (c.toNat / 16).digitChar, (c.toNat % 16).digitChar]
  | plain (quote : c ≠ '"') (backslash : c ≠ '\\') (shown : ¬ c.toNat < 0x20) : Escaped c [c]

theorem escaped (c : Char) : Escaped c (escape c) := by
  unfold escape
  repeat' split
  all_goals first
    | exact .control ‹_›
    | exact .plain ‹_› ‹_› ‹_›
    | subst c; exact .short rfl

/-- The escape of a control has the digits of its number. -/
theorem hex_of_lt {n : Nat} (small : n < 0x20) :
    Hex ['0', '0', (n / 16).digitChar, (n % 16).digitChar] n := by
  have zero : HexDigit '0' 0 := .of_lt (by decide)
  exact .digits zero zero (.of_lt (by omega)) (.of_lt (by omega)) (by omega)

theorem spelling_escape (c : Char) : Spelling c (escape c) := by
  have escaped := escaped c
  generalize escape c = text at escaped
  cases escaped with
  | short stands => exact .short (shortEscape?_eq_some_iff.mp stands)
  | control below => exact .unit (hex_of_lt below)
  | plain quote backslash shown => exact .plain quote backslash shown

theorem spells_escape (text : List Char) : Spells (text.flatMap escape) text := by
  induction text with
  | nil => exact .nil
  | cons c text ih => exact .cons (spelling_escape c) ih

theorem string_escaped (text rest : List Char) :
    string (text.flatMap escape ++ '"' :: rest) = .ok (text, rest) :=
  string_spells (spells_escape text) rest

theorem symbols_escape (text : List Char) : Symbols (text.flatMap escape) :=
  (spells_escape text).symbols

end Knapsack.Json
