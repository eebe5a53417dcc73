import Knapsack.Proofs.Choice
import Knapsack.Proofs.Instance.Token

/-!
# The two lines of an instance

The first line shows the capacity in decimal, with white space behind it, and is read as the capacity
(`capacity_append`). The second shows items as tokens `weight:value` in decimal, with delimiters
before, behind and between them: the tokens are found again (`tokens_of_spread`), each shows its item
(`token_tokenOf`), and the line is read as the items (`Shows.items_eq`). The carriage return of a line
ending changes neither line (`capacity_dropReturn`, `items_dropReturn`).
-/

namespace Knapsack.Instance.Lines

/-! ## Finding tokens -/

/-- A run of the characters that may stand between tokens of one line. -/
def Gap (gap : List Char) : Prop :=
  ∀ c ∈ gap, c = ' ' ∨ c = ',' ∨ c = '\t' ∨ c = '\r'

instance (gap : List Char) : Decidable (Gap gap) :=
  List.decidableBAll _ gap

/-- Tokens with runs between and behind them; only the last run may be empty. -/
inductive Spread : List (List Char) → List Char → Prop where
  | last {token gap : List Char} (behind : Gap gap) : Spread [token] (token ++ gap)
  | cons {token gap line : List Char} {tokens : List (List Char)} (between : Gap gap)
      (parted : gap ≠ []) (later : Spread tokens line) :
      Spread (token :: tokens) (token ++ (gap ++ line))

theorem Gap.isDelimiter {gap : List Char} (isGap : Gap gap) :
    ∀ c ∈ gap, isDelimiter c = true := by
  intro c member
  obtain rfl | rfl | rfl | rfl := isGap c member <;> rfl

theorem Gap.noFeed {gap : List Char} (isGap : Gap gap) : '\n' ∉ gap := by
  intro feed
  obtain same | same | same | same := isGap _ feed <;> exact absurd same (by decide)

theorem Spread.noFeed {words : List (List Char)} {line : List Char} (spread : Spread words line)
    (plain : ∀ word ∈ words, '\n' ∉ word) : '\n' ∉ line := by
  induction spread with
  | @last word gap behind =>
    rw [List.mem_append, not_or]
    exact ⟨plain word List.mem_cons_self, behind.noFeed⟩
  | @cons word gap line words between _ _ ih =>
    rw [List.mem_append, List.mem_append, not_or, not_or]
    exact ⟨plain word List.mem_cons_self, between.noFeed,
      ih fun other member => plain other (List.mem_cons_of_mem word member)⟩

theorem tokensFrom_append {word : List Char} (plain : ∀ c ∈ word, isDelimiter c = false)
    (token rest : List Char) :
    tokensFrom token (word ++ rest) = tokensFrom (word.reverse ++ token) rest := by
  induction word generalizing token with
  | nil => rfl
  | cons c word ih =>
    obtain ⟨first, others⟩ := List.forall_mem_cons.mp plain
    rw [List.cons_append, tokensFrom, if_neg (by simp [first]), ih others, List.reverse_cons,
      List.append_assoc]
    rfl

theorem tokens_append_of_delimiters {gap : List Char} (delimiters : ∀ c ∈ gap, isDelimiter c = true)
    (rest : List Char) : tokens (gap ++ rest) = tokens rest := by
  unfold tokens
  induction gap with
  | nil => rfl
  | cons c gap ih =>
    obtain ⟨first, others⟩ := List.forall_mem_cons.mp delimiters
    rw [List.cons_append, tokensFrom, if_pos first]
    exact ih others

theorem tokens_of_delimiters {gap : List Char} (delimiters : ∀ c ∈ gap, isDelimiter c = true) :
    tokens gap = [] := by
  have all := tokens_append_of_delimiters delimiters []
  rwa [List.append_nil] at all

/-- A token ends where a delimiter follows, or nothing. -/
theorem tokensFrom_ended {token rest : List Char} (nonempty : token ≠ [])
    (ended : ∀ c ∈ rest.head?, isDelimiter c = true) :
    tokensFrom token rest = token.reverse :: tokens rest := by
  have notEmpty : ¬ token.isEmpty = true := by simpa using nonempty
  cases rest with
  | nil => exact if_neg notEmpty
  | cons c rest =>
    unfold tokens
    rw [tokensFrom, tokensFrom, if_pos (ended c rfl), if_pos (ended c rfl), if_neg notEmpty]
    rfl

theorem tokens_append {word rest : List Char} (nonempty : word ≠ [])
    (plain : ∀ c ∈ word, isDelimiter c = false)
    (ended : ∀ c ∈ rest.head?, isDelimiter c = true) :
    tokens (word ++ rest) = word :: tokens rest := by
  have begun := tokensFrom_append plain [] rest
  rw [List.append_nil] at begun
  have reversed : word.reverse ≠ [] := by simpa using nonempty
  rw [tokens, begun, tokensFrom_ended reversed ended, List.reverse_reverse]

/-- Delimiters behind a line make no difference. -/
theorem tokensFrom_append_of_delimiters {gap : List Char}
    (delimiters : ∀ c ∈ gap, isDelimiter c = true) (token line : List Char) :
    tokensFrom token (line ++ gap) = tokensFrom token line := by
  induction line generalizing token with
  | nil =>
    cases token with
    | nil => exact tokens_of_delimiters delimiters
    | cons d token =>
      have first : ∀ c ∈ gap.head?, isDelimiter c = true := fun c first =>
        delimiters c (List.mem_of_mem_head? first)
      rw [List.nil_append, tokensFrom_ended (List.cons_ne_nil d token) first,
        tokens_of_delimiters delimiters]
      rfl
  | cons c line ih => rw [List.cons_append, tokensFrom, tokensFrom, ih, ih]

theorem tokens_dropReturn (line : List Char) : tokens (Text.dropReturn line) = tokens line := by
  obtain ⟨ending, same, returns⟩ := Text.eq_dropReturn_append line
  have delimiters : ∀ c ∈ ending, isDelimiter c = true := by
    intro c member
    rw [returns c member]
    rfl
  calc tokens (Text.dropReturn line)
      = tokens (Text.dropReturn line ++ ending) :=
        (tokensFrom_append_of_delimiters delimiters [] _).symm
    _ = tokens line := by rw [← same]

theorem tokens_of_spread {words : List (List Char)} {line : List Char} (spread : Spread words line)
    (nonempty : ∀ word ∈ words, word ≠ [])
    (plain : ∀ word ∈ words, ∀ c ∈ word, isDelimiter c = false) : tokens line = words := by
  induction spread with
  | @last word gap behind =>
    have delimiters := behind.isDelimiter
    rw [tokens_append (nonempty word List.mem_cons_self) (plain word List.mem_cons_self)
      fun c first => delimiters c (List.mem_of_mem_head? first), tokens_of_delimiters delimiters]
  | @cons word gap line words between parted _ ih =>
    have delimiters := between.isDelimiter
    obtain ⟨d, gap, rfl⟩ := List.exists_cons_of_ne_nil parted
    have ended : ∀ c ∈ (d :: gap ++ line).head?, isDelimiter c = true := by
      rintro c ⟨⟩
      exact delimiters d List.mem_cons_self
    rw [tokens_append (nonempty word List.mem_cons_self) (plain word List.mem_cons_self) ended,
      tokens_append_of_delimiters delimiters,
      ih (fun other member => nonempty other (List.mem_cons_of_mem word member))
        fun other member => plain other (List.mem_cons_of_mem word member)]

/-! ## Writing a token -/

/-- An item in decimal. -/
def tokenOf (item : Item) : List Char :=
  Numeral.ofInt item.weight.toInt ++ ':' :: Numeral.ofInt item.value.toInt

/-- A number that is not negative is read from its decimal form. -/
theorem amount?_ofInt {x : Int32} (nonneg : 0 ≤ x) : amount? (Numeral.ofInt x.toInt) = some x := by
  have lower : 0 ≤ x.toInt := Int32.le_iff_toInt_le.mp nonneg
  have upper : x.toInt ≤ 2147483647 := Int.le_sub_one_of_lt x.toInt_lt
  exact amount?_eq_some_iff.mpr
    ⟨x.toInt, Numeral.denotes_ofInt x.toInt, ⟨lower, upper⟩, (Int32.ofInt_toInt x).symm⟩

theorem token_tokenOf {item : Item} (nonneg : 0 ≤ item.weight) : Token (tokenOf item) item := by
  obtain ⟨weight, value⟩ := item
  have lower : 0 ≤ weight.toInt := Int32.le_iff_toInt_le.mp nonneg
  have token := Token.intro (Numeral.denotes_ofInt weight.toInt)
    ⟨lower, Int.le_sub_one_of_lt weight.toInt_lt⟩ (Numeral.denotes_ofInt value.toInt)
    ⟨value.le_toInt, Int.le_sub_one_of_lt value.toInt_lt⟩
  rwa [Int32.ofInt_toInt, Int32.ofInt_toInt] at token

theorem tokenOf_ne_nil (item : Item) : tokenOf item ≠ [] :=
  List.append_ne_nil_of_right_ne_nil _ (List.cons_ne_nil _ _)

/-- The characters of a token are no others than a numeral's and the colon. -/
theorem ne_of_mem_tokenOf {item : Item} {c d : Char} (member : c ∈ tokenOf item)
    (noSign : d ≠ '-') (noDigit : d.isDigit = false) (noColon : d ≠ ':') : c ≠ d := by
  obtain weight | later := List.mem_append.mp member
  · exact Numeral.ne_of_mem_ofInt weight noSign noDigit
  obtain rfl | value := List.mem_cons.mp later
  · exact noColon.symm
  · exact Numeral.ne_of_mem_ofInt value noSign noDigit

theorem isDelimiter_of_mem_tokenOf {item : Item} {c : Char} (member : c ∈ tokenOf item) :
    isDelimiter c = false := by
  simp only [isDelimiter, Bool.or_eq_false_iff, beq_eq_false_iff_ne]
  and_intros <;> exact ne_of_mem_tokenOf member (by decide) rfl (by decide)

/-! ## Reading a line -/

theorem isBlank_of_mem_ofInt {n : Int} {c : Char} (member : c ∈ Numeral.ofInt n) :
    Text.isBlank c = false :=
  isBlank_of_denotes (Numeral.denotes_ofInt n) member

/-- A capacity is read from its decimal form, whatever white space is behind it. -/
theorem capacity_append {x : Int32} (nonneg : 0 ≤ x) {gap : List Char}
    (blank : ∀ c ∈ gap, Text.isBlank c = true) :
    capacity (Numeral.ofInt x.toInt ++ gap) = .ok x := by
  unfold capacity
  rw [Text.trim_append_of_blank _ blank, Text.trim_of_shown fun _ => isBlank_of_mem_ofInt,
    amount?_ofInt nonneg]

theorem capacity_dropReturn (line : List Char) :
    capacity (Text.dropReturn line) = capacity line := by
  unfold capacity
  rw [Text.trim_dropReturn]

theorem items_dropReturn (line : List Char) : items (Text.dropReturn line) = items line := by
  unfold items
  rw [tokens_dropReturn]

theorem forall₂_tokenOf {items : List Item} (nonneg : NonNegative items) :
    List.Forall₂ Token (items.map tokenOf) items := by
  rw [List.forall₂_map_left_iff, List.forall₂_same]
  exact fun item member => token_tokenOf (nonneg item member)

/-- A line that shows items, with a run before them, which may be empty. -/
inductive Shows (items : List Item) : List Char → Prop where
  | intro {lead body : List Char} (before : Gap lead) (spread : Spread (items.map tokenOf) body) :
      Shows items (lead ++ body)

namespace Shows

variable {list : List Item} {line : List Char}

theorem tokens_eq (shows : Shows list line) : tokens line = list.map tokenOf := by
  obtain ⟨before, spread⟩ := shows
  rw [tokens_append_of_delimiters before.isDelimiter]
  refine tokens_of_spread spread ?_ ?_
  · intro word member
    obtain ⟨item, -, rfl⟩ := List.mem_map.mp member
    exact tokenOf_ne_nil item
  · intro word member c
    obtain ⟨item, -, rfl⟩ := List.mem_map.mp member
    exact isDelimiter_of_mem_tokenOf

theorem nonempty (shows : Shows list line) : list ≠ [] := by
  obtain ⟨_, spread⟩ := shows
  rintro rfl
  cases spread

theorem line_ne_nil (shows : Shows list line) : line ≠ [] := by
  rintro rfl
  exact shows.nonempty (List.map_eq_nil_iff.mp shows.tokens_eq.symm)

theorem items_eq (shows : Shows list line) (nonneg : NonNegative list) : items line = .ok list := by
  obtain ⟨first, others, rfl⟩ := List.exists_cons_of_ne_nil shows.nonempty
  unfold items
  rw [shows.tokens_eq, mapM_item_of_shows (forall₂_tokenOf nonneg)]

/-- Items are shown in one line. -/
theorem oneLine (shows : Shows list line) : '\n' ∉ line := by
  obtain ⟨before, spread⟩ := shows
  rw [List.mem_append, not_or]
  refine ⟨before.noFeed, spread.noFeed ?_⟩
  intro word member
  obtain ⟨item, -, rfl⟩ := List.mem_map.mp member
  exact fun feed => ne_of_mem_tokenOf feed (by decide) rfl (by decide) rfl

end Shows

end Knapsack.Instance.Lines
