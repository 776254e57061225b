import Mathlib.Data.List.Basic
import TypedSql.Proofs.Text.Camel

/-!
Names in snake case: words of small letters and digits that begin with a letter, and one underscore
between each word and the next.

Their Pascal and camel forms are identifiers of ASCII. In both forms a capital stands just where a
word begins, but the camel form hides that of the first word. So the name can be read back from
either form, and different names have different forms.
-/

namespace TypedSql.Text

def IsSnakeWord : List Char → Prop
  | [] => False
  | first :: rest => first.isLower ∧ ∀ c ∈ rest, c.isLower ∨ c.isDigit

instance (word : List Char) : Decidable (IsSnakeWord word) :=
  match word with
  | [] => inferInstanceAs (Decidable False)
  | first :: rest =>
    have := List.decidableBAll (fun c : Char => c.isLower ∨ c.isDigit) rest
    inferInstanceAs (Decidable (first.isLower ∧ ∀ c ∈ rest, c.isLower ∨ c.isDigit))

/-- One or more words, with an underscore between each and the next. -/
def IsSnakeName (name : String) : Prop :=
  ∃ words, words ≠ [] ∧ (∀ word ∈ words, IsSnakeWord word) ∧
    name.toList = ['_'].intercalate words

/-- A first letter of some case, with letters and digits of ASCII after it. -/
def IsIdentifier (first : Char → Bool) (text : String) : Prop :=
  ∃ c rest, text.toList = c :: rest ∧ first c ∧ ∀ d ∈ rest, d.isAlphanum

/-- A capital as the beginning of a word in snake case. -/
def separate (c : Char) : List Char :=
  if c.isUpper then ['_', c.toLower] else [c]

/-- A form with its words in snake case again. -/
def snakeChars (form : List Char) : List Char :=
  form.flatMap separate

section Characters

variable {c : Char}

theorem toNat_lt_of_snake (h : c.isLower ∨ c.isDigit) : c.toNat < 128 := by
  have hlast : c.toNat ≤ 122 := by
    rcases h with hlower | hdigit
    · exact UInt32.le_iff_toNat_le.mp (of_decide_eq_true (Bool.and_eq_true_iff.mp hlower).2)
    · exact Nat.le_trans (Char.isDigit_iff_toNat.mp hdigit).2 (by decide)
  omega

theorem toNat_lt_of_isLower (h : c.isLower) : c.toNat < 128 :=
  toNat_lt_of_snake (Or.inl h)

/-- Small letters and digits stay, and the capital of a small letter begins a word with it. -/
theorem separate_ascii (h : c.toNat < 128) :
    (c.isLower ∨ c.isDigit → separate c = [c] ∧ c.isAlphanum) ∧
    (c.isLower → separate c.toUpper = ['_', c] ∧ c.toUpper.isUpper ∧ c.toUpper.isAlphanum ∧
      c.toLower = c) :=
  ascii_forall c h (by decide +kernel)

theorem separate_of_snake (h : c.isLower ∨ c.isDigit) : separate c = [c] :=
  ((separate_ascii (toNat_lt_of_snake h)).1 h).1

theorem isAlphanum_of_snake (h : c.isLower ∨ c.isDigit) : c.isAlphanum :=
  ((separate_ascii (toNat_lt_of_snake h)).1 h).2

theorem separate_toUpper (h : c.isLower) : separate c.toUpper = ['_', c] :=
  ((separate_ascii (toNat_lt_of_isLower h)).2 h).1

theorem isUpper_toUpper (h : c.isLower) : c.toUpper.isUpper :=
  ((separate_ascii (toNat_lt_of_isLower h)).2 h).2.1

theorem isAlphanum_toUpper (h : c.isLower) : c.toUpper.isAlphanum :=
  ((separate_ascii (toNat_lt_of_isLower h)).2 h).2.2.1

theorem toLower_of_isLower (h : c.isLower) : c.toLower = c :=
  ((separate_ascii (toNat_lt_of_isLower h)).2 h).2.2.2

end Characters

section Words

variable {word : List Char} {words : List (List Char)}

theorem IsSnakeWord.exists_cons (h : IsSnakeWord word) :
    ∃ first rest, word = first :: rest ∧ first.isLower ∧ ∀ c ∈ rest, c.isLower ∨ c.isDigit := by
  cases word with
  | nil => exact absurd h not_false
  | cons first rest => exact ⟨first, rest, rfl, h⟩

theorem IsSnakeWord.underscore_notMem (h : IsSnakeWord word) : '_' ∉ word := by
  obtain ⟨first, rest, rfl, hfirst, hrest⟩ := h.exists_cons
  intro hmem
  rcases List.mem_cons.mp hmem with rfl | hmem
  · exact absurd hfirst (by decide)
  · exact absurd (hrest '_' hmem) (by decide)

theorem snakeChars_of_snake {chars : List Char} (h : ∀ c ∈ chars, c.isLower ∨ c.isDigit) :
    snakeChars chars = chars := by
  induction chars with
  | nil => rfl
  | cons c chars ih =>
      rw [List.forall_mem_cons] at h
      rw [snakeChars, List.flatMap_cons, separate_of_snake h.1]
      exact congrArg (c :: ·) (ih h.2)

/-- A word that begins with a capital begins with a new word. -/
theorem snakeChars_capitalize (h : IsSnakeWord word) :
    snakeChars (capitalize word) = '_' :: word := by
  obtain ⟨first, rest, rfl, hfirst, hrest⟩ := h.exists_cons
  rw [capitalize, capitals_ascii (toNat_lt_of_isLower hfirst), List.singleton_append, snakeChars,
    List.flatMap_cons, separate_toUpper hfirst]
  exact congrArg (['_', first] ++ ·) (snakeChars_of_snake hrest)

theorem isAlphanum_of_mem_capitalize (h : IsSnakeWord word) {c : Char} (hc : c ∈ capitalize word) :
    c.isAlphanum := by
  obtain ⟨first, rest, rfl, hfirst, hrest⟩ := h.exists_cons
  rw [capitalize, capitals_ascii (toNat_lt_of_isLower hfirst), List.singleton_append] at hc
  rcases List.mem_cons.mp hc with rfl | hc
  · exact isAlphanum_toUpper hfirst
  · exact isAlphanum_of_snake (hrest c hc)

theorem flatMap_underscore_cons (hwords : words ≠ []) :
    words.flatMap ('_' :: ·) = '_' :: ['_'].intercalate words := by
  induction words with
  | nil => exact absurd rfl hwords
  | cons word rest ih =>
      cases rest with
      | nil => simp
      | cons next rest =>
          rw [List.flatMap_cons, ih (List.cons_ne_nil next rest), List.intercalate_cons_cons]
          simp

/-- The words of the Pascal form. -/
theorem pascalChars_intercalate (hwords : words ≠ []) (h : ∀ word ∈ words, IsSnakeWord word) :
    pascalChars (['_'].intercalate words) = words.flatMap capitalize := by
  have hsplit : (['_'].intercalate words).splitOn '_' = words :=
    List.splitOn_intercalate '_' (fun word hword => (h word hword).underscore_notMem) hwords
  rw [pascalChars, hsplit]

end Words

section Names

variable {name : String}

/-- The words of a name are what stands between its underscores. -/
theorem isSnakeName_iff :
    IsSnakeName name ↔ ∀ word ∈ name.toList.splitOn '_', IsSnakeWord word := by
  constructor
  · rintro ⟨words, hwords, hsnake, hname⟩
    rw [hname,
      List.splitOn_intercalate '_' (fun word hword => (hsnake word hword).underscore_notMem)
      hwords]
    exact hsnake
  · intro hsnake
    exact ⟨_, List.splitOn_ne_nil '_' name.toList, hsnake, (List.intercalate_splitOn '_').symm⟩

instance (name : String) : Decidable (IsSnakeName name) :=
  decidable_of_iff _ isSnakeName_iff.symm

/-- The Pascal form tells all words of the name. -/
theorem IsSnakeName.snakeChars_pascalChars (h : IsSnakeName name) :
    snakeChars (pascalChars name.toList) = '_' :: name.toList := by
  obtain ⟨words, hwords, hsnake, hname⟩ := h
  calc snakeChars (pascalChars name.toList)
      = snakeChars (words.flatMap capitalize) := by
          rw [hname, pascalChars_intercalate hwords hsnake]
    _ = words.flatMap fun word => snakeChars (capitalize word) := List.flatMap_assoc
    _ = words.flatMap ('_' :: ·) :=
        List.flatMap_congr fun word hword => snakeChars_capitalize (hsnake word hword)
    _ = '_' :: name.toList := by rw [flatMap_underscore_cons hwords, hname]

/-- The Pascal form is a capital, with letters and digits after it, and the camel form begins with
the small letter of that capital. -/
theorem IsSnakeName.exists_pascalChars (h : IsSnakeName name) :
    ∃ first rest, first.isLower ∧ (∀ c ∈ rest, c.isAlphanum) ∧
      pascalChars name.toList = first.toUpper :: rest ∧
      uncapitalize (pascalChars name.toList) = first :: rest := by
  obtain ⟨words, hwords, hsnake, hname⟩ := h
  obtain ⟨word, others, rfl⟩ := List.exists_cons_of_ne_nil hwords
  rw [List.forall_mem_cons] at hsnake
  obtain ⟨first, tail, rfl, hfirst, htail⟩ := hsnake.1.exists_cons
  have hascii := toNat_lt_of_isLower hfirst
  have hpascal : pascalChars name.toList =
      first.toUpper :: (tail ++ others.flatMap capitalize) := by
    rw [hname, pascalChars_intercalate hwords (List.forall_mem_cons.mpr hsnake), List.flatMap_cons,
      capitalize, capitals_ascii hascii]
    rfl
  refine ⟨first, tail ++ others.flatMap capitalize, hfirst, ?_, hpascal, ?_⟩
  · intro c hc
    rcases List.mem_append.mp hc with hc | hc
    · exact isAlphanum_of_snake (htail c hc)
    · obtain ⟨other, hother, hc⟩ := List.mem_flatMap.mp hc
      exact isAlphanum_of_mem_capitalize (hsnake.2 other hother) hc
  · rw [hpascal, uncapitalize, smalls_toUpper hascii,
      toLower_of_isLower hfirst, List.singleton_append]

/-- The camel form tells all words of the name too. -/
theorem IsSnakeName.snakeChars_uncapitalize (h : IsSnakeName name) :
    snakeChars (uncapitalize (pascalChars name.toList)) = name.toList := by
  obtain ⟨first, rest, hfirst, -, hpascal, hcamel⟩ := h.exists_pascalChars
  have hname := h.snakeChars_pascalChars
  rw [hpascal, snakeChars, List.flatMap_cons, separate_toUpper hfirst] at hname
  rw [hcamel, snakeChars, List.flatMap_cons, separate_of_snake (Or.inl hfirst)]
  exact (List.cons.inj hname).2

theorem IsSnakeName.isIdentifier_camelCase (h : IsSnakeName name) :
    IsIdentifier Char.isLower (camelCase name) := by
  obtain ⟨first, rest, hfirst, hrest, -, hcamel⟩ := h.exists_pascalChars
  refine ⟨first, rest, ?_, hfirst, hrest⟩
  rw [camelCase, String.toList_ofList, hcamel]

theorem IsSnakeName.isIdentifier_pascalCase (h : IsSnakeName name) :
    IsIdentifier Char.isUpper (pascalCase name) := by
  obtain ⟨first, rest, hfirst, hrest, hpascal, -⟩ := h.exists_pascalChars
  refine ⟨first.toUpper, rest, ?_, isUpper_toUpper hfirst, hrest⟩
  rw [pascalCase, String.toList_ofList, hpascal]

theorem IsSnakeName.camelCase_inj {other : String} (h : IsSnakeName name)
    (hother : IsSnakeName other) :
    camelCase name = camelCase other ↔ name = other := by
  constructor
  · intro hforms
    have hchars := String.ofList_inj.mp hforms
    rw [← String.toList_inj, ← h.snakeChars_uncapitalize, hchars, hother.snakeChars_uncapitalize]
  · exact congrArg camelCase

theorem IsSnakeName.pascalCase_inj {other : String} (h : IsSnakeName name)
    (hother : IsSnakeName other) :
    pascalCase name = pascalCase other ↔ name = other := by
  constructor
  · intro hforms
    have hchars := String.ofList_inj.mp hforms
    have hnames := h.snakeChars_pascalChars
    rw [hchars, hother.snakeChars_pascalChars] at hnames
    exact String.toList_inj.mp (List.cons.inj hnames).2.symm
  · exact congrArg pascalCase

/-- Wider names share forms: words that begin with a digit, and words without characters. -/
example : camelCase "track_2" = camelCase "track2" ∧
    camelCase "play__count" = camelCase "play_count" := by
  decide +kernel

end Names

end TypedSql.Text
