import TypedSql.Proofs.Text.Word
import TypedSql.Query.Alias

/-!
The column lists that the compiler puts in place of embeds, as patterns in a text. A list repeats
the name of its table before every column. So the name tells lists apart: where lists of different
tables stand delimited in one text, they do not overlap. Nor does a list stand across an alias,
because a list has no space after a word and an alias follows one.
-/

namespace TypedSql.Text

/-- The shape of a column list, as far as it matters to a search: the table's name and a dot at the
front, and after any other word either a comma or nothing. -/
structure ListsColumns (table pattern : List Char) : Prop where
  word : IsWord table
  front : ∃ tail, pattern = table ++ '.' :: tail
  -- No space follows a word.
  unspaced : pattern.IsChain fun a b => isWordChar a = true → b ≠ ' '
  -- Where a word begins, either the table's name and a dot stand, or a column.
  starts : ∀ before rest, pattern = before ++ rest → ClosedLeft before →
    (∃ c ∈ rest.head?, isWordChar c = true) →
    (∃ tail, rest = table ++ '.' :: tail) ∨
      ∃ column tail, rest = column ++ tail ∧ (∀ c ∈ column, isWordChar c = true) ∧
        ∀ c ∈ tail.head?, c = ','
  -- The list ends in a word.
  last : ∀ c ∈ pattern.getLast?, isWordChar c = true

/-- A name that a dot follows, in two texts that are the same. -/
theorem eq_of_append_dot {table table' tail tail' : List Char} (htable : IsWord table)
    (htable' : IsWord table') (h : table ++ '.' :: tail = table' ++ '.' :: tail') :
    table = table' := by
  have hdot (rest : List Char) : ∀ c ∈ ('.' :: rest).head?, isWordChar c = false := by
    intro c hc
    obtain rfl : '.' = c := Option.some.inj hc
    decide
  exact (word_unique htable.2 htable'.2 (hdot tail) (hdot tail') h).1

/-- No name and dot begin with a word that something else follows. -/
theorem not_append_dot {table word tail rest : List Char} (htable : IsWord table)
    (hword : ∀ c ∈ word, isWordChar c = true)
    (hrest : ∀ c ∈ rest.head?, isWordChar c = false ∧ c ≠ '.') :
    table ++ '.' :: tail ≠ word ++ rest := by
  intro h
  have hdot : ∀ c ∈ ('.' :: tail).head?, isWordChar c = false := by
    intro c hc
    obtain rfl : '.' = c := Option.some.inj hc
    decide
  obtain ⟨-, hsame⟩ := word_unique htable.2 hword hdot (fun c hc => (hrest c hc).1) h
  exact (hrest '.' (by simp [← hsame])).2 rfl

namespace ListsColumns

variable {table table' pattern pattern' : List Char}

theorem head (h : ListsColumns table pattern) :
    ∃ c tail, pattern = c :: tail ∧ isWordChar c = true := by
  obtain ⟨tail, rfl⟩ := h.front
  obtain ⟨hne, hword⟩ := h.word
  cases table with
  | nil => exact absurd rfl hne
  | cons c table => exact ⟨c, table ++ '.' :: tail, rfl, hword c (by simp)⟩

theorem ne_nil (h : ListsColumns table pattern) : pattern ≠ [] := by
  obtain ⟨c, tail, rfl, -⟩ := h.head
  simp

theorem head_word (h : ListsColumns table pattern) :
    ∀ c ∈ pattern.head?, isWordChar c = true := by
  obtain ⟨c, tail, rfl, hword⟩ := h.head
  intro d hd
  obtain rfl : c = d := Option.some.inj hd
  exact hword

/-- The list of one column. -/
theorem of_column {column : List Char} (htable : IsWord table) (hcolumn : IsWord column) :
    ListsColumns table (table ++ '.' :: column) where
  word := htable
  front := ⟨column, rfl⟩
  unspaced := by
    have hchain : ∀ text : List Char, (∀ c ∈ text, c ≠ ' ') →
        text.IsChain fun a b => isWordChar a = true → b ≠ ' ' := by
      intro text htext
      induction text with
      | nil => exact List.isChain_nil
      | cons c text ih =>
          rw [List.isChain_cons]
          refine ⟨?_, ih fun d hd => htext d (by simp [hd])⟩
          intro d hd _
          exact htext d (List.mem_cons_of_mem c (List.mem_of_mem_head? hd))
    have hspace {c : Char} (hc : isWordChar c = true) : c ≠ ' ' := by
      rintro rfl
      cases hc
    apply hchain
    intro c hc
    rcases List.mem_append.mp hc with hc | hc
    · exact hspace (htable.2 c hc)
    · rcases List.mem_cons.mp hc with rfl | hc
      · decide
      · exact hspace (hcolumn.2 c hc)
  starts := by
    intro before rest hsplit hclosed hhead
    rcases List.append_eq_append_iff.mp hsplit with ⟨more, rfl, hrest⟩ | ⟨more, rfl, hrest⟩
    · cases more with
      | nil =>
          obtain ⟨c, hc, hword⟩ := hhead
          rw [List.nil_append] at hrest
          rw [← hrest] at hc
          obtain rfl : '.' = c := Option.some.inj hc
          cases hword
      | cons c more =>
          obtain ⟨-, rfl⟩ := List.cons.inj hrest
          refine Or.inr ⟨rest, [], by simp, ?_, by simp⟩
          exact fun c hc => hcolumn.2 c (by simp [hc])
    · left
      have hclosed' : ClosedLeft ([] ++ before) := hclosed
      have hbefore : before = [] :=
        hclosed'.eq_nil_of_word fun c hc => htable.2 c (by simp [hc])
      exact ⟨column, by simp [hrest, hbefore]⟩
  last := by
    intro c hc
    obtain ⟨hne, hword⟩ := hcolumn
    rw [List.getLast?_append, List.getLast?_cons_of_ne_nil hne] at hc
    apply hword
    cases hlast : column.getLast? with
    | none => exact absurd (List.getLast?_eq_none_iff.mp hlast) hne
    | some d =>
        rw [hlast] at hc
        obtain rfl : d = c := Option.some.inj hc
        exact List.mem_of_getLast? hlast

/-- A column before a list, with a comma and a space between. -/
theorem cons_column {column : List Char} (hcolumn : IsWord column)
    (h : ListsColumns table pattern) :
    ListsColumns table ((table ++ '.' :: column) ++ ',' :: ' ' :: pattern) where
  word := h.word
  front := ⟨column ++ ',' :: ' ' :: pattern, by simp⟩
  unspaced := by
    refine List.isChain_append.mpr ⟨(of_column h.word hcolumn).unspaced, ?_, ?_⟩
    · simp only [List.isChain_cons, List.head?_cons]
      refine ⟨?_, ?_, h.unspaced⟩
      · intro b _ hcomma
        cases hcomma
      · intro b _ hspace
        cases hspace
    · intro a _ b hb _
      obtain rfl : ',' = b := Option.some.inj hb
      decide
  starts := by
    intro before rest hsplit hclosed hhead
    -- The word begins behind the first reference, or inside it.
    rcases List.append_eq_append_iff.mp hsplit with ⟨more, rfl, hrest⟩ | ⟨more, hcol, hrest⟩
    -- Neither the comma nor the space begins a word, so it begins in the list that follows.
    · rcases more with _ | ⟨comma, _ | ⟨space, more⟩⟩
      · obtain ⟨c, hc, hword⟩ := hhead
        rw [List.nil_append] at hrest
        rw [← hrest] at hc
        obtain rfl : ',' = c := Option.some.inj hc
        cases hword
      · obtain ⟨c, hc, hword⟩ := hhead
        obtain ⟨-, rfl⟩ := List.cons.inj hrest
        obtain rfl : ' ' = c := Option.some.inj hc
        cases hword
      · have hpattern : pattern = more ++ rest := by
          simpa using (List.cons.inj (List.cons.inj hrest).2).2
        have hmore : ClosedLeft more := by
          intro c hc
          apply hclosed
          simp [List.getLast?_append, List.getLast?_cons, Option.mem_def.mp hc]
        exact h.starts more rest hpattern hmore hhead
    · cases more with
      | nil =>
          obtain ⟨c, hc, hword⟩ := hhead
          rw [hrest] at hc
          obtain rfl : ',' = c := Option.some.inj hc
          cases hword
      | cons d more =>
          have hhead' : ∃ c ∈ (d :: more).head?, isWordChar c = true := by
            obtain ⟨c, hc, hword⟩ := hhead
            rw [hrest] at hc
            exact ⟨c, hc, hword⟩
          rcases (of_column h.word hcolumn).starts before (d :: more) hcol hclosed hhead' with
            ⟨tail, htail⟩ | ⟨word, tail, htail, hword, hcomma⟩
          · exact Or.inl ⟨tail ++ ',' :: ' ' :: pattern, by simp [hrest, htail]⟩
          · refine Or.inr ⟨word, tail ++ ',' :: ' ' :: pattern, by simp [hrest, htail], hword, ?_⟩
            cases tail with
            | nil => simp
            | cons c tail => exact hcomma
  last := by
    intro c hc
    apply h.last
    rw [List.getLast?_append] at hc
    cases hlast : pattern.getLast? with
    | none => exact absurd (List.getLast?_eq_none_iff.mp hlast) h.ne_nil
    | some d => simpa [List.getLast?_cons, hlast] using hc

/-- No list begins inside a list of another table, if the one is delimited on the left and the other
on the right. -/
theorem length_le_of_later (h : ListsColumns table pattern) (h' : ListsColumns table' pattern')
    (hne : table ≠ table') {before rest rest' : List Char} (hleft : ClosedLeft before)
    (hright : ClosedRight rest) (heq : pattern ++ rest = before ++ (pattern' ++ rest')) :
    pattern.length ≤ before.length := by
  by_contra hlength
  obtain ⟨more, hsplit, hmore⟩ := exists_between heq.symm (by omega)
  obtain ⟨tail', htail'⟩ := h'.front
  have hhead : ∃ c ∈ more.head?, isWordChar c = true := by
    cases more with
    | nil => simp [hsplit] at hlength
    | cons c more =>
        obtain ⟨d, tail, rfl, hword⟩ := h'.head
        obtain ⟨rfl, -⟩ := List.cons.inj hmore
        exact ⟨d, rfl, hword⟩
  rw [htail', List.append_assoc, List.cons_append] at hmore
  rcases h.starts before more hsplit hleft hhead with
    ⟨tail, rfl⟩ | ⟨column, tail, rfl, hword, hcomma⟩
  · rw [List.append_assoc, List.cons_append] at hmore
    exact hne (eq_of_append_dot h'.word h.word hmore).symm
  · have hrest : ∀ c ∈ (tail ++ rest).head?, isWordChar c = false ∧ c ≠ '.' := by
      intro c hc
      cases tail with
      | nil => exact hright c hc
      | cons d tail =>
          obtain rfl : d = c := Option.some.inj hc
          obtain rfl : d = ',' := hcomma d rfl
          decide
    rw [List.append_assoc] at hmore
    exact not_append_dot h'.word hword hrest hmore

/-- Two lists of different tables that stand delimited do not overlap. -/
theorem outside (h : ListsColumns table pattern) (h' : ListsColumns table' pattern')
    (hne : table ≠ table') {before after left right : List Char} (hbefore : ClosedLeft before)
    (hafter : ClosedRight after) (hleft : ClosedLeft left) (hright : ClosedRight right)
    (heq : left ++ (pattern ++ right) = before ++ (pattern' ++ after)) :
    left.length + pattern.length ≤ before.length ∨
      before.length + pattern'.length ≤ left.length := by
  rcases Nat.le_total left.length before.length with hle | hle
  · left
    obtain ⟨between, rfl, hrest⟩ := exists_between heq hle
    have hlength := h.length_le_of_later h' hne hbefore.of_append hright hrest
    simp only [List.length_append]
    omega
  · right
    obtain ⟨between, rfl, hrest⟩ := exists_between heq.symm hle
    have hlength := h'.length_le_of_later h hne.symm hleft.of_append hafter hrest
    simp only [List.length_append]
    omega

/-- Where lists of different tables stand delimited, they do not overlap. -/
theorem apart (h : ListsColumns table pattern) (h' : ListsColumns table' pattern')
    (hne : table ≠ table') {before after : List Char} (hbefore : ClosedLeft before)
    (hafter : ClosedRight after) (hdelimited : Delimited pattern (before ++ (pattern' ++ after))) :
    Apart pattern before pattern' after := by
  intro left right heq
  obtain ⟨hleft, hright⟩ := hdelimited left right heq
  exact h.outside h' hne hbefore hafter hleft hright heq

/-- A list does not stand across an alias that follows a word, nor inside it. -/
theorem apart_alias (h : ListsColumns table pattern) {before name after : List Char}
    (hbefore : ∃ c ∈ before.getLast?, isWordChar c = true)
    (hname : ∀ c ∈ name, isWordChar c = true) (hafter : ClosedRight after) :
    Apart pattern before (" AS ".toList ++ name) after := by
  intro left right heq
  rcases Nat.lt_or_ge left.length before.length with hlt | hge
  · left
    -- A list that reaches into the alias would have the space of the alias right after a word.
    obtain ⟨between, rfl, hrest⟩ := exists_between heq (by omega)
    simp only [List.length_append]
    by_contra hlength
    obtain ⟨more, hpattern, hmore⟩ := exists_between hrest.symm (by omega)
    cases more with
    | nil => simp [hpattern] at hlength
    | cons space more =>
        obtain ⟨rfl, -⟩ := List.cons.inj hmore
        obtain ⟨c, hc, hword⟩ := hbefore
        have hne : between ≠ [] := by
          rintro rfl
          simp at hlt
        have hlast : c ∈ between.getLast? := by
          rwa [List.getLast?_append_of_ne_nil _ hne] at hc
        have hchain := h.unspaced
        rw [hpattern, List.isChain_append] at hchain
        exact hchain.2.2 c hlast ' ' rfl hword rfl
  · right
    obtain ⟨between, rfl, hrest⟩ := exists_between heq.symm hge
    by_contra hlength
    obtain ⟨tail, rfl⟩ := h.front
    have hchars : ' ' :: 'A' :: 'S' :: ' ' :: (name ++ after) =
        between ++ (table ++ '.' :: (tail ++ right)) := by simpa using hrest
    have hspace (rest : List Char) :
        ∀ c ∈ (' ' :: rest).head?, isWordChar c = false ∧ c ≠ '.' := by
      intro c hc
      obtain rfl : ' ' = c := Option.some.inj hc
      decide
    -- The list would begin at one of the four characters before the name, or in the name.
    rcases between with _ | ⟨a, _ | ⟨b, _ | ⟨c, _ | ⟨d, between⟩⟩⟩⟩
    · have hword : ∀ c ∈ [], isWordChar c = true := by simp
      exact not_append_dot h.word hword (hspace _) hchars.symm
    · have hword : ∀ c ∈ ['A', 'S'], isWordChar c = true := List.all_eq_true.mp rfl
      exact not_append_dot h.word hword (hspace _) (List.cons.inj hchars).2.symm
    · have hword : ∀ c ∈ ['S'], isWordChar c = true := List.all_eq_true.mp rfl
      exact not_append_dot h.word hword (hspace _) (List.cons.inj (List.cons.inj hchars).2).2.symm
    · have hword : ∀ c ∈ [], isWordChar c = true := by simp
      exact not_append_dot h.word hword (hspace _)
        (List.cons.inj (List.cons.inj (List.cons.inj hchars).2).2).2.symm
    · simp only [List.cons_append, List.cons.injEq] at hchars
      obtain ⟨-, -, -, -, hname'⟩ := hchars
      simp only [List.length_append, List.length_cons] at hlength
      obtain ⟨more, rfl, hmore⟩ := exists_between hname'.symm (by simp at hlength; omega)
      have hword : ∀ c ∈ more, isWordChar c = true := fun c hc => hname c (by simp [hc])
      exact not_append_dot h.word hword hafter hmore

end ListsColumns

end TypedSql.Text

namespace TypedSql.Query

open Text

variable {embed : Identifier} {column : Column} {columns : List Column}

theorem toList_reference (embed : Identifier) (column : Column) :
    (reference embed column).toList = embed.name.toList ++ '.' :: column.name.toList := by
  simp [reference]

theorem toList_aliased (embed : Identifier) (column : Column) :
    (aliased embed column).toList =
      (reference embed column).toList ++
        (" AS ".toList ++ (column.embeddedName embed).toList) := by
  simp [aliased]

/-- A name of a table and one of a column make up a word. -/
theorem isWord_embeddedName (hembed : IsWord embed.name.toList)
    (hcolumn : IsWord column.name.toList) : IsWord (column.embeddedName embed).toList := by
  refine ⟨by simp [Column.embeddedName], ?_⟩
  intro c hc
  simp only [Column.embeddedName, String.toList_append, List.mem_append] at hc
  rcases hc with (hc | hc) | hc
  · exact hembed.2 c hc
  · obtain rfl : c = '_' := by simpa using hc
    decide
  · exact hcolumn.2 c hc

theorem referenceList_singleton (embed : Identifier) (column : Column) :
    (referenceList embed [column]).toList = (reference embed column).toList := by
  simp [referenceList]

theorem referenceList_cons (embed : Identifier) (column next : Column) (rest : List Column) :
    (referenceList embed (column :: next :: rest)).toList =
      (reference embed column).toList ++
        ([',', ' '] ++ (referenceList embed (next :: rest)).toList) := by
  simp [referenceList, String.intercalate_cons_cons]

theorem aliasedList_singleton (embed : Identifier) (column : Column) :
    (aliasedList embed [column]).toList = (aliased embed column).toList := by
  simp [aliasedList]

theorem aliasedList_cons (embed : Identifier) (column next : Column) (rest : List Column) :
    (aliasedList embed (column :: next :: rest)).toList =
      (aliased embed column).toList ++
        ([',', ' '] ++ (aliasedList embed (next :: rest)).toList) := by
  simp [aliasedList, String.intercalate_cons_cons]

/-- A list of columns with proper names has the shape of one. -/
theorem listsColumns_referenceList (hembed : IsWord embed.name.toList) (hne : columns ≠ [])
    (hcolumns : ∀ column ∈ columns, IsWord column.name.toList) :
    ListsColumns embed.name.toList (referenceList embed columns).toList := by
  induction columns with
  | nil => exact absurd rfl hne
  | cons column rest ih =>
      have hcolumn := hcolumns column (by simp)
      cases rest with
      | nil =>
          rw [referenceList_singleton, toList_reference]
          exact .of_column hembed hcolumn
      | cons next rest =>
          rw [referenceList_cons, toList_reference]
          apply ListsColumns.cons_column hcolumn
          exact ih (by simp) fun later hlater => hcolumns later (by simp [hlater])

/-- A list that is apart from another list stays apart from it when that list gets its aliases. -/
theorem apart_aliasedList {table pattern before after : List Char}
    (h : ListsColumns table pattern) (hembed : IsWord embed.name.toList)
    (hcolumns : ∀ column ∈ columns, IsWord column.name.toList) (hafter : ClosedRight after)
    (hapart : Apart pattern before (referenceList embed columns).toList after) :
    Apart pattern before (aliasedList embed columns).toList after := by
  induction columns generalizing before with
  | nil => exact hapart
  | cons column rest ih =>
      have hcolumn := hcolumns column (by simp)
      have hshape : ListsColumns embed.name.toList (reference embed column).toList := by
        rw [toList_reference]
        exact .of_column hembed hcolumn
      have hbefore : ∃ c ∈ (before ++ (reference embed column).toList).getLast?,
          isWordChar c = true := by
        obtain ⟨c, hc⟩ := Option.ne_none_iff_exists'.mp
          (mt List.getLast?_eq_none_iff.mp hshape.ne_nil)
        exact ⟨c, by simp [List.getLast?_append, hc], hshape.last c hc⟩
      have hname := (isWord_embeddedName hembed hcolumn).2
      cases rest with
      | nil =>
          let added := " AS ".toList ++ (column.embeddedName embed).toList
          rw [referenceList_singleton] at hapart
          rw [aliasedList_singleton, toList_aliased]
          have hinsert : Apart pattern before
              ((reference embed column).toList ++ (added ++ ([] ++ []))) after := by
            apply Apart.insert h.ne_nil (by simp)
            · rw [List.append_nil, List.append_nil]
              exact hapart
            · exact h.apart_alias hbefore hname hafter
            · exact fun left right _ => Or.inr (Nat.zero_le _)
          rwa [List.append_nil, List.append_nil] at hinsert
      | cons next rest =>
          rw [referenceList_cons] at hapart
          rw [aliasedList_cons, toList_aliased, List.append_assoc]
          have hgap : ∀ c ∈ pattern.head?, c ∉ [',', ' '] := by
            intro c hc hmem
            have hword := h.head_word c hc
            rcases List.mem_pair.mp hmem with rfl | rfl <;> cases hword
          apply Apart.insert h.ne_nil hgap hapart
          · apply h.apart_alias hbefore hname
            intro c hc
            obtain rfl : ',' = c := Option.some.inj hc
            decide
          · apply ih
            · exact fun later hlater => hcolumns later (by simp [hlater])
            · exact hapart.of_append h.ne_nil

/-- The step: where a list gets its aliases, a delimited list of another table is apart from the
list and from the aliases, and it is delimited still. -/
theorem delimited_aliasedList {table pattern before after : List Char}
    (h : ListsColumns table pattern) (hembed : IsWord embed.name.toList) (hne : columns ≠ [])
    (hcolumns : ∀ column ∈ columns, IsWord column.name.toList) (hother : table ≠ embed.name.toList)
    (hlist : Delimited (referenceList embed columns).toList
      (before ++ ((referenceList embed columns).toList ++ after)))
    (hpattern : Delimited pattern (before ++ ((referenceList embed columns).toList ++ after))) :
    Apart pattern before (referenceList embed columns).toList after ∧
      Apart pattern before (aliasedList embed columns).toList after ∧
      Delimited pattern (before ++ ((aliasedList embed columns).toList ++ after)) := by
  have hshape := listsColumns_referenceList hembed hne hcolumns
  obtain ⟨hbefore, hafter⟩ := hlist before after rfl
  have hold := h.apart hshape hother hbefore hafter hpattern
  have hnew := apart_aliasedList h hembed hcolumns hafter hold
  exact ⟨hold, hnew, hpattern.replace hnew hshape.ne_nil hshape.head_word hshape.last⟩

end TypedSql.Query
