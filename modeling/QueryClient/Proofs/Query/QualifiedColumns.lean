import QueryClient.Proofs.Query.Segments

/-!
# Columns and the table they name

A column is qualified by a table or by its alias, and the table is written once more where the
statement takes its rows from. The two are meant to be the same text. They are for a plain table and
for its alias; a table with a database gets its prefix twice where the rows are taken from, once in
front of the whole name and once more as the table that qualifies it.
-/

namespace QueryClient.Identifier

/-! ## Tables as they are written -/

/-- A table without dots, as it is written. -/
def plainTable (tablePrefix cs : List Char) : List Char :=
  withAlias (segment (nameAndAlias (tablePrefix ++ cs)).1)
    ((nameAndAlias (tablePrefix ++ cs)).2.map (tablePrefix ++ ·))

/-- What is written in front of the last dot of a column. -/
def columnTable (tablePrefix cs : List Char) : List Char :=
  match Text.splitAtElement '.' cs with
  | first :: others => Text.joinLists ['.'] (plainTable tablePrefix first :: others.map segment)
  | [] => []

section Written

variable {tablePrefix cs column : List Char}

theorem namedBy_of_not_mem (h : '.' ∉ cs) (table : List Char → Except Fault (List Char))
    (prefixAlias : Bool) : namedBy table tablePrefix prefixAlias cs
      = .ok (withAlias (segment (nameAndAlias cs).1)
        (if prefixAlias then (nameAndAlias cs).2.map (tablePrefix ++ ·)
          else (nameAndAlias cs).2)) := by
  have hname : '.' ∉ (nameAndAlias cs).1 := fun hdot => h (mem_of_mem_nameAndAlias hdot)
  rw [namedBy_eq, qualifiedBy_of_not_mem hname]
  rfl

theorem table_of_not_mem (hfront : '.' ∉ tablePrefix) (h : '.' ∉ cs) :
    table tablePrefix cs = .ok (plainTable tablePrefix cs) :=
  namedBy_of_not_mem (List.not_mem_append hfront h) _ true

theorem qualifier_of_not_mem (hfront : '.' ∉ tablePrefix) (h : '.' ∉ cs) (depth : Nat) :
    qualifier tablePrefix (depth + 1) cs = .ok (plainTable tablePrefix cs) :=
  namedBy_of_not_mem (List.not_mem_append hfront h) _ true

theorem plainTable_of_not_holdsAs (h : holdsAs (tablePrefix ++ cs) = false) :
    plainTable tablePrefix cs = segment (tablePrefix ++ cs) := by
  rw [plainTable, nameAndAlias_of_not_holdsAs h]
  rfl

theorem plainTable_of_cutAlias? {name label : List Char} (h : holdsAs (tablePrefix ++ cs) = true)
    (hcut : cutAlias? (tablePrefix ++ cs) = some (name, label)) :
    plainTable tablePrefix cs = segment name ++ " as ".toList ++ segment (tablePrefix ++ label) := by
  rw [plainTable, nameAndAlias_of_cutAlias? h hcut]
  rfl

theorem columnTable_of_not_mem (h : '.' ∉ cs) :
    columnTable tablePrefix cs = plainTable tablePrefix cs := by
  rw [columnTable, Text.splitAtElement_of_not_mem h]
  rfl

theorem columnTable_append_dot {first : List Char} (h : '.' ∉ first) (rest : List Char) :
    columnTable tablePrefix (first ++ '.' :: rest) = plainTable tablePrefix first
      ++ '.' :: Text.joinLists ['.'] ((Text.splitAtElement '.' rest).map segment) := by
  obtain ⟨second, others, hrest⟩ :=
    List.exists_cons_of_ne_nil (Text.splitAtElement_ne_nil '.' rest)
  rw [columnTable, Text.splitAtElement_append, Text.splitAtElement_of_not_mem h, hrest]
  simp [Text.joinLists_cons_cons]

theorem columnTable_append_column (h : '.' ∉ column) (cs : List Char) :
    columnTable tablePrefix (cs ++ '.' :: column)
      = columnTable tablePrefix cs ++ '.' :: segment column := by
  obtain ⟨first, others, hcs⟩ :=
    List.exists_cons_of_ne_nil (Text.splitAtElement_ne_nil '.' cs)
  rw [columnTable, columnTable, Text.splitAtElement_append, Text.splitAtElement_of_not_mem h, hcs]
  simp only [List.cons_append, List.map_append, List.map_cons, List.map_nil, Text.joinLists_concat]
  simp

/-- A name with tables and without alias. -/
theorem named_of_mem (hfront : '.' ∉ tablePrefix) (h : '.' ∈ cs) (hcs : holdsAs cs = false)
    (prefixAlias : Bool) :
    named tablePrefix prefixAlias cs = .ok (columnTable tablePrefix cs) := by
  obtain ⟨first, rest, rfl, hfirst⟩ := List.eq_append_cons_of_mem h
  obtain ⟨second, others, hrest⟩ :=
    List.exists_cons_of_ne_nil (Text.splitAtElement_ne_nil '.' rest)
  rw [named, namedBy_of_nameAndAlias (nameAndAlias_of_not_holdsAs hcs), qualifiedBy, columnTable,
    Text.splitAtElement_append, Text.splitAtElement_of_not_mem hfirst, hrest]
  simp only [List.singleton_append, qualifierDepth, qualifier_of_not_mem hfront hfirst]
  rfl

/-- A column is written behind its table. -/
theorem column_append_dot (hfront : '.' ∉ tablePrefix) (hcs : holdsAs cs = false)
    (hdot : '.' ∉ column) (hcolumn : holdsAs column = false) :
    named tablePrefix false (cs ++ '.' :: column)
      = .ok (columnTable tablePrefix cs ++ '.' :: segment column) := by
  rw [named_of_mem hfront (by simp) (by rw [holdsAs_append_dot, hcs, hcolumn]; rfl),
    columnTable_append_column hdot]

/-- Every table is written. -/
theorem exists_table_written (hfront : '.' ∉ tablePrefix) (cs : List Char) :
    ∃ written, table tablePrefix cs = .ok written := by
  obtain ⟨written, hwritten, -⟩ := named_spelled hfront true (tablePrefix ++ cs)
  exact ⟨written, hwritten⟩

/-! ## A table with a database -/

theorem table_of_no_prefix (hcs : holdsAs cs = false) : table [] cs = .ok (columnTable [] cs) := by
  by_cases hdot : '.' ∈ cs
  · exact named_of_mem (by simp) hdot hcs true
  · rw [table_of_not_mem (by simp) hdot, columnTable_of_not_mem hdot]

/-- A table that gets the prefix again is another one. -/
theorem plainTable_append_ne (hne : tablePrefix ≠ []) (h : holdsAs (tablePrefix ++ cs) = false) :
    plainTable tablePrefix (tablePrefix ++ cs) ≠ plainTable tablePrefix cs := by
  intro heq
  rw [plainTable_of_not_holdsAs h] at heq
  cases hagain : holdsAs (tablePrefix ++ (tablePrefix ++ cs)) with
  | false =>
    rw [plainTable_of_not_holdsAs hagain] at heq
    exact hne (eq_nil_of_segment_append heq)
  | true =>
    obtain ⟨name, label, hcut⟩ := exists_cutAlias? hagain
    rw [plainTable_of_cutAlias? hagain hcut] at heq
    have hword : holdsAs (segment name ++ " as ".toList ++ segment (tablePrefix ++ label)) = true :=
      holdsAs_append_left (holdsAs_append_right _ (by decide))
    rw [heq] at hword
    rw [holdsAs_of_segment hword] at h
    cases h

/-- With a prefix a table with a database is another text than what qualifies its columns. -/
theorem table_ne_columnTable (hfront : '.' ∉ tablePrefix) (hne : tablePrefix ≠ [])
    (hcs : holdsAs cs = false) (hdot : '.' ∈ cs) :
    table tablePrefix cs ≠ .ok (columnTable tablePrefix cs) := by
  obtain ⟨first, rest, rfl, hfirst⟩ := List.eq_append_cons_of_mem hdot
  have hrest : holdsAs rest = false := by
    rw [holdsAs_append_dot, Bool.or_eq_false_iff] at hcs
    exact hcs.2
  have hlong : tablePrefix ++ (first ++ '.' :: rest) = (tablePrefix ++ first) ++ '.' :: rest := by
    rw [List.append_assoc]
  have hmem : '.' ∉ tablePrefix ++ first := List.not_mem_append hfront hfirst
  rw [table, hlong, columnTable_append_dot hfirst]
  cases hword : holdsAs (tablePrefix ++ first) with
  | false =>
    have hall : holdsAs ((tablePrefix ++ first) ++ '.' :: rest) = false := by
      rw [holdsAs_append_dot, hword, hrest]
      rfl
    rw [named_of_mem hfront (by simp) hall, columnTable_append_dot hmem, ne_eq, Except.ok.injEq,
      List.append_cancel_right_eq]
    exact plainTable_append_ne hne hword
  | true =>
    -- the prefix brings an alias along, which then takes the rest of the name
    obtain ⟨name, label, hcut⟩ := exists_cutAlias? hword
    have hname : '.' ∉ name := by
      obtain ⟨more, heq, -⟩ := eq_append_of_cutAlias? hcut
      exact fun h => hmem (heq ▸ List.mem_append_left more h)
    rw [named, namedBy_eq, nameAndAlias_of_cutAlias? (holdsAs_append_left hword)
      (cutAlias?_append_dot hcut rest), qualifiedBy_of_not_mem hname,
      plainTable_of_cutAlias? hword hcut, List.append_assoc]
    intro heq
    have htext : segment (tablePrefix ++ label ++ '.' :: rest) = segment (tablePrefix ++ label)
        ++ '.' :: Text.joinLists ['.'] ((Text.splitAtElement '.' rest).map segment) := by
      rw [List.append_assoc tablePrefix label]
      exact List.append_cancel_left (Except.ok.inj heq)
    exact segment_append_ne (by decide) (by decide) (by decide) (by simp) htext

/-! ## A table with an alias -/

/-- The alias of a table is what its columns are named by. -/
structure KeepsAlias (tablePrefix table label : List Char) : Prop where
  /-- No word in the table takes the alias along. -/
  no_word : cutAlias? (tablePrefix ++ table ++ [' ']) = none
  /-- No white space stands in front of the alias. -/
  trimmed : label.dropWhile Text.isBlank = label
  /-- The prefix brings no alias along. -/
  plain : holdsAs (tablePrefix ++ label) = false

theorem eq_of_countP_dropWhile {α : Type} {p : α → Bool} {l : List α}
    (h : l.countP p ≤ (l.dropWhile p).countP p) : l.dropWhile p = l := by
  cases l with
  | nil => rfl
  | cons a l =>
    cases ha : p a with
    | false => rw [List.dropWhile_cons_of_neg (by simp [ha])]
    | true =>
      have hsub : List.Sublist (l.dropWhile p) l := List.dropWhile_sublist p
      have hle : (l.dropWhile p).countP p ≤ l.countP p := hsub.countP_le
      rw [List.dropWhile_cons_of_pos ha, List.countP_cons_of_pos ha] at h
      omega

/-- A column is qualified by another text than the alias when the prefix brings an alias along. -/
theorem plainTable_ne_of_holdsAs {label : List Char} (hlabel : holdsAs label = false)
    (h : holdsAs (tablePrefix ++ label) = true) (written : List Char) :
    plainTable tablePrefix label ≠ segment (tablePrefix ++ written) := by
  obtain ⟨name, label', c, between, hcut, rfl, hc⟩ := cutAlias?_append h hlabel
  rw [plainTable_of_cutAlias? h hcut, List.append_assoc, List.append_assoc name _ written]
  have hmore : ∀ more : List Char, (" as ".toList ++ more).head? ≠ some '\x60' := by simp
  refine (segment_append_ne ?_ ?_ ?_ (hmore _)).symm
  all_goals
    rintro rfl
    cases hc

/-- The alias that is written for a table, and when its columns are qualified by it. -/
theorem exists_alias (tablePrefix cs : List Char) {label : List Char}
    (hlabel : holdsAs label = false) :
    ∃ name written, nameAndAlias (tablePrefix ++ cs ++ ' ' :: 'a' :: 's' :: ' ' :: label)
        = (name, some written)
      ∧ (plainTable tablePrefix label = segment (tablePrefix ++ written)
        ↔ KeepsAlias tablePrefix cs label) := by
  have hword : holdsAs (tablePrefix ++ cs ++ ' ' :: 'a' :: 's' :: ' ' :: label) = true :=
    holdsAs_append_right _ rfl
  -- the two texts hold the same white space, and so the same alias
  have hsame : ∀ {written}, holdsAs (tablePrefix ++ label) = false →
      plainTable tablePrefix label = segment (tablePrefix ++ written) →
      label.countP Text.isBlank = written.countP Text.isBlank := by
    intro written hplain heq
    rw [plainTable_of_not_holdsAs hplain] at heq
    have hcount := congrArg (List.countP Text.isBlank) heq
    rw [countP_segment, countP_segment, List.countP_append, List.countP_append] at hcount
    omega
  rcases cutAlias?_written (tablePrefix ++ cs) label with
    ⟨hno, name, hcut⟩ | ⟨hsome, name, more, hcut⟩
  · refine ⟨name, _, nameAndAlias_of_cutAlias? hword hcut, fun heq => ?_, fun hkeeps => ?_⟩
    · cases hplain : holdsAs (tablePrefix ++ label) with
      | true => exact absurd heq (plainTable_ne_of_holdsAs hlabel hplain _)
      | false =>
        exact ⟨hno, eq_of_countP_dropWhile (Nat.le_of_eq (hsame hplain heq)), hplain⟩
    · rw [hkeeps.trimmed, plainTable_of_not_holdsAs hkeeps.plain]
  · refine ⟨name, _, nameAndAlias_of_cutAlias? hword hcut, fun heq => ?_,
      fun hkeeps => absurd hkeeps.no_word hsome⟩
    cases hplain : holdsAs (tablePrefix ++ label) with
    | true => exact absurd heq (plainTable_ne_of_holdsAs hlabel hplain _)
    | false =>
      have hcount := hsame hplain heq
      have hspace : Text.isBlank ' ' = true := by decide
      simp only [List.countP_append, List.countP_cons, hspace, if_true] at hcount
      omega

/-- Every table is written, and qualifies its columns, unless a prefix and a database meet. -/
theorem table_eq_columnTable_iff (hfront : '.' ∉ tablePrefix) (hcs : holdsAs cs = false) :
    table tablePrefix cs = .ok (columnTable tablePrefix cs) ↔ '.' ∉ cs ∨ tablePrefix = [] := by
  constructor
  · intro h
    by_cases hdot : '.' ∈ cs
    · by_cases hne : tablePrefix = []
      · exact .inr hne
      · exact absurd h (table_ne_columnTable hfront hne hcs hdot)
    · exact .inl hdot
  · rintro (hdot | rfl)
    · rw [table_of_not_mem hfront hdot, columnTable_of_not_mem hdot]
    · exact table_of_no_prefix hcs

end Written

theorem grammar_column_append_dot {g : Grammar} (hfront : '.' ∉ g.tablePrefix.toList)
    {table column : String} (htable : holdsAs table.toList = false) (hdot : '.' ∉ column.toList)
    (hcolumn : holdsAs column.toList = false) : g.column (.text (table ++ "." ++ column))
      = .ok (String.ofList (columnTable g.tablePrefix.toList table.toList) ++ "."
        ++ String.ofList (segment column.toList)) := by
  have hlist : (table ++ "." ++ column).toList = table.toList ++ '.' :: column.toList := by simp
  rw [Grammar.column, ofColumn, ofName, hlist, column_append_dot hfront htable hdot hcolumn]
  simp [Except.map, String.ext_iff]

/-- A column is written behind a text exactly when that is what it is qualified by. -/
theorem grammar_column_eq_iff {g : Grammar} (hfront : '.' ∉ g.tablePrefix.toList)
    {table column : String} (htable : holdsAs table.toList = false) (hdot : '.' ∉ column.toList)
    (hcolumn : holdsAs column.toList = false) (written : List Char) :
    g.column (.text (table ++ "." ++ column))
        = .ok (String.ofList written ++ "." ++ String.ofList (segment column.toList))
      ↔ columnTable g.tablePrefix.toList table.toList = written := by
  rw [grammar_column_append_dot hfront htable hdot hcolumn, Except.ok.injEq, ← String.toList_inj]
  simp

theorem grammar_table_as {g : Grammar} (hfront : '.' ∉ g.tablePrefix.toList) {cs : String}
    {name read : List Char}
    (h : nameAndAlias (g.tablePrefix ++ cs).toList = (name, some read)) : ∃ out : String,
    g.table (.text cs)
      = .ok (out ++ " as " ++ String.ofList (segment (g.tablePrefix.toList ++ read))) := by
  obtain ⟨out, hout, -⟩ := qualifiedBy_spelled hfront name
  rw [String.toList_append] at h
  refine ⟨String.ofList out, ?_⟩
  rw [Grammar.table, ofTable, Identifier.table, named, namedBy_eq, h, hout]
  simp [withAlias, Except.map, bind, Except.bind, pure, Except.pure, String.ext_iff]

/-- What a column is qualified by is what its table is written as exactly when the table has no
database or there is no prefix, and what the alias of its table is written as exactly when the alias
is kept as it is. -/
theorem qualified_column_iff (g : Grammar) (hfront : '.' ∉ g.tablePrefix.toList)
    (table column : String) (htable : holdsAs table.toList = false) (hdot : '.' ∉ column.toList)
    (hcolumn : holdsAs column.toList = false) : ∃ field, ofSegment (.text column) = .ok field
      ∧ (∃ written, g.table (.text table) = .ok written
        ∧ (g.column (.text (table ++ "." ++ column)) = .ok (written ++ "." ++ field)
          ↔ '.' ∉ table.toList ∨ g.tablePrefix = ""))
      ∧ ∀ label : String, '.' ∉ label.toList → holdsAs label.toList = false →
        ∃ name read written,
          (nameAndAlias (g.tablePrefix ++ (table ++ " as " ++ label)).toList).2 = some read
          ∧ ofSegment (.text (g.tablePrefix ++ String.ofList read)) = .ok written
          ∧ g.table (.text (table ++ " as " ++ label)) = .ok (name ++ " as " ++ written)
          ∧ (g.column (.text (label ++ "." ++ column)) = .ok (written ++ "." ++ field)
            ↔ KeepsAlias g.tablePrefix.toList table.toList label.toList) := by
  refine ⟨_, rfl, ?_, fun label hlabelDot hlabel => ?_⟩
  · obtain ⟨written, hwritten⟩ := exists_table_written hfront table.toList
    refine ⟨String.ofList written, by rw [Grammar.table, ofTable, hwritten]; rfl, ?_⟩
    have hempty : g.tablePrefix = "" ↔ g.tablePrefix.toList = [] := by
      rw [← String.toList_inj]
      rfl
    rw [grammar_column_eq_iff hfront htable hdot hcolumn, hempty,
      ← table_eq_columnTable_iff hfront htable, hwritten, Except.ok.injEq, eq_comm]
  · obtain ⟨name, read, hread, hiff⟩ :=
      exists_alias g.tablePrefix.toList table.toList hlabel
    have hlist : (g.tablePrefix ++ (table ++ " as " ++ label)).toList
        = g.tablePrefix.toList ++ table.toList ++ ' ' :: 'a' :: 's' :: ' ' :: label.toList := by
      simp
    rw [← hlist] at hread
    obtain ⟨out, hout⟩ := grammar_table_as hfront hread
    refine ⟨out, read, _, by rw [hread], ?_, hout, ?_⟩
    · rw [ofSegment, String.toList_append, String.toList_ofList]
    · rw [grammar_column_eq_iff hfront hlabel hdot hcolumn, columnTable_of_not_mem hlabelDot, hiff]

/-- The column of a plain table, and of the table by its alias. -/
theorem qualified_column_iff_plain :
    let g : Grammar := { tablePrefix := "p_" }
    g.table (.text "t") = .ok "`p_t`" ∧ g.column (.text "t.c") = .ok "`p_t`.`c`"
      ∧ g.table (.text "t as x") = .ok "`p_t` as `p_x`" ∧ g.column (.text "x.c") = .ok "`p_x`.`c`" := by
  intro g
  have hg : '.' ∉ g.tablePrefix.toList := by decide
  have hkeeps : KeepsAlias g.tablePrefix.toList "t".toList "x".toList := by
    refine ⟨?_, ?_, ?_⟩ <;> decide
  have htable : g.table (.text "t") = .ok "`p_t`" := by
    simp only [g, Grammar.table]
    rfl
  have halias : g.table (.text "t as x") = .ok "`p_t` as `p_x`" := by
    simp only [g, Grammar.table]
    rfl
  obtain ⟨field, hfield, ⟨written, hwritten, hcolumn⟩, hlabel⟩ :=
    qualified_column_iff g hg "t" "c" (by decide) (by decide) (by decide)
  obtain ⟨name, read, written', hread, hsegment, -, hcolumn'⟩ := hlabel "x" (by decide) (by decide)
  obtain rfl : "`c`" = field := Except.ok.inj hfield
  obtain rfl : "`p_t`" = written := Except.ok.inj (htable.symm.trans hwritten)
  have hx : (nameAndAlias (g.tablePrefix ++ ("t" ++ " as " ++ "x")).toList).2 = some ['x'] := by
    decide
  obtain rfl := Option.some.inj (hx.symm.trans hread)
  have hpx : ofSegment (.text (g.tablePrefix ++ String.ofList ['x'])) = .ok "`p_x`" := by
    simp only [g]
    rfl
  obtain rfl := Except.ok.inj (hpx.symm.trans hsegment)
  exact ⟨htable, hcolumn.mpr (.inl (by decide)), halias, hcolumn'.mpr hkeeps⟩

/-- A table with a database gets the prefix twice where the rows are taken from. -/
theorem qualified_column_ne_table :
    let g : Grammar := { tablePrefix := "p_" }
    g.table (.text "db.t") = .ok "`p_p_db`.`t`" ∧ g.column (.text "db.t.c") = .ok "`p_db`.`t`.`c`"
      ∧ g.column (.text "db.t.c") ≠ .ok ("`p_p_db`.`t`" ++ "." ++ "`c`") := by
  intro g
  have hcolumn : g.column (.text "db.t.c") = .ok "`p_db`.`t`.`c`" := by
    simp only [g, Grammar.column]
    rfl
  refine ⟨?_, hcolumn, ?_⟩
  · simp only [g, Grammar.table]
    rfl
  · rw [hcolumn, ne_eq, Except.ok.injEq]
    decide

end QueryClient.Identifier
