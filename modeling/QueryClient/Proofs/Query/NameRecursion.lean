import QueryClient.Proofs.Query.Segments

/-!
# Names that come to an end

Writing a name calls itself: for the name in front of an alias, for the table in front of the first
dot, for the field of a JSON selector. The table is longer than what stood in front of the dot, as
it carries the prefix, and a prefix with a dot makes it a qualified name again. Here the calls are
followed one level at a time. What is written is the same; the main statement tells for every prefix
and every name whether the calls come to an end.
-/

namespace QueryClient.Identifier

/-! ## The calls level by level -/

/-- A segment, written with calls of itself down to a depth. -/
def segmentWithin : Nat → List Char → Except Fault (List Char)
  | 0, _ => .error .endless
  | depth + 1, cs =>
    if cs = ['*'] then .ok cs
    else match splitAtArrows cs with
      | field :: part :: parts => do
        return (← segmentWithin depth field) ++ selectorText (part :: parts)
      | _ => .ok (backticked cs)

/-- A name, written with calls of itself down to a depth. -/
def nameWithin (tablePrefix : List Char) : Nat → Bool → List Char → Except Fault (List Char)
  | 0, _, _ => .error .endless
  | depth + 1, prefixAlias, cs =>
    match nameAndAlias cs with
    | (name, some label) => do
      let name ← nameWithin tablePrefix depth false name
      let label ← segmentWithin depth (if prefixAlias then tablePrefix ++ label else label)
      return name ++ " as ".toList ++ label
    | (_, none) =>
      match Text.splitAtElement '.' cs with
      | first :: second :: rest => do
        let table ← nameWithin tablePrefix depth true (tablePrefix ++ first)
        let others ← (second :: rest).mapM (segmentWithin depth)
        return Text.joinLists ['.'] (table :: others)
      | _ => segmentWithin depth cs

/-! ## When they come to an end -/

/-- A dot stands in the name, in front of its alias. -/
def IsQualified (cs : List Char) : Prop :=
  '.' ∈ (nameAndAlias cs).1

instance (cs : List Char) : Decidable (IsQualified cs) :=
  inferInstanceAs (Decidable ('.' ∈ _))

/-- What stands in front of the first dot. -/
def tableOf (cs : List Char) : List Char :=
  (nameAndAlias cs).1.takeWhile (· != '.')

/-- The table that qualifies a name, with the prefix. -/
def qualifying (tablePrefix cs : List Char) : List Char :=
  tablePrefix ++ tableOf cs

/-- The name has no table, or its table has none, or the table of that one. -/
def ComesToEnd (tablePrefix cs : List Char) : Prop :=
  ¬ IsQualified cs ∨ ¬ IsQualified (qualifying tablePrefix cs)
    ∨ ¬ IsQualified (qualifying tablePrefix (qualifying tablePrefix cs))

instance (tablePrefix cs : List Char) : Decidable (ComesToEnd tablePrefix cs) :=
  inferInstanceAs (Decidable (_ ∨ _ ∨ _))

/-! ## Answers of a recursion -/

/-- A recursion that is cut off at every depth has an answer: it has it from some depth on, and at
lower depths it has it or is cut off. Without end it is cut off at every depth. -/
structure Answers {α : Type} (run : Nat → Except Fault α) (answer : Except Fault α) : Prop where
  cut_or_answer : ∀ depth, run depth = .error .endless ∨ run depth = answer
  answered : answer ≠ .error .endless → ∃ enough, ∀ depth, enough ≤ depth → run depth = answer

namespace Answers

variable {α β : Type} {run : Nat → Except Fault α} {answer : Except Fault α}

theorem always (answer : Except Fault α) : Answers (fun _ => answer) answer :=
  ⟨fun _ => .inr rfl, fun _ => ⟨0, fun _ _ => rfl⟩⟩

theorem deeper (h₀ : run 0 = .error .endless) (h : Answers (fun depth => run (depth + 1)) answer) :
    Answers run answer where
  cut_or_answer
    | 0 => .inl h₀
    | depth + 1 => h.cut_or_answer depth
  answered hne := by
    obtain ⟨enough, hrun⟩ := h.answered hne
    refine ⟨enough + 1, fun depth hdepth => ?_⟩
    obtain ⟨depth, rfl⟩ := Nat.exists_eq_add_of_le' (Nat.le_of_add_left_le hdepth)
    exact hrun depth (Nat.le_of_add_le_add_right hdepth)

theorem bind {next : Nat → α → Except Fault β} {then' : α → Except Fault β}
    (h : Answers run answer) (hnext : ∀ a, answer = .ok a → Answers (next · a) (then' a)) :
    Answers (fun depth => run depth >>= next depth) (answer >>= then') where
  cut_or_answer depth := by
    rcases h.cut_or_answer depth with hrun | hrun
    · exact .inl (by rw [hrun]; rfl)
    · rw [hrun]
      cases answer with
      | error fault => exact .inr rfl
      | ok a => exact (hnext a rfl).cut_or_answer depth
  answered hne := by
    cases answer with
    | error fault =>
      obtain ⟨enough, hrun⟩ := h.answered fun heq => hne (by rw [heq]; rfl)
      exact ⟨enough, fun depth hdepth => by rw [hrun depth hdepth]; rfl⟩
    | ok a =>
      obtain ⟨enough, hrun⟩ := h.answered (by simp)
      obtain ⟨enough', hrun'⟩ := (hnext a rfl).answered hne
      refine ⟨max enough enough', fun depth hdepth => ?_⟩
      rw [hrun depth (by omega)]
      exact hrun' depth (by omega)

theorem after {a : α} {next : Nat → α → Except Fault β} {answer : Except Fault β}
    (h : Answers run (.ok a)) (hnext : Answers (next · a) answer) :
    Answers (fun depth => run depth >>= next depth) answer := by
  have hbind : Answers (fun depth => run depth >>= next depth) (.ok a >>= fun _ => answer) :=
    h.bind (by rintro _ ⟨⟩; exact hnext)
  exact hbind

theorem ok_iff (h : Answers run answer) (a : α) :
    (∃ depth, run depth = .ok a) ↔ answer = .ok a := by
  constructor
  · rintro ⟨depth, hrun⟩
    rcases h.cut_or_answer depth with hcut | hanswer
    · rw [hcut] at hrun; cases hrun
    · rw [← hanswer, hrun]
  · rintro rfl
    obtain ⟨enough, hrun⟩ := h.answered (by simp)
    exact ⟨enough, hrun enough (Nat.le_refl _)⟩

theorem cut (h : Answers run (.error .endless)) (depth : Nat) : run depth = .error .endless :=
  or_self_iff.mp (h.cut_or_answer depth)

end Answers

/-! ## Segments -/

theorem segmentWithin_field {cs field : List Char} {path : List (List Char)}
    (h : splitAtArrows cs = field :: path) :
    Answers (segmentWithin · field) (.ok (fieldText field)) := by
  refine .deeper rfl ?_
  have hfield : ∀ depth, segmentWithin (depth + 1) field = .ok (fieldText field) := by
    intro depth
    rw [segmentWithin, splitAtArrows_field h, fieldText]
    split <;> rfl
  simpa only [hfield] using Answers.always _

theorem segmentWithin_answers (cs : List Char) :
    Answers (segmentWithin · cs) (.ok (segment cs)) := by
  refine .deeper rfl ?_
  by_cases hstar : cs = ['*']
  · simpa only [segmentWithin, segment, if_pos hstar] using Answers.always _
  obtain ⟨field, path, hcs⟩ := exists_field cs
  simp only [segmentWithin, if_neg hstar, hcs]
  cases path with
  | nil => simpa only [segment, if_neg hstar, hcs] using Answers.always _
  | cons part parts =>
    rw [segment_eq hcs]
    exact (segmentWithin_field hcs).after (.always _)

theorem mapM_segmentWithin_answers (segments : List (List Char)) :
    Answers (fun depth => segments.mapM (segmentWithin depth)) (.ok (segments.map segment)) := by
  induction segments with
  | nil => exact .always _
  | cons cs segments ih =>
    simp only [List.mapM_cons]
    exact (segmentWithin_answers cs).after (ih.after (.always _))

/-! ## Names -/

section Names

variable {tablePrefix cs : List Char}

theorem exists_table (h : '.' ∈ cs) :
    '.' ∉ cs.takeWhile (· != '.') ∧ ∃ rest, cs = cs.takeWhile (· != '.') ++ '.' :: rest := by
  obtain ⟨first, rest, rfl, hfirst⟩ := List.eq_append_cons_of_mem h
  have htake : (first ++ '.' :: rest).takeWhile (· != '.') = first := by
    rw [List.takeWhile_append_of_pos fun c hc => bne_iff_ne.mpr (ne_of_mem_of_not_mem hc hfirst),
      List.takeWhile_cons_of_neg (by simp), List.append_nil]
  rw [htake]
  exact ⟨hfirst, rest, rfl⟩

theorem splitAtElement_of_mem (h : '.' ∈ cs) : ∃ second rest,
    Text.splitAtElement '.' cs = cs.takeWhile (· != '.') :: second :: rest := by
  obtain ⟨hfirst, rest, hcs⟩ := exists_table h
  obtain ⟨second, others, hrest⟩ :=
    List.exists_cons_of_ne_nil (Text.splitAtElement_ne_nil '.' rest)
  refine ⟨second, others, ?_⟩
  conv => lhs; rw [hcs, Text.splitAtElement_append, Text.splitAtElement_of_not_mem hfirst, hrest]
  rfl

theorem tableOf_name (cs : List Char) : tableOf (nameAndAlias cs).1 = tableOf cs := by
  rw [tableOf, nameAndAlias_name, tableOf]

theorem isQualified_name {cs : List Char} : IsQualified (nameAndAlias cs).1 ↔ IsQualified cs := by
  rw [IsQualified, nameAndAlias_name, IsQualified]

/-- What stands in front of an alias is written as soon as its table is. -/
theorem nameWithin_answers_name {table : List Char → Except Fault (List Char)} (prefixAlias : Bool)
    (h : IsQualified cs →
      Answers (nameWithin tablePrefix · true (qualifying tablePrefix cs)) (table (tableOf cs))) :
    Answers (nameWithin tablePrefix · prefixAlias (nameAndAlias cs).1)
      (qualifiedBy table (nameAndAlias cs).1) := by
  refine .deeper rfl ?_
  simp only [nameWithin, nameAndAlias_name]
  by_cases hdot : '.' ∈ (nameAndAlias cs).1
  · obtain ⟨second, rest, hsplit⟩ := splitAtElement_of_mem hdot
    simp only [qualifiedBy, hsplit]
    exact (h hdot).bind fun _ _ => (mapM_segmentWithin_answers _).after (.always _)
  · simp only [qualifiedBy, Text.splitAtElement_of_not_mem hdot]
    exact segmentWithin_answers _

/-- A name is written as soon as its table is. -/
theorem nameWithin_answers {table : List Char → Except Fault (List Char)} (prefixAlias : Bool)
    (h : IsQualified cs →
      Answers (nameWithin tablePrefix · true (qualifying tablePrefix cs)) (table (tableOf cs))) :
    Answers (nameWithin tablePrefix · prefixAlias cs)
      (namedBy table tablePrefix prefixAlias cs) := by
  rcases hcs : nameAndAlias cs with ⟨name, _ | label⟩
  · obtain rfl := eq_of_nameAndAlias hcs
    have hname := nameWithin_answers_name prefixAlias h
    rw [hcs] at hname
    rwa [namedBy_of_nameAndAlias hcs]
  · refine .deeper rfl ?_
    have hname := nameWithin_answers_name false h
    rw [hcs] at hname
    simp only [nameWithin, namedBy_eq, hcs]
    cases prefixAlias <;>
      exact hname.bind fun _ _ => (segmentWithin_answers _).after (.always _)

theorem namedBy_of_qualified {table : List Char → Except Fault (List Char)} (h : IsQualified cs)
    {fault : Fault} (htable : table (tableOf cs) = .error fault) (prefixAlias : Bool) :
    namedBy table tablePrefix prefixAlias cs = .error fault := by
  obtain ⟨second, rest, hsplit⟩ := splitAtElement_of_mem h
  rw [tableOf] at htable
  rw [namedBy_eq, qualifiedBy, hsplit]
  simp only [htable]
  rfl

theorem namedBy_ok_iff (table : List Char → Except Fault (List Char)) (prefixAlias : Bool) :
    (∃ out, namedBy table tablePrefix prefixAlias cs = .ok out)
      ↔ ¬ IsQualified cs ∨ ∃ out, table (tableOf cs) = .ok out := by
  by_cases hdot : IsQualified cs
  · cases htable : table (tableOf cs) with
    | error fault =>
      rw [namedBy_of_qualified hdot htable]
      simp [hdot]
    | ok out =>
      obtain ⟨second, rest, hsplit⟩ := splitAtElement_of_mem hdot
      rw [tableOf] at htable
      rw [namedBy_eq, qualifiedBy, hsplit]
      simp only [htable]
      exact ⟨fun _ => .inr ⟨out, rfl⟩, fun _ => ⟨_, rfl⟩⟩
  · rw [namedBy_eq, qualifiedBy_of_not_mem hdot]
    exact ⟨fun _ => .inl hdot, fun _ => ⟨_, rfl⟩⟩

/-! ## The table of the prefix -/

theorem takeWhile_of_prefix {name : List Char} (h : name <+: cs) (hdot : '.' ∈ name) :
    cs.takeWhile (· != '.') = name.takeWhile (· != '.') := by
  obtain ⟨more, rfl⟩ := h
  obtain ⟨hfirst, rest, hname⟩ := exists_table hdot
  have hpass : ∀ c ∈ name.takeWhile (· != '.'), (c != '.') = true :=
    List.all_eq_true.mp List.all_takeWhile
  conv => lhs; rw [hname, List.append_assoc, List.takeWhile_append_of_pos hpass, List.cons_append,
    List.takeWhile_cons_of_neg (by simp), List.append_nil]

theorem not_mem_tableOf (cs : List Char) : '.' ∉ tableOf cs := by
  intro h
  have hpass := List.all_eq_true.mp List.all_takeWhile _ h
  simp at hpass

/-- A table with the prefix that is qualified is so by the prefix, always in the same way. -/
theorem tableOf_qualifying (h : IsQualified (qualifying tablePrefix cs)) :
    tableOf (qualifying tablePrefix cs) = tablePrefix.takeWhile (· != '.') := by
  have hname := nameAndAlias_front (qualifying tablePrefix cs)
  have hdot : '.' ∈ tablePrefix :=
    (List.mem_append.mp (hname.subset h)).resolve_right (not_mem_tableOf cs)
  rw [tableOf, ← takeWhile_of_prefix hname h]
  exact takeWhile_of_prefix (List.prefix_append _ _) hdot

/-- A name whose table is the table of the prefix is cut off at every depth when the prefix makes
this table into a qualified name. -/
theorem nameWithin_endless
    (hloop : IsQualified (tablePrefix ++ tablePrefix.takeWhile (· != '.'))) (depth : Nat)
    (prefixAlias : Bool) (cs : List Char) (h : IsQualified cs)
    (htable : tableOf cs = tablePrefix.takeWhile (· != '.')) :
    nameWithin tablePrefix depth prefixAlias cs = .error .endless := by
  induction depth generalizing prefixAlias cs with
  | zero => rfl
  | succ depth ih =>
    rcases hcs : nameAndAlias cs with ⟨name, _ | label⟩
    · obtain rfl := eq_of_nameAndAlias hcs
      have hdot : '.' ∈ name := by simpa only [IsQualified, hcs] using h
      have hfirst : name.takeWhile (· != '.') = tablePrefix.takeWhile (· != '.') := by
        simpa only [tableOf, hcs] using htable
      obtain ⟨second, rest, hsplit⟩ := splitAtElement_of_mem hdot
      have hagain : tableOf (tablePrefix ++ tablePrefix.takeWhile (· != '.'))
          = tablePrefix.takeWhile (· != '.') := by
        rw [← htable] at hloop ⊢
        rw [← qualifying] at hloop ⊢
        rw [tableOf_qualifying hloop, htable]
      simp only [nameWithin, hcs, hsplit, hfirst, ih true _ hloop hagain]
      rfl
    · have hname := ih false (nameAndAlias cs).1 (isQualified_name.mpr h)
        ((tableOf_name cs).trans htable)
      rw [hcs] at hname
      simp only [nameWithin, hcs, hname]
      rfl

/-! ## The calls and what is written -/

/-- The calls of a name have the answer that is written for it. -/
theorem nameWithin_answers_named (tablePrefix : List Char) (prefixAlias : Bool) (cs : List Char) :
    Answers (nameWithin tablePrefix · prefixAlias cs) (named tablePrefix prefixAlias cs) := by
  refine nameWithin_answers prefixAlias fun _ => ?_
  refine nameWithin_answers true fun htable => ?_
  by_cases hfront : IsQualified (qualifying tablePrefix (qualifying tablePrefix cs))
  · have hendless : ∀ depth, nameWithin tablePrefix depth true
        (qualifying tablePrefix (qualifying tablePrefix cs)) = .error .endless := by
      intro depth
      have hloop := hfront
      rw [qualifying, tableOf_qualifying htable] at hloop
      exact nameWithin_endless hloop depth true _ hfront (tableOf_qualifying hfront)
    have hanswer : qualifier tablePrefix 1 (tableOf (qualifying tablePrefix cs))
        = .error .endless := namedBy_of_qualified hfront rfl true
    simpa only [hendless, hanswer] using Answers.always _
  · exact nameWithin_answers true fun h => absurd h hfront

theorem named_ok_iff (tablePrefix : List Char) (prefixAlias : Bool) (cs : List Char) :
    (∃ out, named tablePrefix prefixAlias cs = .ok out) ↔ ComesToEnd tablePrefix cs := by
  have hcut : ¬ ∃ out, qualifier tablePrefix 0
      (tableOf (qualifying tablePrefix (qualifying tablePrefix cs))) = .ok out := nofun
  rw [named, namedBy_ok_iff, qualifierDepth, qualifier, namedBy_ok_iff, ← qualifying, qualifier,
    namedBy_ok_iff, ← qualifying, ComesToEnd, or_iff_left hcut]

theorem named_endless (tablePrefix : List Char) (prefixAlias : Bool) (cs : List Char)
    (h : ¬ ComesToEnd tablePrefix cs) : named tablePrefix prefixAlias cs = .error .endless := by
  simp only [ComesToEnd, not_or, Decidable.not_not] at h
  obtain ⟨hcs, htable, hfront⟩ := h
  exact namedBy_of_qualified hcs
    (namedBy_of_qualified htable (namedBy_of_qualified hfront rfl true) true) prefixAlias

theorem comesToEnd_of_not_mem (hfront : '.' ∉ tablePrefix) (cs : List Char) :
    ComesToEnd tablePrefix cs := by
  refine .inr (.inl fun h => ?_)
  rcases List.mem_append.mp ((nameAndAlias_front _).subset h) with h | h
  · exact hfront h
  · exact not_mem_tableOf cs h

/-- Tells of a name with what is written for it when its calls come to an end. They have that text
then, and no other; otherwise they are cut off at every depth, and nothing is written. -/
structure EndsExactly (tablePrefix : List Char) (prefixAlias : Bool) (cs : List Char)
    (written : Except Fault String) : Prop where
  ends_iff : (∃ depth out, nameWithin tablePrefix depth prefixAlias cs = .ok out)
    ↔ ComesToEnd tablePrefix cs
  written_iff : ∀ out, written = .ok out
    ↔ ∃ depth, nameWithin tablePrefix depth prefixAlias cs = .ok out.toList
  endless : ¬ ComesToEnd tablePrefix cs → written = .error .endless
    ∧ ∀ depth, nameWithin tablePrefix depth prefixAlias cs = .error .endless

theorem endsExactly_named (tablePrefix : List Char) (prefixAlias : Bool) (cs : List Char) :
    EndsExactly tablePrefix prefixAlias cs
      ((named tablePrefix prefixAlias cs).map String.ofList) where
  ends_iff := by
    rw [exists_comm, ← named_ok_iff tablePrefix prefixAlias]
    exact exists_congr (nameWithin_answers_named tablePrefix prefixAlias cs).ok_iff
  written_iff out := by
    rw [(nameWithin_answers_named tablePrefix prefixAlias cs).ok_iff]
    cases named tablePrefix prefixAlias cs with
    | error fault => exact ⟨nofun, nofun⟩
    | ok text =>
      simp only [Except.map, Except.ok.injEq]
      exact ⟨by rintro rfl; rw [String.toList_ofList], by rintro rfl; rw [String.ofList_toList]⟩
  endless h := by
    have hcut := nameWithin_answers_named tablePrefix prefixAlias cs
    rw [named_endless tablePrefix prefixAlias cs h] at hcut ⊢
    exact ⟨rfl, hcut.cut⟩

end Names

/-- Names and tables are written after finitely many calls exactly when the prefix does not make the
table, or the table of the prefix, into a qualified name again. A prefix without dots never does. -/
theorem name_ends_iff (g : Grammar) (s : String) :
    (∀ prefixAlias, EndsExactly g.tablePrefix.toList prefixAlias s.toList
      (g.name prefixAlias (.text s)))
    ∧ EndsExactly g.tablePrefix.toList true (g.tablePrefix.toList ++ s.toList) (g.table (.text s))
    ∧ ('.' ∉ g.tablePrefix.toList → ∀ cs, ComesToEnd g.tablePrefix.toList cs) :=
  ⟨fun prefixAlias => endsExactly_named _ prefixAlias s.toList, endsExactly_named _ true _,
    comesToEnd_of_not_mem⟩

/-- Without a dot in the prefix a name with tables, a selector and an alias is written. -/
theorem name_ends_iff_plain :
    let g : Grammar := { tablePrefix := "p_" }
    '.' ∉ g.tablePrefix.toList ∧ ComesToEnd g.tablePrefix.toList "db.t.a->b as x".toList
      ∧ ∃ depth, nameWithin g.tablePrefix.toList depth true "db.t.a->b as x".toList
        = .ok "`p_db`.`t`.`a`->'$.\"b\"' as `p_x`".toList := by
  intro g
  have hg : '.' ∉ g.tablePrefix.toList := by decide
  obtain ⟨hname, -, hends⟩ := name_ends_iff g "db.t.a->b as x"
  have hwritten : g.name true (.text "db.t.a->b as x")
      = .ok "`p_db`.`t`.`a`->'$.\"b\"' as `p_x`" := by
    simp only [g, Grammar.name]
    rfl
  exact ⟨hg, hends hg _, ((hname true).written_iff _).mp hwritten⟩

/-- A prefix with a dot makes a plain table into a qualified one, its table into another one, and so
on at every depth. -/
theorem name_never_ends :
    let g : Grammar := { tablePrefix := "db." }
    g.table (.text "t") = .error .endless
      ∧ ∀ depth, nameWithin g.tablePrefix.toList depth true (g.tablePrefix.toList ++ "t".toList)
        = .error .endless := by
  intro g
  have hends : ¬ ComesToEnd g.tablePrefix.toList (g.tablePrefix.toList ++ "t".toList) := by decide
  exact (endsExactly_named _ true _).endless hends

end QueryClient.Identifier
