import Mathlib.Data.List.Forall2
import QueryClient.Proofs.Sql.Filling
import QueryClient.Proofs.Sql.NamedReferences

/-!
# Names in the place of placeholders

A statement in which every placeholder gives way to a reference by a name of its own. Names that
occur nowhere else in the statement make no other reference, so that binding by these names gives
what binding by position gives.
-/

namespace QueryClient.Sql

/-- A text with references to names, in order, in the place of its placeholders. -/
def withReferences (r : Region) : List Char → List String → List Char
  | cs, [] => cs
  | [], _ => []
  | c :: cs, name :: names =>
    if r.isPlaceholder c then
      '\x7b' :: (name.toList ++ '\x7d' :: withReferences (r.step c) cs names)
    else c :: withReferences (r.step c) cs (name :: names)

theorem withReferences_nil (r : Region) (cs : List Char) : withReferences r cs [] = cs := by
  cases cs <;> rfl

theorem withReferences_copy {r : Region} {c : Char} (h : r.isPlaceholder c = false)
    (cs : List Char) (names : List String) :
    withReferences r (c :: cs) names = c :: withReferences (r.step c) cs names := by
  cases names with
  | nil => rw [withReferences_nil, withReferences_nil]
  | cons name names => rw [withReferences, h, if_neg Bool.false_ne_true]

/-! ## What the references leave alone -/

/-- Neither a placeholder nor the brace in its place belongs to a word. -/
theorem takeWhile_withReferences (r : Region) (cs : List Char) (names : List String) :
    (withReferences r cs names).takeWhile Text.isWordChar = cs.takeWhile Text.isWordChar := by
  induction cs generalizing r names with
  | nil => cases names <;> rfl
  | cons c cs ih =>
      cases names with
      | nil => rw [withReferences_nil]
      | cons name names =>
          rw [withReferences]
          split
          · rename_i hc
            obtain ⟨-, rfl⟩ := Region.eq_of_isPlaceholder hc
            rw [List.takeWhile_cons_of_neg (by decide), List.takeWhile_cons_of_neg (by decide)]
          · rw [List.takeWhile_cons, List.takeWhile_cons, ih]

theorem nameAt_withReferences (r : Region) (cs : List Char) (names : List String) :
    nameAt (withReferences r cs names) = nameAt cs := by
  have htake := takeWhile_withReferences r cs names
  cases cs with
  | nil => cases names <;> rfl
  | cons c cs =>
      cases names with
      | nil => rw [withReferences_nil]
      | cons name names =>
          rw [withReferences] at htake ⊢
          split at htake
          · rename_i hc
            obtain ⟨-, rfl⟩ := Region.eq_of_isPlaceholder hc
            rw [if_pos hc, nameAt, nameAt, htake]
            rfl
          · rename_i hc
            rw [if_neg hc, nameAt, nameAt, htake]

theorem nameAt_isPrefix (cs : List Char) : nameAt cs <+: cs := by
  cases cs with
  | nil => exact List.nil_prefix
  | cons c cs =>
      rw [nameAt]
      split
      · exact List.nil_prefix
      · exact List.takeWhile_prefix _

/-- Where no key stands there is no reference. -/
theorem referenceAt?_eq_none {isKey : List Char → Bool} {previous : Option Char} {c : Char}
    {rest : List Char} (h : isKey (nameAt rest) = false) :
    referenceAt? isKey previous c rest = none := by
  simp [referenceAt?, h]

/-! ## Binding by the names -/

variable {lookup : List Char → Option Value}

/-- Every reference that was put in gives way to the value that its placeholder would take, and no
other character is changed. -/
theorem Filled.flatMap_fill {r r' : Region} {cs out : List Char} {vs : List Value}
    (h : Filled r cs vs out r') {names : List String}
    (hvalues : List.Forall₂ (fun name v => lookup name.toList = some v) names vs)
    (hnames : ∀ name ∈ names, IsName name.toList)
    (habsent : ∀ key, (lookup key).isSome = true → ¬ key <:+: cs) (previous : Option Char) :
    (segmentsFrom (fun name => (lookup name).isSome) r previous
        (withReferences r cs names)).flatMap (Segment.fill lookup) = out := by
  induction h generalizing names previous with
  | nil =>
      cases hvalues
      rw [withReferences, segmentsFrom]
      rfl
  | @place r r' c cs v vs out hc _ ih =>
      obtain ⟨rfl, rfl⟩ := Region.eq_of_isPlaceholder hc
      cases hvalues with
      | @cons name _ names _ hv hvalues =>
          rw [List.forall_mem_cons] at hnames
          have hmore : ∀ key, (lookup key).isSome = true → ¬ key <:+: cs :=
            fun key hkey hinside => habsent key hkey (hinside.trans (List.suffix_cons _ cs).isInfix)
          have hfound : referenceAt? (fun name => (lookup name).isSome) previous '\x7b'
              (name.toList ++ ['\x7d'] ++ withReferences .code cs names)
              = some (name.toList, (name.toList ++ ['\x7d']).length) :=
            Spelling.braces.referenceAt?_eq hnames.1 (by rw [hv]; rfl)
          have htext : withReferences .code ('?' :: cs) (name :: names)
              = '\x7b' :: (name.toList ++ ['\x7d'] ++ withReferences .code cs names) := by
            rw [List.append_assoc]
            rfl
          rw [htext, segmentsFrom, beq_self_eq_true, if_pos rfl, hfound]
          dsimp only
          have hrest := ih hvalues hnames.2 hmore (('\x7b' :: (name.toList ++ ['\x7d'])).getLast?)
          rw [List.take_left, List.drop_left, List.flatMap_cons, Segment.fill, hv]
          exact congrArg ((literal v).toList ++ ·) hrest
  | @copy r r' c cs vs out hc _ ih =>
      have hmore : ∀ key, (lookup key).isSome = true → ¬ key <:+: cs :=
        fun key hkey hinside => habsent key hkey (hinside.trans (List.suffix_cons c cs).isInfix)
      -- the word behind a colon or a brace is one of the text itself, and so no name
      have hnone : (lookup (nameAt (withReferences (r.step c) cs names))).isSome = false := by
        rw [nameAt_withReferences, Bool.eq_false_iff]
        exact fun hkey => hmore _ hkey (nameAt_isPrefix cs).isInfix
      rw [withReferences_copy hc, segmentsFrom, referenceAt?_eq_none hnone, ite_self]
      exact congrArg (c :: ·) (ih hvalues hnames hmore (some c))

/-! ## Names of one's own -/

theorem lookup?_cons_of_ne {name key : String} (h : name ≠ key) (v : Value)
    (entries : List (Value × Value)) :
    Value.lookup? name ((.text key, v) :: entries) = Value.lookup? name entries := by
  rw [Value.lookup?, if_neg (by simpa using h.symm)]

/-- Under distinct names every value is found by its name. -/
theorem forall₂_lookup? {names : List String} {vs : List Value} (hdistinct : names.Nodup)
    (hlength : names.length = vs.length) : List.Forall₂ (fun name v =>
      Value.lookup? name ((names.map Value.text).zip vs) = some v) names vs := by
  induction names generalizing vs with
  | nil =>
      cases vs with
      | nil => exact .nil
      | cons v vs => cases hlength
  | cons key names ih =>
      cases vs with
      | nil => cases hlength
      | cons v vs =>
          obtain ⟨hkey, hdistinct⟩ := List.nodup_cons.mp hdistinct
          rw [List.map_cons, List.zip_cons_cons]
          refine .cons (by simp [Value.lookup?]) ?_
          have hrest : List.Forall₂ (fun name v => name ≠ key
              ∧ Value.lookup? name ((names.map Value.text).zip vs) = some v) names vs :=
            (List.forall₂_and_left names vs).mpr
              ⟨fun name hname => ne_of_mem_of_not_mem hname hkey,
                ih hdistinct (Nat.succ.inj hlength)⟩
          exact hrest.imp fun name w hw => (lookup?_cons_of_ne hw.1 ..).trans hw.2

/-- A reference to a name of its own in the place of every placeholder, and values under these
names, give the statement that the values give by position. -/
theorem bind_named_eq_positional (sql : String) (names : List String) (vs : List Value)
    (hcount : placeholderCount .code sql.toList = vs.length) (hlength : names.length = vs.length)
    (hnames : ∀ name ∈ names, IsName name.toList) (hdistinct : names.Nodup)
    (habsent : ∀ name ∈ names, ¬ name.toList <:+: sql.toList) :
    ∃ out, bind (String.ofList (withReferences .code sql.toList names))
        (.dict ((names.map .text).zip vs)) = .ok out ∧ bind sql (.list vs) = .ok out := by
  obtain ⟨out, hout⟩ := Filled.exists_of_count .code sql.toList vs hcount
  have hvalues := (forall₂_lookup? hdistinct hlength).imp
    fun name v (h : Value.lookup? name _ = some v) =>
      (congrArg (Value.lookup? · _) String.ofList_toList).trans h
  have hkeys : ∀ key, (Value.lookup? (String.ofList key)
      ((names.map Value.text).zip vs)).isSome = true → ¬ key <:+: sql.toList := by
    intro key hkey
    have hle : (names.map Value.text).length ≤ vs.length :=
      Nat.le_of_eq ((List.length_map _).trans hlength)
    rw [isSome_lookup?, List.map_fst_zip hle] at hkey
    obtain ⟨name, hname, hkey⟩ := List.mem_map.mp hkey
    cases hkey
    rw [← String.toList_ofList (l := key)]
    exact habsent _ hname
  refine ⟨String.ofList out, ?_, bind_of_filled (by rwa [String.toList_ofList])⟩
  rw [bind_dict, bindNamed, segments, String.toList_ofList]
  exact congrArg (fun cs => Except.ok (String.ofList cs))
    (hout.flatMap_fill hvalues hnames hkeys none)

/-- Placeholders beside a cast, between braces and behind a colon, and values that hold placeholders
and references. -/
theorem bind_named_eq_positional_braces :
    let sql := "a?::b, \x7b?\x7d, ':b ?' :?"
    let names := ["x", "y_1", "_"]
    let vs := [Value.text ":y_1", .list [.text "\x7bx\x7d ?", .raw (.text ":_")], .null]
    let out := "a':y_1'::b, \x7b['\x7bx\x7d ?', :_]\x7d, ':b ?' :NULL"
    placeholderCount .code sql.toList = vs.length ∧ names.length = vs.length
      ∧ (∀ name ∈ names, IsName name.toList) ∧ names.Nodup
      ∧ (∀ name ∈ names, ¬ name.toList <:+: sql.toList)
      ∧ bind "a\x7bx\x7d::b, \x7b\x7by_1\x7d\x7d, ':b ?' :\x7b_\x7d"
        (.dict ((names.map .text).zip vs)) = .ok out
      ∧ bind sql (.list vs) = .ok out := by
  intro sql names vs out
  have hcount : placeholderCount .code sql.toList = vs.length := by decide
  have hnames : ∀ name ∈ names, IsName name.toList := by
    simp only [names, List.forall_mem_cons]
    exact ⟨⟨by decide, 'x', rfl, by decide⟩, ⟨by decide, 'y', rfl, by decide⟩,
      ⟨by decide, '_', rfl, by decide⟩, by simp⟩
  have hdistinct : names.Nodup := by decide
  have habsent : ∀ name ∈ names, ¬ name.toList <:+: sql.toList := by
    have hfresh : ∀ name ∈ names, ∃ c ∈ name.toList, c ∉ sql.toList := by
      simp only [names, List.forall_mem_cons]
      exact ⟨⟨'x', by decide, by decide⟩, ⟨'y', by decide, by decide⟩, ⟨'_', by decide, by decide⟩,
        by simp⟩
    intro name hname hinside
    obtain ⟨c, hc, hfresh⟩ := hfresh name hname
    exact hfresh (hinside.subset hc)
  have htext : String.ofList (withReferences .code sql.toList names)
      = "a\x7bx\x7d::b, \x7b\x7by_1\x7d\x7d, ':b ?' :\x7b_\x7d" := by
    rw [← String.toList_inj, String.toList_ofList]
    decide
  obtain ⟨bound, hnamed, hpositional⟩ :=
    bind_named_eq_positional sql names vs hcount rfl hnames hdistinct habsent
  have hout : bind sql (.list vs) = .ok out := by
    simp only [sql, vs, out]
    rfl
  rw [htext] at hnamed
  rw [hout] at hpositional
  cases hpositional
  exact ⟨hcount, rfl, hnames, hdistinct, habsent, hnamed, hout⟩

end QueryClient.Sql
