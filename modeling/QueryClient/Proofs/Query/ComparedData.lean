import QueryClient.Proofs.Query.Invariant

/-!
# Data in comparisons

A comparison of the `where` family holds data that the caller passed: NULL becomes a check for NULL,
a query an inner select, and an operator that NULL cannot be compared by is refused. Comparisons on
groups and of parts of dates hold whatever they are given.
-/

namespace QueryClient

/-! ## Data -/

/-- The value stands for an argument that was not given, a query or a callback. -/
def Value.isMark : Value → Bool
  | .missing | .query | .callback => true
  | _ => false

/-- The value is neither NULL nor a mark. -/
def Value.isData (v : Value) : Bool :=
  !v.isNull && !v.isMark

/-- The argument is a mark by itself; a query that is given is none. -/
def Argument.isMark : Argument → Bool
  | .value v => v.isMark
  | .entries _ | .callback .. | .query _ => false

variable {operator value x : Argument} {verb : Verb} {arguments : List Argument}

theorem Argument.fits_isData (h : x.isMark = false) : x.Fits fun v => v.isData = true := by
  intro hrows hnull
  cases x with
  | value v =>
      have hv : v.isNull = false := Argument.isNull_opaqueValue hnull
      simp only [Argument.opaqueValue, Value.isData, hv, show v.isMark = false from h,
        Bool.not_false, Bool.and_self]
  | entries pairs => rfl
  | callback onQuery onJoin | query source => cases hrows

/-- The argument is one of the given ones or the value of a key in one of them. -/
def Argument.Among (arguments : List Argument) (x : Argument) : Prop :=
  x ∈ arguments ∨ ∃ a ∈ arguments, ∃ pairs, a.entries? = some pairs ∧ ∃ e ∈ pairs, x = e.2

/-- What is compared is given: no dictionary holds a mark, something is given where NULL and queries
are told from values, and data where they are not. -/
structure Verb.Given (verb : Verb) (arguments : List Argument) : Prop where
  entries : ∀ a ∈ arguments, ∀ pairs, a.entries? = some pairs → ∀ e ∈ pairs, e.2.isMark = false
  compared : ∀ x ∈ verb.comparands arguments, x.isMark = false
  bare : ∀ x ∈ verb.bareComparands arguments, x.opaqueValue.isData = true

theorem compared_eq (operator value : Argument) :
    compared operator value = operator ∨ compared operator value = value := by
  unfold compared
  split
  · exact .inl rfl
  · exact .inr rfl

theorem compared_equals (h : value.isMark = false) :
    compared (.value (.text "=")) value = value := by
  have hmissing : value.isMissing = false := by
    cases value with
    | value v => cases v <;> first | rfl | cases h
    | entries pairs | callback onQuery onJoin | query source => rfl
  rw [compared, hmissing]
  rfl

theorem Conditions.among_of_mem_comparands {column : Argument} (hcolumn : column ∈ arguments)
    (hoperator : operator ∈ arguments) (hvalue : value ∈ arguments)
    (hentries : ∀ pairs, column.entries? = some pairs → ∀ e ∈ pairs, e.2.isMark = false)
    (hx : x ∈ Conditions.comparands column operator value) : x.Among arguments := by
  unfold Conditions.comparands at hx
  split at hx
  · rename_i pairs hpairs
    obtain ⟨e, he, rfl⟩ := List.mem_map.mp hx
    rw [compared_equals (hentries pairs hpairs e he)]
    exact .inr ⟨column, hcolumn, pairs, hpairs, e, he, rfl⟩
  · split at hx
    · exact absurd hx List.not_mem_nil
    · rw [List.mem_singleton.mp hx]
      rcases compared_eq operator value with h | h
      · rw [h]
        exact .inl hoperator
      · rw [h]
        exact .inl hvalue

theorem Verb.among_of_mem_comparands (h : verb.Given arguments)
    (hx : x ∈ verb.comparands arguments) : x.Among arguments := by
  unfold comparands at hx
  split at hx
  · exact Conditions.among_of_mem_comparands (by simp) (by simp) (by simp)
      (h.entries _ List.mem_cons_self) hx
  · split at hx
    · exact Conditions.among_of_mem_comparands (by simp) (by simp) (by simp)
        (h.entries _ (by simp)) hx
    · exact absurd hx List.not_mem_nil
  · exact absurd hx List.not_mem_nil

theorem Verb.among_of_mem_bareComparands (hx : x ∈ verb.bareComparands arguments) :
    x.Among arguments := by
  unfold bareComparands at hx
  split at hx
  · rename_i function column operator value boolean
    rw [List.mem_singleton.mp hx]
    rcases compared_eq operator value with h | h <;> simp [Argument.Among, h]
  · rename_i column operator value boolean
    rw [List.mem_singleton.mp hx]
    rcases compared_eq operator value with h | h <;> simp [Argument.Among, h]
  · exact absurd hx List.not_mem_nil

/-! ## NULL and queries -/

/-- Of a comparison with NULL a check for NULL is made, and of one with a query an inner select. -/
structure Condition.Distinguishes (operator value : Argument) (c : Condition) : Prop where
  null : compared operator value = .value .null → (c.kind = .null ∨ c.kind = .notNull)
    ∧ ∀ named, operator.operator? = some named → comparesNull named = true
  rows : (compared operator value).isRows = true → c.kind = .row

theorem comparesNull_of_prepared {named other : String} {v : Argument}
    (h : prepared operator value = .ok (named, v)) (hnull : compared operator value = .value .null)
    (hother : operator.operator? = some other) : comparesNull other = true := by
  have hoperator : operator ≠ .value .null := by
    rintro rfl
    cases hother
  have hmissing : value.isMissing = false := by
    cases hm : value.isMissing with
    | false => rfl
    | true =>
        rw [compared, hm] at hnull
        exact absurd hnull hoperator
  rw [compared, hmissing, hother] at hnull
  obtain rfl : value = .value .null := hnull
  rw [prepared, hother] at h
  cases hcompares : comparesNull other with
  | true => rfl
  | false =>
      simp only [hcompares] at h
      cases h

theorem Compares.distinguishes {host : Host} {column : Argument} {boolean : String} {c : Condition}
    (h : Compares host column operator value boolean c) : c.Distinguishes operator value := by
  cases h with
  | @rows named v source hprepared hv hs =>
      obtain ⟨-, rfl, -⟩ := prepared_eq_ok hprepared
      refine ⟨fun hnull => ?_, fun _ => rfl⟩
      rw [hnull] at hv
      cases hv
  | @null named hprepared negated =>
      obtain ⟨-, hcompared, -⟩ := prepared_eq_ok hprepared
      refine ⟨fun hnull => ⟨?_, fun other => comparesNull_of_prepared hprepared hnull⟩, ?_⟩
      · cases negated with
        | false => exact .inl rfl
        | true => exact .inr rfl
      · intro hrows
        rw [← hcompared] at hrows
        cases hrows
  | @value named v hprepared hv hnull =>
      obtain ⟨-, rfl, -⟩ := prepared_eq_ok hprepared
      refine ⟨fun h => absurd h hnull, fun hrows => ?_⟩
      rw [hv] at hrows
      cases hrows

/-- A comparison adds one condition, for which NULL and queries are told from values. -/
theorem Conditions.add_distinguishes {host : Host} {cs cs' : List Condition} {column : Argument}
    {boolean : String} (hcolumn : column.entries? = none)
    (hgroup : (column.isCallback && operator.isMissing) = false)
    (h : (add host column operator value boolean cs).result = .ok cs') :
    ∃ c, cs' = cs ++ [c] ∧ c.Distinguishes operator value := by
  unfold add at h
  simp only [hcolumn, Outcome.result_ofResult] at h
  have hadded : addComparison host column operator value boolean cs = .ok cs' := by
    cases column with
    | value v | entries pairs | query source => exact h
    | callback onQuery onJoin =>
        rw [Argument.isCallback, Bool.true_and] at hgroup
        simpa only [hgroup, Bool.false_eq_true, if_false] using h
  obtain ⟨c, rfl, hc⟩ := addComparison_eq_ok hadded
  exact ⟨c, rfl, hc.distinguishes⟩

/-! ## Clauses -/

/-- The value is an argument that the clause gets where it is run, or stands in a dictionary among
them. -/
def Clause.Passes (clause : Clause) (v : Value) : Prop :=
  ∃ g find arguments, argumentsWith g find clause.operands = .ok arguments
    ∧ ∃ x : Argument, x.Among arguments ∧ v = x.opaqueValue

/-- What the clause compares is given wherever it is run. -/
def Clause.Given (clause : Clause) : Prop :=
  ∀ g find arguments, argumentsWith g find clause.operands = .ok arguments →
    clause.verb.Given arguments

theorem Clause.Given.respects {clause : Clause} (h : clause.Given) (hcall : clause.IsCall)
    {passed : Value → Prop} (hpassed : ∀ v, clause.Passes v → passed v) :
    clause.Respects (.wellFormed fun v => v.isData = true ∧ passed v) := by
  intro g find arguments harguments
  have hgiven := h g find arguments harguments
  refine Verb.respects_wellFormed hcall.isOrdinary (fun x hx hrows hnull => ⟨?_, ?_⟩)
    fun x hx => ⟨hgiven.bare x hx, ?_⟩
  · exact Argument.fits_isData (hgiven.compared x hx) hrows hnull
  · exact hpassed _ ⟨g, find, arguments, harguments, x, Verb.among_of_mem_comparands hgiven hx, rfl⟩
  · exact hpassed _ ⟨g, find, arguments, harguments, x, Verb.among_of_mem_bareComparands hx, rfl⟩

namespace Workspace

/-- When calls give what they compare, every comparison of a column or of a part of a date, at any
depth, holds data that a call has passed. Every `where` tells NULL and queries from values. -/
theorem compared_data_passed {g : Grammar} {steps : List Step} {called : Clause → Prop}
    (hcalled : ∀ c, called c → c.IsCall ∧ c.Given)
    (hsteps : ∀ c, .clause c ∈ steps → c.Everywhere called fun _ => True) :
    (∀ q ∈ (after { grammar := g } steps).queries,
      ((after { grammar := g } steps).snapshot q).Obeys
        (.wellFormed fun v => v.isData = true ∧ ∃ c, called c ∧ c.Passes v))
    ∧ ∀ host cs cs' column operator value boolean, column.entries? = none →
        (column.isCallback && operator.isMissing) = false →
        (Conditions.add host column operator value boolean cs).result = .ok cs' →
        ∃ c, cs' = cs ++ [c] ∧ c.Distinguishes operator value := by
  have hok (c : Clause) (hc : called c) :
      c.Respects (.wellFormed fun v => v.isData = true ∧ ∃ c, called c ∧ c.Passes v) :=
    (hcalled c hc).2.respects (hcalled c hc).1 fun v hv => ⟨c, hc, hv⟩
  have hqueries := obeys_after (w := { grammar := g }) hok obeys_start hsteps
  refine ⟨fun q hq => obeys_snapshot hqueries (hqueries q hq), ?_⟩
  intro host cs cs' column operator value boolean hcolumn hgroup h
  exact Conditions.add_distinguishes hcolumn hgroup h

/-- A comparison with a number, and one with NULL that becomes a check for it. -/
theorem compared_data_passed_number :
    let compare (column operator : String) (v : Value) : Clause :=
      ⟨.filter .add, [.value (.text column), .value (.text operator), .value v,
        .value (.text "and")], .anything⟩
    let called : Clause → Prop := fun c => c = compare "a" ">" (.int 1) ∨ c = compare "b" "!=" .null
    let w : Workspace := after {} [.clause (compare "a" ">" (.int 1)),
      .clause (compare "b" "!=" .null)]
    w.query.conditions.map (·.kind) = [.basic, .notNull]
      ∧ ∀ q ∈ w.queries, (w.snapshot q).Obeys
        (.wellFormed fun v => v.isData = true ∧ ∃ c, called c ∧ c.Passes v) := by
  intro compare called w
  have hgiven : ∀ c, called c → c.Given := by
    rintro c (rfl | rfl) g find arguments ⟨⟩
    · exact ⟨by simp [Argument.entries?], List.forall_mem_singleton.mpr (by decide),
        List.forall_mem_nil _⟩
    · exact ⟨by simp [Argument.entries?], List.forall_mem_singleton.mpr (by decide),
        List.forall_mem_nil _⟩
  have hcall : ∀ c, called c → c.IsCall := by
    rintro c (rfl | rfl)
    · exact ⟨⟨"where", [.value (.text "a"), .value (.text ">"), .value (.int 1)], []⟩,
        by decide, rfl⟩
    · exact ⟨⟨"where", [.value (.text "b"), .value (.text "!="), .value .null], []⟩,
        by decide, rfl⟩
  refine ⟨rfl, (compared_data_passed (fun c hc => ⟨hcall c hc, hgiven c hc⟩) fun c hc => ?_).1⟩
  simp only [List.mem_cons, Step.clause.injEq, List.not_mem_nil, or_false] at hc
  rcases hc with rfl | rfl
  · exact ⟨.inl rfl, trivial, trivial, trivial, trivial, trivial⟩
  · exact ⟨.inr rfl, trivial, trivial, trivial, trivial, trivial⟩

/-- A comparison on groups holds NULL, and one of a column alone holds the mark of what is not
given. -/
theorem compared_data_absent :
    let having : Clause := ⟨.having, [.value (.text "a"), .value (.text "="), .value .null,
      .value (.text "and")], .queries⟩
    let alone : Clause := ⟨.filter .add, [.value (.text "a"), .value .missing, .value .missing,
      .value (.text "and")], .anything⟩
    having.IsCall ∧ alone.IsCall
      ∧ (after {} [.clause having]).bindings = .ok [.null]
      ∧ (after {} [.clause alone]).bindings = .ok [.missing] := by
  intro having alone
  refine ⟨?_, ?_, rfl, rfl⟩
  · exact ⟨⟨"having", [.value (.text "a"), .value (.text "="), .value .null], []⟩,
      by decide, rfl⟩
  · exact ⟨⟨"where", [.value (.text "a")], []⟩, by decide, rfl⟩

end Workspace

end QueryClient
