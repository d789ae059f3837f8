/-!
# Entries in order

Pairs of a name and a value that keep the order in which names were first set. Setting a name again
changes its value in place.
-/

namespace QueryClient

/-- Named values in the order in which their names were first set. -/
abbrev Entries (α : Type) := List (String × α)

namespace Entries

variable {α β : Type}

def find? (name : String) : Entries α → Option α
  | [] => none
  | (k, v) :: rest => if k = name then some v else find? name rest

def holds (name : String) (es : Entries α) : Bool :=
  (find? name es).isSome

/-- Set a name; one that is set already keeps its place. -/
def put (name : String) (v : α) : Entries α → Entries α
  | [] => [(name, v)]
  | (k, old) :: rest => if k = name then (k, v) :: rest else (k, old) :: put name v rest

/-- Set several names one after the other. -/
def putAll (es : Entries α) (more : List (String × α)) : Entries α :=
  more.foldl (fun es (name, v) => put name v es) es

def remove (name : String) (es : Entries α) : Entries α :=
  es.filter fun (k, _) => k != name

def removeAll (names : List String) (es : Entries α) : Entries α :=
  names.foldl (fun es name => remove name es) es

def names (es : Entries α) : List String :=
  es.map (·.1)

theorem find?_put_self (name : String) (v : α) (es : Entries α) :
    find? name (put name v es) = some v := by
  induction es with
  | nil => simp [put, find?]
  | cons e rest ih =>
    obtain ⟨k, old⟩ := e
    by_cases h : k = name <;> simp [put, find?, h, ih]

theorem find?_put_of_ne {name other : String} (h : other ≠ name) (v : α) (es : Entries α) :
    find? other (put name v es) = find? other es := by
  induction es with
  | nil => simp [put, find?, Ne.symm h]
  | cons e rest ih =>
    obtain ⟨k, old⟩ := e
    by_cases hk : k = name
    · subst hk; simp [put, find?, Ne.symm h]
    · by_cases ho : k = other
      · subst ho; simp [put, find?, hk]
      · simp [put, find?, hk, ho, ih]

theorem find?_remove_self (name : String) (es : Entries α) :
    find? name (remove name es) = none := by
  induction es with
  | nil => rfl
  | cons e rest ih =>
    obtain ⟨k, v⟩ := e
    by_cases h : k = name
    · simpa [remove, h] using ih
    · simpa [remove, find?, h] using ih

theorem find?_remove_of_ne {name other : String} (h : other ≠ name) (es : Entries α) :
    find? other (remove name es) = find? other es := by
  induction es with
  | nil => rfl
  | cons e rest ih =>
    obtain ⟨k, v⟩ := e
    by_cases hk : k = name
    · subst hk; simpa [remove, find?, Ne.symm h] using ih
    · by_cases ho : k = other
      · simp [remove, find?, ho, h]
      · simpa [remove, find?, hk, ho] using ih

theorem find?_removeAll (names : List String) (name : String) (es : Entries α) :
    find? name (removeAll names es) = if name ∈ names then none else find? name es := by
  induction names generalizing es with
  | nil => rfl
  | cons other names ih =>
    rw [removeAll, List.foldl_cons, ← removeAll, ih]
    by_cases h : name = other
    · subst h; simp [find?_remove_self]
    · simp [h, find?_remove_of_ne h]

theorem find?_map (f : α → β) (name : String) (es : Entries α) :
    find? name (es.map fun (k, v) => (k, f v)) = (find? name es).map f := by
  induction es with
  | nil => rfl
  | cons e rest ih =>
    obtain ⟨k, v⟩ := e
    by_cases h : k = name <;> simp [find?, h, ih]

/-! ## Names -/

theorem find?_eq_none_iff {name : String} {es : Entries α} :
    find? name es = none ↔ name ∉ names es := by
  induction es with
  | nil => simp [find?, names]
  | cons e rest ih =>
    obtain ⟨k, v⟩ := e
    by_cases h : k = name
    · simp [find?, names, h]
    · simpa [find?, names, h, Ne.symm h] using ih

theorem mem_names_put {name other : String} {v : α} {es : Entries α} :
    other ∈ names (put name v es) ↔ other = name ∨ other ∈ names es := by
  rw [← Decidable.not_iff_not, ← find?_eq_none_iff]
  by_cases h : other = name
  · subst h; simp [find?_put_self]
  · simp [find?_put_of_ne h, h, find?_eq_none_iff]

theorem mem_names_putAll {name : String} {es : Entries α} {more : List (String × α)} :
    name ∈ names (putAll es more) ↔ name ∈ names more ∨ name ∈ names es := by
  induction more generalizing es with
  | nil => simp [putAll, names]
  | cons e more ih =>
    rw [putAll, List.foldl_cons, ← putAll, ih, mem_names_put]
    simp only [names, List.map_cons, List.mem_cons]
    rw [or_left_comm, or_assoc]

theorem find?_putAll_of_not_mem {name : String} {more : List (String × α)}
    (h : name ∉ names more) (es : Entries α) : find? name (putAll es more) = find? name es := by
  induction more generalizing es with
  | nil => rfl
  | cons e more ih =>
    simp only [names, List.map_cons, List.mem_cons, not_or] at h
    rw [putAll, List.foldl_cons, ← putAll, ih h.2, find?_put_of_ne h.1]

/-- Every name is there once. -/
def Distinct (es : Entries α) : Prop :=
  (names es).Nodup

theorem Distinct.find?_putAll {more : Entries α} (h : Distinct more) (name : String)
    (es : Entries α) : find? name (putAll es more) = (find? name more).or (find? name es) := by
  induction more generalizing es with
  | nil => rfl
  | cons e more ih =>
    obtain ⟨k, v⟩ := e
    obtain ⟨hk, hmore⟩ := List.nodup_cons.mp h
    rw [putAll, List.foldl_cons, ← putAll, ih hmore, find?]
    by_cases hname : k = name
    · subst hname
      rw [find?_eq_none_iff.mpr hk, find?_put_self, if_pos rfl]
      rfl
    · rw [find?_put_of_ne (Ne.symm hname), if_neg hname]

theorem Distinct.put {es : Entries α} (h : Distinct es) (name : String) (v : α) :
    Distinct (put name v es) := by
  induction es with
  | nil => simp [Entries.put, Distinct, names]
  | cons e rest ih =>
    obtain ⟨k, old⟩ := e
    obtain ⟨hk, hrest⟩ := List.nodup_cons.mp h
    rw [Entries.put]
    split
    · exact List.nodup_cons.mpr ⟨hk, hrest⟩
    · rename_i hne
      refine List.nodup_cons.mpr ⟨fun hmem => ?_, ih hrest⟩
      exact (mem_names_put.mp hmem).elim hne hk

theorem Distinct.putAll {es : Entries α} (h : Distinct es) (more : List (String × α)) :
    Distinct (putAll es more) := by
  induction more generalizing es with
  | nil => exact h
  | cons e more ih => exact ih (h.put e.1 e.2)

/-- Set one after the other, all names end up there once. -/
theorem distinct_putAll (more : List (String × α)) : Distinct (putAll [] more) :=
  (show Distinct [] from List.nodup_nil).putAll more

theorem Distinct.sublist {es es' : Entries α} (h : Distinct es) (hsub : List.Sublist es' es) :
    Distinct es' :=
  List.Nodup.sublist (hsub.map _) h

theorem Distinct.removeAll {es : Entries α} (h : Distinct es) (names : List String) :
    Distinct (removeAll names es) := by
  induction names generalizing es with
  | nil => exact h
  | cons name names ih => exact ih (h.sublist List.filter_sublist)

theorem Distinct.map {es : Entries α} (h : Distinct es) (f : α → β) :
    Distinct (es.map fun (k, v) => (k, f v)) := by
  unfold Distinct names
  rw [List.map_map]
  exact h

/-- Where every name is there once, looking up finds all there is. -/
theorem Distinct.mem_iff {es : Entries α} (h : Distinct es) {name : String} {v : α} :
    (name, v) ∈ es ↔ find? name es = some v := by
  induction es with
  | nil => simp [find?]
  | cons e rest ih =>
    obtain ⟨k, old⟩ := e
    obtain ⟨hk, hrest⟩ := List.nodup_cons.mp h
    rw [List.mem_cons, ih hrest, find?]
    by_cases hname : k = name
    · subst hname
      rw [find?_eq_none_iff.mpr hk, if_pos rfl]
      simp [eq_comm]
    · simp [hname, Ne.symm hname]

end Entries

end QueryClient
