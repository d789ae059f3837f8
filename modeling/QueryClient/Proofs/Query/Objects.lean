import Mathlib.Data.List.Basic
import QueryClient.Proofs.Query.References
import QueryClient.Query.Builders

/-!
# Objects apart from each other

No two queries have a list in common, and no list of the conditions of a join is one of a query.
Every way of writing keeps it so, and then it shows in no query but the one that it is about.
-/

namespace QueryClient

/-! ## Slots and items -/

namespace Slot

theorem mem_all (slot : Slot) : slot ∈ all := by
  cases slot <;> decide

theorem index_inj {slot slot' : Slot} : slot.index = slot'.index ↔ slot = slot' :=
  List.idxOf_inj (mem_all slot)

theorem getElem?_index {α : Type} (f : Slot → α) (slot : Slot) :
    (all.map f)[slot.index]? = some (f slot) := by
  rw [List.getElem?_map, index, List.getElem?_idxOf (mem_all slot), Option.map_some]

theorem index_lt (slot : Slot) : slot.index < all.length :=
  List.idxOf_lt_length_of_mem (mem_all slot)

end Slot

namespace Item

variable {items : List Item} {number : Nat → Nat}

theorem filterMap_put {α : Type} {get : Item → Option α} {put : α → Item}
    (h : ∀ a, get (put a) = some a) (as : List α) : (as.map put).filterMap get = as := by
  rw [List.filterMap_map, show get ∘ put = some from funext h, List.filterMap_some]

theorem filterMap_condition (cs : List Condition) : (cs.map condition).filterMap condition? = cs :=
  filterMap_put (fun _ => rfl : ∀ c, condition? (condition c) = some c) cs

theorem filterMap_value (vs : List Value) : (vs.map value).filterMap value? = vs :=
  filterMap_put (fun _ => rfl : ∀ v, value? (value v) = some v) vs

theorem filterMap_order (os : List Order) : (os.map order).filterMap order? = os :=
  filterMap_put (fun _ => rfl : ∀ o, order? (order o) = some o) os

theorem filterMap_union (us : List Union) : (us.map union).filterMap union? = us :=
  filterMap_put (fun _ => rfl : ∀ u, union? (union u) = some u) us

theorem filterMap_renumber {α : Type} {get : Item → Option α} {f : α → α}
    (h : ∀ item, get (renumber number item) = (get item).map f) (items : List Item) :
    (items.map (renumber number)).filterMap get = (items.filterMap get).map f := by
  rw [List.filterMap_map, List.map_filterMap]
  exact congrArg (List.filterMap · items) (funext h)

theorem filterMap_renumber_condition (items : List Item) :
    (items.map (renumber number)).filterMap condition?
      = (items.filterMap condition?).map (Condition.resolve fun id => .shared (number id)) :=
  filterMap_renumber (fun item => by cases item <;> rfl) items

theorem filterMap_renumber_union (items : List Item) :
    (items.map (renumber number)).filterMap union?
      = (items.filterMap union?).map (Union.resolve fun id => .shared (number id)) :=
  filterMap_renumber (fun item => by cases item <;> rfl) items

theorem filterMap_renumber_value (items : List Item) :
    (items.map (renumber number)).filterMap value? = items.filterMap value? := by
  rw [filterMap_renumber (f := id) fun item => by cases item <;> rfl, List.map_id]

theorem filterMap_renumber_order (items : List Item) :
    (items.map (renumber number)).filterMap order? = items.filterMap order? := by
  rw [filterMap_renumber (f := id) fun item => by cases item <;> rfl, List.map_id]

end Item

theorem resolveConditions_eq_map (find : Nat → Source) (cs : List Condition) :
    resolveConditions find cs = cs.map (Condition.resolve find) := by
  induction cs with
  | nil => rfl
  | cons c cs ih => rw [resolveConditions, ih, List.map_cons]

theorem resolveJoins_eq_map (find : Nat → Source) (js : List Join) :
    resolveJoins find js = js.map (Join.resolve find) := by
  induction js with
  | nil => rfl
  | cons j js ih => rw [resolveJoins, ih, List.map_cons]

theorem resolveUnions_eq_map (find : Nat → Source) (us : List Union) :
    resolveUnions find us = us.map (Union.resolve find) := by
  induction us with
  | nil => rfl
  | cons u us ih => rw [resolveUnions, ih, List.map_cons]

/-- The join that its parts amount to. -/
def Join.ofParts (parts : JoinTarget × List Item) : Join where
  kind := parts.1.kind
  table := parts.1.table
  conditions := parts.2.filterMap Item.condition?

theorem Join.ofParts_parts (maker : Nat) (j : Join) : ofParts (j.parts maker) = j := by
  cases j
  simp only [ofParts, parts, Item.filterMap_condition]

namespace Heap

variable {h k : Heap} {m : Model} {id address : Nat}

/-! ## What a query depends on -/

theorem contents_of_grown (hgrown : h.lists <+: k.lists) (haddress : address < h.lists.length) :
    k.contents address = h.contents address := by
  obtain ⟨added, hadded⟩ := hgrown
  rw [contents, ← hadded, List.getElem?_append_left haddress, contents]

/-- Joins read alike as long as their lists stay as they are. -/
theorem map_join_congr {items : List Item} (hjoins : ∀ j, .join j ∈ items →
    k.contents j.conditions = h.contents j.conditions) :
    (items.filterMap Item.join?).map k.join = (items.filterMap Item.join?).map h.join := by
  refine List.map_congr_left fun j hj => ?_
  obtain ⟨item, hitem, hget⟩ := List.mem_filterMap.mp hj
  cases item with
  | join j' =>
      cases hget
      rw [join, conditionsAt, hjoins j hitem, join, conditionsAt]
  | condition c | value v | order o | union u => cases hget

/-- A query is what its lists and those of its joins hold. -/
theorem query_congr (hlists : ∀ slot, k.contents (m.lists slot) = h.contents (m.lists slot))
    (hjoins : ∀ j, .join j ∈ h.contents (m.lists .joins) →
      k.contents j.conditions = h.contents j.conditions) : k.query m = h.query m := by
  simp only [query, conditionsAt, hlists, map_join_congr hjoins]

/-- A query whose lists hold its items. -/
theorem query_eq {q : Query} (joins : List Item) (houtline : m.outline = q.outline.flat)
    (hlists : ∀ slot, k.contents (m.lists slot) = q.items joins slot)
    (hjoins : (joins.filterMap Item.join?).map k.join = q.joins) : k.query m = q := by
  cases q
  simp only [query, conditionsAt, hlists, Query.items, hjoins, houtline, Outline.flat,
    Item.filterMap_condition, Item.filterMap_value, Item.filterMap_order, Item.filterMap_union]

/-- Lists with other numbers in them are those of the query with other numbers. -/
theorem query_renumber {m' : Model} {number : Nat → Nat} (houtline : m'.outline = m.outline)
    (hlists : ∀ slot, slot ≠ .joins →
      k.contents (m'.lists slot) = h.renumbered number (m.lists slot))
    (hjoins : ((k.contents (m'.lists .joins)).filterMap Item.join?).map k.join
      = ((h.contents (m.lists .joins)).filterMap Item.join?).map fun j =>
          (h.join j).resolve fun id => .shared (number id)) :
    k.query m' = (h.query m).resolve fun id => .shared (number id) := by
  simp only [query, conditionsAt, renumbered, hjoins, houtline, Query.resolve,
    resolveConditions_eq_map, resolveJoins_eq_map, resolveUnions_eq_map, List.map_map,
    hlists .conditions nofun, hlists .groups nofun, hlists .havings nofun, hlists .orders nofun,
    hlists .unions nofun, hlists .unionOrders nofun, Item.filterMap_renumber_condition,
    Item.filterMap_renumber_union, Item.filterMap_renumber_value, Item.filterMap_renumber_order,
    Function.comp_def]

/-! ## Adding joins -/

theorem addJoins_snd (h : Heap) (parts : List (JoinTarget × List Item)) :
    (h.addJoins parts).2 = { h with lists := h.lists ++ parts.map Prod.snd } := by
  induction parts generalizing h with
  | nil => simp only [addJoins, List.map_nil, List.append_nil]
  | cons part parts ih =>
      simp only [addJoins, ih, List.map_cons, List.append_assoc, List.singleton_append]

/-- Joins that are added have lists that were not there before. -/
theorem mem_addJoins {item : Item} (h : Heap) (parts : List (JoinTarget × List Item))
    (hitem : item ∈ (h.addJoins parts).1) : ∃ j, item = .join j
      ∧ h.lists.length ≤ j.conditions ∧ j.conditions < h.lists.length + parts.length := by
  induction parts generalizing h with
  | nil => exact absurd hitem List.not_mem_nil
  | cons part parts ih =>
      rw [addJoins] at hitem
      rcases List.mem_cons.mp hitem with rfl | hrest
      · exact ⟨_, rfl, Nat.le_refl _, Nat.lt_add_of_pos_right (Nat.succ_pos _)⟩
      · obtain ⟨j, rfl, hle, hlt⟩ := ih _ hrest
        simp only [List.length_append, List.length_cons, List.length_nil] at hle hlt ⊢
        exact ⟨j, rfl, by omega, by omega⟩

/-- Joins that were added read as their parts as long as their lists stay as they are. -/
theorem map_join_addJoins (h : Heap) (parts : List (JoinTarget × List Item))
    (hk : ∀ address, h.lists.length ≤ address → address < h.lists.length + parts.length →
      k.contents address = (h.addJoins parts).2.contents address) :
    ((h.addJoins parts).1.filterMap Item.join?).map k.join = parts.map Join.ofParts := by
  induction parts generalizing h with
  | nil => rfl
  | cons part parts ih =>
      obtain ⟨target, conditions⟩ := part
      have hfirst := hk h.lists.length (Nat.le_refl _) (Nat.lt_add_of_pos_right (Nat.succ_pos _))
      rw [addJoins_snd, contents, contents, List.getElem?_append_right (Nat.le_refl _),
        Nat.sub_self, List.map_cons, List.getElem?_cons_zero, Option.getD_some] at hfirst
      have hrest := ih { h with lists := h.lists ++ [conditions] } fun address hle hlt => by
        simp only [List.length_append, List.length_cons, List.length_nil] at hle hlt
        exact hk address (by omega) (by rw [List.length_cons]; omega)
      rw [addJoins]
      simp only [List.filterMap_cons, Item.join?, List.map_cons, hrest]
      rw [Join.ofParts, join, conditionsAt, contents, hfirst]

/-! ## Overwriting lists -/

section Write

variable {lists : List (List Item)} {places : Slot → Nat} {items : Slot → List Item}
  {slots : List Slot} {slot : Slot}

theorem length_foldl_set : (slots.foldl (fun lists slot => lists.set (places slot) (items slot))
    lists).length = lists.length := by
  induction slots generalizing lists with
  | nil => rfl
  | cons slot slots ih => rw [List.foldl_cons, ih, List.length_set]

theorem getElem?_foldl_set_of_ne (h : ∀ slot ∈ slots, places slot ≠ address) :
    (slots.foldl (fun lists slot => lists.set (places slot) (items slot)) lists)[address]?
      = lists[address]? := by
  induction slots generalizing lists with
  | nil => rfl
  | cons slot slots ih =>
      rw [List.forall_mem_cons] at h
      rw [List.foldl_cons, ih h.2, List.getElem?_set_ne h.1]

theorem getElem?_foldl_set (hplaces : ∀ slot slot', places slot = places slot' → slot = slot')
    (hlt : ∀ slot, places slot < lists.length) (hslot : slot ∈ slots) :
    (slots.foldl (fun lists slot => lists.set (places slot) (items slot)) lists)[places slot]?
      = some (items slot) := by
  induction slots generalizing lists with
  | nil => exact absurd hslot List.not_mem_nil
  | cons first slots ih =>
      rw [List.foldl_cons]
      by_cases hrest : slot ∈ slots
      · exact ih (fun slot => by rw [List.length_set]; exact hlt slot) hrest
      · obtain rfl := (List.mem_cons.mp hslot).resolve_right hrest
        rw [getElem?_foldl_set_of_ne fun other hother heq =>
          hrest (hplaces other slot heq ▸ hother)]
        exact List.getElem?_set_self (hlt slot)

theorem length_write : (write lists places items).length = lists.length :=
  length_foldl_set

theorem getElem?_write_of_ne (h : ∀ slot, places slot ≠ address) :
    (write lists places items)[address]? = lists[address]? :=
  getElem?_foldl_set_of_ne fun slot _ => h slot

theorem getElem?_write (hplaces : ∀ slot slot', places slot = places slot' → slot = slot')
    (hlt : ∀ slot, places slot < lists.length) (slot : Slot) :
    (write lists places items)[places slot]? = some (items slot) :=
  getElem?_foldl_set hplaces hlt (Slot.mem_all slot)

end Write

/-! ## Objects apart -/

/-- Where the lists of a query are. -/
def places (h : Heap) (i : Nat) : Option (Slot → Nat) :=
  (h.models[i]?).map Model.lists

/-- There is a list at the address, and it is none of a query. -/
structure Free (h : Heap) (address : Nat) : Prop where
  inRange : address < h.lists.length
  ne : ∀ i places, h.places i = some places → ∀ slot, places slot ≠ address

/-- Every list of a query is there and is its own in one place, and the conditions of the joins are
in none of these. -/
structure Owned (h : Heap) : Prop where
  inRange : ∀ {i places}, h.places i = some places → ∀ slot, places slot < h.lists.length
  apart : ∀ {i i' places places'}, h.places i = some places → h.places i' = some places' →
    ∀ {slot slot'}, places slot = places' slot' → i = i' ∧ slot = slot'
  joins : ∀ {address j}, .join j ∈ h.contents address → h.Free j.conditions

theorem places_of_getElem? {i : Nat} (hm : h.models[i]? = some m) : h.places i = some m.lists := by
  rw [places, hm, Option.map_some]

theorem Free.of_places (hplaces : k.places = h.places) (hlength : h.lists.length ≤ k.lists.length)
    (hfree : h.Free address) : k.Free address :=
  ⟨Nat.lt_of_lt_of_le hfree.inRange hlength, fun i f hf => hfree.ne i f (hplaces ▸ hf)⟩

/-- Where every query keeps its lists only the joins of new items are to be looked at. -/
theorem Owned.of_places (ho : h.Owned) (hplaces : k.places = h.places)
    (hlength : h.lists.length ≤ k.lists.length)
    (hjoins : ∀ address j, .join j ∈ k.contents address →
      .join j ∈ h.contents address ∨ k.Free j.conditions) : k.Owned where
  inRange hi slot := Nat.lt_of_lt_of_le (ho.inRange (hplaces ▸ hi) slot) hlength
  apart hi hi' := ho.apart (hplaces ▸ hi) (hplaces ▸ hi')
  joins hj := (hjoins _ _ hj).elim (fun hold => (ho.joins hold).of_places hplaces hlength) id

/-- Queries that are apart read alike where no more than the lists of others was overwritten. -/
theorem Owned.query_eq_of_contents (ho : h.Owned) {i : Nat} (hm : h.models[i]? = some m)
    (hk : ∀ address < h.lists.length,
      (∀ i' places slot, h.places i' = some places → places slot = address → i' = i) →
        k.contents address = h.contents address) : k.query m = h.query m := by
  have hplaces := places_of_getElem? hm
  refine query_congr (fun slot => ?_) fun j hj => ?_
  · refine hk _ (ho.inRange hplaces slot) fun i' places slot' hi' heq => ?_
    exact (ho.apart hi' hplaces heq).1
  · have hfree := ho.joins hj
    exact hk _ hfree.inRange fun i' places slot' hi' heq =>
      absurd heq (hfree.ne i' places hi' slot')

theorem Owned.map_query_of_grown (ho : h.Owned) (hgrown : h.lists <+: k.lists) :
    h.models.map k.query = h.models.map h.query := by
  refine List.map_congr_left fun m hm => ?_
  obtain ⟨i, hi⟩ := List.mem_iff_getElem?.mp hm
  exact ho.query_eq_of_contents hi fun _ haddress _ => contents_of_grown hgrown haddress

/-! ## New lists -/

section Append

variable {added : List (List Item)} {models : List Model}

theorem mem_contents_append {item : Item}
    (hitem : item ∈ ({ lists := h.lists ++ added, models } : Heap).contents address) :
    item ∈ h.contents address ∨ ∃ items ∈ added, item ∈ items := by
  rw [contents, List.getElem?_append] at hitem
  split at hitem
  · exact .inl hitem
  · cases hitems : added[address - h.lists.length]? with
    | none =>
        rw [hitems] at hitem
        exact absurd hitem List.not_mem_nil
    | some items =>
        rw [hitems] at hitem
        exact .inr ⟨items, List.mem_of_getElem? hitems, hitem⟩

theorem Owned.append (ho : h.Owned)
    (hadded : ∀ items ∈ added, ∀ j, .join j ∈ items → h.Free j.conditions) :
    ({ h with lists := h.lists ++ added } : Heap).Owned := by
  have hlength : h.lists.length ≤ (h.lists ++ added).length := by
    rw [List.length_append]
    exact Nat.le_add_right _ _
  refine ho.of_places rfl hlength fun address j hj => ?_
  rcases mem_contents_append hj with hold | ⟨items, hitems, hj⟩
  · exact .inl hold
  · exact .inr (Free.of_places (h := h) rfl hlength (hadded items hitems j hj))

end Append

/-! ## New queries -/

section AddModel

variable {outline : Outline} {items : Slot → List Item} {maker : Nat}

theorem places_addModel (i : Nat) : (h.addModel outline items maker).places i
    = if i = h.models.length then some (h.lists.length + ·.index) else h.places i := by
  rw [places, addModel]
  split
  · rename_i heq
    rw [heq, List.getElem?_concat_length, Option.map_some]
  · rename_i hne
    rw [places]
    rcases Nat.lt_or_ge i h.models.length with hlt | hge
    · rw [List.getElem?_append_left hlt]
    · rw [List.getElem?_eq_none hge, List.getElem?_eq_none]
      rw [List.length_append, List.length_singleton]
      omega

theorem Owned.addModel (ho : h.Owned)
    (hitems : ∀ slot j, .join j ∈ items slot → h.Free j.conditions) :
    (h.addModel outline items maker).Owned := by
  have hlength : (h.addModel outline items maker).lists.length
      = h.lists.length + Slot.all.length := by
    rw [Heap.addModel, List.length_append, List.length_map]
  have hfree {address : Nat} (hfree : h.Free address) :
      (h.addModel outline items maker).Free address := by
    refine ⟨by rw [hlength]; exact Nat.lt_add_right _ hfree.inRange, fun i f hf slot => ?_⟩
    rw [places_addModel] at hf
    split at hf
    · cases hf
      exact Nat.ne_of_gt (Nat.lt_add_right _ hfree.inRange)
    · exact hfree.ne i f hf slot
  constructor
  · intro i f hf slot
    rw [places_addModel] at hf
    rw [hlength]
    split at hf
    · cases hf
      exact Nat.add_lt_add_left slot.index_lt _
    · exact Nat.lt_add_right _ (ho.inRange hf slot)
  · intro i i' f f' hf hf' slot slot' heq
    rw [places_addModel] at hf hf'
    split at hf <;> split at hf'
    · rename_i hi hi'
      cases hf
      cases hf'
      exact ⟨hi.trans hi'.symm, Slot.index_inj.mp (Nat.add_left_cancel heq)⟩
    · cases hf
      have hlt := ho.inRange hf' slot'
      simp only at heq
      omega
    · cases hf'
      have hlt := ho.inRange hf slot
      simp only at heq
      omega
    · exact ho.apart hf hf' heq
  · intro address j hj
    rcases mem_contents_append hj with hold | ⟨_, hmem, hj⟩
    · exact hfree (ho.joins hold)
    · obtain ⟨slot, -, rfl⟩ := List.mem_map.mp hmem
      exact hfree (hitems slot j hj)

theorem contents_addModel (slot : Slot) :
    (h.addModel outline items maker).contents (h.lists.length + slot.index) = items slot := by
  rw [contents, Heap.addModel, List.getElem?_append_right (Nat.le_add_right _ _),
    Nat.add_sub_cancel_left, Slot.getElem?_index, Option.getD_some]

/-- With a new query the others read as before. -/
theorem Owned.queries_addModel (ho : h.Owned) : (h.addModel outline items maker).queries
    = h.queries ++ [(h.addModel outline items maker).query
        { outline, lists := (h.lists.length + ·.index), maker }] := by
  rw [queries, Heap.addModel, List.map_append, List.map_singleton, queries]
  congr 1
  exact ho.map_query_of_grown (List.prefix_append _ _)

end AddModel

/-! ## Copies -/

section Copies

variable {number : Nat → Nat} {j : JoinObject}

theorem join_mem_renumbered (h : .join j ∈ k.renumbered number address) :
    .join j ∈ k.contents address := by
  obtain ⟨item, hitem, heq⟩ := List.mem_map.mp h
  cases item with
  | join j' =>
      cases heq
      exact hitem
  | condition c | value v | order o | union u => cases heq

/-- New joins stand in no query yet. -/
theorem Owned.addJoins (ho : h.Owned) (parts : List (JoinTarget × List Item))
    (hparts : ∀ part ∈ parts, ∀ j, .join j ∈ part.2 → h.Free j.conditions) :
    (h.addJoins parts).2.Owned
      ∧ ∀ j, .join j ∈ (h.addJoins parts).1 → (h.addJoins parts).2.Free j.conditions := by
  rw [addJoins_snd]
  refine ⟨ho.append fun items hitems => ?_, fun j hj => ?_⟩
  · obtain ⟨part, hpart, rfl⟩ := List.mem_map.mp hitems
    exact hparts part hpart
  · obtain ⟨j', heq, hle, hlt⟩ := mem_addJoins h parts hj
    cases heq
    refine ⟨by rwa [List.length_append, List.length_map], fun i f hf slot heq => ?_⟩
    have hlt' := ho.inRange hf slot
    omega

theorem ofParts_renumbered (j : JoinObject) :
    Join.ofParts (j.toJoinTarget, h.renumbered number j.conditions)
      = (h.join j).resolve fun id => .shared (number id) := by
  simp only [Join.ofParts, renumbered, Item.filterMap_renumber_condition, join, Join.resolve,
    resolveConditions_eq_map, conditionsAt]

/-- The copies of joins read as the joins do with the other numbers. -/
theorem Owned.copyJoins (ho : h.Owned) (number : Nat → Nat) (address : Nat) :
    (h.copyJoins number address).2.Owned
      ∧ (h.copyJoins number address).2.models = h.models
      ∧ h.lists <+: (h.copyJoins number address).2.lists
      ∧ (∀ j, .join j ∈ (h.copyJoins number address).1 →
        (h.copyJoins number address).2.Free j.conditions)
      ∧ ∀ k : Heap, (h.copyJoins number address).2.lists <+: k.lists →
        ((h.copyJoins number address).1.filterMap Item.join?).map k.join
          = ((h.contents address).filterMap Item.join?).map fun j =>
              (h.join j).resolve fun id => .shared (number id) := by
  rw [Heap.copyJoins]
  generalize hparts : ((h.contents address).filterMap Item.join?).map
    (fun j => (j.toJoinTarget, h.renumbered number j.conditions)) = parts
  obtain ⟨howned, hjoins⟩ := ho.addJoins parts fun part hpart j hj => by
    subst hparts
    obtain ⟨j', -, rfl⟩ := List.mem_map.mp hpart
    exact ho.joins (join_mem_renumbered hj)
  refine ⟨howned, ?_, ?_, hjoins, fun k hk => ?_⟩
  · rw [addJoins_snd]
  · rw [addJoins_snd]
    exact List.prefix_append _ _
  · rw [map_join_addJoins h parts fun address _ hlt => contents_of_grown hk
      (by rwa [addJoins_snd, List.length_append, List.length_map])]
    simp only [← hparts, List.map_map, Function.comp_def, ofParts_renumbered]

/-- The copy of a query is the query with the other numbers, and nothing else changes. -/
theorem Owned.copyModel (ho : h.Owned) (number : Nat → Nat) (hm : h.models[id]? = some m) :
    (h.copyModel number id).Owned ∧ (h.copyModel number id).queries
      = h.queries ++ [(h.query m).resolve fun id => .shared (number id)] := by
  obtain ⟨howned, hmodels, hgrown, hjoins, hread⟩ := ho.copyJoins number (m.lists .joins)
  simp only [Heap.copyModel, hm]
  generalize h.copyJoins number (m.lists .joins) = copied at howned hmodels hgrown hjoins hread ⊢
  obtain ⟨joins, h₁⟩ := copied
  -- Lists that are copied behind the joins are still what they were.
  have hrenumbered (slot : Slot) :
      h₁.renumbered number (m.lists slot) = h.renumbered number (m.lists slot) := by
    rw [renumbered, contents_of_grown hgrown (ho.inRange (places_of_getElem? hm) slot), renumbered]
  refine ⟨howned.addModel fun slot j hj => ?_, ?_⟩
  · split at hj
    · exact hjoins j hj
    · exact howned.joins (join_mem_renumbered hj)
  · rw [howned.queries_addModel, queries, hmodels, ho.map_query_of_grown hgrown, queries]
    congr 2
    refine query_renumber rfl (fun slot hslot => ?_) ?_
    · rw [contents_addModel, if_neg hslot, hrenumbered]
    · rw [contents_addModel, if_pos rfl]
      exact hread _ (List.prefix_append _ _)

end Copies

end Heap

end QueryClient
