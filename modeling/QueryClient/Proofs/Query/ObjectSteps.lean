import QueryClient.Proofs.Query.Confinement
import QueryClient.Proofs.Query.Copies
import QueryClient.Proofs.Query.Objects

/-!
# Steps on objects

Steps on objects do to the queries that these amount to what steps on queries do: a clause changes
the query of the builder in use, and a copy adds the copies of what it takes along.
-/

namespace QueryClient

/-! ## Joins -/

/-- A verb adds joins behind those that there are, unless it gives the query another list. -/
theorem Verb.joins_kept {verb : Verb} {arguments : List Argument} {g : Grammar}
    {find : Nat → Source} {q : Query}
    (h : verb.renews? = some .joins → (verb.onQuery g find q arguments).fault ≠ none) :
    q.joins <+: (verb.onQuery g find q arguments).state.joins := by
  have hall {change : Except Fault Query}
      (hchange : ∀ q' : Query, change = .ok q' → q.joins <+: q'.joins) :
      q.joins <+: (Outcome.ofResult q change).state.joins :=
    Outcome.state_ofResult (P := fun q' : Query => q.joins <+: q'.joins) List.prefix_rfl hchange
  by_cases htouched : .part .joins ∈ verb.touches
  · cases verb with
    | join =>
        -- With any number of arguments but six the verb fails and leaves the query as it is.
        rcases arguments with _ | ⟨table, _ | ⟨first, _ | ⟨operator, _ | ⟨second, _ | ⟨kind,
          _ | ⟨byValue, _ | ⟨_, _⟩⟩⟩⟩⟩⟩⟩
        pick_goal 7
        · refine hall fun q' hq' => ?_
          obtain ⟨join, -, hq'⟩ := ok_of_bind hq'
          cases hq'
          exact List.prefix_append _ _
        all_goals exact List.prefix_rfl
    | setPart part =>
        obtain rfl : part = .joins := by simpa [touches, eq_comm] using htouched
        by_cases hlength : arguments.length = 1
        · obtain ⟨v, rfl⟩ := List.length_eq_one_iff.mp hlength
          refine hall fun q' hq' => absurd ?_ (h rfl)
          rw [onQuery, hq']
          rfl
        · rw [onQuery_of_length rfl hlength]
          exact List.prefix_rfl
    | _ => simp [touches] at htouched
  · have hframe (hasks : verb.asks = false) (hfilter : ∀ filter, verb ≠ .filter filter) :
        q.joins <+: (verb.onQuery g find q arguments).state.joins := by
      have hconfined : Confined verb.touches fun q => verb.onQuery g find q arguments :=
        Verb.confined hasks (fun filter _ hverb => absurd hverb (hfilter filter)) g find
      have hsame : (verb.onQuery g find q arguments).state.joins = q.joins :=
        hconfined.frame q (.part .joins) htouched
      rw [hsame]
    cases verb with
    | filter filter => exact List.prefix_rfl
    | inspect terminal =>
        refine hall fun q' hq' => ?_
        obtain ⟨answer, -, hq'⟩ := ok_of_bind hq'
        cases hq'
        exact List.prefix_rfl
    | _ => exact hframe rfl fun filter hverb => by cases hverb

/-- With the host that a query is for its own conditions a clause does what it does to the query. -/
theorem Clause.onHosted_host (clause : Clause) {g : Grammar} {find : Nat → Source} {q : Query} :
    clause.onHosted g find q.host q = clause.onQuery g find q := by
  obtain ⟨verb, operands, reach⟩ := clause
  cases verb with
  | filter filter =>
      simp only [onHosted, onQuery]
      split
      · rfl
      · cases argumentsWith g find operands <;> rfl
  | _ => rfl

theorem Clause.joins_kept {clause : Clause} {g : Grammar} {find : Nat → Source} {q : Query}
    (h : clause.verb.renews? = some .joins → (clause.onQuery g find q).fault ≠ none) :
    q.joins <+: (clause.onQuery g find q).state.joins := by
  obtain ⟨verb, operands, reach⟩ := clause
  simp only [onQuery] at h ⊢
  by_cases hreach : reach = .joins
  · rw [if_pos hreach]
    exact List.prefix_rfl
  · rw [if_neg hreach] at h ⊢
    cases hmade : argumentsWith g find operands with
    | error fault => exact List.prefix_rfl
    | ok arguments =>
        rw [hmade] at h
        exact Verb.joins_kept h

/-! ## Storing -/

theorem Query.join_mem_items {q : Query} {joins : List Item} {slot : Slot} {j : JoinObject}
    (h : .join j ∈ q.items joins slot) : .join j ∈ joins := by
  cases slot with
  | joins => exact h
  | conditions | groups | havings | orders | unions | unionOrders =>
      obtain ⟨_, -, heq⟩ := List.mem_map.mp h
      cases heq

namespace Heap

variable {h k : Heap} {m : Model} {id : Nat} {q : Query}

theorem length_queries (h : Heap) : h.queries.length = h.models.length :=
  List.length_map _

theorem getElem?_queries (h : Heap) (i : Nat) : h.queries[i]? = (h.models[i]?).map h.query :=
  List.getElem?_map

theorem places_set (h : Heap) (hm : h.models[id]? = some m) (lists : List (List Item))
    (outline : Outline) :
    ({ lists, models := h.models.set id { m with outline } } : Heap).places = h.places := by
  funext i
  have hlt := (List.getElem?_eq_some_iff.mp hm).1
  by_cases hi : id = i
  · subst hi
    rw [places, places, List.getElem?_set_self hlt, hm, Option.map_some, Option.map_some]
  · rw [places, places, List.getElem?_set_ne hi]

section Overwrite

variable {outline : Outline} {items : Slot → List Item}

/-- What is no list of the query stays as it is. -/
theorem contents_overwrite_of_ne {address : Nat} (h : ∀ slot, m.lists slot ≠ address) :
    (k.overwrite id m outline items).contents address = k.contents address := by
  rw [contents, overwrite, getElem?_write_of_ne h, contents]

theorem Owned.contents_overwrite (ho : h.Owned) (hm : h.models[id]? = some m) (slot : Slot) :
    (h.overwrite id m outline items).contents (m.lists slot) = items slot := by
  have hplaces := places_of_getElem? hm
  rw [contents, Heap.overwrite, getElem?_write (fun _ _ heq => (ho.apart hplaces hplaces heq).2)
    (ho.inRange hplaces) slot, Option.getD_some]

/-- Changing a query in place changes that query and no other. -/
theorem Owned.overwrite (ho : h.Owned) (hm : h.models[id]? = some m) (outline : Outline)
    (items : Slot → List Item) (hitems : ∀ slot j, .join j ∈ items slot → h.Free j.conditions) :
    (h.overwrite id m outline items).Owned ∧ (h.overwrite id m outline items).queries
      = h.queries.set id ((h.overwrite id m outline items).query { m with outline }) := by
  have hplaces := places_of_getElem? hm
  have hsame : (h.overwrite id m outline items).places = h.places := places_set h hm _ _
  have hlength : (h.overwrite id m outline items).lists.length = h.lists.length := length_write
  constructor
  · refine ho.of_places hsame hlength.ge fun address j hj => ?_
    by_cases haddress : ∃ slot, m.lists slot = address
    · obtain ⟨slot, rfl⟩ := haddress
      rw [ho.contents_overwrite hm] at hj
      exact .inr (Free.of_places hsame hlength.ge (hitems slot j hj))
    · rw [contents_overwrite_of_ne fun slot heq => haddress ⟨slot, heq⟩] at hj
      exact .inl hj
  · refine List.ext_getElem? fun i => ?_
    rw [getElem?_queries]
    by_cases hi : id = i
    · subst hi
      have hlt := (List.getElem?_eq_some_iff.mp hm).1
      rw [Heap.overwrite, List.getElem?_set_self hlt,
        List.getElem?_set_self (by rwa [length_queries]),
        Option.map_some]
    · rw [List.getElem?_set_ne hi, getElem?_queries, Heap.overwrite, List.getElem?_set_ne hi]
      cases hm' : h.models[i]? with
      | none => rfl
      | some m' =>
          refine congrArg some (ho.query_eq_of_contents hm' fun address _ hne => ?_)
          refine contents_overwrite_of_ne (k := h) fun slot heq => hi ?_
          exact hne id m.lists slot hplaces heq

end Overwrite

/-- Storing a query changes that query and no other. -/
theorem Owned.store (ho : h.Owned) (hm : h.models[id]? = some m)
    (hjoins : (h.query m).joins <+: q.joins) :
    (h.store id q).Owned ∧ (h.store id q).queries = h.queries.set id q := by
  obtain ⟨js, hjs⟩ := hjoins
  have hdrop : q.joins.drop (h.query m).joins.length = js := by rw [← hjs, List.drop_left]
  simp only [Heap.store, hm, hdrop]
  generalize hparts : js.map (·.parts m.maker) = parts
  obtain ⟨howned, hadded⟩ := ho.addJoins parts fun part hpart j hj => by
    obtain ⟨j', -, rfl⟩ := List.mem_map.mp (hparts ▸ hpart)
    obtain ⟨_, -, heq⟩ := List.mem_map.mp hj
    cases heq
  have hread := fun k => map_join_addJoins (k := k) h parts
  have hmodels : (h.addJoins parts).2.models = h.models := by rw [addJoins_snd]
  have hlists : (h.addJoins parts).2.lists = h.lists ++ parts.map Prod.snd := by rw [addJoins_snd]
  generalize h.addJoins parts = result at howned hadded hread hmodels hlists ⊢
  obtain ⟨added, h₁⟩ := result
  have hgrown : h.lists <+: h₁.lists := hlists ▸ List.prefix_append _ _
  have hknown : h₁.contents (m.lists .joins) = h.contents (m.lists .joins) :=
    contents_of_grown hgrown (ho.inRange (places_of_getElem? hm) .joins)
  have hm₁ : h₁.models[id]? = some m := hmodels ▸ hm
  have hfree {address : Nat} (hfree : h₁.Free address) (items : Slot → List Item) :
      (h₁.overwrite id m q.outline.flat items).contents address = h₁.contents address :=
    contents_overwrite_of_ne (hfree.ne id m.lists (places_of_getElem? hm₁))
  obtain ⟨hresult, hqueries⟩ := howned.overwrite hm₁ q.outline.flat
    (q.items (h₁.contents (m.lists .joins) ++ added)) fun slot j hj =>
      (List.mem_append.mp (Query.join_mem_items hj)).elim howned.joins (hadded j)
  refine ⟨hresult, ?_⟩
  rw [hqueries, queries, hmodels, ho.map_query_of_grown hgrown, queries]
  congr 1
  refine query_eq _ rfl (howned.contents_overwrite hm₁) ?_
  rw [List.filterMap_append, List.map_append, ← hjs]
  congr 1
  · rw [hknown]
    refine map_join_congr fun j hj => ?_
    rw [hfree (howned.joins (hknown ▸ hj)), contents_of_grown hgrown (ho.joins hj).inRange]
  · rw [hread _ fun address hle hlt => ?_, ← hparts, List.map_map]
    · exact List.map_id'' (fun j => Join.ofParts_parts m.maker j) js
    · refine hfree ⟨by rwa [hlists, List.length_append, List.length_map], fun i f hf slot => ?_⟩ _
      have hlt' := ho.inRange (show h.places i = some f by rwa [places, ← hmodels]) slot
      omega

/-! ## New lists for a query -/

section Renew

variable {slot : Slot}

theorem places_renew (hm : h.models[id]? = some m) (i : Nat) : (h.renew id slot).places i
    = if i = id then some fun other => if other = slot then h.lists.length else m.lists other
      else h.places i := by
  have hlt := (List.getElem?_eq_some_iff.mp hm).1
  simp only [renew, hm, places]
  split
  · rename_i hi
    rw [hi, List.getElem?_set_self hlt, Option.map_some]
  · rename_i hi
    rw [List.getElem?_set_ne (Ne.symm hi)]

/-- A place is the one that is new or one that the query had before. -/
theorem place_renew (hm : h.models[id]? = some m) {i : Nat} {f : Slot → Nat}
    (hf : (h.renew id slot).places i = some f) (other : Slot) :
    (i = id ∧ other = slot ∧ f other = h.lists.length)
      ∨ ∃ f', h.places i = some f' ∧ f other = f' other := by
  rw [places_renew hm] at hf
  split at hf
  · rename_i hi
    cases hf
    by_cases hother : other = slot
    · exact .inl ⟨hi, hother, if_pos hother⟩
    · exact .inr ⟨m.lists, hi ▸ places_of_getElem? hm, if_neg hother⟩
  · exact .inr ⟨f, hf, rfl⟩

/-- A query that is given another list is apart as before. -/
theorem Owned.renew (ho : h.Owned) (slot : Slot) (hm : h.models[id]? = some m) :
    (h.renew id slot).Owned := by
  have hlists : (h.renew id slot).lists = h.lists ++ [[]] := by simp only [Heap.renew, hm]
  have hlength : (h.renew id slot).lists.length = h.lists.length + 1 := by
    rw [hlists, List.length_append, List.length_singleton]
  constructor
  · intro i f hf other
    rw [hlength]
    rcases place_renew hm hf other with ⟨-, -, heq⟩ | ⟨f', hf', heq⟩
    · rw [heq]
      exact Nat.lt_succ_self _
    · rw [heq]
      exact Nat.lt_succ_of_lt (ho.inRange hf' other)
  · intro i i' f f' hf hf' other other' heq
    rcases place_renew hm hf other with ⟨hi, hother, hnew⟩ | ⟨g, hg, hold⟩ <;>
      rcases place_renew hm hf' other' with ⟨hi', hother', hnew'⟩ | ⟨g', hg', hold'⟩
    · exact ⟨hi.trans hi'.symm, hother.trans hother'.symm⟩
    · have hlt := ho.inRange hg' other'
      omega
    · have hlt := ho.inRange hg other
      omega
    · exact ho.apart hg hg' (hold ▸ hold' ▸ heq)
  · intro address j hj
    simp only [Heap.renew, hm] at hj
    rcases mem_contents_append hj with hj | ⟨items, hitems, hj⟩
    · have hfree := ho.joins hj
      refine ⟨hlength ▸ Nat.lt_succ_of_lt hfree.inRange, fun i f hf other => ?_⟩
      rcases place_renew hm hf other with ⟨-, -, heq⟩ | ⟨f', hf', heq⟩
      · rw [heq]
        exact Nat.ne_of_gt hfree.inRange
      · rw [heq]
        exact hfree.ne i f' hf' other
    · rw [List.mem_singleton.mp hitems] at hj
      cases hj

/-- With another list one place of a query is empty, and all other queries are as before. -/
theorem Owned.exists_renew (ho : h.Owned) (slot : Slot) (hm : h.models[id]? = some m) :
    ∃ m', (h.renew id slot).models[id]? = some m'
      ∧ (h.renew id slot).queries = h.queries.set id ((h.renew id slot).query m')
      ∧ ((h.renew id slot).query m').joins = if slot = .joins then [] else (h.query m).joins := by
  have hplaces := places_of_getElem? hm
  have hlt := (List.getElem?_eq_some_iff.mp hm).1
  have hgrown : h.lists <+: (h.renew id slot).lists := by
    simp only [Heap.renew, hm]
    exact List.prefix_append _ _
  have hmodels : (h.renew id slot).models = h.models.set id { m with
      lists := fun other => if other = slot then h.lists.length else m.lists other } := by
    simp only [Heap.renew, hm]
  refine ⟨_, by rw [hmodels, List.getElem?_set_self hlt], ?_, ?_⟩
  · rw [queries, hmodels, List.map_set, ho.map_query_of_grown hgrown, queries]
  · simp only [query, eq_comm (a := Slot.joins)]
    split
    · have hempty : (h.renew id slot).contents h.lists.length = [] := by
        simp only [Heap.renew, hm, contents, List.getElem?_concat_length, Option.getD_some]
      rw [hempty]
      rfl
    · rw [contents_of_grown hgrown (ho.inRange hplaces .joins)]
      exact map_join_congr fun j hj => contents_of_grown hgrown (ho.joins hj).inRange

end Renew

/-- Writing what became of a query changes that query and no other. -/
theorem Owned.update (ho : h.Owned) (hm : h.models[id]? = some m) (renewed : Option Slot)
    (hjoins : renewed ≠ some .joins → (h.query m).joins <+: q.joins) :
    (h.update id renewed q).Owned ∧ (h.update id renewed q).queries = h.queries.set id q := by
  cases renewed with
  | none => exact ho.store hm (hjoins nofun)
  | some slot =>
      obtain ⟨m', hm', hqueries, hempty⟩ := ho.exists_renew slot hm
      obtain ⟨hresult, hstored⟩ := (ho.renew slot hm).store (q := q) hm' <| by
        rw [hempty]
        split
        · exact List.nil_prefix
        · rename_i hslot
          exact hjoins fun heq => hslot (Option.some.inj heq)
      exact ⟨hresult, by rw [Heap.update, hstored, hqueries, List.set_set]⟩

/-! ## Copies -/

/-- Copying queries one after the other adds their copies, and what is to be copied stays as it
is. -/
theorem Owned.foldl_copyModel {number : Nat → Nat} (ids : List Nat) :
    ∀ {h : Heap}, h.Owned → (∀ i ∈ ids, i < h.queries.length) →
      (ids.foldl (Heap.copyModel number) h).Owned ∧ (ids.foldl (Heap.copyModel number) h).queries
        = h.queries ++ ids.map fun i =>
            ((h.queries[i]?).getD {}).resolve fun id => .shared (number id) := by
  induction ids with
  | nil => exact fun ho _ => ⟨ho, (List.append_nil _).symm⟩
  | cons i ids ih =>
      intro h ho hids
      rw [List.forall_mem_cons] at hids
      obtain ⟨m, hm⟩ : ∃ m, h.models[i]? = some m :=
        ⟨_, List.getElem?_eq_getElem (h.length_queries ▸ hids.1)⟩
      obtain ⟨howned, hqueries⟩ := ho.copyModel number hm
      obtain ⟨hresult, hall⟩ := ih howned fun i' hi' => by
        rw [hqueries, List.length_append]
        exact Nat.lt_add_right _ (hids.2 i' hi')
      refine ⟨hresult, ?_⟩
      rw [List.foldl_cons, hall, hqueries, List.append_assoc, List.singleton_append, List.map_cons,
        getElem?_queries, hm, Option.map_some, Option.getD_some]
      refine congrArg (h.queries ++ _ :: ·) (List.map_congr_left fun i' hi' => ?_)
      rw [List.getElem?_append_left (hids.2 i' hi')]

/-- A copy adds the copies of what it takes along. -/
theorem Owned.copy (ho : h.Owned) (id : Nat) : (h.copy id).Owned
    ∧ (h.copy id).queries = h.queries ++ Workspace.copies h.queries id := by
  rw [Heap.copy, ← h.length_queries]
  exact ho.foldl_copyModel _ fun i hi => Workspace.lt_of_mem_met hi

theorem places_adopt (h : Heap) (id : Nat) : (h.adopt id).places = h.places := by
  funext i
  rw [places, places, adopt, List.getElem?_modify]
  cases h.models[i]? with
  | none => rfl
  | some m =>
      simp only [Option.map_eq_map, Option.map_some]
      split <;> rfl

/-- Who makes groups and inner queries shows in no query. -/
theorem Owned.adopt (ho : h.Owned) (id : Nat) :
    (h.adopt id).Owned ∧ (h.adopt id).queries = h.queries := by
  refine ⟨ho.of_places (places_adopt h id) (Nat.le_refl _) fun _ _ hj => .inl hj, ?_⟩
  refine List.ext_getElem? fun i => ?_
  rw [getElem?_queries, getElem?_queries, Heap.adopt, List.getElem?_modify]
  cases h.models[i]? with
  | none => rfl
  | some m =>
      simp only [Option.map_eq_map, Option.map_some]
      split <;> rfl

/-! ## Makers -/

/-- The builder that makes groups and inner queries for a query. -/
def maker? (h : Heap) (i : Nat) : Option Nat :=
  (h.models[i]?).map Model.maker

theorem maker?_set {m' : Model} {lists : List (List Item)} (hm : h.models[id]? = some m)
    (hmaker : m'.maker = m.maker) :
    ({ lists, models := h.models.set id m' } : Heap).maker? = h.maker? := by
  funext i
  have hlt := (List.getElem?_eq_some_iff.mp hm).1
  by_cases hi : id = i
  · subst hi
    rw [maker?, maker?, List.getElem?_set_self hlt, hm, Option.map_some, Option.map_some, hmaker]
  · rw [maker?, maker?, List.getElem?_set_ne hi]

theorem maker?_store (hm : h.models[id]? = some m) : (h.store id q).maker? = h.maker? := by
  simp only [store, hm, addJoins_snd]
  exact maker?_set hm rfl

theorem maker?_update (hm : h.models[id]? = some m) (renewed : Option Slot) :
    (h.update id renewed q).maker? = h.maker? := by
  cases renewed with
  | none => exact maker?_store hm
  | some slot =>
      have hlt := (List.getElem?_eq_some_iff.mp hm).1
      have hrenewed : (h.renew id slot).maker? = h.maker? := by
        simp only [renew, hm]
        exact maker?_set hm rfl
      have hm' : ∃ m', (h.renew id slot).models[id]? = some m' := by
        simp only [renew, hm]
        exact ⟨_, List.getElem?_set_self hlt⟩
      obtain ⟨m', hm'⟩ := hm'
      rw [update, maker?_store hm', hrenewed]

theorem maker?_of_grown (hgrown : h.models <+: k.models) {i maker : Nat}
    (hi : h.maker? i = some maker) : k.maker? i = some maker := by
  obtain ⟨added, hadded⟩ := hgrown
  obtain ⟨m, hm, hmaker⟩ := Option.map_eq_some_iff.mp hi
  rw [maker?, ← hadded, List.getElem?_append_left (List.getElem?_eq_some_iff.mp hm).1, hm,
    Option.map_some, hmaker]

theorem models_prefix_copy (h : Heap) (id : Nat) : h.models <+: (h.copy id).models := by
  have hmodel (number : Nat → Nat) (k : Heap) (i : Nat) :
      k.models <+: (k.copyModel number i).models := by
    unfold copyModel
    split
    · exact List.prefix_rfl
    · simp only [copyJoins, addJoins_snd, addModel]
      exact List.prefix_append _ _
  rw [copy]
  generalize Workspace.met h.queries id = ids
  generalize Workspace.copyNumber h.models.length ids = number
  induction ids generalizing h with
  | nil => exact List.prefix_rfl
  | cons i ids ih => exact (hmodel number h i).trans (ih _)

theorem maker?_adopt_of_ne {i : Nat} (hi : id ≠ i) : (h.adopt id).maker? i = h.maker? i := by
  rw [maker?, adopt, List.getElem?_modify_ne _ _ hi, maker?]

theorem maker?_adopt_self (hid : id < h.models.length) : (h.adopt id).maker? id = some id := by
  rw [maker?, adopt, List.getElem?_modify_eq, List.getElem?_eq_getElem hid]
  rfl

end Heap

end QueryClient
