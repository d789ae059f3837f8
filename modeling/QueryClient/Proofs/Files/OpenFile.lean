import QueryClient.Fault
import QueryClient.Files.Store

/-!
# Open files

Opening a file empties it under its name. What is then written to it stands under the name as long
as the name leads to the file.
-/

namespace QueryClient.Files.Store

open Gzip (Content)

variable {s s' : Store} {place : List String} {name : String} {number : Nat}

/-! ## Places -/

theorem node?_put_self (s : Store) {node : Node} (h : place ≠ []) :
    (s.put place node).node? place = some node := by
  have hnone : (s.nodes.filter (·.1 != place)).find? (·.1 == place) = none := by
    simp [List.find?_eq_none]
  simp [node?, put, h, List.find?_append, hnone]

theorem node?_put_of_ne (s : Store) {p : List String} {node : Node} (h : p ≠ place) :
    (s.put place node).node? p = s.node? p := by
  unfold node? put
  split
  · rfl
  · have hkept : (s.nodes.filter (·.1 != place)).find? (·.1 == p) = s.nodes.find? (·.1 == p) := by
      rw [List.find?_filter]
      congr 1
      funext e
      by_cases he : e.1 = p
      · simp [he, h]
      · simp [he]
    simp [List.find?_append, hkept, Ne.symm h]

theorem ne_nil_of_node? (h : s.node? place ≠ some .directory) : place ≠ [] := by
  intro hnil
  rw [hnil] at h
  exact h rfl

/-! ## Names -/

/-- A name goes on leading to its place as long as directories stay directories. -/
theorem follow_of_directories
    (h : ∀ p, s.node? p = some .directory → s'.node? p = some .directory) {names p q : List String} :
    s.follow p names = .ok q → s'.follow p names = .ok q := by
  induction names generalizing p with
  | nil => exact id
  | cons c names ih =>
      intro hq
      rw [follow] at hq ⊢
      cases hnode : s.node? p with
      | none => rw [hnode] at hq; cases hq
      | some node =>
          cases node with
          | file number content => rw [hnode] at hq; cases hq
          | directory =>
              rw [hnode] at hq
              rw [h p hnode]
              simp only at hq ⊢
              split
              · rename_i hhere
                rw [if_pos hhere] at hq
                exact ih hq
              · rename_i hhere
                rw [if_neg hhere] at hq
                split
                · rename_i hup
                  rw [if_pos hup] at hq
                  exact ih hq
                · rename_i hup
                  rw [if_neg hup] at hq
                  exact ih hq

theorem placeOf_of_directories
    (h : ∀ p, s.node? p = some .directory → s'.node? p = some .directory) :
    s.placeOf name = .ok place → s'.placeOf name = .ok place := by
  intro hplace
  unfold placeOf at hplace ⊢
  split
  · rename_i hname
    rw [if_pos hname] at hplace
    cases hplace
  · rename_i hname
    rw [if_neg hname] at hplace
    exact follow_of_directories h hplace

/-! ## Files under a name -/

/-- A name leads to the file of a number, which stands at a place and has a content. -/
structure Leads (s : Store) (name : String) (place : List String) (number : Nat)
    (content : Content) : Prop where
  placeOf : s.placeOf name = .ok place
  node? : s.node? place = some (.file number content)

theorem Leads.content_eq {content : Content} (h : s.Leads name place number content) :
    s.content name = .ok content := by
  unfold Store.content
  rw [h.placeOf]
  simp only [bind, Except.bind, h.node?]
  rfl

/-- Another content for a file, or a file where there was none, changes no other name. -/
theorem placeOf_put_file {content : Content} (hplace : s.node? place ≠ some .directory) :
    s.placeOf name = .ok place → (s.put place (.file number content)).placeOf name = .ok place := by
  apply placeOf_of_directories
  intro p hp
  rw [node?_put_of_ne]
  · exact hp
  · rintro rfl
    exact hplace hp

theorem leads_put {content : Content} (hplace : s.node? place ≠ some .directory)
    (hname : s.placeOf name = .ok place) :
    (s.put place (.file number content)).Leads name place number content :=
  ⟨placeOf_put_file hplace hname, node?_put_self s (ne_nil_of_node? hplace)⟩

theorem writablePlace_eq_ok (h : s.writablePlace name = .ok place) :
    s.placeOf name = .ok place ∧ s.node? place ≠ some .directory := by
  unfold writablePlace at h
  obtain ⟨found, hfound, h⟩ := ok_of_bind h
  have hnode : s.node? found ≠ some .directory := by
    intro hdirectory
    rw [hdirectory] at h
    cases h
  split at h
  · cases h
  · split at h
    · cases h
    · cases h
      exact ⟨hfound, hnode⟩
  · cases h
    exact ⟨hfound, hnode⟩
  · cases h
  · cases h

/-- A file that is opened is empty under its name. -/
theorem leads_openEmpty (h : s.writablePlace name = .ok place) :
    (s.openEmpty place).1.Leads name place (s.openEmpty place).2 [] := by
  obtain ⟨hname, hplace⟩ := writablePlace_eq_ok h
  unfold openEmpty
  cases hnode : s.node? place with
  | none =>
      have hcounted : ({ s with made := s.made + 1 } : Store).placeOf name = .ok place := by
        refine placeOf_of_directories ?_ hname
        exact fun _ => id
      exact leads_put hplace hcounted
  | some node =>
      cases node with
      | directory => exact absurd hnode hplace
      | file number content => exact leads_put hplace hname

/-- What is written to a file stands under its name. -/
theorem Leads.write {old : Content} (h : s.Leads name place number old) (content : Content) :
    (s.write place number content).Leads name place number (content.overwriting old) := by
  have hplace : s.node? place ≠ some .directory := by
    rw [h.node?]
    exact fun heq => by cases heq
  simp only [Store.write, h.node?, ↓reduceIte]
  exact leads_put hplace h.placeOf

end QueryClient.Files.Store
