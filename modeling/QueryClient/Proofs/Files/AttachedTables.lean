import Mathlib.Data.List.Induction
import QueryClient.Files.ExternalTable

/-!
# Attached tables

Tables are attached one after the other. The last attachment of a table decides on all there is of
it: the file that is sent, and both parameters that declare it. No two tables share a parameter,
since a name is told from its parameter.
-/

namespace QueryClient.Files

/-- A table to be attached, with the files as they are at that moment. -/
structure Attachment where
  store : Store
  file : String
  table : String
  columns : Value
  format : Value

namespace Attachment

def made (a : Attachment) : ExternalTable :=
  ⟨a.file, a.table, ExternalTable.columnsOf a.columns, a.format⟩

/-- Attach further tables, one after the other. -/
def attachAll (tables : List ExternalTable) (attachments : List Attachment) :
    Except Fault (List ExternalTable) :=
  attachments.foldlM (fun tables a =>
    ExternalTable.attach a.store a.file a.table a.columns a.format tables) tables

/-- The last attachment of a table. -/
def last? (attachments : List Attachment) (table : String) : Option Attachment :=
  (attachments.filter fun a => a.table == table).getLast?

theorem attachAll_eq_ok_iff {tables tables' : List ExternalTable} {attachments : List Attachment} :
    attachAll tables attachments = .ok tables'
      ↔ (∀ a ∈ attachments, a.store.isFile a.file = true)
        ∧ tables' = tables ++ attachments.map made := by
  induction attachments generalizing tables with
  | nil =>
      have hnil : attachAll tables [] = .ok tables := rfl
      rw [hnil, List.map_nil, List.append_nil, Except.ok.injEq]
      exact ⟨fun h => ⟨nofun, h.symm⟩, fun h => h.2.symm⟩
  | cons a attachments ih =>
      have hstep : attachAll tables (a :: attachments)
          = ExternalTable.attach a.store a.file a.table a.columns a.format tables
            >>= fun tables => attachAll tables attachments := List.foldlM_cons
      rw [hstep, List.forall_mem_cons]
      cases hfile : a.store.isFile a.file with
      | false =>
          rw [ExternalTable.attach, hfile]
          simp [bind, Except.bind]
      | true =>
          rw [ExternalTable.attach, if_pos hfile, ok_bind, ih]
          simp [made]

variable {table : String}

theorem last?_concat (attachments : List Attachment) (a : Attachment) (table : String) :
    last? (attachments ++ [a]) table
      = if a.table = table then some a else last? attachments table := by
  unfold last?
  by_cases h : a.table = table
  · simp [List.filter_append, h]
  · simp [List.filter_append, h]

/-- What an attachment of the table sets anew, and an attachment of another one leaves, is what the
last attachment of the table has set. -/
theorem eq_map_last? {α : Type} (found : List Attachment → Option α) {value : Attachment → α}
    (hnil : found [] = none)
    (hconcat : ∀ attachments a, found (attachments ++ [a])
      = if a.table = table then some (value a) else found attachments)
    (attachments : List Attachment) : found attachments = (last? attachments table).map value := by
  induction attachments using List.reverseRecOn with
  | nil => exact hnil
  | append_singleton attachments a ih =>
      rw [hconcat, last?_concat, ih]
      split <;> rfl

end Attachment

namespace ExternalTable

open Attachment (eq_map_last? last? made)

/-- Names that end as those of the parameters of tables do. -/
def Reserved (name : String) : Prop :=
  "_structure".toList <:+ name.toList ∨ "_format".toList <:+ name.toList

instance (name : String) : Decidable (Reserved name) :=
  inferInstanceAs (Decidable (_ ∨ _))

theorem reserved_structure (table : String) : Reserved (table ++ "_structure") := by
  rw [Reserved, String.toList_append]
  exact .inl (List.suffix_append _ _)

theorem reserved_format (table : String) : Reserved (table ++ "_format") := by
  rw [Reserved, String.toList_append]
  exact .inr (List.suffix_append _ _)

theorem structure_ne_format (table table' : String) :
    table ++ "_structure" ≠ table' ++ "_format" := by
  intro h
  have hlast := congrArg (fun s : String => s.toList.getLast?) h
  simp [String.toList_append] at hlast

/-! ## Files and parameters -/

variable (tables : List ExternalTable) (t : ExternalTable)

theorem files_concat : files (tables ++ [t]) = (files tables).put t.table t.file := by
  simp [files, Entries.putAll]

theorem parameters_concat :
    parameters (tables ++ [t])
      = ((parameters tables).put (t.table ++ "_structure") t.columns).put (t.table ++ "_format")
        t.format := by
  simp [parameters, Entries.putAll]

/-- Of every table the file of the last attachment is sent. -/
theorem find?_files (attachments : List Attachment) (table : String) :
    Entries.find? table (files (attachments.map made))
      = (last? attachments table).map fun a => a.file := by
  refine eq_map_last? (fun attachments => Entries.find? table (files (attachments.map made))) rfl
    (fun attachments a => ?_) attachments
  rw [List.map_append, List.map_singleton, files_concat]
  split
  · rename_i h
    subst h
    exact Entries.find?_put_self _ _ _
  · rename_i h
    exact Entries.find?_put_of_ne (Ne.symm h) _ _

/-- It is declared with the columns of that attachment. -/
theorem find?_structure (attachments : List Attachment) (table : String) :
    Entries.find? (table ++ "_structure") (parameters (attachments.map made))
      = (last? attachments table).map fun a => columnsOf a.columns := by
  refine eq_map_last? (fun attachments =>
    Entries.find? (table ++ "_structure") (parameters (attachments.map made))) rfl
    (fun attachments a => ?_) attachments
  rw [List.map_append, List.map_singleton, parameters_concat,
    Entries.find?_put_of_ne (structure_ne_format _ _)]
  split
  · rename_i h
    subst h
    exact Entries.find?_put_self _ _ _
  · rename_i h
    exact Entries.find?_put_of_ne (mt (String.append_left_inj _).mp (Ne.symm h)) _ _

/-- It is declared with the format of that attachment. -/
theorem find?_format (attachments : List Attachment) (table : String) :
    Entries.find? (table ++ "_format") (parameters (attachments.map made))
      = (last? attachments table).map fun a => a.format := by
  refine eq_map_last? (fun attachments =>
    Entries.find? (table ++ "_format") (parameters (attachments.map made))) rfl
    (fun attachments a => ?_) attachments
  rw [List.map_append, List.map_singleton, parameters_concat]
  split
  · rename_i h
    subst h
    exact Entries.find?_put_self _ _ _
  · rename_i h
    exact (Entries.find?_put_of_ne (mt (String.append_left_inj _).mp (Ne.symm h)) _ _).trans
      (Entries.find?_put_of_ne (structure_ne_format _ _).symm _ _)

theorem reserved_of_mem_names {name : String} (h : name ∈ Entries.names (parameters tables)) :
    Reserved name := by
  have hmem := (Entries.mem_names_putAll.mp h).resolve_right List.not_mem_nil
  simp only [Entries.names, List.mem_map, List.mem_flatMap, List.mem_cons, List.not_mem_nil,
    or_false] at hmem
  obtain ⟨_, ⟨t, -, rfl | rfl⟩, rfl⟩ := hmem
  · exact reserved_structure t.table
  · exact reserved_format t.table

theorem distinct_files : Entries.Distinct (files tables) :=
  Entries.distinct_putAll _

theorem distinct_parameters : Entries.Distinct (parameters tables) :=
  Entries.distinct_putAll _

end ExternalTable

end QueryClient.Files
