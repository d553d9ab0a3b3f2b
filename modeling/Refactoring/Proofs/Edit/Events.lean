import Mathlib.Data.List.Induction
import Refactoring.Edit.Apply
import Refactoring.Edit.Touched

/-!
# An edit as a sequence of events

To the list of touched documents an edit is a sequence of events: a document is touched or it is
removed.  A rename does both, to the old document and to the new one.  A document is on the list
when the last event about it is that it was touched.
-/

namespace Refactoring

/-! ## Events -/

/-- What happens to a document. -/
inductive DocumentEvent where
  | touched (uri : Uri)
  | removed (uri : Uri)
  deriving Repr, DecidableEq

namespace DocumentEvent

/-- The document that an event is about. -/
def uri : DocumentEvent → Uri
  | touched uri => uri
  | removed uri => uri

/-- What an event does to the list of touched documents. -/
def record (listed : List Uri) : DocumentEvent → List Uri
  | touched uri => touch listed uri
  | removed uri => forget listed uri

/-- The last event about a document. -/
def last? (events : List DocumentEvent) (uri : Uri) : Option DocumentEvent :=
  (events.filter (·.uri = uri)).getLast?

end DocumentEvent

open DocumentEvent

/-- The events of a step. -/
def DocumentChange.events : DocumentChange → List DocumentEvent
  | .edit e => [.touched e.uri]
  | .operation (.create uri _ _) => [.touched uri]
  | .operation (.rename old new _ _) => [.removed old, .touched new]
  | .operation (.delete uri _) => [.removed uri]

/-- The events of a change. -/
def Change.events : Change → List DocumentEvent
  | .entry uri _ => [.touched uri]
  | .step change => change.events

/-- The events of an edit: its entries by document are touched in the order of their texts. -/
def WorkspaceEdit.events (edit : WorkspaceEdit) : List DocumentEvent :=
  edit.entryUris.map .touched ++ edit.steps.flatMap DocumentChange.events

/-! ## The last event -/

theorem last?_append (events later : List DocumentEvent) (uri : Uri) :
    last? (events ++ later) uri = (last? later uri).or (last? events uri) := by
  rw [last?, last?, last?, List.filter_append, List.getLast?_append]

theorem last?_singleton (event : DocumentEvent) (uri : Uri) :
    last? [event] uri = if event.uri = uri then some event else none := by
  by_cases h : event.uri = uri
  · simp [last?, h]
  · simp [last?, h]

theorem last?_touched (uri other : Uri) :
    last? [.touched uri] other = if uri = other then some (.touched uri) else none :=
  last?_singleton _ _

theorem last?_removed (uri other : Uri) :
    last? [.removed uri] other = if uri = other then some (.removed uri) else none :=
  last?_singleton _ _

/-- There is no last event about a document exactly if there is none. -/
theorem last?_eq_none_iff {events : List DocumentEvent} {uri : Uri} :
    last? events uri = none ↔ ∀ event ∈ events, event.uri ≠ uri := by
  simp [last?]

/-- The last event about a document is an event about it. -/
theorem mem_of_last? {events : List DocumentEvent} {uri : Uri} {event : DocumentEvent}
    (h : last? events uri = some event) : event ∈ events ∧ event.uri = uri := by
  simpa [List.mem_filter] using List.mem_of_getLast? h

theorem last?_map_touched (uris : List Uri) (uri : Uri) :
    last? (uris.map .touched) uri = if uri ∈ uris then some (.touched uri) else none := by
  by_cases h : uri ∈ uris
  · rw [if_pos h]
    cases hlast : last? (uris.map .touched) uri with
    | none => exact absurd rfl (last?_eq_none_iff.mp hlast _ (List.mem_map_of_mem h))
    | some event =>
      obtain ⟨hmem, huri⟩ := mem_of_last? hlast
      obtain ⟨other, -, rfl⟩ := List.mem_map.mp hmem
      rw [← huri]
      rfl
  · rw [if_neg h, last?_eq_none_iff]
    intro event hevent
    obtain ⟨other, hother, rfl⟩ := List.mem_map.mp hevent
    rintro rfl
    exact h hother

/-! ## The list of touched documents -/

theorem mem_touch {listed : List Uri} {uri other : Uri} :
    other ∈ touch listed uri ↔ other = uri ∨ other ∈ listed := by
  unfold touch
  split
  · rename_i h
    constructor
    · exact .inr
    · rintro (rfl | hother)
      · simpa using h
      · exact hother
  · rw [List.mem_append, List.mem_singleton, Or.comm]

theorem mem_forget {listed : List Uri} {uri other : Uri} :
    other ∈ forget listed uri ↔ other ∈ listed ∧ other ≠ uri := by
  rw [forget, List.mem_filter, bne_iff_ne]

theorem foldl_record_events (change : DocumentChange) (listed : List Uri) :
    change.events.foldl record listed = change.touch listed := by
  cases change with
  | edit e => rfl
  | operation o => cases o <;> rfl

/-- The events of an edit account for its list of touched documents. -/
theorem WorkspaceEdit.touched_eq_foldl (edit : WorkspaceEdit) :
    edit.touched = edit.events.foldl record [] := by
  have hsteps (steps : List DocumentChange) (listed : List Uri) :
      (steps.flatMap DocumentChange.events).foldl record listed =
        steps.foldl DocumentChange.touch listed := by
    induction steps generalizing listed with
    | nil => rfl
    | cons change steps ih =>
      rw [List.flatMap_cons, List.foldl_append, foldl_record_events, ih, List.foldl_cons]
  rw [WorkspaceEdit.touched, WorkspaceEdit.events, List.foldl_append, hsteps, List.foldl_map]
  rfl

/-- A document is recorded exactly if the last event about it is that it was touched. -/
theorem mem_foldl_record {events : List DocumentEvent} {uri : Uri} :
    uri ∈ events.foldl record [] ↔ last? events uri = some (.touched uri) := by
  induction events using List.reverseRecOn with
  | nil => simp [last?]
  | append_singleton events event ih =>
    rw [List.foldl_append, List.foldl_cons, List.foldl_nil, last?_append, last?_singleton]
    cases event with
    | touched other =>
      rw [record, mem_touch, ih]
      by_cases h : other = uri
      · subst h
        simp [DocumentEvent.uri]
      · simp [DocumentEvent.uri, h, Ne.symm h]
    | removed other =>
      rw [record, mem_forget, ih]
      by_cases h : other = uri
      · subst h
        simp [DocumentEvent.uri]
      · simp [DocumentEvent.uri, h, Ne.symm h]

/-- No document is on the list twice. -/
theorem WorkspaceEdit.nodup_touched (edit : WorkspaceEdit) : edit.touched.Nodup := by
  rw [touched_eq_foldl]
  induction edit.events using List.reverseRecOn with
  | nil => exact List.nodup_nil
  | append_singleton events event ih =>
    rw [List.foldl_append, List.foldl_cons, List.foldl_nil]
    cases event with
    | touched uri => exact nodup_touch ih uri
    | removed uri => exact ih.filter _

/-! ## Entries in any order -/

theorem WorkspaceEdit.flatMap_events_allChanges (edit : WorkspaceEdit) :
    edit.allChanges.flatMap Change.events =
      (edit.entries.map (·.1)).map .touched ++ edit.steps.flatMap DocumentChange.events := by
  rw [allChanges, List.flatMap_append, List.flatMap_map, List.flatMap_map, List.map_map,
    List.map_eq_flatMap]
  rfl

theorem WorkspaceEdit.mem_entryUris {edit : WorkspaceEdit} {uri : Uri} :
    uri ∈ edit.entryUris ↔ uri ∈ edit.entries.map (·.1) := List.mem_mergeSort

/-- The changes of an edit have the same events. -/
theorem WorkspaceEdit.mem_events {edit : WorkspaceEdit} {event : DocumentEvent} :
    event ∈ edit.events ↔ event ∈ edit.allChanges.flatMap Change.events := by
  rw [flatMap_events_allChanges, events, List.mem_append, List.mem_append, List.mem_map,
    List.mem_map]
  simp only [mem_entryUris]

/-- The order of the entries by document makes no difference to the last events. -/
theorem WorkspaceEdit.last?_events (edit : WorkspaceEdit) (uri : Uri) :
    last? edit.events uri = last? (edit.allChanges.flatMap Change.events) uri := by
  rw [flatMap_events_allChanges, events, last?_append, last?_append, last?_map_touched,
    last?_map_touched]
  simp only [mem_entryUris]

end Refactoring
