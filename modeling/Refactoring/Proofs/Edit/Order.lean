import Mathlib.Data.Nat.Find
import Mathlib.Order.Bounds.Basic
import Refactoring.Proofs.Edit.Events
import Refactoring.Proofs.Text.Encoding

/-!
# The order of touched documents

Of the events about a document those count that touch it and that no later event takes back.  The
list of touched documents holds the documents with such an event, each once, in the order of the
first of these events.
-/

namespace Refactoring

namespace DocumentEvent

/-- The event with this number touches a document, and the document is not removed behind it. -/
def Lasts (events : List DocumentEvent) (uri : Uri) (i : Nat) : Prop :=
  events[i]? = some (.touched uri) ∧ ∀ j, i < j → events[j]? ≠ some (.removed uri)

/-- The first event that touches a document behind the last one that removes it. -/
def ListedSince (events : List DocumentEvent) (uri : Uri) (i : Nat) : Prop :=
  IsLeast {i | Lasts events uri i} i

section Snoc

variable {events : List DocumentEvent} {event : DocumentEvent} {uri : Uri} {i : Nat}

theorem Lasts.lt_length (h : Lasts events uri i) : i < events.length :=
  (List.getElem?_eq_some_iff.mp h.1).1

theorem getElem?_snoc_eq_some_iff {other : DocumentEvent} :
    (events ++ [event])[i]? = some other ↔
      events[i]? = some other ∨ i = events.length ∧ event = other := by
  rcases Nat.lt_trichotomy i events.length with hi | rfl | hi
  · simp [List.getElem?_append_left hi, Nat.ne_of_lt hi]
  · simp
  · rw [List.getElem?_eq_none (by simpa [Nat.succ_le_iff] using hi),
      List.getElem?_eq_none (Nat.le_of_lt hi)]
    simp [Nat.ne_of_gt hi]

/-- One more event takes back what it removes, and it lasts itself if it touches. -/
theorem lasts_snoc_iff : Lasts (events ++ [event]) uri i ↔
    Lasts events uri i ∧ event ≠ .removed uri ∨ i = events.length ∧ event = .touched uri := by
  constructor
  · rintro ⟨htouched, hkept⟩
    rcases getElem?_snoc_eq_some_iff.mp htouched with htouched | hlast
    · refine .inl ⟨⟨htouched, fun j hj hremoved => ?_⟩, ?_⟩
      · exact hkept j hj (getElem?_snoc_eq_some_iff.mpr (.inl hremoved))
      · obtain ⟨hi, -⟩ := List.getElem?_eq_some_iff.mp htouched
        exact fun hevent => hkept _ hi (getElem?_snoc_eq_some_iff.mpr (.inr ⟨rfl, hevent⟩))
    · exact .inr hlast
  · rintro (⟨⟨htouched, hkept⟩, hevent⟩ | ⟨rfl, rfl⟩)
    · refine ⟨getElem?_snoc_eq_some_iff.mpr (.inl htouched), fun j hj hremoved => ?_⟩
      rcases getElem?_snoc_eq_some_iff.mp hremoved with hremoved | ⟨-, hlast⟩
      · exact hkept j hj hremoved
      · exact hevent hlast
    · refine ⟨getElem?_snoc_eq_some_iff.mpr (.inr ⟨rfl, rfl⟩), fun j hj hremoved => ?_⟩
      rw [List.getElem?_eq_none (by simpa [Nat.succ_le_iff] using hj)] at hremoved
      cases hremoved

/-- A document that is not removed stays listed since the same event. -/
theorem ListedSince.snoc (h : ListedSince events uri i) (hevent : event ≠ .removed uri) :
    ListedSince (events ++ [event]) uri i := by
  refine ⟨lasts_snoc_iff.mpr (.inl ⟨h.1, hevent⟩), fun j hj => ?_⟩
  rcases lasts_snoc_iff.mp hj with ⟨hj, -⟩ | ⟨rfl, -⟩
  · exact h.2 hj
  · exact Nat.le_of_lt h.1.lt_length

/-- A document that was not listed is listed since the event that touches it. -/
theorem listedSince_snoc (h : ∀ i, ¬ Lasts events uri i) :
    ListedSince (events ++ [.touched uri]) uri events.length := by
  refine ⟨lasts_snoc_iff.mpr (.inr ⟨rfl, rfl⟩), fun j hj => ?_⟩
  rcases lasts_snoc_iff.mp hj with ⟨hj, -⟩ | ⟨rfl, -⟩
  · exact absurd hj (h j)
  · exact Nat.le_refl _

end Snoc

theorem exists_lasts_iff {events : List DocumentEvent} {uri : Uri} :
    (∃ i, Lasts events uri i) ↔ uri ∈ events.foldl record [] := by
  induction events using List.reverseRecOn with
  | nil => simp [Lasts]
  | append_singleton events event ih =>
    rw [List.foldl_append, List.foldl_cons, List.foldl_nil]
    simp only [lasts_snoc_iff, exists_or, exists_and_right, ih]
    cases event with
    | touched other => simp [record, mem_touch, eq_comm, or_comm]
    | removed other => simp [record, mem_forget, eq_comm]

/-- A document that is on the list is listed since some event. -/
theorem exists_listedSince {events : List DocumentEvent} {uri : Uri}
    (h : uri ∈ events.foldl record []) : ∃ i, ListedSince events uri i := by
  classical
  have hlasts := exists_lasts_iff.mpr h
  exact ⟨Nat.find hlasts, Nat.find_spec hlasts, fun _ => Nat.find_min' hlasts⟩

/-- Documents are recorded in the order in which they are listed. -/
theorem pairwise_foldl_record (events : List DocumentEvent) :
    (events.foldl record []).Pairwise fun a b =>
      ∃ i j, ListedSince events a i ∧ ListedSince events b j ∧ i < j := by
  induction events using List.reverseRecOn with
  | nil => exact .nil
  | append_singleton events event ih =>
    rw [List.foldl_append, List.foldl_cons, List.foldl_nil]
    generalize hlisted : events.foldl record [] = listed at ih
    -- What stays on the list is listed since the same event.
    have hkept (a b : Uri) (ha : event ≠ .removed a) (hb : event ≠ .removed b) :
        (∃ i j, ListedSince events a i ∧ ListedSince events b j ∧ i < j) →
          ∃ i j, ListedSince (events ++ [event]) a i ∧ ListedSince (events ++ [event]) b j ∧
            i < j
      | ⟨i, j, hi, hj, hij⟩ => ⟨i, j, hi.snoc ha, hj.snoc hb, hij⟩
    cases event with
    | touched uri =>
      have hstays := ih.imp fun {a b} => hkept a b nofun nofun
      rw [record, touch]
      split
      · exact hstays
      · rename_i hnew
        rw [List.contains_iff_mem] at hnew
        refine List.pairwise_append.mpr ⟨hstays, List.pairwise_singleton _ _, ?_⟩
        rintro a ha _ (_ | ⟨_, ⟨⟩⟩)
        obtain ⟨i, hi⟩ := exists_listedSince (hlisted ▸ ha)
        refine ⟨i, events.length, hi.snoc nofun, listedSince_snoc fun j hj => ?_, hi.1.lt_length⟩
        exact hnew (hlisted ▸ exists_lasts_iff.mp ⟨j, hj⟩)
    | removed uri =>
      refine (ih.filter _).imp_of_mem fun {a b} ha hb => hkept a b ?_ ?_
      · rintro ⟨⟩
        exact (mem_forget.mp ha).2 rfl
      · rintro ⟨⟩
        exact (mem_forget.mp hb).2 rfl

/-- A document that comes back stands behind those that stayed. -/
example : let file (name : String) : Uri := ⟨"file", none, .segments [name], none, none⟩
    [touched (file "A"), touched (file "B"), removed (file "A"), touched (file "B"),
      removed (file "B"), touched (file "A"), removed (file "C"), touched (file "C"),
      touched (file "B"), touched (file "A")].foldl record [] =
        [file "A", file "C", file "B"] := by decide

end DocumentEvent

open DocumentEvent

/-- The entries by document are touched in the order of the bytes of their URIs. -/
theorem WorkspaceEdit.entryUris_perm_pairwise (edit : WorkspaceEdit) :
    edit.entryUris.Perm (edit.entries.map (·.1)) ∧
      edit.entryUris.Pairwise fun a b => Utf8.encode a.text ≤ Utf8.encode b.text := by
  refine ⟨List.mergeSort_perm _ _, ?_⟩
  refine (List.pairwise_mergeSort ?_ ?_ _).imp fun h => Utf8.encode_le_encode_iff.mpr ?_
  · intro a b c hab hbc
    simp only [decide_eq_true_eq] at *
    exact String.le_trans hab hbc
  · intro a b
    simpa using String.le_total a.text b.text
  · simpa using h

/--
The list of touched documents holds, once each, the documents whose last event is that they are
touched, in the order of the first touch of each behind its last removal.  The events of an edit
are its entries by document, in the order of the bytes of their URIs, and then its steps.
-/
theorem WorkspaceEdit.touched_in_order (edit : WorkspaceEdit) :
    (edit.entryUris.Perm (edit.entries.map (·.1)) ∧
      edit.entryUris.Pairwise fun a b => Utf8.encode a.text ≤ Utf8.encode b.text) ∧
    edit.touched.Nodup ∧
    (∀ uri, uri ∈ edit.touched ↔ last? edit.events uri = some (.touched uri)) ∧
    edit.touched.Pairwise fun a b =>
      ∃ i j, ListedSince edit.events a i ∧ ListedSince edit.events b j ∧ i < j := by
  refine ⟨edit.entryUris_perm_pairwise, edit.nodup_touched, fun uri => ?_, ?_⟩
  · rw [touched_eq_foldl, mem_foldl_record]
  · rw [touched_eq_foldl]
    exact pairwise_foldl_record edit.events

end Refactoring
