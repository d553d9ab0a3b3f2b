import Mathlib.Data.List.Chain
import Mathlib.Data.List.Sort
import Refactoring.Edit.Splice

/-!
# Edits that keep apart

The edits of a text are carried out from the last to the first, with the places that they have in the
text as it was.  If each of them ends before the next one starts, all places still lie between two
characters when their turn comes: what stands in front of an edit is as it was.  The result is then
the text with every range exchanged for the new text.
-/

namespace Refactoring.Text

/-! ## Places -/

/-- A byte index lies between two characters of a text. -/
def Boundary (text : List Char) (n : Nat) : Prop := ∃ front, front <+: text ∧ bytes8 front = n

theorem eq_nil_of_bytes8 {text : List Char} (h : bytes8 text = 0) : text = [] := by
  cases text with
  | nil => rfl
  | cons c rest =>
    have := c.utf8Size_pos
    rw [bytes8] at h
    omega

/-- A text is cut where its first part ends. -/
theorem splitAtByte?_append (front back : List Char) :
    splitAtByte? (front ++ back) (bytes8 front) = some (front, back) := by
  induction front with
  | nil => rw [bytes8, List.nil_append, splitAtByte?]
  | cons c rest ih =>
    obtain ⟨n, hn⟩ : ∃ n, c.utf8Size + bytes8 rest = n + 1 :=
      Nat.exists_eq_add_one.mpr (Nat.add_pos_left c.utf8Size_pos _)
    rw [bytes8, hn, List.cons_append, splitAtByte?, if_pos (by omega), ← hn, Nat.add_sub_cancel_left,
      ih]
    rfl

/-- A place behind the first part of a text lies in its second part. -/
theorem Boundary.exists_kept {front rest : List Char} {n : Nat} (h : Boundary (front ++ rest) n)
    (hn : bytes8 front ≤ n) :
    ∃ kept behind, rest = kept ++ behind ∧ n = bytes8 front + bytes8 kept := by
  obtain ⟨upTo, hupTo, rfl⟩ := h
  rcases List.prefix_or_prefix_of_prefix hupTo (List.prefix_append front rest) with h | ⟨kept, rfl⟩
  · -- The place is not in front of the second part, so it is at its beginning.
    obtain ⟨more, rfl⟩ := h
    rw [bytes8_append] at hn ⊢
    obtain rfl : more = [] := eq_nil_of_bytes8 (by omega)
    exact ⟨[], rest, rfl, rfl⟩
  · obtain ⟨behind, rfl⟩ := (List.prefix_append_right_inj front).mp hupTo
    exact ⟨kept, behind, rfl, bytes8_append _ _⟩

/-- Whatever a position names, it is found between two characters. -/
theorem exists_passed_seek (target : Position) (text : List Char) (p : Position) (here : Located) :
    ∃ passed, passed <+: text ∧ (seek target text p here).byte = here.byte + bytes8 passed := by
  induction text generalizing p here with
  | nil => exact ⟨[], List.nil_prefix, rfl⟩
  | cons c rest ih =>
    rw [seek]
    split
    · exact ⟨[], List.nil_prefix, rfl⟩
    · obtain ⟨passed, hpassed, hbyte⟩ := ih (p.after c rest.head?) (here.after c)
      refine ⟨c :: passed, List.cons_prefix_cons.mpr ⟨rfl, hpassed⟩, ?_⟩
      rw [hbyte, Located.after, bytes8, Nat.add_assoc]

theorem boundary_locate (text : List Char) (target : Position) :
    Boundary text (locate text target).byte := by
  obtain ⟨passed, hpassed, hbyte⟩ := exists_passed_seek target text .origin ⟨0, 0⟩
  exact ⟨passed, hpassed, by rw [locate, hbyte, Nat.zero_add]⟩

/-! ## Replacements -/

/-- A replacement has its ends between two characters of a text. -/
structure Splice.Fits (s : Splice) (text : List Char) : Prop where
  start : Boundary text s.start
  stop : Boundary text s.stop
  le : s.start ≤ s.stop

theorem fits_resolve (text : List Char) (edit : TextEdit) : (resolve text edit).Fits text where
  start := boundary_locate text edit.range.start
  stop := by
    rcases Nat.le_total (locate text edit.range.stop).byte (locate text edit.range.start).byte with
      h | h
    · rw [resolve, Nat.max_eq_right h]
      exact boundary_locate text edit.range.start
    · rw [resolve, Nat.max_eq_left h]
      exact boundary_locate text edit.range.stop
  le := Nat.le_max_right _ _

/-- A replacement exchanges the characters between its ends. -/
theorem Splice.apply?_append {s : Splice} {front removed : List Char}
    (hstart : s.start = bytes8 front) (hstop : s.stop = s.start + bytes8 removed)
    (behind : List Char) :
    s.apply? (front ++ (removed ++ behind)) = some (front ++ (s.newText ++ behind)) := by
  have hlength : s.stop - s.start = bytes8 removed := by omega
  unfold Splice.apply?
  rw [hlength, hstart, splitAtByte?_append]
  dsimp only [Option.bind_eq_bind, Option.bind_some]
  rw [splitAtByte?_append]
  dsimp only [Option.bind_some]
  rw [List.append_assoc]

/-- What becomes of the text behind a place when replacements are carried out there: it falls into
the characters in front of the first replacement, which are kept, those that it removes, and the
rest. -/
inductive Spliced : List Char → Nat → List Splice → List Char → Prop
  | nil (rest : List Char) (place : Nat) : Spliced rest place [] rest
  | cons {kept removed rest result : List Char} {place : Nat} {s : Splice} {splices : List Splice}
      (hstart : s.start = place + bytes8 kept) (hstop : s.stop = s.start + bytes8 removed)
      (h : Spliced rest s.stop splices result) :
      Spliced (kept ++ (removed ++ rest)) place (s :: splices) (kept ++ (s.newText ++ result))

/-- Replacements are carried out behind what stands in front of them. -/
theorem Spliced.spliceAll?_eq {rest result : List Char} {place : Nat} {splices : List Splice}
    (h : Spliced rest place splices result) (front : List Char) (hfront : bytes8 front = place) :
    spliceAll? splices (front ++ rest) = some (front ++ result) := by
  induction h generalizing front with
  | nil => rfl
  | @cons kept removed rest result place s splices hstart hstop _ ih =>
    -- The later replacements are done, and they have left everything up to the end of this one.
    have hlater : spliceAll? splices ((front ++ kept ++ removed) ++ rest) =
        some ((front ++ kept ++ removed) ++ result) := by
      refine ih _ ?_
      rw [bytes8_append, bytes8_append]
      omega
    have hs : s.apply? ((front ++ kept) ++ (removed ++ result)) =
        some ((front ++ kept) ++ (s.newText ++ result)) :=
      Splice.apply?_append (by rw [bytes8_append]; omega) hstop result
    simp only [List.append_assoc] at hlater hs ⊢
    rw [spliceAll?, List.foldr_cons, ← spliceAll?, hlater]
    exact hs

/-- Replacements that keep apart can be carried out. -/
theorem exists_spliced {text : List Char} {splices : List Splice}
    (hfits : ∀ s ∈ splices, s.Fits text) (hapart : splices.IsChain fun a b => a.stop ≤ b.start)
    {front rest : List Char} (htext : front ++ rest = text)
    (hfirst : ∀ s ∈ splices.head?, bytes8 front ≤ s.start) :
    ∃ result, Spliced rest (bytes8 front) splices result := by
  induction splices generalizing front rest with
  | nil => exact ⟨rest, .nil rest _⟩
  | cons s splices ih =>
    obtain ⟨hs, hlater⟩ := List.forall_mem_cons.mp hfits
    have hstart : Boundary (front ++ rest) s.start := htext ▸ hs.start
    obtain ⟨kept, behind, rfl, hkept⟩ := hstart.exists_kept (hfirst s rfl)
    have hstop : Boundary (front ++ kept ++ behind) s.stop := by
      rw [List.append_assoc, htext]
      exact hs.stop
    have hle : bytes8 (front ++ kept) ≤ s.stop := by
      rw [bytes8_append, ← hkept]
      exact hs.le
    obtain ⟨removed, rest, rfl, hremoved⟩ := hstop.exists_kept hle
    rw [bytes8_append, ← hkept] at hremoved
    have hplace : bytes8 (front ++ kept ++ removed) = s.stop := by
      rw [bytes8_append, bytes8_append]
      omega
    rw [List.isChain_cons] at hapart
    have hsame : front ++ kept ++ removed ++ rest = text := by simpa using htext
    obtain ⟨result, hresult⟩ := ih hlater hapart.2 hsame fun next hnext =>
      hplace.trans_le (hapart.1 next hnext)
    exact ⟨_, .cons hkept hremoved (hplace ▸ hresult)⟩

/-! ## The order of the edits -/

theorem start_le_trans (a b c : Splice) (hab : decide (a.start ≤ b.start))
    (hbc : decide (b.start ≤ c.start)) : decide (a.start ≤ c.start) := by
  simp only [decide_eq_true_eq] at *
  omega

theorem start_le_total (a b : Splice) :
    decide (a.start ≤ b.start) || decide (b.start ≤ a.start) := by
  simp only [Bool.or_eq_true, decide_eq_true_eq]
  omega

/-- The replacements stand in the order of their starts. -/
theorem pairwise_resolveAll (text : List Char) (edits : List TextEdit) :
    (resolveAll text edits).Pairwise fun a b => a.start ≤ b.start :=
  (List.pairwise_mergeSort start_le_trans start_le_total _).imp of_decide_eq_true

/-- A further edit comes in front of those that start no earlier. -/
theorem resolveAll_cons (text : List Char) (edit : TextEdit) (edits : List TextEdit) :
    resolveAll text (edit :: edits) =
      (resolveAll text edits).orderedInsert (fun a b => a.start ≤ b.start) (resolve text edit) := by
  obtain ⟨front, behind, hall, hothers, hfront⟩ :
      ∃ front behind, resolveAll text (edit :: edits) = front ++ resolve text edit :: behind ∧
        resolveAll text edits = front ++ behind ∧
        ∀ s ∈ front, !decide ((resolve text edit).start ≤ s.start) :=
    List.mergeSort_cons start_le_trans start_le_total (resolve text edit) (edits.map (resolve text))
  have hsorted := pairwise_resolveAll text (edit :: edits)
  rw [hall, List.pairwise_append, List.pairwise_cons] at hsorted
  have hbehind : ∀ s ∈ behind, (resolve text edit).start ≤ s.start := hsorted.2.1.1
  rw [hall, hothers, List.orderedInsert_eq_take_drop,
    List.takeWhile_append_of_pos (by simpa using hfront),
    List.dropWhile_append_of_pos (by simpa using hfront)]
  cases behind with
  | nil => simp
  | cons s behind => simp [hbehind s List.mem_cons_self]

/-! ## Edits -/

/-- Edits keep apart in a text: in the order of their starts, each one ends before the next. -/
def Apart (text : List Char) (edits : List TextEdit) : Prop :=
  (resolveAll text edits).IsChain fun a b => a.stop ≤ b.start

theorem apart_nil (text : List Char) : Apart text [] := by
  simp [Apart, resolveAll]

theorem apart_singleton (text : List Char) (edit : TextEdit) : Apart text [edit] := by
  simp [Apart, resolveAll]

theorem fits_of_mem_resolveAll {text : List Char} {edits : List TextEdit} {s : Splice}
    (h : s ∈ resolveAll text edits) : s.Fits text := by
  rw [resolveAll, List.mem_mergeSort] at h
  obtain ⟨edit, -, rfl⟩ := List.mem_map.mp h
  exact fits_resolve text edit

/-- Edits that keep apart can be carried out, and exchange the text of their ranges. -/
theorem applyEdits?_of_apart {text : String} {edits : List TextEdit}
    (h : Apart text.toList edits) : ∃ result,
      Spliced text.toList 0 (resolveAll text.toList edits) result ∧
        applyEdits? edits text = some (String.ofList result) := by
  obtain ⟨result, hresult⟩ := exists_spliced (fun s => fits_of_mem_resolveAll) h
    (List.nil_append text.toList) fun s _ => Nat.zero_le _
  have happly := hresult.spliceAll?_eq [] rfl
  rw [List.nil_append, List.nil_append] at happly
  exact ⟨result, hresult, by rw [applyEdits?, happly]; rfl⟩

end Refactoring.Text
