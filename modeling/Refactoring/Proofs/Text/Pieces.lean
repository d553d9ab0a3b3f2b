import Refactoring.Proofs.Text.Encoding
import Refactoring.Proofs.Text.Splices

/-!
# The pieces of a text between edits

Edits that keep apart cut a text into the pieces that they leave and those that they remove.  Whatever
is done to the text behind an edit, its own range is still there when its turn comes, so that in the
end the pieces that are left stand in their order, with the new texts between them.  The edits are
sorted by their starts, and those with the same start keep their order: in which order the others are
listed does not matter.
-/

namespace Refactoring.Text

/-! ## Bytes of pieces -/

theorem length_encode_ofList (text : List Char) :
    (Utf8.encode (String.ofList text)).length = bytes8 text := by
  rw [Utf8.encode_ofList]
  induction text with
  | nil => rfl
  | cons c rest ih =>
    rw [List.flatMap_cons, List.length_append, String.length_utf8EncodeChar, ih, bytes8]

theorem encode_ofList_append (front back : List Char) :
    Utf8.encode (String.ofList (front ++ back)) =
      Utf8.encode (String.ofList front) ++ Utf8.encode (String.ofList back) := by
  simp [Utf8.encode_ofList]

/-- The bytes behind the first part of a text are those of its second part. -/
theorem drop_encode_append (front back : List Char) :
    (Utf8.encode (String.ofList (front ++ back))).drop (bytes8 front) =
      Utf8.encode (String.ofList back) := by
  rw [encode_ofList_append, List.drop_left' (length_encode_ofList front)]

/-- The bytes between two places are those of the characters between them. -/
theorem extract_encode_append (front kept behind : List Char) :
    (Utf8.encode (String.ofList (front ++ (kept ++ behind)))).extract (bytes8 front)
        (bytes8 front + bytes8 kept) = Utf8.encode (String.ofList kept) := by
  rw [List.extract_eq_take_drop, drop_encode_append, Nat.add_sub_cancel_left, encode_ofList_append,
    List.take_left' (length_encode_ofList kept)]

/-- The bytes from a place on with every range exchanged for its new text: those up to the first
start, the new text, and what comes of the bytes from the first stop on. -/
def exchanged (bytes : List UInt8) : Nat → List Splice → List UInt8
  | place, [] => bytes.drop place
  | place, s :: later =>
    bytes.extract place s.start ++ Utf8.encode (String.ofList s.newText) ++
      exchanged bytes s.stop later

section Spliced

variable {rest result : List Char} {place : Nat} {splices : List Splice}

/-- What becomes of a text has the bytes of the pieces that are left and of the new texts. -/
theorem Spliced.encode_eq (h : Spliced rest place splices result) (front : List Char)
    (hfront : bytes8 front = place) : Utf8.encode (String.ofList result) =
      exchanged (Utf8.encode (String.ofList (front ++ rest))) place splices := by
  induction h generalizing front with
  | nil =>
    subst hfront
    exact (drop_encode_append front _).symm
  | @cons kept removed rest result place s splices hstart hstop _ ih =>
    have hlater := ih (front ++ kept ++ removed) (by simp only [bytes8_append]; omega)
    subst hfront
    simp only [List.append_assoc] at hlater
    rw [exchanged, ← hlater, hstart, extract_encode_append, encode_ofList_append,
      encode_ofList_append, List.append_assoc]

/-- When the turn of a replacement comes, both its ends lie between two characters of the text that
the later ones have left. -/
theorem Spliced.fits (h : Spliced rest place splices result) (front : List Char)
    (hfront : bytes8 front = place) {before later : List Splice} {s : Splice}
    (hsplit : splices = before ++ s :: later) :
    ∃ changed, spliceAll? later (front ++ rest) = some changed ∧ s.Fits changed := by
  induction h generalizing front before with
  | nil => simp at hsplit
  | @cons kept removed rest result place first splices hstart hstop hrest ih =>
    have hplace : bytes8 (front ++ kept ++ removed) = first.stop := by
      simp only [bytes8_append]
      omega
    have hsame : front ++ (kept ++ (removed ++ rest)) = front ++ kept ++ removed ++ rest := by
      simp only [List.append_assoc]
    rw [hsame]
    cases before with
    | nil =>
      obtain ⟨rfl, rfl⟩ := List.cons.inj hsplit
      refine ⟨_, hrest.spliceAll?_eq _ hplace, ?_, ?_, by omega⟩
      · refine ⟨front ++ kept, ?_, by rw [bytes8_append]; omega⟩
        rw [List.append_assoc _ removed]
        exact List.prefix_append _ _
      · exact ⟨front ++ kept ++ removed, List.prefix_append _ _, hplace⟩
    | cons other before =>
      obtain ⟨rfl, hothers⟩ := List.cons.inj hsplit
      exact ih _ hplace hothers

end Spliced

/-! ## Edits with the same start -/

/-- Replacements with the same start stand in the order in which they are listed. -/
theorem filter_resolveAll (text : List Char) (edits : List TextEdit) (start : Nat) :
    (resolveAll text edits).filter (·.start = start) =
      (edits.map (resolve text)).filter (·.start = start) := by
  have hperm : (resolveAll text edits).Perm (edits.map (resolve text)) :=
    List.mergeSort_perm _ _
  -- Among themselves they are sorted already, and sorting takes no such part out of its order.
  have hsublist : ((edits.map (resolve text)).filter (·.start = start)).Sublist
      (resolveAll text edits) := by
    refine List.sublist_mergeSort start_le_trans start_le_total ?_ List.filter_sublist
    refine List.pairwise_of_forall_mem_list fun a ha b hb => ?_
    have ha := (List.mem_filter.mp ha).2
    have hb := (List.mem_filter.mp hb).2
    simp only [decide_eq_true_eq] at *
    omega
  have hfiltered := hsublist.filter (·.start = start)
  rw [List.filter_filter] at hfiltered
  simp only [Bool.and_self] at hfiltered
  exact (hfiltered.eq_of_length (hperm.filter _).length_eq.symm).symm

/-- Of replacements in the order of their starts it is enough to know those with each start. -/
theorem eq_of_filter_start_eq {a b : List Splice} (ha : a.Pairwise fun s t => s.start ≤ t.start)
    (hb : b.Pairwise fun s t => s.start ≤ t.start)
    (h : ∀ start, a.filter (·.start = start) = b.filter (·.start = start)) : a = b := by
  induction a generalizing b with
  | nil =>
    cases b with
    | nil => rfl
    | cons t b => simpa using h t.start
  | cons s a ih =>
    cases b with
    | nil => simpa using h s.start
    | cons t b =>
      -- Each of the two first ones is among the others, so neither starts behind the other.
      have hs : s ∈ t :: b := by
        have hmem : s ∈ (s :: a).filter (·.start = s.start) := by simp
        rw [h] at hmem
        exact (List.mem_filter.mp hmem).1
      have ht : t ∈ s :: a := by
        have hmem : t ∈ (t :: b).filter (·.start = t.start) := by simp
        rw [← h] at hmem
        exact (List.mem_filter.mp hmem).1
      have hle : t.start ≤ s.start := by
        rcases List.mem_cons.mp hs with rfl | hs
        · exact Nat.le_refl _
        · exact List.rel_of_pairwise_cons hb hs
      have hge : s.start ≤ t.start := by
        rcases List.mem_cons.mp ht with rfl | ht
        · exact Nat.le_refl _
        · exact List.rel_of_pairwise_cons ha ht
      have hstart : t.start = s.start := Nat.le_antisymm hle hge
      have hfirst := h s.start
      rw [List.filter_cons_of_pos (by simp), List.filter_cons_of_pos (by simp [hstart])] at hfirst
      obtain ⟨rfl, -⟩ := List.cons.inj hfirst
      refine congrArg (s :: ·) (ih ha.tail hb.tail fun start => ?_)
      have hboth := h start
      rw [List.filter_cons, List.filter_cons] at hboth
      split at hboth
      · exact (List.cons.inj hboth).2
      · exact hboth

/-- Two lists have the same edits, and those with the same start in the same order. -/
def SameAtStarts (text : List Char) (edits other : List TextEdit) : Prop :=
  ∀ start, (edits.filter fun edit => (resolve text edit).start = start) =
    other.filter fun edit => (resolve text edit).start = start

/-- The order in which edits are listed matters only among those with the same start. -/
theorem SameAtStarts.resolveAll_eq {text : List Char} {edits other : List TextEdit}
    (h : SameAtStarts text edits other) : resolveAll text edits = resolveAll text other := by
  refine eq_of_filter_start_eq (pairwise_resolveAll text edits) (pairwise_resolveAll text other) ?_
  intro start
  have hsame := congrArg (List.map (resolve text)) (h start)
  simpa only [filter_resolveAll, List.filter_map, Function.comp_def] using hsame

/-! ## Texts with their edits -/

/-- Edits that keep apart can all be carried out, each at a range that is there when its turn comes.
The text then has every range exchanged for the new text, whatever the order of the edits as long as
those with the same start keep theirs. -/
theorem exists_applyEdits?_of_apart {text : String} {edits : List TextEdit}
    (h : Apart text.toList edits) :
    (∀ before s later, resolveAll text.toList edits = before ++ s :: later →
      ∃ changed, spliceAll? later text.toList = some changed ∧ s.Fits changed) ∧
    ∃ result, applyEdits? edits text = some result ∧
      Utf8.encode result = exchanged (Utf8.encode text) 0 (resolveAll text.toList edits) ∧
      ∀ other, SameAtStarts text.toList edits other → applyEdits? other text = some result := by
  obtain ⟨result, hspliced, happly⟩ := applyEdits?_of_apart h
  refine ⟨fun before s later hsplit => hspliced.fits [] rfl hsplit, _, happly, ?_, ?_⟩
  · have hbytes := hspliced.encode_eq [] rfl
    rwa [List.nil_append, String.ofList_toList] at hbytes
  · intro other hsame
    rw [← happly, applyEdits?, applyEdits?, hsame.resolveAll_eq]

/-- A text with a character of four bytes and a pair of line breaks. -/
def twoLinesApart : String := "ab😀\r\nc"

/-- Exchanges the last line. -/
def ofLastLine : TextEdit := ⟨⟨⟨1, 0⟩, ⟨1, 1⟩⟩, "C"⟩

/-- Puts something in front of the large character. -/
def beforeLarge : TextEdit := ⟨⟨⟨0, 2⟩, ⟨0, 2⟩⟩, "é"⟩

/-- Exchanges the large character. -/
def ofLarge : TextEdit := ⟨⟨⟨0, 2⟩, ⟨0, 4⟩⟩, "x"⟩

/-- Puts something at its start, in front of which its end lies. -/
def backwards : TextEdit := ⟨⟨⟨0, 1⟩, ⟨0, 0⟩⟩, "-"⟩

/-- The edits from the end to the beginning, apart from those with the same start. -/
def lastLineFirst : List TextEdit := [ofLastLine, beforeLarge, ofLarge, backwards]

theorem resolveAll_lastLineFirst : resolveAll twoLinesApart.toList lastLineFirst =
    [⟨1, 1, ['-']⟩, ⟨2, 2, ['é']⟩, ⟨2, 6, ['x']⟩, ⟨8, 9, ['C']⟩] := by
  simp only [lastLineFirst, resolveAll_cons]
  decide +kernel

theorem sameAtStarts_lastLineFirst : SameAtStarts twoLinesApart.toList lastLineFirst
    [backwards, beforeLarge, ofLarge, ofLastLine] := by
  have hlast : (resolve twoLinesApart.toList ofLastLine).start = 8 := by decide +kernel
  have hbefore : (resolve twoLinesApart.toList beforeLarge).start = 2 := by decide +kernel
  have hlarge : (resolve twoLinesApart.toList ofLarge).start = 2 := by decide +kernel
  have hback : (resolve twoLinesApart.toList backwards).start = 1 := by decide +kernel
  intro start
  simp only [lastLineFirst, List.filter_cons, List.filter_nil, hlast, hbefore, hlarge, hback]
  by_cases hlast : 8 = start
  · subst hlast
    rfl
  · by_cases hback : 1 = start
    · subst hback
      rfl
    · simp [hlast, hback]

theorem exists_applyEdits?_of_apart_lastLineFirst :
    Apart twoLinesApart.toList lastLineFirst ∧
      applyEdits? lastLineFirst twoLinesApart = some "a-béx\r\nC" ∧
      Utf8.encode "a-béx\r\nC" = exchanged (Utf8.encode twoLinesApart) 0
        [⟨1, 1, ['-']⟩, ⟨2, 2, ['é']⟩, ⟨2, 6, ['x']⟩, ⟨8, 9, ['C']⟩] ∧
      applyEdits? [backwards, beforeLarge, ofLarge, ofLastLine] twoLinesApart =
        some "a-béx\r\nC" := by
  have hapart : Apart twoLinesApart.toList lastLineFirst := by
    rw [Apart, resolveAll_lastLineFirst]
    decide
  obtain ⟨-, result, happly, hbytes, hother⟩ := exists_applyEdits?_of_apart hapart
  have hresult : applyEdits? lastLineFirst twoLinesApart = some "a-béx\r\nC" := by
    rw [applyEdits?, resolveAll_lastLineFirst]
    decide +kernel
  obtain rfl : result = "a-béx\r\nC" := Option.some.inj (happly.symm.trans hresult)
  rw [resolveAll_lastLineFirst] at hbytes
  exact ⟨hapart, happly, hbytes, hother _ sameAtStarts_lastLineFirst⟩

end Refactoring.Text
