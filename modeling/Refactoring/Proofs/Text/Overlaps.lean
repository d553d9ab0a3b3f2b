import Mathlib.Data.List.Chain
import Mathlib.Data.List.Perm.Basic
import Refactoring.Proofs.Text.Pieces

/-!
# Edits that overlap

Nothing asks whether edits overlap.  They are carried out from the last start to the first, each with
the places that it has in the text as it was.  Its start is always found again, since nothing in front
of it has changed by then.  Its stop is looked for in what the later edits have left: if it does not
lie between two characters there, the edits cannot be carried out, and else all up to it is removed,
whatever it has become.  If two edits share a character, this begins with the new text of an edit.
-/

namespace Refactoring.Text

/-! ## Cuts -/

/-- The first part of a cut is as long as was asked for. -/
theorem bytes8_of_splitAtByte? {text front back : List Char} {n : Nat}
    (h : splitAtByte? text n = some (front, back)) : bytes8 front = n := by
  induction text generalizing n front back with
  | nil =>
    cases n with
    | zero =>
      cases h
      rfl
    | succ n => cases h
  | cons c rest ih =>
    cases n with
    | zero =>
      cases h
      rfl
    | succ n =>
      rw [splitAtByte?] at h
      split at h
      · obtain ⟨⟨kept, behind⟩, hsplit, hparts⟩ := Option.map_eq_some_iff.mp h
        cases hparts
        rw [bytes8, ih hsplit]
        omega
      · cases h

theorem splitAtByte?_eq_some {text front back : List Char} {n : Nat} :
    splitAtByte? text n = some (front, back) ↔ front ++ back = text ∧ bytes8 front = n := by
  constructor
  · exact fun h => ⟨append_of_splitAtByte? h, bytes8_of_splitAtByte? h⟩
  · rintro ⟨rfl, rfl⟩
    exact splitAtByte?_append front back

/-- Of two parts of a text from its beginning the shorter one is a part of the longer one. -/
theorem prefix_of_prefix_of_bytes8_le {text front other : List Char} (hfront : front <+: text)
    (hother : other <+: text) (h : bytes8 front ≤ bytes8 other) : front <+: other := by
  rcases List.prefix_or_prefix_of_prefix hfront hother with hprefix | ⟨more, rfl⟩
  · exact hprefix
  · rw [bytes8_append] at h
    have hmore : more = [] := eq_nil_of_bytes8 (by omega)
    simp [hmore]

theorem eq_of_prefix_of_bytes8 {text front other : List Char} (hfront : front <+: text)
    (hother : other <+: text) (h : bytes8 front = bytes8 other) : front = other := by
  obtain ⟨more, rfl⟩ := prefix_of_prefix_of_bytes8_le hfront hother (Nat.le_of_eq h)
  rw [bytes8_append] at h
  have hmore : more = [] := eq_nil_of_bytes8 (by omega)
  rw [hmore, List.append_nil]

theorem Boundary.le_length {text : List Char} {n : Nat} (h : Boundary text n) :
    n ≤ (Utf8.encode (String.ofList text)).length := by
  obtain ⟨front, ⟨rest, rfl⟩, rfl⟩ := h
  rw [length_encode_ofList, bytes8_append]
  exact Nat.le_add_right _ _

/-! ## Single replacements -/

variable {text changed : List Char} {s : Splice} {splices later : List Splice}

/-- A replacement that is carried out cuts the text at its start and at its stop. -/
theorem Splice.apply?_eq_some (hle : s.start ≤ s.stop) : s.apply? text = some changed ↔
    ∃ front removed behind, text = front ++ (removed ++ behind) ∧ s.start = bytes8 front ∧
      s.stop = s.start + bytes8 removed ∧ changed = front ++ (s.newText ++ behind) := by
  constructor
  · intro h
    obtain ⟨⟨front, rest⟩, hfront, hrest⟩ := Option.bind_eq_some_iff.mp h
    obtain ⟨⟨removed, behind⟩, hremoved, hchanged⟩ := Option.bind_eq_some_iff.mp hrest
    obtain ⟨rfl, hstart⟩ := splitAtByte?_eq_some.mp hfront
    obtain ⟨rfl, hstop⟩ := splitAtByte?_eq_some.mp hremoved
    obtain rfl := Option.some.inj hchanged
    exact ⟨front, removed, behind, rfl, hstart.symm, by omega, List.append_assoc _ _ _⟩
  · rintro ⟨front, removed, behind, rfl, hstart, hstop, rfl⟩
    exact Splice.apply?_append hstart hstop behind

/-- A replacement with its start between two characters can be carried out exactly if its stop lies
between two characters as well. -/
theorem Splice.apply?_eq_none_iff (hle : s.start ≤ s.stop) (hstart : Boundary text s.start) :
    s.apply? text = none ↔ ¬ Boundary text s.stop := by
  constructor
  · intro hnone hstop
    obtain ⟨front, ⟨rest, rfl⟩, hfront⟩ := hstart
    obtain ⟨removed, behind, rfl, hremoved⟩ := hstop.exists_kept (hfront.trans_le hle)
    rw [Splice.apply?_append hfront.symm (by omega) behind] at hnone
    cases hnone
  · intro hstop
    cases happly : s.apply? text with
    | none => rfl
    | some changed =>
      obtain ⟨front, removed, behind, rfl, hfront, hremoved, -⟩ :=
        (Splice.apply?_eq_some hle).mp happly
      refine absurd ⟨front ++ removed, ?_, by rw [bytes8_append]; omega⟩ hstop
      rw [← List.append_assoc]
      exact List.prefix_append _ _

/-! ## All replacements -/

theorem spliceAll?_cons (s : Splice) (later : List Splice) (text : List Char) :
    spliceAll? (s :: later) text = (spliceAll? later text).bind s.apply? := rfl

/-- What stands in front of all starts is kept. -/
theorem prefix_of_spliceAll? {front : List Char} (hfront : front <+: text)
    (hle : ∀ s ∈ splices, s.start ≤ s.stop) (hstarts : ∀ s ∈ splices, bytes8 front ≤ s.start)
    (h : spliceAll? splices text = some changed) : front <+: changed := by
  induction splices generalizing changed with
  | nil =>
    cases h
    exact hfront
  | cons s later ih =>
    rw [List.forall_mem_cons] at hle hstarts
    rw [spliceAll?_cons] at h
    obtain ⟨middle, hmiddle, happly⟩ := Option.bind_eq_some_iff.mp h
    obtain ⟨kept, removed, behind, rfl, hstart, -, rfl⟩ := (Splice.apply?_eq_some hle.1).mp happly
    have hkept : front <+: kept := prefix_of_prefix_of_bytes8_le (ih hle.2 hstarts.2 hmiddle)
      (List.prefix_append _ _) (hstart ▸ hstarts.1)
    exact hkept.trans (List.prefix_append _ _)

/-- When the turn of a replacement comes, all up to its start is as it was. -/
theorem exists_prefix_of_spliceAll? (hfits : ∀ t ∈ s :: later, t.Fits text)
    (hsorted : (s :: later).Pairwise fun a b => a.start ≤ b.start)
    (h : spliceAll? later text = some changed) :
    ∃ front, front <+: text ∧ front <+: changed ∧ bytes8 front = s.start := by
  rw [List.forall_mem_cons] at hfits
  obtain ⟨front, hfront, hstart⟩ := hfits.1.start
  refine ⟨front, hfront, prefix_of_spliceAll? hfront (fun t ht => (hfits.2 t ht).le) ?_ h, hstart⟩
  exact fun t ht => hstart.trans_le (List.rel_of_pairwise_cons hsorted ht)

/-- A replacement strays if its stop does not lie between two characters of the text that the later
ones have left. -/
def Strays (text : List Char) (splices : List Splice) : Prop :=
  ∃ before s later changed, splices = before ++ s :: later ∧
    spliceAll? later text = some changed ∧ ¬ Boundary changed s.stop

/-- Replacements can be carried out exactly if none of them strays. -/
theorem spliceAll?_eq_none_iff (hfits : ∀ s ∈ splices, s.Fits text)
    (hsorted : splices.Pairwise fun a b => a.start ≤ b.start) :
    spliceAll? splices text = none ↔ Strays text splices := by
  induction splices with
  | nil =>
    constructor
    · rintro ⟨⟩
    · rintro ⟨before, s, later, changed, hsplit, -⟩
      simp at hsplit
  | cons s later ih =>
    have hlater := ih (List.forall_mem_cons.mp hfits).2 hsorted.tail
    rw [spliceAll?_cons]
    cases hchanged : spliceAll? later text with
    | none =>
      obtain ⟨before, t, last, changed, rfl, hstrays⟩ := hlater.mp hchanged
      exact iff_of_true rfl ⟨s :: before, t, last, changed, rfl, hstrays⟩
    | some changed =>
      obtain ⟨front, -, hfront, hstart⟩ := exists_prefix_of_spliceAll? hfits hsorted hchanged
      have happly := Splice.apply?_eq_none_iff (hfits s List.mem_cons_self).le ⟨front, hfront, hstart⟩
      rw [Option.bind_some, happly]
      constructor
      · exact fun hstop => ⟨[], s, later, changed, rfl, hchanged, hstop⟩
      · rintro ⟨before, t, last, other, hsplit, hother, hstop⟩
        cases before with
        | nil =>
          cases hsplit
          cases hother.symm.trans hchanged
          exact hstop
        | cons first before =>
          cases hsplit
          have hstrays : Strays text (before ++ t :: last) :=
            ⟨before, t, last, other, rfl, hother, hstop⟩
          rw [hlater.mpr hstrays] at hchanged
          cases hchanged

/-- The bytes of a text with replacements carried out from the last to the first: those of the text
as it was up to the start, the new text, and what the later ones have left from the stop on. -/
def overlaid (bytes : List UInt8) : List Splice → List UInt8
  | [] => bytes
  | s :: later =>
    bytes.take s.start ++ Utf8.encode (String.ofList s.newText) ++ (overlaid bytes later).drop s.stop

theorem encode_of_spliceAll? (hfits : ∀ s ∈ splices, s.Fits text)
    (hsorted : splices.Pairwise fun a b => a.start ≤ b.start)
    (h : spliceAll? splices text = some changed) :
    Utf8.encode (String.ofList changed) = overlaid (Utf8.encode (String.ofList text)) splices := by
  induction splices generalizing changed with
  | nil =>
    cases h
    rfl
  | cons s later ih =>
    rw [spliceAll?_cons] at h
    obtain ⟨middle, hmiddle, happly⟩ := Option.bind_eq_some_iff.mp h
    have hlater := ih (List.forall_mem_cons.mp hfits).2 hsorted.tail hmiddle
    obtain ⟨front, ⟨rest, rfl⟩, hfront, hstart⟩ :=
      exists_prefix_of_spliceAll? hfits hsorted hmiddle
    obtain ⟨kept, removed, behind, rfl, hkept, hremoved, rfl⟩ :=
      (Splice.apply?_eq_some (hfits s List.mem_cons_self).le).mp happly
    obtain rfl : front = kept :=
      eq_of_prefix_of_bytes8 hfront (List.prefix_append _ _) (hstart.trans hkept)
    have hstop : s.stop = bytes8 (front ++ removed) := by
      rw [bytes8_append]
      omega
    rw [overlaid, ← hlater, hstop, ← List.append_assoc front removed, drop_encode_append,
      encode_ofList_append front rest, List.take_left' ((length_encode_ofList front).trans hkept.symm),
      encode_ofList_append, encode_ofList_append, List.append_assoc]

/-- What stands from the start of a replacement on once it is carried out after the later ones. -/
def overlaidFrom (bytes : List UInt8) (s : Splice) (later : List Splice) : List UInt8 :=
  Utf8.encode (String.ofList s.newText) ++ (overlaid bytes later).drop s.stop

theorem overlaid_cons (bytes : List UInt8) (s : Splice) (later : List Splice) :
    overlaid bytes (s :: later) = bytes.take s.start ++ overlaidFrom bytes s later :=
  List.append_assoc _ _ _

/-- A replacement whose stop lies behind the start of the next one removes the beginning of what that
has put there. -/
theorem overlaidFrom_cons {bytes : List UInt8} {t : Splice} (hlength : t.start ≤ bytes.length)
    (h : t.start ≤ s.stop) : overlaidFrom bytes s (t :: later) =
      Utf8.encode (String.ofList s.newText) ++
        (overlaidFrom bytes t later).drop (s.stop - t.start) := by
  have hstart : (bytes.take t.start).length = t.start := by
    rw [List.length_take, Nat.min_eq_left hlength]
  rw [overlaidFrom, overlaid_cons, List.drop_append, List.drop_eq_nil_of_le (hstart.trans_le h),
    hstart, List.nil_append]

/-! ## Overlaps -/

/-- The ranges of two replacements have something in common. -/
def Splice.Shares (a b : Splice) : Prop := max a.start b.start < min a.stop b.stop

/-- The ranges of two edits share a character of a text. -/
def Overlap (text : List Char) (edits : List TextEdit) : Prop :=
  ¬ (edits.map (resolve text)).Pairwise fun a b => ¬ a.Shares b

/-- What ends before the next one starts also ends before all the others. -/
theorem pairwise_of_isChain (hle : ∀ s ∈ splices, s.start ≤ s.stop)
    (h : splices.IsChain fun a b => a.stop ≤ b.start) :
    splices.Pairwise fun a b => a.stop ≤ b.start := by
  induction splices with
  | nil => exact .nil
  | cons s later ih =>
    have hlater := ih (List.forall_mem_cons.mp hle).2 h.tail
    refine List.pairwise_cons.mpr ⟨fun t ht => ?_, hlater⟩
    cases later with
    | nil => cases ht
    | cons next later =>
      have hnext : s.stop ≤ next.start := h.rel
      rcases List.mem_cons.mp ht with rfl | ht
      · exact hnext
      · have hbehind : next.stop ≤ t.start := List.rel_of_pairwise_cons hlater ht
        have := hle next (by simp)
        omega

/-- If edits overlap, one of them ends behind the start of the next one. -/
theorem Overlap.exists_next {edits : List TextEdit} (h : Overlap text edits) :
    ∃ before s t later, resolveAll text edits = before ++ s :: t :: later ∧ t.start < s.stop := by
  by_contra hnone
  have hapart : Apart text edits := by
    refine List.isChain_iff_forall_rel_of_append_cons_cons.mpr fun s t before later hsplit => ?_
    exact Nat.le_of_not_lt fun hlt => hnone ⟨before, s, t, later, hsplit, hlt⟩
  have hpairwise := pairwise_of_isChain (fun s hs => (fits_of_mem_resolveAll hs).le) hapart
  have hshares : (resolveAll text edits).Pairwise fun a b => ¬ a.Shares b := by
    refine hpairwise.imp fun hle => ?_
    unfold Splice.Shares
    omega
  refine h ((List.Perm.pairwise_iff ?_ (List.mergeSort_perm _ _)).mp hshares)
  intro a b hab hba
  unfold Splice.Shares at hab hba
  omega

/-- An edit removes more than its range: some of what the next one has put behind its start, that
is, of its new text and of the text behind its range. -/
def Encroaches (text : List Char) (edits : List TextEdit) : Prop :=
  ∃ before s t later, resolveAll text edits = before ++ s :: t :: later ∧
    0 < s.stop - t.start ∧
    s.stop - t.start ≤ (overlaidFrom (Utf8.encode (String.ofList text)) t later).length ∧
    overlaidFrom (Utf8.encode (String.ofList text)) s (t :: later) =
      Utf8.encode (String.ofList s.newText) ++
        (overlaidFrom (Utf8.encode (String.ofList text)) t later).drop (s.stop - t.start)

/-- If overlapping edits are carried out all the same, one of them encroaches on the next one. -/
theorem Overlap.encroaches {edits : List TextEdit} (h : Overlap text edits)
    (hcarried : ¬ Strays text (resolveAll text edits)) : Encroaches text edits := by
  obtain ⟨before, s, t, later, hsplit, hlt⟩ := h.exists_next
  have hfits : ∀ u ∈ before ++ s :: t :: later, u.Fits text :=
    fun u hu => fits_of_mem_resolveAll (hsplit ▸ hu)
  have hsorted : (before ++ s :: t :: later).Pairwise fun a b => a.start ≤ b.start :=
    hsplit ▸ pairwise_resolveAll text edits
  have hfits' : ∀ u ∈ t :: later, u.Fits text := fun u hu => hfits u (by simp_all)
  have hsorted' : (t :: later).Pairwise fun a b => a.start ≤ b.start :=
    (List.pairwise_append.mp hsorted).2.1.tail
  have hlength := (hfits' t List.mem_cons_self).start.le_length
  refine ⟨before, s, t, later, hsplit, Nat.sub_pos_of_lt hlt, ?_,
    overlaidFrom_cons hlength hlt.le⟩
  cases hchanged : spliceAll? (t :: later) text with
  | none =>
    obtain ⟨front, u, last, changed, hlast, hstrays⟩ :=
      (spliceAll?_eq_none_iff hfits' hsorted').mp hchanged
    refine absurd ⟨before ++ s :: front, u, last, changed, ?_, hstrays⟩ hcarried
    rw [hsplit, hlast, List.append_assoc, List.cons_append]
  | some changed =>
    have hstop : Boundary changed s.stop := by
      by_contra hstop
      exact hcarried ⟨before, s, t :: later, changed, hsplit, hchanged, hstop⟩
    have hle := hstop.le_length
    rw [encode_of_spliceAll? hfits' hsorted' hchanged, overlaid_cons, List.length_append,
      List.length_take, Nat.min_eq_left hlength] at hle
    omega

/-! ## Texts with their edits -/

theorem applyEdits?_eq_none_iff {text : String} {edits : List TextEdit} :
    applyEdits? edits text = none ↔ Strays text.toList (resolveAll text.toList edits) := by
  rw [applyEdits?, Option.map_eq_none_iff]
  exact spliceAll?_eq_none_iff (fun s => fits_of_mem_resolveAll) (pairwise_resolveAll _ _)

theorem encode_of_applyEdits? {text result : String} {edits : List TextEdit}
    (h : applyEdits? edits text = some result) :
    Utf8.encode result = overlaid (Utf8.encode text) (resolveAll text.toList edits) := by
  obtain ⟨changed, hchanged, rfl⟩ := Option.map_eq_some_iff.mp h
  have hbytes := encode_of_spliceAll? (fun s => fits_of_mem_resolveAll) (pairwise_resolveAll _ _)
    hchanged
  rwa [String.ofList_toList] at hbytes

end Refactoring.Text
