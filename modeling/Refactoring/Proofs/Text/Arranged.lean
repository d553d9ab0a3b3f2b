import Mathlib.Data.List.Chain
import Refactoring.Proofs.Text.Overlaps

/-!
# Edits that share no character

Edits that share no character are to leave every character that none of them covers, and to put
their new texts at their starts, in the order in which they are listed.  They do so exactly if each
of them leaves what others have put into its range by then, within the range or at its start and
listed behind it.  But of the range with these texts in it as many bytes are removed as the range
had without them.
-/

namespace Refactoring.Text

/-! ## Arranged texts -/

/-- What edits put in front of a place, in the order in which they are listed. -/
def putAt (splices : List Splice) (place : Nat) : List Char :=
  (splices.filter (·.start = place)).flatMap (·.newText)

/-- A place lies in the range of a replacement. -/
def Splice.covers (s : Splice) (place : Nat) : Bool := s.start ≤ place && place < s.stop

/-- The text from a place on as edits are to leave it: in front of each place what they put there,
and each character that none of them covers. -/
def arranged (splices : List Splice) : Nat → List Char → List Char
  | place, [] => putAt splices place
  | place, c :: rest =>
    putAt splices place ++ (if splices.any (·.covers place) then [] else [c]) ++
      arranged splices (place + c.utf8Size) rest

variable {splices later inner : List Splice} {s t : Splice} {place : Nat} {text : List Char}

theorem putAt_append (before splices : List Splice) (place : Nat) :
    putAt (before ++ splices) place = putAt before place ++ putAt splices place := by
  rw [putAt, List.filter_append, List.flatMap_append, putAt, putAt]

theorem putAt_cons_self (h : s.start = place) (later : List Splice) :
    putAt (s :: later) place = s.newText ++ putAt later place := by
  rw [putAt, List.filter_cons_of_pos (by simpa using h), List.flatMap_cons, putAt]

theorem putAt_cons_of_ne (h : s.start ≠ place) (later : List Splice) :
    putAt (s :: later) place = putAt later place := by
  rw [putAt, List.filter_cons_of_neg (by simpa using h), putAt]

theorem putAt_eq_nil (h : ∀ s ∈ splices, place < s.start) : putAt splices place = [] := by
  rw [putAt, List.filter_eq_nil_iff.mpr fun s hs => by simpa using (h s hs).ne', List.flatMap_nil]

theorem Splice.covers_eq_false (h : place < s.start ∨ s.stop ≤ place) : s.covers place = false := by
  simp only [Splice.covers, Bool.and_eq_false_iff, decide_eq_false_iff_not]
  omega

/-- A text is arranged by the edits with each start, in whatever order these come. -/
theorem arranged_congr {other : List Splice} (hperm : splices.Perm other)
    (hstarts : ∀ start, splices.filter (·.start = start) = other.filter (·.start = start))
    (place : Nat) (text : List Char) :
    arranged splices place text = arranged other place text := by
  have hput (place : Nat) : putAt splices place = putAt other place := by
    rw [putAt, putAt, hstarts]
  induction text generalizing place with
  | nil => exact hput place
  | cons c rest ih => rw [arranged, arranged, hput, ih, hperm.any_eq]

/-- What lies in front of all starts is kept. -/
theorem arranged_append_of_le {kept : List Char}
    (h : ∀ s ∈ splices, place + bytes8 kept ≤ s.start) (rest : List Char) :
    arranged splices place (kept ++ rest) =
      kept ++ arranged splices (place + bytes8 kept) rest := by
  induction kept generalizing place with
  | nil => rfl
  | cons c kept ih =>
    rw [bytes8, ← Nat.add_assoc] at h ⊢
    have hlt : ∀ s ∈ splices, place < s.start := fun s hs => by
      have := h s hs
      have := c.utf8Size_pos
      omega
    have hcover : splices.any (·.covers place) = false :=
      List.any_eq_false.mpr fun s hs => by simp [Splice.covers_eq_false (.inl (hlt s hs))]
    rw [List.cons_append, arranged, putAt_eq_nil hlt, hcover, ih h]
    rfl

/-- An edit that lies in front of a place does nothing behind it. -/
theorem arranged_of_passed (hstart : t.start < place) (hstop : t.stop ≤ place)
    (before later : List Splice) (text : List Char) :
    arranged (before ++ t :: later) place text = arranged (before ++ later) place text := by
  have hput {place : Nat} (h : t.start < place) :
      putAt (before ++ t :: later) place = putAt (before ++ later) place := by
    rw [putAt_append, putAt_append, putAt_cons_of_ne h.ne]
  induction text generalizing place with
  | nil => exact hput hstart
  | cons c rest ih =>
    rw [arranged, arranged, hput hstart, ih (by omega) (by omega), List.any_append, List.any_append,
      List.any_cons, Splice.covers_eq_false (.inr hstop), Bool.false_or]

/-- An edit that removes nothing puts its new text at a place, if none before it puts something
there. -/
theorem arranged_of_insertion {before : List Splice} (hput : putAt before place = [])
    (hstart : t.start = place) (hstop : t.stop = place) (later : List Splice) (text : List Char) :
    arranged (before ++ t :: later) place text =
      t.newText ++ arranged (before ++ later) place text := by
  have hfirst : putAt (before ++ t :: later) place =
      t.newText ++ putAt (before ++ later) place := by
    rw [putAt_append, putAt_append, putAt_cons_self hstart, hput]
    rfl
  cases text with
  | nil => exact hfirst
  | cons c rest =>
    have hpos := c.utf8Size_pos
    rw [arranged, arranged, hfirst, arranged_of_passed (by omega) (by omega), List.any_append,
      List.any_append, List.any_cons, Splice.covers_eq_false (.inr hstop.le), Bool.false_or]
    simp only [List.append_assoc]

/-! ## Ranges -/

/-- A replacement without its new text. -/
def Splice.removal (s : Splice) : Splice := { s with newText := [] }

theorem putAt_removal (s : Splice) (place : Nat) : putAt [s.removal] place = [] := by
  by_cases h : s.start = place
  · exact putAt_cons_self (s := s.removal) h []
  · exact putAt_cons_of_ne (s := s.removal) h []

/-- The first edit at a place puts its new text there; for the rest it is a removal. -/
theorem arranged_cons_self (h : s.start = place) (later : List Splice) (text : List Char) :
    arranged (s :: later) place text =
      s.newText ++ arranged (s.removal :: later) place text := by
  have hfirst : putAt (s :: later) place = s.newText ++ putAt (s.removal :: later) place := by
    rw [putAt_cons_self h, putAt_cons_self (s := s.removal) h]
    rfl
  cases text with
  | nil => exact hfirst
  | cons c rest =>
    have hrest {place : Nat} (hlt : s.start < place) (text : List Char) :
        arranged (s :: later) place text = arranged (s.removal :: later) place text := by
      induction text generalizing place with
      | nil =>
        exact (putAt_cons_of_ne hlt.ne _).trans (putAt_cons_of_ne (s := s.removal) hlt.ne _).symm
      | cons c rest ih =>
        rw [arranged, arranged, putAt_cons_of_ne hlt.ne, putAt_cons_of_ne (s := s.removal) hlt.ne,
          ih (by omega)]
        rfl
    have hpos := c.utf8Size_pos
    rw [arranged, arranged, hfirst, hrest (by omega)]
    simp only [List.append_assoc]
    rfl

/-- Of a range all is removed that lies in front of the other starts. -/
theorem arranged_removal_append {kept : List Char} (hstart : s.start ≤ place)
    (hstop : place + bytes8 kept ≤ s.stop) (h : ∀ t ∈ later, place + bytes8 kept ≤ t.start)
    (rest : List Char) : arranged (s.removal :: later) place (kept ++ rest) =
      arranged (s.removal :: later) (place + bytes8 kept) rest := by
  induction kept generalizing place with
  | nil => rfl
  | cons c kept ih =>
    rw [bytes8, ← Nat.add_assoc] at h hstop ⊢
    have hpos := c.utf8Size_pos
    have hput : putAt (s.removal :: later) place = [] := by
      rw [← List.singleton_append, putAt_append, putAt_removal]
      exact putAt_eq_nil fun t ht => by
        have := h t ht
        omega
    have hcover : s.removal.covers place = true := by
      rw [Splice.covers, Bool.and_eq_true, decide_eq_true_eq, decide_eq_true_eq]
      refine ⟨hstart, ?_⟩
      change place < s.stop
      omega
    rw [List.cons_append, arranged, hput, List.any_cons, hcover, ih (by omega) hstop h]
    rfl

theorem Spliced.le_start {rest result : List Char} (h : Spliced rest place splices result) :
    ∀ s ∈ splices, place ≤ s.start := by
  induction h with
  | nil => exact List.forall_mem_nil _
  | cons hstart hstop _ ih =>
    refine List.forall_mem_cons.mpr ⟨by omega, fun t ht => ?_⟩
    have := ih t ht
    omega

/-- Of a range all is removed, and what is put into it is left. -/
theorem Spliced.arranged_removal {removed woven : List Char}
    (h : Spliced removed place inner woven) (hinserts : ∀ t ∈ inner, t.stop = t.start)
    (hstart : s.start ≤ place) (hstop : s.stop = place + bytes8 removed)
    (hlater : ∀ t ∈ later, s.stop ≤ t.start) (rest : List Char) :
    arranged (s.removal :: (inner ++ later)) place (removed ++ rest) =
      inner.flatMap (·.newText) ++ arranged later s.stop rest := by
  induction h with
  | nil removed place =>
    rw [List.nil_append, arranged_removal_append hstart hstop.ge (hstop ▸ hlater), ← hstop]
    rcases Nat.lt_or_ge s.start s.stop with hlt | hge
    · exact arranged_of_passed (t := s.removal) hlt le_rfl [] later rest
    · have hempty : s.removal.start = s.stop := show s.start = s.stop by omega
      have hput : putAt [] s.stop = [] := rfl
      exact arranged_of_insertion hput hempty rfl later rest
  | @cons kept removed behind result place t inner hkept hremoved h ih =>
    obtain ⟨hinsert, hinserts⟩ := List.forall_mem_cons.mp hinserts
    obtain rfl : removed = [] := eq_nil_of_bytes8 (by omega)
    simp only [bytes8_append, List.nil_append] at hstop ⊢
    have hbehind : ∀ u ∈ t :: inner ++ later, place + bytes8 kept ≤ u.start := by
      intro u hu
      rcases List.mem_cons.mp hu with rfl | hu
      · omega
      · rcases List.mem_append.mp hu with hu | hu
        · have := h.le_start u hu
          omega
        · have := hlater u hu
          omega
    have hput : putAt [s.removal] (place + bytes8 kept) = [] := putAt_removal s _
    have hat := arranged_of_insertion hput (by omega) (by omega) (inner ++ later) (behind ++ rest)
    have hrest := ih hinserts (by omega) (by omega)
    rw [List.append_assoc, arranged_removal_append hstart (by omega) hbehind]
    simp only [List.cons_append, List.nil_append, List.flatMap_cons, List.append_assoc] at hat ⊢
    rw [hat, ← hkept, ← hinsert, hrest]

/-- A replacement takes its place between what is kept in front of it and what is put into its
range. -/
theorem Spliced.arranged_cons {kept removed woven : List Char}
    (h : Spliced removed s.start inner woven) (hinserts : ∀ t ∈ inner, t.stop = t.start)
    (hstart : s.start = place + bytes8 kept) (hstop : s.stop = s.start + bytes8 removed)
    (hlater : ∀ t ∈ later, s.stop ≤ t.start) (rest : List Char) :
    arranged (s :: (inner ++ later)) place (kept ++ (removed ++ rest)) =
      kept ++ (s.newText ++ (inner.flatMap (·.newText) ++ arranged later s.stop rest)) := by
  have hfirst : ∀ t ∈ s :: (inner ++ later), place + bytes8 kept ≤ t.start := by
    rw [← hstart, List.forall_mem_cons, List.forall_mem_append]
    refine ⟨le_rfl, h.le_start, fun t ht => ?_⟩
    have := hlater t ht
    omega
  rw [arranged_append_of_le hfirst, ← hstart, arranged_cons_self rfl,
    h.arranged_removal hinserts le_rfl hstop hlater]

/-- Edits that keep apart arrange a text. -/
theorem Spliced.arranged_eq {rest result : List Char} (h : Spliced rest place splices result) :
    arranged splices place rest = result := by
  induction h with
  | nil rest place =>
    have hnone : ∀ s ∈ ([] : List Splice), place + bytes8 rest ≤ s.start := List.forall_mem_nil _
    have hkept := arranged_append_of_le hnone []
    rwa [List.append_nil, arranged, putAt_eq_nil (List.forall_mem_nil _), List.append_nil] at hkept
  | @cons kept removed rest result place s later hstart hstop h ih =>
    have hall := Spliced.arranged_cons (.nil removed s.start) (List.forall_mem_nil _) hstart hstop
      h.le_start rest
    rwa [List.nil_append, ih] at hall

/-! ## Groups of replacements -/

/-- What a replacement meets in its range when its turn comes: the characters of the range,
`removed`, are woven with the texts that later ones have put there, which are `late` in their
order. -/
structure Meets (text : List Char) (s : Splice) (later : List Splice)
    (removed late woven : List Char) : Prop where
  wide : s.start < s.stop
  range : ∃ front behind, text = front ++ (removed ++ behind) ∧ s.start = bytes8 front ∧
    s.stop = s.start + bytes8 removed
  late_eq : late = (later.filter (·.start < s.stop)).flatMap (·.newText)
  woven_eq : woven = arranged (later.filter (·.start < s.stop)) s.start removed

/-- The replacements of a text behind a place come in groups: one of them, with those that put
something into its range, and then the others, which begin behind it. -/
inductive Grouped : List Char → Nat → List Splice → Prop
  | nil (rest : List Char) (place : Nat) : Grouped rest place []
  | cons {kept removed rest woven : List Char} {place : Nat} {s : Splice}
      {inner later : List Splice} (hstart : s.start = place + bytes8 kept)
      (hstop : s.stop = s.start + bytes8 removed) (hinner : Spliced removed s.start inner woven)
      (hinserts : ∀ t ∈ inner, t.stop = t.start ∧ t.start < s.stop)
      (hlater : Grouped rest s.stop later) :
      Grouped (kept ++ (removed ++ rest)) place (s :: (inner ++ later))

theorem Grouped.le_start {rest : List Char} (h : Grouped rest place splices) :
    ∀ s ∈ splices, place ≤ s.start := by
  induction h with
  | nil => exact List.forall_mem_nil _
  | cons hstart hstop hinner _ _ ih =>
    rw [List.forall_mem_cons, List.forall_mem_append]
    refine ⟨by omega, fun t ht => ?_, fun t ht => ?_⟩
    · have := hinner.le_start t ht
      omega
    · have := ih t ht
      omega

/-- A place in the first part of a text lies between two of its characters. -/
theorem Boundary.of_append {front rest : List Char} {n : Nat} (h : Boundary (front ++ rest) n)
    (hn : n ≤ bytes8 front) : Boundary front n := by
  obtain ⟨upTo, hupTo, rfl⟩ := h
  exact ⟨upTo, prefix_of_prefix_of_bytes8_le hupTo (List.prefix_append _ _) hn, rfl⟩

theorem Boundary.append {front : List Char} {n : Nat} (h : Boundary front n) (rest : List Char) :
    Boundary (front ++ rest) n := by
  obtain ⟨upTo, hupTo, hn⟩ := h
  exact ⟨upTo, hupTo.trans (List.prefix_append _ _), hn⟩

/-- Replacements in the order of their starts fall into those in front of a place and the others. -/
theorem exists_append_of_pairwise (hsorted : splices.Pairwise fun a b => a.start ≤ b.start)
    (place : Nat) : ∃ front behind, splices = front ++ behind ∧
      (∀ s ∈ front, s.start < place) ∧ ∀ s ∈ behind, place ≤ s.start := by
  induction splices with
  | nil => exact ⟨[], [], rfl, List.forall_mem_nil _, List.forall_mem_nil _⟩
  | cons s later ih =>
    obtain ⟨hs, hlater⟩ := List.pairwise_cons.mp hsorted
    by_cases hlt : s.start < place
    · obtain ⟨front, behind, rfl, hfront, hbehind⟩ := ih hlater
      exact ⟨s :: front, behind, rfl, List.forall_mem_cons.mpr ⟨hlt, hfront⟩, hbehind⟩
    · refine ⟨[], s :: later, rfl, List.forall_mem_nil _, ?_⟩
      rw [List.forall_mem_cons]
      refine ⟨Nat.le_of_not_lt hlt, fun t ht => ?_⟩
      have := hs t ht
      omega

/-- What begins in a range and shares no character with it removes nothing. -/
theorem Splice.stop_eq_start (hshares : ¬ s.Shares t) (hle : t.start ≤ t.stop)
    (hstart : s.start ≤ t.start) (hstop : t.start < s.stop) : t.stop = t.start := by
  unfold Splice.Shares at hshares
  omega

/-- Replacements that remove nothing are woven into the range in which they begin. -/
theorem exists_woven {front removed rest : List Char} {stop : Nat}
    (hfits : ∀ t ∈ inner, t.Fits (front ++ removed ++ rest))
    (hsorted : inner.Pairwise fun a b => a.start ≤ b.start)
    (hfirst : ∀ t ∈ inner, bytes8 front ≤ t.start) (hstop : bytes8 (front ++ removed) = stop)
    (hinserts : ∀ t ∈ inner, t.stop = t.start ∧ t.start < stop) :
    ∃ woven, Spliced removed (bytes8 front) inner woven := by
  have hfits : ∀ t ∈ inner, t.Fits (front ++ removed) := by
    intro t ht
    obtain ⟨hinsert, hlt⟩ := hinserts t ht
    have hbound : Boundary (front ++ removed) t.start := (hfits t ht).start.of_append (by omega)
    exact ⟨hbound, hinsert ▸ hbound, hinsert.ge⟩
  have hapart : inner.Pairwise fun a b => a.stop ≤ b.start := by
    refine hsorted.imp_of_mem fun ha _ hab => ?_
    rw [(hinserts _ ha).1]
    exact hab
  exact exists_spliced hfits hapart.isChain rfl fun t ht => hfirst t (List.mem_of_mem_head? ht)

/-- In the order of their starts, replacements that share no character come in groups. -/
theorem grouped_of_pairwise {front rest : List Char} (htext : front ++ rest = text)
    (hfits : ∀ s ∈ splices, s.Fits text) (hsorted : splices.Pairwise fun a b => a.start ≤ b.start)
    (hshares : splices.Pairwise fun a b => ¬ a.Shares b)
    (hfirst : ∀ s ∈ splices, bytes8 front ≤ s.start) : Grouped rest (bytes8 front) splices := by
  induction hlength : splices.length using Nat.strong_induction_on
    generalizing splices front rest with
  | _ length ih =>
  cases splices with
  | nil => exact .nil rest _
  | cons s tail =>
    obtain ⟨hs, htail⟩ := List.forall_mem_cons.mp hfits
    obtain ⟨hafter, htailSorted⟩ := List.pairwise_cons.mp hsorted
    obtain ⟨hno, htailShares⟩ := List.pairwise_cons.mp hshares
    -- The text falls apart at both ends of the range.
    have hstart : Boundary (front ++ rest) s.start := htext ▸ hs.start
    obtain ⟨kept, behind, rfl, hkept⟩ := hstart.exists_kept (hfirst s List.mem_cons_self)
    rw [← bytes8_append] at hkept
    rw [← List.append_assoc] at htext
    have hstop : Boundary (front ++ kept ++ behind) s.stop := htext ▸ hs.stop
    obtain ⟨removed, rest, rfl, hremoved⟩ := hstop.exists_kept (hkept ▸ hs.le)
    rw [← List.append_assoc] at htext
    rw [← bytes8_append] at hremoved
    -- Those that begin before the stop put something into the range.
    obtain ⟨inner, later, rfl, hinner, hlater⟩ := exists_append_of_pairwise htailSorted s.stop
    rw [List.forall_mem_append] at htail hafter hno
    rw [List.pairwise_append] at htailSorted htailShares
    have hinserts : ∀ t ∈ inner, t.stop = t.start ∧ t.start < s.stop := fun t ht =>
      ⟨Splice.stop_eq_start (hno.1 t ht) (htail.1 t ht).le (hafter.1 t ht) (hinner t ht),
        hinner t ht⟩
    obtain ⟨woven, hwoven⟩ := exists_woven (htext ▸ htail.1) htailSorted.1 (hkept ▸ hafter.1)
      hremoved.symm hinserts
    have hgrouped : Grouped rest (bytes8 (front ++ kept ++ removed)) later := by
      refine ih later.length ?_ htext htail.2 htailSorted.2.1 htailShares.2.1
        (hremoved ▸ hlater) rfl
      rw [← hlength, List.length_cons, List.length_append]
      omega
    refine .cons ?_ ?_ (hkept ▸ hwoven) hinserts (hremoved ▸ hgrouped)
    · rw [hkept, bytes8_append]
    · rw [hremoved, hkept, bytes8_append _ removed]

/-! ## Carrying out a group -/

theorem Spliced.append {rest result : List Char} (h : Spliced rest place splices result)
    (behind : List Char) : Spliced (rest ++ behind) place splices (result ++ behind) := by
  induction h with
  | nil rest place => exact .nil _ place
  | cons hstart hstop _ ih =>
    simp only [List.append_assoc]
    exact .cons hstart hstop ih

/-- What is woven into a range adds its bytes. -/
theorem Spliced.bytes8_woven {removed woven : List Char} (h : Spliced removed place inner woven)
    (hinserts : ∀ t ∈ inner, t.stop = t.start) :
    bytes8 woven = bytes8 removed + bytes8 (inner.flatMap (·.newText)) := by
  induction h with
  | nil => rfl
  | cons hstart hstop _ ih =>
    obtain ⟨hinsert, hinserts⟩ := List.forall_mem_cons.mp hinserts
    simp only [bytes8_append, List.flatMap_cons, ih hinserts]
    omega

theorem spliceAll?_append (before splices : List Splice) (text : List Char) :
    spliceAll? (before ++ splices) text = (spliceAll? splices text).bind (spliceAll? before) := by
  induction before with
  | nil => exact (Option.bind_fun_some _).symm
  | cons s before ih =>
    rw [List.cons_append, spliceAll?_cons, ih, Option.bind_assoc]
    rfl

/-- Of texts that begin with parts of the same length both parts are equal. -/
theorem append_inj_of_bytes8 {a b c d : List Char} (h : a ++ b = c ++ d)
    (hbytes : bytes8 a = bytes8 c) : a = c ∧ b = d := by
  obtain rfl : a = c :=
    eq_of_prefix_of_bytes8 (List.prefix_append a b) (h ▸ List.prefix_append c d) hbytes
  exact ⟨rfl, List.append_cancel_left h⟩

/-- A replacement of which a range is met is one of some replacements, with those behind it. -/
def Met (text : List Char) (splices : List Splice) (removed late woven : List Char) : Prop :=
  ∃ before s later, splices = before ++ s :: later ∧ Meets text s later removed late woven

theorem met_cons {removed late woven : List Char} : Met text (s :: later) removed late woven ↔
    Meets text s later removed late woven ∨ Met text later removed late woven := by
  constructor
  · rintro ⟨before, t, others, hsplit, hmeets⟩
    cases before with
    | nil =>
      obtain ⟨rfl, rfl⟩ := List.cons.inj hsplit
      exact .inl hmeets
    | cons first before =>
      obtain ⟨rfl, rfl⟩ := List.cons.inj hsplit
      exact .inr ⟨before, t, others, rfl, hmeets⟩
  · rintro (hmeets | ⟨before, t, others, rfl, hmeets⟩)
    · exact ⟨[], s, later, rfl, hmeets⟩
    · exact ⟨s :: before, t, others, rfl, hmeets⟩

/-- What removes nothing meets nothing. -/
theorem met_append {removed late woven : List Char} (hinserts : ∀ t ∈ inner, t.stop = t.start) :
    Met text (inner ++ later) removed late woven ↔ Met text later removed late woven := by
  induction inner with
  | nil => rfl
  | cons t inner ih =>
    obtain ⟨hinsert, hinserts⟩ := List.forall_mem_cons.mp hinserts
    rw [List.cons_append, met_cons, ih hinserts]
    refine or_iff_right fun hmeets => ?_
    have := hmeets.wide
    omega

/-- A replacement with those that put something into its range, in the text that they are resolved
in: `front` stands before the range, and `woven` is the range with what is put into it. -/
structure Group (text front removed rest woven : List Char) (s : Splice)
    (inner later : List Splice) : Prop where
  text_eq : front ++ (removed ++ rest) = text
  start : s.start = bytes8 front
  stop : s.stop = s.start + bytes8 removed
  spliced : Spliced removed s.start inner woven
  inserts : ∀ t ∈ inner, t.stop = t.start
  inside : ∀ t ∈ inner, t.start < s.stop
  behind : ∀ t ∈ later, s.stop ≤ t.start

/-- Of parts with the same bytes one is left behind the other exactly if they are the same. -/
theorem suffix_append_iff {cut left late : List Char} (h : bytes8 left = bytes8 late) :
    late <:+ cut ++ left ↔ left = late := by
  constructor
  · rintro ⟨other, hother⟩
    have hbytes := congrArg bytes8 hother
    rw [bytes8_append, bytes8_append] at hbytes
    exact (append_inj_of_bytes8 hother (by omega)).2.symm
  · rintro rfl
    exact List.suffix_append _ _

namespace Group

variable {front removed rest woven result : List Char}

/-- Those that put something into the range are the ones that are met there. -/
theorem meets_iff (h : Group text front removed rest woven s inner later)
    {removed' late woven' : List Char} :
    Meets text s (inner ++ later) removed' late woven' ↔
      s.start < s.stop ∧ removed' = removed ∧ late = inner.flatMap (·.newText) ∧
        woven' = woven := by
  have hfilter : (inner ++ later).filter (·.start < s.stop) = inner := by
    rw [List.filter_append, List.filter_eq_self.mpr fun t ht => decide_eq_true (h.inside t ht),
      List.filter_eq_nil_iff.mpr fun t ht => by simpa using h.behind t ht, List.append_nil]
  have hwoven := h.spliced.arranged_eq
  constructor
  · rintro ⟨hwide, ⟨front', behind, htext, hstart, hstop⟩, rfl, rfl⟩
    obtain ⟨rfl, hbehind⟩ :=
      append_inj_of_bytes8 (h.text_eq.trans htext) (h.start.symm.trans hstart)
    have hremoved := h.stop
    obtain ⟨rfl, -⟩ := append_inj_of_bytes8 hbehind (by omega)
    rw [hfilter]
    exact ⟨hwide, rfl, rfl, hwoven⟩
  · rintro ⟨hwide, rfl, rfl, rfl⟩
    exact ⟨hwide, ⟨front, rest, h.text_eq.symm, h.start, h.stop⟩, by rw [hfilter],
      by rw [hfilter, hwoven]⟩

/-- Where nothing is removed, nothing is put into the range. -/
theorem eq_nil_of_narrow (h : Group text front removed rest woven s inner later)
    (hnarrow : ¬ s.start < s.stop) : inner = [] ∧ removed = [] ∧ woven = [] := by
  have hstop := h.stop
  obtain rfl : removed = [] := eq_nil_of_bytes8 (by omega)
  cases inner with
  | nil => exact ⟨rfl, rfl, h.spliced.arranged_eq.symm⟩
  | cons t inner =>
    have hge := h.spliced.le_start t List.mem_cons_self
    have hlt := h.inside t List.mem_cons_self
    omega

theorem met_iff (h : Group text front removed rest woven s inner later)
    {removed' late woven' : List Char} : Met text (s :: (inner ++ later)) removed' late woven' ↔
      (s.start < s.stop ∧ removed' = removed ∧ late = inner.flatMap (·.newText) ∧
        woven' = woven) ∨ Met text later removed' late woven' := by
  rw [met_cons, met_append h.inserts, h.meets_iff]

/-- What is put into ranges is left if it is left of the group and of the later ones. -/
theorem forall_met_iff (h : Group text front removed rest woven s inner later) :
    (∀ removed late woven, Met text (s :: (inner ++ later)) removed late woven → late <:+ woven) ↔
      inner.flatMap (·.newText) <:+ woven ∧
        ∀ removed late woven, Met text later removed late woven → late <:+ woven := by
  constructor
  · intro hall
    refine ⟨?_, fun _ _ _ hlater => hall _ _ _ (h.met_iff.mpr (.inr hlater))⟩
    by_cases hwide : s.start < s.stop
    · exact hall _ _ _ (h.met_iff.mpr (.inl ⟨hwide, rfl, rfl, rfl⟩))
    · rw [(h.eq_nil_of_narrow hwide).1]
      exact List.nil_suffix
  · rintro ⟨hsuffix, hall⟩ removed' late woven' hmet
    rcases h.met_iff.mp hmet with ⟨-, rfl, rfl, rfl⟩ | hlater
    · exact hsuffix
    · exact hall _ _ _ hlater

/-- A character is cut in the group or in a later one. -/
theorem exists_met_iff (h : Group text front removed rest woven s inner later) :
    (∃ removed late woven, Met text (s :: (inner ++ later)) removed late woven ∧
      ¬ Boundary woven (bytes8 removed)) ↔ ¬ Boundary woven (bytes8 removed) ∨
        ∃ removed late woven, Met text later removed late woven ∧
          ¬ Boundary woven (bytes8 removed) := by
  constructor
  · rintro ⟨removed', late, woven', hmet, hcut⟩
    rcases h.met_iff.mp hmet with ⟨-, rfl, rfl, rfl⟩ | hlater
    · exact .inl hcut
    · exact .inr ⟨_, _, _, hlater, hcut⟩
  · rintro (hcut | ⟨removed', late, woven', hlater, hcut⟩)
    · refine ⟨_, _, _, h.met_iff.mpr (.inl ⟨?_, rfl, rfl, rfl⟩), hcut⟩
      by_contra hnarrow
      obtain ⟨-, rfl, rfl⟩ := h.eq_nil_of_narrow hnarrow
      exact hcut ⟨[], List.nil_prefix, rfl⟩
    · exact ⟨_, _, _, h.met_iff.mpr (.inr hlater), hcut⟩

/-- When the later ones are done, the replacement finds its range with what was put into it. -/
theorem spliceAll?_eq (h : Group text front removed rest woven s inner later)
    (hlater : spliceAll? later text = some (front ++ removed ++ result)) :
    spliceAll? (s :: (inner ++ later)) text = s.apply? (front ++ (woven ++ result)) := by
  have hinner := (h.spliced.append result).spliceAll?_eq front h.start.symm
  rw [spliceAll?_cons, spliceAll?_append, hlater, Option.bind_some, List.append_assoc, hinner,
    Option.bind_some]

/-- It then removes as many bytes as its range has. -/
theorem apply?_of_boundary (h : Group text front removed rest woven s inner later)
    (hbound : Boundary woven (bytes8 removed)) (result : List Char) :
    ∃ cut left, woven = cut ++ left ∧ bytes8 left = bytes8 (inner.flatMap (·.newText)) ∧
      s.apply? (front ++ (woven ++ result)) = some (front ++ (s.newText ++ (left ++ result))) := by
  have hwoven := h.spliced.bytes8_woven h.inserts
  obtain ⟨cut, ⟨left, rfl⟩, hcut⟩ := hbound
  rw [bytes8_append] at hwoven
  refine ⟨cut, left, rfl, by omega, ?_⟩
  rw [List.append_assoc]
  exact Splice.apply?_append h.start (by rw [h.stop, hcut]) (left ++ result)

/-- If they end within a character, it cannot. -/
theorem apply?_of_not_boundary (h : Group text front removed rest woven s inner later)
    (hbound : ¬ Boundary woven (bytes8 removed)) (result : List Char) :
    s.apply? (front ++ (woven ++ result)) = none ∧ ¬ inner.flatMap (·.newText) <:+ woven := by
  have hwoven := h.spliced.bytes8_woven h.inserts
  have hstart := h.start
  have hstop := h.stop
  have hfront : Boundary (front ++ (woven ++ result)) s.start :=
    ⟨front, List.prefix_append _ _, hstart.symm⟩
  constructor
  · refine (Splice.apply?_eq_none_iff (by omega) hfront).mpr fun hend => hbound ?_
    obtain ⟨kept, behind, hsplit, hkept⟩ := hend.exists_kept (by omega)
    have hall : Boundary (woven ++ result) (bytes8 removed) :=
      ⟨kept, hsplit ▸ List.prefix_append _ _, by omega⟩
    exact hall.of_append (by omega)
  · -- What is left would begin where the removed bytes end.
    rintro ⟨cut, rfl⟩
    rw [bytes8_append] at hwoven
    exact hbound ⟨cut, List.prefix_append _ _, by omega⟩

end Group

/-- Replacements in groups are carried out group by group.  They arrange the text exactly if each of
them leaves what was put into its range, and cannot be carried out exactly if one of them cuts a
character there. -/
theorem Grouped.exists_outcome {front rest : List Char} (h : Grouped rest place splices)
    (htext : front ++ rest = text) (hfront : bytes8 front = place) :
    ∃ outcome : Option (List Char), spliceAll? splices text = outcome.map (front ++ ·) ∧
      (outcome = some (arranged splices place rest) ↔
        ∀ removed late woven, Met text splices removed late woven → late <:+ woven) ∧
      (outcome = none ↔ ∃ removed late woven, Met text splices removed late woven ∧
        ¬ Boundary woven (bytes8 removed)) := by
  induction h generalizing front with
  | nil rest place =>
    have hnone (removed late woven : List Char) : ¬ Met text [] removed late woven := by
      rintro ⟨before, s, later, hsplit, -⟩
      simp at hsplit
    refine ⟨some rest, congrArg some htext.symm, ?_, ?_⟩
    · exact iff_of_true (congrArg some (Spliced.nil rest place).arranged_eq.symm)
        fun _ _ _ hmet => absurd hmet (hnone _ _ _)
    · exact iff_of_false nofun fun ⟨_, _, _, hmet, _⟩ => hnone _ _ _ hmet
  | @cons kept removed rest woven place s inner later hstart hstop hinner hinserts hlater ih =>
    have hgroup : Group text (front ++ kept) removed rest woven s inner later :=
      ⟨by simpa using htext, by rw [bytes8_append, hfront, hstart], hstop, hinner,
        fun t ht => (hinserts t ht).1, fun t ht => (hinserts t ht).2, hlater.le_start⟩
    have hbehind : bytes8 (front ++ kept ++ removed) = s.stop := by
      rw [bytes8_append, ← hgroup.start, hstop]
    obtain ⟨outcome, happly, harranged, hnone⟩ := ih (by simpa using htext) hbehind
    rw [hgroup.forall_met_iff, hgroup.exists_met_iff, ← harranged, ← hnone,
      hinner.arranged_cons hgroup.inserts hstart hstop hgroup.behind]
    cases outcome with
    | none =>
      refine ⟨none, ?_, by simp, by simp⟩
      rw [spliceAll?_cons, spliceAll?_append, happly]
      rfl
    | some result =>
      rw [hgroup.spliceAll?_eq happly]
      by_cases hbound : Boundary woven (bytes8 removed)
      · obtain ⟨cut, left, rfl, hleft, hs⟩ := hgroup.apply?_of_boundary hbound result
        refine ⟨some (kept ++ (s.newText ++ (left ++ result))), ?_, ?_, by simp [hbound]⟩
        · rw [hs, Option.map_some, List.append_assoc]
        · rw [suffix_append_iff hleft, Option.some_inj, Option.some_inj, List.append_cancel_left_eq,
            List.append_cancel_left_eq]
          refine ⟨fun heq => append_inj_of_bytes8 heq hleft, ?_⟩
          rintro ⟨rfl, rfl⟩
          rfl
      · obtain ⟨hs, hsuffix⟩ := hgroup.apply?_of_not_boundary hbound result
        exact ⟨none, hs, iff_of_false nofun fun hboth => hsuffix hboth.1,
          iff_of_true rfl (.inl hbound)⟩

/-! ## Texts with their edits -/

theorem pairwise_not_shares_resolveAll {edits : List TextEdit} (h : ¬ Overlap text edits) :
    (resolveAll text edits).Pairwise fun a b => ¬ a.Shares b := by
  refine (List.Perm.pairwise_iff ?_ (List.mergeSort_perm _ _)).mpr (not_not.mp h)
  intro a b hab hba
  unfold Splice.Shares at hab hba
  omega

/-- Edits that share no character leave the text that keeps all characters in none of their ranges,
with the new texts at their starts in the order in which they are listed, exactly if each of them
leaves what others have put into its range by then, within it or at its start and listed behind it.
The range with these texts in it then ends in them.  They cannot be carried out exactly if one of
them cuts a character there. -/
theorem applyEdits?_of_not_overlap {text : String} {edits : List TextEdit}
    (h : ¬ Overlap text.toList edits) :
    (applyEdits? edits text =
        some (String.ofList (arranged (edits.map (resolve text.toList)) 0 text.toList)) ↔
      ∀ removed late woven, Met text.toList (resolveAll text.toList edits) removed late woven →
        late <:+ woven) ∧
      (applyEdits? edits text = none ↔
        ∃ removed late woven, Met text.toList (resolveAll text.toList edits) removed late woven ∧
          ¬ Boundary woven (bytes8 removed)) := by
  have hgrouped := grouped_of_pairwise (List.nil_append text.toList)
    (fun s => fits_of_mem_resolveAll) (pairwise_resolveAll text.toList edits)
    (pairwise_not_shares_resolveAll h) fun s _ => Nat.zero_le _
  obtain ⟨outcome, happly, harranged, hnone⟩ := hgrouped.exists_outcome (List.nil_append _) rfl
  have hlisted := arranged_congr (List.mergeSort_perm _ _) (filter_resolveAll text.toList edits) 0
    text.toList
  rw [← harranged, ← hnone, ← hlisted, applyEdits?, happly]
  cases outcome with
  | none => simp
  | some result => simp [bytes8, resolveAll, String.ofList_inj]

/-! ## A replacement listed before an insertion at its start -/

/-- A character is to be replaced, and then something is to be put in at the same place. -/
def replacedThenInserted : List TextEdit := [⟨⟨⟨0, 0⟩, ⟨0, 1⟩⟩, "x"⟩, ⟨⟨⟨0, 0⟩, ⟨0, 0⟩⟩, "y"⟩]

theorem resolve_replacedThenInserted : replacedThenInserted.map (resolve "abc".toList) =
    [⟨0, 1, ['x']⟩, ⟨0, 0, ['y']⟩] := by decide +kernel

theorem not_overlap_replacedThenInserted : ¬ Overlap "abc".toList replacedThenInserted := by
  rw [Overlap, resolve_replacedThenInserted, List.pairwise_pair, not_not]
  exact Nat.lt_irrefl 0

theorem arranged_replacedThenInserted :
    arranged (replacedThenInserted.map (resolve "abc".toList)) 0 "abc".toList =
      ['x', 'y', 'b', 'c'] := by
  rw [resolve_replacedThenInserted]
  decide

/-- The replacement takes what has been put in for the character that it is to replace. -/
theorem applyEdits?_replacedThenInserted :
    applyEdits? replacedThenInserted "abc" = some "xabc" := by
  simp only [applyEdits?, replacedThenInserted, resolveAll_cons]
  decide +kernel

theorem applyEdits?_of_not_overlap_replacedThenInserted :
    ¬ Overlap "abc".toList replacedThenInserted ∧
      ∃ removed late woven,
        Met "abc".toList (resolveAll "abc".toList replacedThenInserted) removed late woven ∧
          ¬ late <:+ woven := by
  refine ⟨not_overlap_replacedThenInserted, ?_⟩
  have harranged := (applyEdits?_of_not_overlap not_overlap_replacedThenInserted).1
  rw [applyEdits?_replacedThenInserted, arranged_replacedThenInserted] at harranged
  have hne : ¬ some "xabc" = some (String.ofList ['x', 'y', 'b', 'c']) := by decide
  simpa using mt harranged.mpr hne

/-- A replacement of characters is listed before something that is put in at its start. -/
def ReplacedFirst (text : List Char) (edits : List TextEdit) : Prop :=
  ∃ s t, [s, t].Sublist (edits.map (resolve text)) ∧ s.start < s.stop ∧
    t.start = s.start ∧ t.stop = s.start

theorem not_forall_applyEdits?_eq_arranged :
    ¬ ∀ (text : String) (edits : List TextEdit), ¬ Overlap text.toList edits →
      ReplacedFirst text.toList edits → applyEdits? edits text =
        some (String.ofList (arranged (edits.map (resolve text.toList)) 0 text.toList)) := by
  intro h
  have hfirst : ReplacedFirst "abc".toList replacedThenInserted :=
    ⟨⟨0, 1, ['x']⟩, ⟨0, 0, ['y']⟩, by rw [resolve_replacedThenInserted], Nat.zero_lt_one, rfl, rfl⟩
  have harranged := h _ _ not_overlap_replacedThenInserted hfirst
  rw [applyEdits?_replacedThenInserted, arranged_replacedThenInserted] at harranged
  exact absurd harranged (by decide)

end Refactoring.Text
