import Mathlib.Order.Bounds.Basic
import Refactoring.Text.Position

/-!
# Offsets that a position can name

An offset is addressable if it is the length of a part of the text made of whole characters, and
does not fall between a carriage return and its line feed.  Going from an offset to its position and
back rounds down to the nearest offset of this kind.
-/

namespace Refactoring

theorem units_pos (c : Char) : 0 < units c := by
  unfold units
  split <;> decide

/-! ## The order of positions -/

namespace Position

theorem le_refl (p : Position) : p ≤ p := .inr ⟨rfl, Nat.le_refl _⟩

theorem le_trans {p q r : Position} (hpq : p ≤ q) (hqr : q ≤ r) : p ≤ r := by
  rcases hpq with hline | ⟨hline, hcharacter⟩
  · rcases hqr with hline' | ⟨hline', -⟩
    · exact .inl (hline.trans hline')
    · exact .inl (hline'.symm ▸ hline)
  · rcases hqr with hline' | ⟨hline', hcharacter'⟩
    · exact .inl (hline ▸ hline')
    · exact .inr ⟨hline.trans hline', hcharacter.trans hcharacter'⟩

/-! A character can end its line, be the carriage return of a pair, or lie in its line. -/

variable {p : Position} {c : Char} {next : Option Char}

theorem after_of_endsLine (h : endsLine c next) : p.after c next = ⟨p.line + 1, 0⟩ := if_pos h

theorem after_of_pair (p : Position) : p.after '\r' (some '\n') = p := rfl

theorem after_of_not_isLineBreak (h : ¬ isLineBreak c) :
    p.after c next = ⟨p.line, p.character + units c⟩ := by
  simp only [isLineBreak, Bool.or_eq_true, beq_iff_eq, not_or] at h
  simp [after, endsLine, h.1, h.2]

theorem endsLine_or_pair_of_isLineBreak (h : isLineBreak c) :
    endsLine c next ∨ (c = '\r' ∧ next = some '\n') := by
  simp only [isLineBreak, Bool.or_eq_true, beq_iff_eq] at h
  by_cases hnext : next = some '\n'
  · rcases h with rfl | rfl
    · exact .inl rfl
    · exact .inr ⟨rfl, hnext⟩
  · exact .inl (by rcases h with rfl | rfl <;> simp [endsLine, hnext])

theorem le_after (p : Position) (c : Char) (next : Option Char) : p ≤ p.after c next := by
  unfold after
  split
  · exact .inl (Nat.lt_succ_self _)
  · split
    · exact le_refl p
    · exact .inr ⟨rfl, Nat.le_add_right _ _⟩

theorem after_le (p : Position) (c : Char) (next : Option Char) :
    (p.after c next).line ≤ p.line + units c ∧
      (p.after c next).character ≤ p.character + units c := by
  have hpos := units_pos c
  unfold after
  split
  · exact ⟨Nat.add_le_add_left hpos _, Nat.zero_le _⟩
  · split
    · exact ⟨Nat.le_add_right _ _, Nat.le_add_right _ _⟩
    · exact ⟨Nat.le_add_right _ _, Nat.le_refl _⟩

end Position

namespace Text

/-- A cursor never goes back. -/
theorem le_advance (text : List Char) (budget : Nat) (p : Position) :
    p ≤ advance text budget p := by
  induction text generalizing budget p with
  | nil => exact p.le_refl
  | cons c rest ih =>
    rw [advance]
    split
    · exact p.le_refl
    · exact Position.le_trans (p.le_after c rest.head?) (ih _ _)

/-- A cursor that passes a line feed is in a later line. -/
theorem line_lt_advance_feed {rest : List Char} {budget : Nat} {p : Position} (h : 0 < budget) :
    p.line < (advance ('\n' :: rest) budget p).line := by
  rw [advance, if_neg (Nat.not_lt_of_le (show units '\n' ≤ budget from h))]
  have hle : (⟨p.line + 1, 0⟩ : Position) ≤ _ := le_advance rest (budget - units '\n') _
  rcases hle with hline | ⟨hline, -⟩
  · exact Nat.lt_of_succ_lt hline
  · exact Nat.lt_of_succ_le (Nat.le_of_eq hline)

/-- A cursor moves on by a line or a column for a unit at most. -/
theorem advance_le (text : List Char) (budget : Nat) (p : Position) :
    (advance text budget p).line ≤ p.line + budget ∧
      (advance text budget p).character ≤ p.character + budget := by
  induction text generalizing budget p with
  | nil => exact ⟨Nat.le_add_right _ _, Nat.le_add_right _ _⟩
  | cons c rest ih =>
    rw [advance]
    split
    · exact ⟨Nat.le_add_right _ _, Nat.le_add_right _ _⟩
    · have hpos := units_pos c
      have hafter := p.after_le c rest.head?
      have hrest := ih (budget - units c) (p.after c rest.head?)
      omega

/-- Lines and columns are not above the offset that they stand for. -/
theorem positionAt_le (text : List Char) (offset : Nat) :
    (positionAt text offset).line ≤ offset ∧ (positionAt text offset).character ≤ offset := by
  simpa [positionAt, Position.origin] using advance_le text offset .origin

section Seek

variable {target p : Position} {here : Located} {c : Char} {rest : List Char}

/-- A search is over if the cursor stands at its target. -/
theorem seek_self (text : List Char) (p : Position) (here : Located) :
    seek p text p here = here := by
  cases text with
  | nil => rfl
  | cons c rest => rw [seek, if_pos ⟨rfl, .inl (Nat.le_refl _)⟩]

theorem seek_cons_of_line_lt (h : p.line < target.line) :
    seek target (c :: rest) p here = seek target rest (p.after c rest.head?) (here.after c) := by
  rw [seek, if_neg fun hstop => Nat.ne_of_lt h hstop.1]

/-- A search goes on behind a character that its target is behind. -/
theorem seek_cons_of_after_le (h : p.after c rest.head? ≤ target)
    (hpair : ¬ (c = '\r' ∧ rest.head? = some '\n')) :
    seek target (c :: rest) p here = seek target rest (p.after c rest.head?) (here.after c) := by
  by_cases hbreak : isLineBreak c
  · have hends := (Position.endsLine_or_pair_of_isLineBreak hbreak).resolve_right hpair
    rw [Position.after_of_endsLine hends] at h
    refine seek_cons_of_line_lt ?_
    rcases h with hline | ⟨hline, -⟩
    · exact Nat.lt_of_succ_lt hline
    · exact Nat.lt_of_succ_le (Nat.le_of_eq hline)
  · rw [Position.after_of_not_isLineBreak hbreak] at h
    rcases h with hline | ⟨-, hcharacter⟩
    · exact seek_cons_of_line_lt hline
    · have hbehind : ¬ target.character ≤ p.character :=
        Nat.not_le_of_lt ((Nat.lt_add_of_pos_right (units_pos c)).trans_le hcharacter)
      rw [seek, if_neg fun hstop => hstop.2.elim hbehind hbreak]

end Seek

/-! ## Addressable offsets -/

/-- An offset between two characters of a text, but not between those of a pair that ends a line. -/
def Addressable (text : List Char) (offset : Nat) : Prop :=
  ∃ front back, text = front ++ back ∧ units16 front = offset ∧
    ¬ (front.getLast? = some '\r' ∧ back.head? = some '\n')

/-- The addressable offsets that are not above a bound. -/
def addressableUpTo (text : List Char) (bound : Nat) : Set Nat :=
  {offset | Addressable text offset ∧ offset ≤ bound}

theorem eq_nil_of_units16 {text : List Char} (h : units16 text = 0) : text = [] := by
  cases text with
  | nil => rfl
  | cons c rest =>
    have := units_pos c
    rw [units16] at h
    omega

theorem addressable_zero (text : List Char) : Addressable text 0 :=
  ⟨[], text, rfl, rfl, nofun⟩

/-- Behind a first character, the offsets of the rest are addressable; only the one between the two
characters of a pair is not. -/
theorem addressable_cons_iff {c : Char} {rest : List Char} {offset : Nat} :
    Addressable (c :: rest) offset ↔ offset = 0 ∨ ∃ inner, offset = units c + inner ∧
      Addressable rest inner ∧ ¬ (inner = 0 ∧ c = '\r' ∧ rest.head? = some '\n') := by
  constructor
  · rintro ⟨_ | ⟨d, front⟩, back, htext, rfl, hpair⟩
    · exact .inl rfl
    · obtain ⟨rfl, rfl⟩ := List.cons.inj htext
      refine .inr ⟨units16 front, rfl, ⟨front, back, rfl, rfl, ?_⟩, ?_⟩
      · rintro ⟨hlast, hhead⟩
        exact hpair ⟨by rw [List.getLast?_cons, hlast]; rfl, hhead⟩
      · rintro ⟨hzero, rfl, hhead⟩
        obtain rfl := eq_nil_of_units16 hzero
        exact hpair ⟨rfl, hhead⟩
  · rintro (rfl | ⟨inner, rfl, ⟨front, back, rfl, rfl, hpair⟩, hbetween⟩)
    · exact addressable_zero _
    · refine ⟨c :: front, back, rfl, rfl, ?_⟩
      rintro ⟨hlast, hhead⟩
      cases front with
      | nil => exact hbetween ⟨rfl, by simpa using hlast, hhead⟩
      | cons d front => exact hpair ⟨by simpa using hlast, hhead⟩

theorem isGreatest_nil (bound : Nat) : IsGreatest (addressableUpTo [] bound) 0 := by
  refine ⟨⟨addressable_zero [], Nat.zero_le _⟩, ?_⟩
  rintro offset ⟨⟨front, back, hnil, rfl, -⟩, -⟩
  obtain ⟨rfl, -⟩ := List.append_eq_nil_iff.mp hnil.symm
  exact Nat.le_refl 0

section Cons

variable {c : Char} {rest : List Char} {bound inner : Nat}

/-- A bound that cuts the first character is rounded down to the beginning. -/
theorem isGreatest_zero_of_lt (h : bound < units c) :
    IsGreatest (addressableUpTo (c :: rest) bound) 0 := by
  refine ⟨⟨addressable_zero _, Nat.zero_le _⟩, ?_⟩
  rintro offset ⟨haddressable, hbound⟩
  rcases addressable_cons_iff.mp haddressable with rfl | ⟨inner, rfl, -, -⟩
  · exact Nat.le_refl 0
  · omega

/-- So is a bound between the two characters of a pair. -/
theorem isGreatest_zero_of_pair (h : bound < 2) :
    IsGreatest (addressableUpTo ('\r' :: '\n' :: rest) bound) 0 := by
  refine ⟨⟨addressable_zero _, Nat.zero_le _⟩, ?_⟩
  rintro offset ⟨haddressable, hbound⟩
  rcases addressable_cons_iff.mp haddressable with rfl | ⟨inner, rfl, -, hbetween⟩
  · exact Nat.le_refl 0
  · have hreturn : units '\r' = 1 := rfl
    exact absurd ⟨by omega, rfl, rfl⟩ hbetween

/-- Otherwise the bound is rounded behind the first character. -/
theorem isGreatest_cons (hc : units c ≤ bound)
    (h : IsGreatest (addressableUpTo rest (bound - units c)) inner)
    (hbetween : ¬ (inner = 0 ∧ c = '\r' ∧ rest.head? = some '\n')) :
    IsGreatest (addressableUpTo (c :: rest) bound) (units c + inner) := by
  obtain ⟨⟨hinner, hle⟩, hgreatest⟩ := h
  refine ⟨⟨addressable_cons_iff.mpr (.inr ⟨inner, rfl, hinner, hbetween⟩), by omega⟩, ?_⟩
  rintro offset ⟨haddressable, hbound⟩
  rcases addressable_cons_iff.mp haddressable with rfl | ⟨inner', rfl, hinner', -⟩
  · exact Nat.zero_le _
  · have : inner' ≤ inner := hgreatest ⟨hinner', by omega⟩
    omega

/-- A bound behind a line feed is not rounded down to the beginning. -/
theorem pos_of_isGreatest_feed (h : IsGreatest (addressableUpTo ('\n' :: rest) bound) inner)
    (hbound : 0 < bound) : 0 < inner := by
  refine h.2 ⟨addressable_cons_iff.mpr (.inr ⟨0, rfl, addressable_zero rest, ?_⟩), hbound⟩
  rintro ⟨-, hreturn, -⟩
  cases hreturn

end Cons

/-! ## There and back -/

/-- A cursor that is moved on for some units is found again from where it was: it has passed the
greatest addressable offset within these units. -/
theorem isGreatest_seek_advance (text : List Char) (p : Position) (here : Located) (bound : Nat) :
    ∃ passed, (seek (advance text bound p) text p here).utf16 = here.utf16 + passed ∧
      IsGreatest (addressableUpTo text bound) passed := by
  induction text generalizing p here bound with
  | nil => exact ⟨0, rfl, isGreatest_nil bound⟩
  | cons c rest ih =>
    rw [advance]
    split
    case isTrue hcut => exact ⟨0, by rw [seek_self, Nat.add_zero], isGreatest_zero_of_lt hcut⟩
    case isFalse hfits =>
      have hfits : units c ≤ bound := Nat.le_of_not_lt hfits
      obtain ⟨inner, hseek, hinner⟩ := ih (p.after c rest.head?) (here.after c) (bound - units c)
      have hpassed : here.utf16 + (units c + inner) = (here.after c).utf16 + inner :=
        (Nat.add_assoc _ _ _).symm
      by_cases hpair : c = '\r' ∧ rest.head? = some '\n'
      · obtain ⟨rfl, hhead⟩ := hpair
        obtain ⟨rest, rfl⟩ := List.head?_eq_some_iff.mp hhead
        -- The carriage return does not move the cursor; only the line feed does.
        rw [List.head?_cons, Position.after_of_pair] at hseek ⊢
        rcases Nat.lt_or_ge bound 2 with hcut | hfits'
        · have hstays : advance ('\n' :: rest) (bound - units '\r') p = p := by
            rw [advance, if_pos (Nat.sub_lt_left_of_lt_add hfits hcut)]
          refine ⟨0, ?_, isGreatest_zero_of_pair hcut⟩
          rw [hstays, seek_self, Nat.add_zero]
        · have hfeed : 0 < bound - units '\r' := Nat.sub_pos_of_lt hfits'
          have hinner0 : inner ≠ 0 := (pos_of_isGreatest_feed hinner hfeed).ne'
          refine ⟨_, ?_, isGreatest_cons hfits hinner fun h => hinner0 h.1⟩
          have hline : p.line < (advance ('\n' :: rest) (bound - units '\r') p).line :=
            line_lt_advance_feed hfeed
          rw [seek_cons_of_line_lt hline, List.head?_cons, Position.after_of_pair, hseek, hpassed]
      · refine ⟨units c + inner, ?_, isGreatest_cons hfits hinner fun h => hpair h.2⟩
        rw [seek_cons_of_after_le (le_advance _ _ _) hpair, hseek, hpassed]

/-- Going from an offset to its position and back rounds it down to an addressable offset. -/
theorem isGreatest_offsetAt_positionAt (text : List Char) (offset : Nat) :
    IsGreatest (addressableUpTo text offset) (offsetAt text (positionAt text offset)) := by
  obtain ⟨passed, hseek, hpassed⟩ := isGreatest_seek_advance text .origin ⟨0, 0⟩ offset
  rwa [offsetAt, locate, positionAt, hseek, Nat.zero_add]

theorem addressable_units16 (text : List Char) : Addressable text (units16 text) := by
  refine ⟨text, [], (List.append_nil text).symm, rfl, ?_⟩
  rintro ⟨-, hhead⟩
  cases hhead

theorem Addressable.le_units16 {text : List Char} {offset : Nat} (h : Addressable text offset) :
    offset ≤ units16 text := by
  obtain ⟨front, back, rfl, rfl, -⟩ := h
  rw [units16_append]
  exact Nat.le_add_right _ _

/-- An offset is found again from its position exactly if it is addressable.  Any other one is
rounded down to the greatest addressable offset that is not above it, which behind the end is the
length of the text. -/
theorem offsetAt_positionAt (text : List Char) (offset beyond : Nat) :
    IsGreatest {other | Addressable text other ∧ other ≤ offset}
        (offsetAt text (positionAt text offset)) ∧
      (offsetAt text (positionAt text offset) = offset ↔ Addressable text offset) ∧
      offsetAt text (positionAt text (units16 text + beyond)) = units16 text := by
  have hgreatest := isGreatest_offsetAt_positionAt text offset
  refine ⟨hgreatest, ⟨fun hsame => ?_, fun hoffset => ?_⟩, ?_⟩
  · rw [← hsame]
    exact hgreatest.1.1
  · exact Nat.le_antisymm hgreatest.1.2 (hgreatest.2 ⟨hoffset, Nat.le_refl offset⟩)
  · have hend := isGreatest_offsetAt_positionAt text (units16 text + beyond)
    exact Nat.le_antisymm hend.1.1.le_units16
      (hend.2 ⟨addressable_units16 text, Nat.le_add_right _ _⟩)

/-- The pair counts as one line break, and the character behind it takes two units. -/
example : (List.range 8).map (fun offset =>
    offsetAt "a\r\n😀b".toList (positionAt "a\r\n😀b".toList offset)) =
      [0, 1, 1, 3, 3, 5, 6, 6] := by
  decide +kernel

end Text
end Refactoring
