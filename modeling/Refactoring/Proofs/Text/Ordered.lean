import Refactoring.Proofs.Text.Columns
import Refactoring.Proofs.Text.Splices

/-!
# Places in their order

A search for a position passes at least what a search for an earlier one passes.  So the places of
positions are in the order of the positions, in bytes as in code units.  A range that does not end
before its start takes a part out of the text.
-/

namespace Refactoring.Text

variable {p q cursor : Position} {c : Char} {next : Option Char}

/-- A search that passes a character stays in front of the end of its line. -/
theorem after_line_le_of_not_reached (hcursor : cursor.line ≤ p.line)
    (h : ¬ (cursor.line = p.line ∧ (p.character ≤ cursor.character ∨ isLineBreak c))) :
    (cursor.after c next).line ≤ p.line := by
  rcases Nat.lt_or_eq_of_le hcursor with hline | hline
  · unfold Position.after
    split
    · exact hline
    · split <;> exact hcursor
  · have hbreak : ¬ isLineBreak c := fun hbreak => h ⟨hline, .inr hbreak⟩
    rw [Position.after_of_not_isLineBreak hbreak]
    exact hcursor

/-- What a search passes is passed by a search for a later position. -/
theorem not_reached_of_le (hle : p ≤ q) (hcursor : cursor.line ≤ p.line)
    (h : ¬ (cursor.line = p.line ∧ (p.character ≤ cursor.character ∨ isLineBreak c))) :
    ¬ (cursor.line = q.line ∧ (q.character ≤ cursor.character ∨ isLineBreak c)) := by
  rintro ⟨hline, hstop⟩
  rcases hle with hlater | ⟨hsame, hcharacter⟩
  · exact Nat.not_lt_of_le hcursor (hline ▸ hlater)
  · exact h ⟨hline.trans hsame.symm, hstop.imp_left hcharacter.trans⟩

/-- A search for a later position goes on from the place of the earlier one. -/
theorem exists_seek_of_le (hle : p ≤ q) (text : List Char) (cursor : Position) (here : Located)
    (hcursor : cursor.line ≤ p.line) : ∃ front removed back, text = front ++ (removed ++ back) ∧
      seek p text cursor here = here.past front ∧
      seek q text cursor here = here.past (front ++ removed) := by
  induction text generalizing p cursor here with
  | nil => exact ⟨[], [], [], rfl, rfl, rfl⟩
  | cons c rest ih =>
    rw [seek, seek]
    by_cases hp : cursor.line = p.line ∧ (p.character ≤ cursor.character ∨ isLineBreak c)
    · rw [if_pos hp]
      by_cases hq : cursor.line = q.line ∧ (q.character ≤ cursor.character ∨ isLineBreak c)
      · exact ⟨[], [], c :: rest, rfl, rfl, if_pos hq⟩
      · -- From here on only the later position is searched for.
        have hline : cursor.line ≤ q.line := by
          rw [hp.1]
          exact hle.elim Nat.le_of_lt fun h => Nat.le_of_eq h.1
        obtain ⟨passed, _, back, rfl, hseek, -⟩ := ih q.le_refl (cursor.after c rest.head?)
          (here.after c) (after_line_le_of_not_reached hline hq)
        exact ⟨[], c :: passed, _, rfl, rfl,
          by rw [if_neg hq, hseek, List.nil_append, past_cons]⟩
    · have hq := not_reached_of_le hle hcursor hp
      obtain ⟨front, removed, back, rfl, hfront, hremoved⟩ := ih hle
        (cursor.after c rest.head?) (here.after c) (after_line_le_of_not_reached hcursor hp)
      exact ⟨c :: front, removed, back, rfl, by rw [if_neg hp, hfront, past_cons],
        by rw [if_neg hq, hremoved, List.cons_append, past_cons]⟩

/-- A text falls into what is in front of a position, what is between it and a later one, and what
is behind that. -/
theorem exists_locate_of_le (text : List Char) (hle : p ≤ q) : ∃ front removed back,
    text = front ++ (removed ++ back) ∧ locate text p = ⟨units16 front, bytes8 front⟩ ∧
      locate text q = ⟨units16 (front ++ removed), bytes8 (front ++ removed)⟩ := by
  obtain ⟨front, removed, back, htext, hp, hq⟩ :=
    exists_seek_of_le hle text .origin ⟨0, 0⟩ (Nat.zero_le _)
  refine ⟨front, removed, back, htext, ?_, ?_⟩
  · rw [locate, hp, Located.past, Nat.zero_add, Nat.zero_add]
  · rw [locate, hq, Located.past, Nat.zero_add, Nat.zero_add]

theorem locate_le_locate (text : List Char) (hle : p ≤ q) :
    (locate text p).byte ≤ (locate text q).byte ∧
      (locate text p).utf16 ≤ (locate text q).utf16 := by
  obtain ⟨front, removed, back, -, hp, hq⟩ := exists_locate_of_le text hle
  rw [hp, hq, units16_append, bytes8_append]
  exact ⟨Nat.le_add_right _ _, Nat.le_add_right _ _⟩

/-- A cursor with a larger budget gets at least as far. -/
theorem advance_le_advance (text : List Char) {budget budget' : Nat} (h : budget ≤ budget')
    (p : Position) : advance text budget p ≤ advance text budget' p := by
  induction text generalizing budget budget' p with
  | nil => exact p.le_refl
  | cons c rest ih =>
    rw [advance]
    split
    case isTrue => exact le_advance _ _ _
    case isFalse hfits =>
      rw [advance, if_neg fun hcut => hfits (h.trans_lt hcut)]
      exact ih (Nat.sub_le_sub_right h _) _

/-- A range that does not end before its start is resolved to its two places, and the characters
between them are exchanged. -/
theorem exists_resolve_of_le (text : List Char) (edit : TextEdit)
    (hle : edit.range.start ≤ edit.range.stop) :
    resolve text edit = ⟨(locate text edit.range.start).byte, (locate text edit.range.stop).byte,
        edit.newText.toList⟩ ∧
      ∃ front removed back, text = front ++ (removed ++ back) ∧
        (resolve text edit).start = bytes8 front ∧
        (resolve text edit).stop = bytes8 (front ++ removed) ∧
        Splice.apply? (resolve text edit) text = some (front ++ (edit.newText.toList ++ back)) := by
  have hmax := Nat.max_eq_left (locate_le_locate text hle).1
  refine ⟨by rw [resolve, hmax], ?_⟩
  obtain ⟨front, removed, back, htext, hfront, hremoved⟩ := exists_locate_of_le text hle
  have hresolve : resolve text edit =
      ⟨bytes8 front, bytes8 (front ++ removed), edit.newText.toList⟩ := by
    rw [resolve, hmax, hfront, hremoved]
  have hstart : (resolve text edit).start = bytes8 front := by rw [hresolve]
  have hstop : (resolve text edit).stop = bytes8 (front ++ removed) := by rw [hresolve]
  have hbehind : (resolve text edit).stop = (resolve text edit).start + bytes8 removed := by
    rw [hstop, hstart, bytes8_append]
  have happly := Splice.apply?_append hstart hbehind back
  rw [← htext] at happly
  exact ⟨front, removed, back, htext, hstart, hstop, happly⟩

/-! ## Searches in 32 bits -/

/-- Walks as `seek` does; all sums are made in 32 bits. -/
def seek32? (target : Position) : List Char → Position → Located → Option Located
  | [], _, here => some here
  | c :: rest, p, here => do
    if p.line = target.line ∧ (target.character ≤ p.character ∨ isLineBreak c) then return here
    let utf16 ← sum32? here.utf16 (units c)
    seek32? target rest (← p.after32? c rest.head?) ⟨utf16, here.byte + c.utf8Size⟩

/-- The place of a position, if all sums on the way to it fit into 32 bits. -/
def locate32? (text : List Char) (target : Position) : Option Located :=
  seek32? target text .origin ⟨0, 0⟩

theorem seek32?_eq_some {target : Position} {text : List Char} {p : Position} {here : Located}
    (hfits : here.utf16 + units16 text < UInt32.size) (hline : p.line ≤ here.utf16)
    (hcharacter : p.character ≤ here.utf16) :
    seek32? target text p here = some (seek target text p here) := by
  induction text generalizing p here with
  | nil => rfl
  | cons c rest ih =>
    rw [units16] at hfits
    rw [seek32?, seek]
    split
    · rfl
    · obtain ⟨hline', hcharacter'⟩ := p.after_le c rest.head?
      rw [sum32?_eq_some (by omega), after32?_eq_some _ (by omega) (by omega)]
      have hutf16 : (here.after c).utf16 = here.utf16 + units c := rfl
      have hrest : seek32? target rest (p.after c rest.head?) (here.after c) =
          some (seek target rest (p.after c rest.head?) (here.after c)) :=
        ih (by omega) (by omega) (by omega)
      exact hrest

/-- All sums fit into 32 bits if the text does, and every place lies between two characters.
Positions and their places are in the same order, as are offsets and their positions.  The ends of a
range that does not end before its start are the places of its positions. -/
theorem places_in_order {text : List Char} (hfits : units16 text < UInt32.size) :
    (∀ target, locate32? text target = some (locate text target)) ∧
      (∀ offset, positionAt32? text offset = some (positionAt text offset)) ∧
      (∀ target, ∃ front back, text = front ++ back ∧
        locate text target = ⟨units16 front, bytes8 front⟩) ∧
      (∀ p q, p ≤ q → (locate text p).byte ≤ (locate text q).byte ∧
        (locate text p).utf16 ≤ (locate text q).utf16) ∧
      (∀ offset offset', offset ≤ offset' → positionAt text offset ≤ positionAt text offset') ∧
      ∀ edit : TextEdit, edit.range.start ≤ edit.range.stop →
        resolve text edit = ⟨(locate text edit.range.start).byte,
            (locate text edit.range.stop).byte, edit.newText.toList⟩ ∧
          ∃ front removed back, text = front ++ (removed ++ back) ∧
            (resolve text edit).start = bytes8 front ∧
            (resolve text edit).stop = bytes8 (front ++ removed) ∧
            Splice.apply? (resolve text edit) text = some (front ++ (edit.newText.toList ++ back)) := by
  have hall : 0 + units16 text < UInt32.size := by rwa [Nat.zero_add]
  refine ⟨fun target => ?_, fun offset => ?_, fun target => ?_, fun p q => locate_le_locate text,
    fun offset offset' h => advance_le_advance text h .origin, exists_resolve_of_le text⟩
  · exact seek32?_eq_some hall (Nat.zero_le _) (Nat.zero_le _)
  · exact advance32?_eq_some hall (Nat.zero_le _) (Nat.zero_le _) (Nat.zero_le _)
  · obtain ⟨front, _, back, htext, hlocate, -⟩ := exists_locate_of_le text target.le_refl
    exact ⟨front, _, htext, hlocate⟩

/-- The range starts within a character, which is kept, and stops behind the last line. -/
theorem places_in_order_withinCharacter :
    let text := "a\r\n😀\rb".toList
    let edit : TextEdit := ⟨⟨⟨1, 1⟩, ⟨7, 0⟩⟩, "x"⟩
    units16 text < UInt32.size ∧ edit.range.start ≤ edit.range.stop ∧
      locate32? text edit.range.start = some ⟨5, 7⟩ ∧ resolve text edit = ⟨7, 9, ['x']⟩ ∧
      ∃ front removed back, text = front ++ (removed ++ back) ∧
        (resolve text edit).start = bytes8 front ∧
        (resolve text edit).stop = bytes8 (front ++ removed) ∧
        Splice.apply? (resolve text edit) text = some (front ++ (edit.newText.toList ++ back)) := by
  intro text edit
  have hfits : units16 text < UInt32.size := by decide
  have hle : edit.range.start ≤ edit.range.stop := .inl (by decide)
  obtain ⟨hsums, -, -, -, -, hresolve⟩ := places_in_order hfits
  exact ⟨hfits, hle, hsums _, by decide +kernel, (hresolve edit hle).2⟩

end Refactoring.Text
