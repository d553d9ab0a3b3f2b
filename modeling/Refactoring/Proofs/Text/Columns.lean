import Refactoring.Proofs.Text.Lines

/-!
# Columns

A position that names no place of a text is held back: at the end of the text if the line is not
there, and at the end of the line if the column is not; a column within a character is taken for the
one behind it.  So the place that a position names never lies in another line or within a character
or a line break, and a position that does name a place is found again.
-/

namespace Refactoring

/-- The lines of a text without what ends them. -/
def Lines.contents (lines : Lines) : List (List Char) := lines.ended.map (·.1) ++ [lines.last]

namespace Text

/-! ## Columns of a line -/

/-- A column between two characters of a line, or at one of its ends. -/
def Column (content : List Char) (column : Nat) : Prop :=
  ∃ kept, kept <+: content ∧ units16 kept = column

/-- A column is taken up to the next one that is between two characters, or down to the end. -/
def RoundsTo (content : List Char) (wanted column : Nat) : Prop :=
  IsLeast {other | Column content other ∧ wanted ≤ other} column ∨
    (∀ other, Column content other → other < wanted) ∧ column = units16 content

section Rounding

variable {c : Char} {content : List Char} {wanted column other : Nat}

theorem column_zero (content : List Char) : Column content 0 := ⟨[], List.nil_prefix, rfl⟩

theorem column_cons : Column (c :: content) other ↔
    other = 0 ∨ ∃ inner, Column content inner ∧ other = units c + inner := by
  constructor
  · rintro ⟨_ | ⟨d, kept⟩, hkept, rfl⟩
    · exact .inl rfl
    · obtain ⟨rfl, hrest⟩ := List.cons_prefix_cons.mp hkept
      exact .inr ⟨units16 kept, ⟨kept, hrest, rfl⟩, rfl⟩
  · rintro (rfl | ⟨inner, ⟨kept, hkept, rfl⟩, rfl⟩)
    · exact column_zero _
    · exact ⟨c :: kept, List.cons_prefix_cons.mpr ⟨rfl, hkept⟩, rfl⟩

theorem roundsTo_zero (h : wanted = 0) : RoundsTo content wanted 0 :=
  .inl ⟨⟨column_zero content, Nat.le_of_eq h⟩, fun _ _ => Nat.zero_le _⟩

theorem roundsTo_nil : RoundsTo [] wanted 0 := by
  cases wanted with
  | zero => exact roundsTo_zero rfl
  | succ wanted =>
    refine .inr ⟨?_, rfl⟩
    rintro other ⟨kept, hkept, rfl⟩
    rw [List.prefix_nil.mp hkept]
    exact Nat.succ_pos wanted

theorem RoundsTo.cons (h : RoundsTo content (wanted - units c) column) (hwanted : 0 < wanted) :
    RoundsTo (c :: content) wanted (units c + column) := by
  rcases h with ⟨⟨hcolumn, hle⟩, hleast⟩ | ⟨hless, rfl⟩
  · refine .inl ⟨⟨column_cons.mpr (.inr ⟨column, hcolumn, rfl⟩), by omega⟩, ?_⟩
    rintro other ⟨hother, hle'⟩
    rcases column_cons.mp hother with rfl | ⟨inner, hinner, rfl⟩
    · omega
    · have : column ≤ inner := hleast ⟨hinner, by omega⟩
      omega
  · refine .inr ⟨fun other hother => ?_, rfl⟩
    rcases column_cons.mp hother with rfl | ⟨inner, hinner, rfl⟩
    · exact hwanted
    · have := hless inner hinner
      omega

theorem RoundsTo.isColumn (h : RoundsTo content wanted column) : Column content column := by
  rcases h with ⟨⟨hcolumn, -⟩, -⟩ | ⟨-, rfl⟩
  · exact hcolumn
  · exact ⟨content, List.prefix_refl content, rfl⟩

/-- A column between two characters stays where it is. -/
theorem RoundsTo.eq_of_column (h : RoundsTo content wanted column)
    (hwanted : Column content wanted) : column = wanted := by
  rcases h with ⟨⟨-, hle⟩, hleast⟩ | ⟨hless, -⟩
  · exact Nat.le_antisymm (hleast ⟨hwanted, Nat.le_refl _⟩) hle
  · exact absurd (hless wanted hwanted) (Nat.lt_irrefl _)

end Rounding

/-! ## Places -/

/-- The place that some text further on. -/
def Located.past (here : Located) (text : List Char) : Located :=
  ⟨here.utf16 + units16 text, here.byte + bytes8 text⟩

theorem past_cons (here : Located) (c : Char) (rest : List Char) :
    here.past (c :: rest) = (here.after c).past rest := by
  simp only [Located.past, Located.after, units16, bytes8, Nat.add_assoc]

/-! ## The place of a position -/

/-- A text falls into what is in front of a column of a line, rounded as it has to be, and what is
behind it.  If there is no such line, nothing is behind it. -/
structure Lands (text : List Char) (line column : Nat) (front back : List Char) : Prop where
  eq : text = front ++ back
  uncut : Uncut front back
  found : ∀ content, (lines text).contents[line]? = some content →
    (lines front).ended = (lines text).ended.take line ∧
      RoundsTo content column (units16 (lines front).last)
  missing : (lines text).contents[line]? = none → back = []

section Lands

variable {text rest front back : List Char} {line column : Nat} {t : Terminator} {c : Char}

theorem lands_zero (text : List Char) : Lands text 0 0 [] text where
  eq := rfl
  uncut := uncut_nil text
  found _ _ := ⟨rfl, roundsTo_zero rfl⟩
  missing h := by simp [Lines.contents] at h

/-- The first line of a text may be empty. -/
theorem lands_empty (h : (lines text).contents[0]? = some []) : Lands text 0 column [] text where
  eq := rfl
  uncut := uncut_nil text
  found content hcontent := by
    obtain rfl : [] = content := Option.some.inj (h.symm.trans hcontent)
    exact ⟨rfl, roundsTo_nil⟩
  missing hnone := nomatch h.symm.trans hnone

/-- An empty line in front does not change the others. -/
theorem Lands.startingWith (h : Lands rest line column front back) (ending : List Char)
    (hrest : lines (ending ++ rest) = (lines rest).startingWith t)
    (hfront : lines (ending ++ front) = (lines front).startingWith t)
    (huncut : Uncut (ending ++ front) back) :
    Lands (ending ++ rest) (line + 1) column (ending ++ front) back where
  eq := by rw [h.eq, List.append_assoc]
  uncut := huncut
  found content hcontent := by
    rw [hrest] at hcontent ⊢
    obtain ⟨hended, hrounds⟩ := h.found content hcontent
    rw [hfront]
    exact ⟨congrArg (([], t) :: ·) hended, hrounds⟩
  missing hnone := by
    rw [hrest] at hnone
    exact h.missing hnone

theorem ne_carriage (hc : ¬ isLineBreak c) : c ≠ '\r' := by
  rintro rfl
  exact hc rfl

/-- A character in front of a later line does not change it. -/
theorem Lands.prepend_later (h : Lands rest (line + 1) column front back) (hc : ¬ isLineBreak c) :
    Lands (c :: rest) (line + 1) column (c :: front) back where
  eq := by rw [h.eq]; rfl
  uncut := h.uncut.cons (ne_carriage hc)
  found content hcontent := by
    rw [lines_cons hc] at hcontent ⊢
    rw [lines_cons hc]
    have hfound := h.found content
    generalize lines rest = later, lines front = passed at hcontent hfound ⊢
    rcases later with ⟨_ | ⟨⟨first, t⟩, ended⟩, last⟩
    · cases hcontent
    · obtain ⟨hended, hrounds⟩ := hfound hcontent
      rcases passed with ⟨passed, kept⟩
      obtain rfl : passed = _ := hended
      exact ⟨rfl, hrounds⟩
  missing hnone := by
    rw [lines_cons hc] at hnone
    refine h.missing ?_
    generalize lines rest = later at hnone ⊢
    rcases later with ⟨_ | ⟨⟨first, t⟩, ended⟩, last⟩ <;> exact hnone

/-- A character in front of the first line belongs to it. -/
theorem Lands.prepend_first (h : Lands rest 0 (column - units c) front back)
    (hc : ¬ isLineBreak c) (hcolumn : 0 < column) :
    Lands (c :: rest) 0 column (c :: front) back where
  eq := by rw [h.eq]; rfl
  uncut := h.uncut.cons (ne_carriage hc)
  found content hcontent := by
    rw [lines_cons hc] at hcontent ⊢
    rw [lines_cons hc]
    obtain ⟨first, hfirst, rfl⟩ : ∃ first, (lines rest).contents[0]? = some first ∧
        c :: first = content := by
      generalize lines rest = later at hcontent ⊢
      rcases later with ⟨_ | ⟨⟨first, t⟩, ended⟩, last⟩ <;> exact ⟨_, rfl, Option.some.inj hcontent⟩
    obtain ⟨hended, hrounds⟩ := h.found first hfirst
    generalize lines front = passed at hended hrounds ⊢
    rcases passed with ⟨passed, kept⟩
    obtain rfl : passed = [] := hended
    exact ⟨rfl, hrounds.cons hcolumn⟩
  missing hnone := by simp [Lines.contents] at hnone

end Lands

/-- In the line of its target a search stops at the column, rounded as it has to be. -/
theorem exists_lands_first (text : List Char) (column : Nat) (p : Position) (here : Located) :
    ∃ front back, Lands text 0 (column - p.character) front back ∧
      seek ⟨p.line, column⟩ text p here = here.past front := by
  induction text using lines_induction generalizing p here with
  | nil => exact ⟨[], [], lands_empty rfl, rfl⟩
  | pair rest => exact ⟨[], _, lands_empty rfl, by rw [seek, if_pos ⟨rfl, .inr rfl⟩]; rfl⟩
  | carriage rest hrest =>
    refine ⟨[], _, lands_empty (by rw [lines_carriage hrest]; rfl), ?_⟩
    rw [seek, if_pos ⟨rfl, .inr rfl⟩]
    rfl
  | feed rest => exact ⟨[], _, lands_empty rfl, by rw [seek, if_pos ⟨rfl, .inr rfl⟩]; rfl⟩
  | cons c rest hc ih =>
    rw [seek]
    by_cases hreached : column ≤ p.character
    · rw [if_pos ⟨rfl, .inl hreached⟩, Nat.sub_eq_zero_of_le hreached]
      exact ⟨[], _, lands_zero _, rfl⟩
    · rw [if_neg fun hstop => hstop.2.elim hreached hc, Position.after_of_not_isLineBreak hc]
      obtain ⟨front, back, hlands, hseek⟩ := ih ⟨p.line, p.character + units c⟩ (here.after c)
      rw [← Nat.sub_sub] at hlands
      exact ⟨c :: front, back, hlands.prepend_first hc (by omega), by rw [hseek, past_cons]⟩

/-- A search whose target is in a later line passes the first one. -/
theorem exists_lands_behind {rest : List Char} {column : Nat}
    (hlater : ∀ (line : Nat) (p : Position) (here : Located), ∃ front back,
      Lands rest (line + 1) column front back ∧
        seek ⟨p.line + (line + 1), column⟩ rest p here = here.past front)
    (line : Nat) (p : Position) (here : Located) :
    ∃ front back, Lands rest line column front back ∧
      seek ⟨p.line + (line + 1), column⟩ rest ⟨p.line + 1, 0⟩ here = here.past front := by
  cases line with
  | zero => exact exists_lands_first rest column ⟨p.line + 1, 0⟩ here
  | succ line =>
    have hline : p.line + (line + 1 + 1) = p.line + 1 + (line + 1) := by omega
    rw [hline]
    exact hlater line ⟨p.line + 1, 0⟩ here

theorem exists_lands_later (text : List Char) (line column : Nat) (p : Position) (here : Located) :
    ∃ front back, Lands text (line + 1) column front back ∧
      seek ⟨p.line + (line + 1), column⟩ text p here = here.past front := by
  have hline (line : Nat) (p : Position) : p.line < p.line + (line + 1) :=
    Nat.lt_add_of_pos_right (Nat.succ_pos line)
  induction text using lines_induction generalizing line p here with
  | nil => exact ⟨[], [], ⟨rfl, uncut_nil _, nofun, fun _ => rfl⟩, rfl⟩
  | pair rest ih =>
    obtain ⟨front, back, hlands, hseek⟩ :=
      exists_lands_behind ih line p ((here.after '\r').after '\n')
    refine ⟨'\r' :: '\n' :: front, back, ?_, ?_⟩
    · exact hlands.startingWith ['\r', '\n'] rfl rfl
        (uncut_cons_cons.mpr (hlands.uncut.cons nofun))
    · rw [seek_cons_of_line_lt (hline line p), List.head?_cons, Position.after_of_pair,
        seek_cons_of_line_lt (hline line p), Position.after_of_endsLine rfl, hseek, past_cons,
        past_cons]
  | carriage rest hrest ih =>
    obtain ⟨front, back, hlands, hseek⟩ := exists_lands_behind ih line p (here.after '\r')
    refine ⟨'\r' :: front, back, ?_, ?_⟩
    · rw [hlands.eq] at hrest
      obtain ⟨hfront, huncut⟩ := hlands.uncut.of_head?_append hrest
      rw [← hlands.eq] at hrest
      exact hlands.startingWith ['\r'] (lines_carriage hrest) (lines_carriage hfront) huncut
    · rw [seek_cons_of_line_lt (hline line p),
        Position.after_of_endsLine (endsLine_carriage hrest), hseek, past_cons]
  | feed rest ih =>
    obtain ⟨front, back, hlands, hseek⟩ := exists_lands_behind ih line p (here.after '\n')
    refine ⟨'\n' :: front, back, ?_, ?_⟩
    · exact hlands.startingWith ['\n'] rfl rfl (hlands.uncut.cons nofun)
    · rw [seek_cons_of_line_lt (hline line p), Position.after_of_endsLine rfl, hseek, past_cons]
  | cons c rest hc ih =>
    obtain ⟨front, back, hlands, hseek⟩ := ih line ⟨p.line, p.character + units c⟩ (here.after c)
    refine ⟨c :: front, back, hlands.prepend_later hc, ?_⟩
    rw [seek_cons_of_line_lt (hline line p), Position.after_of_not_isLineBreak hc, hseek, past_cons]

/-- The place of a position is the end of the part of the text that it lands behind. -/
theorem exists_lands_locate (text : List Char) (line column : Nat) :
    ∃ front back, Lands text line column front back ∧
      locate text ⟨line, column⟩ = ⟨units16 front, bytes8 front⟩ := by
  have hpast (front : List Char) :
      (⟨0, 0⟩ : Located).past front = ⟨units16 front, bytes8 front⟩ := by
    simp only [Located.past, Nat.zero_add]
  cases line with
  | zero =>
    obtain ⟨front, back, hlands, hseek⟩ := exists_lands_first text column .origin ⟨0, 0⟩
    exact ⟨front, back, hlands, hseek.trans (hpast front)⟩
  | succ line =>
    obtain ⟨front, back, hlands, hseek⟩ := exists_lands_later text line column .origin ⟨0, 0⟩
    rw [show Position.origin.line + (line + 1) = line + 1 from Nat.zero_add _] at hseek
    exact ⟨front, back, hlands, hseek.trans (hpast front)⟩

/-- A line that is not there is taken for the end of the text.  In a line that is there a column is
rounded and stays in the line; it is found again exactly if it lies between two characters. -/
theorem positionAt_offsetAt (text : List Char) (line column : Nat) :
    Addressable text (offsetAt text ⟨line, column⟩) ∧
      match (lines text).contents[line]? with
      | none => positionAt text (offsetAt text ⟨line, column⟩) =
          ⟨(lines text).ended.length, units16 (lines text).last⟩
      | some content => ∃ found, positionAt text (offsetAt text ⟨line, column⟩) = ⟨line, found⟩ ∧
          RoundsTo content column found ∧ (found = column ↔ Column content column) := by
  obtain ⟨front, back, hlands, hlocate⟩ := exists_lands_locate text line column
  have hoffset : offsetAt text ⟨line, column⟩ = units16 front := congrArg Located.utf16 hlocate
  have hposition : positionAt text (units16 front) =
      ⟨(lines front).ended.length, units16 (lines front).last⟩ := by
    rw [hlands.eq, positionAt_append hlands.uncut]
  rw [hoffset, hposition]
  refine ⟨⟨front, back, hlands.eq, rfl, hlands.uncut⟩, ?_⟩
  split
  case h_1 hmissing =>
    rw [hlands.eq, hlands.missing hmissing, List.append_nil]
  case h_2 content hcontent =>
    obtain ⟨hended, hrounds⟩ := hlands.found content hcontent
    have hline : line ≤ (lines text).ended.length := by
      obtain ⟨hlength, -⟩ := List.getElem?_eq_some_iff.mp hcontent
      rw [Lines.contents, List.length_append, List.length_map] at hlength
      exact Nat.le_of_lt_succ hlength
    rw [hended, List.length_take, Nat.min_eq_left hline]
    refine ⟨_, rfl, hrounds, fun hfound => ?_, hrounds.eq_of_column⟩
    rw [← hfound]
    exact hrounds.isColumn

end Text
end Refactoring
