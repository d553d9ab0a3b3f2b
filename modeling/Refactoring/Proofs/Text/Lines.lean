import Refactoring.Proofs.Text.Addressable

/-!
# Lines

A text is split at each carriage return with its line feed, at each other line feed and at each
other carriage return.  The position of an offset is counted in these lines: its line is the number
of terminators in front of it, and its column is the length of what is behind the last of them.  The
counting never leaves 32 bits if the text does not.
-/

namespace Refactoring

/-! ## Texts as lines -/

/-- What ends a line. -/
inductive Terminator where
  | feed
  | carriage
  /-- A carriage return with its line feed. -/
  | pair
  deriving Repr, DecidableEq

/-- The lines that a terminator ends, and what stands behind the last terminator. -/
structure Lines where
  ended : List (List Char × Terminator)
  last : List Char
  deriving Repr, DecidableEq

namespace Lines

/-- The lines behind a terminator, with the empty line that it ends. -/
def startingWith (t : Terminator) (lines : Lines) : Lines := ⟨([], t) :: lines.ended, lines.last⟩

/-- The lines with a character in front of the first one. -/
def prepend (c : Char) : Lines → Lines
  | ⟨[], last⟩ => ⟨[], c :: last⟩
  | ⟨(content, t) :: ended, last⟩ => ⟨(c :: content, t) :: ended, last⟩

/-- The lines of one text behind those of another: the last line of the first goes on. -/
def append : Lines → Lines → Lines
  | ⟨ended, last⟩, ⟨[], last'⟩ => ⟨ended, last ++ last'⟩
  | ⟨ended, last⟩, ⟨(content, t) :: ended', last'⟩ =>
    ⟨ended ++ (last ++ content, t) :: ended', last'⟩

instance : Append Lines := ⟨append⟩

variable (t : Terminator) (c : Char) (lines later : Lines)

@[simp] theorem nil_append : (⟨[], []⟩ ++ lines : Lines) = lines := by
  rcases lines with ⟨_ | ⟨⟨content, t⟩, ended⟩, last⟩ <;> rfl

theorem startingWith_append :
    lines.startingWith t ++ later = (lines ++ later).startingWith t := by
  rcases later with ⟨_ | ⟨⟨content, t⟩, ended⟩, last⟩ <;> rfl

theorem prepend_append : lines.prepend c ++ later = (lines ++ later).prepend c := by
  rcases lines with ⟨_ | ⟨⟨content, t⟩, ended⟩, last⟩
  all_goals rcases later with ⟨_ | ⟨⟨content', t'⟩, ended'⟩, last'⟩ <;> rfl

end Lines

namespace Text

/-- The lines of a text. -/
def lines : List Char → Lines
  | [] => ⟨[], []⟩
  | '\r' :: '\n' :: rest => (lines rest).startingWith .pair
  | '\r' :: rest => (lines rest).startingWith .carriage
  | '\n' :: rest => (lines rest).startingWith .feed
  | c :: rest => (lines rest).prepend c

/-- A cut between two parts of a text does not go through a carriage return with its line feed. -/
def Uncut (front back : List Char) : Prop :=
  ¬ (front.getLast? = some '\r' ∧ back.head? = some '\n')

section Laws

variable {c d : Char} {front back rest : List Char}

theorem uncut_nil (back : List Char) : Uncut [] back := fun h => nomatch h.1

/-- Behind more than one character it does not matter what the first one is. -/
theorem uncut_cons_cons : Uncut (c :: d :: front) back ↔ Uncut (d :: front) back := by
  rw [Uncut, Uncut, List.getLast?_cons_cons]

theorem Uncut.cons (h : Uncut front back) (hc : c ≠ '\r') : Uncut (c :: front) back := by
  cases front with
  | nil => exact fun hcut => hc (Option.some.inj hcut.1)
  | cons d front => exact uncut_cons_cons.mpr h

theorem Uncut.of_cons (h : Uncut (c :: front) back) : Uncut front back := by
  cases front with
  | nil => exact uncut_nil back
  | cons d front => exact uncut_cons_cons.mp h

/-- A lone carriage return stays alone in a text that goes on. -/
theorem Uncut.head?_append (h : Uncut ('\r' :: rest) back) (hrest : rest.head? ≠ some '\n') :
    (rest ++ back).head? ≠ some '\n' := by
  cases rest with
  | nil => exact fun hhead => h ⟨rfl, hhead⟩
  | cons d rest => exact hrest

/-- The front of a text behind a carriage return that stays alone. -/
theorem Uncut.of_head?_append (h : Uncut front back) (hrest : (front ++ back).head? ≠ some '\n') :
    front.head? ≠ some '\n' ∧ Uncut ('\r' :: front) back := by
  cases front with
  | nil => exact ⟨nofun, fun hcut => hrest hcut.2⟩
  | cons d front => exact ⟨hrest, uncut_cons_cons.mpr h⟩

theorem lines_carriage (h : rest.head? ≠ some '\n') :
    lines ('\r' :: rest) = (lines rest).startingWith .carriage := by
  rw [lines]
  rintro rest' rfl
  exact h rfl

theorem lines_cons (h : ¬ isLineBreak c) : lines (c :: rest) = (lines rest).prepend c := by
  simp only [isLineBreak, Bool.or_eq_true, beq_iff_eq, not_or] at h
  rw [lines]
  · exact fun _ hc => absurd hc h.2
  · exact h.2
  · exact h.1

/-- A text is nothing, or it starts with one of the three terminators or with another character. -/
theorem lines_induction {motive : List Char → Prop} (nil : motive [])
    (pair : ∀ rest, motive rest → motive ('\r' :: '\n' :: rest))
    (carriage : ∀ rest, rest.head? ≠ some '\n' → motive rest → motive ('\r' :: rest))
    (feed : ∀ rest, motive rest → motive ('\n' :: rest))
    (cons : ∀ c rest, ¬ isLineBreak c → motive rest → motive (c :: rest)) (text : List Char) :
    motive text := by
  induction text using lines.induct with
  | case1 => exact nil
  | case2 rest ih => exact pair rest ih
  | case3 rest hrest ih =>
    refine carriage rest (fun hhead => ?_) ih
    obtain ⟨rest', rfl⟩ := List.head?_eq_some_iff.mp hhead
    exact hrest rest' rfl
  | case4 rest ih => exact feed rest ih
  | case5 c rest _ hreturn hfeed ih =>
    refine cons c rest (fun hbreak => ?_) ih
    simp only [isLineBreak, Bool.or_eq_true, beq_iff_eq] at hbreak
    exact hbreak.elim hfeed hreturn

/-- Two parts of a text have the lines of the text between them. -/
theorem lines_append (h : Uncut front back) :
    lines (front ++ back) = lines front ++ lines back := by
  induction front using lines_induction with
  | nil => rw [List.nil_append, lines, Lines.nil_append]
  | pair rest ih =>
    rw [List.cons_append, List.cons_append, lines, lines, ih h.of_cons.of_cons,
      Lines.startingWith_append]
  | carriage rest hrest ih =>
    rw [List.cons_append, lines_carriage hrest, lines_carriage (h.head?_append hrest),
      ih h.of_cons, Lines.startingWith_append]
  | feed rest ih =>
    rw [List.cons_append, lines, lines, ih h.of_cons, Lines.startingWith_append]
  | cons c rest hc ih =>
    rw [List.cons_append, lines_cons hc, lines_cons hc, ih h.of_cons, Lines.prepend_append]

/-- Only a carriage return right in front of a line feed goes with it. -/
example : lines "a\r\r\n\nb\n\rc".toList =
    ⟨[(['a'], .carriage), ([], .pair), ([], .feed), (['b'], .feed), ([], .carriage)], ['c']⟩ := by
  decide

end Laws
end Text

/-! ## Cursors behind lines -/

namespace Position

/-- Where a cursor stands once it has passed some lines. -/
def behind (p : Position) : Lines → Position
  | ⟨[], last⟩ => ⟨p.line, p.character + units16 last⟩
  | ⟨_ :: ended, last⟩ => ⟨p.line + (ended.length + 1), units16 last⟩

variable (p : Position) (t : Terminator) (c : Char) (lines : Lines)

theorem behind_startingWith :
    p.behind (lines.startingWith t) = (⟨p.line + 1, 0⟩ : Position).behind lines := by
  rcases lines with ⟨_ | ⟨line, ended⟩, last⟩
  · rw [Lines.startingWith, behind, behind, List.length_nil, Nat.zero_add, Nat.zero_add]
  · have hcount : p.line + (ended.length + 1 + 1) = p.line + 1 + (ended.length + 1) := by omega
    rw [Lines.startingWith, behind, behind, List.length_cons, hcount]

theorem behind_prepend :
    p.behind (lines.prepend c) = (⟨p.line, p.character + units c⟩ : Position).behind lines := by
  rcases lines with ⟨_ | ⟨⟨content, t⟩, ended⟩, last⟩
  · rw [Lines.prepend, behind, behind, units16, Nat.add_assoc]
  · rfl

theorem origin_behind : origin.behind lines = ⟨lines.ended.length, units16 lines.last⟩ := by
  rcases lines with ⟨_ | ⟨line, ended⟩, last⟩
  · rw [behind, origin, Nat.zero_add, List.length_nil]
  · rw [behind, origin, Nat.zero_add, List.length_cons]

end Position

namespace Text

theorem endsLine_carriage {next : Option Char} (h : next ≠ some '\n') : endsLine '\r' next := by
  rw [endsLine, bne_iff_ne.mpr h]
  rfl

/-- A cursor that has passed the front of a text goes on behind its lines. -/
theorem advance_append {front back : List Char} (h : Uncut front back) (more : Nat) (p : Position) :
    advance (front ++ back) (units16 front + more) p =
      advance back more (p.behind (lines front)) := by
  have hpass (c : Char) (rest : List Char) (p : Position) :
      advance (c :: (rest ++ back)) (units16 (c :: rest) + more) p =
        advance (rest ++ back) (units16 rest + more) (p.after c (rest ++ back).head?) := by
    rw [advance, units16, if_neg (by omega), Nat.add_assoc, Nat.add_sub_cancel_left]
  induction front using lines_induction generalizing p with
  | nil => rw [List.nil_append, units16, Nat.zero_add, lines]; rfl
  | pair rest ih =>
    rw [List.cons_append, hpass, List.cons_append, hpass, lines, Position.behind_startingWith,
      ← ih h.of_cons.of_cons]
    rfl
  | carriage rest hrest ih =>
    have hends : endsLine '\r' (rest ++ back).head? := endsLine_carriage (h.head?_append hrest)
    rw [List.cons_append, hpass, Position.after_of_endsLine hends, ih h.of_cons,
      lines_carriage hrest, Position.behind_startingWith]
  | feed rest ih =>
    rw [List.cons_append, hpass, Position.after_of_endsLine rfl, ih h.of_cons, lines,
      Position.behind_startingWith]
  | cons c rest hc ih =>
    rw [List.cons_append, hpass, Position.after_of_not_isLineBreak hc, ih h.of_cons, lines_cons hc,
      Position.behind_prepend]

/-- The position behind the front of a text is counted in the lines of the front. -/
theorem positionAt_append {front back : List Char} (h : Uncut front back) :
    positionAt (front ++ back) (units16 front) =
      ⟨(lines front).ended.length, units16 (lines front).last⟩ := by
  have hback (p : Position) : advance back 0 p = p := by
    cases back with
    | nil => rfl
    | cons c rest => rw [advance, if_pos (units_pos c)]
  rw [positionAt, ← Nat.add_zero (units16 front), advance_append h, hback, Position.origin_behind]

/-- A cursor behind the greatest addressable offset does not move on. -/
theorem advance_of_isGreatest {front back : List Char} {offset : Nat} (h : Uncut front back)
    (hgreatest : IsGreatest (addressableUpTo (front ++ back) offset) (units16 front))
    (p : Position) : advance back (offset - units16 front) p = p := by
  have hle : units16 front ≤ offset := hgreatest.1.2
  -- Behind every character that fits there would be a greater one.
  have hpart (kept rest : List Char) (hback : back = kept ++ rest) (hkept : kept ≠ [])
      (hfits : units16 kept ≤ offset - units16 front) : ¬ Uncut (front ++ kept) rest := by
    intro huncut
    have hmore : units16 (front ++ kept) ≤ units16 front := hgreatest.2
      ⟨⟨front ++ kept, rest, by rw [hback, List.append_assoc], rfl, huncut⟩,
        by rw [units16_append]; omega⟩
    rw [units16_append] at hmore
    exact hkept (eq_nil_of_units16 (by omega))
  cases back with
  | nil => rfl
  | cons c rest =>
    rw [advance]
    split
    case isTrue => rfl
    case isFalse hfits =>
      obtain ⟨hlast, hhead⟩ : c = '\r' ∧ rest.head? = some '\n' := by
        have hcut := hpart [c] rest rfl (List.cons_ne_nil _ _) (by rw [units16, units16]; omega)
        simpa [Uncut] using hcut
      obtain ⟨rest, rfl⟩ := List.head?_eq_some_iff.mp hhead
      have hshort : ¬ units16 ['\r', '\n'] ≤ offset - units16 front := fun hfits' =>
        hpart [c, '\n'] rest (by rw [hlast]; rfl) (List.cons_ne_nil _ _) (by rwa [hlast])
          (by simp [Uncut])
      subst hlast
      have hone : units16 ['\r', '\n'] = units '\r' + units '\n' := rfl
      rw [List.head?_cons, Position.after_of_pair, advance, if_pos (by omega)]

/-! ## Words of 32 bits -/

/-- The sum of two numbers if it fits into 32 bits. -/
def sum32? (a b : Nat) : Option Nat := if a + b < UInt32.size then some (a + b) else none

end Text

/-- Where the cursor stands once it has passed `c`, if both of its numbers fit into 32 bits. -/
def Position.after32? (p : Position) (c : Char) (next : Option Char) : Option Position :=
  if endsLine c next then (Text.sum32? p.line 1).map fun line => ⟨line, 0⟩
  else if c == '\r' then some p
  else (Text.sum32? p.character (units c)).map fun character => ⟨p.line, character⟩

namespace Text

/-- Passes whole characters as long as the number of units passed is not above `offset`; all sums
are made in 32 bits. -/
def advance32? (offset : Nat) : List Char → Nat → Position → Option Position
  | [], _, p => some p
  | c :: rest, passed, p => do
    let behind ← sum32? passed (units c)
    if offset < behind then return p
    advance32? offset rest behind (← p.after32? c rest.head?)

/-- The position of an offset, if all sums on the way to it fit into 32 bits. -/
def positionAt32? (text : List Char) (offset : Nat) : Option Position :=
  advance32? offset text 0 .origin

theorem sum32?_eq_some {a b : Nat} (h : a + b < UInt32.size) : sum32? a b = some (a + b) := if_pos h

theorem after32?_eq_some {p : Position} {c : Char} (next : Option Char)
    (hline : p.line + units c < UInt32.size) (hcharacter : p.character + units c < UInt32.size) :
    p.after32? c next = some (p.after c next) := by
  have hpos := units_pos c
  unfold Position.after32? Position.after
  split
  · rw [sum32?_eq_some (by omega)]
    rfl
  · split
    · rfl
    · rw [sum32?_eq_some hcharacter]
      rfl

/-- The sums fit because no number on the way is above the number of units passed. -/
theorem advance32?_eq_some {text : List Char} {offset passed : Nat} {p : Position}
    (hfits : passed + units16 text < UInt32.size) (hpassed : passed ≤ offset)
    (hline : p.line ≤ passed) (hcharacter : p.character ≤ passed) :
    advance32? offset text passed p = some (advance text (offset - passed) p) := by
  induction text generalizing passed p with
  | nil => rfl
  | cons c rest ih =>
    rw [units16] at hfits
    rw [advance32?, sum32?_eq_some (by omega), advance]
    dsimp only [Option.bind_eq_bind, Option.bind_some]
    by_cases hcut : offset < passed + units c
    · rw [if_pos hcut, if_pos (by omega)]
      rfl
    · obtain ⟨hline', hcharacter'⟩ := p.after_le c rest.head?
      rw [if_neg hcut, if_neg (by omega), after32?_eq_some _ (by omega) (by omega),
        Option.bind_some, ih (by omega) (by omega) (by omega) (by omega), Nat.sub_sub]

/-- The position of an offset is counted in the lines of what is in front of the greatest
addressable offset that is not above it. -/
theorem exists_positionAt_eq {text : List Char} (hfits : units16 text < UInt32.size)
    (offset : Nat) :
    positionAt32? text offset = some (positionAt text offset) ∧
      ∃ front back, text = front ++ back ∧ lines text = lines front ++ lines back ∧
        IsGreatest {other | Addressable text other ∧ other ≤ offset} (units16 front) ∧
        positionAt text offset = ⟨(lines front).ended.length, units16 (lines front).last⟩ := by
  constructor
  · exact advance32?_eq_some (by rwa [Nat.zero_add]) (Nat.zero_le _) (Nat.zero_le _) (Nat.zero_le _)
  · have hgreatest := isGreatest_offsetAt_positionAt text offset
    obtain ⟨front, back, rfl, hfront, huncut⟩ := hgreatest.1.1
    rw [← hfront] at hgreatest
    refine ⟨front, back, rfl, lines_append huncut, hgreatest, ?_⟩
    obtain ⟨more, rfl⟩ := Nat.exists_eq_add_of_le hgreatest.1.2
    have hstays := advance_of_isGreatest huncut hgreatest (Position.origin.behind (lines front))
    rw [Nat.add_sub_cancel_left] at hstays
    rw [positionAt, advance_append huncut, hstays, Position.origin_behind]

/-- The offset is within the large character, which is the first of its line. -/
theorem exists_positionAt_eq_withinCharacter :
    units16 "a\r\n😀\rb".toList < UInt32.size ∧
      positionAt32? "a\r\n😀\rb".toList 4 = some (positionAt "a\r\n😀\rb".toList 4) ∧
      ∃ front back, "a\r\n😀\rb".toList = front ++ back ∧
        lines "a\r\n😀\rb".toList = lines front ++ lines back ∧
        IsGreatest {other | Addressable "a\r\n😀\rb".toList other ∧ other ≤ 4} (units16 front) ∧
        positionAt "a\r\n😀\rb".toList 4 =
          ⟨(lines front).ended.length, units16 (lines front).last⟩ := by
  have hfits : units16 "a\r\n😀\rb".toList < UInt32.size := by decide
  exact ⟨hfits, exists_positionAt_eq hfits 4⟩

end Text
end Refactoring
