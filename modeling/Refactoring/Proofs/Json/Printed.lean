import Mathlib.Tactic.IntervalCases
import Refactoring.Json.Printer
import Refactoring.Json.Reader
import Refactoring.Proofs.Except

/-!
# What is printed is read back

A value that is printed over several lines is read back as it was, unless it has floating-point
numbers or repeated keys or is nested too deeply.  Each reader takes its part from the front of a
text and leaves the rest, so what it gives is told for every text that starts with what was printed.
The only text whose end shows in what comes behind it is that of a number.
-/

namespace Refactoring.Json

variable {rest text : List Char}

/-! ## Strings -/

theorem hexUnit_control {n : Nat} (h : n < 32) :
    hexUnit ('0' :: '0' :: hexDigit (n / 16) :: hexDigit (n % 16) :: rest) = .ok n := by
  interval_cases n <;> rfl

/-- The escape of a control stands for it. -/
theorem unitEscape_control {c : Char} (h : c.toNat < 0x20) :
    unitEscape ('0' :: '0' :: hexDigit (c.toNat / 16) :: hexDigit (c.toNat % 16) :: rest) =
      .ok (c, 4) := by
  rw [unitEscape, hexUnit_control h, ok_bind, if_neg (by omega), if_pos (by omega),
    Char.ofNat_toNat]

theorem readChars_letter {c d : Char} (hc : c ≠ 'u') (h : letterEscape? c = some d) :
    readChars true ('\\' :: c :: text) = consRead d (readChars true text) := by
  rw [readChars, h]
  exact hc

theorem readChars_plain {c : Char} (hquote : c ≠ '"') (hback : c ≠ '\\') (h : ¬ c.toNat < 0x20) :
    readChars true (c :: text) = consRead c (readChars true text) := by
  rw [readChars, if_neg h]
  all_goals simp_all

/-- An escaped character is read as the character. -/
theorem readChars_escapedChar (c : Char) (text : List Char) :
    readChars true (escapedChar c ++ text) = consRead c (readChars true text) := by
  unfold escapedChar
  split_ifs with hquote hback h8 h9 h10 h12 h13 hcontrol
  · subst c
    exact readChars_letter (by decide) rfl
  · subst c
    exact readChars_letter (by decide) rfl
  · subst c
    exact readChars_letter (by decide) rfl
  · subst c
    exact readChars_letter (by decide) rfl
  · subst c
    exact readChars_letter (by decide) rfl
  · subst c
    exact readChars_letter (by decide) rfl
  · subst c
    exact readChars_letter (by decide) rfl
  · simp only [List.cons_append, List.nil_append]
    rw [readChars, if_pos rfl, unitEscape_control hcontrol]
    rfl
  · exact readChars_plain hquote hback hcontrol

theorem readChars_escaped (cs : List Char) (rest : List Char) :
    readChars true (cs.flatMap escapedChar ++ '"' :: rest) = .ok (cs, rest) := by
  induction cs with
  | nil => simp [readChars]
  | cons c cs ih =>
    rw [List.flatMap_cons, List.append_assoc, readChars_escapedChar, ih]
    rfl

theorem toList_stringText (s : String) :
    (stringText s).toList = '"' :: (s.toList.flatMap escapedChar ++ ['"']) := by
  simp [stringText]

/-- A printed string is read back behind its opening quote. -/
theorem readString_escaped (s : String) (rest : List Char) :
    readString (s.toList.flatMap escapedChar ++ '"' :: rest) = .ok (s, rest) := by
  rw [readString, readChars_escaped]
  exact congrArg (fun s => Except.ok (s, rest)) String.ofList_toList

/-! ## Numbers -/

/-- What can stand behind a value in a printed text. -/
def Behind (rest : List Char) : Prop := ∀ c ∈ rest.head?, c = ',' ∨ c = '\n'

theorem isDigit_digitChar {n : Nat} (h : n < 10) :
    isDigit n.digitChar ∧ digitValue n.digitChar = n := by
  interval_cases n <;> decide

theorem isDigit_of_mem_toDigits {n : Nat} {c : Char} (h : c ∈ Nat.toDigits 10 n) : isDigit c := by
  induction n using Nat.strongRecOn with
  | ind n ih =>
    by_cases hn : n < 10
    · rw [Nat.toDigits_of_lt_base hn, List.mem_singleton] at h
      subst h
      exact (isDigit_digitChar hn).1
    · rw [Nat.toDigits_of_base_le (by decide) (by omega), List.mem_append, List.mem_singleton] at h
      rcases h with h | rfl
      · exact ih (n / 10) (by omega) h
      · exact (isDigit_digitChar (Nat.mod_lt n (by decide))).1

/-- Only zero starts with a zero. -/
theorem eq_zero_of_head_toDigits {n : Nat} (h : (Nat.toDigits 10 n).head? = some '0') : n = 0 := by
  induction n using Nat.strongRecOn with
  | ind n ih =>
    by_cases hn : n < 10
    · rw [Nat.toDigits_of_lt_base hn] at h
      have hzero : n.digitChar = '0' := by simpa using h
      interval_cases n <;> first | rfl | exact absurd hzero (by decide)
    · rw [Nat.toDigits_of_base_le (by decide) (by omega),
        List.head?_append_of_ne_nil _ Nat.toDigits_ne_nil] at h
      have := ih (n / 10) (by omega) h
      omega

/-- The digits of a number are gathered to the number. -/
theorem gather_toDigits {limit n : Nat} (h : n ≤ limit) (cs : List Char) :
    gather limit 0 (Nat.toDigits 10 n ++ cs) = gather limit n cs := by
  induction n using Nat.strongRecOn generalizing cs with
  | ind n ih =>
    by_cases hn : n < 10
    · rw [Nat.toDigits_of_lt_base hn]
      simp [gather, (isDigit_digitChar hn).2, h]
    · rw [Nat.toDigits_of_base_le (by decide) (by omega), List.append_assoc,
        ih (n / 10) (by omega) (by omega), List.singleton_append, gather,
        (isDigit_digitChar (Nat.mod_lt n (by decide))).2, Nat.div_add_mod, if_pos h]

theorem Behind.not_digit (h : Behind rest) : ∀ c ∈ rest.head?, isDigit c = false := by
  intro c hc
  rcases h c hc with rfl | rfl <;> rfl

/-- A printed number is read back. -/
theorem readNumber_toDigits {n : Nat} (hn : n ≤ maxWord) (h : Behind rest) :
    readNumber false (Nat.toDigits 10 n ++ rest) = .ok (.int n, rest) := by
  have hdigits : ∀ c ∈ Nat.toDigits 10 n, isDigit c := fun c => isDigit_of_mem_toDigits
  have hstop : rest.takeWhile isDigit = [] ∧ rest.dropWhile isDigit = rest := by
    cases rest with
    | nil => exact ⟨rfl, rfl⟩
    | cons c rest =>
      have hc := h.not_digit c rfl
      exact ⟨by rw [List.takeWhile_cons, hc]; rfl, by rw [List.dropWhile_cons, hc]; rfl⟩
  have htake : (Nat.toDigits 10 n ++ rest).takeWhile isDigit = Nat.toDigits 10 n := by
    rw [List.takeWhile_append_of_pos hdigits, hstop.1, List.append_nil]
  have hdrop : (Nat.toDigits 10 n ++ rest).dropWhile isDigit = rest := by
    rw [List.dropWhile_append_of_pos hdigits, hstop.2]
  have hgather : gather maxWord 0 (Nat.toDigits 10 n) = (n, []) := by
    have := gather_toDigits hn []
    rwa [List.append_nil] at this
  have hzero := @eq_zero_of_head_toDigits n
  generalize hdef : Nat.toDigits 10 n = digits at *
  cases digits with
  | nil => exact absurd hdef Nat.toDigits_ne_nil
  | cons c behind =>
    rw [List.cons_append] at htake hdrop ⊢
    rw [readNumber, hdigits c List.mem_cons_self]
    dsimp only
    rw [htake, hdrop, hgather, if_neg (by decide), if_neg]
    · cases rest with
      | nil => rfl
      | cons d rest => rcases h d rfl with rfl | rfl <;> rfl
    · rintro ⟨rfl, hnext⟩
      obtain rfl := hzero rfl
      obtain rfl : behind = [] := by simpa using hdef.symm
      cases rest with
      | nil => cases hnext
      | cons d rest => exact absurd hnext (by simp [h.not_digit d rfl])

/-! ## Lines between brackets -/

/-- Lines with the closing bracket as they stand behind the opening bracket, if the first of them
comes next, or behind another line. -/
def linesFrom (level : Nat) (closing : Char) : Bool → List String → List Char
  | true, [] => [closing]
  | false, [] => '\n' :: (List.replicate (2 * level) ' ' ++ [closing])
  | first, line :: lines =>
    (if first then [] else [',']) ++ '\n' :: (List.replicate (2 * (level + 1)) ' ' ++ line.toList ++
      linesFrom level closing false lines)

theorem toList_indent (level : Nat) : (indent level).toList = List.replicate (2 * level) ' ' := by
  rw [indent, String.toList_ofList]

theorem intercalate_indent (level : Nat) (closing : Char) (line : String) (lines : List String) :
    (",\n".intercalate ((line :: lines).map (indent (level + 1) ++ ·))).toList ++
        '\n' :: (List.replicate (2 * level) ' ' ++ [closing]) =
      List.replicate (2 * (level + 1)) ' ' ++ line.toList ++
        linesFrom level closing false lines := by
  induction lines generalizing line with
  | nil => simp [linesFrom, toList_indent]
  | cons next lines ih =>
    have := ih next
    simp only [List.map_cons] at this ⊢
    rw [String.intercalate_cons_cons, String.toList_append, List.append_assoc, this]
    simp [linesFrom, toList_indent]

theorem toList_block (opening : String) (closing : Char) (level : Nat) (lines : List String) :
    (block opening (String.ofList [closing]) level lines).toList =
      opening.toList ++ linesFrom level closing true lines := by
  cases lines with
  | nil => rw [block, linesFrom, String.toList_append, String.toList_ofList]
  | cons line lines =>
    rw [linesFrom, ← intercalate_indent level closing line lines]
    simp [block, toList_indent]

theorem skipBlanks_indent (n : Nat) (text : List Char) :
    skipBlanks ('\n' :: (List.replicate n ' ' ++ text)) = skipBlanks text := by
  rw [skipBlanks, List.dropWhile_cons_of_pos rfl, List.dropWhile_append_of_pos]
  · rfl
  · intro c hc
    rw [List.eq_of_mem_replicate hc]
    rfl

theorem skipBlanks_of_not_blank {c : Char} (h : isBlank c = false) :
    skipBlanks (c :: text) = c :: text := by
  rw [skipBlanks, List.dropWhile_cons, h]
  rfl

theorem behind_linesFrom (level : Nat) (closing : Char) (lines : List String) (rest : List Char) :
    Behind (linesFrom level closing false lines ++ rest) := by
  cases lines with
  | nil =>
    rintro c ⟨⟩
    exact .inr rfl
  | cons line lines =>
    rintro c ⟨⟩
    exact .inl rfl

/-- Behind the last item comes the closing bracket. -/
theorem nextItem_end (first : Bool) (level : Nat) (rest : List Char) :
    nextItem first (linesFrom level ']' first [] ++ rest) = .ok (.inr rest) := by
  cases first with
  | true => rfl
  | false =>
    rw [linesFrom, List.cons_append, List.append_assoc, nextItem, skipBlanks_indent]
    rfl

theorem nextKey_end (first : Bool) (level : Nat) (rest : List Char) :
    nextKey first (linesFrom level '\x7d' first [] ++ rest) = .ok (.inr rest) := by
  cases first with
  | true => rfl
  | false =>
    rw [linesFrom, List.cons_append, List.append_assoc, nextKey, skipBlanks_indent]
    rfl

theorem nextItem_comma (text : List Char) : nextItem false (',' :: text) =
    match skipBlanks text with
    | [] => .error (.before .endInValue [])
    | ']' :: rest => .error (.onNext .trailingComma (']' :: rest))
    | rest => .ok (.inl rest) := rfl

theorem nextKey_comma (text : List Char) : nextKey false (',' :: text) =
    match skipBlanks text with
    | [] => .error (.before .endInValue [])
    | '"' :: rest => .ok (.inl rest)
    | '\x7d' :: rest => .error (.onNext .trailingComma ('\x7d' :: rest))
    | rest => .error (.onNext .keyNotString rest) := rfl

/-- An item is found on its line. -/
theorem nextItem_line {c : Char} (hblank : isBlank c = false) (hc : c ≠ ']') (first : Bool)
    (level : Nat) {line : String} (hline : line.toList = c :: text) (lines : List String)
    (rest : List Char) :
    nextItem first (linesFrom level ']' first (line :: lines) ++ rest) =
      .ok (.inl (c :: text ++ (linesFrom level ']' false lines ++ rest))) := by
  cases first with
  | false =>
    simp only [linesFrom, hline, List.cons_append, List.append_assoc, List.nil_append,
      Bool.false_eq_true, if_false]
    rw [nextItem_comma, skipBlanks_indent, skipBlanks_of_not_blank hblank]
    simp_all
  | true =>
    simp only [linesFrom, hline, List.cons_append, List.append_assoc, List.nil_append, if_true]
    rw [nextItem, skipBlanks_indent, skipBlanks_of_not_blank hblank]
    simp_all

/-- A key is found on its line. -/
theorem nextKey_line (first : Bool) (level : Nat) {line : String}
    (hline : line.toList = '"' :: text) (lines : List String) (rest : List Char) :
    nextKey first (linesFrom level '\x7d' first (line :: lines) ++ rest) =
      .ok (.inl (text ++ (linesFrom level '\x7d' false lines ++ rest))) := by
  cases first with
  | false =>
    simp only [linesFrom, hline, List.cons_append, List.append_assoc, List.nil_append,
      Bool.false_eq_true, if_false]
    rw [nextKey_comma, skipBlanks_indent, skipBlanks_of_not_blank rfl]
    rfl
  | true =>
    simp only [linesFrom, hline, List.cons_append, List.append_assoc, List.nil_append, if_true]
    rw [nextKey, skipBlanks_indent, skipBlanks_of_not_blank rfl]
    rfl

/-! ## Scalars -/

/-- Values that are not nested, apart from floating-point numbers. -/
inductive Scalar : Json → Prop
  | null : Scalar .null
  | bool (b : Bool) : Scalar (.bool b)
  | ofNat {n : Nat} (hn : n ≤ maxWord) : Scalar (.ofNat n)
  | string (s : String) : Scalar (.string s)

/-- How the text of a value starts. -/
def Opens (value : Json) (allowed : Char → Prop) : Prop :=
  ∀ level, ∃ c text, (prettyAt level value).toList = c :: text ∧ isBlank c = false ∧ allowed c

theorem ne_of_isDigit {c d : Char} (h : isDigit c) (hd : isDigit d = false) : c ≠ d := by
  rintro rfl
  cases h.symm.trans hd

theorem not_blank_of_isDigit {c : Char} (h : isDigit c) : isBlank c = false := by
  have hblank (d : Char) (hd : isDigit d = false) : (c == d) = false :=
    beq_false_of_ne (ne_of_isDigit h hd)
  rw [isBlank, hblank ' ' rfl, hblank '\n' rfl, hblank '\t' rfl, hblank '\r' rfl]
  rfl

theorem toList_ofNat (level n : Nat) : (prettyAt level (.ofNat n)).toList = Nat.toDigits 10 n := by
  rw [ofNat, prettyAt]
  exact Nat.toList_repr

theorem exists_toDigits (n : Nat) : ∃ c text, Nat.toDigits 10 n = c :: text ∧ isDigit c := by
  cases hdigits : Nat.toDigits 10 n with
  | nil => exact absurd hdigits Nat.toDigits_ne_nil
  | cons c text => exact ⟨c, text, rfl, isDigit_of_mem_toDigits (hdigits ▸ List.mem_cons_self)⟩

/-- A scalar does not start with a bracket. -/
theorem Scalar.opens {value : Json} (h : Scalar value) :
    Opens value fun c => c ≠ '[' ∧ c ≠ ']' ∧ c ≠ '\x7b' := by
  intro level
  cases h with
  | null => exact ⟨'n', "ull".toList, by rw [prettyAt]; rfl, rfl, by decide⟩
  | bool b =>
    cases b with
    | false => exact ⟨'f', "alse".toList, by rw [prettyAt]; rfl, rfl, by decide⟩
    | true => exact ⟨'t', "rue".toList, by rw [prettyAt]; rfl, rfl, by decide⟩
  | @ofNat n hn =>
    obtain ⟨c, text, htext, hc⟩ := exists_toDigits n
    exact ⟨c, text, (toList_ofNat level n).trans htext, not_blank_of_isDigit hc,
      ne_of_isDigit hc rfl, ne_of_isDigit hc rfl, ne_of_isDigit hc rfl⟩
  | string s => exact ⟨'"', _, by rw [prettyAt, toList_stringText], rfl, by decide⟩

/-- A scalar is read back from where it is printed. -/
theorem Scalar.readScalar {value : Json} (h : Scalar value) (level : Nat) (hrest : Behind rest) :
    readScalar ((prettyAt level value).toList ++ rest) = .ok (value, rest) := by
  cases h with
  | null =>
    rw [prettyAt]
    rfl
  | bool b =>
    rw [prettyAt]
    cases b <;> rfl
  | @ofNat n hn =>
    have hnumber := readNumber_toDigits hn hrest
    obtain ⟨c, text, htext, hc⟩ := exists_toDigits n
    rw [htext, List.cons_append] at hnumber
    rw [toList_ofNat, htext, List.cons_append, Json.readScalar, if_pos hc, hnumber]
    · rfl
    all_goals
      rintro rfl
      cases hc
  | string s =>
    rw [prettyAt, toList_stringText, List.cons_append, List.append_assoc, List.singleton_append,
      Json.readScalar, readString_escaped]
    rfl

/-! ## Values -/

/-- A reader reads a value back from where it is printed. -/
def ReadsBack (read : Nat → List Char → Read Json) (value : Json) : Prop :=
  ∀ level fuel rest, (prettyAt level value).toList.length ≤ fuel → Behind rest →
    read fuel ((prettyAt level value).toList ++ rest) = .ok (value, rest)

theorem toList_member (level : Nat) (key : String) (value : Json) :
    (stringText key ++ ": " ++ prettyAt level value).toList =
      '"' :: (key.toList.flatMap escapedChar ++
        '"' :: ':' :: ' ' :: (prettyAt level value).toList) := by
  rw [String.toList_append, String.toList_append, toList_stringText]
  simp

theorem readValue_blank (fuel depth : Nat) (text : List Char) :
    readValue (fuel + 1) depth (' ' :: text) = readValue (fuel + 1) depth text := by
  rw [readValue, readValue]
  rfl

theorem length_linesFrom_pos (level : Nat) (closing : Char) (first : Bool) (lines : List String) :
    0 < (linesFrom level closing first lines).length := by
  cases lines <;> cases first <;> simp [linesFrom]

theorem length_of_linesFrom {level fuel : Nat} {closing : Char} {first : Bool} {line : String}
    {lines : List String} (h : (linesFrom level closing first (line :: lines)).length ≤ fuel + 1) :
    line.toList.length ≤ fuel ∧ (linesFrom level closing false lines).length ≤ fuel := by
  cases first <;> simp [linesFrom] at h ⊢ <;> omega

theorem readColon_colon (text : List Char) : readColon (':' :: text) = .ok text := rfl

/-- Members are read back from their lines. -/
theorem readMembers_lines {depth : Nat} {members : List (String × Json)}
    (h : ∀ m ∈ members, ReadsBack (readValue · depth) m.2) (first : Bool) (level fuel : Nat)
    (hfuel : (linesFrom level '\x7d' first (prettyMembers (level + 1) members)).length ≤ fuel)
    (rest : List Char) :
    readMembers fuel depth first
        (linesFrom level '\x7d' first (prettyMembers (level + 1) members) ++ rest) =
      .ok (members, rest) := by
  obtain ⟨fuel, rfl⟩ := Nat.exists_eq_add_one.mpr
    ((length_linesFrom_pos _ _ _ _).trans_le hfuel)
  induction members generalizing first fuel with
  | nil =>
    rw [prettyMembers, readMembers, nextKey_end]
    rfl
  | cons m members ih =>
    obtain ⟨key, value⟩ := m
    rw [prettyMembers] at hfuel ⊢
    obtain ⟨hline, hlines⟩ := length_of_linesFrom hfuel
    rw [toList_member] at hline
    obtain ⟨fuel, rfl⟩ := Nat.exists_eq_add_one.mpr (Nat.lt_of_lt_of_le (Nat.succ_pos _) hline)
    have hvalue : readValue (fuel + 1) depth _ = _ :=
      h _ List.mem_cons_self (level + 1) (fuel + 1) _ (by simp at hline ⊢; omega)
        (behind_linesFrom level '\x7d' (prettyMembers (level + 1) members) rest)
    have hrest := ih (fun m hm => h m (List.mem_cons_of_mem _ hm)) false fuel hlines
    rw [readMembers, nextKey_line first level (toList_member _ _ _), ok_bind]
    simp only [List.append_assoc, List.cons_append]
    rw [readString_escaped, ok_bind, readColon_colon, ok_bind, readValue_blank, hvalue, ok_bind,
      hrest]
    rfl

/-- Items are read back from their lines. -/
theorem readItems_lines {depth : Nat} {items : List Json}
    (h : ∀ item ∈ items, ReadsBack (readValue · depth) item)
    (hopens : ∀ item ∈ items, Opens item (· ≠ ']'))
    (first : Bool) (level fuel : Nat)
    (hfuel : (linesFrom level ']' first (prettyItems (level + 1) items)).length ≤ fuel)
    (rest : List Char) :
    readItems fuel depth first
        (linesFrom level ']' first (prettyItems (level + 1) items) ++ rest) =
      .ok (items, rest) := by
  obtain ⟨fuel, rfl⟩ := Nat.exists_eq_add_one.mpr
    ((length_linesFrom_pos _ _ _ _).trans_le hfuel)
  induction items generalizing first fuel with
  | nil =>
    rw [prettyItems, readItems, nextItem_end]
    rfl
  | cons item items ih =>
    rw [prettyItems] at hfuel ⊢
    obtain ⟨c, text, htext, hblank, hc⟩ := hopens _ List.mem_cons_self (level + 1)
    obtain ⟨hline, hlines⟩ := length_of_linesFrom hfuel
    rw [htext] at hline
    obtain ⟨fuel, rfl⟩ := Nat.exists_eq_add_one.mpr (Nat.lt_of_lt_of_le (Nat.succ_pos _) hline)
    have hitem : readValue (fuel + 1) depth _ = _ :=
      h _ List.mem_cons_self (level + 1) (fuel + 1) _ (by rwa [htext])
        (behind_linesFrom level ']' (prettyItems (level + 1) items) rest)
    have hrest := ih (fun item hitem => h item (List.mem_cons_of_mem _ hitem))
      (fun item hitem => hopens item (List.mem_cons_of_mem _ hitem)) false fuel hlines
    rw [readItems, nextItem_line hblank hc first level htext, ok_bind]
    dsimp only
    rw [← htext, hitem, ok_bind, hrest]
    rfl

/-- Values that are read back: they are nested within `depth` levels, without floating-point
numbers and repeated keys. -/
inductive Legible : Nat → Json → Prop
  | scalar {depth : Nat} {value : Json} (h : Scalar value) : Legible depth value
  | array {depth : Nat} {items : List Json} (hitems : ∀ item ∈ items, Legible depth item) :
    Legible (depth + 1) (.array items)
  | object {depth : Nat} {members : List (String × Json)} (hkeys : (members.map (·.1)).Nodup)
    (hmembers : ∀ m ∈ members, Legible depth m.2) : Legible (depth + 1) (.object members)

theorem toList_array (level : Nat) (items : List Json) :
    (prettyAt level (.array items)).toList =
      '[' :: linesFrom level ']' true (prettyItems (level + 1) items) := by
  rw [prettyAt]
  exact toList_block "[" ']' level _

theorem toList_object (level : Nat) (members : List (String × Json)) :
    (prettyAt level (.object members)).toList =
      '\x7b' :: linesFrom level '\x7d' true (prettyMembers (level + 1) members) := by
  rw [prettyAt]
  exact toList_block "\x7b" '\x7d' level _

theorem Legible.opens {depth : Nat} {value : Json} (h : Legible depth value) :
    Opens value (· ≠ ']') := by
  intro level
  cases h with
  | scalar h =>
    obtain ⟨c, text, htext, hblank, -, hc, -⟩ := h.opens level
    exact ⟨c, text, htext, hblank, hc⟩
  | array hitems => exact ⟨'[', _, toList_array level _, rfl, by decide⟩
  | object hkeys hmembers => exact ⟨'\x7b', _, toList_object level _, rfl, by decide⟩

/-- A key that comes later is not among those before. -/
theorem not_any_of_nodup {known members : List (String × Json)} {m : String × Json}
    (h : ((known ++ m :: members).map (·.1)).Nodup) : ¬ known.any (·.1 == m.1) := by
  rw [List.any_eq_true]
  rintro ⟨other, hother, hkey⟩
  rw [List.map_append, List.nodup_append] at h
  exact h.2.2 _ (List.mem_map_of_mem hother) _ (List.mem_map_of_mem List.mem_cons_self)
    (by simpa using hkey)

/-- Members with keys of their own are all kept. -/
theorem foldl_setMember (known : List (String × Json)) {members : List (String × Json)}
    (h : ((known ++ members).map (·.1)).Nodup) :
    members.foldl (fun known m => setMember known m.1 m.2) known = known ++ members := by
  induction members generalizing known with
  | nil => rw [List.foldl_nil, List.append_nil]
  | cons m members ih =>
    have hnew : setMember known m.1 m.2 = known ++ [m] := by
      rw [setMember, if_neg (not_any_of_nodup h)]
    rw [List.foldl_cons, hnew, ih _ (by simpa using h), List.append_assoc]
    rfl

/-- A reader reads a value back if it does with fuel. -/
theorem readsBack_of_succ {read : Nat → List Char → Read Json} {value : Json}
    {allowed : Char → Prop} (hopens : Opens value allowed)
    (h : ∀ level fuel rest, (prettyAt level value).toList.length ≤ fuel + 1 → Behind rest →
      read (fuel + 1) ((prettyAt level value).toList ++ rest) = .ok (value, rest)) :
    ReadsBack read value := by
  intro level fuel rest hfuel hrest
  obtain ⟨c, text, htext, -⟩ := hopens level
  obtain ⟨fuel, rfl⟩ : ∃ n, fuel = n + 1 :=
    Nat.exists_eq_add_one.mpr (Nat.lt_of_lt_of_le (by simp [htext]) hfuel)
  exact h level fuel rest hfuel hrest

theorem readValue_array (fuel depth : Nat) (text : List Char) :
    readValue (fuel + 1) (depth + 2) ('[' :: text) =
      (readItems fuel (depth + 1) true text).map fun (items, rest) => (.array items, rest) := by
  rw [readValue]
  rfl

theorem readValue_object (fuel depth : Nat) (text : List Char) :
    readValue (fuel + 1) (depth + 2) ('\x7b' :: text) =
      (readMembers fuel (depth + 1) true text).map fun (members, rest) =>
        (.object (members.foldl (fun known m => setMember known m.1 m.2) []), rest) := by
  rw [readValue]
  rfl

/-- A value is read back from where it is printed. -/
theorem Legible.readsBack {depth : Nat} {value : Json} (h : Legible depth value) :
    ReadsBack (readValue · (depth + 1)) value := by
  induction h with
  | scalar h =>
    refine readsBack_of_succ h.opens fun level fuel rest hfuel hrest => ?_
    obtain ⟨c, text, htext, hblank, harray, -, hobject⟩ := h.opens level
    have hread := h.readScalar level hrest
    rw [htext, List.cons_append] at hread ⊢
    rw [readValue, skipBlanks_of_not_blank hblank]
    split <;> simp_all
  | array hitems ih =>
    refine readsBack_of_succ (Legible.array hitems).opens fun level fuel rest hfuel hrest => ?_
    rw [toList_array] at hfuel ⊢
    rw [List.cons_append, readValue_array, readItems_lines ih
      (fun item hitem => (hitems item hitem).opens) true level fuel (Nat.le_of_succ_le_succ hfuel)]
    rfl
  | object hkeys hmembers ih =>
    refine readsBack_of_succ (Legible.object hkeys hmembers).opens
      fun level fuel rest hfuel hrest => ?_
    rw [toList_object] at hfuel ⊢
    rw [List.cons_append, readValue_object,
      readMembers_lines ih true level fuel (Nat.le_of_succ_le_succ hfuel)]
    exact congrArg (fun members => Except.ok (Json.object members, rest))
      (foldl_setMember [] hkeys)

theorem length_le_fuelFor (text : List Char) : text.length ≤ fuelFor text := by
  rw [fuelFor]
  omega

/-- A text that was printed is read as what it was printed from. -/
theorem Legible.parse_pretty {value : Json} (h : Legible 127 value) :
    parse value.pretty = .ok value := by
  have hread : readValue _ 128 _ = _ :=
    h.readsBack 0 (fuelFor (prettyAt 0 value).toList) [] (length_le_fuelFor _) nofun
  rw [List.append_nil] at hread
  unfold parse pretty depthLimit
  dsimp only
  rw [hread, ok_bind]
  rfl

end Refactoring.Json
