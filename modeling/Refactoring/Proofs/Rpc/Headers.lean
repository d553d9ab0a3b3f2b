import Mathlib.Data.List.Forall2
import Refactoring.Proofs.Rpc.Framing

/-!
# Headers of any spelling

Not every writer spells a header as `Frame.write` does.  Its lines may come in any order, with other
names among them and with no name at all, the length may be given several times and under a name in
capitals, and blank characters may surround each line.  As long as the last length that is given is
the length of the body, exactly the frame is taken off the stream, whether or not its body is a
text, so that the next frame is found behind it.
-/

namespace Refactoring

/-! ## Texts and marks -/

/-- Bytes are read as the text that they encode, if there is one. -/
theorem Utf8.decode?_eq_some {bytes : List UInt8} {text : String} :
    Utf8.decode? bytes = some text ↔ Utf8.encode text = bytes := by
  constructor
  · intro h
    unfold Utf8.decode? String.fromUTF8? at h
    split at h
    · cases h
      rfl
    · cases h
  · rintro rfl
    exact Utf8.decode?_encode text

namespace Text

/-- A blank character at the end counts for nothing. -/
theorem trim_concat {c : Char} (h : isBlank c) (text : List Char) :
    trim (text ++ [c]) = trim text := by
  have hc : [c].dropWhile isBlank = [] := by rw [List.dropWhile_cons, if_pos h, List.dropWhile_nil]
  unfold trim stripBoth
  rw [List.dropWhile_append]
  split
  · rename_i hblank
    rw [hc, List.isEmpty_iff.mp hblank]
  · rw [List.reverse_concat, List.dropWhile_cons, if_pos h]

/-- A text is cut at a mark if the mark does not begin before. -/
theorem splitOnce_append {c : Char} {mark before : List Char} (h : c ∉ before)
    (behind : List Char) :
    splitOnce (c :: mark) (before ++ (c :: mark ++ behind)) = some (before, behind) := by
  induction before with
  | nil => simp [splitOnce]
  | cons d before ih =>
    obtain ⟨hd, hbefore⟩ := not_or.mp (List.mem_cons.not.mp h)
    rw [List.cons_append, splitOnce, if_neg (by simp [hd]), ih hbefore]
    rfl

end Text

namespace Frame

/-! ## Header lines -/

/-- A line gives a length if its name is `content-length`, whatever the case of its letters. -/
def GivesLength (line : String) (value : List Char) : Prop :=
  ∃ name, Text.trim line.toList = name ++ (": ".toList ++ value) ∧
    name.map Char.toLower = "content-length".toList

theorem lengthIn_eq_some {line : String} {value : List Char} :
    lengthIn line = some value ↔ GivesLength line value := by
  unfold lengthIn
  constructor
  · intro h
    split at h
    · rename_i name found hsplit
      split at h
      · rename_i hname
        cases h
        exact ⟨name, by rw [Text.splitOnce_eq_some hsplit, List.append_assoc], hname⟩
      · cases h
    · cases h
  · rintro ⟨name, hline, hname⟩
    -- The name holds no colon, so the first mark is the one behind it.
    have hcolon : ':' ∉ name := by
      intro hmem
      have hlower : ':' ∈ name.map Char.toLower := List.mem_map.mpr ⟨':', hmem, by decide⟩
      rw [hname] at hlower
      exact absurd hlower (by decide)
    have hsplit : Text.splitOnce ": ".toList (Text.trim line.toList) = some (name, value) := by
      rw [hline]
      exact Text.splitOnce_append hcolon value
    rw [hsplit]
    exact if_pos hname

theorem lengthIn_newline (line : String) : lengthIn (line ++ "\n") = lengthIn line := by
  have hline : (line ++ "\n").toList = line.toList ++ ['\n'] := String.toList_append
  rw [lengthIn, lengthIn, hline, Text.trim_concat (by decide)]

/-- A line of a header without its line feed; it may end in a carriage return. -/
structure HeaderLine where
  text : String
  single : '\n' ∉ text.toList
  visible : ∃ c ∈ text.toList, ¬ Text.isBlank c

/-- The bytes of a line with its line feed. -/
def HeaderLine.bytes (line : HeaderLine) : Stream := Utf8.encode (line.text ++ "\n")

/-- Header lines are read one by one, and the last length that is given counts. -/
theorem readHeader_lines (lines : List HeaderLine) (found : Option (List Char)) (rest : Stream) :
    readHeader found (lines.flatMap HeaderLine.bytes ++ rest) =
      readHeader (lines.foldl (fun found line => (lengthIn line.text).or found) found) rest := by
  induction lines generalizing found with
  | nil => rfl
  | cons line lines ih =>
    have hvisible : ¬ (Text.trim (line.text ++ "\n").toList).isEmpty := by
      obtain ⟨c, hc, hblank⟩ := line.visible
      rw [List.isEmpty_iff, Text.trim_eq_nil]
      exact fun hall => hblank (hall c (by simp [hc]))
    rw [List.flatMap_cons, List.append_assoc, HeaderLine.bytes, readHeader_line line.single,
      if_neg hvisible, lengthIn_newline, ih, List.foldl_cons]

/-- Lines that give no length leave the one that was found. -/
theorem foldl_lengthIn_of_not {lines : List HeaderLine}
    (h : ∀ line ∈ lines, ∀ value, ¬ GivesLength line.text value) (found : Option (List Char)) :
    lines.foldl (fun found line => (lengthIn line.text).or found) found = found := by
  induction lines generalizing found with
  | nil => rfl
  | cons line lines ih =>
    rw [List.forall_mem_cons] at h
    have hnone : lengthIn line.text = none :=
      Option.eq_none_iff_forall_ne_some.mpr fun value hvalue =>
        h.1 value (lengthIn_eq_some.mp hvalue)
    rw [List.foldl_cons, hnone, Option.none_or, ih h.2]

/-! ## Frames -/

/-- A number in decimal digits, which may follow a plus sign. -/
def Decimal (value : List Char) (n : Nat) : Prop :=
  ∃ digits, digits ≠ [] ∧ (∀ c ∈ digits, c.isDigit) ∧ Nat.ofDigitChars 10 digits 0 = n ∧
    (value = digits ∨ value = '+' :: digits)

theorem parseLength_of_decimal {value : List Char} {n : Nat} (h : Decimal value n)
    (hsize : n < UInt64.size) : parseLength value = .ok n := by
  obtain ⟨digits, hne, hdigits, rfl, rfl | rfl⟩ := h
  · exact parseLength_digits hne hdigits hsize
  · obtain ⟨c, digits, rfl⟩ := List.exists_cons_of_ne_nil hne
    exact parseDigits_eq hdigits hsize

/-- A frame, however its header is spelled: of the lines that give a length the last one gives that
of the body, in decimal digits.  A body has at most `longestBody` bytes. -/
structure Spelled where
  before : List HeaderLine
  line : HeaderLine
  after : List HeaderLine
  blank : String
  body : Stream
  value : List Char
  gives : GivesLength line.text value
  decimal : Decimal value body.length
  last : ∀ other ∈ after, ∀ value, ¬ GivesLength other.text value
  blank_single : '\n' ∉ blank.toList
  blank_isBlank : ∀ c ∈ blank.toList, Text.isBlank c
  size : body.length ≤ longestBody

namespace Spelled

/-- The bytes of a frame: its header, a blank line and its body. -/
def bytes (frame : Spelled) : Stream :=
  (frame.before ++ frame.line :: frame.after).flatMap HeaderLine.bytes ++
    (Utf8.encode (frame.blank ++ "\n") ++ frame.body)

/-- What a frame is to be read as: the text that its body encodes, or an error if there is none. -/
inductive Yields (frame : Spelled) : Except Fault String → Prop where
  | text {text : String} (htext : Utf8.encode text = frame.body) : Yields frame (.ok text)
  | fault {fault : Utf8.Fault} (hnone : ∀ text, Utf8.encode text ≠ frame.body) :
      Yields frame (.error (.body fault))

/-- The header of a frame comes to the length of its body. -/
theorem readHeader_append (frame : Spelled) (rest : Stream) :
    readHeader none (frame.bytes ++ rest) = (.ok (some frame.value), frame.body ++ rest) := by
  have hblank : (Text.trim (frame.blank ++ "\n").toList).isEmpty := by
    rw [List.isEmpty_iff, Text.trim_eq_nil]
    intro c hc
    rw [String.toList_append, List.mem_append] at hc
    rcases hc with hc | hc
    · exact frame.blank_isBlank c hc
    · obtain rfl : c = '\n' := by simpa using hc
      decide
  rw [bytes, List.append_assoc, List.append_assoc, readHeader_lines, List.foldl_append,
    List.foldl_cons, lengthIn_eq_some.mpr frame.gives, Option.some_or,
    foldl_lengthIn_of_not frame.last, readHeader_line frame.blank_single, if_pos hblank]

/-- A body is read as a whole, be it a text or not. -/
theorem readBody_append (frame : Spelled) (rest : Stream) : ∃ outcome, frame.Yields outcome ∧
    readBody frame.body.length (frame.body ++ rest) = (outcome, rest) := by
  have hlong : ¬ (frame.body ++ rest).length < frame.body.length := by simp
  rw [readBody_of_le frame.size, if_neg hlong, List.take_left' rfl, List.drop_left' rfl]
  refine ⟨_, ?_, rfl⟩
  unfold decode
  cases hbody : Utf8.decode? frame.body with
  | some text => exact .text (Utf8.decode?_eq_some.mp hbody)
  | none =>
    refine .fault fun text htext => ?_
    cases hbody.symm.trans (Utf8.decode?_eq_some.mpr htext)

/-- Exactly the frame is taken off the stream. -/
theorem read_append (frame : Spelled) (rest : Stream) : ∃ outcome, frame.Yields outcome ∧
    read (frame.bytes ++ rest) = (outcome, rest) := by
  rw [read, frame.readHeader_append]
  dsimp only
  rw [parseLength_of_decimal frame.decimal (lt_size_of_le_longestBody frame.size)]
  exact frame.readBody_append rest

/-- A frame is taken off the stream as a whole and yields the text of its body, or an error if that
is no text.  Frame by frame, the next one is read behind it, whatever came of those before. -/
theorem readMany_append (frame : Spelled) (frames : List Spelled) (n : Nat) (rest : Stream) :
    (∃ outcome, frame.Yields outcome ∧ read (frame.bytes ++ rest) = (outcome, rest)) ∧
      ∃ outcomes, List.Forall₂ Yields frames outcomes ∧
        readMany (frames.length + n) (frames.flatMap bytes ++ rest) =
          outcomes ++ readMany n rest := by
  refine ⟨frame.read_append rest, ?_⟩
  induction frames with
  | nil => exact ⟨[], .nil, by rw [List.length_nil, Nat.zero_add]; rfl⟩
  | cons first frames ih =>
    obtain ⟨outcomes, hyields, hmany⟩ := ih
    obtain ⟨outcome, hfirst, hread⟩ := first.read_append (frames.flatMap bytes ++ rest)
    refine ⟨outcome :: outcomes, .cons hfirst hyields, ?_⟩
    rw [List.length_cons, Nat.add_right_comm, readMany, List.flatMap_cons, List.append_assoc, hread,
      hmany, List.cons_append]

/-- A header in capitals with a line that is no header, and with a length that does not count. -/
def oddly : Spelled where
  before := [⟨"content-length: 9", by decide, ⟨'9', by decide⟩⟩,
    ⟨"noise\r", by decide, ⟨'n', by decide⟩⟩]
  line := ⟨" CONTENT-Length: +02 \r", by decide, ⟨'2', by decide⟩⟩
  after := [⟨"X-Content-Length: 7", by decide, ⟨'7', by decide⟩⟩]
  blank := "\t\r"
  body := [255, 254]
  value := "+02".toList
  gives := ⟨"CONTENT-Length".toList, by decide, by decide⟩
  decimal := ⟨"02".toList, by decide, List.all_eq_true.mp rfl, by decide, .inr rfl⟩
  last := by
    intro other hother value hgives
    obtain rfl := List.mem_singleton.mp hother
    rw [← lengthIn_eq_some] at hgives
    cases hgives
  blank_single := by decide
  blank_isBlank := List.all_eq_true.mp rfl
  size := by decide

/-- The body is no text, and the next frame is read all the same. -/
example : readMany 2 (oddly.bytes ++ write "ok") =
    [.error (.body ⟨0, some 1⟩), .ok "ok"] := by
  decide +kernel

end Spelled
end Frame
end Refactoring
