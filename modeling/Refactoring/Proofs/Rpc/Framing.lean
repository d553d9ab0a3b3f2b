import Mathlib.Data.List.TakeWhile
import Refactoring.Proofs.Text.Encoding
import Refactoring.Rpc.Frame

/-!
# Frames are read as they were written

What `Frame.write` writes, `Frame.read` takes off the stream again, and no byte more.  If the stream
ends inside a frame there is nothing to be read but a fault: the header must be complete up to its
blank line, and then the whole body must be there.  Only a frame with an empty body could do
without its last byte, since a blank line need not end in a line feed.
-/

namespace Refactoring

/-! ## Blank lines -/

namespace Text

/-- Nothing is left of a text exactly if all of it can be dropped. -/
theorem stripBoth_eq_nil {p : Char → Bool} {text : List Char} :
    stripBoth p text = [] ↔ ∀ c ∈ text, p c := by
  unfold stripBoth
  rw [List.reverse_eq_nil_iff, List.dropWhile_eq_nil_iff]
  constructor
  · intro h c hc
    rw [← List.takeWhile_append_dropWhile (p := p) (l := text), List.mem_append] at hc
    rcases hc with hc | hc
    · exact List.mem_takeWhile_imp hc
    · exact h c (List.mem_reverse.mpr hc)
  · intro h c hc
    exact h c ((List.dropWhile_sublist p).subset (List.mem_reverse.mp hc))

/-- Nothing is left of a text exactly if it is blank. -/
theorem trim_eq_nil {text : List Char} : trim text = [] ↔ ∀ c ∈ text, isBlank c :=
  stripBoth_eq_nil

end Text

namespace Frame

/-! ## Lines -/

/-- A line ends behind its line feed. -/
theorem cutLine_append_newline {line : Stream} (h : 10 ∉ line) (rest : Stream) :
    cutLine (line ++ 10 :: rest) = (line ++ [10], rest) := by
  induction line with
  | nil => rfl
  | cons b line ih =>
    simp only [List.mem_cons, not_or] at h
    rw [List.cons_append, cutLine, if_neg (Ne.symm h.1), ih h.2]
    rfl

/-- Without a line feed the line is all there is. -/
theorem cutLine_eq_self {line : Stream} (h : 10 ∉ line) : cutLine line = (line, []) := by
  induction line with
  | nil => rfl
  | cons b line ih =>
    simp only [List.mem_cons, not_or] at h
    rw [cutLine, if_neg (Ne.symm h.1), ih h.2]

theorem decode_encode (text : String) : decode (Utf8.encode text) = .ok text := by
  rw [decode, Utf8.decode?_encode]

/-- Reading a header goes line by line. -/
theorem readHeader_of_cutLine {found : Option (List Char)} {stream behind : Stream} {line : String}
    (hne : stream ≠ []) (h : cutLine stream = (Utf8.encode line, behind)) :
    readHeader found stream =
      if (Text.trim line.toList).isEmpty then (.ok found, behind)
      else readHeader ((lengthIn line).or found) behind := by
  obtain ⟨b, rest, rfl⟩ := List.exists_cons_of_ne_nil hne
  rw [readHeader, h]
  simp only [decode_encode]

/-- A header line that has come in whole. -/
theorem readHeader_line {line : String} (h : '\n' ∉ line.toList) (found : Option (List Char))
    (rest : Stream) : readHeader found (Utf8.encode (line ++ "\n") ++ rest) =
      if (Text.trim (line ++ "\n").toList).isEmpty then (.ok found, rest)
      else readHeader ((lengthIn (line ++ "\n")).or found) rest := by
  have hn : 10 ∉ Utf8.encode line := fun hb => h (Utf8.newline_mem_encode.mp hb)
  have he : Utf8.encode (line ++ "\n") = Utf8.encode line ++ [10] := Utf8.encode_append line "\n"
  have hs : Utf8.encode (line ++ "\n") ++ rest = Utf8.encode line ++ 10 :: rest := by simp [he]
  refine readHeader_of_cutLine ?_ ?_
  · simp [he]
  · rw [hs, he, cutLine_append_newline hn]

/-- A header line that the stream cuts off: it counts if it is blank, and else something is
missing. -/
theorem readHeader_cut {line : String} (h : '\n' ∉ line.toList) (found : Option (List Char)) :
    readHeader found (Utf8.encode line) =
      if line ≠ "" ∧ (Text.trim line.toList).isEmpty then (.ok found, [])
      else (.error .closed, []) := by
  by_cases hline : line = ""
  · subst hline
    rw [if_neg (by simp), Utf8.encode_eq_nil.mpr rfl, readHeader]
  · have hn : 10 ∉ Utf8.encode line := fun hb => h (Utf8.newline_mem_encode.mp hb)
    rw [readHeader_of_cutLine (by rwa [ne_eq, Utf8.encode_eq_nil]) (cutLine_eq_self hn)]
    by_cases hb : (Text.trim line.toList).isEmpty
    · rw [if_pos hb, if_pos ⟨hline, hb⟩]
    · rw [if_neg hb, if_neg fun hb' => hb hb'.2, readHeader]

/-! ## Lengths -/

theorem toNat_of_mem_toDigits {n : Nat} {c : Char} (h : c ∈ Nat.toDigits 10 n) :
    48 ≤ c.toNat ∧ c.toNat ≤ 57 :=
  Char.isDigit_iff_toNat.mp (Nat.isDigit_of_mem_toDigits (by decide) (by decide) h)

/-- More digits make no smaller number. -/
theorem le_ofDigitChars (digits : List Char) (n : Nat) : n ≤ Nat.ofDigitChars 10 digits n := by
  rw [Nat.ofDigitChars_eq_ofDigitChars_zero]
  have hpow : 0 < 10 ^ digits.length := Nat.pow_pos (by decide)
  exact le_trans (Nat.le_mul_of_pos_left n hpow) (Nat.le_add_right _ _)

/-- Digits stand for their number, if it fits into 64 bits. -/
theorem parseDigits_eq {digits : List Char} (hd : ∀ c ∈ digits, c.isDigit) {n : Nat}
    (hlt : Nat.ofDigitChars 10 digits n < UInt64.size) :
    parseDigits n digits = .ok (Nat.ofDigitChars 10 digits n) := by
  induction digits generalizing n with
  | nil => rw [parseDigits, Nat.ofDigitChars_nil]
  | cons c rest ih =>
    have hc : '0' ≤ c ∧ c ≤ '9' := by simpa [Char.isDigit, Char.le_def] using hd c (by simp)
    rw [Nat.ofDigitChars_cons] at hlt ⊢
    have hnext : 10 * n + (c.toNat - 48) < UInt64.size :=
      lt_of_le_of_lt (le_ofDigitChars rest _) hlt
    rw [parseDigits, if_neg (by simpa using hc)]
    dsimp only
    rw [if_pos hnext]
    exact ih (fun d hd' => hd d (by simp [hd'])) hlt

/-- Digits are read as the length that they stand for. -/
theorem parseLength_digits {digits : List Char} (hne : digits ≠ []) (hd : ∀ c ∈ digits, c.isDigit)
    (hlt : Nat.ofDigitChars 10 digits 0 < UInt64.size) :
    parseLength digits = .ok (Nat.ofDigitChars 10 digits 0) := by
  unfold parseLength
  split
  · -- A plus sign is no digit.
    exact absurd (hd '+' List.mem_cons_self) (by decide)
  · exact absurd rfl hne
  · exact parseDigits_eq hd hlt

/-- A length is read as it was written. -/
theorem parseLength_toDigits {n : Nat} (h : n < UInt64.size) :
    parseLength (Nat.toDigits 10 n) = .ok n := by
  have hd : ∀ c ∈ Nat.toDigits 10 n, c.isDigit := fun c hc =>
    Nat.isDigit_of_mem_toDigits (by decide) (by decide) hc
  have hparse := parseLength_digits Nat.toDigits_ne_nil hd (by rwa [Nat.ofDigitChars_ten_toDigits])
  rwa [Nat.ofDigitChars_ten_toDigits] at hparse

/-- The length of a body in memory can be read. -/
theorem lt_size_of_le_longestBody {n : Nat} (h : n ≤ longestBody) : n < UInt64.size :=
  lt_of_le_of_lt h (by decide)

/-- A body that can be in memory is read if it is there, and else it is cut off. -/
theorem readBody_of_le {n : Nat} (h : n ≤ longestBody) (stream : Stream) :
    readBody n stream = if stream.length < n then (.error .cut, [])
      else ((decode (stream.take n)).mapError .body, stream.drop n) :=
  if_neg (Nat.not_lt_of_ge h)

/-! ## Frames -/

/-- The header line that gives a length, without its line feed. -/
def lengthLine (n : Nat) : String := "Content-Length: " ++ toString n ++ "\r"

/-- A frame is a line with the length, a blank line, and the body. -/
theorem write_eq (content : String) :
    write content = Utf8.encode (lengthLine (Utf8.encode content).length ++ "\n") ++
      (Utf8.encode ("\r" ++ "\n") ++ Utf8.encode content) := by
  rw [← List.append_assoc, ← Utf8.encode_append]
  unfold write lengthLine
  dsimp only
  congr 2
  simp only [String.append_assoc]
  rfl

theorem toList_lengthLine (n : Nat) :
    (lengthLine n).toList = "Content-Length: ".toList ++ (Nat.toDigits 10 n ++ ['\r']) := by
  have hline : lengthLine n = "Content-Length: " ++ toString n ++ "\r" := rfl
  rw [hline]
  simp

theorem newline_not_mem_lengthLine (n : Nat) : '\n' ∉ (lengthLine n).toList := by
  rw [toList_lengthLine]
  simp only [List.mem_append, List.mem_singleton, not_or]
  refine ⟨by decide, ?_, by decide⟩
  intro h
  exact absurd (toNat_of_mem_toDigits h) (by decide)

/-- All characters of the line are their own bytes. -/
theorem lt_of_mem_lengthLine {n : Nat} {c : Char} (h : c ∈ (lengthLine n).toList) :
    c.toNat < 128 := by
  rw [toList_lengthLine, List.mem_append, List.mem_append] at h
  rcases h with h | h | h
  · have hall : "Content-Length: ".toList.all fun c => c.toNat < 128 := by decide
    simpa using List.all_eq_true.mp hall c h
  · have := toNat_of_mem_toDigits h
    omega
  · obtain rfl : c = '\r' := by simpa using h
    decide

/-- Without the line end, the line is the name of the header and the digits. -/
theorem trim_lengthLine (n : Nat) : Text.trim (lengthLine n ++ "\n").toList =
    "Content-Length: ".toList ++ Nat.toDigits 10 n := by
  obtain ⟨front, last, hdigits⟩ : ∃ front last, Nat.toDigits 10 n = front ++ [last] :=
    ⟨_, _, (List.dropLast_concat_getLast Nat.toDigits_ne_nil).symm⟩
  have hlast : Text.isBlank last = false := by
    have := toNat_of_mem_toDigits (n := n) (c := last) (by simp [hdigits])
    unfold Text.isBlank
    grind
  have hend : Text.isBlank '\r' = true ∧ Text.isBlank '\n' = true := by decide
  -- The line begins with a letter, so that nothing is dropped in front.
  have hfront : ("Content-Length: ".toList ++ (Nat.toDigits 10 n ++ ['\r']) ++
      "\n".toList).dropWhile Text.isBlank =
        "Content-Length: ".toList ++ (Nat.toDigits 10 n ++ ['\r']) ++ "\n".toList := rfl
  rw [String.toList_append, toList_lengthLine, Text.trim, Text.stripBoth, hfront, hdigits]
  simp [hlast, hend.1, hend.2]

theorem lengthIn_lengthLine (n : Nat) :
    lengthIn (lengthLine n ++ "\n") = some (Nat.toDigits 10 n) := by
  have hs : Text.splitOnce ": ".toList ("Content-Length: ".toList ++ Nat.toDigits 10 n) =
      some ("Content-Length".toList, Nat.toDigits 10 n) := by
    rfl
  rw [lengthIn, trim_lengthLine, hs]
  rfl

/-- Behind the line with the length, the header goes on with that length. -/
theorem readHeader_lengthLine (n : Nat) (rest : Stream) :
    readHeader none (Utf8.encode (lengthLine n ++ "\n") ++ rest) =
      readHeader (some (Nat.toDigits 10 n)) rest := by
  rw [readHeader_line (newline_not_mem_lengthLine n), trim_lengthLine, lengthIn_lengthLine]
  rfl

/-- A blank line ends the header. -/
theorem readHeader_blankLine (found : Option (List Char)) (rest : Stream) :
    readHeader found (Utf8.encode ("\r" ++ "\n") ++ rest) = (.ok found, rest) := by
  rw [readHeader_line (by decide), if_pos (by decide)]

/-- Reading takes one frame off the stream. -/
theorem read_write_append {content : String} (h : (Utf8.encode content).length ≤ longestBody)
    (rest : Stream) : read (write content ++ rest) = (.ok content, rest) := by
  rw [write_eq, List.append_assoc, List.append_assoc, read, readHeader_lengthLine,
    readHeader_blankLine]
  simp only [parseLength_toDigits (lt_size_of_le_longestBody h)]
  rw [readBody_of_le h, if_neg (by simp), List.take_left', List.drop_left', decode_encode]
  · rfl
  · rfl
  · rfl

/-! ## Frames that are cut off -/

/-- A stream that ends within or behind a line. -/
theorem prefix_line {line : String} (h : ∀ c ∈ line.toList, c.toNat < 128) {rest p : Stream}
    (hp : p <+: Utf8.encode (line ++ "\n") ++ rest) :
    (∃ front, front <+: line.toList ∧ p = Utf8.encode (String.ofList front)) ∨
      ∃ q, q <+: rest ∧ p = Utf8.encode (line ++ "\n") ++ q := by
  rcases List.prefix_or_prefix_of_prefix hp (List.prefix_append _ rest) with hl | ⟨q, rfl⟩
  · have he : Utf8.encode (line ++ "\n") = Utf8.encode line ++ [10] := Utf8.encode_append line "\n"
    rw [he, List.prefix_concat_iff] at hl
    rcases hl with rfl | hl
    · exact .inr ⟨[], List.nil_prefix, by simp [he]⟩
    · rw [← String.ofList_toList (s := line)] at hl
      exact .inl (Utf8.exists_of_prefix_encode h hl)
  · exact .inr ⟨q, (List.prefix_append_right_inj _).mp hp, rfl⟩

/-- A stream that ends inside the line with the length has no header. -/
theorem readHeader_cut_lengthLine {n : Nat} {front : List Char}
    (h : front <+: (lengthLine n).toList) :
    readHeader none (Utf8.encode (String.ofList front)) = (.error .closed, []) := by
  have hn : '\n' ∉ (String.ofList front).toList := by
    rw [String.toList_ofList]
    exact fun hc => newline_not_mem_lengthLine n (h.subset hc)
  rw [readHeader_cut hn, if_neg]
  rintro ⟨hne, hblank⟩
  rw [String.toList_ofList, List.isEmpty_iff, Text.trim_eq_nil] at hblank
  cases front with
  | nil => exact hne rfl
  | cons c front =>
    rw [toList_lengthLine] at h
    obtain rfl : c = 'C' := (List.cons_prefix_cons.mp h).1
    exact absurd (hblank 'C' (by simp)) (by decide)

/-- A frame that is cut off is not read, and nothing is left behind it. -/
theorem read_of_cut {content : String} (hne : content ≠ "")
    (hsize : (Utf8.encode content).length ≤ longestBody) {p : Stream} (hp : p <+: write content)
    (hcut : p ≠ write content) : ∃ fault, read p = (.error fault, []) := by
  have hpos : 0 < (Utf8.encode content).length := by
    rw [List.length_pos_iff, ne_eq, Utf8.encode_eq_nil]
    exact hne
  -- Whatever there is of the body is too little.
  have hshort (found : Stream) (hf : found.length < (Utf8.encode content).length) :
      readBody (Utf8.encode content).length found = (.error .cut, []) := by
    rw [readBody_of_le hsize, if_pos hf]
  rw [write_eq] at hp hcut
  rcases prefix_line (fun c => lt_of_mem_lengthLine) hp with ⟨front, hf, rfl⟩ | ⟨q, hq, rfl⟩
  · exact ⟨.closed, by rw [read, readHeader_cut_lengthLine hf]⟩
  · rw [read, readHeader_lengthLine]
    have hreturn : ∀ c ∈ "\r".toList, c.toNat < 128 := by
      intro c hc
      obtain rfl : c = '\r' := by simpa using hc
      decide
    rcases prefix_line hreturn hq with ⟨front, hf, rfl⟩ | ⟨r, hr, rfl⟩
    · have hn : '\n' ∉ (String.ofList front).toList := by
        rw [String.toList_ofList]
        exact fun hc => absurd (hf.subset hc) (by decide)
      rw [readHeader_cut hn]
      by_cases hblank : String.ofList front ≠ "" ∧ (Text.trim (String.ofList front).toList).isEmpty
      · -- A carriage return alone ends the header as well, but the body is missing.
        rw [if_pos hblank]
        simp only [parseLength_toDigits (lt_size_of_le_longestBody hsize)]
        exact ⟨.cut, hshort [] hpos⟩
      · rw [if_neg hblank]
        exact ⟨.closed, rfl⟩
    · rw [readHeader_blankLine]
      simp only [parseLength_toDigits (lt_size_of_le_longestBody hsize)]
      refine ⟨.cut, hshort r ?_⟩
      refine lt_of_le_of_ne hr.length_le ?_
      intro hlength
      exact hcut (by rw [hr.eq_of_length hlength])

/-- Nothing can be read where nothing is left. -/
theorem read_nil : read [] = (.error .closed, []) := by
  rw [read, readHeader]

/-- At the end of a stream, every attempt to read ends in a fault. -/
theorem readMany_nil (n : Nat) : readMany n [] = List.replicate n (.error .closed) := by
  induction n with
  | zero => rfl
  | succ n ih => rw [readMany, read_nil, ih, List.replicate_succ]

/-! ## Lengths that no body can have -/

theorem readHeader_ne_bodyTooLarge (found : Option (List Char)) (stream : Stream) :
    (readHeader found stream).1 ≠ .error .bodyTooLarge := by
  fun_induction readHeader found stream with
  | case1 => simp
  | case2 => simp
  | case3 => simp
  | case4 found b rest line behind text hdecode hblank ih => exact ih

theorem parseDigits_ne_bodyTooLarge (n : Nat) (digits : List Char) :
    parseDigits n digits ≠ .error .bodyTooLarge := by
  fun_induction parseDigits n digits with
  | case1 => simp
  | case2 => simp
  | case3 n c rest hdigit next hfits ih => exact ih
  | case4 => simp

theorem parseLength_ne_bodyTooLarge (text : List Char) :
    parseLength text ≠ .error .bodyTooLarge := by
  unfold parseLength
  split
  · exact parseDigits_ne_bodyTooLarge 0 _
  · simp
  · exact parseDigits_ne_bodyTooLarge 0 _

theorem readBody_eq_bodyTooLarge_iff {length : Nat} {stream rest : Stream} :
    readBody length stream = (.error .bodyTooLarge, rest) ↔
      longestBody < length ∧ stream = rest := by
  by_cases hlarge : longestBody < length
  · simp [readBody, hlarge]
  · rw [readBody_of_le (Nat.le_of_not_gt hlarge)]
    split
    · simp [hlarge]
    · cases decode (stream.take length) <;> simp [hlarge, Except.mapError]

/-- Reading ends in a length that no body in memory can have exactly if a header gives one, and
nothing is read behind the header then. -/
theorem read_eq_bodyTooLarge_iff {stream rest : Stream} :
    read stream = (.error .bodyTooLarge, rest) ↔ ∃ digits length,
      readHeader none stream = (.ok (some digits), rest) ∧ parseLength digits = .ok length ∧
        longestBody < length := by
  constructor
  · intro h
    rw [read] at h
    split at h
    · rename_i fault behind hheader
      obtain rfl : fault = .bodyTooLarge := Except.error.inj (Prod.mk.inj h).1
      exact absurd (congrArg Prod.fst hheader) (readHeader_ne_bodyTooLarge none stream)
    · cases h
    · rename_i digits behind hheader
      split at h
      · rename_i fault hfault
        obtain rfl : fault = .bodyTooLarge := Except.error.inj (Prod.mk.inj h).1
        exact absurd hfault (parseLength_ne_bodyTooLarge digits)
      · rename_i length hlength
        obtain ⟨hlarge, rfl⟩ := readBody_eq_bodyTooLarge_iff.mp h
        exact ⟨digits, length, hheader, hlength, hlarge⟩
  · rintro ⟨digits, length, hheader, hlength, hlarge⟩
    rw [read, hheader]
    dsimp only
    rw [hlength]
    exact readBody_eq_bodyTooLarge_iff.mpr ⟨hlarge, rfl⟩

/-! ## Streams of frames -/

/-- Reading goes through the frames one by one. -/
theorem readMany_write_append {content : String}
    (h : (Utf8.encode content).length ≤ longestBody) (n : Nat) (rest : Stream) :
    readMany (n + 1) (write content ++ rest) = .ok content :: readMany n rest := by
  rw [readMany, read_write_append h]

/-- Let several contents be written as frames one after the other, none of them empty, and let the
stream end anywhere, in a frame or behind one.  Then for the number `k` of frames that are there in
full, reading yields these `k` contents as they were written, and after that every attempt to read
ends in a fault.  A body must not have more than `longestBody` bytes, and no text in memory has. -/
theorem readMany_prefix {contents : List String} (hne : ∀ content ∈ contents, content ≠ "")
    (hsize : ∀ content ∈ contents, (Utf8.encode content).length ≤ longestBody) {p : Stream}
    (hp : p <+: contents.flatMap write) :
    ∃ k ≤ contents.length,
      (∀ j ≤ contents.length, ((contents.take j).flatMap write).length ≤ p.length ↔ j ≤ k) ∧
      ∀ n, ∃ faults : List Fault, faults.length = n ∧
        readMany (k + n) p = (contents.take k).map .ok ++ faults.map .error := by
  induction contents generalizing p with
  | nil =>
    obtain rfl : p = [] := List.prefix_nil.mp hp
    refine ⟨0, le_rfl, ?_, ?_⟩
    · intro j hj
      simpa using hj
    · intro n
      refine ⟨List.replicate n .closed, List.length_replicate, ?_⟩
      rw [Nat.zero_add, readMany_nil, List.map_replicate]
      rfl
  | cons content contents ih =>
    have hs := hsize content (by simp)
    have hlater : ∀ other ∈ contents, other ≠ "" ∧ (Utf8.encode other).length ≤ longestBody :=
      fun other ho => ⟨hne other (by simp [ho]), hsize other (by simp [ho])⟩
    rw [List.flatMap_cons] at hp
    by_cases hwhole : write content <+: p
    · -- The first frame is there, and the claim for the rest counts the others.
      obtain ⟨q, rfl⟩ := hwhole
      have hq : q <+: contents.flatMap write := (List.prefix_append_right_inj _).mp hp
      obtain ⟨k, hk, hin, hread⟩ :=
        ih (fun other ho => (hlater other ho).1) (fun other ho => (hlater other ho).2) hq
      refine ⟨k + 1, by simpa using hk, ?_, ?_⟩
      · intro j hj
        cases j with
        | zero => simp
        | succ j =>
          have := hin j (by simpa using hj)
          simp only [List.take_succ_cons, List.flatMap_cons, List.length_append]
          omega
      · intro n
        obtain ⟨faults, hlength, heq⟩ := hread n
        refine ⟨faults, hlength, ?_⟩
        rw [Nat.add_right_comm, readMany_write_append hs, heq]
        rfl
    · -- The stream ends inside the first frame.
      have hcut : p <+: write content :=
        (List.prefix_or_prefix_of_prefix hp (List.prefix_append _ _)).resolve_right hwhole
      have hpne : p ≠ write content := fun h => hwhole (h ▸ List.prefix_refl _)
      have hlt : p.length < (write content).length :=
        lt_of_le_of_ne hcut.length_le fun h => hpne (hcut.eq_of_length h)
      obtain ⟨fault, hfault⟩ := read_of_cut (hne content (by simp)) hs hcut hpne
      refine ⟨0, Nat.zero_le _, ?_, ?_⟩
      · intro j _
        cases j with
        | zero => simp
        | succ j =>
          simp only [List.take_succ_cons, List.flatMap_cons, List.length_append]
          omega
      · intro n
        cases n with
        | zero => exact ⟨[], rfl, rfl⟩
        | succ n =>
          refine ⟨fault :: List.replicate n .closed, by simp, ?_⟩
          rw [Nat.zero_add, readMany, hfault, readMany_nil]
          simp

/-- A text that looks like a frame itself, behind a text with a line break and a character of two
bytes. -/
def lookalikes : List String := ["é\n", "Content-Length: 2\r\n\r\n[]"]

/-- Of two frames the second lacks its last byte. -/
theorem readMany_prefix_lookalikes :
    (∀ content ∈ lookalikes, content ≠ "") ∧
      (∀ content ∈ lookalikes, (Utf8.encode content).length ≤ longestBody) ∧
      (lookalikes.flatMap write).dropLast <+: lookalikes.flatMap write ∧
      ∃ k ≤ lookalikes.length,
        (∀ j ≤ lookalikes.length, ((lookalikes.take j).flatMap write).length ≤
          (lookalikes.flatMap write).dropLast.length ↔ j ≤ k) ∧
        ∀ n, ∃ faults : List Fault, faults.length = n ∧
          readMany (k + n) (lookalikes.flatMap write).dropLast =
            (lookalikes.take k).map .ok ++ faults.map .error := by
  have hne : ∀ content ∈ lookalikes, content ≠ "" := by decide
  have hshort : ∀ content ∈ lookalikes, (Utf8.encode content).length < 100 := by decide
  have hsize : ∀ content ∈ lookalikes, (Utf8.encode content).length ≤ longestBody :=
    fun content hc => le_trans (hshort content hc).le (by decide)
  have hp : (lookalikes.flatMap write).dropLast <+: lookalikes.flatMap write :=
    List.dropLast_prefix _
  exact ⟨hne, hsize, hp, readMany_prefix hne hsize hp⟩

end Frame
end Refactoring
