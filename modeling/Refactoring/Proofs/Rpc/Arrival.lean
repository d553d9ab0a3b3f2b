import Mathlib.Data.List.Forall2
import Refactoring.Proofs.Rpc.Framing

/-!
# Frames arrive in pieces

A stream comes in piece by piece, and a piece can end anywhere.  What has come in decides the next
frame as soon as nothing of it is missing, and from then on more bytes change nothing about it.  A
stream of frames therefore comes apart into the same frames wherever it is cut.
-/

namespace Refactoring.Frame

/-! ## More bytes -/

/-- A line that has its line feed does not grow. -/
theorem cutLine_append_of_ended {stream : Stream} (h : (cutLine stream).1.getLast? = some 10)
    (more : Stream) :
    cutLine (stream ++ more) = ((cutLine stream).1, (cutLine stream).2 ++ more) := by
  induction stream with
  | nil => cases h
  | cons b rest ih =>
    rw [List.cons_append]
    unfold cutLine at h ⊢
    split at h
    · rename_i hb
      rw [if_pos hb, if_pos hb]
    · rename_i hb
      have hline : (cutLine rest).1.getLast? = some 10 := by
        rw [List.getLast?_cons] at h
        cases hlast : (cutLine rest).1.getLast? with
        | none =>
          rw [hlast] at h
          exact absurd (Option.some.inj h) hb
        | some last =>
          rw [hlast] at h
          exact h
      rw [if_neg hb, if_neg hb, ih hline]

/-- The case that a header has arrived: its first line has, and unless this line decides it, so has
the rest. -/
theorem headerArrived_cons {b : UInt8} {rest : Stream} :
    headerArrived (b :: rest) = true ↔ (cutLine (b :: rest)).1.getLast? = some 10 ∧
      ∀ text, decode (cutLine (b :: rest)).1 = .ok text →
        (Text.trim text.toList).isEmpty = false →
        headerArrived (cutLine (b :: rest)).2 = true := by
  rw [headerArrived]
  by_cases hline : (cutLine (b :: rest)).1.getLast? = some 10
  · rw [if_neg (not_not.mpr hline)]
    cases hdecode : decode (cutLine (b :: rest)).1 with
    | error fault => simp [hline]
    | ok text =>
      simp only [hline, Bool.or_eq_true, true_and, Except.ok.injEq, forall_eq']
      cases (Text.trim text.toList).isEmpty <;> simp
  · rw [if_pos hline]
    simp [hline]

theorem headerArrived_append {stream : Stream} (h : headerArrived stream = true) (more : Stream) :
    headerArrived (stream ++ more) = true := by
  induction hn : stream.length using Nat.strong_induction_on generalizing stream with
  | _ n ih =>
    cases stream with
    | nil => simp [headerArrived] at h
    | cons b rest =>
      obtain ⟨hline, hbehind⟩ := headerArrived_cons.mp h
      have hcut := cutLine_append_of_ended hline more
      rw [List.cons_append] at hcut ⊢
      rw [headerArrived_cons, hcut]
      refine ⟨hline, fun text htext hblank => ?_⟩
      exact ih _ (hn ▸ length_cutLine_lt b rest) (hbehind text htext hblank) rfl

/-- A header that has arrived is read whatever follows. -/
theorem readHeader_append {stream : Stream} (h : headerArrived stream = true)
    (found : Option (List Char)) (more : Stream) :
    readHeader found (stream ++ more) =
      ((readHeader found stream).1, (readHeader found stream).2 ++ more) := by
  induction hn : stream.length using Nat.strong_induction_on generalizing stream found with
  | _ n ih =>
    cases stream with
    | nil => simp [headerArrived] at h
    | cons b rest =>
      obtain ⟨hline, hbehind⟩ := headerArrived_cons.mp h
      have hcut := cutLine_append_of_ended hline more
      rw [List.cons_append] at hcut ⊢
      rw [readHeader, readHeader, hcut]
      dsimp only
      cases htext : decode (cutLine (b :: rest)).1 with
      | error fault => rfl
      | ok text =>
        dsimp only
        cases hblank : (Text.trim text.toList).isEmpty with
        | true => rfl
        | false => exact ih _ (hn ▸ length_cutLine_lt b rest) (hbehind text htext hblank) _ rfl

/-- Nothing is missing of a frame when its header has arrived and, if this gives a length that a body
can have, the body as well. -/
theorem missing_eq_zero_iff {stream : Stream} :
    missing stream = 0 ↔ headerArrived stream = true ∧
      ∀ digits, (readHeader none stream).1 = .ok (some digits) →
        ∀ length, parseLength digits = .ok length → length ≤ longestBody →
          length ≤ (readHeader none stream).2.length := by
  rw [missing]
  cases harrived : headerArrived stream with
  | false => simp
  | true =>
    rcases hheader : readHeader none stream with ⟨found, rest⟩
    cases found with
    | error fault => simp
    | ok found =>
      cases found with
      | none => simp
      | some digits =>
        cases hlength : parseLength digits with
        | error fault => simp [hlength]
        | ok length =>
          by_cases hlarge : longestBody < length
          · simp [hlength, hlarge, Nat.not_le_of_gt hlarge]
          · simp [hlength, hlarge, Nat.le_of_not_gt hlarge, Nat.sub_eq_zero_iff_le]

theorem missing_nil : missing [] ≠ 0 := by
  simp [missing_eq_zero_iff, headerArrived]

/-- A frame that is decided stays so. -/
theorem missing_append {stream : Stream} (h : missing stream = 0) (more : Stream) :
    missing (stream ++ more) = 0 := by
  obtain ⟨harrived, hbody⟩ := missing_eq_zero_iff.mp h
  rw [missing_eq_zero_iff, readHeader_append harrived]
  refine ⟨headerArrived_append harrived more, fun digits hdigits length hlength hle => ?_⟩
  rw [List.length_append]
  exact Nat.le_add_right_of_le (hbody digits hdigits length hlength hle)

/-- A frame that is decided is read whatever follows. -/
theorem read_append {stream : Stream} (h : missing stream = 0) (more : Stream) :
    read (stream ++ more) = ((read stream).1, (read stream).2 ++ more) := by
  obtain ⟨harrived, hbody⟩ := missing_eq_zero_iff.mp h
  rw [read, read, readHeader_append harrived]
  rcases hheader : readHeader none stream with ⟨found, rest⟩
  cases found with
  | error fault => rfl
  | ok found =>
    cases found with
    | none => rfl
    | some digits =>
      dsimp only
      cases hlength : parseLength digits with
      | error fault => rfl
      | ok length =>
        dsimp only
        by_cases hlarge : longestBody < length
        · rw [readBody, readBody, if_pos hlarge, if_pos hlarge]
        · have hsize : length ≤ longestBody := Nat.le_of_not_gt hlarge
          have hle : length ≤ rest.length := by
            rw [hheader] at hbody
            exact hbody digits rfl length hlength hsize
          rw [readBody_of_le hsize, readBody_of_le hsize,
            if_neg (by rw [List.length_append]; omega), if_neg (by omega),
            List.take_append_of_le_length hle, List.drop_append_of_le_length hle]

/-! ## Frames -/

/-- These bytes are one frame with this content, whatever its header says besides the length. -/
structure Holds (frame : Stream) (content : String) : Prop where
  decided : missing frame = 0
  read : read frame = (.ok content, [])

theorem headerArrived_line {line : String} (h : '\n' ∉ line.toList) {rest : Stream}
    (hrest : (Text.trim (line ++ "\n").toList).isEmpty = false → headerArrived rest = true) :
    headerArrived (Utf8.encode (line ++ "\n") ++ rest) = true := by
  have hn : 10 ∉ Utf8.encode line := fun hb => h (Utf8.newline_mem_encode.mp hb)
  have he : Utf8.encode (line ++ "\n") = Utf8.encode line ++ [10] := Utf8.encode_append line "\n"
  have hcut : cutLine (Utf8.encode (line ++ "\n") ++ rest) = (Utf8.encode (line ++ "\n"), rest) := by
    rw [he, List.append_assoc, List.singleton_append, cutLine_append_newline hn]
  obtain ⟨b, behind, hs⟩ : ∃ b behind, Utf8.encode (line ++ "\n") ++ rest = b :: behind :=
    List.exists_cons_of_ne_nil (by simp [he])
  rw [hs] at hcut ⊢
  rw [headerArrived_cons, hcut]
  refine ⟨by simp [he], fun text htext hblank => hrest ?_⟩
  rw [decode_encode] at htext
  cases htext
  exact hblank

/-- What is written is a frame. -/
theorem holds_write {content : String} (h : (Utf8.encode content).length ≤ longestBody) :
    Holds (write content) content where
  decided := by
    have harrived : headerArrived (write content) = true := by
      rw [write_eq]
      refine headerArrived_line (newline_not_mem_lengthLine _) fun _ => ?_
      exact headerArrived_line (by decide) fun hblank => absurd hblank (by decide)
    have hheader : readHeader none (write content) =
        (.ok (some (Nat.toDigits 10 (Utf8.encode content).length)), Utf8.encode content) := by
      rw [write_eq, readHeader_lengthLine, readHeader_blankLine]
    rw [missing_eq_zero_iff, hheader]
    refine ⟨harrived, fun digits hdigits length hlength _ => ?_⟩
    cases hdigits
    rw [parseLength_toDigits (lt_size_of_le_longestBody h)] at hlength
    cases hlength
    exact Nat.le_refl _
  read := by simpa using read_write_append h []

namespace Holds

variable {frame p rest : Stream} {content : String}

theorem ne_nil (h : Holds frame content) : frame ≠ [] := by
  rintro rfl
  exact missing_nil h.decided

theorem read_append (h : Holds frame content) (rest : Stream) :
    Frame.read (frame ++ rest) = (.ok content, rest) := by
  rw [Frame.read_append h.decided, h.read]
  rfl

/-- A frame is not decided before its last byte. -/
theorem missing_of_prefix (h : Holds frame content) (hp : p <+: frame) (hne : p ≠ frame) :
    missing p ≠ 0 := by
  intro hdecided
  obtain ⟨more, rfl⟩ := hp
  have hread := h.read
  rw [Frame.read_append hdecided, Prod.mk.injEq, List.append_eq_nil_iff] at hread
  exact hne (by rw [hread.2.2, List.append_nil])

end Holds

/-- Every frame takes a byte at least. -/
theorem length_le_length_flatten {frames : List Stream} {contents : List String}
    (h : List.Forall₂ Holds frames contents) : frames.length ≤ frames.flatten.length := by
  induction h with
  | nil => exact Nat.le_refl _
  | cons hframe _ ih =>
    have := List.length_pos_iff.mpr hframe.ne_nil
    rw [List.length_cons, List.flatten_cons, List.length_append]
    omega

/-- A stream of frames that ends anywhere is made of the first of the frames and of the beginning of
another one. -/
theorem exists_cut {frames : List Stream} {contents : List String}
    (h : List.Forall₂ Holds frames contents) {cut p : Stream} (hcut : missing cut ≠ 0)
    (hp : p <+: frames.flatten ++ cut) :
    ∃ k cut', p = (frames.take k).flatten ++ cut' ∧ missing cut' ≠ 0 := by
  induction h generalizing p with
  | nil =>
    refine ⟨0, p, rfl, fun hdecided => hcut ?_⟩
    obtain ⟨more, hmore⟩ := hp
    rw [← show p ++ more = cut from hmore]
    exact missing_append hdecided more
  | @cons frame content frames contents hframe _ ih =>
    rw [List.flatten_cons, List.append_assoc] at hp
    by_cases hwhole : frame <+: p
    · obtain ⟨q, rfl⟩ := hwhole
      obtain ⟨k, cut', rfl, hmissing⟩ := ih ((List.prefix_append_right_inj _).mp hp)
      exact ⟨k + 1, cut', by simp, hmissing⟩
    · have hinside : p <+: frame :=
        (List.prefix_or_prefix_of_prefix hp (List.prefix_append _ _)).resolve_right hwhole
      exact ⟨0, p, rfl, hframe.missing_of_prefix hinside fun heq => hwhole (heq ▸ List.prefix_rfl)⟩

end Refactoring.Frame
