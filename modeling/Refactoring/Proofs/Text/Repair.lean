import Mathlib.Tactic.SplitIfs
import Refactoring.Proofs.Text.Encoding

/-!
# Texts need no repair

The bytes of a text are taken for whole characters, one after the other.  So nothing in them is
replaced when they are shown, and texts with different bytes are shown differently.
-/

namespace Refactoring.Utf8

theorem isContinuation_iff {b : UInt8} : isContinuation b ↔ 128 ≤ b.toNat ∧ b.toNat ≤ 191 := by
  simp [isContinuation, UInt8.le_iff_toNat_le]

theorem width?_eq (b : UInt8) : width? b =
    if b.toNat < 128 then some 1 else if 194 ≤ b.toNat ∧ b.toNat ≤ 223 then some 2
    else if 224 ≤ b.toNat ∧ b.toNat ≤ 239 then some 3
    else if 240 ≤ b.toNat ∧ b.toNat ≤ 244 then some 4 else none := by
  simp [width?, UInt8.le_iff_toNat_le, UInt8.lt_iff_toNat_lt]

theorem mayFollow_iff {a b : UInt8} : mayFollow a b ↔
    (if a.toNat = 224 then 160 else if a.toNat = 240 then 144 else 128) ≤ b.toNat ∧
      b.toNat ≤ if a.toNat = 237 then 159 else if a.toNat = 244 then 143 else 191 := by
  have hlit (n : Nat) (hn : n < 256) : a = UInt8.ofNat n ↔ a.toNat = n := by
    rw [← UInt8.toNat_inj, UInt8.toNat_ofNat', Nat.mod_eq_of_lt hn]
  have h224 : a = 0xE0 ↔ a.toNat = 224 := hlit 224 (by decide)
  have h237 : a = 0xED ↔ a.toNat = 237 := hlit 237 (by decide)
  have h240 : a = 0xF0 ↔ a.toNat = 240 := hlit 240 (by decide)
  have h244 : a = 0xF4 ↔ a.toNat = 244 := hlit 244 (by decide)
  simp only [mayFollow, h224, h237, h240, h244, apply_ite (· = true), isContinuation_iff,
    Bool.and_eq_true, decide_eq_true_eq, UInt8.le_iff_toNat_le]
  split_ifs <;> simp_all

theorem continued_of_isContinuation {more : List UInt8} (hmore : ∀ b ∈ more, isContinuation b)
    (seen : Nat) (rest : List UInt8) :
    continued seen more.length (more ++ rest) = .whole (seen + more.length) := by
  induction more generalizing seen with
  | nil => rfl
  | cons b more ih =>
    rw [List.length_cons, List.cons_append, continued, if_pos (hmore b List.mem_cons_self),
      ih fun b hb => hmore b (List.mem_cons_of_mem _ hb)]
    congr 1
    omega

theorem head_of_width? {first second : UInt8} {more : List UInt8}
    (hwidth : width? first = some (more.length + 2)) (hsecond : mayFollow first second)
    (hmore : ∀ b ∈ more, isContinuation b) (rest : List UInt8) :
    head first (second :: more ++ rest) = .whole (more.length + 2) := by
  have hlength : Head.whole (2 + more.length) = .whole (more.length + 2) := by
    rw [Nat.add_comm]
  rw [head, hwidth]
  change (if mayFollow first second then continued 2 more.length (more ++ rest) else _) = _
  rw [if_pos hsecond, continued_of_isContinuation hmore, hlength]

/-- The bytes of a character are taken for a whole character, whatever follows. -/
theorem head_utf8EncodeChar (c : Char) (rest : List UInt8) :
    ∃ first more, String.utf8EncodeChar c = first :: more ∧
      head first (more ++ rest) = .whole (more.length + 1) := by
  have hvalid : c.val.toNat < 55296 ∨ 57343 < c.val.toNat ∧ c.val.toNat < 1114112 := c.valid
  unfold String.utf8EncodeChar
  dsimp only
  split_ifs with h1 h2 h3
  · refine ⟨_, _, rfl, ?_⟩
    have hwidth : width? (UInt8.ofNat c.val.toNat) = some 1 := by
      rw [width?_eq, UInt8.toNat_ofNat', if_pos (by omega)]
    rw [head, hwidth]
    rfl
  · refine ⟨_, _, rfl, head_of_width? ?_ ?_ (by simp) rest⟩
    · rw [width?_eq, UInt8.toNat_ofNat', if_neg (by omega), if_pos (by omega)]
      rfl
    · rw [mayFollow_iff, UInt8.toNat_ofNat', UInt8.toNat_ofNat']
      split_ifs <;> omega
  · refine ⟨_, _, rfl, head_of_width? ?_ ?_ ?_ rest⟩
    · rw [width?_eq, UInt8.toNat_ofNat', if_neg (by omega), if_neg (by omega), if_pos (by omega)]
      rfl
    · rw [mayFollow_iff, UInt8.toNat_ofNat', UInt8.toNat_ofNat']
      split_ifs <;> omega
    · simp only [List.forall_mem_cons, List.not_mem_nil, false_implies, implies_true, and_true,
        isContinuation_iff, UInt8.toNat_ofNat']
      omega
  · refine ⟨_, _, rfl, head_of_width? ?_ ?_ ?_ rest⟩
    · rw [width?_eq, UInt8.toNat_ofNat', if_neg (by omega), if_neg (by omega), if_neg (by omega),
        if_pos (by omega)]
      rfl
    · rw [mayFollow_iff, UInt8.toNat_ofNat', UInt8.toNat_ofNat']
      split_ifs <;> omega
    · simp only [List.forall_mem_cons, List.not_mem_nil, false_implies, implies_true, and_true,
        isContinuation_iff, UInt8.toNat_ofNat']
      omega

theorem repaired_utf8EncodeChar (c : Char) (rest : List UInt8) :
    repaired (String.utf8EncodeChar c ++ rest) = String.utf8EncodeChar c ++ repaired rest := by
  obtain ⟨first, more, hbytes, hhead⟩ := head_utf8EncodeChar c rest
  rw [hbytes, List.cons_append, repaired, hhead]
  dsimp only
  simp

/-- The bytes of a text are the text when they are shown. -/
theorem lossy_encode (text : String) : lossy (encode text) = text := by
  have hrepaired : repaired (encode text) = encode text := by
    rw [encode_eq_flatMap]
    induction text.toList with
    | nil => simp [repaired]
    | cons c rest ih => rw [List.flatMap_cons, repaired_utf8EncodeChar, ih]
  rw [lossy, hrepaired, decode?_encode]
  rfl

end Refactoring.Utf8
