import Refactoring.Proofs.Json.Stability

/-!
# URIs, positions and ranges are read again
-/

namespace Refactoring

open Json

theorem Uri.ofText_eq_ok {text : String} {uri : Uri} :
    Uri.ofText text = .ok uri ↔ Uri.parse text = .ok uri := by
  unfold Uri.ofText
  cases Uri.parse text <;> simp

theorem Uri.stable : Stable Uri.decode Uri.toJson where
  again {j uri} hj hread := by
    cases j with
    | string text =>
      have hparse : Uri.parse text = .ok uri := Uri.ofText_eq_ok.mp hread
      exact Uri.ofText_eq_ok.mpr (hj text (by simp [texts]) uri hparse)
    | _ => cases hread
  ne_null _ _ := nofun

theorem Position.stable : Stable Position.decode Position.toJson := by
  refine .record (fun _ => rfl) fun hs h => ?_
  simp only [Record.reads_seq, Record.reads_map] at h ⊢
  obtain ⟨line, hline, character, hcharacter, rfl⟩ := h
  exact ⟨_, Stable.word32.required hs hline rfl, _, Stable.word32.required hs hcharacter rfl, rfl⟩

theorem Range.stable : Stable Range.decode Range.toJson := by
  refine .record (fun _ => rfl) fun hs h => ?_
  simp only [Record.reads_seq, Record.reads_map] at h ⊢
  obtain ⟨start, hstart, stop, hstop, rfl⟩ := h
  exact ⟨_, Position.stable.required hs hstart rfl, _, Position.stable.required hs hstop rfl, rfl⟩

theorem Location.stable : Stable Location.decode Location.toJson := by
  refine .record (fun _ => rfl) fun hs h => ?_
  simp only [Record.reads_seq, Record.reads_map] at h ⊢
  obtain ⟨uri, huri, range, hrange, rfl⟩ := h
  exact ⟨_, Uri.stable.required hs huri rfl, _, Range.stable.required hs hrange rfl, rfl⟩

theorem stable_document : Stable documentDecoder documentJson := by
  refine .record (fun _ => rfl) fun hs h => ?_
  obtain ⟨uri, huri, rfl⟩ := h
  exact ⟨_, Uri.stable.required hs huri rfl, rfl⟩

end Refactoring
