import Mathlib.Data.List.Forall2

/-!
# Computations that can fail

How a computation that has succeeded is taken apart: into its steps, the checks that it has passed,
and the result whose failure was told in other words.
-/

namespace Refactoring

variable {ε δ α β : Type}

/-- A first step that succeeds leaves the second one, and one that fails is all there is. -/
@[simp] theorem ok_bind (value : α) (next : α → Except ε β) : .ok value >>= next = next value := rfl

@[simp] theorem error_bind (e : ε) (next : α → Except ε β) : .error e >>= next = .error e := rfl

/-- A computation in two steps succeeds if both of them do. -/
theorem bind_eq_ok {first : Except ε α} {next : α → Except ε β} {result : β} :
    (first >>= next) = .ok result ↔ ∃ value, first = .ok value ∧ next value = .ok result := by
  cases first with
  | error e =>
    constructor
    · intro h
      cases h
    · rintro ⟨_, h, _⟩
      cases h
  | ok value =>
    constructor
    · intro h
      exact ⟨value, rfl, h⟩
    · rintro ⟨_, h, hnext⟩
      cases h
      exact hnext

/-- A check that is passed leaves what comes after it. -/
theorem guard_eq_ok {fails : Prop} [Decidable fails] {e : ε}
    {never : β → Except ε α} {next : Except ε α} {result : α} :
    (if fails then throw e >>= never else next) = .ok result ↔ ¬ fails ∧ next = .ok result := by
  by_cases hfails : fails
  · rw [if_pos hfails]
    constructor
    · intro h
      cases h
    · rintro ⟨h, -⟩
      exact absurd hfails h
  · rw [if_neg hfails]
    exact ⟨fun h => ⟨hfails, h⟩, fun h => h.2⟩

theorem guard_eq_error {fails : Prop} [Decidable fails] {e e' : ε}
    {never : β → Except ε α} {next : Except ε α}
    (h : (if fails then throw e >>= never else next) = .error e') :
    e = e' ∨ next = .error e' := by
  by_cases hfails : fails
  · rw [if_pos hfails] at h
    exact .inl (Except.error.inj h)
  · rw [if_neg hfails] at h
    exact .inr h

/-- Only failures are told in other words. -/
@[simp] theorem mapError_ok (f : ε → δ) (value : α) :
    (.ok value : Except ε α).mapError f = .ok value := rfl

@[simp] theorem mapError_error (f : ε → δ) (e : ε) :
    (.error e : Except ε α).mapError f = .error (f e) := rfl

/-- A failure that is told in other words was a failure before. -/
theorem mapError_eq_error {f : ε → δ} {value : Except ε α} {d : δ} :
    value.mapError f = .error d ↔ ∃ e, value = .error e ∧ f e = d := by
  cases value with
  | ok value =>
    constructor
    · intro h
      cases h
    · rintro ⟨_, h, -⟩
      cases h
  | error e =>
    constructor
    · intro h
      exact ⟨e, rfl, Except.error.inj h⟩
    · rintro ⟨_, h, rfl⟩
      cases h
      rfl

theorem mapError_eq_ok {f : ε → δ} {value : Except ε α} {result : α} :
    value.mapError f = .ok result ↔ value = .ok result := by
  cases value with
  | ok value =>
    constructor
    · rintro ⟨⟩
      rfl
    · rintro ⟨⟩
      rfl
  | error e =>
    constructor
    · rintro ⟨⟩
    · rintro ⟨⟩

theorem map_eq_ok {f : α → β} {value : Except ε α} {result : β} :
    value.map f = .ok result ↔ ∃ a, value = .ok a ∧ f a = result := by
  cases value with
  | ok a =>
    constructor
    · intro h
      exact ⟨a, rfl, Except.ok.inj h⟩
    · rintro ⟨_, h, rfl⟩
      cases h
      rfl
  | error e =>
    constructor
    · intro h
      cases h
    · rintro ⟨_, h, -⟩
      cases h

theorem exists_of_forall₂ {R : α → β → Prop} {items : List α} {results : List β}
    (h : List.Forall₂ R items results) {result : β} (hresult : result ∈ results) :
    ∃ item ∈ items, R item result := by
  induction h with
  | nil => cases hresult
  | cons hhead _ ih =>
    rcases List.mem_cons.mp hresult with rfl | hresult
    · exact ⟨_, List.mem_cons_self, hhead⟩
    · obtain ⟨item, hitem, hR⟩ := ih hresult
      exact ⟨item, List.mem_cons_of_mem _ hitem, hR⟩

/-- All steps of a list succeed, each with its result. -/
theorem mapM_eq_ok {step : α → Except ε β} {items : List α} {results : List β} :
    items.mapM step = .ok results ↔
      List.Forall₂ (fun item result => step item = .ok result) items results := by
  induction items generalizing results with
  | nil =>
    rw [List.mapM_nil, List.forall₂_nil_left_iff]
    constructor
    · rintro ⟨⟩
      rfl
    · rintro rfl
      rfl
  | cons item items ih =>
    rw [List.mapM_cons, bind_eq_ok, List.forall₂_cons_left_iff]
    simp only [bind_eq_ok, ih]
    constructor
    · rintro ⟨result, hitem, rest, hrest, ⟨⟩⟩
      exact ⟨result, rest, hitem, hrest, rfl⟩
    · rintro ⟨result, rest, hitem, hrest, rfl⟩
      exact ⟨result, hitem, rest, hrest, rfl⟩

end Refactoring
