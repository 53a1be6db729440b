import Mathlib.Data.List.Forall2

/-!
# Results that may be failures

When a chain of steps succeeds: each step did, on what the one before it gave. Steps along a list
succeed if each of them does.
-/

namespace NatGateway

variable {α β ε : Type}

/-- Two steps succeed if the first one does, and the second one on its result. -/
theorem bind_eq_ok_iff {first : Except ε α} {next : α → Except ε β} {value : β} :
    first.bind next = .ok value ↔ ∃ result, first = .ok result ∧ next result = .ok value := by
  cases first with
  | error error => simp [Except.bind]
  | ok result => simp [Except.bind]

/-- A result that is passed on changed was there before. -/
theorem map_eq_ok_iff {first : Except ε α} {change : α → β} {value : β} :
    first.map change = .ok value ↔ ∃ result, first = .ok result ∧ change result = value := by
  cases first with
  | error error => simp [Except.map]
  | ok result => simp [Except.map]

/-- A result that is passed on changed is there exactly if there was one before. -/
theorem exists_map_eq_ok_iff {first : Except ε α} {change : α → β} :
    (∃ value, first.map change = .ok value) ↔ ∃ result, first = .ok result := by
  simp only [map_eq_ok_iff]
  exact ⟨fun ⟨_, result, h, _⟩ => ⟨result, h⟩, fun ⟨result, h⟩ => ⟨_, result, h, rfl⟩⟩

/-- Two steps succeed if both do, where the first one does not decide whether the second one does. -/
theorem exists_bind_eq_ok_iff {first : Except ε α} {next : α → Except ε β} {succeeds : Prop}
    (h : ∀ result, (∃ value, next result = .ok value) ↔ succeeds) :
    (∃ value, first.bind next = .ok value) ↔ (∃ result, first = .ok result) ∧ succeeds := by
  simp only [bind_eq_ok_iff]
  constructor
  · rintro ⟨value, result, hfirst, hnext⟩
    exact ⟨⟨result, hfirst⟩, (h result).1 ⟨value, hnext⟩⟩
  · rintro ⟨⟨result, hfirst⟩, hsucceeds⟩
    obtain ⟨value, hnext⟩ := (h result).2 hsucceeds
    exact ⟨value, result, hfirst, hnext⟩

/-- A failure that is passed on was there before. -/
theorem map_eq_error_iff {first : Except ε α} {change : α → β} {error : ε} :
    first.map change = .error error ↔ first = .error error := by
  cases first with
  | error other => simp [Except.map]
  | ok result => simp [Except.map]

section

variable {ε' : Type} {change : ε → ε'} {value : α} {error : ε}

/-- A value is passed on as it is when failures are changed. -/
@[simp] theorem mapError_ok : (Except.ok value).mapError change = .ok value := rfl

/-- A failure that is changed is a failure. -/
@[simp] theorem mapError_error :
    (Except.error error : Except ε α).mapError change = .error (change error) := rfl

/-- A result is a value after failures have been changed if it was that value before. -/
theorem mapError_eq_ok_iff {result : Except ε α} :
    result.mapError change = .ok value ↔ result = .ok value := by
  cases result with
  | error error => simp
  | ok result => simp

end

/-- Of a result that is no failure the value is left. -/
theorem toOption_eq_some_iff {result : Except ε α} {value : α} :
    result.toOption = some value ↔ result = .ok value := by
  cases result with
  | error error => simp [Except.toOption]
  | ok result => simp [Except.toOption]

/-- Steps along a list begin with the one at its head. -/
theorem mapM_cons_eq (step : α → Except ε β) (item : α) (rest : List α) :
    (item :: rest).mapM step =
      (step item).bind fun value => (rest.mapM step).map (value :: ·) := by
  rw [List.mapM_cons]
  cases step item with
  | error error => rfl
  | ok value => cases rest.mapM step <;> rfl

/-- Steps along two lists are those along the first one and then those along the second one. -/
theorem mapM_append_eq (step : α → Except ε β) (first second : List α) :
    (first ++ second).mapM step =
      (first.mapM step).bind fun values => (second.mapM step).map (values ++ ·) := by
  rw [List.mapM_append]
  cases first.mapM step with
  | error error => rfl
  | ok values => cases second.mapM step <;> rfl

/-- Steps along a list whose results are put together from parts are the steps for all parts. -/
theorem mapM_flatMap_eq {γ δ : Type} {step : α → Except ε β} {part : γ → Except ε δ}
    {parts : α → List γ} {values : β → List δ} {list : List α}
    (h : ∀ item ∈ list, (step item).map values = (parts item).mapM part) :
    (list.mapM step).map (·.flatMap values) = (list.flatMap parts).mapM part := by
  induction list with
  | nil => rfl
  | cons item rest ih =>
    obtain ⟨hitem, hrest⟩ := List.forall_mem_cons.1 h
    rw [List.flatMap_cons, mapM_append_eq, ← hitem, ← ih hrest, mapM_cons_eq]
    cases step item with
    | error error => rfl
    | ok value => cases rest.mapM step <;> rfl

/-- Steps along a list succeed if each of them does, and give what each of them gives. -/
theorem mapM_eq_ok_iff {step : α → Except ε β} {list : List α} {values : List β} :
    list.mapM step = .ok values ↔
      List.Forall₂ (fun item value => step item = .ok value) list values := by
  induction list generalizing values with
  | nil =>
    rw [List.mapM_nil, List.forall₂_nil_left_iff]
    exact ⟨fun h => (Except.ok.inj h).symm, fun h => h ▸ rfl⟩
  | cons item rest ih =>
    rw [mapM_cons_eq, List.forall₂_cons_left_iff]
    simp only [bind_eq_ok_iff, map_eq_ok_iff, ih, @eq_comm _ _ values, exists_and_left]

/-- Steps along a list succeed if each of them does, whatever they give. -/
theorem exists_mapM_eq_ok_iff {step : α → Except ε β} {list : List α} :
    (∃ values, list.mapM step = .ok values) ↔ ∀ item ∈ list, ∃ value, step item = .ok value := by
  simp only [mapM_eq_ok_iff]
  induction list with
  | nil => simp
  | cons item rest ih =>
    simp only [List.forall₂_cons_left_iff, List.forall_mem_cons, ← ih]
    constructor
    · rintro ⟨_, value, others, hvalue, hothers, rfl⟩
      exact ⟨⟨value, hvalue⟩, others, hothers⟩
    · rintro ⟨⟨value, hvalue⟩, others, hothers⟩
      exact ⟨_, value, others, hvalue, hothers, rfl⟩

/-- Steps along a list give the values that each of them gives. -/
theorem mapM_eq_ok_of_zip {step : α → Except ε β} {list : List α} {values : List β}
    (hlength : list.length = values.length)
    (h : ∀ pair ∈ list.zip values, step pair.1 = .ok pair.2) : list.mapM step = .ok values :=
  mapM_eq_ok_iff.2 (List.forall₂_iff_zip.2 ⟨hlength, fun hpair => h _ hpair⟩)

end NatGateway
