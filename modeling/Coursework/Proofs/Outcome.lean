import Coursework.Failure

/-! # Outcomes in steps

* **`Outcome.bind_eq_ok_iff`**: a sequence of steps gives a value exactly if every step does.
* **`Outcome.unless_eq_ok_iff`** is the case of a step that may only stop the others,
  **`Outcome.exists_of_mem_mapM`** and **`Outcome.exists_mapM_iff`** that of a step for each item
  of a list.
* **`Outcome.mapError_eq_ok_iff`** and **`Outcome.mapError_eq_error_iff`** see through another
  wording of what stops the work.
* **`Checked.also_eq_ok_iff`** and **`Checked.exists_of_eachFrom`** are about forms: all arguments
  and all items pass. -/

namespace Coursework

namespace Outcome

variable {ε α β : Type}

/-- Two steps give a value exactly if the first gives one from which the second gives it. -/
theorem bind_eq_ok_iff {first : Except ε α} {second : α → Except ε β} {result : β} :
    (first >>= second) = .ok result ↔ ∃ value, first = .ok value ∧ second value = .ok result := by
  cases first with
  | error failure =>
      constructor
      · intro h
        cases h
      · rintro ⟨value, h, -⟩
        cases h
  | ok value =>
      constructor
      · intro h
        exact ⟨value, rfl, h⟩
      · rintro ⟨other, h, hsecond⟩
        cases h
        exact hsecond

/-- An outcome that is found to be a value is one. -/
theorem exists_of_isOk {outcome : Except ε α} (ok : outcome.isOk = true) :
    ∃ value, outcome = .ok value := by
  cases outcome with
  | error failure => cases ok
  | ok value => exact ⟨value, rfl⟩

/-- A changed value comes from a value. -/
theorem map_eq_ok_iff {change : α → β} {outcome : Except ε α} {result : β} :
    outcome.map change = .ok result ↔ ∃ value, outcome = .ok value ∧ result = change value := by
  cases outcome with
  | error failure => simp [Except.map]
  | ok value => simp [Except.map, eq_comm]

/-- A test that stops the work lets a value through exactly if it does not hold. -/
theorem unless_eq_ok_iff {stops : Prop} [Decidable stops] {failure : ε}
    {next : α → Except ε β} {rest : Except ε β} {result : β} :
    (if stops then (throw failure : Except ε α) >>= next else rest) = .ok result ↔
      ¬stops ∧ rest = .ok result := by
  by_cases h : stops
  · rw [if_pos h]
    constructor
    · intro thrown
      cases thrown
    · intro passed
      exact absurd h passed.1
  · rw [if_neg h]
    exact ⟨fun ok => ⟨h, ok⟩, fun ok => ok.2⟩

/-- Two steps stop where the first or the second of them does. -/
theorem bind_eq_error_iff {first : Except ε α} {second : α → Except ε β} {reason : ε} :
    (first >>= second) = .error reason ↔
      first = .error reason ∨ ∃ value, first = .ok value ∧ second value = .error reason := by
  cases first with
  | error failure =>
      constructor
      · intro h
        cases h
        exact .inl rfl
      · rintro (h | ⟨value, h, -⟩)
        · cases h
          rfl
        · cases h
  | ok value =>
      constructor
      · intro h
        exact .inr ⟨value, rfl, h⟩
      · rintro (h | ⟨other, h, hsecond⟩)
        · cases h
        · cases h
          exact hsecond

/-- A test that stops the work does so for its own reason. -/
theorem unless_eq_error_iff {stops : Prop} [Decidable stops] {failure reason : ε}
    {next : α → Except ε β} {rest : Except ε β} :
    (if stops then (throw failure : Except ε α) >>= next else rest) = .error reason ↔
      stops ∧ failure = reason ∨ ¬stops ∧ rest = .error reason := by
  by_cases h : stops
  · have thrown : ((throw failure : Except ε α) >>= next) = .error failure := rfl
    rw [if_pos h, thrown]
    simp [h]
  · rw [if_neg h]
    simp [h]

/-- What steps for the items of a list give comes each from an item. -/
theorem exists_of_mem_mapM {step : α → Except ε β} {items : List α} {results : List β}
    (h : items.mapM step = .ok results) :
    ∀ result ∈ results, ∃ item ∈ items, step item = .ok result := by
  induction items generalizing results with
  | nil =>
      obtain rfl := Except.ok.inj h
      exact fun _ member => absurd member List.not_mem_nil
  | cons item items ih =>
      rw [List.mapM_cons] at h
      obtain ⟨first, one, h⟩ := bind_eq_ok_iff.mp h
      obtain ⟨rest, others, h⟩ := bind_eq_ok_iff.mp h
      obtain rfl := Except.ok.inj h
      intro result member
      rcases List.mem_cons.mp member with rfl | member
      · exact ⟨item, List.mem_cons_self, one⟩
      · obtain ⟨source, inside, found⟩ := ih others result member
        exact ⟨source, List.mem_cons_of_mem item inside, found⟩

/-- Steps for the items of a list give results exactly if each of them does. -/
theorem exists_mapM_iff {step : α → Except ε β} {items : List α} :
    (∃ results, items.mapM step = .ok results) ↔
      ∀ item ∈ items, ∃ result, step item = .ok result := by
  induction items with
  | nil => exact iff_of_true ⟨[], rfl⟩ fun _ h => absurd h List.not_mem_nil
  | cons item items ih =>
      rw [List.forall_mem_cons, ← ih, List.mapM_cons]
      constructor
      · rintro ⟨results, h⟩
        obtain ⟨first, one, h⟩ := bind_eq_ok_iff.mp h
        obtain ⟨rest, others, -⟩ := bind_eq_ok_iff.mp h
        exact ⟨⟨first, one⟩, rest, others⟩
      · rintro ⟨⟨first, one⟩, rest, others⟩
        exact ⟨first :: rest, by rw [one, others]; rfl⟩

/-- Where they stop, one of them does, for the same reason. -/
theorem exists_of_mapM_error {step : α → Except ε β} {items : List α} {reason : ε}
    (h : items.mapM step = .error reason) : ∃ item ∈ items, step item = .error reason := by
  induction items with
  | nil => cases h
  | cons item items ih =>
      rw [List.mapM_cons] at h
      rcases bind_eq_error_iff.mp h with h | ⟨first, -, h⟩
      · exact ⟨item, List.mem_cons_self, h⟩
      · rcases bind_eq_error_iff.mp h with h | ⟨rest, -, h⟩
        · obtain ⟨other, member, h⟩ := ih h
          exact ⟨other, List.mem_cons_of_mem item member, h⟩
        · cases h

/-- Where there are items there are results. -/
theorem ne_nil_of_mapM {step : α → Except ε β} {items : List α} {results : List β}
    (h : items.mapM step = .ok results) (filled : items ≠ []) : results ≠ [] := by
  obtain ⟨item, items, rfl⟩ := List.exists_cons_of_ne_nil filled
  rw [List.mapM_cons] at h
  obtain ⟨first, -, h⟩ := bind_eq_ok_iff.mp h
  obtain ⟨rest, -, h⟩ := bind_eq_ok_iff.mp h
  obtain rfl := Except.ok.inj h
  exact List.cons_ne_nil first rest

/-! ## Other reasons to stop -/

section Reasons

variable {δ : Type} {reword : ε → δ} {outcome : Except ε α}

/-- Other words for a reason to stop leave a value as it is. -/
theorem mapError_eq_ok_iff {value : α} :
    outcome.mapError reword = .ok value ↔ outcome = .ok value := by
  cases outcome with
  | error before => exact iff_of_false (by rintro ⟨⟩) (by rintro ⟨⟩)
  | ok given =>
      have same : (Except.ok given : Except ε α).mapError reword = .ok given := rfl
      rw [same, Except.ok.injEq, Except.ok.injEq]

/-- What is worded anew has a reason before. -/
theorem mapError_eq_error_iff {reason : δ} :
    outcome.mapError reword = .error reason ↔
      ∃ before, outcome = .error before ∧ reason = reword before := by
  cases outcome with
  | ok given => exact iff_of_false (by rintro ⟨⟩) (by rintro ⟨_, ⟨⟩, -⟩)
  | error before =>
      constructor
      · rintro ⟨⟩
        exact ⟨before, rfl, rfl⟩
      · rintro ⟨_, ⟨⟩, rfl⟩
        rfl

end Reasons

end Outcome

/-! ## Forms -/

namespace Checked

variable {α β : Type}

/-- A function with one more argument is given exactly if both are. -/
theorem also_eq_ok_iff {function : Checked (α → β)} {value : Checked α} {result : β} :
    function.also value = .ok result ↔
      ∃ given argument, function = .ok given ∧ value = .ok argument ∧ result = given argument := by
  cases function <;> cases value <;> simp [also, eq_comm]

/-- Every value that is kept was checked. -/
theorem exists_of_eachFrom {check : α → Checked β} {items : List α} {index : Nat}
    {passed : List β} (h : eachFrom check index items = .ok passed) {value : β}
    (member : value ∈ passed) : ∃ item ∈ items, check item = .ok value := by
  induction items generalizing index passed with
  | nil =>
      obtain rfl := Except.ok.inj h
      cases member
  | cons item items ih =>
      obtain ⟨_, rest, hfirst, hrest, rfl⟩ := also_eq_ok_iff.mp h
      obtain ⟨_, first, hcons, fits, rfl⟩ := also_eq_ok_iff.mp hfirst
      obtain rfl := Except.ok.inj hcons
      rcases List.mem_cons.mp member with rfl | member
      · exact ⟨item, List.mem_cons_self, Outcome.mapError_eq_ok_iff.mp fits⟩
      · obtain ⟨other, found, fits⟩ := ih hrest member
        exact ⟨other, List.mem_cons_of_mem _ found, fits⟩

end Checked

end Coursework
