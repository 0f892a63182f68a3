import Coursework.Failure

/-! # How work ends

Work that has a state at hand and may stop ends in one way from every state: with a value or with
a reason to stop, and in a state that keeps what was done until then.

* **`Ends`** is that relation between the state before, the end and the state after.
* **`ends_bind_iff`** takes a sequence of two steps apart; the other lemmas are about the steps
  that are no sequence. -/

namespace Coursework

variable {σ ε α β : Type}

/-- Work that begins in a state ends with a result in another state. -/
def Ends (work : ExceptT ε (StateM σ) α) (start : σ) (result : Except ε α) (stop : σ) : Prop :=
  Id.run (work.run.run start) = (result, stop)

variable {start stop : σ} {result : Except ε α}

/-- Work ends in some way. -/
theorem exists_ends (work : ExceptT ε (StateM σ) α) (start : σ) :
    ∃ result stop, Ends work start result stop :=
  ⟨(work.run.run start).1, (work.run.run start).2, rfl⟩

/-- It ends in one way only. -/
theorem Ends.unique {work : ExceptT ε (StateM σ) α} {other : Except ε α} {elsewhere : σ}
    (ends : Ends work start result stop) (again : Ends work start other elsewhere) :
    result = other ∧ stop = elsewhere := by
  rw [Ends] at ends again
  rw [ends, Prod.mk.injEq] at again
  exact again

/-- A value is given at once. -/
theorem ends_pure_iff {value : α} :
    Ends (pure value : ExceptT ε (StateM σ) α) start result stop ↔
      result = .ok value ∧ stop = start := by
  constructor
  · intro h
    cases h
    exact ⟨rfl, rfl⟩
  · rintro ⟨rfl, rfl⟩
    rfl

/-- So is a reason to stop. -/
theorem ends_throw_iff {reason : ε} :
    Ends (throw reason : ExceptT ε (StateM σ) α) start result stop ↔
      result = .error reason ∧ stop = start := by
  constructor
  · intro h
    cases h
    exact ⟨rfl, rfl⟩
  · rintro ⟨rfl, rfl⟩
    rfl

/-- The state can be looked at. -/
theorem ends_get_iff {result : Except ε σ} :
    Ends (get : ExceptT ε (StateM σ) σ) start result stop ↔ result = .ok start ∧ stop = start := by
  constructor
  · intro h
    cases h
    exact ⟨rfl, rfl⟩
  · rintro ⟨rfl, rfl⟩
    rfl

/-- It can be replaced. -/
theorem ends_set_iff {next : σ} {result : Except ε PUnit} :
    Ends (set next : ExceptT ε (StateM σ) PUnit) start result stop ↔
      result = .ok ⟨⟩ ∧ stop = next := by
  constructor
  · intro h
    cases h
    exact ⟨rfl, rfl⟩
  · rintro ⟨rfl, rfl⟩
    rfl

/-- It can be changed. -/
theorem ends_modify_iff {change : σ → σ} {result : Except ε PUnit} :
    Ends (modify change : ExceptT ε (StateM σ) PUnit) start result stop ↔
      result = .ok ⟨⟩ ∧ stop = change start := by
  constructor
  · intro h
    cases h
    exact ⟨rfl, rfl⟩
  · rintro ⟨rfl, rfl⟩
    rfl

/-- The second of two steps begins where the first gave a value, and is not begun where the first
stopped. -/
theorem ends_bind_iff {first : ExceptT ε (StateM σ) α} {second : α → ExceptT ε (StateM σ) β}
    {result : Except ε β} :
    Ends (first >>= second) start result stop ↔
      (∃ value between, Ends first start (.ok value) between ∧
        Ends (second value) between result stop) ∨
      ∃ reason, Ends first start (.error reason) stop ∧ result = .error reason := by
  have run : Id.run ((first >>= second).run.run start) =
      match Id.run (first.run.run start) with
      | (.ok value, between) => Id.run ((second value).run.run between)
      | (.error reason, between) => (.error reason, between) := by
    rw [ExceptT.run_bind, StateT.run_bind, Id.run_bind]
    cases Id.run (first.run.run start) with
    | mk found between => cases found <;> rfl
  simp only [Ends, run]
  cases Id.run (first.run.run start) with
  | mk found between =>
      cases found with
      | ok value =>
          constructor
          · intro ends
            exact .inl ⟨value, between, rfl, ends⟩
          · rintro (⟨other, elsewhere, h, ends⟩ | ⟨reason, h, -⟩)
            · cases h
              exact ends
            · cases h
      | error reason =>
          constructor
          · rintro ⟨⟩
            exact .inr ⟨reason, rfl, rfl⟩
          · rintro (⟨value, elsewhere, h, -⟩ | ⟨other, h, rfl⟩)
            · cases h
            · cases h
              rfl

/-! ## Steps that do not stop -/

/-- A first step that gives a value is followed by the second. -/
theorem Ends.bind_iff {first : ExceptT ε (StateM σ) α} {second : α → ExceptT ε (StateM σ) β}
    {result : Except ε β} {value : α} {between : σ} (ends : Ends first start (.ok value) between) :
    Ends (first >>= second) start result stop ↔ Ends (second value) between result stop := by
  rw [ends_bind_iff]
  constructor
  · rintro (⟨other, elsewhere, again, hsecond⟩ | ⟨reason, again, -⟩)
    · obtain ⟨h, rfl⟩ := ends.unique again
      cases h
      exact hsecond
    · cases (ends.unique again).1
  · intro hsecond
    exact .inl ⟨value, between, ends, hsecond⟩

/-- A first step that stops is the end. -/
theorem Ends.bind_error {first : ExceptT ε (StateM σ) α} {second : α → ExceptT ε (StateM σ) β}
    {reason : ε} (ends : Ends first start (.error reason) stop) :
    Ends (first >>= second) start (.error reason) stop :=
  ends_bind_iff.mpr (.inr ⟨reason, ends, rfl⟩)

theorem ends_get_bind_iff {second : σ → ExceptT ε (StateM σ) β} {result : Except ε β} :
    Ends (get >>= second) start result stop ↔ Ends (second start) start result stop :=
  (ends_get_iff.mpr ⟨rfl, rfl⟩).bind_iff

theorem ends_set_bind_iff {next : σ} {second : PUnit → ExceptT ε (StateM σ) β}
    {result : Except ε β} :
    Ends (set next >>= second) start result stop ↔ Ends (second ⟨⟩) next result stop :=
  (ends_set_iff.mpr ⟨rfl, rfl⟩).bind_iff

theorem ends_modify_bind_iff {change : σ → σ} {second : PUnit → ExceptT ε (StateM σ) β}
    {result : Except ε β} :
    Ends (modify change >>= second) start result stop ↔
      Ends (second ⟨⟩) (change start) result stop :=
  (ends_modify_iff.mpr ⟨rfl, rfl⟩).bind_iff

end Coursework
