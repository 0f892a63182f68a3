import Coursework.Api.World
import Coursework.Proofs.Ending

/-! # How work on a request ends

* Each lemma `ends_..._iff` says how a step of the work ends: what it gives or why it stops, and
  what has become of the world. Only the questions asked outside and a change of the store leave
  a mark there. -/

namespace Coursework.Api

variable {α : Type} {world after : World} {result : Except Stop α}

/-! ## (1) Steps that leave the world alone -/

/-- The stop for a failure of a remote service: what it refuses, the request is refused for. -/
def Stop.ofRemote : Failure → Stop
  | .refused message _ => .refused (.remote message)
  | failure => .failed failure

/-- The stop for a failure of the model: what it is rejected for, the request is refused for. -/
def Stop.ofReply : Failure → Stop
  | .rejected rejection => .refused (.rejected rejection)
  | failure => .failed failure

namespace Work

theorem ends_refuse_iff {refusal : Refusal} :
    Ends (refuse refusal : Work α) world result after ↔
      result = .error (.refused refusal) ∧ after = world :=
  ends_throw_iff

theorem ends_orRefuse_iff {value : Option α} {refusal : Refusal} :
    Ends (orRefuse value refusal) world result after ↔
      result = (value.elim (.error (.refused refusal)) .ok) ∧ after = world := by
  cases value with
  | none => exact ends_refuse_iff
  | some value => exact ends_pure_iff

theorem ends_ofOutcome_iff {outcome : Outcome α} :
    Ends (ofOutcome outcome) world result after ↔
      result = outcome.mapError .failed ∧ after = world := by
  cases outcome with
  | error failure => exact ends_throw_iff
  | ok value => exact ends_pure_iff

theorem ends_ofRemote_iff {outcome : Outcome α} :
    Ends (ofRemote outcome) world result after ↔
      result = outcome.mapError Stop.ofRemote ∧ after = world := by
  cases outcome with
  | error failure => cases failure <;> exact ends_throw_iff
  | ok value => exact ends_pure_iff

theorem ends_ofReply_iff {outcome : Outcome α} :
    Ends (ofReply outcome) world result after ↔
      result = outcome.mapError Stop.ofReply ∧ after = world := by
  cases outcome with
  | error failure => cases failure <;> exact ends_throw_iff
  | ok value => exact ends_pure_iff

theorem ends_look_iff {find : Store → Outcome α} :
    Ends (look find) world result after ↔
      result = (find world.store).mapError .failed ∧ after = world := by
  rw [look, ends_get_bind_iff]
  exact ends_ofOutcome_iff

/-- What a look-up finds is gone on with; where it finds nothing, the work stops. -/
theorem ends_find {β : Type} {find : Store → Outcome (Option α)} {refusal : Refusal}
    {rest : α → Work β} {result : Except Stop β}
    (ends : Ends (do rest (← orRefuse (← look find) refusal)) world result after) :
    (∃ value, find world.store = .ok (some value) ∧ Ends (rest value) world result after) ∨
      (∀ value, find world.store ≠ .ok (some value)) ∧
        (∃ reason, result = .error reason) ∧ after = world := by
  rw [ends_bind_iff] at ends
  simp only [ends_look_iff] at ends
  cases found : find world.store with
  | error failure =>
      rw [found] at ends
      rcases ends with ⟨_, _, ⟨⟨⟩, -⟩, -⟩ | ⟨reason, ⟨-, rfl⟩, rfl⟩
      exact .inr ⟨by simp, ⟨reason, rfl⟩, rfl⟩
  | ok value =>
      rw [found] at ends
      rcases ends with ⟨_, between, ⟨⟨⟩, unchanged⟩, ends⟩ | ⟨_, ⟨⟨⟩, -⟩, -⟩
      rw [unchanged, ends_bind_iff] at ends
      simp only [ends_orRefuse_iff] at ends
      cases value with
      | none =>
          rcases ends with ⟨_, _, ⟨⟨⟩, -⟩, -⟩ | ⟨reason, ⟨-, rfl⟩, rfl⟩
          exact .inr ⟨by simp, ⟨reason, rfl⟩, rfl⟩
      | some value =>
          rcases ends with ⟨_, _, ⟨⟨⟩, rfl⟩, ends⟩ | ⟨_, ⟨⟨⟩, -⟩, -⟩
          exact .inl ⟨value, rfl, ends⟩

/-! ## (2) Steps that leave a mark -/

theorem ends_change_iff {step : Store → Store} {result : Except Stop Unit} :
    Ends (change step) world result after ↔
      result = .ok () ∧ after = { world with store := step world.store } :=
  ends_modify_iff

/-- The issuer of tokens is asked once, whatever it says. -/
theorem ends_identify_iff {token : Text} {result : Except Stop (Option Remote.Educator)} :
    Ends (identify token) world result after ↔
      result = (Remote.Educator.confirmed token world.issuer).mapError .failed ∧
        after = { world with log := world.log ++ [.inquiry token] } := by
  rw [identify, ends_modify_bind_iff, ends_get_bind_iff]
  exact ends_ofOutcome_iff

/-- The model is asked one question, whatever it answers. -/
theorem ends_generate_iff {brief : Brief} {result : Except Stop Reply.Accepted} :
    Ends (generate brief) world result after ↔
      result = ((world.answers.headD .noChoices).text >>= Generation.ofAnswer).mapError
          Stop.ofReply ∧
        after = { world with
          answers := world.answers.drop 1
          log := world.log ++ [.question (Generation.question brief)] } := by
  have generated : Generation.generate brief { answers := world.answers } =
      ((world.answers.headD .noChoices).text >>= Generation.ofAnswer,
        { answers := world.answers.drop 1, calls := [Generation.question brief] }) := by
    rw [Generation.generate, Completion.ask]
    cases (world.answers.headD .noChoices).text <;> rfl
  rw [generate, ends_get_bind_iff, generated, ends_set_bind_iff]
  exact ends_ofReply_iff

/-- The session in which remote services are reached. -/
def session (world : World) : Remote.Session :=
  { replies := world.replies, numbered := world.numbered }

/-- What was sent in a session is entered in the log, also when the exchange fails. -/
theorem ends_exchange_iff {work : Remote.Exchange α} :
    Ends (exchange work) world result after ↔
      ∃ outcome later, Ends work (session world) outcome later ∧
        result = outcome.mapError Stop.ofRemote ∧
        after = { world with
          replies := later.replies, numbered := later.numbered
          log := world.log ++ later.sent.map Call.request } := by
  obtain ⟨outcome, later, ends⟩ := exists_ends work (session world)
  have run : work.run.run { replies := world.replies, numbered := world.numbered } =
      (outcome, later) := ends
  rw [exchange, ends_get_bind_iff, run]
  dsimp only
  rw [ends_set_bind_iff, ends_ofRemote_iff]
  constructor
  · intro ended
    exact ⟨outcome, later, ends, ended⟩
  · rintro ⟨other, elsewhere, again, ended⟩
    obtain ⟨rfl, rfl⟩ := ends.unique again
    exact ended

end Work

end Coursework.Api
