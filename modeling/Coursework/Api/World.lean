import Coursework.Api.Refusal
import Coursework.Model.Generation
import Coursework.Remote.Educator
import Coursework.Remote.Exchange
import Coursework.Store.Access

/-! # Work on a request

Work has the store at hand, the issuer of tokens, the model and the remote services, and a log of
what these were asked. What it changed and asked stays so when it stops before its end.

* **`Api.World`** is all that, **`Api.Call`** an entry of the log.
* **`Api.Work`** is work that may stop with a refusal or a failure. -/

namespace Coursework.Api

/-! ## (1) The world -/

/-- Something that was asked of somebody outside. -/
inductive Call
  /-- The issuer of tokens was asked whose a token is. -/
  | inquiry (token : Text)
  /-- The model was asked a question. -/
  | question (call : Completion.Call)
  /-- A remote service was asked for something. -/
  | request (request : Remote.Request)

/-- The store, and what those outside will answer and were asked. -/
structure World where
  /-- The store. -/
  store : Store := {}
  /-- What the issuer of tokens answers. -/
  issuer : Remote.Confirmation
  /-- What the model will answer, in order. -/
  answers : List Completion.Answer := []
  /-- What the remote services will reply, in order; without a list of it, documents are numbered
  as they are created. -/
  replies : Option (List Remote.Reply) := none
  /-- How many documents were numbered. -/
  numbered : Nat := 0
  /-- What was asked, in order. -/
  log : List Call := []

/-! ## (2) Work -/

/-- Why work stops. -/
inductive Stop
  /-- The request is refused. -/
  | refused (refusal : Refusal)
  /-- Something fails. -/
  | failed (failure : Failure)

/-- Work on a request. -/
abbrev Work (α : Type) := ExceptT Stop (StateM World) α

namespace Work

/-- Refuses the request. -/
def refuse {α : Type} (refusal : Refusal) : Work α := throw (.refused refusal)

/-- A value, or the refusal of its absence. -/
def orRefuse {α : Type} (value : Option α) (refusal : Refusal) : Work α :=
  match value with
  | some value => pure value
  | none => refuse refusal

/-- An outcome. -/
def ofOutcome {α : Type} : Outcome α → Work α
  | .ok value => pure value
  | .error failure => throw (.failed failure)

/-- What a remote service refuses, the request is refused for. -/
def ofRemote {α : Type} : Outcome α → Work α
  | .error (.refused message _) => refuse (.remote message)
  | outcome => ofOutcome outcome

/-- What the model is rejected for, the request is refused for. -/
def ofReply {α : Type} : Outcome α → Work α
  | .error (.rejected rejection) => refuse (.rejected rejection)
  | outcome => ofOutcome outcome

/-- A value that passes a check, given at a place in the request. -/
def ofForm {α : Type} (place : Text) (check : Json → Checked α) (given : Json) : Work α :=
  match check given with
  | .ok value => pure value
  | .error issues =>
    refuse (.misfit (.object [(place, given)]) (issues.map (Issue.within (.field place))))

/-- Looks into the store. -/
def look {α : Type} (find : Store → Outcome α) : Work α := do ofOutcome (find (← get).store)

/-- Changes the store. -/
def change (step : Store → Store) : Work Unit :=
  modify fun world => { world with store := step world.store }

/-- Asks the issuer of tokens whose a token is. -/
def identify (token : Text) : Work (Option Remote.Educator) := do
  modify fun world => { world with log := world.log ++ [.inquiry token] }
  ofOutcome (Remote.Educator.confirmed token (← get).issuer)

/-- Has the model make an assignment. -/
def generate (brief : Brief) : Work Reply.Accepted := do
  let world ← get
  let (outcome, model) := Generation.generate brief { answers := world.answers }
  set { world with
    answers := model.answers, log := world.log ++ model.calls.map Call.question }
  ofReply outcome

/-- Exchanges requests and replies with remote services. -/
def exchange {α : Type} (work : Remote.Exchange α) : Work α := do
  let world ← get
  let (outcome, session) :=
    work.run.run { replies := world.replies, numbered := world.numbered }
  set { world with
    replies := session.replies, numbered := session.numbered
    log := world.log ++ session.sent.map Call.request }
  ofRemote outcome

end Work

end Coursework.Api
