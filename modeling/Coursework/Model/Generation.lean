import Coursework.Assignment.Reply
import Coursework.Model.Completion
import Coursework.Model.Prompt

/-! # Generation of assignments

The model is asked once with the prompt of a brief, and its answer is validated as a reply.

* **`Generation.generate`** is the assignment that a model gives for a brief. -/

namespace Coursework.Generation

/-- The question for a brief. -/
def question (brief : Brief) : Completion.Call where
  system := .text Prompt.system
  prompt := Prompt.ofBrief brief none
  temperature := .float (Binary64.ofDecimal false 5 1 (-1))

/-- The assignment that an answer describes; an empty answer is rejected. -/
def ofAnswer (answer : Text) : Outcome Reply.Accepted :=
  let trimmed := answer.strip
  if trimmed.isEmpty then .error (.rejected ⟨.empty, .text trimmed⟩)
  else Reply.validate (.text trimmed)

/-- The assignment that a model gives for a brief, and the model after it. -/
def generate (brief : Brief) (model : Completion.Model) :
    Outcome Reply.Accepted × Completion.Model :=
  match Completion.ask (question brief) model with
  | (.error failure, model) => (.error failure, model)
  | (.ok answer, model) => (ofAnswer answer, model)

end Coursework.Generation
