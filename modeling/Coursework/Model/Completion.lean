import Coursework.Failure

/-! # Completions

The model is asked with what it is told beforehand and a prompt, and answers with a list of
choices, of which the first counts. No choice and no content are an empty answer.

* **`Completion.Call`** is a question, **`Completion.Answer`** what can come back.
* **`Completion.ask`** puts a question to a model with some answers to give. -/

namespace Coursework.Completion

/-- The model that is asked. -/
def model : Text := "google/gemini-flash-1.5-8b-exp"

/-- A question to the model. -/
structure Call where
  /-- What it is told beforehand. -/
  system : Json := .text "You are a helpful academic assistant. Output only what is asked."
  /-- The prompt. -/
  prompt : Text
  /-- How freely it answers. -/
  temperature : Json := .float (Binary64.ofDecimal false 4 1 (-1))
  /-- How long the answer may be. -/
  maxTokens : Json := .int 2048

/-- A question as an object. -/
def Call.toJson (call : Call) : Json :=
  let entry (role : Text) (content : Json) : Json :=
    .object [("role", .text role), ("content", content)]
  .object [("model", .text model),
    ("messages", .list [entry "system" call.system, entry "user" (.text call.prompt)]),
    ("temperature", call.temperature), ("max_tokens", call.maxTokens)]

/-- What comes back from the model. -/
inductive Answer
  /-- A list of choices, the first with this content, if it has any. -/
  | content (reply : Option Text)
  /-- An empty list of choices. -/
  | noChoices
  /-- The call fails. -/
  | failure (message : Text)

/-- A model: whether there is a key for it, the answers that it will give, and the questions that
it was asked. -/
structure Model where
  /-- Whether there is a key. -/
  hasKey : Bool := true
  /-- The answers in order; after them there are no choices. -/
  answers : List Answer := []
  /-- The questions in order. -/
  calls : List Call := []

/-- The text of an answer. -/
def Answer.text : Answer → Outcome Text
  | content reply => .ok (reply.getD [])
  | noChoices => .ok []
  | failure message => .error (.modelFailed message)

/-- The answer to a question, and the model after it. -/
def ask (call : Call) (model : Model) : Outcome Text × Model :=
  if model.hasKey then
    ((model.answers.headD .noChoices).text,
      { model with answers := model.answers.drop 1, calls := model.calls ++ [call] })
  else (.error .missingKey, model)

/-! ## Access -/

/-- Where the model is reached. -/
def baseUrl : Text := "https://openrouter.ai/api/v1/"

/-- The headers that tell the provider which application asks. -/
def attribution (url name : Text) : List (Text × Json) :=
  (if url.isEmpty then [] else [(("HTTP-Referer" : Text), .text url)]) ++
    if name.isEmpty then [] else [(("X-Title" : Text), .text name)]

/-- How the model is reached with a key: a missing or empty key is refused. A program sets the
model up with it; the model that is asked has its key already. -/
def access (key : Option Text) (url name : Text) : Outcome Json :=
  match key with
  | some (sign :: rest) =>
    .ok (.object [("api_key", .text (sign :: rest)), ("base_url", .text baseUrl),
      ("timeout", .float (Binary64.ofDecimal false 60 2 0)),
      ("headers", .object (attribution url name)), ("cached", .bool true)])
  | _ => .error .missingKey

end Coursework.Completion
