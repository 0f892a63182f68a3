import Coursework.Assignment.Brief
import Coursework.Model.Context

/-! # Prompts

The prompt of a brief tells the model what is asked for and shows the object that it has to
answer with. Every field that the brief leaves open has a wording of its own.

* **`Prompt.ofBrief`** is the prompt, **`Prompt.system`** what the model is told beforehand.
* **`Prompt.responseTemplate`** is the object shown in the prompt.

The whole numbers of a brief are meant to have at most 4300 digits, like all that are read. -/

namespace Coursework.Prompt

/-- What the model is told beforehand. -/
def system : Text :=
  Text.joinWith [Sign.space]
    ["You are an experienced professor creating structured assignments.",
      "Ensure your response is STRICTLY formatted in valid JSON. Structure:",
      "\x7b\"title\": \"Assignment Title\", \"deadline\": \"Due date\",",
      "\"totalMarksWeightage\": \"Overall marks weightage\",",
      "\"evaluationCriteria\": \"Evaluation criteria\",",
      "\"numberOfTasks\": \"Number of tasks\",",
      "\"tasks\": [ \x7b \"description\": \"Task details\",",
      "\"weightage\": \"Task weightage\" \x7d ]\x7d"]

/-- A text, or another one in place of nothing and of the empty text. -/
def given (value : Option Text) (default : Text) : Text :=
  match value with
  | some (sign :: text) => sign :: text
  | _ => default

/-- The number of tasks that a prompt speaks of. -/
def taskCount (brief : Brief) : TaskCount :=
  match brief.taskCount with
  | none => .text "n"
  | some (.text []) => .text "n"
  | some count => count

/-- The number of tasks in the object shown. -/
def templateCount : TaskCount → Text
  | .int value => Text.ofInt value
  | .text value => Sign.doubleQuote :: value ++ [Sign.doubleQuote]

/-- The marks that a prompt speaks of. -/
def totalMarks (brief : Brief) : Text :=
  match brief.totalMarks with
  | none => "100"
  | some marks => if marks.toJson.isVoid then "100" else marks.display

/-- The title that a prompt speaks of. -/
def title (brief : Brief) : Text := given (some brief.title) "Untitled Assignment"

/-- The deadline that a prompt speaks of. -/
def deadline (brief : Brief) : Text := given (some brief.deadline) "Deadline not specified"

/-- The object that the model is shown. -/
def responseTemplate (brief : Brief) : Text :=
  ("\x7b\n  \"title\": \"" : Text) ++ title brief ++
    ("\",\n  \"deadline\": \"" : Text) ++ deadline brief ++
    ("\",\n  \"totalMarksWeightage\": \"<overall marks>\",\n" : Text) ++
    ("  \"evaluationCriteria\": \"<evaluation criteria>\",\n" : Text) ++
    ("  \"numberOfTasks\": " : Text) ++ templateCount (taskCount brief) ++
    (",\n  \"tasks\": [\n" : Text) ++
    ("    \x7b\"description\": \"<task details>\", " : Text) ++
    ("\"weightage\": \"<task weightage>\"\x7d\n" : Text) ++ ("  ]\n\x7d" : Text)

/-- What is said about the assignment. -/
def specifications (brief : Brief) : Text :=
  let unspecified : Text := "Not specified"
  ("- Subject: " : Text) ++ brief.subject ++
    ("\n- Grade Level: " : Text) ++ given brief.grade unspecified ++
    ("\n- Difficulty Level: " : Text) ++ given brief.difficulty unspecified ++
    ("\n- Detail Level: " : Text) ++ given brief.detail unspecified ++
    ("\n- Language: " : Text) ++ given brief.language "English" ++
    ("\n- Deadline: " : Text) ++ deadline brief ++
    ("\n- Number of Tasks: " : Text) ++ (taskCount brief).toJson.display ++
    ("\n- Total Marks: " : Text) ++ totalMarks brief ++
    ("\n- Evaluation Criteria: " : Text) ++ given brief.criteria unspecified ++
    ("\n- Additional Instructions: " : Text) ++ given brief.instructions "None" ++ ("\n" : Text)

/-- The context of a prompt: further context, if there is any, and the academic one. -/
def contextWith (further : Option Text) : Text :=
  match further with
  | some (sign :: text) => sign :: text ++ ("\n\n" : Text) ++ AcademicContext.supplied
  | _ => AcademicContext.supplied

/-- The prompt of a brief. -/
def ofBrief (brief : Brief) (further : Option Text) : Text :=
  ("Assignment Generation for Top-Tier Academia\n" : Text) ++
    ("You are a world-class professor at a prestigious university, responsible for designing\n" :
      Text) ++
    ("structured, high-quality academic assignments that meet the highest educational standards." :
      Text) ++ ("\n\n" : Text) ++
    ("Generate the assignment in the following language: " : Text) ++
    given brief.language "English" ++ ("\n\nASSIGNMENT SPECIFICATIONS:\n" : Text) ++
    specifications brief ++ ("\nACADEMIC CONTEXT:\n---\n" : Text) ++ contextWith further ++
    ("\n---\n\nRESPONSE FORMAT — respond with ONLY a valid JSON object:\n" : Text) ++
    responseTemplate brief ++ ("\n\nRULES:\n" : Text) ++
    ("1. The tasks array must contain exactly numberOfTasks entries\n" : Text) ++
    ("2. Task weightages should add up to the total marks\n" : Text) ++
    ("3. Return ONLY the JSON object\n" : Text)

end Coursework.Prompt
