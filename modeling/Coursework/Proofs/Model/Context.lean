import Coursework.Model.Context
import Coursework.Proofs.Text.Decoding
import Coursework.Proofs.Text.Lines
import Coursework.Proofs.Text.Trimming

/-! # When there is an academic context

The paragraph of the file is due if its bytes are UTF-8 and show something, and the built-in one in
every other case. That is what is loaded unless there is a file and it is blank, which gives a
paragraph of its own, or it is no UTF-8, which stops the work.

* **`AcademicContext.Source.Spells`** says which text a file holds, **`AcademicContext.Source.Due`**
  which paragraph is due.
* **`AcademicContext.load_of_spells`** and **`AcademicContext.load_of_not_spells`** are the two
  cases of a file.
* **`AcademicContext.load_due_iff`** is the main statement. -/

namespace Coursework

/-! ## (1) Blank files -/

/-- Line ends are white space before and after they are made alike. -/
theorem Text.isBlank_unixLines (text : Text) : text.unixLines.isBlank = text.isBlank := by
  induction text using unixLines.induct with
  | case1 text ih =>
      rw [unixLines]
      exact ih
  | case2 text alone ih =>
      rw [unixLines.eq_2 _ alone]
      exact ih
  | case3 sign text _ other ih =>
      rw [unixLines_cons other]
      exact congrArg (Sign.isBlank sign && ·) ih
  | case4 => rfl

namespace AcademicContext

variable {source : Source} {content : Text} {bytes : List Nat}

/-- The paragraph of a text is blank exactly if the text is. -/
theorem ofText_eq (content : Text) :
    ofText content = if content.isBlank then ofBlankFile else content.unixLines.strip := by
  have same : content.unixLines.strip.isEmpty = content.isBlank := by
    rw [Bool.eq_iff_iff, List.isEmpty_iff, Text.strip_eq_nil_iff, Text.isBlank_unixLines]
  unfold ofText
  simp only [same]

/-! ## (2) What a file holds -/

/-- What is found is a file that holds a text in UTF-8. -/
def Source.Spells (source : Source) (content : Text) : Prop :=
  content.IsScalar ∧ source = .file (content.flatMap Text.utf8Bytes)

theorem spells_file_iff : (Source.file bytes).Spells content ↔ Text.ofUtf8 bytes = .ok content := by
  rw [Text.ofUtf8_eq_ok_iff, Source.Spells, Source.file.injEq, eq_comm (a := bytes)]

/-- Only a file holds a text, and only one. -/
theorem Source.Spells.unique {other : Text} (spells : source.Spells content)
    (again : source.Spells other) : other = content := by
  obtain ⟨-, rfl⟩ := id spells
  rw [spells_file_iff] at spells again
  exact Except.ok.inj (again.symm.trans spells)

/-- The paragraph that is due: that of a file which shows something, with its line ends made alike
and without white space around it, and the built-in one in every other case. -/
inductive Source.Due (source : Source) : Text → Prop
  /-- There is a file that shows something. -/
  | own {content : Text} (spells : source.Spells content) (shown : content.isBlank = false) :
    Due source content.unixLines.strip
  /-- There is none. -/
  | builtIn (none : ∀ content, source.Spells content → content.isBlank = true) :
    Due source builtIn

/-! ## (3) What is loaded -/

/-- A file that holds a text gives its paragraph, or the one for blank files. -/
theorem load_of_spells (spells : source.Spells content) :
    load source = .ok (if content.isBlank then ofBlankFile else content.unixLines.strip) := by
  obtain ⟨-, rfl⟩ := id spells
  rw [spells_file_iff] at spells
  rw [load, spells, ← ofText_eq]
  rfl

/-- Any other file stops the work. -/
theorem load_of_not_spells (none : ∀ content, ¬ (Source.file bytes).Spells content) :
    ∃ fault, load (.file bytes) = .error (.undecodable fault) := by
  cases read : Text.ofUtf8 bytes with
  | ok content => exact absurd (spells_file_iff.mpr read) (none content)
  | error fault =>
      refine ⟨fault, ?_⟩
      rw [load, read]
      rfl

/-- **The paragraph that is due is loaded** exactly if there is no file, or one that is UTF-8 and
not blank. A blank file gives another paragraph, and a file that is no UTF-8 stops the work. -/
theorem load_due_iff (source : Source) :
    ((∃ paragraph, load source = .ok paragraph ∧ source.Due paragraph) ↔
      ∀ bytes, source = .file bytes → ∃ content, source.Spells content ∧ content.isBlank = false) ∧
    (∀ content, source.Spells content → content.isBlank = true →
      load source = .ok ofBlankFile) ∧
    ∀ bytes, source = .file bytes → (∀ content, ¬ source.Spells content) →
      ∃ fault, load source = .error (.undecodable fault) := by
  refine ⟨⟨?_, ?_⟩, ?_, ?_⟩
  · rintro ⟨paragraph, loaded, due⟩ bytes rfl
    cases due with
    | own spells shown => exact ⟨_, spells, shown⟩
    | builtIn none =>
        -- a blank file does not give the built-in paragraph, and other files give none
        exfalso
        by_cases text : ∃ content, (Source.file bytes).Spells content
        · obtain ⟨content, spells⟩ := text
          rw [load_of_spells spells, none content spells, if_pos rfl] at loaded
          exact absurd (Except.ok.inj loaded) (by decide)
        · obtain ⟨fault, stopped⟩ := load_of_not_spells (not_exists.mp text)
          rw [stopped] at loaded
          cases loaded
  · intro held
    cases source with
    | missing => exact ⟨_, rfl, .builtIn fun content spells => by cases spells.2⟩
    | directory => exact ⟨_, rfl, .builtIn fun content spells => by cases spells.2⟩
    | file bytes =>
        obtain ⟨content, spells, shown⟩ := held bytes rfl
        refine ⟨_, ?_, .own spells shown⟩
        rw [load_of_spells spells, shown]
        rfl
  · intro content spells blank
    rw [load_of_spells spells, blank]
    rfl
  · rintro bytes rfl none
    exact load_of_not_spells none

/-- A file with line ends of all kinds and signs of one to four bytes gives its paragraph, one of
exotic white space that for blank files, and one that is cut off within a sign none. -/
theorem load_due_mixed :
    (∃ paragraph,
      load (.file [0x0D, 0x0A, 0x20, 0xC3, 0xA9, 0x0D, 0xF0, 0x9F, 0x98, 0x80, 0xE3, 0x80, 0x80]) =
          .ok paragraph ∧
        Source.Due (.file [0x0D, 0x0A, 0x20, 0xC3, 0xA9, 0x0D, 0xF0, 0x9F, 0x98, 0x80, 0xE3, 0x80,
          0x80]) paragraph) ∧
      load (.file [0xE2, 0x80, 0xA8, 0x1C]) = .ok ofBlankFile ∧
      ∃ fault, load (.file [0x61, 0xE3, 0x80]) = .error (.undecodable fault) := by
  refine ⟨(load_due_iff _).1.mpr ?_, (load_due_iff _).2.1 [0x2028, 0x1C] ?_ (by decide),
    (load_due_iff _).2.2 _ rfl ?_⟩
  · intro bytes same
    exact ⟨[0x0D, 0x0A, 0x20, 0xE9, 0x0D, 0x1F600, 0x3000], spells_file_iff.mpr rfl, by decide⟩
  · exact spells_file_iff.mpr rfl
  · intro content spells
    cases spells_file_iff.mp spells

/-- A file that is no UTF-8 gives no paragraph, and an empty one another than the built-in one. -/
theorem not_due_malformed :
    (¬ ∃ paragraph, load (.file [0xFF]) = .ok paragraph ∧ Source.Due (.file [0xFF]) paragraph) ∧
      ¬ ∃ paragraph, load (.file []) = .ok paragraph ∧ Source.Due (.file []) paragraph := by
  constructor
  · rintro ⟨paragraph, loaded, -⟩
    cases loaded
  · rintro ⟨paragraph, loaded, due⟩
    have same : ofBlankFile = paragraph := Except.ok.inj loaded
    cases due with
    | own spells shown =>
        rw [← spells.unique (spells_file_iff.mpr rfl : (Source.file []).Spells [])] at shown
        cases shown
    | builtIn none => exact absurd same (by decide)

end AcademicContext

end Coursework
