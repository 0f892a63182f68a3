import Coursework.Proofs.Text.Lines

/-! # Texts between blank lines

A text is taken apart at two line feeds in a row, from the left. Pieces in which no line feed is
followed by another one or by the end are found again where they were put together with blank
lines.

* **`Text.paragraphs`** takes a text apart, **`Text.Tight`** holds of such pieces.
* **`Text.paragraphs_joinWith`** is the main statement. -/

namespace Coursework.Text

/-- The pieces of a text between the places where two line feeds stand. -/
def paragraphs : Text → List Text
  | [] => [[]]
  | Sign.newline :: Sign.newline :: text => [] :: paragraphs text
  | sign :: text =>
    match paragraphs text with
    | [] => [[sign]]
    | piece :: pieces => (sign :: piece) :: pieces

/-- Behind every line feed stands another sign. -/
def Tight : Text → Prop
  | [] => True
  | sign :: text =>
    (sign = Sign.newline → ∃ next, text.head? = some next ∧ next ≠ Sign.newline) ∧ Tight text

/-! ## (1) Tight texts -/

theorem tight_of_not_mem {text : Text} (absent : Sign.newline ∉ text) : Tight text := by
  induction text with
  | nil => trivial
  | cons sign text ih =>
      rw [List.mem_cons, not_or] at absent
      exact ⟨fun same => absurd same.symm absent.1, ih absent.2⟩

theorem Tight.append {first second : Text} (hfirst : Tight first) (hsecond : Tight second) :
    Tight (first ++ second) := by
  induction first with
  | nil => exact hsecond
  | cons sign first ih =>
      refine ⟨fun same => ?_, ih hfirst.2⟩
      obtain ⟨next, found, other⟩ := hfirst.1 same
      obtain ⟨rest, rfl⟩ := List.head?_eq_some_iff.mp found
      exact ⟨next, rfl, other⟩

/-- Lines that are not empty make a tight text. -/
theorem tight_joinWith {lines : List Text}
    (shown : ∀ line ∈ lines, line ≠ [] ∧ Sign.newline ∉ line) :
    Tight (joinWith [Sign.newline] lines) := by
  induction lines with
  | nil => trivial
  | cons line lines ih =>
      obtain ⟨own, others⟩ := List.forall_mem_cons.mp shown
      cases lines with
      | nil => exact tight_of_not_mem own.2
      | cons next lines =>
          rw [joinWith_cons_cons, List.append_assoc]
          refine (tight_of_not_mem own.2).append ⟨fun _ => ?_, ih others⟩
          -- the next line begins with a sign of its own
          obtain ⟨filled, absent⟩ := others next List.mem_cons_self
          obtain ⟨sign, rest, rfl⟩ := List.exists_cons_of_ne_nil filled
          refine ⟨sign, by rw [joinWith_cons]; rfl, ?_⟩
          rintro rfl
          exact absent List.mem_cons_self

/-! ## (2) Taking apart -/

theorem paragraphs_cons_of_tight {sign : Nat} {text rest piece : Text} {pieces : List Text}
    (tight : Tight (sign :: text)) (h : paragraphs (text ++ rest) = piece :: pieces) :
    paragraphs (sign :: text ++ rest) = (sign :: piece) :: pieces := by
  rw [List.cons_append, paragraphs, h]
  rintro _ rfl same
  obtain ⟨next, found, other⟩ := tight.1 rfl
  obtain ⟨_, rfl⟩ := List.head?_eq_some_iff.mp found
  exact other (List.cons.inj same).1

theorem paragraphs_of_tight {text : Text} (tight : Tight text) : paragraphs text = [text] := by
  induction text with
  | nil => rfl
  | cons sign text ih =>
      have h : paragraphs (sign :: text ++ []) = [sign :: text] :=
        paragraphs_cons_of_tight tight (by rw [List.append_nil, ih tight.2])
      rwa [List.append_nil] at h

theorem paragraphs_append {text : Text} (tight : Tight text) (rest : Text) :
    paragraphs (text ++ Sign.newline :: Sign.newline :: rest) = text :: paragraphs rest := by
  induction text with
  | nil => rfl
  | cons sign text ih => exact paragraphs_cons_of_tight tight (ih tight.2)

/-- Tight texts that are put together with blank lines are found again. -/
theorem paragraphs_joinWith {pieces : List Text} (some : pieces ≠ [])
    (tight : ∀ piece ∈ pieces, Tight piece) :
    paragraphs (joinWith [Sign.newline, Sign.newline] pieces) = pieces := by
  induction pieces with
  | nil => exact absurd rfl some
  | cons piece pieces ih =>
      obtain ⟨own, others⟩ := List.forall_mem_cons.mp tight
      cases pieces with
      | nil => exact paragraphs_of_tight own
      | cons next pieces =>
          rw [joinWith_cons_cons, List.append_assoc]
          exact (paragraphs_append own _).trans
            (congrArg _ (ih (List.cons_ne_nil next pieces) others))

end Coursework.Text
