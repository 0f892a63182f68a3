import Coursework.Proofs.Json.RoundTrip
import Coursework.Proofs.Outcome

/-! # The whole numbers of a value that is read

A whole number is read only if its numeral has no more digits than the limit, and no numeral is
longer than the one from which it was read. So every whole number in a value that is read, however
deep it stands, can be written again. A value that is made in another way may hold larger ones;
what such a value would be shown as is of no use.

* **`Json.Bounded`** holds of the values whose whole numbers are all within the limit.
* **`Json.bounded_of_read`**: what is read is such a value. -/

namespace Coursework.Json

/-! ## (1) Bounded values -/

/-- All whole numbers of a value are within the limit of digits. -/
inductive Bounded : Json → Prop
  /-- Null has none. -/
  | null : Bounded .null
  /-- A truth value has none. -/
  | bool (value : Bool) : Bounded (.bool value)
  /-- A whole number is one itself. -/
  | int {value : Int} (short : Short value) : Bounded (.int value)
  /-- Any other number has none. -/
  | float (value : Binary64) : Bounded (.float value)
  /-- A text has none. -/
  | text (value : Text) : Bounded (.text value)
  /-- A list has those of its items. -/
  | list {items : List Json} (each : ∀ item ∈ items, Bounded item) : Bounded (.list items)
  /-- An object has those of its fields. -/
  | object {fields : List (Text × Json)} (each : ∀ field ∈ fields, Bounded field.2) :
      Bounded (.object fields)

/-- A field that is found is one of the fields. -/
theorem mem_of_fieldIn? {fields : List (Text × Json)} {name : Text} {value : Json}
    (found : fieldIn? name fields = some value) : (name, value) ∈ fields := by
  induction fields with
  | nil => cases found
  | cons field fields ih =>
      obtain ⟨key, old⟩ := field
      rw [fieldIn?] at found
      split at found
      · rename_i same
        cases found
        rw [same]
        exact List.mem_cons_self
      · exact List.mem_cons_of_mem _ (ih found)

/-- A field that is found in a bounded object is bounded. -/
theorem Bounded.of_fieldIn? {fields : List (Text × Json)} (bounded : Bounded (.object fields))
    {name : Text} {value : Json} (found : fieldIn? name fields = some value) : Bounded value := by
  cases bounded with
  | object each => exact each _ (mem_of_fieldIn? found)

/-- A bounded field that is set leaves the fields bounded. -/
theorem bounded_insertField {fields : List (Text × Json)}
    (each : ∀ field ∈ fields, Bounded field.2) (name : Text) {value : Json}
    (own : Bounded value) : ∀ field ∈ insertField fields name value, Bounded field.2 := by
  induction fields with
  | nil => exact List.forall_mem_singleton.mpr own
  | cons field fields ih =>
      obtain ⟨first, others⟩ := List.forall_mem_cons.mp each
      obtain ⟨key, old⟩ := field
      rw [insertField]
      split
      · exact List.forall_mem_cons.mpr ⟨own, others⟩
      · exact List.forall_mem_cons.mpr ⟨first, ih others⟩

/-! ## (2) What a reader finds -/

/-- What a reader finds is as it should be. -/
def Finds {α : Type} (Fine : α → Prop) (found : Except Fault (α × Text)) : Prop :=
  ∀ value rest, found = .ok (value, rest) → Fine value

section Finds

variable {α β : Type} {Fine : α → Prop} {found : Except Fault (α × Text)}

theorem finds_error (fault : Fault) : Finds Fine (.error fault) := by
  intro _ _ found
  cases found

theorem finds_ok {value : α} {rest : Text} (fine : Fine value) :
    Finds Fine (.ok (value, rest)) := by
  intro _ _ found
  cases found
  exact fine

theorem Finds.map {Other : β → Prop} (finds : Finds Fine found) {change : α → β}
    (keeps : ∀ value, Fine value → Other (change value)) :
    Finds Other (found.map fun (value, rest) => (change value, rest)) := by
  intro value rest changed
  obtain ⟨⟨earlier, behind⟩, rfl, same⟩ := Outcome.map_eq_ok_iff.mp changed
  cases same
  exact keeps earlier (finds _ _ rfl)

end Finds

/-! ## (3) Numbers -/

theorem short_neg {value : Int} (short : Short value) : Short (-value) := by
  rw [Short, Int.natAbs_neg]
  exact short

/-- A whole number is within the limit if its digits are. -/
theorem finds_readUnsigned (start : Text) (negative : Bool) (text : Text) :
    Finds Bounded (readUnsigned start negative text) := by
  obtain ⟨-, isDigits⟩ := readWhole_append text
  rw [readUnsigned]
  generalize readWhole text = found at isDigits
  split
  · exact finds_error _
  · rename_i whole rest some
    have digits : whole ≠ [] := some
    dsimp only
    split
    · split
      · exact finds_error _
      · rename_i few
        have short : Short (Text.natOfDigits whole : Nat) :=
          (Text.length_ofNat_natOfDigits digits isDigits).trans (Nat.not_lt.mp few)
        refine finds_ok (.int ?_)
        split
        · exact short_neg short
        · exact short
    · exact finds_ok (.float _)

theorem finds_readNumber (text : Text) : Finds Bounded (readNumber text) := by
  rw [readNumber.eq_def]
  split <;> exact finds_readUnsigned _ _ _

theorem finds_readKeyword {text : Text} {found : Json × Text}
    (spelled : readKeyword? text = some found) : Finds Bounded (.ok found) := by
  have each : ∀ keyword ∈ keywords, Bounded keyword.2 := by
    simp only [keywords, List.forall_mem_cons, List.not_mem_nil, false_implies, implies_true,
      and_true]
    exact ⟨.null, .bool _, .bool _, .float _, .float _, .float _⟩
  obtain ⟨⟨word, value⟩, member, begins⟩ := List.exists_of_findSome?_eq_some spelled
  obtain ⟨rest, -, rfl⟩ := Option.map_eq_some_iff.mp begins
  exact finds_ok (each _ member)

/-! ## (4) Values -/

mutual

theorem finds_readValue : (steps : Nat) → (source : Text) →
    Finds Bounded (readValue steps source)
  | 0, _ => finds_error _
  | steps + 1, source => by
      rw [readValue.eq_def]
      dsimp only
      split
      · rename_i rest
        intro value behind found
        obtain ⟨⟨quoted, _⟩, -, same⟩ := Outcome.map_eq_ok_iff.mp found
        cases same
        exact .text quoted
      · split
        · exact finds_ok (.object (List.forall_mem_nil _))
        · exact (finds_readMembers steps [] (List.forall_mem_nil _) _).map fun _ each =>
            .object each
      · split
        · exact finds_ok (.list (List.forall_mem_nil _))
        · exact (finds_readElements steps _).map fun _ each => .list each
      · split
        · rename_i keyword
          exact finds_readKeyword keyword
        · exact finds_readNumber source

theorem finds_readElements : (steps : Nat) → (source : Text) →
    Finds (fun items => ∀ item ∈ items, Bounded item) (readElements steps source)
  | 0, _ => finds_error _
  | steps + 1, source => by
      have first := finds_readValue steps source
      rw [readElements.eq_def]
      dsimp only
      split
      · exact finds_error _
      · rename_i value rest found
        have own := first value rest found
        split
        · exact finds_ok (List.forall_mem_singleton.mpr own)
        · rename_i behind comma
          exact (finds_readElements steps (skip behind)).map fun _ each =>
            List.forall_mem_cons.mpr ⟨own, each⟩
        · exact finds_error _

theorem finds_readMembers : (steps : Nat) → (before : List (Text × Json)) →
    (∀ field ∈ before, Bounded field.2) → (source : Text) →
    Finds (fun fields => ∀ field ∈ fields, Bounded field.2) (readMembers steps before source)
  | 0, _, _, _ => finds_error _
  | steps + 1, before, earlier, source => by
      rw [readMembers.eq_def]
      dsimp only
      split
      · split
        · exact finds_error _
        · rename_i name behind _
          split
          · rename_i behind colon
            split
            · exact finds_error _
            · rename_i value rest found
              -- the fields before this one are bounded by assumption, this one because it was read
              have own := finds_readValue _ _ value rest found
              have inserted := bounded_insertField earlier name own
              split
              · exact finds_ok inserted
              · rename_i behind comma
                exact finds_readMembers steps _ inserted (skip behind)
              · exact finds_error _
          · exact finds_error _
      · exact finds_error _

end

/-- All whole numbers of a value that is read are within the limit of digits. -/
theorem bounded_of_read {source : Text} {value : Json} (found : read source = .ok value) :
    Bounded value := by
  rw [read.eq_def] at found
  split at found
  · cases found
  · split at found
    · cases found
    · rename_i own rest begins
      have bounded := finds_readValue _ _ own rest begins
      split at found
      · cases found
        exact bounded
      · cases found

end Coursework.Json
