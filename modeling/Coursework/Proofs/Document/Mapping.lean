import Coursework.Document.Request

/-! # Requests lose nothing

Every operation is read off its request as it was, positions, texts and styles included. So a list
of operations comes back from its requests in order and number. A list with a value that is no
operation has no requests at all, wherever that value stands.

* **`Operation.ofRequest?_request`** reads one request.
* **`Operation.requests_map_operation`** maps a list of operations,
  **`Operation.requests_append`** a list in two parts.
* **`Operation.exists_requests_foreign`** finds the first value that refuses a list.
* **`Operation.requests_lossless`** is the main statement. -/

namespace Coursework.Operation

/-! ## (1) One request -/

/-- The bounds of a range are found under the name of the range. -/
theorem integerAt?_range (first last : Int) (behind : List (Text × Json)) :
    integerAt? ["range", "startIndex"] (.object (("range", range first last) :: behind)) =
        some first ∧
      integerAt? ["range", "endIndex"] (.object (("range", range first last) :: behind)) =
        some last := ⟨rfl, rfl⟩

/-- An operation is read off its request. -/
theorem ofRequest?_request (operation : Operation) :
    ofRequest? operation.request = some operation := by
  cases operation with
  | insertText index content => rfl
  | setParagraphStyle first last styleName =>
      rw [request, ofRequest?, (integerAt?_range _ _ _).1, (integerAt?_range _ _ _).2]
      rfl
  | setListBullets first last preset =>
      rw [request, ofRequest?, (integerAt?_range _ _ _).1, (integerAt?_range _ _ _).2]
      rfl
  | setTextStyle first last fontFamily weight =>
      rw [request, ofRequest?, (integerAt?_range _ _ _).1, (integerAt?_range _ _ _).2]
      rfl

/-! ## (2) Lists -/

/-- Operations are mapped one by one. -/
theorem requests_map_operation (operations : List Operation) :
    requests (operations.map .operation) = .ok (operations.map request) := by
  induction operations with
  | nil => rfl
  | cons operation operations ih =>
      rw [List.map_cons, requests, ih]
      rfl

/-- A list in two parts has the requests of the first before those of the second. -/
theorem requests_append (first second : List Candidate) :
    requests (first ++ second) = do
      let before ← requests first
      let behind ← requests second
      return before ++ behind := by
  induction first with
  | nil => cases h : requests second <;> simp [requests, h, bind, Except.bind, pure, Except.pure]
  | cons candidate first ih =>
      cases candidate with
      | foreign kind => rfl
      | operation value =>
          rw [List.cons_append, requests, requests, ih]
          cases requests first <;> cases requests second <;> rfl

/-- Of a list with a value that is no operation, the first such value is reported. -/
theorem exists_requests_foreign (before after : List Candidate) (kind : Text) :
    ∃ (earlier : List Operation) (found : Text) (later : List Candidate),
      before ++ .foreign kind :: after = earlier.map .operation ++ .foreign found :: later ∧
        requests (before ++ .foreign kind :: after) = .error (.unsupportedOperation found) := by
  induction before with
  | nil => exact ⟨[], kind, after, rfl, rfl⟩
  | cons candidate before ih =>
      cases candidate with
      | foreign first => exact ⟨[], first, _, rfl, rfl⟩
      | operation value =>
          obtain ⟨earlier, found, later, same, refused⟩ := ih
          refine ⟨value :: earlier, found, later,
            congrArg (Candidate.operation value :: ·) same, ?_⟩
          rw [List.cons_append, requests, refused]
          rfl

/-- **Requests lose nothing.** One decoder gives the operations of every list back from their
requests, in order and number. Lists in two parts are mapped in two parts. A list with a value that
is no operation, at whatever place, has no requests: the first such value refuses it. -/
theorem requests_lossless :
    (∀ operations : List Operation, ∃ mapped, requests (operations.map .operation) = .ok mapped ∧
      mapped.map ofRequest? = operations.map some) ∧
    (∀ first second : List Candidate, requests (first ++ second) = do
      let before ← requests first
      let behind ← requests second
      return before ++ behind) ∧
    ∀ (before after : List Candidate) (kind : Text),
      ∃ (earlier : List Operation) (found : Text) (later : List Candidate),
        before ++ .foreign kind :: after = earlier.map .operation ++ .foreign found :: later ∧
          requests (before ++ .foreign kind :: after) = .error (.unsupportedOperation found) := by
  refine ⟨fun operations => ⟨_, requests_map_operation operations, ?_⟩, requests_append,
    exists_requests_foreign⟩
  rw [List.map_map]
  exact List.map_congr_left fun operation _ => ofRequest?_request operation

end Coursework.Operation
