import Coursework.Api.Body
import Coursework.Api.Credentials
import Coursework.Api.Server
import Coursework.Proofs.Api.Work
import Coursework.Proofs.Outcome

/-! # Admission of a request

Before the work of a service begins, the text of the request is read, the educator is asked for,
and what was read is checked. Reading and checking have no part in the world, so that nothing but
the question whose the token is lies before that work.

* **`Confirmation.Confirms`** is an answer of the issuer that tells whose a token is;
  **`confirmed_eq_some_iff`** shows that no other does.
* **`Work.Steady`** is work that has no part in the world.
* **`Admits`** says that a request comes from an educator, **`Gives`** what its text gives.
* **`ends_serveGiven`** and **`ends_serveNumber`** are the ways in which a service is reached or
  not. -/

namespace Coursework.Remote

/-! ## (1) Answers of the issuer -/

/-- An answer of the issuer of tokens confirms an address: it is one of success, and its text an
object in which the address is given and is a text. -/
def Confirmation.Confirms (answer : Confirmation) (address : Text) : Prop :=
  ∃ status body fields, answer = .answered status body ∧ 200 ≤ status ∧ status < 300 ∧
    Json.read (withoutMark body) = .ok (.object fields) ∧
    Json.fieldIn? "email" fields = some (.text address) ∧ address ≠ []

/-- An educator is made of a token and an address, which is a text. -/
theorem eq_of_ofEmail {token : Text} {email : Json} {educator : Educator}
    (made : Educator.ofEmail token email = .ok educator) :
    email = .text educator.email ∧ educator.token = token := by
  cases email with
  | text address =>
      have : Educator.ofEmail token (.text address) = .ok ⟨address, token⟩ := rfl
      rw [this] at made
      cases made
      exact ⟨rfl, rfl⟩
  | null | bool _ | int _ | float _ | list _ | object _ => cases made

/-- A text tells of an educator exactly if it is an object in which an address is given. -/
theorem ofBody_eq_some_iff {token body : Text} {educator : Educator} :
    Educator.ofBody token body = .ok (some educator) ↔
      (∃ fields, Json.read (withoutMark body) = .ok (.object fields) ∧
        Json.fieldIn? "email" fields = some (.text educator.email) ∧ educator.email ≠ []) ∧
        educator.token = token := by
  rw [Educator.ofBody]
  constructor
  · intro known
    obtain ⟨value, read, known⟩ := Outcome.bind_eq_ok_iff.mp known
    have read := Outcome.mapError_eq_ok_iff.mp read
    cases value with
    | object fields =>
        dsimp only at known
        split at known
        next => cases known
        next given =>
          obtain ⟨_, made, known⟩ := Outcome.bind_eq_ok_iff.mp known
          cases known
          obtain ⟨address, token⟩ := eq_of_ofEmail made
          rw [address] at given
          refine ⟨⟨fields, read, ?_, fun empty => given (by rw [empty]; rfl)⟩, token⟩
          -- a field that is absent counts as null, which is no text
          cases found : Json.fieldIn? "email" fields with
          | none =>
              rw [found] at address
              cases address
          | some email =>
              rw [found] at address
              exact congrArg some address
    | null | bool _ | int _ | float _ | text _ | list _ => cases known
  · rintro ⟨⟨fields, read, found, filled⟩, rfl⟩
    have given : (Json.text educator.email).isVoid = false := List.isEmpty_eq_false_iff.mpr filled
    refine Outcome.bind_eq_ok_iff.mpr ⟨_, Outcome.mapError_eq_ok_iff.mpr read, ?_⟩
    dsimp only
    rw [found, Option.getD_some, given]
    rfl

/-- An educator is known exactly by an answer that confirms an address. -/
theorem confirmed_eq_some_iff {token : Text} {answer : Confirmation} {educator : Educator} :
    Educator.confirmed token answer = .ok (some educator) ↔
      answer.Confirms educator.email ∧ educator.token = token := by
  constructor
  · intro confirmed
    cases answer with
    | unreachable => cases confirmed
    | answered status body =>
        rw [Educator.confirmed] at confirmed
        split at confirmed
        next success =>
          rw [Bool.and_eq_true, decide_eq_true_eq, decide_eq_true_eq] at success
          obtain ⟨⟨fields, known⟩, token⟩ := ofBody_eq_some_iff.mp confirmed
          exact ⟨⟨status, body, fields, rfl, success.1, success.2, known⟩, token⟩
        next => cases confirmed
  · rintro ⟨⟨status, body, fields, rfl, least, most, known⟩, token⟩
    have success : (200 ≤ status && status < 300) = true := by
      rw [Bool.and_eq_true, decide_eq_true_eq, decide_eq_true_eq]
      exact ⟨least, most⟩
    rw [Educator.confirmed, if_pos success]
    exact ofBody_eq_some_iff.mpr ⟨⟨fields, known⟩, token⟩

end Coursework.Remote

namespace Coursework.Api

/-! ## (2) Work that has no part in the world -/

/-- Work gives the same in every world and leaves it as it is. -/
def Work.Steady {α : Type} (work : Work α) (result : Except Stop α) : Prop :=
  ∀ world, Ends work world result world

theorem Work.Steady.ends_iff {α : Type} {work : Work α} {result other : Except Stop α}
    {world after : World} (steady : work.Steady result) :
    Ends work world other after ↔ other = result ∧ after = world := by
  constructor
  · intro ends
    exact ends.unique (steady world)
  · rintro ⟨rfl, rfl⟩
    exact steady after

/-- It gives one thing only. -/
theorem Work.Steady.unique {α : Type} {work : Work α} {result other : Except Stop α}
    (steady : work.Steady result) (again : work.Steady other) : result = other :=
  let world : World := { issuer := .unreachable }
  ((steady world).unique (again world)).1

/-- What a form makes of a value, or the refusal of what does not fit. -/
def fitted {α : Type} (place : Text) (check : Json → Checked α) (value : Json) : Except Stop α :=
  (check value).mapError fun issues =>
    .refused (.misfit (.object [(place, value)]) (issues.map (Issue.within (.field place))))

theorem steady_ofForm {α : Type} (place : Text) (check : Json → Checked α) (value : Json) :
    (Work.ofForm place check value).Steady (fitted place check value) := by
  intro world
  rw [Work.ofForm, fitted]
  cases check value with
  | error issues => exact Work.ends_refuse_iff.mpr ⟨rfl, rfl⟩
  | ok value => exact ends_pure_iff.mpr ⟨rfl, rfl⟩

/-- The text of a request is read without regard to the world. -/
theorem exists_steady_readBody (request : Web.Request) :
    ∃ result, (readBody request).Steady result := by
  rw [readBody]
  split
  · exact ⟨_, fun _ => ends_pure_iff.mpr ⟨rfl, rfl⟩⟩
  · split
    · dsimp only
      split
      · exact ⟨_, fun _ => ends_pure_iff.mpr ⟨rfl, rfl⟩⟩
      · exact ⟨_, fun _ => Work.ends_refuse_iff.mpr ⟨rfl, rfl⟩⟩
      · exact ⟨_, fun _ => Work.ends_refuse_iff.mpr ⟨rfl, rfl⟩⟩
    · exact ⟨_, fun _ => ends_pure_iff.mpr ⟨rfl, rfl⟩⟩

/-! ## (3) The educator -/

/-- A request bears the token of an educator. -/
def Admits (world : World) (request : Web.Request) (educator : Remote.Educator) : Prop :=
  ∃ token, tokenOf request = some token ∧
    Remote.Educator.confirmed token world.issuer = .ok (some educator)

/-- The world after the issuer of tokens was asked whose the token of a request is. -/
def asked (world : World) (request : Web.Request) : World :=
  { world with log := world.log ++ (tokenOf request).toList.map Call.inquiry }

/-- Only a token that is confirmed lets the work go on, and the issuer is asked if there is a
token at all. -/
theorem ends_authenticate {request : Web.Request} {world after : World}
    {result : Except Stop Remote.Educator}
    (ends : Ends (authenticate request) world result after) :
    after = asked world request ∧
      ∀ educator, result = .ok educator ↔ Admits world request educator := by
  rw [authenticate] at ends
  cases borne : tokenOf request with
  | none =>
      have refused : Ends (Work.orRefuse (none : Option Text) .noToken) world
          (.error (.refused .noToken)) world := Work.ends_orRefuse_iff.mpr ⟨rfl, rfl⟩
      rw [borne] at ends
      obtain ⟨rfl, rfl⟩ := ends.unique refused.bind_error
      simp [asked, Admits, borne]
  | some token =>
      have passed : Ends (Work.orRefuse (some token) .noToken) world (.ok token) world :=
        Work.ends_orRefuse_iff.mpr ⟨rfl, rfl⟩
      rw [borne, passed.bind_iff, ends_bind_iff] at ends
      simp only [Work.ends_identify_iff, Work.ends_orRefuse_iff] at ends
      have admits : ∀ educator, Admits world request educator ↔
          Remote.Educator.confirmed token world.issuer = .ok (some educator) := by
        simp [Admits, borne]
      simp only [admits, asked, borne, Option.toList_some, List.map_cons, List.map_nil]
      cases confirmed : Remote.Educator.confirmed token world.issuer with
      | error failure =>
          rcases ends with ⟨found, _, ⟨h, -⟩, -⟩ | ⟨reason, ⟨-, rfl⟩, rfl⟩
          · rw [confirmed] at h
            cases h
          · simp
      | ok found =>
          rw [confirmed] at ends
          rcases ends with ⟨_, _, ⟨⟨⟩, rfl⟩, rfl, rfl⟩ | ⟨reason, ⟨h, -⟩, -⟩
          · cases found <;> simp
          · cases h

/-- A token that a request bears is not empty. -/
theorem tokenOf_ne_nil {request : Web.Request} {token : Text}
    (borne : tokenOf request = some token) : token ≠ [] := by
  obtain ⟨value, -, found⟩ := Option.bind_eq_some_iff.mp borne
  rintro rfl
  rw [tokenIn?] at found
  split at found
  next shown => simp_all
  next => cases found

/-- An educator who is confirmed by a token has that token. -/
theorem token_of_confirmed {token : Text} {answer : Remote.Confirmation}
    {educator : Remote.Educator}
    (confirmed : Remote.Educator.confirmed token answer = .ok (some educator)) :
    educator.token = token :=
  (Remote.confirmed_eq_some_iff.mp confirmed).2

/-- The token of an educator is not empty. -/
theorem Admits.token_ne_nil {world : World} {request : Web.Request} {educator : Remote.Educator}
    (admits : Admits world request educator) : educator.token ≠ [] := by
  obtain ⟨token, borne, confirmed⟩ := admits
  rw [token_of_confirmed confirmed]
  exact tokenOf_ne_nil borne

/-- A request comes from one educator. -/
theorem Admits.unique {world : World} {request : Web.Request} {educator other : Remote.Educator}
    (admits : Admits world request educator) (again : Admits world request other) :
    educator = other := by
  obtain ⟨token, borne, confirmed⟩ := admits
  obtain ⟨_, reborne, hother⟩ := again
  obtain rfl := Option.some.inj (borne.symm.trans reborne)
  exact Option.some.inj (Except.ok.inj (confirmed.symm.trans hother))

/-! ## (4) The way to a service -/

/-- What the text of a request gives, checked. -/
def Gives {α : Type} (request : Web.Request) (check : Form.Fields → Checked α) (given : α) :
    Prop :=
  ∃ value, (readBody request).Steady (.ok value) ∧ Api.given check value = .ok given

theorem given_object {α : Type} (check : Form.Fields → Checked α) (fields : Form.Fields) :
    given check (.object fields) = check fields := rfl

/-- A request gives one thing. -/
theorem Gives.unique {α : Type} {request : Web.Request} {check : Form.Fields → Checked α}
    {given other : α} (gives : Gives request check given) (again : Gives request check other) :
    given = other := by
  obtain ⟨value, read, fits⟩ := gives
  obtain ⟨found, reread, hother⟩ := again
  obtain rfl := Except.ok.inj (read.unique reread)
  exact Except.ok.inj (fits.symm.trans hother)

/-- A service is reached with an educator and with what the request gives; before that, at most
the issuer of tokens is asked, and not even that if the text cannot be read. -/
theorem ends_serveGiven {α : Type} {request : Web.Request} {check : Form.Fields → Checked α}
    {work : Remote.Educator → α → Work Web.Response} {world after : World}
    {result : Except Stop Web.Response}
    (ends : Ends (serveGiven request check work) world result after) :
    (∃ reason, result = .error reason ∧ after = world ∧ ∀ given, ¬Gives request check given) ∨
      (∃ reason, result = .error reason ∧ after = asked world request ∧
        ∀ educator given, Admits world request educator → ¬Gives request check given) ∨
      ∃ educator given, Admits world request educator ∧ Gives request check given ∧
        Ends (work educator given) (asked world request) result after := by
  obtain ⟨read, steady⟩ := exists_steady_readBody request
  rw [serveGiven, ends_bind_iff] at ends
  simp only [steady.ends_iff] at ends
  rcases ends with ⟨value, _, ⟨rfl, rfl⟩, ends⟩ | ⟨reason, ⟨rfl, rfl⟩, rfl⟩
  · rw [ends_bind_iff] at ends
    rcases ends with ⟨educator, between, known, ends⟩ | ⟨reason, unknown, rfl⟩
    · obtain ⟨rfl, hadmits⟩ := ends_authenticate known
      rw [ends_bind_iff] at ends
      simp only [fromBody, (steady_ofForm _ _ _).ends_iff] at ends
      rcases ends with ⟨given, _, ⟨hgiven, rfl⟩, ends⟩ | ⟨reason, ⟨unfit, rfl⟩, rfl⟩
      · exact .inr (.inr ⟨educator, given, (hadmits educator).mp rfl,
          ⟨value, steady, Outcome.mapError_eq_ok_iff.mp hgiven.symm⟩, ends⟩)
      · -- what is read does not fit, and another reading gives the same
        refine .inr (.inl ⟨reason, rfl, rfl, ?_⟩)
        rintro _ given - ⟨other, again, fits⟩
        obtain rfl := Except.ok.inj (steady.unique again)
        rw [fitted, fits] at unfit
        cases unfit
    · obtain ⟨rfl, hadmits⟩ := ends_authenticate unknown
      refine .inr (.inl ⟨reason, rfl, rfl, fun educator _ admits => ?_⟩)
      cases (hadmits educator).mpr admits
  · refine .inl ⟨reason, rfl, rfl, ?_⟩
    rintro given ⟨value, read, -⟩
    cases steady.unique read

/-- A service is reached by a request from an educator that gives what fits. -/
theorem ends_of_gives {α : Type} {request : Web.Request} {check : Form.Fields → Checked α}
    {work : Remote.Educator → α → Work Web.Response} {world after : World}
    {result : Except Stop Web.Response} {educator : Remote.Educator} {given : α}
    (admits : Admits world request educator) (gives : Gives request check given)
    (ends : Ends (serveGiven request check work) world result after) :
    Ends (work educator given) (asked world request) result after := by
  rcases ends_serveGiven ends with ⟨_, -, -, unread⟩ | ⟨_, -, -, unfit⟩ |
    ⟨other, found, hother, hfound, ends⟩
  · exact absurd gives (unread given)
  · exact absurd gives (unfit educator given admits)
  · rw [admits.unique hother, gives.unique hfound]
    exact ends

/-- The number in a path is read without regard to the world. -/
theorem ends_fromPath {name : Text} {parts : List Text} {world after : World}
    {result : Except Stop Int} (ends : Ends (fromPath name parts) world result after) :
    after = world ∧
      ∀ number, result = .ok number ↔ Form.readInteger (parts.headD []) = .ok number := by
  obtain ⟨rfl, rfl⟩ := (steady_ofForm _ _ _).ends_iff.mp ends
  refine ⟨rfl, fun number => ?_⟩
  have found : Form.lookUp [(name, .text (parts.headD []))] [name] =
      some (name, .text (parts.headD [])) := by
    simp [Form.lookUp, Json.fieldIn?]
  rw [fitted, Outcome.mapError_eq_ok_iff, Form.fieldsOf, Form.required, found]
  exact Outcome.mapError_eq_ok_iff

section Numbers

variable {request : Web.Request} {name : Text} {parts : List Text}
  {work : Remote.Educator → Int → Work Web.Response} {world after : World}
  {result : Except Stop Web.Response}

/-- A service that takes a number is reached in the same way, with the number in the path. -/
theorem ends_serveNumber (ends : Ends (serveNumber request name parts work) world result after) :
    (∃ reason, result = .error reason ∧ after = asked world request ∧
      ∀ educator number, Admits world request educator →
        Form.readInteger (parts.headD []) ≠ .ok number) ∨
      ∃ educator number, Admits world request educator ∧
        Form.readInteger (parts.headD []) = .ok number ∧
        Ends (work educator number) (asked world request) result after := by
  rw [serveNumber, ends_bind_iff] at ends
  rcases ends with ⟨educator, between, known, ends⟩ | ⟨reason, unknown, rfl⟩
  · obtain ⟨rfl, hadmits⟩ := ends_authenticate known
    rw [ends_bind_iff] at ends
    rcases ends with ⟨number, between, read, ends⟩ | ⟨reason, unread, rfl⟩
    · obtain ⟨rfl, hnumber⟩ := ends_fromPath read
      exact .inr ⟨educator, number, (hadmits educator).mp rfl, (hnumber number).mp rfl, ends⟩
    · obtain ⟨rfl, hnumber⟩ := ends_fromPath unread
      refine .inl ⟨reason, rfl, rfl, fun _ number _ named => ?_⟩
      cases (hnumber number).mpr named
  · obtain ⟨rfl, hadmits⟩ := ends_authenticate unknown
    refine .inl ⟨reason, rfl, rfl, fun educator _ admits => ?_⟩
    cases (hadmits educator).mpr admits

/-- It is reached by a request from an educator with a number in its path. -/
theorem ends_of_number {educator : Remote.Educator} {number : Int}
    (admits : Admits world request educator)
    (read : Form.readInteger (parts.headD []) = .ok number)
    (ends : Ends (serveNumber request name parts work) world result after) :
    Ends (work educator number) (asked world request) result after := by
  rcases ends_serveNumber ends with ⟨_, -, -, unread⟩ | ⟨other, found, again, reread, ends⟩
  · exact absurd read (unread educator number admits)
  · obtain rfl := admits.unique again
    obtain rfl := Except.ok.inj (read.symm.trans reread)
    exact ends

end Numbers

end Coursework.Api
