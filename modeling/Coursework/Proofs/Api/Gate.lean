import Coursework.Proofs.Api.Admission
import Coursework.Proofs.Api.Service

/-! # Requests from nobody who is known

A request whose token is not confirmed learns nothing of the store and leaves nothing behind: its
response is the same whatever the store holds, and nobody but the issuer of tokens is asked. That
is so also where the request is malformed, leads nowhere, or makes the confirmation itself fail.

* **`Stranger`** is a request without an answer of the issuer that tells whose its token is.
* **`Work.Asks`** is work that does nothing but ask of tokens; **`exists_asks_serve`** shows it of
  all work on the request of a stranger.
* **`response_of_stranger`** is the statement about two stores. -/

namespace Coursework.Api

/-! ## (1) Strangers -/

/-- A request comes from nobody who is known: it bears no token, or the issuer of tokens confirms
no address for it. -/
def Stranger (request : Web.Request) (issuer : Remote.Confirmation) : Prop :=
  tokenOf request = none ∨ ∀ address, ¬issuer.Confirms address

/-! ## (2) Work that only asks of tokens -/

section Asks

variable {α β : Type} {issuer : Remote.Confirmation} {tokens more : List Text}

theorem steady_refuse (refusal : Refusal) :
    (Work.refuse refusal : Work α).Steady (.error (.refused refusal)) :=
  fun _ => Work.ends_refuse_iff.mpr ⟨rfl, rfl⟩

theorem steady_orRefuse (value : Option α) (refusal : Refusal) :
    (Work.orRefuse value refusal).Steady (value.elim (.error (.refused refusal)) .ok) :=
  fun _ => Work.ends_orRefuse_iff.mpr ⟨rfl, rfl⟩

theorem steady_pure (value : α) : (pure value : Work α).Steady (.ok value) :=
  fun _ => ends_pure_iff.mpr ⟨rfl, rfl⟩

/-- In every world with this issuer of tokens, work gives the same and does nothing but ask the
issuer of these tokens. -/
def Work.Asks (work : Work α) (issuer : Remote.Confirmation) (tokens : List Text)
    (result : Except Stop α) : Prop :=
  ∀ world : World, world.issuer = issuer →
    Ends work world result { world with log := world.log ++ tokens.map Call.inquiry }

/-- Work that has no part in the world asks of nothing. -/
theorem Work.Steady.asks {work : Work α} {result : Except Stop α} (steady : work.Steady result)
    (issuer : Remote.Confirmation) : work.Asks issuer [] result := by
  intro world _
  rw [List.map_nil, List.append_nil]
  exact steady world

/-- What two steps ask of is asked in order. -/
theorem Work.Asks.bind {first : Work α} {second : α → Work β} {value : α}
    {result : Except Stop β} (asks : first.Asks issuer tokens (.ok value))
    (others : (second value).Asks issuer more result) :
    (first >>= second).Asks issuer (tokens ++ more) result := by
  intro world same
  rw [(asks world same).bind_iff, List.map_append, ← List.append_assoc]
  exact others _ same

/-- A first step that stops is the end. -/
theorem Work.Asks.bind_error {first : Work α} {second : α → Work β} {reason : Stop}
    (asks : first.Asks issuer tokens (.error reason)) :
    (first >>= second).Asks issuer tokens (.error reason) :=
  fun world same => (asks world same).bind_error

end Asks

section Strangers

variable {request : Web.Request} {issuer : Remote.Confirmation}

/-- The issuer is asked of one token. -/
theorem asks_identify (token : Text) (issuer : Remote.Confirmation) :
    (Work.identify token).Asks issuer [token]
      ((Remote.Educator.confirmed token issuer).mapError .failed) := by
  rintro world rfl
  exact Work.ends_identify_iff.mpr ⟨rfl, rfl⟩

/-- A stranger does not get in. -/
theorem exists_asks_authenticate (stranger : Stranger request issuer) :
    ∃ tokens reason, (authenticate request).Asks issuer tokens (.error reason) := by
  rw [authenticate]
  cases borne : tokenOf request with
  | none => exact ⟨_, _, ((steady_orRefuse none .noToken).asks issuer).bind_error⟩
  | some token =>
      have unconfirmed := stranger.resolve_left (by rw [borne]; exact Option.some_ne_none token)
      have passed := (steady_orRefuse (some token) .noToken).asks issuer
      have identified := asks_identify token issuer
      cases confirmed : Remote.Educator.confirmed token issuer with
      | error failure =>
          -- the confirmation itself fails
          rw [confirmed] at identified
          exact ⟨_, _, passed.bind identified.bind_error⟩
      | ok found =>
          rw [confirmed] at identified
          cases found with
          | none =>
              exact ⟨_, _, passed.bind
                (identified.bind ((steady_orRefuse none .unconfirmed).asks issuer))⟩
          | some educator =>
              have confirms := (Remote.confirmed_eq_some_iff.mp confirmed).1
              exact absurd confirms (unconfirmed educator.email)

/-! ## (3) Work on the request of a stranger -/

theorem exists_asks_serveGiven (stranger : Stranger request issuer) {α : Type}
    (check : Form.Fields → Checked α) (work : Remote.Educator → α → Work Web.Response) :
    ∃ tokens result, (serveGiven request check work).Asks issuer tokens result := by
  obtain ⟨read, steady⟩ := exists_steady_readBody request
  obtain ⟨tokens, reason, asks⟩ := exists_asks_authenticate stranger
  cases read with
  | error unread => exact ⟨_, _, (steady.asks issuer).bind_error⟩
  | ok value => exact ⟨_, _, (steady.asks issuer).bind asks.bind_error⟩

theorem exists_asks_serveNumber (stranger : Stranger request issuer) (name : Text)
    (parts : List Text) (work : Remote.Educator → Int → Work Web.Response) :
    ∃ tokens result, (serveNumber request name parts work).Asks issuer tokens result := by
  obtain ⟨tokens, reason, asks⟩ := exists_asks_authenticate stranger
  exact ⟨_, _, asks.bind_error⟩

/-- No service does more for a stranger. -/
theorem exists_asks_perform (stranger : Stranger request issuer) (parts : List Text)
    (service : Service) :
    ∃ tokens result, (perform request parts service).Asks issuer tokens result := by
  cases service with
  | createAssignment => exact exists_asks_serveGiven stranger _ _
  | approveAssignment => exact exists_asks_serveNumber stranger _ _ _
  | listAssignments => exact exists_asks_serveNumber stranger _ _ _
  | createClassroom => exact exists_asks_serveGiven stranger _ _
  | showClassroom => exact exists_asks_serveNumber stranger _ _ _
  | showStatus => exact ⟨_, _, (steady_pure _).asks issuer⟩

/-- Nor is more done on a request that leads to no service. -/
theorem exists_asks_serve (stranger : Stranger request issuer) :
    ∃ tokens result, (serve request).Asks issuer tokens result := by
  rw [serve]
  cases Way.ofRequest request with
  | service service parts => exact exists_asks_perform stranger parts service
  | otherMethod method => exact ⟨_, _, (steady_refuse _).asks issuer⟩
  | elsewhere path => exact ⟨_, _, (steady_pure _).asks issuer⟩
  | nowhere => exact ⟨_, _, (steady_refuse _).asks issuer⟩

/-! ## (4) Two stores -/

/-- A request left nothing behind: the store is what it was, and nobody but the issuer of tokens
was asked. -/
structure Traceless (before after : World) : Prop where
  /-- The store is what it was. -/
  store : after.store = before.store
  /-- Nobody but the issuer of tokens was asked. -/
  log : ∃ tokens : List Text, after.log = before.log ++ tokens.map Call.inquiry

/-- What is asked of tokens leaves nothing else behind, and leads to the same response. -/
theorem exists_response_of_stranger (stranger : Stranger request issuer) :
    ∃ response, ∀ world : World, world.issuer = issuer →
      (answer request world).1 = response ∧ Traceless world (answer request world).2 := by
  cases asksNothing : Web.preflight? request with
  | some response =>
      refine ⟨response, fun world _ => ?_⟩
      rw [answer, asksNothing]
      exact ⟨rfl, rfl, [], by rw [List.map_nil, List.append_nil]⟩
  | none =>
      obtain ⟨tokens, result, asks⟩ := exists_asks_serve stranger
      refine ⟨withoutContent request (conclude request result), fun world same => ?_⟩
      obtain ⟨other, ends, concluded⟩ := ends_answer asksNothing world
      obtain ⟨rfl, after⟩ := ends.unique (asks world same)
      rw [concluded, after]
      exact ⟨rfl, rfl, tokens, rfl⟩

/-- Whatever two stores hold, a request from nobody who is known has the same response and leaves
nothing behind in either. -/
theorem response_of_stranger (request : Web.Request) (first second : World)
    (same : second.issuer = first.issuer) (stranger : Stranger request first.issuer) :
    (answer request first).1 = (answer request second).1 ∧
      Traceless first (answer request first).2 ∧ Traceless second (answer request second).2 := by
  obtain ⟨response, alike⟩ := exists_response_of_stranger stranger
  obtain ⟨hfirst, firstTraceless⟩ := alike first rfl
  obtain ⟨hsecond, secondTraceless⟩ := alike second same
  exact ⟨hfirst.trans hsecond.symm, firstTraceless, secondTraceless⟩

end Strangers

/-- A request for the classroom of the sample world. -/
def showRequest : Web.Request where
  method := "GET"
  target := "/api/classrooms/1"
  fields := [("authorization", "Bearer t")]

/-- The sample world, with an issuer of tokens that names no address. -/
def strangeWorld : World := { sampleWorld with issuer := .answered 200 "\x7b\x7d" }

/-- A classroom that is there is hidden like one that is not. -/
theorem response_of_stranger_sample :
    Stranger showRequest strangeWorld.issuer ∧
      (answer showRequest strangeWorld).1.status = 403 ∧
      (answer showRequest strangeWorld).1 =
        (answer showRequest { strangeWorld with store := {} }).1 ∧
      Traceless strangeWorld (answer showRequest strangeWorld).2 ∧
      Traceless { strangeWorld with store := {} }
        (answer showRequest { strangeWorld with store := {} }).2 := by
  have stranger : Stranger showRequest strangeWorld.issuer := by
    right
    rintro address ⟨_, _, fields, ⟨⟩, -, -, read, found, -⟩
    have empty : Json.read (Remote.withoutMark "\x7b\x7d") = .ok (.object []) := by cbv
    obtain rfl := Json.object.inj (Except.ok.inj (empty.symm.trans read))
    cases found
  exact ⟨stranger, by decide +kernel,
    response_of_stranger showRequest strangeWorld { strangeWorld with store := {} } rfl stranger⟩

end Coursework.Api
