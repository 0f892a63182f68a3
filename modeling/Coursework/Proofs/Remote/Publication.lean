import Coursework.Proofs.Remote.Session
import Coursework.Remote.Document

/-! # Publication of a document

A document is created, filled and shared by requests that follow from its title, its content, the
identity that the first reply gives and its readers. Where the work stops, exactly the requests
before that were sent.

* **`Reply.Gives`** is a reply with an identity, **`Reply.Names`** one whose identity can stand in
  an address.
* **`Publication`** lists how far creating and filling come, **`ends_publish`** shows that there
  is no other way.
* **`Sharing`** and **`ends_share`** are the same for the readers. -/

namespace Coursework.Remote

/-! ## (1) The requests -/

/-- Where documents are created. -/
def creationAddress : Text := "https://docs.googleapis.com/v1/documents?alt=json"

/-- The request that creates a document. -/
def creation (title : Text) : Request := ⟨creationAddress, .object [("title", .text title)]⟩

/-- The request that fills the document whose identity has this part in addresses. -/
def filling (part : Text) (requests : List Json) : Request :=
  ⟨("https://docs.googleapis.com/v1/documents/" : Text) ++ part ++ ":batchUpdate?alt=json",
    .object [("requests", .list requests)]⟩

/-- The request that lets a reader see it: one user, known by a mail address, may read. -/
def sharing (part reader : Text) : Request :=
  ⟨("https://www.googleapis.com/drive/v3/files/" : Text) ++ part ++
    "/permissions?fields=id&alt=json",
    .object [("role", .text "reader"), ("type", .text "user"), ("emailAddress", .text reader)]⟩

/-- Where the document of an identity is read. -/
def readingAddress (identity : Text) : Text :=
  ("https://docs.google.com/document/d/" : Text) ++ identity ++ "/edit"

/-- What a candidate list of operations asks for, if all are operations. -/
theorem requests_operation (operations : List Operation) :
    Operation.requests (operations.map .operation) = .ok (operations.map Operation.request) := by
  induction operations with
  | nil => rfl
  | cons operation operations ih =>
      rw [List.map_cons, Operation.requests, ih]
      rfl

/-! ## (2) Steps of a publication -/

section Steps

variable {session after : Session} {access : Access}

/-- An empty token stops the work. -/
theorem ends_checkToken_iff {result : Outcome Unit} :
    Ends access.checkToken session result after ↔
      result = (if access.token.isEmpty then .error .missingToken else .ok ()) ∧
        after = session := by
  rw [Access.checkToken]
  split
  · exact ends_throw_iff
  · exact ends_pure_iff

/-- A service can be opened with a token that is not empty, and nothing is sent for it. -/
theorem Access.ends_open (hasToken : access.token ≠ []) (service : Service)
    (session : Session) :
    ∃ opened, Ends (access.open service) session (.ok ()) { session with opened } := by
  rw [Access.open]
  cases access.ready with
  | true => exact ⟨session.opened, ends_pure_iff.mpr ⟨rfl, rfl⟩⟩
  | false =>
      have checked : Ends access.checkToken session (.ok ()) session := by
        rw [ends_checkToken_iff, if_neg (by simpa using hasToken)]
        exact ⟨rfl, rfl⟩
      exact ⟨_, checked.bind_iff.mpr (ends_modify_iff.mpr ⟨rfl, rfl⟩)⟩

/-- A service that is open already stays as it is. -/
theorem Access.ends_open_ready (ready : access.ready = true) (service : Service) :
    Ends (access.open service) session (.ok ()) session := by
  rw [Access.open, ready]
  exact ends_pure_iff.mpr ⟨rfl, rfl⟩

end Steps

/-- A document is filled under the part that its identity has in addresses. -/
theorem fillAddress_eq_ok {identity part : Text} (encoded : identity.percentEncoded = .ok part)
    (requests : List Json) : fillAddress identity = .ok (filling part requests).address := by
  rw [fillAddress, encoded]
  rfl

/-- Readers are named under the same part. -/
theorem shareAddress_eq_ok {identity part : Text} (encoded : identity.percentEncoded = .ok part)
    (reader : Text) : shareAddress identity = .ok (sharing part reader).address := by
  rw [shareAddress, encoded]
  rfl

/-- Only an identity that is a text has a link, under its own name. -/
theorem ofIdentity_eq_ok {identity : Json} {link : Link}
    (linked : Link.ofIdentity identity = .ok link) :
    identity = .text link.identity ∧ link.address = readingAddress link.identity := by
  cases identity with
  | text name =>
      have : Link.ofIdentity (.text name) = .ok ⟨name, readingAddress name⟩ := rfl
      rw [this, Except.ok.injEq] at linked
      subst linked
      exact ⟨rfl, rfl⟩
  | null | bool _ | int _ | float _ | list _ | object _ => cases linked

/-! ## (3) Creating and filling -/

/-- A reply gives the identity of a document: it says an object in which one stands. -/
def Reply.Gives (reply : Reply) (identity : Json) : Prop :=
  ∃ fields, reply.Says (.object fields) ∧ Json.fieldIn? "documentId" fields = some identity ∧
    identity.isVoid = false

/-- A reply names a new document: it gives an identity, and that has a part in addresses. -/
def Reply.Names (reply : Reply) (identity : Json) (part : Text) : Prop :=
  reply.Gives identity ∧ identity.display.percentEncoded = .ok part

/-- A reply gives one identity at most. -/
theorem Reply.Gives.unique {reply : Reply} {identity other : Json} (gives : reply.Gives identity)
    (again : reply.Gives other) : identity = other := by
  obtain ⟨fields, said, found, -⟩ := gives
  obtain ⟨_, saidAgain, foundAgain, -⟩ := again
  obtain ⟨⟩ := said.unique saidAgain
  exact Option.some.inj (found.symm.trans foundAgain)

/-- An identity is found in an object in which one stands. -/
theorem identityIn_eq_ok_iff {answer identity : Json} :
    identityIn answer = .ok identity ↔
      ∃ fields, answer = .object fields ∧ Json.fieldIn? "documentId" fields = some identity ∧
        identity.isVoid = false := by
  constructor
  · intro identified
    rw [identityIn.eq_def] at identified
    split at identified
    next fields =>
      split at identified
      next found =>
        split at identified
        next => cases identified
        next filled =>
          obtain rfl := Except.ok.inj identified
          exact ⟨fields, rfl, found, eq_false_of_ne_true filled⟩
      next => cases identified
    next => cases identified
  · rintro ⟨fields, rfl, found, filled⟩
    rw [identityIn, found]
    dsimp only
    rw [filled]
    rfl

/-- A reply gives the identity that is found in what it says. -/
theorem Reply.gives_iff {reply : Reply} {identity : Json} :
    reply.Gives identity ↔ ∃ answer, reply.Says answer ∧ identityIn answer = .ok identity := by
  constructor
  · rintro ⟨fields, said, found⟩
    exact ⟨.object fields, said, identityIn_eq_ok_iff.mpr ⟨fields, rfl, found⟩⟩
  · rintro ⟨answer, said, identified⟩
    obtain ⟨fields, rfl, found⟩ := identityIn_eq_ok_iff.mp identified
    exact ⟨fields, said, found⟩

/-- The request that fills a document with a compiled content. -/
def fillingWith (part : Text) (compilation : Compilation) : Request :=
  filling part (compilation.operations.map Operation.request)

/-- How far creating and filling a document come: what is sent and replied, and how it ends. -/
inductive Publication (title : Text) (content : Content) (token : Text) :
    List (Request × Reply) → Outcome Link → Prop
  /-- There is no token. -/
  | tokenless (noToken : token = []) :
    Publication title content token [] (.error .missingToken)
  /-- The content is not compiled. -/
  | uncompiled {failure : Failure} (unsound : compiled content = .error failure) :
    Publication title content token [] (.error failure)
  /-- The document is not created, or created without a name. -/
  | unnamed {compilation : Compilation} {reply : Reply} {failure : Failure}
    (hasToken : token ≠ []) (sound : compiled content = .ok compilation)
    (nameless : ∀ identity part, ¬reply.Names identity part) :
    Publication title content token [(creation title, reply)] (.error failure)
  /-- The document is not filled. -/
  | unfilled {compilation : Compilation} {first second : Reply} {identity : Json} {part : Text}
    {failure : Failure} (hasToken : token ≠ []) (sound : compiled content = .ok compilation)
    (named : first.Names identity part) (silent : ∀ value, ¬second.Says value) :
    Publication title content token
      [(creation title, first), (fillingWith part compilation, second)] (.error failure)
  /-- The document is filled, and linked to if its identity is a text. -/
  | filled {compilation : Compilation} {first second : Reply} {identity value : Json}
    {part : Text} {result : Outcome Link} (hasToken : token ≠ [])
    (sound : compiled content = .ok compilation) (named : first.Names identity part)
    (said : second.Says value) (linked : Link.ofIdentity identity = result) :
    Publication title content token
      [(creation title, first), (fillingWith part compilation, second)] result

/-- A link is given for the identity that the first reply names, when the document is filled. -/
theorem Publication.of_ok {title token : Text} {content : Content}
    {exchanged : List (Request × Reply)} {link : Link} {result : Outcome Link}
    (course : Publication title content token exchanged result) (ok : result = .ok link) :
    token ≠ [] ∧ ∃ compilation part first second value, compiled content = .ok compilation ∧
      first.Names (.text link.identity) part ∧ second.Says value ∧
      exchanged = [(creation title, first), (fillingWith part compilation, second)] := by
  cases course with
  | tokenless _ => cases ok
  | uncompiled _ => cases ok
  | unnamed _ _ _ => cases ok
  | unfilled _ _ _ _ => cases ok
  | filled hasToken sound named said linked =>
      rw [(ofIdentity_eq_ok (linked.trans ok)).1] at named
      exact ⟨hasToken, _, _, _, _, _, sound, named, said, rfl⟩

/-- An identity that is named has that part in addresses. -/
theorem Reply.Names.percentEncoded {reply : Reply} {identity part : Text}
    (named : reply.Names (.text identity) part) : identity.percentEncoded = .ok part := by
  exact named.2

section Publish

variable {session after : Session} {title : Text} {content : Content} {access : Access}

/-- A document is created by one request, whose reply must give an identity. -/
theorem ends_createDocument_iff {result : Outcome Json} (ready : access.ready = true) :
    Ends (createDocument title access) session result after ↔
      result = judge "Create document" (session.answer (creation title)).1 >>= identityIn ∧
        after = (session.answer (creation title)).2 := by
  rw [createDocument, (Access.ends_open_ready ready .documents).bind_iff]
  have called : Ends (call "Create document" (creation title)) session
      (judge "Create document" (session.answer (creation title)).1)
      (session.answer (creation title)).2 := ends_call_iff.mpr ⟨rfl, rfl⟩
  cases h : judge "Create document" (session.answer (creation title)).1 with
  | error failure =>
      rw [h] at called
      constructor
      · intro ends
        exact ends.unique called.bind_error
      · rintro ⟨rfl, rfl⟩
        exact called.bind_error
  | ok answer =>
      rw [h] at called
      exact called.bind_iff.trans Exchange.ends_ofOutcome_iff

/-- A document is filled by one request, if its identity has a part in addresses. -/
theorem ends_fillDocument_iff {identity part : Text} {operations : List Operation}
    {result : Outcome Json} (ready : access.ready = true)
    (encoded : identity.percentEncoded = .ok part) :
    Ends (fillDocument identity (operations.map .operation) access) session result after ↔
      result = judge "Format document"
          (session.answer (filling part (operations.map Operation.request))).1 ∧
        after = (session.answer (filling part (operations.map Operation.request))).2 := by
  rw [fillDocument, (Access.ends_open_ready ready .documents).bind_iff, requests_operation,
    fillAddress_eq_ok encoded (operations.map Operation.request)]
  exact ends_call_iff

/-- Without such a part nothing is sent. -/
theorem ends_fillDocument_unencoded {identity : Text} {operations : List Operation}
    {fault : Unencodable} {result : Outcome Json} (ready : access.ready = true)
    (unencoded : identity.percentEncoded = .error fault)
    (ends : Ends (fillDocument identity (operations.map .operation) access) session result after) :
    result = .error (.unencodable fault) ∧ after = session := by
  rw [fillDocument, (Access.ends_open_ready ready .documents).bind_iff, requests_operation,
    fillAddress, unencoded] at ends
  exact ends_throw_iff.mp ends

/-- How creating and filling end once the content is compiled. -/
theorem publication_of_ends {compilation : Compilation} {result : Outcome Link}
    (ready : access.ready = true) (sound : compiled content = .ok compilation)
    (ends : Ends (do
        let identity ← createDocument title access
        let _ ← fillDocument identity.display (compilation.operations.map .operation) access
        Exchange.ofOutcome (Link.ofIdentity identity)) session result after)
    (hasToken : access.token ≠ []) :
    ∃ exchanged, session.Exchanges exchanged after ∧
      Publication title content access.token exchanged result := by
  rw [ends_bind_iff] at ends
  simp only [ends_createDocument_iff ready] at ends
  rcases ends with ⟨identity, _, ⟨created, rfl⟩, ends⟩ | ⟨failure, ⟨uncreated, rfl⟩, rfl⟩
  · obtain ⟨answer, judged, identified⟩ := Outcome.bind_eq_ok_iff.mp created.symm
    have gives := Reply.gives_iff.mpr ⟨answer, judge_eq_ok_iff.mp judged, identified⟩
    cases encoded : identity.display.percentEncoded with
    | error fault =>
        -- a document that cannot be addressed is not filled
        have unfilled : ∀ identity part,
            ¬(session.answer (creation title)).1.Names identity part := by
          rintro other part ⟨again, hpart⟩
          obtain rfl := gives.unique again
          cases encoded.symm.trans hpart
        rw [ends_bind_iff] at ends
        rcases ends with ⟨value, between, filled, -⟩ | ⟨failure, stopped, rfl⟩
        · cases (ends_fillDocument_unencoded ready encoded filled).1
        · obtain ⟨-, rfl⟩ := ends_fillDocument_unencoded ready encoded stopped
          exact ⟨_, Session.exchanges_answer, .unnamed hasToken sound unfilled⟩
    | ok part =>
        have named : (session.answer (creation title)).1.Names identity part := ⟨gives, encoded⟩
        rw [ends_bind_iff] at ends
        simp only [ends_fillDocument_iff ready encoded] at ends
        rcases ends with ⟨value, _, ⟨filled, rfl⟩, ends⟩ | ⟨failure, ⟨unfilled, rfl⟩, rfl⟩
        · obtain ⟨rfl, rfl⟩ := Exchange.ends_ofOutcome_iff.mp ends
          exact ⟨_, Session.exchanges_answer.append Session.exchanges_answer,
            .filled hasToken sound named (judge_eq_ok_iff.mp filled.symm) rfl⟩
        · exact ⟨_, Session.exchanges_answer.append Session.exchanges_answer,
            .unfilled hasToken sound named (not_says_of_judge unfilled.symm)⟩
  · refine ⟨_, Session.exchanges_answer, .unnamed hasToken sound ?_⟩
    rintro identity part ⟨gives, -⟩
    obtain ⟨answer, said, identified⟩ := Reply.gives_iff.mp gives
    have created : (judge "Create document" (session.answer (creation title)).1 >>= identityIn) =
        .ok identity := Outcome.bind_eq_ok_iff.mpr ⟨answer, judge_eq_ok_iff.mpr said, identified⟩
    rw [created] at uncreated
    cases uncreated

/-- There is no other way for creating and filling a document to end, and nothing but the
requests listed is sent. -/
theorem ends_publish {result : Outcome Link}
    (ends : Ends (publish title content access) session result after) :
    ∃ exchanged, session.Exchanges exchanged after ∧
      Publication title content access.token exchanged result := by
  rw [publish] at ends
  by_cases noToken : access.token = []
  · have checked : Ends access.checkToken session (.error .missingToken) session := by
      rw [ends_checkToken_iff, if_pos (by simpa using noToken)]
      exact ⟨rfl, rfl⟩
    obtain ⟨rfl, rfl⟩ := ends.unique checked.bind_error
    exact ⟨[], .refl, .tokenless noToken⟩
  have checked : Ends access.checkToken session (.ok ()) session := by
    rw [ends_checkToken_iff, if_neg (by simpa using noToken)]
    exact ⟨rfl, rfl⟩
  rw [checked.bind_iff] at ends
  cases sound : compiled content with
  | error failure =>
      rw [sound] at ends
      obtain ⟨rfl, rfl⟩ := ends_throw_iff.mp ends
      exact ⟨[], .refl, .uncompiled sound⟩
  | ok compilation =>
      obtain ⟨opened, hopened⟩ := Access.ends_open noToken .documents session
      have compiles : Ends (Exchange.ofOutcome (compiled content)) session (.ok compilation)
          session := Exchange.ends_ofOutcome_iff.mpr ⟨sound.symm, rfl⟩
      rw [compiles.bind_iff, hopened.bind_iff] at ends
      obtain ⟨exchanged, exchanges, course⟩ := publication_of_ends rfl sound ends noToken
      exact ⟨exchanged, Session.exchanges_opened.append exchanges, course⟩

end Publish

/-! ## (4) Sharing -/

/-- How far sharing a document with readers comes: what is sent and replied, and how it ends. -/
inductive Sharing (part : Text) : List Text → List (Request × Reply) → Outcome Unit → Prop
  /-- There are no more readers. -/
  | done : Sharing part [] [] (.ok ())
  /-- The reply about a reader says nothing. -/
  | stopped {reader : Text} {readers : List Text} {reply : Reply} {failure : Failure}
    (silent : ∀ value, ¬reply.Says value) :
    Sharing part (reader :: readers) [(sharing part reader, reply)] (.error failure)
  /-- A reader can see the document, and the others follow. -/
  | shared {reader : Text} {readers : List Text} {reply : Reply} {value : Json}
    {exchanged : List (Request × Reply)} {result : Outcome Unit} (said : reply.Says value)
    (rest : Sharing part readers exchanged result) :
    Sharing part (reader :: readers) ((sharing part reader, reply) :: exchanged) result

namespace Sharing

variable {part : Text} {readers : List Text} {exchanged : List (Request × Reply)}
  {result : Outcome Unit}

/-- The readers are told in order, none twice. -/
theorem isPrefix (course : Sharing part readers exchanged result) :
    exchanged.map Prod.fst <+: readers.map (sharing part) := by
  induction course with
  | done => exact List.prefix_refl []
  | stopped _ => exact ⟨_, rfl⟩
  | shared _ _ ih => exact (List.prefix_cons_inj _).mpr ih

/-- Every reply before the last says something. -/
theorem said (course : Sharing part readers exchanged result) :
    ∀ exchange ∈ exchanged.dropLast, ∃ value, exchange.2.Says value := by
  induction course with
  | done => simp
  | stopped _ => simp
  | @shared reader readers reply value exchanged result said rest ih =>
      intro exchange member
      cases exchanged with
      | nil => simp at member
      | cons next exchanged =>
          rw [List.dropLast_cons_cons, List.mem_cons] at member
          rcases member with rfl | member
          · exact ⟨value, said⟩
          · exact ih exchange member

/-- The work goes on only when all readers were told. -/
theorem complete (course : Sharing part readers exchanged result) (ok : result = .ok ()) :
    exchanged.map Prod.fst = readers.map (sharing part) := by
  induction course with
  | done => rfl
  | stopped _ => cases ok
  | shared _ _ ih => rw [List.map_cons, List.map_cons, ih ok]

/-- Then every reply says something. -/
theorem said_of_ok (course : Sharing part readers exchanged result) (ok : result = .ok ()) :
    ∀ exchange ∈ exchanged, ∃ value, exchange.2.Says value := by
  induction course with
  | done => simp
  | stopped _ => cases ok
  | shared said _ ih => exact List.forall_mem_cons.mpr ⟨⟨_, said⟩, ih ok⟩

end Sharing

section Share

variable {part : Text} {session after : Session} {readers : List Text} {access : Access}

theorem ends_shareWith {identity : Text} {result : Outcome Unit}
    (encoded : identity.percentEncoded = .ok part)
    (ends : Ends (shareWith identity readers) session result after) :
    ∃ exchanged, session.Exchanges exchanged after ∧ Sharing part readers exchanged result := by
  induction readers generalizing session with
  | nil =>
      obtain ⟨rfl, rfl⟩ := ends_pure_iff.mp ends
      exact ⟨[], .refl, .done⟩
  | cons reader readers ih =>
      have addressed : Ends (Exchange.ofOutcome (shareAddress identity)) session
          (.ok (sharing part reader).address) session :=
        Exchange.ends_ofOutcome_iff.mpr ⟨(shareAddress_eq_ok encoded reader).symm, rfl⟩
      rw [shareWith, addressed.bind_iff, ends_bind_iff] at ends
      simp only [ends_call_iff] at ends
      rcases ends with ⟨value, _, ⟨shared, rfl⟩, ends⟩ | ⟨failure, ⟨stopped, rfl⟩, rfl⟩
      · obtain ⟨exchanged, exchanges, course⟩ := ih ends
        exact ⟨_, Session.exchanges_answer.append exchanges,
          .shared (judge_eq_ok_iff.mp shared.symm) course⟩
      · exact ⟨_, Session.exchanges_answer, .stopped (not_says_of_judge stopped.symm)⟩

/-- There is no other way for sharing to end. -/
theorem ends_share {identity : Text} {result : Outcome Text} (hasToken : access.token ≠ [])
    (encoded : identity.percentEncoded = .ok part)
    (ends : Ends (share identity readers access) session result after) :
    ∃ exchanged, session.Exchanges exchanged after ∧
      Sharing part readers exchanged (result.map fun _ => ()) := by
  obtain ⟨opened, hopened⟩ := Access.ends_open hasToken .permissions session
  rw [share, hopened.bind_iff, ends_bind_iff] at ends
  rcases ends with ⟨_, between, shared, ends⟩ | ⟨failure, stopped, rfl⟩
  · obtain ⟨exchanged, exchanges, course⟩ := ends_shareWith encoded shared
    obtain ⟨rfl, rfl⟩ := ends_pure_iff.mp ends
    exact ⟨exchanged, Session.exchanges_opened.append exchanges, course⟩
  · obtain ⟨exchanged, exchanges, course⟩ := ends_shareWith encoded stopped
    exact ⟨exchanged, Session.exchanges_opened.append exchanges, course⟩

end Share

end Coursework.Remote
