import Coursework.Proofs.Api.Creation
import Coursework.Proofs.Api.Service
import Coursework.Proofs.Document.Content

/-! # What is asked on the way to a new assignment

The way to a new assignment is the same for all requests: the issuer of tokens is asked, then the
model, then a document is created, filled and shared with one student after another. A request
gets as far on this way as the answers are of use, and only at its end a row is added.

* **`Commission`** is what belongs to one assignment, **`Commission.calls`** its whole way.
* **`Asked.IsUsable`** says which answers let the work go on.
* **`Course`** is what holds of the calls that were made; **`course_of_creates`** shows it for
  every request for a new assignment. -/

namespace Coursework.Api

open Remote (Educator Link Publication Sharing creation fillingWith sharing creationAddress)

/-! ## (1) The whole way -/

/-- What belongs to an assignment on its way. -/
structure Commission where
  /-- The token of the educator. -/
  token : Text := []
  /-- What the educator asks for. -/
  brief : Brief := { title := [], subject := [], classroom := 0, deadline := [] }
  /-- The classroom. -/
  classroom : Classroom := { id := 0, name := [] }
  /-- The document of the assignment in markdown. -/
  markdown : Text := []
  /-- Its compiled form. -/
  compilation : Compilation := default
  /-- The identity of the published document as a part of addresses. -/
  part : Text := []

/-- What is asked for an assignment, from the token to the last student. -/
def Commission.calls (commission : Commission) : List Call :=
  [.inquiry commission.token, .question (Generation.question commission.brief),
    .request (creation commission.brief.title),
    .request (fillingWith commission.part commission.compilation)] ++
  commission.classroom.readers.map fun reader => .request (sharing commission.part reader)

/-- An answer lets the work go on: the issuer of tokens confirms an address, the model describes an
assignment whose document is compiled, the service for documents names a new one, and any other
remote service says something. -/
def Asked.IsUsable : Asked → Prop
  | .inquiry _ answer => ∃ address, answer.Confirms address
  | .question _ answer => ∃ accepted compilation,
    (answer.text >>= Generation.ofAnswer) = .ok accepted ∧
      Compilation.ofMarkdown (markdownOf accepted) = .ok compilation
  | .request sent reply =>
    if sent.address = creationAddress then ∃ identity part, reply.Names identity part
    else ∃ value, reply.Says value

/-! ## (2) From the document to the last student -/

/-- What is asked of remote services on the whole way. -/
def leg (title part : Text) (compilation : Compilation) (readers : List Text) :
    List Remote.Request :=
  creation title :: fillingWith part compilation :: readers.map (sharing part)

/-- The first of some replies names a document. -/
def NamedBy (exchanged : List (Remote.Request × Remote.Reply)) (identity : Json) (part : Text) :
    Prop :=
  ∃ request reply, exchanged.head? = some (request, reply) ∧ reply.Names identity part

/-- What is exchanged with remote services follows the way. -/
structure Follows (title markdown : Text) (readers : List Text)
    (exchanged : List (Remote.Request × Remote.Reply)) (outcome : Outcome Link)
    (compilation : Compilation) (part : Text) : Prop where
  /-- It is the beginning of the way. -/
  ordered : exchanged.map Prod.fst <+: leg title part compilation readers
  /-- Behind a reply of no use there is nothing. -/
  stops : ∀ exchange ∈ exchanged.dropLast, (Asked.ofExchange exchange).IsUsable
  /-- Behind a reply of use it goes on, unless the document has an identity that is no text; and
  it begins if the document is compiled. -/
  goesOn : exchanged.map Prod.fst = leg title part compilation readers ∨
    (∃ exchange, exchanged.getLast? = some exchange ∧ ¬(Asked.ofExchange exchange).IsUsable) ∨
    (exchanged = [] ∧ ∀ compilation, Compilation.ofMarkdown markdown ≠ .ok compilation) ∨
    exchanged.map Prod.fst = [creation title, fillingWith part compilation] ∧
      ∃ identity, NamedBy exchanged identity part ∧ ∀ name, identity ≠ .text name
  /-- It does not begin before the document is compiled. -/
  sound : exchanged ≠ [] → Compilation.ofMarkdown markdown = .ok compilation
  /-- Behind the creation, the document is the one that was named. -/
  named : ∀ exchange ∈ exchanged, exchange.1.address ≠ creationAddress →
    ∃ identity, NamedBy exchanged identity part
  /-- A link is given at the end of the way only, when all replies were of use, and for the
  document that was named. -/
  complete : ∀ link, outcome = .ok link →
    exchanged.map Prod.fst = leg title part compilation readers ∧
      (∀ exchange ∈ exchanged, (Asked.ofExchange exchange).IsUsable) ∧
      NamedBy exchanged (.text link.identity) part

/-- A text begins with its first piece. -/
theorem startsWith_append (piece rest : Text) : (piece ++ rest).startsWith piece = true := by
  induction piece with
  | nil => cases rest <;> rfl
  | cons sign piece ih => simp [Text.startsWith, ih]

/-- A document is not filled where documents are created. -/
theorem address_fillingWith_ne (part : Text) (compilation : Compilation) :
    (fillingWith part compilation).address ≠ creationAddress := by
  intro h
  have filled : (fillingWith part compilation).address.startsWith
      "https://docs.googleapis.com/v1/documents/" = true := by
    rw [fillingWith, Remote.filling, List.append_assoc]
    exact startsWith_append _ _
  have created : creationAddress.startsWith "https://docs.googleapis.com/v1/documents/" = false :=
    by decide
  rw [h, created] at filled
  cases filled

/-- Nor is it shared there. -/
theorem address_sharing_ne (part reader : Text) :
    (sharing part reader).address ≠ creationAddress := by
  intro h
  have shared : (sharing part reader).address.startsWith
      "https://www.googleapis.com/drive/v3/files/" = true := by
    rw [sharing, List.append_assoc]
    exact startsWith_append _ _
  have created : creationAddress.startsWith "https://www.googleapis.com/drive/v3/files/" = false :=
    by decide
  rw [h, created] at shared
  cases shared

/-- The issuer of tokens gives an answer of use exactly if an educator is confirmed by it. -/
theorem isUsable_inquiry {token : Text} {answer : Remote.Confirmation} :
    (Asked.inquiry token answer).IsUsable ↔
      ∃ educator, Educator.confirmed token answer = .ok (some educator) := by
  simp only [Remote.confirmed_eq_some_iff]
  constructor
  · rintro ⟨address, confirms⟩
    exact ⟨⟨address, token⟩, confirms, rfl⟩
  · rintro ⟨educator, confirms, -⟩
    exact ⟨educator.email, confirms⟩

theorem isUsable_creation {title : Text} {reply : Remote.Reply} :
    (Asked.ofExchange (creation title, reply)).IsUsable ↔
      ∃ identity part, reply.Names identity part := by
  rw [Asked.ofExchange, Asked.IsUsable, creation, if_pos rfl]

theorem isUsable_fillingWith {part : Text} {compilation : Compilation} {reply : Remote.Reply} :
    (Asked.ofExchange (fillingWith part compilation, reply)).IsUsable ↔
      ∃ value, reply.Says value := by
  rw [Asked.ofExchange, Asked.IsUsable, if_neg (address_fillingWith_ne part compilation)]

theorem isUsable_sharing {part reader : Text} {reply : Remote.Reply} :
    (Asked.ofExchange (sharing part reader, reply)).IsUsable ↔ ∃ value, reply.Says value := by
  rw [Asked.ofExchange, Asked.IsUsable, if_neg (address_sharing_ne part reader)]

/-- Sharing goes on up to the last student or a reply of no use. -/
theorem sharing_goesOn {part : Text} {readers : List Text}
    {exchanged : List (Remote.Request × Remote.Reply)} {failure : Failure}
    {result : Outcome Unit} (course : Sharing part readers exchanged result)
    (stopped : result = .error failure) :
    ∃ exchange, exchanged.getLast? = some exchange ∧ ¬(Asked.ofExchange exchange).IsUsable := by
  induction course with
  | done => cases stopped
  | @stopped reader readers reply failure silent =>
      refine ⟨(sharing part reader, reply), rfl, ?_⟩
      rw [isUsable_sharing]
      rintro ⟨value, said⟩
      exact silent value said
  | shared _ _ ih =>
      obtain ⟨exchange, last, useless⟩ := ih stopped
      refine ⟨exchange, ?_, useless⟩
      rw [List.getLast?_cons, last]
      rfl

/-- Replies about readers are of use if they say something. -/
theorem sharing_isUsable {part : Text} {readers : List Text}
    {exchanged : List (Remote.Request × Remote.Reply)} {result : Outcome Unit}
    (course : Sharing part readers exchanged result)
    {exchange : Remote.Request × Remote.Reply} (member : exchange ∈ exchanged)
    (said : ∃ value, exchange.2.Says value) : (Asked.ofExchange exchange).IsUsable := by
  obtain ⟨reader, -, h⟩ := List.mem_map.mp
    (course.isPrefix.subset (List.mem_map_of_mem (f := Prod.fst) member))
  obtain ⟨request, reply⟩ := exchange
  subst h
  exact isUsable_sharing.mpr said

section Stages

variable {title markdown part : Text} {readers : List Text} {compilation : Compilation}
  {first second : Remote.Reply} {failure : Failure} {identity value : Json}
  (sound : Compilation.ofMarkdown markdown = .ok compilation)

include sound

/-- A document that is not named is not filled. -/
theorem follows_unnamed (nameless : ∀ identity part, ¬first.Names identity part) :
    Follows title markdown readers [(creation title, first)] (.error failure) compilation [] where
  ordered := ⟨_, rfl⟩
  stops := by simp
  goesOn := by
    refine .inr (.inl ⟨(creation title, first), rfl, ?_⟩)
    rw [isUsable_creation]
    rintro ⟨identity, part, names⟩
    exact nameless identity part names
  sound _ := sound
  named exchange member elsewhere := by
    rw [List.mem_singleton] at member
    exact absurd (congrArg (·.1.address) member) elsewhere
  complete := by simp

variable (named : first.Names identity part)

include named

/-- A document that is not filled is not shared. -/
theorem follows_unfilled (silent : ∀ value, ¬second.Says value) :
    Follows title markdown readers
      [(creation title, first), (fillingWith part compilation, second)] (.error failure)
      compilation part where
  ordered := ⟨_, rfl⟩
  stops := by
    simp only [List.dropLast_cons_cons, List.dropLast_singleton, List.forall_mem_singleton]
    exact isUsable_creation.mpr ⟨identity, part, named⟩
  goesOn := by
    refine .inr (.inl ⟨(fillingWith part compilation, second), rfl, ?_⟩)
    rw [isUsable_fillingWith]
    rintro ⟨value, said⟩
    exact silent value said
  sound _ := sound
  named _ _ _ := ⟨identity, _, _, rfl, named⟩
  complete := by simp

/-- Nor is one whose identity is no text. -/
theorem follows_unlinked (noText : ∀ name, identity ≠ .text name) :
    Follows title markdown readers
      [(creation title, first), (fillingWith part compilation, second)] (.error failure)
      compilation part where
  ordered := ⟨_, rfl⟩
  stops := by
    simp only [List.dropLast_cons_cons, List.dropLast_singleton, List.forall_mem_singleton]
    exact isUsable_creation.mpr ⟨identity, part, named⟩
  goesOn := .inr (.inr (.inr ⟨rfl, identity, ⟨_, _, rfl, named⟩, noText⟩))
  sound _ := sound
  named _ _ _ := ⟨identity, _, _, rfl, named⟩
  complete := by simp

omit named in
/-- A document that is filled and linked to is shared with one student after another. -/
theorem follows_shared {others : List (Remote.Request × Remote.Reply)} {result : Outcome Unit}
    {link : Link} (named : first.Names (.text link.identity) part) (said : second.Says value)
    (course : Sharing part readers others result) :
    Follows title markdown readers
      ((creation title, first) :: (fillingWith part compilation, second) :: others)
      (result.map fun _ => link) compilation part where
  ordered := by
    simpa [leg] using course.isPrefix
  stops := by
    have created : (Asked.ofExchange (creation title, first)).IsUsable :=
      isUsable_creation.mpr ⟨_, part, named⟩
    have filled : (Asked.ofExchange (fillingWith part compilation, second)).IsUsable :=
      isUsable_fillingWith.mpr ⟨value, said⟩
    cases others with
    | nil => simpa using created
    | cons other others =>
        simp only [List.dropLast_cons_cons, List.forall_mem_cons]
        refine ⟨created, filled, fun exchange member => ?_⟩
        exact sharing_isUsable course (List.dropLast_subset _ member)
          (course.said exchange member)
  goesOn := by
    cases result with
    | ok _ => exact .inl (by simp [leg, course.complete rfl])
    | error failure =>
        obtain ⟨exchange, last, useless⟩ := sharing_goesOn course rfl
        refine .inr (.inl ⟨exchange, ?_, useless⟩)
        simp [List.getLast?_cons, last]
  sound _ := sound
  named _ _ _ := ⟨_, _, _, rfl, named⟩
  complete found ok := by
    obtain ⟨_, told, rfl⟩ := Outcome.map_eq_ok_iff.mp ok
    refine ⟨by simp [leg, course.complete told], ?_, _, _, rfl, named⟩
    simp only [List.forall_mem_cons]
    refine ⟨isUsable_creation.mpr ⟨_, part, named⟩, isUsable_fillingWith.mpr ⟨value, said⟩, ?_⟩
    exact fun exchange member =>
      sharing_isUsable course member (course.said_of_ok told exchange member)

end Stages

/-- A distribution follows the way. -/
theorem follows_of_distribution {title token : Text} {readers : List Text}
    {accepted : Reply.Accepted} {exchanged : List (Remote.Request × Remote.Reply)}
    {outcome : Outcome Link}
    (course : Distribution title (markdownOf accepted) token readers exchanged outcome)
    (hasToken : token ≠ []) :
    ∃ compilation part,
      Follows title (markdownOf accepted) readers exchanged outcome compilation part := by
  have compiles : Remote.compiled (.value (.text (markdownOf accepted))) =
      Compilation.ofMarkdown (markdownOf accepted) :=
    Remote.compiled_render accepted.record
  cases course with
  | @unpublished exchanged failure published =>
      cases published with
      | tokenless noToken => exact absurd noToken hasToken
      | uncompiled unsound =>
          refine ⟨default, [], ⟨List.nil_prefix, by simp, ?_, by simp, by simp, by simp⟩⟩
          refine .inr (.inr (.inl ⟨rfl, fun compilation sound => ?_⟩))
          cases unsound.symm.trans (compiles.trans sound)
      | unnamed _ sound nameless =>
          exact ⟨_, _, follows_unnamed (compiles.symm.trans sound) nameless⟩
      | unfilled _ sound named silent =>
          exact ⟨_, _, follows_unfilled (compiles.symm.trans sound) named silent⟩
      | filled _ sound named said unlinked =>
          refine ⟨_, _, follows_unlinked (compiles.symm.trans sound) named ?_⟩
          rintro name rfl
          cases unlinked
  | unshared published encoded shared =>
      obtain ⟨-, _, part, _, _, _, sound, named, said, rfl⟩ := published.of_ok rfl
      obtain rfl := Except.ok.inj (encoded.symm.trans named.percentEncoded)
      exact ⟨_, _, follows_shared (compiles.symm.trans sound) named said shared⟩
  | shared published encoded shared =>
      obtain ⟨-, _, part, _, _, _, sound, named, said, rfl⟩ := published.of_ok rfl
      obtain rfl := Except.ok.inj (encoded.symm.trans named.percentEncoded)
      exact ⟨_, _, follows_shared (compiles.symm.trans sound) named said shared⟩

/-! ## (3) What holds of the calls -/

/-- Nothing but an answer of no use ends the way of a request early, except what is no answer at
all: there is no token or brief, no classroom with students, or the document has an identity that
is no text. -/
inductive Halts (request : Web.Request) (world : World) (commission : Commission) :
    List Call → Prop
  /-- The request cannot be read or bears no token. -/
  | unread (unread : tokenOf request = none ∨ ∀ brief, ¬Gives request Brief.ofFields brief) :
    Halts request world commission []
  /-- The request gives no brief, or one without a classroom that has students. -/
  | unplaced (homeless : ∀ brief classroom, Gives request Brief.ofFields brief →
      ¬Hosts world.store brief classroom) :
    Halts request world commission [.inquiry commission.token]
  /-- The document has an identity that is no text. -/
  | unlinked {identity : Json}
    (named : ((Work.session world).answer (creation commission.brief.title)).1.Names identity
      commission.part)
    (noText : ∀ name, identity ≠ .text name) :
    Halts request world commission (commission.calls.take 4)

/-- The calls that a request for a new assignment makes on its way. -/
structure Course (request : Web.Request) (world after : World) (commission : Commission)
    (calls : List Call) : Prop where
  /-- They are entered in the log behind those before. -/
  log : after.log = world.log ++ calls
  /-- They are the first of the whole way, in its order. -/
  ordered : calls <+: commission.calls
  /-- Behind an answer of no use there are no more. -/
  stops : ∀ asked ∈ (world.answered calls).dropLast, asked.IsUsable
  /-- Behind an answer of use there are more, up to the end. -/
  goesOn : calls = commission.calls ∨
    (∃ asked, (world.answered calls).getLast? = some asked ∧ ¬asked.IsUsable) ∨
    Halts request world commission calls
  /-- The issuer of tokens is asked for the token of the request. -/
  borne : calls ≠ [] → tokenOf request = some commission.token
  /-- The model is asked for the brief of the request, and only if its classroom is there and has
  students. -/
  placed : (∃ question, .question question ∈ calls) →
    Gives request Brief.ofFields commission.brief ∧
      Hosts world.store commission.brief commission.classroom
  /-- Remote services are asked only for the document of the assignment that the model describes,
  and only if it is compiled. -/
  sound : (∃ sent, .request sent ∈ calls) → ∃ accepted,
    ((world.answers.headD .noChoices).text >>= Generation.ofAnswer) = .ok accepted ∧
      commission.markdown = markdownOf accepted ∧
      Compilation.ofMarkdown commission.markdown = .ok commission.compilation
  /-- Behind its creation, the document is the one that the service for documents named. -/
  named : (∃ sent, .request sent ∈ calls ∧ sent.address ≠ creationAddress) → ∃ identity,
    ((Work.session world).answer (creation commission.brief.title)).1.Names identity
      commission.part
  /-- A row is added only behind the last call, when all answers were of use: with that markdown,
  that document and those students. -/
  kept : after.store ≠ world.store → calls = commission.calls ∧
    (∀ asked ∈ world.answered calls, asked.IsUsable) ∧
    ∃ row : Assignment, after.store = world.store.addAssignment row ∧
      row.content = commission.markdown ∧ row.students = commission.classroom.readers ∧
      ∃ identity, row.document = some identity ∧
        ((Work.session world).answer (creation commission.brief.title)).1.Names (.text identity)
          commission.part

/-! ## (4) Every request for a new assignment -/

theorem Commission.calls_eq (commission : Commission) :
    commission.calls = .inquiry commission.token ::
      .question (Generation.question commission.brief) ::
      (leg commission.brief.title commission.part commission.compilation
        commission.classroom.readers).map Call.request := by
  simp [Commission.calls, leg]

section Early

variable {request : Web.Request} {world after : World}

/-- The course of a request that does not come as far as the issuer of tokens. -/
theorem course_unread
    (unread : tokenOf request = none ∨ ∀ brief, ¬Gives request Brief.ofFields brief) :
    Course request world world {} [] where
  log := (List.append_nil _).symm
  ordered := List.nil_prefix
  stops := by simp [World.answered, answered]
  goesOn := .inr (.inr (.unread unread))
  borne h := absurd rfl h
  placed := by simp
  sound := by simp
  named := by simp
  kept h := absurd rfl h

variable {token : Text} (borne : tokenOf request = some token)
  (log : after.log = world.log ++ [.inquiry token]) (unchanged : after.store = world.store)

include borne log unchanged

/-- The course of a request that does not come further than that. -/
theorem course_inquiry
    (halts : ¬(Asked.inquiry token world.issuer).IsUsable ∨ ∀ brief classroom,
      Gives request Brief.ofFields brief → ¬Hosts world.store brief classroom) :
    Course request world after { token } [.inquiry token] where
  log := log
  ordered := ⟨_, rfl⟩
  stops := by simp [World.answered, answered]
  goesOn := by
    rcases halts with useless | homeless
    · exact .inr (.inl ⟨_, rfl, useless⟩)
    · exact .inr (.inr (.unplaced homeless))
  borne _ := borne
  placed := by simp
  sound := by simp
  named := by simp
  kept h := absurd unchanged h

end Early

/-- The course of a request whose answer by the model is of no use. -/
theorem course_unanswered {request : Web.Request} {world after : World} {token : Text}
    {educator : Educator} {brief : Brief} {classroom : Classroom} {failure : Failure}
    (borne : tokenOf request = some token)
    (confirmed : Educator.confirmed token world.issuer = .ok (some educator))
    (gives : Gives request Brief.ofFields brief) (hosts : Hosts world.store brief classroom)
    (useless : ((world.answers.headD .noChoices).text >>= Generation.ofAnswer) = .error failure)
    (log : after.log = world.log ++ [.inquiry token, .question (Generation.question brief)])
    (unchanged : after.store = world.store) :
    Course request world after { token, brief, classroom }
      [.inquiry token, .question (Generation.question brief)] where
  log := log
  ordered := ⟨_, rfl⟩
  stops := by
    simp only [World.answered, answered, List.dropLast_cons_cons, List.dropLast_singleton,
      List.forall_mem_singleton]
    exact isUsable_inquiry.mpr ⟨educator, confirmed⟩
  goesOn := by
    refine .inr (.inl ⟨_, rfl, ?_⟩)
    rintro ⟨accepted, compilation, answers, -⟩
    cases useless.symm.trans answers
  borne _ := borne
  placed _ := ⟨gives, hosts⟩
  sound := by simp
  named := by simp
  kept h := absurd unchanged h

/-- The reply that names the document is that to the request that creates it. -/
theorem NamedBy.names {exchanged : List (Remote.Request × Remote.Reply)} {identity : Json}
    {title part : Text} {compilation : Compilation} {readers : List Text} {session : Remote.Session}
    {otherPart : Text} (named : NamedBy exchanged identity part)
    (ordered : exchanged.map Prod.fst <+: leg title otherPart compilation readers)
    (replies : session.repliesTo (exchanged.map Prod.fst) = exchanged.map Prod.snd) :
    (session.answer (creation title)).1.Names identity part := by
  obtain ⟨request, reply, head, names⟩ := named
  cases exchanged with
  | nil => cases head
  | cons exchange exchanged =>
      obtain rfl := Option.some.inj head
      obtain ⟨rfl, -⟩ := List.cons_prefix_cons.mp ordered
      have first : (session.answer (creation title)).1 = reply := (List.cons.inj replies).1
      rwa [first]

/-- The calls for an assignment up to some of those to remote services. -/
def Commission.callsUpTo (commission : Commission)
    (exchanged : List (Remote.Request × Remote.Reply)) : List Call :=
  .inquiry commission.token :: .question (Generation.question commission.brief) ::
    exchanged.map (Call.request ∘ Prod.fst)

/-- A row is added for a link only: with the markdown, the document and the students of the
assignment. -/
def Commission.Keeps (commission : Commission) (before after : Store) (outcome : Outcome Link) :
    Prop :=
  after = before ∨ ∃ link : Link, outcome = .ok link ∧ ∃ row : Assignment,
    after = before.addAssignment row ∧ row.content = commission.markdown ∧
      row.students = commission.classroom.readers ∧ row.document = some link.identity

section OnTheWay

variable {commission : Commission} {exchanged : List (Remote.Request × Remote.Reply)}

theorem Commission.exists_of_mem_callsUpTo {sent : Remote.Request}
    (member : Call.request sent ∈ commission.callsUpTo exchanged) :
    ∃ reply, (sent, reply) ∈ exchanged := by
  simpa [callsUpTo] using member

theorem Commission.callsUpTo_prefix (ordered : exchanged.map Prod.fst <+:
      leg commission.brief.title commission.part commission.compilation
        commission.classroom.readers) : commission.callsUpTo exchanged <+: commission.calls := by
  rw [commission.calls_eq, callsUpTo, ← List.map_map]
  simpa using ordered.map Call.request

theorem Commission.callsUpTo_eq (complete : exchanged.map Prod.fst =
      leg commission.brief.title commission.part commission.compilation
        commission.classroom.readers) : commission.callsUpTo exchanged = commission.calls := by
  rw [commission.calls_eq, ← complete, List.map_map, callsUpTo]

variable {world : World}

/-- The calls for an assignment are answered by what was exchanged. -/
theorem answered_callsUpTo (commission : Commission)
    (replies : (Work.session world).repliesTo (exchanged.map Prod.fst) = exchanged.map Prod.snd) :
    world.answered (commission.callsUpTo exchanged) =
      .inquiry commission.token world.issuer ::
        .question (Generation.question commission.brief) (world.answers.headD .noChoices) ::
        exchanged.map Asked.ofExchange := by
  rw [Commission.callsUpTo, ← map_call_ofExchange]
  exact congrArg (fun rest => _ :: _ :: rest) (answered_map_request_iff.mpr replies)

variable {request : Web.Request} {after : World} {accepted : Reply.Accepted}
  {outcome : Outcome Link} {educator : Educator}

/-- The course of a request that comes as far as the model and is answered there. -/
theorem course_of_follows (borne : tokenOf request = some commission.token)
    (confirmed : Educator.confirmed commission.token world.issuer = .ok (some educator))
    (gives : Gives request Brief.ofFields commission.brief)
    (hosts : Hosts world.store commission.brief commission.classroom)
    (answers : ((world.answers.headD .noChoices).text >>= Generation.ofAnswer) = .ok accepted)
    (markdown : commission.markdown = markdownOf accepted)
    (follows : Follows commission.brief.title commission.markdown commission.classroom.readers
      exchanged outcome commission.compilation commission.part)
    (replies : (Work.session world).repliesTo (exchanged.map Prod.fst) = exchanged.map Prod.snd)
    (log : after.log = world.log ++ commission.callsUpTo exchanged)
    (keeps : commission.Keeps world.store after.store outcome) :
    Course request world after commission (commission.callsUpTo exchanged) := by
  have onTheWay := answered_callsUpTo commission replies
  have known : (Asked.inquiry commission.token world.issuer).IsUsable :=
    isUsable_inquiry.mpr ⟨educator, confirmed⟩
  have useful (begun : exchanged ≠ []) :
      (Asked.question (Generation.question commission.brief)
        (world.answers.headD .noChoices)).IsUsable :=
    ⟨accepted, commission.compilation, answers, markdown ▸ follows.sound begun⟩
  refine {
    log
    ordered := Commission.callsUpTo_prefix follows.ordered
    stops := ?stops
    goesOn := ?goesOn
    borne := fun _ => borne
    placed := fun _ => ⟨gives, hosts⟩
    sound := ?sound
    named := ?named
    kept := ?kept }
  case stops =>
    rw [onTheWay]
    -- the answer of the model is the last one if nothing is exchanged
    cases exchanged with
    | nil => simpa using known
    | cons exchange exchanged =>
        rw [List.map_cons, List.dropLast_cons_cons, List.dropLast_cons_cons, ← List.map_cons,
          ← List.map_dropLast]
        simp only [List.forall_mem_cons, List.forall_mem_map]
        exact ⟨known, useful (List.cons_ne_nil _ _), follows.stops⟩
  case goesOn =>
    rw [onTheWay]
    rcases follows.goesOn with complete | ⟨exchange, last, useless⟩ | ⟨rfl, unsound⟩ |
      ⟨filled, identity, named, noText⟩
    · exact .inl (Commission.callsUpTo_eq complete)
    · refine .inr (.inl ⟨Asked.ofExchange exchange, ?_, useless⟩)
      simp [List.getLast?_cons, last]
    · -- nothing is exchanged for a document that is not compiled, so the model's answer is useless
      refine .inr (.inl ⟨_, rfl, ?_⟩)
      rintro ⟨found, compilation, hfound, sound⟩
      obtain rfl := Except.ok.inj (answers.symm.trans hfound)
      exact unsound compilation (markdown ▸ sound)
    · refine .inr (.inr ?_)
      rw [Commission.callsUpTo, ← List.map_map, filled]
      exact .unlinked (named.names follows.ordered replies) noText
  case sound =>
    rintro ⟨sent, member⟩
    obtain ⟨reply, member⟩ := Commission.exists_of_mem_callsUpTo member
    exact ⟨accepted, answers, markdown, follows.sound (List.ne_nil_of_mem member)⟩
  case named =>
    rintro ⟨sent, member, elsewhere⟩
    obtain ⟨reply, member⟩ := Commission.exists_of_mem_callsUpTo member
    obtain ⟨identity, named⟩ := follows.named _ member elsewhere
    exact ⟨identity, named.names follows.ordered replies⟩
  case kept =>
    intro changed
    rcases keeps with unchanged | ⟨link, linked, row, added, content, students, document⟩
    · exact absurd unchanged changed
    · obtain ⟨complete, usable, named⟩ := follows.complete link linked
      refine ⟨Commission.callsUpTo_eq complete, ?_, row, added, content, students, link.identity,
        document, named.names follows.ordered replies⟩
      rw [onTheWay]
      simp only [List.forall_mem_cons, List.forall_mem_map]
      have begun : exchanged ≠ [] := by
        rintro rfl
        cases complete
      exact ⟨known, useful begun, usable⟩

end OnTheWay

/-- The same with what is known of its distribution. -/
theorem course_of_distribution {request : Web.Request} {world after : World} {token : Text}
    {educator : Educator} {brief : Brief} {classroom : Classroom} {accepted : Reply.Accepted}
    {exchanged : List (Remote.Request × Remote.Reply)} {outcome : Outcome Link}
    (borne : tokenOf request = some token)
    (confirmed : Educator.confirmed token world.issuer = .ok (some educator))
    (gives : Gives request Brief.ofFields brief) (hosts : Hosts world.store brief classroom)
    (answers : ((world.answers.headD .noChoices).text >>= Generation.ofAnswer) = .ok accepted)
    (course : Distribution brief.title (markdownOf accepted) educator.token classroom.readers
      exchanged outcome)
    (replies : answered world.issuer (world.answers.drop 1) (Work.session world)
      ((exchanged.map Asked.ofExchange).map Asked.call) = exchanged.map Asked.ofExchange)
    (log : after.log = world.log ++ .inquiry token :: .question (Generation.question brief) ::
      (exchanged.map Asked.ofExchange).map Asked.call)
    (kept : after.store = world.store ∨ ∃ link : Link, outcome = .ok link ∧
      after.store = world.store.addAssignment (newAssignment world.store.nextAssignment brief
        accepted.record (markdownOf accepted) link classroom educator)) :
    ∃ commission calls, Course request world after commission calls := by
  obtain ⟨compilation, part, follows⟩ := follows_of_distribution course
    (Admits.token_ne_nil ⟨token, borne, confirmed⟩)
  rw [map_call_ofExchange] at log
  refine ⟨{ token, brief, classroom, markdown := markdownOf accepted, compilation, part }, _,
    course_of_follows borne confirmed gives hosts answers rfl follows
      (answered_map_request_iff.mp replies) log ?_⟩
  rcases kept with unchanged | ⟨link, linked, added⟩
  · exact .inl unchanged
  · exact .inr ⟨link, linked, _, added, rfl, rfl, rfl⟩

/-- Every request for a new assignment makes the first calls of the whole way to it, one after
another, and stops behind the first answer that is of no use: the model is asked only for a
classroom with students, a document is created only for an answer that describes an assignment
whose document is compiled, it is filled with exactly that document and shared with the students
in order, and only then a row is added. -/
theorem course_of_creates (request : Web.Request) (world : World) (creates : Creates request) :
    ∃ commission calls, Course request world (answer request world).2 commission calls := by
  obtain ⟨result, ends, -⟩ := creates.ends world
  generalize (answer request world).2 = after at ends
  -- the request is not read, not admitted or of no use, or it comes to the work itself
  rcases ends_serveGiven ends with ⟨reason, -, rfl, unread⟩ | ⟨reason, -, rfl, unfit⟩ |
    ⟨educator, brief, ⟨token, borne, confirmed⟩, gives, ends⟩
  · exact ⟨_, _, course_unread (.inr unread)⟩
  · cases borne : tokenOf request with
    | none =>
        have unchanged : asked world request = world := by simp [asked, borne]
        rw [unchanged]
        exact ⟨_, _, course_unread (.inl borne)⟩
    | some token =>
        refine ⟨_, _, course_inquiry borne (by simp [asked, borne]) rfl ?_⟩
        by_cases known : (Asked.inquiry token world.issuer).IsUsable
        · obtain ⟨educator, confirmed⟩ := isUsable_inquiry.mp known
          exact .inr fun brief _ gives _ => unfit educator brief ⟨token, borne, confirmed⟩ gives
        · exact .inl known
  · obtain ⟨trace, course, log, replies⟩ := ends_createAssignment ends
    have log : after.log = world.log ++ .inquiry token :: trace.map Asked.call := by
      simpa [asked, borne] using log
    generalize final : after.store = store at course
    cases course with
    | unplaced homeless =>
        refine ⟨_, _, course_inquiry borne log final (.inr fun other classroom again => ?_)⟩
        obtain rfl := gives.unique again
        exact homeless classroom
    | unanswered hosts useless =>
        exact ⟨_, _, course_unanswered borne confirmed gives hosts useless log final⟩
    | undistributed hosts answers course =>
        exact course_of_distribution borne confirmed gives hosts answers course
          (List.cons.inj replies).2 log (.inl final)
    | unkept hosts answers course unfit =>
        exact course_of_distribution borne confirmed gives hosts answers course
          (List.cons.inj replies).2 log (.inl final)
    | kept hosts answers course fit =>
        exact course_of_distribution borne confirmed gives hosts answers course
          (List.cons.inj replies).2 log (.inr ⟨_, rfl, final⟩)

/-- The request of the sample goes the whole way: everybody is asked once. -/
theorem course_of_creates_sample :
    Creates sampleRequest ∧ (answer sampleRequest sampleWorld).2.log.length = 5 ∧
      ∃ commission calls, Course sampleRequest sampleWorld (answer sampleRequest sampleWorld).2
        commission calls :=
  ⟨creates_sampleRequest, by decide +kernel,
    course_of_creates sampleRequest sampleWorld creates_sampleRequest⟩

end Coursework.Api
