import Coursework.Proofs.Ending
import Coursework.Proofs.Outcome
import Coursework.Remote.Exchange

/-! # Sessions

What a session has been asked stands in it, and what it will reply is settled before: the replies
to a list of requests follow from the session alone.

* **`Session.repliesTo`** are these replies, **`Session.afterAll`** the session behind them.
* **`Session.Exchanges`** says which requests and replies lie between two sessions.
* **`ends_call_iff`** is the step of one request, **`judge`** what becomes of its reply. -/

namespace Coursework.Remote

/-! ## (1) What a session replies -/

namespace Session

variable {session later last : Session} {request : Request} {requests more : List Request}

/-- The session after requests. -/
def afterAll (session : Session) : List Request → Session
  | [] => session
  | request :: requests => (session.answer request).2.afterAll requests

/-- The replies to requests, in order. -/
def repliesTo (session : Session) : List Request → List Reply
  | [] => []
  | request :: requests =>
    (session.answer request).1 :: (session.answer request).2.repliesTo requests

@[simp] theorem afterAll_nil : session.afterAll [] = session := rfl

@[simp] theorem afterAll_cons :
    session.afterAll (request :: requests) = (session.answer request).2.afterAll requests := rfl

@[simp] theorem repliesTo_nil : session.repliesTo [] = [] := rfl

@[simp] theorem repliesTo_cons :
    session.repliesTo (request :: requests) =
      (session.answer request).1 :: (session.answer request).2.repliesTo requests := rfl

theorem afterAll_append :
    session.afterAll (requests ++ more) = (session.afterAll requests).afterAll more := by
  induction requests generalizing session with
  | nil => rfl
  | cons request requests ih => simp [ih]

theorem repliesTo_append :
    session.repliesTo (requests ++ more) =
      session.repliesTo requests ++ (session.afterAll requests).repliesTo more := by
  induction requests generalizing session with
  | nil => rfl
  | cons request requests ih => simp [ih]

@[simp] theorem length_repliesTo : (session.repliesTo requests).length = requests.length := by
  induction requests generalizing session with
  | nil => rfl
  | cons request requests ih => simp [ih]

/-- A request is entered behind those before. -/
theorem sent_answer : (session.answer request).2.sent = session.sent ++ [request] := by
  rw [answer]
  split
  · rfl
  · rfl
  · split <;> rfl

theorem sent_afterAll : (session.afterAll requests).sent = session.sent ++ requests := by
  induction requests generalizing session with
  | nil => simp
  | cons request requests ih => simp [ih, sent_answer]

/-- Which services are open has no part in what is replied. -/
theorem answer_opened {opened : List (Service × Text)} :
    ({ session with opened } : Session).answer request =
      ((session.answer request).1, { (session.answer request).2 with opened }) := by
  simp only [answer]
  cases session.replies with
  | none =>
      by_cases h : request.address = documentsAddress <;> simp [h]
  | some replies => cases replies <;> rfl

theorem repliesTo_opened {opened : List (Service × Text)} :
    ({ session with opened } : Session).repliesTo requests = session.repliesTo requests := by
  induction requests generalizing session with
  | nil => rfl
  | cons request requests ih => simp [answer_opened, ih]

theorem afterAll_opened {opened : List (Service × Text)} :
    ({ session with opened } : Session).afterAll requests =
      { session.afterAll requests with opened } := by
  induction requests generalizing session with
  | nil => rfl
  | cons request requests ih => simp [answer_opened, ih]

/-! ## (2) From one session to another -/

/-- Exactly these requests lie between a session and a later one, in which other services may be
open. -/
def Leads (session : Session) (requests : List Request) (later : Session) : Prop :=
  later = { session.afterAll requests with opened := later.opened }

theorem Leads.append (first : session.Leads requests later) (second : later.Leads more last) :
    session.Leads (requests ++ more) last := by
  rw [Leads] at first second ⊢
  rw [second, first, afterAll_opened, afterAll_append]

theorem Leads.sent (leads : session.Leads requests later) :
    later.sent = session.sent ++ requests := by
  rw [leads]
  exact sent_afterAll

/-- What is replied later is what was to be replied then. -/
theorem Leads.repliesTo_append (leads : session.Leads requests later) :
    session.repliesTo (requests ++ more) = session.repliesTo requests ++ later.repliesTo more := by
  have same : later.repliesTo more = (session.afterAll requests).repliesTo more := by
    rw [leads]
    exact repliesTo_opened
  rw [same, Session.repliesTo_append]

/-- Exactly these requests, each with its reply, lie between a session and a later one. -/
structure Exchanges (session : Session) (exchanged : List (Request × Reply)) (later : Session) :
    Prop where
  /-- These are the requests. -/
  leads : session.Leads (exchanged.map Prod.fst) later
  /-- These are the replies. -/
  replies : session.repliesTo (exchanged.map Prod.fst) = exchanged.map Prod.snd

/-- Nothing was exchanged. -/
theorem Exchanges.refl : session.Exchanges [] session := ⟨rfl, rfl⟩

/-- Opening services is no exchange. -/
theorem exchanges_opened {opened : List (Service × Text)} :
    session.Exchanges [] { session with opened } := ⟨rfl, rfl⟩

/-- A request is exchanged with its reply. -/
theorem exchanges_answer :
    session.Exchanges [(request, (session.answer request).1)] (session.answer request).2 :=
  ⟨rfl, rfl⟩

theorem Exchanges.append {exchanged others : List (Request × Reply)}
    (first : session.Exchanges exchanged later) (second : later.Exchanges others last) :
    session.Exchanges (exchanged ++ others) last where
  leads := by
    rw [List.map_append]
    exact first.leads.append second.leads
  replies := by
    rw [List.map_append, List.map_append, first.leads.repliesTo_append, first.replies,
      second.replies]

end Session

/-! ## (3) What becomes of a reply -/

/-- A reply says something: it is an answer that is no refusal, and what it says can be read. -/
def Reply.Says (reply : Reply) (value : Json) : Prop :=
  ∃ status phrase body, reply = .answered status phrase body ∧ status < 300 ∧
    contentOf status body = .ok value

/-- A reply says one thing only. -/
theorem Reply.Says.unique {reply : Reply} {value other : Json} (said : reply.Says value)
    (again : reply.Says other) : value = other := by
  obtain ⟨status, phrase, body, rfl, -, h⟩ := said
  obtain ⟨_, _, _, ⟨⟩, -, hother⟩ := again
  rw [h, Except.ok.injEq] at hother
  exact hother

/-- The failure of an answer that refuses a request on the way to an aim. -/
def refusalOf (aim : Text) (status : Int) (phrase body : Text) : Failure :=
  match if status = 403 then Grounds.check body else .ok () with
  | .error fault => .grounds fault
  | .ok () =>
    match reasonOf phrase body with
    | .error failure => failure
    | .ok reason => .refused (aim ++ (" failed: " : Text) ++ reason) (some status)

/-- What a reply says on the way to an aim, or why the work stops there. -/
def judge (aim : Text) : Reply → Outcome Json
  | .broken message => .error (.disconnected message)
  | .answered status phrase body =>
    if status < 300 then contentOf status body else .error (refusalOf aim status phrase body)

/-- Only a reply that says something lets the work go on. -/
theorem judge_eq_ok_iff {aim : Text} {reply : Reply} {value : Json} :
    judge aim reply = .ok value ↔ reply.Says value := by
  cases reply with
  | broken message => simp [judge, Reply.Says]
  | answered status phrase body =>
      constructor
      · intro h
        by_cases success : status < 300
        · rw [judge, if_pos success] at h
          exact ⟨status, phrase, body, rfl, success, h⟩
        · rw [judge, if_neg success] at h
          cases h
      · rintro ⟨_, _, _, ⟨⟩, success, h⟩
        rw [judge, if_pos success]
        exact h

/-- A reply that stops the work says nothing. -/
theorem not_says_of_judge {aim : Text} {reply : Reply} {failure : Failure}
    (stopped : judge aim reply = .error failure) (value : Json) : ¬reply.Says value := by
  intro said
  rw [judge_eq_ok_iff.mpr said] at stopped
  cases stopped

variable {α : Type} {session after : Session}

theorem Exchange.ends_ofOutcome_iff {outcome : Outcome α} {result : Outcome α} :
    Ends (Exchange.ofOutcome outcome) session result after ↔
      result = outcome ∧ after = session := by
  cases outcome with
  | error failure => exact ends_throw_iff
  | ok value => exact ends_pure_iff

/-- A request is sent and its reply judged; the session goes on behind it in any case. -/
theorem ends_call_iff {aim : Text} {request : Request} {result : Outcome Json} :
    Ends (call aim request) session result after ↔
      result = judge aim (session.answer request).1 ∧ after = (session.answer request).2 := by
  rw [call, ends_get_bind_iff]
  rcases session.answer request with ⟨reply, next⟩
  rw [ends_set_bind_iff]
  cases reply with
  | broken message => exact ends_throw_iff
  | answered status phrase body =>
      by_cases success : status < 300
      · simp only [judge, if_pos success]
        exact Exchange.ends_ofOutcome_iff
      · simp only [judge, if_neg success, refusalOf]
        -- the grounds are looked into first, and only then the reason is read
        by_cases forbidden : status = 403
        · rw [if_pos forbidden, if_pos forbidden]
          cases Grounds.check body with
          | error fault => exact ends_throw_iff
          | ok _ => cases reasonOf phrase body <;> exact ends_throw_iff
        · rw [if_neg forbidden, if_neg forbidden]
          cases reasonOf phrase body <;> exact ends_throw_iff

end Coursework.Remote
