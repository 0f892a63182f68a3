import Coursework.Proofs.Json.Literal
import Coursework.Proofs.Remote.Publication
import Coursework.Proofs.Text.Units

/-! # One document, filled once

Publishing begins nothing that is known to fail: without a token, or where the content is not
compiled, nothing is sent. Otherwise one document is created. It is filled by one more request if
the reply gives an identity that can stand in an address, and is left empty if not.

* **`Json.Addressable`** is an identity that can stand in an address.
* **`Followed`** says what is sent after a document was created, **`FilledOnce`** what is sent
  altogether; **`filledOnce_publish`** shows it of every publication.
* **`not_filled_surrogate`** is a reply with an identity under which no document is filled. -/

namespace Coursework

/-! ## (1) Identities in addresses -/

/-- A text can stand in an address unless it has a surrogate. -/
theorem Text.exists_percentEncoded_iff {text : Text} :
    (∃ part, text.percentEncoded = .ok part) ↔ text.hasSurrogate = false := by
  rw [← Text.exists_utf8_iff]
  simp only [percentEncoded]
  cases text.utf8 with
  | error fault =>
      constructor
      · rintro ⟨_, ⟨⟩⟩
      · rintro ⟨_, ⟨⟩⟩
  | ok bytes => exact ⟨fun _ => ⟨bytes, rfl⟩, fun _ => ⟨bytes.flatMap percentByte, rfl⟩⟩

/-- An identity can stand in an address: it is no text with a surrogate. -/
def Json.Addressable (identity : Json) : Prop :=
  ∀ name, identity = .text name → name.hasSurrogate = false

theorem Json.addressable_iff {identity : Json} :
    identity.Addressable ↔ ∃ part, identity.display.percentEncoded = .ok part := by
  rw [Text.exists_percentEncoded_iff]
  constructor
  · exact Json.hasSurrogate_display
  · rintro plain name rfl
    exact plain

/-! ## (2) What is sent -/

namespace Remote

/-- What is sent after a document was created with this reply. -/
structure Followed (compilation : Compilation) (reply : Reply)
    (others : List (Request × Reply)) : Prop where
  /-- Under an identity that is given the document is filled by one request, which asks for all
  that was compiled, in order. -/
  filled : ∀ identity, reply.Gives identity → identity.Addressable →
    ∃ part requests second, identity.display.percentEncoded = .ok part ∧
      Operation.requests (compilation.operations.map .operation) = .ok requests ∧
      others = [(filling part requests, second)]
  /-- Without one nothing else is sent. -/
  left : (∀ identity, reply.Gives identity → ¬identity.Addressable) → others = []

/-- What is sent for a publication, what is replied, and how it ends. -/
structure FilledOnce (title : Text) (content : Content) (token : Text)
    (exchanged : List (Request × Reply)) (result : Outcome Link) : Prop where
  /-- Without a token, or where the content is not compiled, nothing is sent. -/
  silent : (token = [] ∨ ∃ failure, compiled content = .error failure) →
    exchanged = [] ∧ ∃ failure, result = .error failure
  /-- Otherwise one document is created, and what follows depends on the reply. -/
  created : ∀ compilation, token ≠ [] → compiled content = .ok compilation →
    ∃ reply others, exchanged = (creation title, reply) :: others ∧
      Followed compilation reply others
  /-- A link is given only when the document was created and filled, and leads to that. -/
  linked : ∀ link, result = .ok link →
    ∃ first filled second value, exchanged = [(creation title, first), (filled, second)] ∧
      first.Gives (.text link.identity) ∧ second.Says value ∧
      link.address = readingAddress link.identity

section FilledOnce

variable {title token : Text} {content : Content} {compilation : Compilation}
  {exchanged : List (Request × Reply)} {result : Outcome Link}

/-- After a reply that names no document nothing else is sent. -/
theorem followed_nil {reply : Reply} (nameless : ∀ identity part, ¬reply.Names identity part) :
    Followed compilation reply [] where
  filled := by
    intro identity gives addressable
    obtain ⟨part, encoded⟩ := Json.addressable_iff.mp addressable
    exact (nameless identity part ⟨gives, encoded⟩).elim
  left _ := rfl

/-- After a reply that names one the document is filled. -/
theorem followed_filling {first second : Reply} {identity : Json} {part : Text}
    (named : first.Names identity part) :
    Followed compilation first [(fillingWith part compilation, second)] where
  filled := by
    intro other again _
    obtain ⟨gives, encoded⟩ := named
    obtain rfl := gives.unique again
    exact ⟨part, _, second, encoded, requests_operation compilation.operations, rfl⟩
  left unaddressable := by
    obtain ⟨gives, encoded⟩ := named
    exact absurd (Json.addressable_iff.mpr ⟨part, encoded⟩) (unaddressable identity gives)

theorem Publication.silent (course : Publication title content token exchanged result)
    (unsound : token = [] ∨ ∃ failure, compiled content = .error failure) :
    exchanged = [] ∧ ∃ failure, result = .error failure := by
  have unready {compilation : Compilation} (hasToken : token ≠ [])
      (sound : compiled content = .ok compilation) : False := by
    obtain noToken | ⟨failure, failed⟩ := unsound
    · exact hasToken noToken
    · cases sound.symm.trans failed
  cases course with
  | tokenless _ => exact ⟨rfl, _, rfl⟩
  | uncompiled _ => exact ⟨rfl, _, rfl⟩
  | unnamed hasToken sound _ => exact (unready hasToken sound).elim
  | unfilled hasToken sound _ _ => exact (unready hasToken sound).elim
  | filled hasToken sound _ _ _ => exact (unready hasToken sound).elim

theorem Publication.created (course : Publication title content token exchanged result)
    (hasToken : token ≠ []) (sound : compiled content = .ok compilation) :
    ∃ reply others, exchanged = (creation title, reply) :: others ∧
      Followed compilation reply others := by
  cases course with
  | tokenless noToken => exact absurd noToken hasToken
  | uncompiled unsound => cases sound.symm.trans unsound
  | unnamed _ _ nameless => exact ⟨_, [], rfl, followed_nil nameless⟩
  | unfilled _ again named _ | filled _ again named _ _ =>
      obtain rfl := Except.ok.inj (sound.symm.trans again)
      exact ⟨_, _, rfl, followed_filling named⟩

theorem Publication.linked {link : Link}
    (course : Publication title content token exchanged result) (ok : result = .ok link) :
    ∃ first filled second value, exchanged = [(creation title, first), (filled, second)] ∧
      first.Gives (.text link.identity) ∧ second.Says value ∧
      link.address = readingAddress link.identity := by
  cases course with
  | tokenless _ => cases ok
  | uncompiled _ => cases ok
  | unnamed _ _ _ => cases ok
  | unfilled _ _ _ _ => cases ok
  | filled _ _ named said linked =>
      obtain ⟨rfl, address⟩ := ofIdentity_eq_ok (linked.trans ok)
      exact ⟨_, _, _, _, rfl, named.1, said, address⟩

end FilledOnce

/-- Whatever the services reply, a publication begins nothing that is known to fail, and creates
and fills one document at most. -/
theorem filledOnce_publish (title : Text) (content : Content) (access : Access)
    (session : Session) :
    ∃ result exchanged after, Ends (publish title content access) session result after ∧
      session.Exchanges exchanged after ∧
      FilledOnce title content access.token exchanged result := by
  obtain ⟨result, after, ends⟩ := exists_ends (publish title content access) session
  obtain ⟨exchanged, exchanges, course⟩ := ends_publish ends
  exact ⟨result, exchanged, after, ends, exchanges, course.silent, fun _ => course.created,
    fun _ => course.linked⟩

/-! ## (3) An identity that cannot stand in an address -/

/-- A session that gives a surrogate as the identity of a document. -/
def surrogateSession : Session where
  replies := some [.answered 200 "Reason" "\x7b\"documentId\": \"\\ud800\"\x7d", .empty]

/-- A document is created under an identity that is not empty, and is left as it is. -/
theorem not_filled_surrogate :
    ¬∀ (title : Text) (content : Content) (access : Access) (session after : Session)
      (compilation : Compilation) (result : Outcome Link) (first : Reply)
      (others : List (Request × Reply)) (identity : Json),
      Ends (publish title content access) session result after → access.token ≠ [] →
      compiled content = .ok compilation →
      session.Exchanges ((creation title, first) :: others) after → first.Gives identity →
      ∃ part second, others = [(fillingWith part compilation, second)] := by
  intro every
  obtain ⟨result, after, ends⟩ :=
    exists_ends (publish "T" (.value (.text "x")) ⟨"tok", false⟩) surrogateSession
  have once : after.sent.length = 1 := by
    rw [show after = _ from (congrArg Prod.snd ends).symm]
    decide +kernel
  obtain ⟨exchanged, exchanges, course⟩ := ends_publish ends
  obtain ⟨compilation, sound⟩ : ∃ compilation, compiled (.value (.text "x")) = .ok compilation :=
    Outcome.exists_of_isOk (by decide +kernel)
  obtain ⟨reply, others, rfl, -⟩ := course.created (by decide) sound
  obtain ⟨replied, -⟩ := List.cons.inj exchanges.replies
  have gives : reply.Gives (.text [0xD800]) :=
    ⟨[("documentId", .text [0xD800])], ⟨200, _, _, replied.symm, by decide, by cbv⟩, by cbv, rfl⟩
  obtain ⟨part, second, rfl⟩ := every _ _ _ _ _ _ _ _ _ _ ends (by decide) sound exchanges gives
  rw [exchanges.leads.sent] at once
  cases once

end Remote

end Coursework
