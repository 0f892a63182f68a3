import Coursework.Proofs.Json.Reading
import Coursework.Proofs.Outcome

/-! # What a quoted text spends

A sign that cannot stand for itself in a quoted text is written with an escape, and every escape
begins with a backslash. So a value that is read has at most as many such signs as the text has
backslashes. A text that is quoted as it is comes back exactly if it has no such sign.

* **`Json.standsForItself`** tells the signs that need no escape, **`Json.IsVerbatim`** is a text of
  them.
* **`Json.exists_readText`** takes a quoted text apart; **`Json.readText_verbatim`** reads one.
* **`Json.escapes`** counts the signs of a value that need an escape;
  **`Json.escapes_le_of_read`** bounds them. -/

namespace Coursework.Json

/-! ## (1) Signs that need no escape -/

/-- Whether a sign stands for itself in a quoted text. -/
def standsForItself (sign : Nat) : Bool :=
  Sign.space ≤ sign && sign != Sign.doubleQuote && sign != Sign.backslash

/-- A text of signs that stand for themselves. -/
def IsVerbatim (text : Text) : Prop := ∀ sign ∈ text, standsForItself sign = true

instance (text : Text) : Decidable (IsVerbatim text) :=
  inferInstanceAs (Decidable (∀ sign ∈ text, standsForItself sign = true))

theorem standsForItself_iff {sign : Nat} : standsForItself sign = true ↔
    Sign.space ≤ sign ∧ sign ≠ Sign.doubleQuote ∧ sign ≠ Sign.backslash := by
  simp [standsForItself, and_assoc]

/-- The number of signs of a text that need an escape. -/
def escapesIn (text : Text) : Nat := text.countP (! standsForItself ·)

/-! ## (2) Quoted texts -/

/-- A text without control characters. -/
def Printed (text : Text) : Prop := ∀ sign ∈ text, Sign.space ≤ sign

/-- Hexadecimal digits are no control characters. -/
theorem printed_of_hexValue {a b c d value : Nat} (spelled : hexValue? a b c d = some value) :
    Printed [a, b, c, d] := by
  have digit {sign value : Nat} (spelled : Sign.hexValue? sign = some value) :
      Sign.space ≤ sign := by
    rw [Sign.hexValue?] at spelled
    simp only [Sign.isDigit, Bool.and_eq_true, decide_eq_true_eq] at spelled
    simp only [Sign.space]
    split_ifs at spelled <;> omega
  simp only [hexValue?, Option.bind_eq_bind, Option.bind_eq_some_iff] at spelled
  obtain ⟨_, first, _, second, _, third, _, fourth, -⟩ := spelled
  simp only [Printed, List.forall_mem_cons]
  exact ⟨digit first, digit second, digit third, digit fourth, List.forall_mem_nil _⟩

/-- An escape is made of signs behind its backslash, none of them a control character. -/
theorem exists_readEscape (opening text : Text) : ∀ sign rest,
    readEscape opening text = .ok (sign, rest) →
      ∃ used, text = used ++ rest ∧ used ≠ [] ∧ Printed used := by
  have codePoint {a b c d value : Nat} (spelled : hexValue? a b c d = some value) :
      Printed [117, a, b, c, d] :=
    List.forall_mem_cons.mpr ⟨by decide, printed_of_hexValue spelled⟩
  fun_cases readEscape opening text with
  | case1 | case2 | case3 | case4 | case8 | case10 =>
      intro _ _ found
      cases found
  | case5 a b c d _ first e f g h after _ _ second =>
      intro sign rest found
      have found := Except.ok.inj found
      split at found <;> obtain ⟨-, rfl⟩ := Prod.mk.inj found
      · refine ⟨[117, a, b, c, d] ++ Sign.backslash :: [117, e, f, g, h], rfl, by simp, ?_⟩
        exact List.forall_mem_append.mpr
          ⟨codePoint first, List.forall_mem_cons.mpr ⟨by decide, codePoint second⟩⟩
      · exact ⟨_, rfl, by simp, codePoint first⟩
  | case6 a b c d _ first =>
      rintro _ _ ⟨⟩
      exact ⟨[117, a, b, c, d], rfl, by simp, codePoint first⟩
  | case7 a b c d _ _ _ first =>
      rintro _ _ ⟨⟩
      exact ⟨[117, a, b, c, d], rfl, by simp, codePoint first⟩
  | case9 letter rest _ _ sign meant =>
      rintro _ _ ⟨⟩
      refine ⟨[letter], rfl, by simp, List.forall_mem_singleton.mpr ?_⟩
      by_contra control
      rw [unescape?] at meant
      simp only [Bool.or_eq_true, decide_eq_true_eq, Sign.doubleQuote, Sign.backslash, Sign.slash]
        at meant
      simp only [Sign.space] at control
      split_ifs at meant <;> omega

/-- What stands between two quotes, and the text that is read from it. -/
structure Spells (raw value : Text) : Prop where
  /-- There is no control character. -/
  printed : Printed raw
  /-- Every sign that needs an escape has a backslash. -/
  escapes : escapesIn value ≤ raw.count Sign.backslash
  /-- Nothing stands for more signs than it has. -/
  length_le : value.length ≤ raw.length
  /-- It stands for as many only if it has no escape. -/
  verbatim : raw.length ≤ value.length → IsVerbatim raw

theorem spells_nil : Spells [] [] where
  printed := List.forall_mem_nil _
  escapes := Nat.le_refl 0
  length_le := Nat.le_refl 0
  verbatim _ := List.forall_mem_nil _

section Spells

variable {raw value : Text} {sign : Nat} (spells : Spells raw value)

include spells

/-- A sign that stands for itself before what is spelled. -/
theorem Spells.cons (itself : standsForItself sign = true) : Spells (sign :: raw) (sign :: value)
    where
  printed := List.forall_mem_cons.mpr ⟨(standsForItself_iff.mp itself).1, spells.printed⟩
  escapes := by
    have unescaped : escapesIn (sign :: value) = escapesIn value :=
      List.countP_cons_of_neg (by simp [itself])
    rw [unescaped]
    exact spells.escapes.trans (List.count_le_count_cons)
  length_le := Nat.succ_le_succ spells.length_le
  verbatim long := List.forall_mem_cons.mpr ⟨itself, spells.verbatim (Nat.le_of_succ_le_succ long)⟩

/-- An escape before what is spelled. -/
theorem Spells.escape {used : Text} (some : used ≠ []) (printed : Printed used) :
    Spells (Sign.backslash :: (used ++ raw)) (sign :: value) where
  printed := List.forall_mem_cons.mpr
    ⟨by decide, List.forall_mem_append.mpr ⟨printed, spells.printed⟩⟩
  escapes := by
    have one : escapesIn (sign :: value) ≤ escapesIn value + 1 := by
      rw [escapesIn, List.countP_cons]
      split <;> simp [escapesIn]
    have inner : raw.count Sign.backslash ≤ (used ++ raw).count Sign.backslash :=
      (List.sublist_append_right used raw).count_le _
    have enough := spells.escapes
    rw [List.count_cons_self]
    omega
  length_le := by
    have shorter := spells.length_le
    simp only [List.length_cons, List.length_append]
    omega
  verbatim long := by
    have shorter := spells.length_le
    have filled := List.length_pos_iff.mpr some
    simp only [List.length_cons, List.length_append] at long
    omega

end Spells

/-- A quoted text that is read spells its value up to a quote. -/
theorem exists_readText (opening : Text) (steps : Nat) (text : Text) : ∀ value rest,
    readText opening steps text = .ok (value, rest) →
      ∃ raw, text = raw ++ Sign.doubleQuote :: rest ∧ Spells raw value := by
  induction steps generalizing text with
  | zero =>
      intro _ _ found
      cases found
  | succ steps ih =>
      cases text with
      | nil =>
          intro _ _ found
          cases found
      | cons sign text =>
          intro value rest found
          rw [readText] at found
          split at found
          · rename_i quote
            cases found
            exact ⟨[], by rw [quote]; rfl, spells_nil⟩
          · rename_i unquoted
            split at found
            · rename_i backslash
              split at found
              · cases found
              · rename_i meant behind escape
                obtain ⟨⟨others, after⟩, later, same⟩ := Outcome.map_eq_ok_iff.mp found
                obtain ⟨used, rfl, some, printed⟩ := exists_readEscape _ _ _ _ escape
                obtain ⟨raw, rfl, spells⟩ := ih behind others after later
                cases same
                refine ⟨Sign.backslash :: (used ++ raw), ?_, spells.escape some printed⟩
                rw [backslash, List.cons_append, List.append_assoc]
            · rename_i unescaped
              split at found
              · cases found
              · rename_i printed
                obtain ⟨⟨others, after⟩, later, same⟩ := Outcome.map_eq_ok_iff.mp found
                obtain ⟨raw, rfl, spells⟩ := ih text others after later
                cases same
                exact ⟨sign :: raw, rfl, spells.cons
                  (standsForItself_iff.mpr ⟨Nat.le_of_not_lt printed, unquoted, unescaped⟩)⟩

/-- A text that is quoted as it is comes back. -/
theorem readText_verbatim {value : Text} (verbatim : IsVerbatim value) (opening : Text)
    {steps : Nat} (enough : value.length < steps) (rest : Text) :
    readText opening steps (value ++ Sign.doubleQuote :: rest) = .ok (value, rest) := by
  induction value generalizing steps with
  | nil =>
      cases steps with
      | zero => cases enough
      | succ steps => rw [List.nil_append, readText, if_pos rfl]
  | cons sign value ih =>
      obtain ⟨first, others⟩ := List.forall_mem_cons.mp verbatim
      obtain ⟨printed, unquoted, unescaped⟩ := standsForItself_iff.mp first
      cases steps with
      | zero => cases enough
      | succ steps =>
          rw [List.cons_append, readText, if_neg unquoted, if_neg unescaped,
            if_neg (Nat.not_lt.mpr printed), ih others (Nat.lt_of_succ_lt_succ enough)]
          rfl

/-! ## (3) Values -/

mutual
/-- The number of signs in the texts of a value that need an escape. -/
def escapes : Json → Nat
  | .text value => escapesIn value
  | .list items => escapesOfItems items
  | .object fields => escapesOfFields fields
  | .null | .bool _ | .int _ | .float _ => 0
/-- That number for the items of a list. -/
def escapesOfItems : List Json → Nat
  | [] => 0
  | item :: items => escapes item + escapesOfItems items
/-- That number for the values of fields. -/
def escapesOfFields : List (Text × Json) → Nat
  | [] => 0
  | (_, value) :: fields => escapes value + escapesOfFields fields
end

/-- A field that is set adds the number of its value at most. -/
theorem escapesOfFields_insertField (fields : List (Text × Json)) (name : Text) (value : Json) :
    escapesOfFields (insertField fields name value) ≤ escapesOfFields fields + escapes value := by
  induction fields with
  | nil => simp [insertField, escapesOfFields]
  | cons field fields ih =>
      obtain ⟨key, old⟩ := field
      rw [insertField]
      split <;> simp only [escapesOfFields] <;> omega

/-- What is read from the start of a text costs, together with the backslashes that are left, no
more than there are. -/
def Spends {α : Type} (cost : α → Nat) (budget : Nat) (found : Except Fault (α × Text)) : Prop :=
  ∀ value rest, found = .ok (value, rest) → cost value + rest.count Sign.backslash ≤ budget

section Spends

variable {α β : Type} {cost : α → Nat} {budget : Nat} {found : Except Fault (α × Text)}

theorem spends_error (fault : Fault) : Spends cost budget (.error fault) := by
  intro _ _ found
  cases found

theorem spends_ok {value : α} {rest : Text}
    (enough : cost value + rest.count Sign.backslash ≤ budget) :
    Spends cost budget (.ok (value, rest)) := by
  intro _ _ found
  cases found
  exact enough

theorem Spends.map (spends : Spends cost budget found) {change : α → β} {other : β → Nat}
    {larger : Nat} (costs : ∀ value, other (change value) + budget ≤ cost value + larger) :
    Spends other larger (found.map fun (value, rest) => (change value, rest)) := by
  intro value rest changed
  obtain ⟨⟨earlier, behind⟩, rfl, same⟩ := Outcome.map_eq_ok_iff.mp changed
  cases same
  have own := spends _ _ rfl
  have more := costs earlier
  omega

theorem Spends.le (spends : Spends cost budget found) {larger : Nat} (more : budget ≤ larger) :
    Spends cost larger found := by
  intro value rest read
  exact (spends value rest read).trans more

end Spends

theorem count_le_of_suffix {text rest : Text} (later : rest <:+ text) :
    rest.count Sign.backslash ≤ text.count Sign.backslash :=
  later.sublist.count_le _

theorem spends_readText (opening : Text) (steps : Nat) (text : Text) :
    Spends escapesIn (text.count Sign.backslash) (readText opening steps text) := by
  intro value rest found
  obtain ⟨raw, rfl, spells⟩ := exists_readText opening steps text value rest found
  have enough := spells.escapes
  rw [List.count_append, List.count_cons_of_ne (by decide)]
  omega

/-- Numbers have no signs that need an escape. -/
theorem spends_readNumber (text : Text) :
    Spends escapes (text.count Sign.backslash) (readNumber text) := by
  have unsigned (start : Text) (negative : Bool) (text : Text) (value : Json) (rest : Text)
      (found : readUnsigned start negative text = .ok (value, rest)) : escapes value = 0 := by
    rw [readUnsigned] at found
    split at found
    · cases found
    · dsimp only at found
      split_ifs at found <;> cases found <;> rfl
  intro value rest found
  have later := (within_readNumber text).rest value rest found
  rw [readNumber.eq_def] at found
  split at found <;> rw [unsigned _ _ _ value rest found, Nat.zero_add] <;>
    exact count_le_of_suffix later

theorem spends_readKeyword {text : Text} {found : Json × Text}
    (h : readKeyword? text = some found) :
    Spends escapes (text.count Sign.backslash) (.ok found) := by
  have plain : ∀ keyword ∈ keywords, escapes keyword.2 = 0 := by simp [keywords, escapes]
  intro value rest read
  have later := (within_readKeyword h).rest value rest read
  obtain ⟨⟨word, spelled⟩, member, behind⟩ := List.exists_of_findSome?_eq_some h
  obtain ⟨_, -, rfl⟩ := Option.map_eq_some_iff.mp behind
  cases read
  rw [plain _ member, Nat.zero_add]
  exact count_le_of_suffix later

mutual

theorem spends_readValue : (steps : Nat) → (source : Text) →
    Spends escapes (source.count Sign.backslash) (readValue steps source)
  | 0, _ => spends_error _
  | steps + 1, source => by
      rw [readValue.eq_def]
      dsimp only
      split
      · rename_i rest
        refine Spends.le ?_ (count_le_of_suffix (List.suffix_cons Sign.doubleQuote rest))
        exact (spends_readText _ steps rest).map fun value => by rw [escapes]
      · rename_i rest
        have later := List.suffix_cons Sign.leftBrace rest
        split
        · rename_i close
          refine spends_ok ?_
          rw [escapes, escapesOfFields, Nat.zero_add]
          exact count_le_of_suffix ((suffix_of_skip close).trans later)
        · refine Spends.le ?_ (count_le_of_suffix ((skip_suffix rest).trans later))
          refine (spends_readMembers steps [] _).map fun fields => ?_
          rw [escapes, escapesOfFields, Nat.zero_add]
      · rename_i rest
        have later := List.suffix_cons Sign.leftBracket rest
        split
        · rename_i close
          refine spends_ok ?_
          rw [escapes, escapesOfItems, Nat.zero_add]
          exact count_le_of_suffix ((suffix_of_skip close).trans later)
        · refine Spends.le ?_ (count_le_of_suffix ((skip_suffix rest).trans later))
          exact (spends_readElements steps _).map fun items => by rw [escapes]
      · split
        · rename_i keyword
          exact spends_readKeyword keyword
        · exact spends_readNumber source

theorem spends_readElements : (steps : Nat) → (source : Text) →
    Spends escapesOfItems (source.count Sign.backslash) (readElements steps source)
  | 0, _ => spends_error _
  | steps + 1, source => by
      have first := spends_readValue steps source
      rw [readElements.eq_def]
      dsimp only
      split
      · exact spends_error _
      · rename_i value rest found
        have own := first value rest found
        split
        · rename_i close
          have later := count_le_of_suffix (suffix_of_skip close)
          refine spends_ok ?_
          simp only [escapesOfItems]
          omega
        · rename_i behind comma
          have later := count_le_of_suffix ((skip_suffix behind).trans (suffix_of_skip comma))
          refine (spends_readElements steps (skip behind)).map fun items => ?_
          rw [escapesOfItems]
          omega
        · exact spends_error _

theorem spends_readMembers : (steps : Nat) → (before : List (Text × Json)) → (source : Text) →
    Spends escapesOfFields (escapesOfFields before + source.count Sign.backslash)
      (readMembers steps before source)
  | 0, _, _ => spends_error _
  | steps + 1, before, source => by
      rw [readMembers.eq_def]
      dsimp only
      split
      · rename_i rest
        have opening := count_le_of_suffix (List.suffix_cons Sign.doubleQuote rest)
        refine Spends.le ?_ (Nat.add_le_add_left opening _)
        split
        · exact spends_error _
        · rename_i name behind named
          have unnamed := spends_readText _ _ _ name behind named
          split
          · rename_i behind colon
            have later := count_le_of_suffix ((skip_suffix behind).trans (suffix_of_skip colon))
            split
            · exact spends_error _
            · rename_i value behind found
              have own := spends_readValue _ _ value behind found
              have inserted := escapesOfFields_insertField before name value
              split
              · rename_i close
                have later := count_le_of_suffix (suffix_of_skip close)
                exact spends_ok (by omega)
              · rename_i behind comma
                have later := count_le_of_suffix ((skip_suffix behind).trans (suffix_of_skip comma))
                exact (spends_readMembers steps _ (skip behind)).le (by omega)
              · exact spends_error _
          · exact spends_error _
      · exact spends_error _

end

/-- A value that is read has at most as many signs that need an escape as its text has
backslashes. -/
theorem escapes_le_of_read {source : Text} {value : Json} (found : read source = .ok value) :
    escapes value ≤ source.count Sign.backslash := by
  rw [read.eq_def] at found
  split at found
  · cases found
  · split at found
    · cases found
    · rename_i own rest begins
      have spent := spends_readValue _ _ own rest begins
      have skipped := count_le_of_suffix (skip_suffix source)
      split at found <;> cases found
      omega

end Coursework.Json
