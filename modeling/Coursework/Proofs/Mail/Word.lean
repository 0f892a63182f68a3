import Coursework.Mail.Word
import Coursework.Proofs.Mail.Unstructured

/-! # Reading rows of words

Words with full stops between them are read one after another, as part of a local part or a domain
and as part of a name, as long as no encoded word begins in them.

* **`Mail.Reader.Steps`** is what a repeated step finds; **`Mail.Reader.Steps.run_many`** reads it.
* **`Mail.IsWord`** is a word, **`Mail.IsRow`** a row of them.
* **`Mail.run_dotAtom`** reads a row as it is, **`Mail.exists_run_phrase`** as a name. -/

namespace Coursework.Mail

open Reader

/-! ## (1) Readers in sequence -/

namespace Reader

section Bind

variable {α β : Type} {first : Reader α} {second : α → Reader β} {text rest : Text} {value : α}

/-- The second of two readers begins where the first ends. -/
theorem run_bind_ok (h : first.run text = .ok (value, rest)) :
    (first >>= second).run text = (second value).run rest := by
  rw [StateT.run_bind, h]
  rfl

theorem run_orElse_ok {other : Reader α} (h : first.run text = .ok (value, rest)) :
    (orElse first other).run text = .ok (value, rest) := by
  change tryCatch (first.run text) _ = _
  rw [h]
  rfl

theorem run_orElse_mismatch {other : Reader α} (h : first.run text = .error .mismatch) :
    (orElse first other).run text = other.run text := by
  change tryCatch (first.run text) _ = _
  rw [h]
  rfl

end Bind

theorem run_next (sign : Nat) (text : Text) :
    next.run (sign :: text) = .ok (sign, sign :: text) := rfl

theorem run_isNext (kind : Nat → Bool) (text : Text) :
    (isNext kind).run text = .ok (text.head?.any kind, text) := rfl

theorem run_peek (text : Text) : peek.run text = .ok (text.head?, text) := rfl

theorem run_skip (sign : Nat) (text : Text) : skip.run (sign :: text) = .ok ((), text) := rfl

theorem run_get (text : Text) : (get : Reader Text).run text = .ok (text, text) := rfl

theorem run_when_false {α : Type} {kind : Nat → Bool} {step : Reader α} {text : Text}
    (other : text.head?.any kind = false) : (when kind step).run text = .ok ([], text) := by
  rw [when, run_bind_ok (run_isNext kind text), other]
  rfl

/-- What a step finds one after another, from the start of a text to where it finds nothing. -/
inductive Steps {α : Type} (step : Reader (Option α)) : Text → List α → Text → Prop
  /-- It finds nothing. -/
  | done {text : Text} (h : step.run text = .ok (none, text)) : Steps step text [] text
  /-- It finds something, and takes signs away. -/
  | more {text rest last : Text} {value : α} {values : List α}
    (h : step.run text = .ok (some value, rest)) (shorter : rest.length < text.length)
    (others : Steps step rest values last) : Steps step text (value :: values) last

theorem Steps.run_manyFrom {α : Type} {step : Reader (Option α)} {text last : Text}
    {values : List α} (steps : Steps step text values last) {count : Nat}
    (enough : text.length ≤ count) : (manyFrom step count).run text = .ok (values, last) := by
  induction steps generalizing count with
  | done h =>
      cases count with
      | zero => rfl
      | succ count =>
          rw [manyFrom, run_bind_ok h]
          rfl
  | more h shorter _ ih =>
      cases count with
      | zero => omega
      | succ count =>
          rw [manyFrom, run_bind_ok h]
          dsimp only
          rw [run_bind_ok (ih (by omega))]
          rfl

theorem Steps.run_many {α : Type} {step : Reader (Option α)} {text last : Text}
    {values : List α} (steps : Steps step text values last) :
    (many step).run text = .ok (values, last) := by
  rw [many, run_bind_ok (run_get text)]
  exact steps.run_manyFrom le_rfl

end Reader

/-! ## (2) Words -/

/-- The text does not go on with a sign of a word or with white space or a comment. -/
def StopsWord (rest : Text) : Prop :=
  ∀ sign, rest.head? = some sign → isSpecial sign = true ∧ opensBlank sign = false

/-- A word: signs that do not end one. -/
def IsWord (word : Text) : Prop := word ≠ [] ∧ ∀ sign ∈ word, endsAtom sign = false

theorem opensBlank_of_not_endsAtom {sign : Nat} (h : endsAtom sign = false) :
    opensBlank sign = false := by
  rw [endsAtom, Bool.or_eq_false_iff] at h
  rw [opensBlank, h.2, Bool.false_or, decide_eq_false_iff_not]
  rintro rfl
  exact absurd h.1 (by decide)

section Word

variable {word rest : Text} (isWord : IsWord word) (stops : StopsWord rest)

include stops

theorem StopsWord.run_blanks? : blanks?.run rest = .ok ([], rest) := by
  refine run_when_false ?_
  cases next : rest.head? with
  | none => rfl
  | some sign => exact (stops sign next).2

theorem StopsWord.takeWhile : rest.takeWhile (! endsAtom ·) = [] := by
  cases rest with
  | nil => rfl
  | cons sign rest =>
      have ends : endsAtom sign = true := by
        rw [endsAtom, (stops sign rfl).1]
        rfl
      rw [List.takeWhile_cons, ends]
      rfl

theorem StopsWord.dropWhile : rest.dropWhile (! endsAtom ·) = rest := by
  have whole := List.takeWhile_append_dropWhile (p := (! endsAtom ·)) (l := rest)
  rwa [stops.takeWhile, List.nil_append] at whole

omit stops

include isWord

theorem IsWord.exists_cons : ∃ sign others, word = sign :: others ∧ endsAtom sign = false := by
  obtain ⟨sign, others, rfl⟩ := List.exists_cons_of_ne_nil isWord.1
  exact ⟨sign, others, rfl, isWord.2 sign List.mem_cons_self⟩

theorem IsWord.length_lt (rest : Text) : rest.length < (word ++ rest).length := by
  have := List.length_pos_iff.mpr isWord.1
  rw [List.length_append]
  omega

theorem IsWord.any_eq_true (rest : Text) :
    ((word ++ rest).head?.any fun sign => !endsAtom sign) = true := by
  obtain ⟨sign, others, rfl, h⟩ := isWord.exists_cons
  rw [List.cons_append, List.head?_cons, Option.any_some, h]
  rfl

theorem IsWord.run_blanks? (rest : Text) :
    blanks?.run (word ++ rest) = .ok ([], word ++ rest) := by
  obtain ⟨sign, others, rfl, h⟩ := isWord.exists_cons
  refine run_when_false ?_
  rw [List.cons_append, List.head?_cons, Option.any_some]
  exact opensBlank_of_not_endsAtom h

include stops

theorem IsWord.run_run : run.run (word ++ rest) = .ok (.leaf .word word, rest) := by
  have inside : ∀ sign ∈ word, (! endsAtom sign) = true := fun sign member => by
    rw [isWord.2 sign member]
    rfl
  rw [run, run_bind_ok (run_get _)]
  rw [List.takeWhile_append_of_pos inside, List.dropWhile_append_of_pos inside, stops.takeWhile,
    stops.dropWhile, List.append_nil]
  split
  · exact absurd rfl isWord.1
  · rfl

/-- Where no encoded word begins, a word is read. -/
theorem IsWord.run_atom (frameless : Frameless (word ++ rest)) :
    atom.run (word ++ rest) = .ok (.node .plain [.leaf .word word], rest) := by
  have here : ((word ++ rest).head?.any endsAtom) = false := by
    obtain ⟨sign, others, rfl, h⟩ := isWord.exists_cons
    exact h
  have unencoded : encodedWord.run (word ++ rest) = .error .mismatch := by
    rw [encodedWord, run_bind_ok (run_get _), frameless.read]
    rfl
  have content := (run_orElse_mismatch unencoded).trans (isWord.run_run stops)
  rw [atom, run_bind_ok (isWord.run_blanks? rest), run_bind_ok (run_isNext _ _), here,
    if_neg Bool.false_ne_true, run_bind_ok content, run_bind_ok stops.run_blanks?]
  rfl

theorem IsWord.run_word (frameless : Frameless (word ++ rest)) :
    Mail.word.run (word ++ rest) = .ok (.node .plain [.leaf .word word], rest) := by
  have read := isWord.run_atom stops frameless
  have before := isWord.run_blanks? rest
  obtain ⟨sign, others, rfl, h⟩ := isWord.exists_cons
  rw [List.cons_append] at read before ⊢
  rw [endsAtom, Bool.or_eq_false_iff] at h
  have unquoted : sign ≠ Sign.doubleQuote := by
    rintro rfl
    exact absurd h.1 (by decide)
  rw [Mail.word, run_bind_ok (run_next _ _), run_bind_ok before, run_bind_ok (run_peek _)]
  dsimp only [List.head?_cons]
  rw [if_neg unquoted, h.1, if_neg Bool.false_ne_true, run_bind_ok read]
  rfl

end Word

/-! ## (3) Rows of words -/

/-- How words are read that have full stops between them. -/
def dotted : List Text → List Piece
  | [] => []
  | [word] => [.leaf .word word]
  | word :: next :: words => .leaf .word word :: dot :: dotted (next :: words)

/-- The words with the full stop behind each but the last. -/
def dottedParts : List Text → List (List Piece)
  | [] => []
  | [word] => [[.leaf .word word]]
  | word :: next :: words => [.leaf .word word, dot] :: dottedParts (next :: words)

theorem flatten_dottedParts (words : List Text) : (dottedParts words).flatten = dotted words := by
  fun_induction dotted words with
  | case1 => rfl
  | case2 word => rfl
  | case3 word next words ih => rw [dottedParts, List.flatten_cons, ih]; rfl

/-- The last part has no full stop. -/
theorem getLast?_dottedParts (words : List Text) (filled : words ≠ []) :
    ∃ word, (dottedParts words).getLast? = some [.leaf .word word] := by
  fun_induction dottedParts words with
  | case1 => exact absurd rfl filled
  | case2 word => exact ⟨word, rfl⟩
  | case3 word next words ih =>
      obtain ⟨last, h⟩ := ih (List.cons_ne_nil _ _)
      refine ⟨last, ?_⟩
      rw [List.getLast?_cons, h]
      rfl

/-- A row of words: there is at least one. -/
def IsRow (words : List Text) : Prop := words ≠ [] ∧ ∀ word ∈ words, IsWord word

/-- The text of a row. -/
def row (words : List Text) : Text := Text.joinWith [Sign.fullStop] words

theorem row_singleton (word : Text) : row [word] = word := rfl

theorem row_cons (word : Text) (words : List Text) :
    row (word :: words) = word ++ words.flatMap (Sign.fullStop :: ·) :=
  Text.joinWith_cons [Sign.fullStop] word words

theorem row_cons_cons (word next : Text) (words : List Text) :
    row (word :: next :: words) = word ++ Sign.fullStop :: row (next :: words) := by
  rw [row, Text.joinWith_cons_cons, List.append_assoc]
  rfl

theorem stopsWord_cons {sign : Nat} (special : isSpecial sign = true)
    (other : opensBlank sign = false) (rest : Text) : StopsWord (sign :: rest) := by
  rintro _ ⟨⟩
  exact ⟨special, other⟩

theorem stopsWord_nil : StopsWord [] := by
  rintro _ ⟨⟩

/-- One word of a row with the full stop behind it. -/
def dottedStep : Reader (Option (List Piece)) := do
  if ← isNext fun sign => !endsAtom sign then
    let word ← run
    return some (word :: (← when (· == Sign.fullStop) (do skip; return dot)))
  else return none

theorem dottedRun_eq : dottedRun = (do
    if !(← isNext fun sign => !endsAtom sign) then mismatch
    let parts ← many dottedStep
    match parts.getLast? with
    | some [_, _] => mismatch
    | _ => return .node .plain parts.flatten) := rfl

/-- One part of a name. -/
def phraseStep : Reader (Option Piece) := do
  match ← peek with
  | none => return none
  | some sign =>
    if endsPhrase sign then return none
    else if sign = Sign.fullStop then skip; return some dot
    else return some (← wordOrBlanks)

theorem phrase_eq : phrase = (do
    let first ← (do return [← word]).orElse (pure [])
    let rest ← many phraseStep
    return first ++ rest) := rfl

section Row

variable {rest : Text} (stops : StopsWord rest)

include stops

theorem StopsWord.any_eq_false : (rest.head?.any fun sign => !endsAtom sign) = false := by
  cases next : rest.head? with
  | none => rfl
  | some sign =>
      rw [Option.any_some, endsAtom, (stops sign next).1]
      rfl

variable (other : rest.head?.any (· == Sign.fullStop) = false)

include other

theorem steps_dotted {words : List Text} (isRow : IsRow words) :
    Steps dottedStep (row words ++ rest) (dottedParts words) rest := by
  obtain ⟨filled, isWord⟩ := isRow
  fun_induction dottedParts words with
  | case1 => exact absurd rfl filled
  | case2 word =>
      have single := isWord word List.mem_cons_self
      refine .more ?_ (single.length_lt rest) (.done ?_)
      · rw [row_singleton, dottedStep, run_bind_ok (run_isNext _ _), single.any_eq_true, if_pos rfl,
          run_bind_ok (single.run_run stops), run_bind_ok (run_when_false other)]
        rfl
      · rw [dottedStep, run_bind_ok (run_isNext _ _), stops.any_eq_false]
        rfl
  | case3 word next words ih =>
      have first := isWord word List.mem_cons_self
      have others := ih (List.cons_ne_nil _ _) fun word member =>
        isWord word (List.mem_cons_of_mem _ member)
      rw [row_cons_cons, List.append_assoc, List.cons_append]
      refine .more ?_ ?_ others
      · rw [dottedStep, run_bind_ok (run_isNext _ _), first.any_eq_true, if_pos rfl,
          run_bind_ok (first.run_run (stopsWord_cons (by decide) (by decide) _))]
        rfl
      · exact Nat.lt_of_succ_lt (first.length_lt (Sign.fullStop :: _))

theorem run_dottedRun {words : List Text} (isRow : IsRow words) :
    dottedRun.run (row words ++ rest) = .ok (.node .plain (dotted words), rest) := by
  have steps := (steps_dotted stops other isRow).run_many
  obtain ⟨word, others, rfl⟩ := List.exists_cons_of_ne_nil isRow.1
  obtain ⟨last, hlast⟩ := getLast?_dottedParts (word :: others) isRow.1
  have first := isRow.2 word List.mem_cons_self
  have here : ((row (word :: others) ++ rest).head?.any fun sign => !endsAtom sign) = true := by
    rw [row_cons, List.append_assoc]
    exact first.any_eq_true _
  rw [dottedRun_eq, run_bind_ok (run_isNext _ _), here, if_neg (by decide)]
  dsimp only
  rw [run_bind_ok steps, hlast, flatten_dottedParts]
  rfl

/-- Where no encoded word begins, a row of words is read. -/
theorem run_dotAtom {words : List Text} (isRow : IsRow words)
    (frameless : Frameless (row words ++ rest)) :
    dotAtom.run (row words ++ rest) =
      .ok (.node .dotAtom [.node .plain (dotted words)], rest) := by
  have unencoded : encodedWord.run (row words ++ rest) = .error .mismatch := by
    rw [encodedWord, run_bind_ok (run_get _), frameless.read]
    rfl
  have content := (run_orElse_mismatch unencoded).trans (run_dottedRun stops other isRow)
  have before : blanks?.run (row words ++ rest) = .ok ([], row words ++ rest) := by
    obtain ⟨word, others, rfl⟩ := List.exists_cons_of_ne_nil isRow.1
    rw [row_cons, List.append_assoc]
    exact (isRow.2 word List.mem_cons_self).run_blanks? _
  rw [dotAtom, run_bind_ok before, run_bind_ok content, run_bind_ok stops.run_blanks?]
  rfl

end Row

/-- What stands behind the first word of a row. -/
theorem stopsWord_flatMap {rest : Text} (stops : StopsWord rest) (words : List Text) :
    StopsWord (words.flatMap (Sign.fullStop :: ·) ++ rest) := by
  cases words with
  | nil => exact stops
  | cons word words => exact stopsWord_cons (by decide) (by decide) _

theorem endsPhrase_of_not_endsAtom {sign : Nat} (h : endsAtom sign = false) :
    endsPhrase sign = false := by
  rw [endsAtom, Bool.or_eq_false_iff] at h
  rw [endsPhrase, h.1]
  rfl

theorem ne_of_not_endsAtom {sign special : Nat} (h : endsAtom sign = false)
    (isSpecial : endsAtom special = true) : sign ≠ special := by
  rintro rfl
  rw [h] at isSpecial
  cases isSpecial

/-- A full stop is a part of a name, and so is a word. -/
theorem run_phraseStep_dot (rest : Text) :
    phraseStep.run (Sign.fullStop :: rest) = .ok (some dot, rest) := rfl

theorem IsWord.run_phraseStep {word rest : Text} (isWord : IsWord word) (stops : StopsWord rest)
    (frameless : Frameless (word ++ rest)) :
    phraseStep.run (word ++ rest) = .ok (some (.node .plain [.leaf .word word]), rest) := by
  have read : wordOrBlanks.run (word ++ rest) = .ok (.node .plain [.leaf .word word], rest) :=
    run_orElse_ok (isWord.run_word stops frameless)
  obtain ⟨sign, others, rfl, h⟩ := isWord.exists_cons
  rw [phraseStep, run_bind_ok (run_peek _)]
  dsimp only [List.cons_append, List.head?_cons]
  rw [endsPhrase_of_not_endsAtom h, if_neg Bool.false_ne_true,
    if_neg (ne_of_not_endsAtom h (by decide))]
  exact run_bind_ok read

/-- Behind the first word of a row, the others are read as parts of a name. -/
theorem exists_steps_phrase {rest : Text} (stops : StopsWord rest)
    (ends : rest.head?.any endsPhrase = true) {words : List Text}
    (isWord : ∀ word ∈ words, IsWord word)
    (frameless : Frameless (words.flatMap (Sign.fullStop :: ·) ++ rest)) :
    ∃ parts, Steps phraseStep (words.flatMap (Sign.fullStop :: ·) ++ rest) parts rest := by
  induction words with
  | nil =>
      refine ⟨[], .done ?_⟩
      cases next : rest.head? with
      | none =>
          rw [next] at ends
          cases ends
      | some sign =>
          rw [next, Option.any_some] at ends
          rw [List.flatMap_nil, List.nil_append, phraseStep, run_bind_ok (run_peek _), next]
          dsimp only
          rw [ends]
          rfl
  | cons word words ih =>
      have first := isWord word List.mem_cons_self
      rw [List.flatMap_cons, List.append_assoc, List.cons_append] at frameless ⊢
      have behind := frameless.of_isInfix (List.suffix_cons _ _).isInfix
      obtain ⟨parts, others⟩ := ih
        (fun word member => isWord word (List.mem_cons_of_mem _ member))
        (behind.of_isInfix (List.suffix_append word _).isInfix)
      -- the full stop is one step and the word another
      refine ⟨_, .more (run_phraseStep_dot _) (Nat.lt_succ_self _) (.more
        (first.run_phraseStep (stopsWord_flatMap stops words) behind) (first.length_lt _) others)⟩

/-- A row of words is read as a name. -/
theorem exists_run_phrase {rest : Text} (stops : StopsWord rest)
    (ends : rest.head?.any endsPhrase = true) {words : List Text} (isRow : IsRow words)
    (frameless : Frameless (row words ++ rest)) :
    ∃ word parts, phrase.run (row words ++ rest) =
      .ok (.node .plain [.leaf .word word] :: parts, rest) := by
  obtain ⟨word, words, rfl⟩ := List.exists_cons_of_ne_nil isRow.1
  obtain ⟨first, others⟩ := List.forall_mem_cons.mp isRow.2
  rw [row_cons, List.append_assoc] at frameless ⊢
  obtain ⟨parts, steps⟩ := exists_steps_phrase stops ends others
    (frameless.of_isInfix (List.suffix_append word _).isInfix)
  have read : (do return [← Mail.word] : Reader (List Piece)).run _ = _ :=
    run_bind_ok (first.run_word (stopsWord_flatMap stops words) frameless)
  refine ⟨word, parts, ?_⟩
  rw [phrase_eq, run_bind_ok (run_orElse_ok read), run_bind_ok steps.run_many]
  rfl

end Coursework.Mail
