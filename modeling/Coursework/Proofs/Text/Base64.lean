import Coursework.Text.Base64

/-! # Reading back base 64

* **`Base64.decodeLoosely?_encode`**: bytes are read back, also with more fillings behind them than
  they need.
* **`Base64.decode?_encode`**: bytes are read back from their written form in either alphabet, and
  **`Base64.encode_append`** writes them in groups of three.
* **`Base64.plain_of_mem_encode`** and **`Base64.head?_encode`** are about the signs of a written
  form. -/

namespace Coursework.Base64

/-! ## (1) Signs -/

theorem value?_sign : ∀ value < 64, standard.value? (standard.sign value) = some value := by
  decide

/-- No sign of a value is the filling. -/
theorem sign_ne_equals : ∀ value < 64, standard.sign value ≠ Sign.equals := by decide

/-- The signs are ASCII, and none is a question mark. -/
theorem sign_plain :
    ∀ value < 64, standard.sign value < 0x80 ∧ standard.sign value ≠ Sign.question := by decide

/-- A written form is ASCII without question marks. -/
theorem plain_of_mem_encode {bytes : List Nat} (fits : ∀ byte ∈ bytes, byte < 0x100) {sign : Nat}
    (member : sign ∈ encode standard bytes) : sign < 0x80 ∧ sign ≠ Sign.question := by
  have filling : Sign.equals < 0x80 ∧ Sign.equals ≠ Sign.question := by decide
  fun_induction encode standard bytes with
  | case1 => cases member
  | case2 a =>
      simp only [List.forall_mem_singleton] at fits
      simp only [List.mem_cons, List.not_mem_nil, or_false] at member
      rcases member with rfl | rfl | rfl | rfl
      · exact sign_plain _ (by omega)
      · exact sign_plain _ (by omega)
      · exact filling
      · exact filling
  | case3 a b =>
      simp only [List.forall_mem_cons] at fits
      simp only [List.mem_cons, List.not_mem_nil, or_false] at member
      rcases member with rfl | rfl | rfl | rfl
      · exact sign_plain _ (by omega)
      · exact sign_plain _ (by omega)
      · exact sign_plain _ (by omega)
      · exact filling
  | case4 a b c bytes ih =>
      simp only [List.forall_mem_cons] at fits
      obtain ⟨ha, hb, hc, others⟩ := fits
      simp only [List.mem_cons] at member
      rcases member with rfl | rfl | rfl | rfl | member
      · exact sign_plain _ (by omega)
      · exact sign_plain _ (by omega)
      · exact sign_plain _ (by omega)
      · exact sign_plain _ (by omega)
      · exact ih others member

/-- A written form does not begin with the filling. -/
theorem head?_encode {bytes : List Nat} (fits : ∀ byte ∈ bytes, byte < 0x100) :
    (encode standard bytes).head? ≠ some Sign.equals := by
  have first : ∀ a < 0x100, some (standard.sign (a / 4)) ≠ some Sign.equals := fun a h same =>
    sign_ne_equals (a / 4) (by omega) (Option.some.inj same)
  fun_cases encode standard bytes with
  | case1 => exact fun h => by cases h
  | case2 a => exact first a (fits a List.mem_cons_self)
  | case3 a b => exact first a (fits a List.mem_cons_self)
  | case4 a b c bytes => exact first a (fits a List.mem_cons_self)

/-! ## (2) Reading back -/

section Step

variable {value : Nat} (below : value < 64) (pads count left : Nat) (text : Text)

include below

/-- The first of four signs is remembered. -/
theorem decodeLooselyFrom_first :
    decodeLooselyFrom standard pads 0 left (standard.sign value :: text) =
      decodeLooselyFrom standard 0 1 value text := by
  rw [decodeLooselyFrom, if_neg (sign_ne_equals value below), value?_sign value below]
  rfl

/-- The second fills up a byte. -/
theorem decodeLooselyFrom_second :
    decodeLooselyFrom standard pads 1 left (standard.sign value :: text) =
      (decodeLooselyFrom standard 0 2 (value % 16) text).map ((left * 4 + value / 16) :: ·) := by
  rw [decodeLooselyFrom, if_neg (sign_ne_equals value below), value?_sign value below]
  rfl

/-- So does the third. -/
theorem decodeLooselyFrom_third :
    decodeLooselyFrom standard pads 2 left (standard.sign value :: text) =
      (decodeLooselyFrom standard 0 3 (value % 4) text).map ((left * 16 + value / 4) :: ·) := by
  rw [decodeLooselyFrom, if_neg (sign_ne_equals value below), value?_sign value below]
  rfl

/-- The fourth leaves nothing. -/
theorem decodeLooselyFrom_fourth :
    decodeLooselyFrom standard pads 3 left (standard.sign value :: text) =
      (decodeLooselyFrom standard 0 0 0 text).map ((left * 64 + value) :: ·) := by
  rw [decodeLooselyFrom, if_neg (sign_ne_equals value below), value?_sign value below]
  rfl

end Step

/-- Bytes are read back from their written form, with two fillings more. -/
theorem decodeLoosely?_encode {bytes : List Nat} (fits : ∀ byte ∈ bytes, byte < 0x100) :
    decodeLoosely? standard (encode standard bytes ++ [Sign.equals, Sign.equals]) =
      some bytes := by
  rw [decodeLoosely?]
  fun_induction encode standard bytes with
  | case1 => rfl
  | case2 a =>
      have := fits a List.mem_cons_self
      have whole : a / 4 * 4 + a % 4 * 16 / 16 = a := by omega
      simp only [List.cons_append, List.nil_append]
      rw [decodeLooselyFrom_first (by omega), decodeLooselyFrom_second (by omega), whole]
      rfl
  | case3 a b =>
      have ha := fits a List.mem_cons_self
      have hb := fits b (List.mem_cons_of_mem _ List.mem_cons_self)
      have first : a / 4 * 4 + (a % 4 * 16 + b / 16) / 16 = a := by omega
      have second : (a % 4 * 16 + b / 16) % 16 * 16 + b % 16 * 4 / 4 = b := by omega
      simp only [List.cons_append, List.nil_append]
      rw [decodeLooselyFrom_first (by omega), decodeLooselyFrom_second (by omega),
        decodeLooselyFrom_third (by omega), first, second]
      rfl
  | case4 a b c bytes ih =>
      simp only [List.forall_mem_cons] at fits
      obtain ⟨ha, hb, hc, others⟩ := fits
      have first : a / 4 * 4 + (a % 4 * 16 + b / 16) / 16 = a := by omega
      have second : (a % 4 * 16 + b / 16) % 16 * 16 + (b % 16 * 4 + c / 64) / 4 = b := by omega
      have third : (b % 16 * 4 + c / 64) % 4 * 64 + c % 64 = c := by omega
      simp only [List.cons_append]
      rw [decodeLooselyFrom_first (by omega), decodeLooselyFrom_second (by omega),
        decodeLooselyFrom_third (by omega), decodeLooselyFrom_fourth (by omega), ih others, first,
        second, third]
      rfl

/-! ## (3) Reading back written forms only -/

/-- The values of an alphabet are read back from their signs, and none is the filling. -/
def Alphabet.IsFaithful (alphabet : Alphabet) : Prop :=
  ∀ value < 64, alphabet.value? (alphabet.sign value) = some value ∧
    alphabet.sign value ≠ Sign.equals

theorem isFaithful_standard : standard.IsFaithful := by
  rw [Alphabet.IsFaithful]
  decide

theorem isFaithful_urlSafe : urlSafe.IsFaithful := by
  rw [Alphabet.IsFaithful]
  decide

section Strict

variable {alphabet : Alphabet}

/-- The signs of a written form are those of the alphabet and the filling. -/
theorem mem_encode {bytes : List Nat} (fits : ∀ byte ∈ bytes, byte < 0x100) {sign : Nat}
    (member : sign ∈ encode alphabet bytes) :
    sign = Sign.equals ∨ ∃ value < 64, sign = alphabet.sign value := by
  fun_induction encode alphabet bytes with
  | case1 => cases member
  | case2 a =>
      simp only [List.forall_mem_singleton] at fits
      simp only [List.mem_cons, List.not_mem_nil, or_false] at member
      rcases member with rfl | rfl | rfl | rfl
      · exact .inr ⟨_, by omega, rfl⟩
      · exact .inr ⟨_, by omega, rfl⟩
      · exact .inl rfl
      · exact .inl rfl
  | case3 a b =>
      simp only [List.forall_mem_cons] at fits
      simp only [List.mem_cons, List.not_mem_nil, or_false] at member
      rcases member with rfl | rfl | rfl | rfl
      · exact .inr ⟨_, by omega, rfl⟩
      · exact .inr ⟨_, by omega, rfl⟩
      · exact .inr ⟨_, by omega, rfl⟩
      · exact .inl rfl
  | case4 a b c bytes ih =>
      simp only [List.forall_mem_cons] at fits
      obtain ⟨ha, hb, hc, others⟩ := fits
      simp only [List.mem_cons] at member
      rcases member with rfl | rfl | rfl | rfl | member
      · exact .inr ⟨_, by omega, rfl⟩
      · exact .inr ⟨_, by omega, rfl⟩
      · exact .inr ⟨_, by omega, rfl⟩
      · exact .inr ⟨_, by omega, rfl⟩
      · exact ih others member

/-- Groups of three bytes are written on their own. -/
theorem encode_append {first : List Nat} (groups : first.length % 3 = 0) (second : List Nat) :
    encode alphabet (first ++ second) = encode alphabet first ++ encode alphabet second := by
  fun_induction encode alphabet first with
  | case1 => rfl
  | case2 => cases groups
  | case3 => cases groups
  | case4 a b c bytes ih =>
      have fewer : bytes.length % 3 = 0 := by
        simp only [List.length_cons] at groups
        omega
      simp only [List.cons_append, encode, ih fewer]

/-- Bytes are read back from their written form. -/
theorem decode?_encode (faithful : alphabet.IsFaithful) {bytes : List Nat}
    (fits : ∀ byte ∈ bytes, byte < 0x100) :
    decode? alphabet (encode alphabet bytes) = some bytes := by
  fun_induction encode alphabet bytes with
  | case1 => rfl
  | case2 a =>
      have := fits a List.mem_cons_self
      have first := (faithful (a / 4) (by omega)).1
      have second := (faithful (a % 4 * 16) (by omega)).1
      have whole : a / 4 * 4 + a % 4 * 16 / 16 = a := by omega
      simp only [decode?, first, second, whole, Option.bind_eq_bind, Option.bind_some,
        Option.pure_def]
  | case3 a b =>
      have ha := fits a List.mem_cons_self
      have hb := fits b (List.mem_cons_of_mem _ List.mem_cons_self)
      have first := (faithful (a / 4) (by omega)).1
      have second := (faithful (a % 4 * 16 + b / 16) (by omega)).1
      obtain ⟨third, other⟩ := faithful (b % 16 * 4) (by omega)
      have high : a / 4 * 4 + (a % 4 * 16 + b / 16) / 16 = a := by omega
      have low : (a % 4 * 16 + b / 16) % 16 * 16 + b % 16 * 4 / 4 = b := by omega
      rw [decode?]
      · simp only [first, second, third, high, low, Option.bind_eq_bind, Option.bind_some,
          Option.pure_def]
      · exact fun filling => absurd filling other
  | case4 a b c bytes ih =>
      simp only [List.forall_mem_cons] at fits
      obtain ⟨ha, hb, hc, others⟩ := fits
      have first := (faithful (a / 4) (by omega)).1
      have second := (faithful (a % 4 * 16 + b / 16) (by omega)).1
      have third := (faithful (b % 16 * 4 + c / 64) (by omega)).1
      obtain ⟨fourth, other⟩ := faithful (c % 64) (by omega)
      have high : a / 4 * 4 + (a % 4 * 16 + b / 16) / 16 = a := by omega
      have middle : (a % 4 * 16 + b / 16) % 16 * 16 + (b % 16 * 4 + c / 64) / 4 = b := by omega
      have low : (b % 16 * 4 + c / 64) % 4 * 64 + c % 64 = c := by omega
      rw [decode?]
      · simp only [first, second, third, fourth, ih others, high, middle, low,
          Option.bind_eq_bind, Option.bind_some, Option.pure_def]
      · exact fun _ filling => absurd filling other
      · exact fun filling => absurd filling other

end Strict

end Coursework.Base64
