import Coursework.Text.Basic

/-! # White space

White space is the Unicode property together with the four information separators; it decides
what is trimmed, what separates words and what counts as blank. The zero width space and the
byte order mark are not white space.

* **`Sign.isBlank`** is the class.
* **`Text.strip`** trims both ends, **`Text.words`** are the pieces between runs of white space.
* **`Text.isBlank`** holds of a text without anything else. -/

namespace Coursework

/-- White space: the Unicode property and the separators U+001C to U+001F. -/
def Sign.isBlank (sign : Nat) : Bool :=
  (9 ≤ sign && sign ≤ 13) || (28 ≤ sign && sign ≤ 32) || sign == 0x85 || sign == 0xA0 ||
    sign == 0x1680 || (0x2000 ≤ sign && sign ≤ 0x200A) || sign == 0x2028 || sign == 0x2029 ||
    sign == 0x202F || sign == 0x205F || sign == 0x3000

/-- The Unicode property White_Space, without the information separators. -/
def Sign.isWhiteSpace (sign : Nat) : Bool :=
  Sign.isBlank sign && !(28 ≤ sign && sign ≤ 31)

namespace Text

/-- The text without white space at its start. -/
def stripStart (text : Text) : Text := text.dropWhile Sign.isBlank

/-- The text without white space at its end. -/
def stripEnd (text : Text) : Text := text.trimEnd Sign.isBlank

/-- The text without white space at its two ends. -/
def strip (text : Text) : Text := stripEnd (stripStart text)

/-- Whether there is nothing but white space. -/
def isBlank (text : Text) : Bool := text.all Sign.isBlank

/-- The non-empty pieces between runs of white space. -/
def words : Text → List Text
  | [] => []
  | a :: text =>
    if Sign.isBlank a then words text
    else match text, words text with
      | [], _ => [[a]]
      | b :: _, rest =>
        if Sign.isBlank b then [a] :: rest
        else match rest with
          | [] => [[a]]
          | word :: others => (a :: word) :: others

end Text

end Coursework
