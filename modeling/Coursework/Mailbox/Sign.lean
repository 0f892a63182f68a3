import Coursework.Json.Literal
import Coursework.Text.Encoding
import Coursework.Text.Punctuation

/-! # The signs of a mailbox

Which signs may stand in the two parts of a mailbox, and how a sign is spoken of in a message: a
letter, digit or mark is quoted, a space or a sign without form is named.

* **`Sign.isAtom`** and **`Sign.isHost`** are the signs of the two parts.
* **`Sign.isUnsafe`** are the signs that have no place in either.
* **`Sign.shown`** is what a message says of a sign, **`Text.shownSigns`** of several. -/

namespace Coursework

namespace Sign

/-! ## (1) Classes -/

/-- The signs beyond ASCII. -/
def isWide (sign : Nat) : Bool := 0x80 ≤ sign

/-- The ASCII signs of an atom. -/
def isAtom (sign : Nat) : Bool :=
  Sign.isAlphanumeric sign ||
    (Text.ofString "_!#$%&'*+-/=?^`\x7b|\x7d~").any (· == sign)

/-- The signs of the part before the at-sign. -/
def isLocal (sign : Nat) : Bool := isAtom sign || sign == Sign.fullStop || isWide sign

/-- The ASCII signs of a host name. -/
def isPlainHost (sign : Nat) : Bool :=
  Sign.isAlphanumeric sign || sign == Sign.hyphen || sign == Sign.fullStop

/-- The signs of the part after the at-sign. -/
def isHost (sign : Nat) : Bool := isPlainHost sign || isWide sign

/-- The signs between quotes. -/
def isQuotable (sign : Nat) : Bool := (0x20 ≤ sign && sign ≤ 0x7E) || isWide sign

/-- The signs without a form of their own: controls, format characters, surrogates, private and
unassigned signs, and the spaces, all of them or all but those between words. -/
def isUnsafe (spaceAllowed : Bool) (sign : Nat) : Bool :=
  (sign == Sign.space || !Sign.isPrintable sign) && !(spaceAllowed && isSpacing sign)
where
  /-- The spaces between words. -/
  isSpacing (sign : Nat) : Bool :=
    sign == 0x20 || sign == 0xA0 || sign == 0x1680 || (0x2000 ≤ sign && sign ≤ 0x200A) ||
      sign == 0x202F || sign == 0x205F || sign == 0x3000

/-! ## (2) Signs in messages -/

/-- The names of spaces and format characters. -/
def names : Array (Nat × String) :=
  #[(0x20, "SPACE"), (0xA0, "NO-BREAK SPACE"), (0xAD, "SOFT HYPHEN"),
    (0x600, "ARABIC NUMBER SIGN"), (0x601, "ARABIC SIGN SANAH"),
    (0x602, "ARABIC FOOTNOTE MARKER"), (0x603, "ARABIC SIGN SAFHA"),
    (0x604, "ARABIC SIGN SAMVAT"), (0x605, "ARABIC NUMBER MARK ABOVE"),
    (0x61C, "ARABIC LETTER MARK"), (0x6DD, "ARABIC END OF AYAH"),
    (0x70F, "SYRIAC ABBREVIATION MARK"), (0x890, "ARABIC POUND MARK ABOVE"),
    (0x891, "ARABIC PIASTRE MARK ABOVE"), (0x8E2, "ARABIC DISPUTED END OF AYAH"),
    (0x1680, "OGHAM SPACE MARK"), (0x180E, "MONGOLIAN VOWEL SEPARATOR"), (0x2000, "EN QUAD"),
    (0x2001, "EM QUAD"), (0x2002, "EN SPACE"), (0x2003, "EM SPACE"),
    (0x2004, "THREE-PER-EM SPACE"), (0x2005, "FOUR-PER-EM SPACE"), (0x2006, "SIX-PER-EM SPACE"),
    (0x2007, "FIGURE SPACE"), (0x2008, "PUNCTUATION SPACE"), (0x2009, "THIN SPACE"),
    (0x200A, "HAIR SPACE"), (0x200B, "ZERO WIDTH SPACE"), (0x200C, "ZERO WIDTH NON-JOINER"),
    (0x200D, "ZERO WIDTH JOINER"), (0x200E, "LEFT-TO-RIGHT MARK"), (0x200F, "RIGHT-TO-LEFT MARK"),
    (0x2028, "LINE SEPARATOR"), (0x2029, "PARAGRAPH SEPARATOR"),
    (0x202A, "LEFT-TO-RIGHT EMBEDDING"), (0x202B, "RIGHT-TO-LEFT EMBEDDING"),
    (0x202C, "POP DIRECTIONAL FORMATTING"), (0x202D, "LEFT-TO-RIGHT OVERRIDE"),
    (0x202E, "RIGHT-TO-LEFT OVERRIDE"), (0x202F, "NARROW NO-BREAK SPACE"),
    (0x205F, "MEDIUM MATHEMATICAL SPACE"), (0x2060, "WORD JOINER"),
    (0x2061, "FUNCTION APPLICATION"), (0x2062, "INVISIBLE TIMES"),
    (0x2063, "INVISIBLE SEPARATOR"), (0x2064, "INVISIBLE PLUS"),
    (0x2066, "LEFT-TO-RIGHT ISOLATE"), (0x2067, "RIGHT-TO-LEFT ISOLATE"),
    (0x2068, "FIRST STRONG ISOLATE"), (0x2069, "POP DIRECTIONAL ISOLATE"),
    (0x206A, "INHIBIT SYMMETRIC SWAPPING"), (0x206B, "ACTIVATE SYMMETRIC SWAPPING"),
    (0x206C, "INHIBIT ARABIC FORM SHAPING"), (0x206D, "ACTIVATE ARABIC FORM SHAPING"),
    (0x206E, "NATIONAL DIGIT SHAPES"), (0x206F, "NOMINAL DIGIT SHAPES"),
    (0x3000, "IDEOGRAPHIC SPACE"), (0xFEFF, "ZERO WIDTH NO-BREAK SPACE"),
    (0xFFF9, "INTERLINEAR ANNOTATION ANCHOR"), (0xFFFA, "INTERLINEAR ANNOTATION SEPARATOR"),
    (0xFFFB, "INTERLINEAR ANNOTATION TERMINATOR")]

/-- The number of a sign, in four or eight capital digits. -/
def numbered (sign : Nat) : Text :=
  ("U+" : Text) ++ (Text.hexadecimal (if sign < 0xFFFF then 4 else 8) sign).map fun digit =>
    if Sign.isLower digit then digit - 32 else digit

/-- What a message says of a sign. -/
def shown (sign : Nat) : Text :=
  if sign = Sign.backslash then [Sign.doubleQuote, sign, Sign.doubleQuote]
  else if Sign.isPrintable sign && sign != Sign.space then Text.quoted [sign]
  else
    match names.find? fun entry => entry.1 == sign with
    | some (_, name) => name
    | none => numbered sign

end Sign

namespace Text

/-- The texts in order, each once. -/
def ordered (texts : List Text) : List Text :=
  texts.eraseDups.mergeSort fun a b => !List.lex b a Nat.blt

/-- What a message says of signs, in the order of what is said. -/
def shownSigns (signs : Text) : Text := Text.joinWith ", " (ordered (signs.map Sign.shown))

end Text

end Coursework
