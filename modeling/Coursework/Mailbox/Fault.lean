import Coursework.Mailbox.HostNumber
import Coursework.Mailbox.Sign

/-! # Faults of mailboxes

* **`Mailbox.Fault`** lists what makes a text no mailbox that mail could be delivered to,
  **`Mailbox.Fault.message`** words it. -/

namespace Coursework.Mailbox

/-- The signs whose places in a part are restricted. -/
inductive Joint
  /-- A full stop. -/
  | period
  /-- A hyphen. -/
  | hyphen
  deriving DecidableEq, Repr

/-- The word for a joint. -/
def Joint.name : Joint → Text
  | .period => "period"
  | .hyphen => "hyphen"

/-- What is wrong with a label of a host name that is not ASCII. -/
inductive LabelFault
  /-- It has hyphens as third and fourth sign. -/
  | hyphens
  /-- A sign at a position has no place in a label. -/
  | sign (code position : Nat) (label : Text)
  /-- It is too long. -/
  | long
  /-- Its written form has nothing to read. -/
  | noContent
  /-- Its written form ends with a hyphen. -/
  | hyphenAtEnd
  /-- Its written form cannot be read. -/
  | unreadable
  deriving DecidableEq, Repr

/-- The wording of a fault of a label. -/
def LabelFault.message : LabelFault → Text
  | hyphens => "Label has disallowed hyphens in 3rd and 4th position"
  | sign code position label =>
    ("Codepoint " : Text) ++ Sign.numbered code ++ " at position " ++ Text.ofNat position ++
      " of " ++ label.quoted ++ " not allowed"
  | long => "Label too long"
  | noContent => "Malformed A-label, no Punycode eligible content found"
  | hyphenAtEnd => "A-label must not end with a hyphen"
  | unreadable => "Invalid A-label"

/-- How far a mailbox is too long. -/
inductive Excess
  /-- By a number of signs. -/
  | signs (count : Nat)
  /-- By a number of bytes, and by one of signs that lies between two bounds. -/
  | between (least bytes : Nat)
  /-- By a number of bytes once it is normalised. -/
  | normalised (bytes : Nat)
  /-- By a number of bytes once the host name is written in ASCII. -/
  | written (bytes : Nat)
  deriving DecidableEq, Repr

/-- A count with its noun. -/
def counted (count : Nat) (noun : Text) : Text :=
  Text.ofNat count ++ [Sign.space] ++ noun ++ if count = 1 then ("" : Text) else "s"

/-- The wording of an excess. -/
def Excess.message : Excess → Text
  | signs count => ("(" : Text) ++ counted count "character" ++ " too many)"
  | between least bytes =>
    ("(" : Text) ++ Text.ofNat least ++ "-" ++ counted bytes "character" ++ " too many)"
  | normalised bytes => ("after normalization (" : Text) ++ counted bytes "byte" ++ " too many)"
  | written bytes =>
    ("when the part after the @-sign is converted to IDNA ASCII (" : Text) ++
      counted bytes "byte" ++ " too many)"

/-- Why a text is no mailbox. -/
inductive Fault
  /-- There is a line end. -/
  | severalLines
  /-- There are more signs than are looked at. -/
  | overlong (limit : Nat)
  /-- There is no at-sign. -/
  | noAt
  /-- In place of the at-sign stands its wide form. -/
  | wideAt
  /-- In place of the at-sign stands its small form. -/
  | smallAt
  /-- Something stands behind the closing quote. -/
  | afterQuotes (signs : Text)
  /-- A name without quotes holds these signs. -/
  | nameSigns (signs : Text)
  /-- These signs are unsafe. -/
  | unsafeSigns (signs : Text)
  /-- A bracket is not closed. -/
  | openBracket
  /-- Something stands behind the closing bracket. -/
  | afterBracket
  /-- There is a name, and brackets around the mailbox. -/
  | named
  /-- Nothing stands before the at-sign. -/
  | emptyLocal
  /-- The quotes hold these signs. -/
  | quotedSigns (signs : Text)
  /-- These signs stand before the at-sign. -/
  | localSigns (signs : Text)
  /-- The first sign is a full stop. -/
  | localStart
  /-- A full stop stands right before the at-sign. -/
  | localEnd
  /-- Two full stops stand in a row. -/
  | twoPeriods
  /-- The part before the at-sign is quoted. -/
  | quotedLocal
  /-- Nothing stands after the at-sign. -/
  | emptyHost
  /-- The brackets hold wrong octets. -/
  | octets (fault : HostNumber.OctetFault) (source : Text)
  /-- The brackets hold wrong groups. -/
  | groups (fault : HostNumber.Fault) (source : Text)
  /-- The brackets hold neither octets nor a tag. -/
  | noTag
  /-- The brackets hold these signs. -/
  | bracketSigns (signs : Text)
  /-- The brackets hold an unknown tag. -/
  | unknownTag
  /-- The host is given by a number in brackets. -/
  | numericHost
  /-- These signs stand after the at-sign. -/
  | hostSigns (signs : Text)
  /-- These signs stand after the at-sign once it is normalised. -/
  | normalisedHostSigns (signs : Text)
  /-- A joint stands right after the at-sign. -/
  | hostStart (joint : Joint)
  /-- The last sign is a joint. -/
  | hostEnd (joint : Joint)
  /-- A full stop and a hyphen stand side by side. -/
  | mixedJoints
  /-- Two hyphens stand as third and fourth sign of a label. -/
  | doubleHyphen
  /-- A label has no written form. -/
  | unwritable (fault : LabelFault)
  /-- The host name is too long. -/
  | longHost (excess : Nat)
  /-- The host name is too long once it is written in ASCII. -/
  | longWrittenHost (excess : Option Nat)
  /-- A label is too long. -/
  | longLabel (excess : Nat)
  /-- The host name has one label only. -/
  | singleLabel
  /-- The host name does not end with a letter. -/
  | noTopLevel
  /-- The host name is reserved. -/
  | reserved
  /-- A label cannot be read. -/
  | unreadable (fault : LabelFault)
  /-- The whole is too long. -/
  | long (excess : Excess)
  deriving DecidableEq, Repr

/-- The wording of a fault. -/
def Fault.message : Fault → Text
  | severalLines => "Carriage return and line feed characters are not allowed"
  | overlong limit => ("Length must not exceed " : Text) ++ Text.ofNat limit ++ " characters"
  | noAt => "An email address must have an @-sign."
  | wideAt =>
    "The email address has the \"full-width\" at-sign (@) character instead of a regular at-sign."
  | smallAt =>
    "The email address has the \"small commercial at\" character instead of a regular at-sign."
  | afterQuotes signs =>
    ("Extra character(s) found after close quote: " : Text) ++
      Text.joinWith ", " (signs.map Sign.shown)
  | nameSigns signs =>
    ("The display name contains invalid characters when not quoted: " : Text) ++
      signs.shownSigns ++ "."
  | unsafeSigns signs =>
    ("The email address contains unsafe characters: " : Text) ++
      Text.joinWith ", " (signs.map Sign.shown) ++ "."
  | openBracket =>
    ("An open angle bracket at the start of the email address has to be followed by a " : Text) ++
      "close angle bracket at the end."
  | afterBracket => "There can't be anything after the email address."
  | named =>
    "A display name and angle brackets around the email address are not permitted here."
  | emptyLocal => "There must be something before the @-sign."
  | quotedSigns signs =>
    ("The email address contains invalid characters in quotes before the @-sign: " : Text) ++
      signs.shownSigns ++ "."
  | localSigns signs =>
    ("The email address contains invalid characters before the @-sign: " : Text) ++
      signs.shownSigns ++ "."
  | localStart => "An email address cannot start with a period."
  | localEnd => "An email address cannot have a period immediately before the @-sign."
  | twoPeriods => "An email address cannot have two periods in a row."
  | quotedLocal => "Quoting the part before the @-sign is not allowed here."
  | emptyHost => "There must be something after the @-sign."
  | octets fault source =>
    ("The address in brackets after the @-sign is not valid: It is not an IPv4 address (" : Text) ++
      fault.message source ++ ") or is missing an address literal tag."
  | groups fault source =>
    ("The IPv6 address in brackets after the @-sign is not valid (" : Text) ++
      fault.message source ++ ")."
  | noTag =>
    ("The part after the @-sign in brackets is not an IPv4 address and has no address " : Text) ++
      "literal tag."
  | bracketSigns signs =>
    ("The part after the @-sign contains invalid characters in brackets: " : Text) ++
      signs.shownSigns ++ "."
  | unknownTag =>
    "The part after the @-sign contains an invalid address literal tag in brackets."
  | numericHost => "A bracketed IP address after the @-sign is not allowed here."
  | hostSigns signs =>
    ("The part after the @-sign contains invalid characters: " : Text) ++ signs.shownSigns ++ "."
  | normalisedHostSigns signs =>
    ("The part after the @-sign contains invalid characters after Unicode normalization: " : Text)
      ++ signs.shownSigns ++ "."
  | hostStart joint =>
    ("An email address cannot have a " : Text) ++ joint.name ++ " immediately after the @-sign."
  | hostEnd joint => ("An email address cannot end with a " : Text) ++ joint.name ++ "."
  | mixedJoints =>
    "An email address cannot have a period and a hyphen next to each other."
  | doubleHyphen =>
    ("An email address cannot have two letters followed by two dashes immediately after the " :
      Text) ++ "@-sign or after a period, except Punycode."
  | unwritable fault =>
    ("The part after the @-sign contains invalid characters (" : Text) ++ fault.message ++ ")."
  | longHost excess =>
    ("The email address is too long after the @-sign (" : Text) ++ counted excess "character" ++
      " too many)."
  | longWrittenHost none => "The email address is too long after the @-sign."
  | longWrittenHost (some excess) =>
    ("The email address is too long after the @-sign (" : Text) ++ counted excess "byte" ++
      " too many after IDNA encoding)."
  | longLabel excess =>
    ("After the @-sign, periods cannot be separated by so many characters (" : Text) ++
      counted excess "character" ++ " too many)."
  | singleLabel => "The part after the @-sign is not valid. It should have a period."
  | noTopLevel =>
    "The part after the @-sign is not valid. It is not within a valid top-level domain."
  | reserved =>
    ("The part after the @-sign is a special-use or reserved name that cannot be used with " :
      Text) ++ "email."
  | unreadable fault =>
    ("The part after the @-sign is not valid IDNA (" : Text) ++ fault.message ++ ")."
  | long excess => ("The email address is too long " : Text) ++ excess.message ++ "."

end Coursework.Mailbox
