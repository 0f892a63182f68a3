import Coursework.Text.Blank

/-! # Pieces of header fields

A header field is read into a tree. Its leaves are words, punctuation and blanks in the order in
which they are written; its nodes are the constructs of the grammar, which tell where a line may
be broken and what must not be encoded.

* **`Mail.Piece`** is the tree, over **`Mail.Leaf`** and **`Mail.Node`**.
* **`Mail.Piece.written`** is how a tree is written, **`Mail.Piece.value`** what it means. -/

namespace Coursework.Mail

/-- What a leaf is. -/
inductive Leaf
  /-- A word or a sign of punctuation. -/
  | word
  /-- A piece of quoted text or of a bracketed domain. -/
  | quoted
  /-- A piece of a comment. -/
  | remark
  /-- White space. -/
  | blank
  /-- The white space between two encoded words, which is not part of the text. -/
  | joint
  /-- A full stop between words. -/
  | dot
  /-- The place where a closing bracket is missing. -/
  | missing
  deriving DecidableEq, Repr

/-- What a node is. -/
inductive Node
  /-- A construct without rules of its own. -/
  | plain
  /-- White space and comments. -/
  | blank
  /-- A comment, without its parentheses. -/
  | comment
  /-- A quoted string without its quotes. -/
  | quotation
  /-- An encoded word, decoded. -/
  | encodedWord
  /-- Words joined by full stops. -/
  | dotAtom
  /-- What stands before the at sign. -/
  | localPart
  /-- What stands before the at sign in a form that is no longer written. -/
  | loosePart
  /-- What stands behind the at sign. -/
  | domain
  /-- A domain in brackets. -/
  | bracketedDomain
  /-- A local part, an at sign and a domain. -/
  | addrSpec
  /-- An address in angle brackets. -/
  | angleAddr
  /-- The name before an address in angle brackets, or of a group. -/
  | displayName
  /-- A name and an address in angle brackets. -/
  | nameAddr
  /-- A mailbox. -/
  | mailbox
  /-- What stands where a mailbox should. -/
  | invalidMailbox
  /-- A list of mailboxes. -/
  | mailboxList
  /-- What a group holds. -/
  | groupList
  /-- A named list of mailboxes. -/
  | group
  /-- A group with something behind its end. -/
  | overrunGroup
  /-- A mailbox or a group in a list of addresses. -/
  | address
  /-- The name of a field with its colon. -/
  | label
  deriving DecidableEq, Repr

/-- Whether no part of a construct may be moved into an encoded word. -/
def Node.isFixed : Node → Bool
  | localPart | loosePart | domain | bracketedDomain | addrSpec | label => true
  | _ => false

/-- A tree of a header field. -/
inductive Piece
  /-- A leaf with its text. -/
  | leaf (leaf : Leaf) (text : Text)
  /-- A construct with its parts in order. -/
  | node (node : Node) (parts : List Piece)

/-- A text with a backslash before each of the given signs and each backslash. -/
def escaped (special : Nat → Bool) (text : Text) : Text :=
  text.flatMap fun sign =>
    if sign = Sign.backslash || special sign then [Sign.backslash, sign] else [sign]

/-- A text in quotes. -/
def quote (text : Text) : Text :=
  Sign.doubleQuote :: escaped (· == Sign.doubleQuote) text ++ [Sign.doubleQuote]

/-- The text of a comment with the parentheses in it escaped. -/
def escapedRemark (text : Text) : Text :=
  escaped (fun sign => sign == Sign.leftParenthesis || sign == Sign.rightParenthesis) text

namespace Piece

/-- A sign of punctuation. -/
def sign (sign : Nat) : Piece := leaf .word [sign]

/-- Whether the piece is white space or comments. -/
def isBlank : Piece → Bool
  | node .blank _ => true
  | _ => false

/-- Whether the piece is an encoded word. -/
def isEncodedWord : Piece → Bool
  | node .encodedWord _ => true
  | _ => false

/-- Whether the piece is a comment. -/
def isComment : Piece → Bool
  | node .comment _ => true
  | _ => false

mutual
/-- How a piece is written. -/
def written : Piece → Text
  | leaf .joint _ => []
  | leaf _ text => text
  | node .comment parts =>
    Sign.leftParenthesis :: writtenRemarks parts ++ [Sign.rightParenthesis]
  | node .quotation parts => quote (writtenAll parts)
  | node _ parts => writtenAll parts
/-- How pieces are written one after another. -/
def writtenAll : List Piece → Text
  | [] => []
  | piece :: pieces => written piece ++ writtenAll pieces
/-- How the pieces of a comment are written. -/
def writtenRemarks : List Piece → Text
  | [] => []
  | piece :: pieces =>
    (if isComment piece then written piece else escapedRemark (written piece)) ++
      writtenRemarks pieces
end

mutual
/-- What a piece means: white space and comments are one space, quotes are gone. -/
def value : Piece → Text
  | leaf .joint _ => []
  | leaf .blank _ => [Sign.space]
  | leaf .remark _ => [Sign.space]
  | leaf _ text => text
  | node .blank _ => [Sign.space]
  | node .comment _ => [Sign.space]
  | node .quotation parts => writtenAll parts
  | node _ parts => valueAll parts
/-- What pieces mean one after another. -/
def valueAll : List Piece → Text
  | [] => []
  | piece :: pieces => value piece ++ valueAll pieces
end

mutual
/-- Whether every part may be moved into an encoded word. -/
def isFree : Piece → Bool
  | leaf _ _ => true
  | node kind parts => !kind.isFixed && allFree parts
/-- Whether every part of every piece may be moved into an encoded word. -/
def allFree : List Piece → Bool
  | [] => true
  | piece :: pieces => isFree piece && allFree pieces
end

mutual
/-- Whether a closing bracket is missing somewhere. -/
def isOpen : Piece → Bool
  | leaf kind _ => kind == .missing
  | node _ parts => anyOpen parts
/-- Whether a closing bracket is missing somewhere in the pieces. -/
def anyOpen : List Piece → Bool
  | [] => false
  | piece :: pieces => isOpen piece || anyOpen pieces
end

mutual
/-- Whether the piece begins with white space or a remark; a node without parts has no answer. -/
def beginsBlank? : Piece → Option Bool
  | leaf kind _ => some (kind == .blank || kind == .joint || kind == .remark)
  | node _ parts => firstBeginsBlank? parts
/-- Whether the first piece begins with white space or a remark. -/
def firstBeginsBlank? : List Piece → Option Bool
  | [] => none
  | piece :: _ => beginsBlank? piece
end

/-- A node with parts before its own; a leaf stays as it is. -/
def prepend (pieces : List Piece) : Piece → Piece
  | node kind parts => node kind (pieces ++ parts)
  | leaf kind text => leaf kind text

/-- A node with parts behind its own; a leaf stays as it is. -/
def append (pieces : List Piece) : Piece → Piece
  | node kind parts => node kind (parts ++ pieces)
  | leaf kind text => leaf kind text

/-- The parts of a node. -/
def parts : Piece → List Piece
  | node _ parts => parts
  | leaf _ _ => []

/-- The pieces with the white space between two encoded words turned into joints. -/
def joinWords : List Piece → List Piece
  | first :: .leaf .blank text :: last :: pieces =>
    if isEncodedWord first && isEncodedWord last then
      first :: .leaf .joint text :: joinWords (last :: pieces)
    else first :: .leaf .blank text :: joinWords (last :: pieces)
  | piece :: pieces => piece :: joinWords pieces
  | [] => []

end Piece

end Coursework.Mail
