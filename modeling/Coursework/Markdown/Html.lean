import Coursework.Markdown.Line

/-! # HTML in markdown

HTML stands in a block of its own or within a line. A block opens with a tag, a comment, an
instruction, a declaration or character data; what opens it says where it ends.

* **`Html.Opening`** is what a line opens, **`Html.opening?`** reads it.
* **`Html.opensAfterText`** holds of the lines that end a quote or a list item.
* **`Html.afterInline?`** reads one piece of HTML within a line. -/

namespace Coursework.Markdown.Html

/-! ## (1) Tags -/

/-- The tags of blocks. -/
def blockTags : List Text :=
  List.map Text.ofString
    ["address", "article", "aside", "base", "basefont", "blockquote", "body", "caption", "center",
     "col", "colgroup", "dd", "details", "dialog", "dir", "div", "dl", "dt", "fieldset",
     "figcaption", "figure", "footer", "form", "frame", "frameset", "h1", "h2", "h3", "h4", "h5",
     "h6", "head", "header", "hr", "html", "iframe", "legend", "li", "link", "main", "menu",
     "menuitem", "meta", "nav", "noframes", "ol", "optgroup", "option", "p", "param", "search",
     "section", "summary", "table", "tbody", "td", "tfoot", "th", "thead", "title", "tr", "track",
     "ul"]

/-- The tags whose content is taken as it is. -/
def verbatimTags : List Text := ["pre", "script", "style", "textarea"]

/-- The signs of a tag name after its first letter. -/
def isNameSign (sign : Nat) : Bool := Sign.isAlphanumeric sign || sign == Sign.hyphen

/-- A tag name and what follows it. -/
def tagName? : Text → Option (Text × Text)
  | [] => none
  | sign :: text =>
    if Sign.isLetter sign then some (sign :: text.takeWhile isNameSign, text.dropWhile isNameSign)
    else none

/-! ## (2) Attributes -/

/-- White space between attributes. -/
def isGap (sign : Nat) : Bool :=
  sign == Sign.space || sign == Sign.tab || sign == Sign.newline || sign == Sign.verticalTab ||
    sign == Sign.formFeed || sign == Sign.carriageReturn

/-- The first sign of an attribute name. -/
def isAttributeStart (sign : Nat) : Bool :=
  Sign.isLetter sign || sign == Sign.underscore || sign == Sign.colon

/-- The signs of an attribute name. -/
def isAttributeSign (sign : Nat) : Bool :=
  Sign.isAlphanumeric sign || sign == Sign.underscore || sign == Sign.colon ||
    sign == Sign.fullStop || sign == Sign.hyphen

/-- The signs of a value without quotes. -/
def isBareValue (sign : Nat) : Bool :=
  !(isGap sign || sign == Sign.doubleQuote || sign == Sign.singleQuote || sign == Sign.equals ||
    sign == Sign.lessThan || sign == Sign.greaterThan || sign == Sign.backtick)

/-- What follows the next quote. -/
def afterQuote? (quote : Nat) (text : Text) : Option Text :=
  match text.dropWhile (· != quote) with
  | _ :: rest => some rest
  | [] => none

/-- What follows the value of an attribute. -/
def afterValue? (text : Text) : Option Text :=
  match text with
  | Sign.doubleQuote :: rest => afterQuote? Sign.doubleQuote rest
  | Sign.singleQuote :: rest => afterQuote? Sign.singleQuote rest
  | _ =>
    let rest := text.dropWhile isBareValue
    if rest.length < text.length then some rest else none

/-- What follows one attribute and the white space before it. -/
def afterAttribute? (text : Text) : Option Text :=
  match text with
  | [] => none
  | first :: _ =>
    if !isGap first then none
    else match text.dropWhile isGap with
      | [] => none
      | start :: rest =>
        if !isAttributeStart start then none
        else
          let named := rest.dropWhile isAttributeSign
          match named.dropWhile isGap with
          | Sign.equals :: rest => some ((afterValue? (rest.dropWhile isGap)).getD named)
          | _ => some named

/-- What follows all attributes; every one takes at least one of the steps. -/
def afterAttributes : Nat → Text → Text
  | 0, text => text
  | steps + 1, text =>
    match afterAttribute? text with
    | some rest => afterAttributes steps rest
    | none => text

/-! ## (3) Blocks -/

/-- How far the HTML of a block goes. -/
inductive Extent
  /-- To the end of the line in which a text stands, which is sought from here on. -/
  | through (ending : Text) (rest : Text)
  /-- To the next blank line. -/
  | toBlankLine
  /-- To the next blank line, unless it follows a paragraph. -/
  | unlessParagraph

/-- Whether a tag is complete and nothing else is on its line; a tag that closes itself is not. -/
def isWholeTag (closing : Bool) (rest : Line) : Bool :=
  let rest := if closing then rest else afterAttributes rest.length rest
  match rest.dropWhile Line.isInline with
  | Sign.greaterThan :: rest => rest.all Line.isInline
  | _ => false

/-- What a line opens. -/
structure Opening where
  /-- How far it goes. -/
  extent : Extent
  /-- Whether the line holds what the extent asks for. -/
  holds : Bool

/-- What a tag opens, by its name in small letters and the rest of its line. -/
def openingOfTag (closing : Bool) (name : Text) (rest : Line) : Opening :=
  if !closing && verbatimTags.contains name then
    ⟨.through (("</" : Text) ++ name ++ ">") rest, true⟩
  else if blockTags.contains name then ⟨.toBlankLine, true⟩
  else ⟨.unlessParagraph, isWholeTag closing rest⟩

/-- What a line opens, if it starts with HTML. -/
def opening? (line : Line) : Option Opening :=
  match Line.afterIndentation? 3 line with
  | some (Sign.lessThan :: rest) =>
    match rest with
    | Sign.slash :: name => (tagName? name).map fun (name, rest) =>
        openingOfTag true (name.map Sign.lower) rest
    | Sign.question :: rest => some ⟨.through "?>" rest, true⟩
    | Sign.exclamation :: Sign.hyphen :: Sign.hyphen :: rest => some ⟨.through "-->" rest, true⟩
    | Sign.exclamation :: rest =>
      match Text.after? rest "[CDATA[" with
      | some rest => some ⟨.through "]]>" rest, true⟩
      | none =>
        if (rest.take 1).any Sign.isUpper then some ⟨.through ">" (rest.drop 1), true⟩ else none
    | _ => (tagName? rest).map fun (name, rest) => openingOfTag false (name.map Sign.lower) rest
  | _ => none

/-- Whether a line opens HTML that ends a quote or a list item: a tag of a block in small letters
before white space, or one of the other openings. -/
def opensAfterText (most : Nat) (line : Line) : Bool :=
  match Line.afterIndentation? most line with
  | some (Sign.lessThan :: rest) =>
    match rest with
    | Sign.question :: _ => true
    | Sign.exclamation :: rest =>
      Text.startsWith rest "--" || Text.startsWith rest "[CDATA[" || (rest.take 1).any Sign.isUpper
    | _ =>
      let name := match rest with
        | Sign.slash :: name => name
        | name => name
      match tagName? name with
      | some (name, rest) => blockTags.contains name && (rest.take 1).all Line.isInline
      | none => false
  | _ => false

/-! ## (4) HTML within a line -/

/-- What follows a comment, from behind its opening. -/
def afterComment? (text : Text) : Option Text :=
  match text with
  | Sign.greaterThan :: rest => some rest
  | Sign.hyphen :: Sign.greaterThan :: rest => some rest
  | _ => Text.afterFirst? "-->" text

/-- What follows an opening tag, from behind its name. -/
def afterOpeningTag? (text : Text) : Option Text :=
  match (afterAttributes text.length text).dropWhile isGap with
  | Sign.greaterThan :: rest => some rest
  | Sign.slash :: Sign.greaterThan :: rest => some rest
  | _ => none

/-- What follows a piece of HTML, from behind its `<`. -/
def afterInline? (text : Text) : Option Text :=
  match text with
  | Sign.slash :: rest =>
    match tagName? rest with
    | none => none
    | some (_, rest) =>
      match rest.dropWhile isGap with
      | Sign.greaterThan :: rest => some rest
      | _ => none
  | Sign.question :: rest => Text.afterFirst? "?>" rest
  | Sign.exclamation :: Sign.hyphen :: Sign.hyphen :: rest => afterComment? rest
  | Sign.exclamation :: rest =>
    match Text.after? rest "[CDATA[" with
    | some rest => Text.afterFirst? "]]>" rest
    | none => if (rest.take 1).any Sign.isUpper then Text.afterFirst? ">" rest else none
  | _ => (tagName? text).bind fun found => afterOpeningTag? found.2

end Coursework.Markdown.Html
