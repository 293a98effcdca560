import ProseLinter.Text.Blank
import ProseLinter.Text.CharClass

/-!
The marks with which a Markdown line can open: a code fence, a header, a horizontal rule, a block
quote or a list item. Each recogniser cuts the content of one line, without its terminator, into the
parts of its mark and what follows it.
-/

namespace ProseLinter.Markdown

def tick : Char := '\x60'

def shallow? (content : Text) : Option (Text × Text) :=
  let indent := content.takeWhile (· == ' ')
  if indent.length ≤ 3 then some (indent, content.dropWhile (· == ' ')) else none

structure Fence where
  indent : Text
  marker : Text
  info : Text
deriving Repr, DecidableEq

namespace Fence

def char (fence : Fence) : Char := fence.marker.headD tick

def language (fence : Fence) : Text := fence.info.trim

end Fence

def fence? (content : Text) : Option Fence :=
  match shallow? content with
  | none => none
  | some (indent, rest) =>
      match rest with
      | [] => none
      | c :: _ =>
          let marker := rest.takeWhile (· == c)
          if (c == tick || c == '~') && 3 ≤ marker.length then
            some ⟨indent, marker, rest.dropWhile (· == c)⟩
          else none

/-- Whether a line closes the fence: it repeats the character at least as often, and nothing follows
but spaces and tabs. -/
def Fence.closedBy (fence : Fence) (content : Text) : Bool :=
  match shallow? content with
  | none => false
  | some (_, rest) =>
      decide (fence.marker.length ≤ (rest.takeWhile (· == fence.char)).length) &&
        (rest.dropWhile (· == fence.char)).all isSpaceOrTab

structure HeaderMark where
  indent : Text
  hashes : Text
  spacing : Text
  title : Text
deriving Repr, DecidableEq

namespace HeaderMark

def opening (mark : HeaderMark) : Text := mark.indent ++ mark.hashes ++ mark.spacing

end HeaderMark

/-- A header: one to six number signs that end the line or are followed by a space or a tab. -/
def header? (content : Text) : Option HeaderMark :=
  match shallow? content with
  | none => none
  | some (indent, rest) =>
      let hashes := rest.takeWhile (· == '#')
      let after := rest.dropWhile (· == '#')
      if 1 ≤ hashes.length && hashes.length ≤ 6 && after.head?.all isSpaceOrTab then
        some ⟨indent, hashes, after.takeWhile isSpaceOrTab, after.dropWhile isSpaceOrTab⟩
      else none

/-- Whether the line is a horizontal rule: at least three of one of the characters `-`, `*` and `_`,
and besides them only spaces and tabs. -/
def isHorizontalRule (content : Text) : Bool :=
  match shallow? content with
  | none => false
  | some (_, rest) =>
      match rest with
      | [] => false
      | c :: more =>
          (c == '-' || c == '*' || c == '_') && more.all (fun d => d == c || isSpaceOrTab d) &&
            2 ≤ more.countP (· == c)

def quote? (content : Text) : Option (Text × Text) :=
  match shallow? content with
  | none => none
  | some (indent, rest) =>
      match rest with
      | '>' :: c :: more =>
          if isSpaceOrTab c then some (indent ++ ['>', c], more)
          else some (indent ++ ['>'], c :: more)
      | ['>'] => some (indent ++ ['>'], [])
      | _ => none

structure ItemMark where
  indent : Text
  marker : Text
  spacing : Text
  text : Text
deriving Repr, DecidableEq

namespace ItemMark

def ordered (mark : ItemMark) : Bool := mark.marker.head?.any isDecimalDigit

end ItemMark

/-- The marker of a list item at the start of a text: a bullet, or one to nine digits with a full
stop or a closing parenthesis. -/
def itemMarker? (text : Text) : Option Text :=
  match text with
  | [] => none
  | c :: _ =>
      if c == '-' || c == '*' || c == '+' then some [c]
      else
        let digits := text.takeWhile isDecimalDigit
        match text.dropWhile isDecimalDigit with
        | stop :: _ =>
            if 1 ≤ digits.length && digits.length ≤ 9 && (stop == '.' || stop == ')') then
              some (digits ++ [stop])
            else none
        | [] => none

/-- A list item: any indentation, a marker, and spaces or tabs or the end of the line. -/
def item? (content : Text) : Option ItemMark :=
  let indent := content.takeWhile isSpaceOrTab
  let rest := content.dropWhile isSpaceOrTab
  match itemMarker? rest with
  | none => none
  | some marker =>
      let after := rest.drop marker.length
      if after.head?.all isSpaceOrTab then
        some ⟨indent, marker, after.takeWhile isSpaceOrTab, after.dropWhile isSpaceOrTab⟩
      else none

/-- Whether a line cannot go on with a paragraph: it is blank or opens a block of its own. -/
def startsBlock (content : Text) : Bool :=
  content.blank || (fence? content).isSome || (header? content).isSome ||
    isHorizontalRule content ||
    (quote? content).isSome || (item? content).isSome

/-- Whether a line goes on with a list: it is an item and no horizontal rule, or it is indented and
no fence. -/
def continuesList (content : Text) : Bool :=
  !content.blank &&
    (((item? content).isSome && !isHorizontalRule content) ||
      (content.head?.any isSpaceOrTab && (fence? content).isNone))

end ProseLinter.Markdown
