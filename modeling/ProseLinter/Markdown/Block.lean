import ProseLinter.Fault
import ProseLinter.Markdown.Inline

/-!
Markdown blocks. The lines of a text are read from top to bottom: a blank line, a header and a
horizontal rule are blocks of one line, a block of code runs to its closing fence, and block quotes,
lists and paragraphs run as long as their next line goes on with them. An opening fence that is
never closed is a fault when reading strictly; otherwise its block runs to the end of the text.
-/

namespace ProseLinter

namespace Line

def endingLeaves (line : Line) : List Node :=
  if line.ending.isEmpty then [] else [.leaf .lineBreak line.contentEnd line.ending]

def contentLeaves (line : Line) (kind : LeafKind) : List Node :=
  if line.content.isEmpty then [] else [.leaf kind line.start line.content]

def indentLeaves (line : Line) : List Node :=
  let indent := line.content.takeWhile isSpaceOrTab
  if indent.isEmpty then [] else [.leaf .whiteSpace line.start indent]

def unindented (line : Line) : Text := line.content.dropWhile isSpaceOrTab

def unindentedStart (line : Line) : Nat := line.start + (line.content.takeWhile isSpaceOrTab).length

def blankBlock (line : Line) : Node :=
  Node.spanning .blank line.start (line.contentLeaves .whiteSpace ++ line.endingLeaves)

end Line

namespace Markdown

def textLine (line : Line) : List Node :=
  line.indentLeaves ++ inline line.unindentedStart line.unindented ++ line.endingLeaves

def headerBlock (line : Line) (mark : HeaderMark) : Node :=
  Node.spanning (.header mark.hashes.length) line.start
    (.leaf .markup line.start mark.opening ::
      inline (line.start + mark.opening.length) mark.title ++ line.endingLeaves)

def ruleBlock (line : Line) : Node :=
  Node.spanning .horizontalRule line.start
    (.leaf .markup line.start line.content :: line.endingLeaves)

def quoteLine (line : Line) : List Node :=
  match quote? line.content with
  | some (mark, text) =>
      .leaf .markup line.start mark :: inline (line.start + mark.length) text ++ line.endingLeaves
  | none => []

def quoteBlock (lines : List Line) : Node :=
  Node.spanning .blockQuote (lines.head?.elim 0 (·.start)) (lines.flatMap quoteLine)

def paragraphBlock (lines : List Line) : Node :=
  Node.spanning .paragraph (lines.head?.elim 0 (·.start)) (lines.flatMap textLine)

def itemLine (line : Line) (mark : ItemMark) : List Node :=
  let opening := mark.marker ++ mark.spacing
  let openingStart := line.start + mark.indent.length
  (if mark.indent.isEmpty then [] else [.leaf .whiteSpace line.start mark.indent]) ++
    .leaf .markup openingStart opening :: inline (openingStart + opening.length) mark.text ++
    line.endingLeaves

/-- The items that lines open, and before them the nodes of the lines that stand before the first
item. -/
def gatherItems : List Line → List Node × List Node
  | [] => ([], [])
  | line :: rest =>
      let (pending, items) := gatherItems rest
      match item? line.content with
      | some mark =>
          ([], Node.spanning (.listItem mark.ordered mark.indent.length) line.start
            (itemLine line mark ++ pending) :: items)
      | none => (textLine line ++ pending, items)

def firstOrdered : List Node → Bool
  | .branch (.listItem ordered _) _ _ :: _ => ordered
  | _ => false

def listBlock (lines : List Line) : Node :=
  let items := (gatherItems lines).2
  Node.spanning (.list (firstOrdered items)) (lines.head?.elim 0 (·.start)) items

def codeLine (line : Line) : List Node := line.contentLeaves .codeText ++ line.endingLeaves

def fenceLine (line : Line) : List Node :=
  .leaf .markup line.start line.content :: line.endingLeaves

/-- A block of code: its opening line, the lines in it, and its closing line if there is one. -/
def codeBlock (opening : Line) (fence : Fence) (inside : List Line)
    (closing : Option Line) : Node :=
  Node.spanning (.codeBlock fence.language fence.marker closing.isSome) opening.start
    (fenceLine opening ++ inside.flatMap codeLine ++ closing.elim [] fenceLine)

/-- The fault of an opening fence that is never closed: it stands at the first character of the
fence. -/
def unclosed (opening : Line) (fence : Fence) : ParseFault :=
  ⟨.unclosedFence, some ⟨opening.number, fence.indent.length + 1⟩⟩

theorem length_lt_of_dropWhile_eq {p : Line → Bool} {lines after : List Line} {closing : Line}
    (found : lines.dropWhile p = closing :: after) : after.length < lines.length := by
  have bound := (List.dropWhile_sublist (l := lines) p).length_le
  rw [found, List.length_cons] at bound
  omega

def blocks (strict : Bool) : List Line → Except ParseFault (List Node)
  | [] => .ok []
  | line :: rest =>
      if line.content.blank then do
        return line.blankBlock :: (← blocks strict rest)
      else match fence? line.content with
      | some fence =>
          let inside := rest.takeWhile fun next => !fence.closedBy next.content
          match _ : rest.dropWhile fun next => !fence.closedBy next.content with
          | closing :: after => do
              return codeBlock line fence inside (some closing) :: (← blocks strict after)
          | [] => if strict then .error (unclosed line fence)
              else .ok [codeBlock line fence inside none]
      | none =>
        match header? line.content with
        | some mark => do
            return headerBlock line mark :: (← blocks strict rest)
        | none =>
          if isHorizontalRule line.content then do
            return ruleBlock line :: (← blocks strict rest)
          else if (quote? line.content).isSome then do
            let more := rest.takeWhile fun next => (quote? next.content).isSome
            let after := rest.dropWhile fun next => (quote? next.content).isSome
            return quoteBlock (line :: more) :: (← blocks strict after)
          else if (item? line.content).isSome then do
            let more := rest.takeWhile fun next => continuesList next.content
            let after := rest.dropWhile fun next => continuesList next.content
            return listBlock (line :: more) :: (← blocks strict after)
          else do
            let more := rest.takeWhile fun next => !startsBlock next.content
            let after := rest.dropWhile fun next => !startsBlock next.content
            return paragraphBlock (line :: more) :: (← blocks strict after)
termination_by lines => lines.length
decreasing_by
  all_goals simp only [List.length_cons]
  · omega
  · exact Nat.lt_succ_of_lt (length_lt_of_dropWhile_eq ‹_›)
  · omega
  · omega
  · exact Nat.lt_succ_of_le (List.dropWhile_sublist _).length_le
  · exact Nat.lt_succ_of_le (List.dropWhile_sublist _).length_le
  · exact Nat.lt_succ_of_le (List.dropWhile_sublist _).length_le

def parse (strict : Bool) (text : Text) : Except ParseFault Node :=
  (blocks strict text.lines).map (Node.spanning .document 0)

end Markdown

end ProseLinter
