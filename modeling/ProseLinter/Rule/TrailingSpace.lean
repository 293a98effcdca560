import ProseLinter.Rule.Options
import ProseLinter.Text.Blank

/-!
Spaces and tabs at the end of lines. The rule goes by lines; lines in fenced code are left alone. It
may pass over lines that are blank, and over hard breaks: two or more spaces at the end of a line
after which its block goes on.
-/

namespace ProseLinter.TrailingSpace

def ruleId : String := "no-trailing-spaces"

structure Settings where
  skipBlankLines : Bool
  keepHardBreaks : Bool
deriving Repr, DecidableEq

namespace Settings

def read (options : Value) : Except OptionFault Settings := do
  let table ← Options.table ["skip_blank_lines", "keep_hard_breaks"] options
  let skipBlankLines ← Options.boolean table "skip_blank_lines" false
  let keepHardBreaks ← Options.boolean table "keep_hard_breaks" false
  return ⟨skipBlankLines, keepHardBreaks⟩

def value (settings : Settings) : Value :=
  .record [("skip_blank_lines", .bool settings.skipBlankLines),
    ("keep_hard_breaks", .bool settings.keepHardBreaks)]

end Settings

def stripped (line : Line) : Text := Text.dropEndWhile isSpaceOrTab line.content

theorem length_stripped_le (line : Line) : (stripped line).length ≤ line.content.length := by
  have := (List.dropWhile_sublist (l := line.content.reverse) isSpaceOrTab).length_le
  simpa [stripped, Text.dropEndWhile] using this

def trailing (line : Line) : Span :=
  ⟨line.start + (stripped line).length, line.contentEnd,
    Nat.add_le_add_left (length_stripped_le line) line.start⟩

def startsIn (line : Line) (spans : List Span) : Bool :=
  spans.any fun span => decide (span.start ≤ line.start) && decide (line.start < span.stop)

/-- Whether a block goes on after the end of a line with something that is not blank. -/
def goesOn (text : Text) (line : Line) (block : Span) : Bool :=
  decide (block.start ≤ line.start) && decide (line.contentEnd < block.stop) &&
    !(text.slice line.contentEnd block.stop).blank

def isHardBreak (text : Text) (blocks : List Span) (line : Line) : Bool :=
  let ending := trailing line
  decide (2 ≤ ending.length) && (ending.read text).all (· == ' ') && blocks.any (goesOn text line)

/-- Whether the end of a line is reported, given the spans of fenced code and those in which hard
breaks count. -/
def isReported (settings : Settings) (text : Text) (code blocks : List Span) (line : Line) : Bool :=
  let kept := stripped line
  kept.length != line.content.length && !(settings.skipBlankLines && kept.isEmpty) &&
    !startsIn line code &&
    !(!kept.isEmpty && isHardBreak text blocks line)

def codeSpans (tree : Node) : List Span :=
  (tree.select (Node.isBranch BranchKind.isCodeBlock)).map (·.span)

def hardBreakSpans (settings : Settings) (tree : Node) : List Span :=
  if settings.keepHardBreaks then (tree.select (Node.isBranch BranchKind.isTextBlock)).map (·.span)
  else []

def find (settings : Settings) (context : RuleContext) (document : Document) : List Finding :=
  let code := codeSpans document.tree
  let blocks := hardBreakSpans settings document.tree
  (document.lines.filter (isReported settings document.text code blocks)).map fun line =>
    context.report (trailing line) "Trailing whitespace." (some (Patch.delete (trailing line)))

def rule : DocumentRule where
  id := ruleId
  description := "Disallow spaces and tabs at the end of lines."
  defaultSeverity := .warning
  fixable := true
  prepare :=
    Options.prepare ruleId Settings.read fun settings =>
      Options.documentCheck settings.value (find settings)

end ProseLinter.TrailingSpace
