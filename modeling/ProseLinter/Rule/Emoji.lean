import ProseLinter.Rule.Options
import ProseLinter.Span

/-!
Emoji in prose. An emoji is a base code point with its modifiers, and after joiners further bases
with theirs. The rule reports each one that is not allowed and offers to delete it; code is left
alone.
-/

namespace ProseLinter.Emoji

def ruleId : String := "no-emoji"

def isBase (c : Char) : Bool :=
  ('\u2300' ≤ c && c ≤ '\u23FF') || ('\u2600' ≤ c && c ≤ '\u27BF') ||
    ('\u2B00' ≤ c && c ≤ '\u2BFF') ||
    (0x1F000 ≤ c.toNat && c.toNat ≤ 0x1FAFF)

def isModifier (c : Char) : Bool := c == '\uFE0F' || (0x1F3FB ≤ c.toNat && c.toNat ≤ 0x1F3FF)

def joiner : Char := '\u200D'

def tailLength : Text → Nat
  | [] => 0
  | [c] => if isModifier c then 1 else 0
  | c :: next :: rest =>
      if isModifier c then 1 + tailLength (next :: rest)
      else if c == joiner && isBase next then 2 + tailLength rest
      else 0

def occurrences (offset : Nat) : Text → List Excerpt
  | [] => []
  | c :: rest =>
      if isBase c then
        let count := tailLength rest
        ⟨offset, c :: rest.take count⟩ :: occurrences (offset + 1 + count) (rest.drop count)
      else occurrences (offset + 1) rest
termination_by text => text.length
decreasing_by
  · simp only [List.length_drop, List.length_cons]
    omega
  · simp

def inProse (tree : Node) : List Excerpt := (tree.select Node.isProse).flatMap fun leaf =>
  occurrences leaf.span.start leaf.raw

structure Settings where
  allow : List String
deriving Repr, DecidableEq

namespace Settings

def read (options : Value) : Except OptionFault Settings := do
  let table ← Options.table ["allow"] options
  match table.get? "allow" with
  | none => return ⟨[]⟩
  | some (.list items) =>
      match Options.texts? items with
      | some texts => return ⟨texts⟩
      | none => throw (.notStrings "allow")
  | some _ => throw (.notStrings "allow")

def value (settings : Settings) : Value :=
  let sorted := settings.allow.eraseDups.mergeSort fun a b => decide (a ≤ b)
  .record [("allow", .list (sorted.map .string))]

end Settings

def report (context : RuleContext) (emoji : Excerpt) : Finding :=
  context.report emoji.span ("Found emoji '" ++ String.ofList emoji.text ++ "'.")
    (some (Patch.delete emoji.span))

def find (settings : Settings) (context : RuleContext) (document : Document) : List Finding :=
  ((inProse document.tree).filter fun emoji =>
    !settings.allow.contains (String.ofList emoji.text)).map (report context)

def rule : DocumentRule where
  id := ruleId
  description := "Disallow emoji in prose."
  defaultSeverity := .warning
  fixable := true
  prepare :=
    Options.prepare ruleId Settings.read fun settings =>
      Options.documentCheck settings.value (find settings)

end ProseLinter.Emoji
