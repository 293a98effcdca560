import ProseLinter.Main
import ProseLinter.Services
import ProseLinter.Proofs.Tree.Tiling
import ProseLinter.Proofs.Markdown.Inline
import ProseLinter.Proofs.Markdown.Marks
import ProseLinter.Proofs.Markdown.NextBlock
import ProseLinter.Proofs.Text.Lines
import ProseLinter.Proofs.Markdown.Tiling
import ProseLinter.Proofs.PlainText.Tiling
import ProseLinter.Proofs.Format.Covering
import ProseLinter.Proofs.Fix.Arrangement
import ProseLinter.Proofs.Fix.Outcome
import ProseLinter.Proofs.Session.Pool
import ProseLinter.Proofs.Session.Outcomes
import ProseLinter.Proofs.Evaluation.Composition
import ProseLinter.Proofs.Session.Batch
import ProseLinter.Proofs.Fix.Patches
import ProseLinter.Proofs.Fix.Accounts
import ProseLinter.Proofs.Session.Attribution
import ProseLinter.Proofs.Rule.Emoji
import ProseLinter.Proofs.Rule.Marker
import ProseLinter.Proofs.Rule.SentenceLength
import ProseLinter.Proofs.Rule.TrailingSpace
import ProseLinter.Proofs.Rule.Duplicate
import ProseLinter.Proofs.Rule.BuiltIn
import ProseLinter.Proofs.Fix.Thinning
import ProseLinter.Proofs.Fix.Limits
import ProseLinter.Proofs.Fix.LineStructure
import ProseLinter.Proofs.Tree.Shifting
import ProseLinter.Proofs.Text.LineJoining
import ProseLinter.Proofs.Markdown.Shifting
import ProseLinter.Proofs.Markdown.BlankLines
import ProseLinter.Proofs.Markdown.BlockNodes
import ProseLinter.Proofs.Markdown.FenceScan
import ProseLinter.Proofs.Markdown.FencedCode
import ProseLinter.Proofs.Fix.Progress
import ProseLinter.Proofs.Markdown.InlineMarks
import ProseLinter.Proofs.Markdown.Prose
import ProseLinter.Proofs.Profile.Defects
import ProseLinter.Proofs.Profile.Kinds
import ProseLinter.Proofs.Attempt
import ProseLinter.Proofs.Fix.Selection
import ProseLinter.Proofs.Configuration.LongNumbers
import ProseLinter.Proofs.Configuration.Faults
import ProseLinter.Proofs.Configuration.Loading
import ProseLinter.Proofs.Configuration.Settling
import ProseLinter.Proofs.Text.Utf8
import ProseLinter.Proofs.Files.Alike
import ProseLinter.Proofs.Files.Path
import ProseLinter.Proofs.Files.Discovery
import ProseLinter.Proofs.Files.Writing
import ProseLinter.Proofs.Files.Run
import ProseLinter.Proofs.Session.Rest
import ProseLinter.Proofs.Files.Rest
import ProseLinter.Proofs.Text.Outside
import ProseLinter.Proofs.Text.EditedLines
import ProseLinter.Proofs.Fix.Replacement
import ProseLinter.Proofs.Fix.OnePass
import ProseLinter.Proofs.Rule.EmojiScan
import ProseLinter.Proofs.PlainText.Prose
import ProseLinter.Proofs.Fix.Weeding
import ProseLinter.Proofs.Markdown.Fencing
import ProseLinter.Proofs.Markdown.TrimmedLines
import ProseLinter.Proofs.Tree.Verbatim
import ProseLinter.Proofs.Rule.Trimming
import ProseLinter.Proofs.Fix.Trimming
import ProseLinter.Proofs.Markdown.InlineLeaves
import ProseLinter.Proofs.Format.Code
import ProseLinter.Proofs.Rule.CodeSpared
import ProseLinter.Proofs.Fix.CodeKept
import ProseLinter.Proofs.Text.Positions
import ProseLinter.Proofs.Markdown.Strictness
import ProseLinter.Proofs.Markdown.HorizontalRules
import ProseLinter.Proofs.Fix.Restoring
import ProseLinter.Proofs.Format.Blocks
import ProseLinter.Proofs.Rule.Copies
import ProseLinter.Proofs.Rule.MarkerScan
import ProseLinter.Proofs.Rule.Sentences
import ProseLinter.Proofs.Text.Offsets
import ProseLinter.Proofs.Rule.Options
import ProseLinter.Proofs.Json.Quoting
import ProseLinter.Proofs.Rendering.Tap
import ProseLinter.Proofs.Rendering.Compact
import ProseLinter.Proofs.Text.Division
import ProseLinter.Proofs.Tree.Preorder
