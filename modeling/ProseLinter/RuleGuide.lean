import ProseLinter.ConfigFile
import ProseLinter.Registry

/-!
Guides to rules: for each rule a short description, and how to resolve what it finds by hand. A
guide may be read from a file; what it does not say about a rule is left to whoever asks.
-/

namespace ProseLinter

/-- What there is to say about rules, under their ids. -/
structure RuleGuide where
  entries : Entries

namespace RuleGuide

/-- What a guide says about a rule under a key, or the given text if it says nothing. -/
def lookUp (guide : RuleGuide) (ruleId key fallback : String) : Except Fault String :=
  match ((guide.entries.get? (.text ruleId)).filter (·.isPresent)).map Value.untied with
  | none => .ok fallback
  | some (.table entries) =>
      match Table.get? entries (.text key) with
      | none => .ok fallback
      | some value => if value.isWritable then .ok value.written else .error .numberTooLong
  | some other => .error (.noLookup other.kindName)

def description (guide : RuleGuide) (ruleId fallback : String) : Except Fault String :=
  guide.lookUp ruleId "short_description" fallback

def instructions (guide : RuleGuide) (ruleId : String) : Except Fault String :=
  guide.lookUp ruleId "manual_instructions" ""

/-- The guide in a text; a text that writes no table says nothing. -/
def ofText (readYaml : YamlReader) (text : Text) : Except Fault RuleGuide :=
  match (readYaml text.withLineFeeds).map Value.untied with
  | .ok (.table entries) => .ok ⟨entries⟩
  | .ok _ => .ok ⟨[]⟩
  | .error fault => .error (.unreadable fault)

def chunkSize : Nat := 8192

/-- The guide in a file; a file that does not exist says nothing. -/
def read (readYaml : YamlReader) (system : FileSystem) (path : String) :
    Except Fault RuleGuide := do
  let path := Path.ofString path
  if (← system.look path).isNone then return ⟨[]⟩
  let bytes ← system.readBytes path.written
  ofText readYaml (← (Utf8.decodeInChunks chunkSize bytes).mapError .decoding)

def entry (ruleId description instructions : String) : Key × Value :=
  (.text ruleId,
    .record [("short_description", .string description),
      ("manual_instructions", .string instructions)])

def builtin : RuleGuide where
  entries :=
    [entry Emoji.ruleId "Disallow emoji characters in prose."
        ("Remove the emoji or replace it with words. Characters can be allowed with the " ++
          "\x60allow\x60 option, e.g. \x60no-emoji = \x7b allow = [\"✔\"] \x7d\x60."),
      entry TrailingSpace.ruleId "Disallow spaces and tabs at the end of a line."
        "Delete the whitespace before the line break.",
      entry SentenceLength.ruleId "Limit the number of characters in a sentence."
        "Split the sentence in two or remove clauses.",
      entry Marker.ruleId "Disallow TODO/FIXME markers left in documents."
        "Resolve the note or move it to the issue tracker.",
      entry Duplicate.ruleId
        "Disallow documents whose content repeats another document in the batch."
          "Delete the copy or link to the original document."]

end RuleGuide

end ProseLinter
