import ProseLinter.Document
import ProseLinter.Fault
import ProseLinter.Markdown.Block
import ProseLinter.PlainText
import ProseLinter.Text.Case

/-!
Formats: what is known of the documents of some kinds. A format says which kinds it accepts and
which file extensions stand for it, and turns a text into a tree and a tree back into its text. Two
formats are built in.
-/

namespace ProseLinter

structure Format where
  id : String
  kinds : List String
  extensions : List String
  isStrict : Bool := true
  accepts : String → Except Fault Bool
  parse : Text → Except Fault (Supplied Node)
  serialize : Node → Text := Node.text

def lowerCase (s : String) : String := String.ofList (Text.lower s.toList)

namespace Format

def acceptsKindOf (kinds : List String) (kind : String) : Except Fault Bool :=
  .ok (kinds.contains (lowerCase kind))

def reader (parse : Text → Except ParseFault Node) (text : Text) : Except Fault (Supplied Node) :=
  match parse text with
  | .ok tree => .ok (.proper tree)
  | .error fault => .error (.parse fault)

def markdown (strict : Bool) : Format where
  id := "markdown"
  kinds := ["markdown", "md"]
  extensions := [".md", ".markdown"]
  isStrict := strict
  accepts := acceptsKindOf ["markdown", "md"]
  parse := reader (Markdown.parse strict)

def plainText : Format where
  id := "text"
  kinds := ["text", "txt"]
  extensions := [".txt", ".text"]
  accepts := acceptsKindOf ["text", "txt"]
  parse := reader PlainText.parse

/-- Why a format cannot be made with its options. -/
inductive OptionFault where
  | unknownOption (key : String)
  | repeatedSubject
  | keyNotText
  | noOptions
deriving Repr, DecidableEq

namespace OptionFault

def message : OptionFault → String
  | unknownOption key =>
      "MarkdownPlugin.__init__() got an unexpected keyword argument '" ++ key ++ "'"
  | repeatedSubject => "MarkdownPlugin.__init__() got multiple values for argument 'self'"
  | keyNotText => "keywords must be strings"
  | noOptions => "PlainTextPlugin() takes no arguments"

end OptionFault

/-- Options under their names; every key has to be a text. -/
def namedOptions (options : Entries) : Except OptionFault (Table String Value) :=
  options.mapM fun entry =>
    match entry.1.text? with
    | some name => .ok (name, entry.2)
    | none => .error .keyNotText

def makeMarkdown (options : Entries) : Except OptionFault Format := do
  let named ← namedOptions options
  match named.find? (·.1 != "strict") with
  | some ("self", _) => throw .repeatedSubject
  | some (key, _) => throw (.unknownOption key)
  | none => return markdown (((Table.get? named "strict").map Value.isPresent).getD true)

def makePlainText (options : Entries) : Except OptionFault Format := do
  let named ← namedOptions options
  if named.isEmpty then return plainText else throw .noOptions

end Format

end ProseLinter
