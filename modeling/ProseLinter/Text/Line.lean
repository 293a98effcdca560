import ProseLinter.Text

/-!
Physical lines. A line ends in a line feed, a carriage return, or a carriage return followed by a
line feed, which is one terminator; only the last line of a text may lack one. Content and
terminator are kept apart, so the lines of a text concatenate to it.
-/

namespace ProseLinter

/-- One physical line: its number counted from 1, the offset at which it starts, its content, and
its terminator. -/
structure Line where
  number : Nat
  start : Nat
  content : Text
  ending : Text
deriving Repr, DecidableEq

namespace Line

def contentEnd (line : Line) : Nat := line.start + line.content.length

def stop (line : Line) : Nat := line.contentEnd + line.ending.length

def pieces : Text → List (Text × Text)
  | [] => []
  | '\r' :: '\n' :: rest => ([], ['\r', '\n']) :: pieces rest
  | '\r' :: rest => ([], ['\r']) :: pieces rest
  | '\n' :: rest => ([], ['\n']) :: pieces rest
  | c :: rest =>
      match pieces rest with
      | [] => [([c], [])]
      | (content, ending) :: more => (c :: content, ending) :: more

def numbered (number start : Nat) : List (Text × Text) → List Line
  | [] => []
  | (content, ending) :: more =>
      ⟨number, start, content, ending⟩ ::
        numbered (number + 1) (start + content.length + ending.length) more

end Line

def Text.lines (text : Text) : List Line := Line.numbered 1 0 (Line.pieces text)

def Text.withLineFeeds (text : Text) : Text :=
  (Line.pieces text).flatMap fun (content, ending) => if ending.isEmpty then content
    else content ++ ['\n']

end ProseLinter
