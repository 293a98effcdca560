import ProseLinter.Text.Printable
import ProseLinter.Text.Units

/-!
Quoted text, as messages show a value that is a text. The quotes are single unless the text holds a
single quote and no double one; the backslash, the quote and every code point that is not printable
are escaped.
-/

namespace ProseLinter

namespace Text

def escapeChar (quote c : Char) : Text :=
  if c == quote || c == '\\' then ['\\', c]
  else if c == '\n' then ['\\', 'n']
  else if c == '\r' then ['\\', 'r']
  else if c == '\t' then ['\\', 't']
  else if isPrintable c then [c]
  else match surrogate? c with
    | some surrogate => surrogateEscape surrogate
    | none =>
        if c.toNat < 0x100 then ['\\', 'x'] ++ hexDigits 2 c.toNat
        else if c.toNat < 0x10000 then ['\\', 'u'] ++ hexDigits 4 c.toNat
        else ['\\', 'U'] ++ hexDigits 8 c.toNat

def quoteFor (text : Text) : Char := if text.elem '\'' && !text.elem '"' then '"' else '\''

def quoted (text : Text) : Text :=
  let quote := text.quoteFor
  [quote] ++ text.flatMap (escapeChar quote) ++ [quote]

end Text

def quotedString (s : String) : String := String.ofList (Text.quoted s.toList)

end ProseLinter
