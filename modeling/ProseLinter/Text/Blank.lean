import ProseLinter.Text

/-!
Blank code points: the white space of the Unicode character database together with the four
information separators U+001C to U+001F. A text is trimmed by dropping blank code points at its
ends.
-/

namespace ProseLinter

def isBlank (c : Char) : Bool :=
  let n := c.toNat
  (9 ≤ n && n ≤ 13) || (28 ≤ n && n ≤ 32) || n == 0x85 || n == 0xA0 || n == 0x1680 ||
    (0x2000 ≤ n && n ≤ 0x200A) || n == 0x2028 || n == 0x2029 || n == 0x202F || n == 0x205F ||
    n == 0x3000

/-- Whether a code point is a space or a tab, the white space that separates markup on one line. -/
def isSpaceOrTab (c : Char) : Bool := c == ' ' || c == '\t'

namespace Text

def trimStart (text : Text) : Text := text.dropWhile isBlank

def trimEnd (text : Text) : Text := text.dropEndWhile isBlank

def trim (text : Text) : Text := text.trimStart.trimEnd

/-- Whether every code point is blank; the empty text is. -/
def blank (text : Text) : Bool := text.all isBlank

end Text

theorem blank_of_space_or_tab {c : Char} (white : isSpaceOrTab c = true) : isBlank c = true := by
  rw [isSpaceOrTab, Bool.or_eq_true, beq_iff_eq, beq_iff_eq] at white
  rcases white with rfl | rfl <;> decide

end ProseLinter
