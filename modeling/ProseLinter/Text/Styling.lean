import ProseLinter.Text

/-!
Styling: sequences in a text that a terminal takes for a change of colour or weight, and that no one
sees. Such a sequence is an escape character, an opening bracket, perhaps numbers, and a letter.
-/

namespace ProseLinter

/-- What follows a sequence of styling after its escape character, if there is one here. -/
def afterStyling? : Text → Option Text
  | '[' :: rest =>
      match rest.dropWhile fun c => c.isDigit || c == ';' || c == '?' with
      | letter :: after => if letter.isAlpha then some after else none
      | [] => none
  | _ => none

/-- The text without its sequences of styling, given that it is no longer than `fuel`. -/
def unstyledFrom : Nat → Text → Text
  | 0, text => text
  | _, [] => []
  | fuel + 1, c :: rest =>
      if c = Char.ofNat 27 then
        match afterStyling? rest with
        | some after => unstyledFrom fuel after
        | none => c :: unstyledFrom fuel rest
      else c :: unstyledFrom fuel rest

def Text.unstyled (text : Text) : Text := unstyledFrom text.length text

end ProseLinter
