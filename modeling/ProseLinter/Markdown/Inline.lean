import ProseLinter.Markdown.Mark
import ProseLinter.Node

/-!
Markup inside a line: code between grave accents, links and images. A line is read from left to
right; where no markup begins, a code point is prose. The recognisers cut a mark off the start of a
text, so a mark and what follows it are the text again.
-/

namespace ProseLinter.Markdown

/-- How far it is to the end of the first `count` grave accents in a row, if `run` of them stand
right before the text. -/
def endOfTicks? (count run : Nat) : Text → Option Nat
  | [] => none
  | c :: rest =>
      let run := if c == tick then run + 1 else 0
      if run = count then some 1 else (endOfTicks? count run rest).map (· + 1)

/-- The length of the code at the start of a text that opens with a run of grave accents: at most
`count` of them open it, and it ends at the nearest run as long as the opening that leaves something
between the two. The longest opening that is closed wins. -/
def codeLength? (text : Text) : Nat → Option Nat
  | 0 => none
  | count + 1 =>
      match text.drop (count + 1) with
      | [] => codeLength? text count
      | _ :: rest =>
          match endOfTicks? (count + 1) 0 rest with
          | some distance => some (count + 2 + distance)
          | none => codeLength? text count

def title? (text : Text) : Option (Text × Text) :=
  let spacing := text.takeWhile isSpaceOrTab
  match spacing, text.dropWhile isSpaceOrTab with
  | _ :: _, '"' :: quoted =>
      match quoted.dropWhile (· != '"') with
      | '"' :: rest => some (spacing ++ '"' :: quoted.takeWhile (· != '"') ++ ['"'], rest)
      | _ => none
  | _, _ => none

structure Destination where
  address : Text
  raw : Text
deriving Repr, DecidableEq

/-- A destination in parentheses: an address without white space, and perhaps a title. -/
def destination? (text : Text) : Option (Destination × Text) :=
  match text with
  | '(' :: inside =>
      let address := inside.takeWhile fun c => c != ')' && !isBlank c
      let after := inside.dropWhile fun c => c != ')' && !isBlank c
      match title? after with
      | some (title, ')' :: rest) => some (⟨address, '(' :: address ++ title ++ [')']⟩, rest)
      | _ =>
          match after with
          | ')' :: rest => some (⟨address, '(' :: address ++ [')']⟩, rest)
          | _ => none
  | _ => none

def labelled? (text : Text) : Option (Text × Destination × Text) :=
  match text.dropWhile (· != ']') with
  | ']' :: after =>
      match destination? after with
      | some (destination, rest) => some (text.takeWhile (· != ']'), destination, rest)
      | none => none
  | _ => none

inductive InlineMark where
  | code (raw : Text)
  | image (alt : Text) (destination : Destination)
  | link (label : Text) (destination : Destination)
deriving Repr, DecidableEq

namespace InlineMark

def raw : InlineMark → Text
  | code raw => raw
  | image alt destination => '!' :: '[' :: alt ++ ']' :: destination.raw
  | link label destination => '[' :: label ++ ']' :: destination.raw

end InlineMark

def mark? (text : Text) : Option (InlineMark × Text) :=
  match text with
  | '!' :: '[' :: inside =>
      match labelled? inside with
      | some (alt, destination, rest) => some (.image alt destination, rest)
      | none => none
  | '[' :: inside =>
      match labelled? inside with
      | some (c :: label, destination, rest) => some (.link (c :: label) destination, rest)
      | _ => none
  | _ =>
      match codeLength? text (text.takeWhile (· == tick)).length with
      | some length =>
          if length ≤ text.length then some (.code (text.take length), text.drop length) else none
      | none => none

theorem title?_append {text title rest : Text} (found : title? text = some (title, rest)) :
    title ++ rest = text := by
  simp only [title?] at found
  split at found
  next heads quoted spacing opened =>
    split at found
    next after closed =>
      simp only [Option.some.injEq, Prod.mk.injEq] at found
      obtain ⟨rfl, rfl⟩ := found
      have quotedEq := List.takeWhile_append_dropWhile (p := (· != '"')) (l := quoted)
      have textEq := List.takeWhile_append_dropWhile (p := isSpaceOrTab) (l := text)
      rw [closed] at quotedEq
      rw [opened] at textEq
      simp only [List.append_assoc, List.cons_append, List.nil_append]
      rw [quotedEq, textEq]
    next => simp at found
  next => simp at found

theorem destination?_append {text rest : Text} {destination : Destination}
    (found : destination? text = some (destination, rest)) : destination.raw ++ rest = text := by
  simp only [destination?] at found
  split at found
  next inside =>
    have insideEq :=
      List.takeWhile_append_dropWhile (p := fun c => c != ')' && !isBlank c) (l := inside)
    split at found
    next title after titled =>
      simp only [Option.some.injEq, Prod.mk.injEq] at found
      obtain ⟨rfl, rfl⟩ := found
      rw [← title?_append titled] at insideEq
      simp only [List.cons_append, List.append_assoc, List.nil_append]
      rw [insideEq]
    next =>
      split at found
      next after closed =>
        simp only [Option.some.injEq, Prod.mk.injEq] at found
        obtain ⟨rfl, rfl⟩ := found
        rw [closed] at insideEq
        simp only [List.cons_append, List.append_assoc, List.nil_append]
        rw [insideEq]
      next => simp at found
  next => simp at found

theorem labelled?_append {text label rest : Text} {destination : Destination}
    (found : labelled? text = some (label, destination, rest)) :
    label ++ ']' :: (destination.raw ++ rest) = text := by
  simp only [labelled?] at found
  split at found
  next after closed =>
    split at found
    next destination' rest' targeted =>
      simp only [Option.some.injEq, Prod.mk.injEq] at found
      obtain ⟨rfl, rfl, rfl⟩ := found
      have textEq := List.takeWhile_append_dropWhile (p := (· != ']')) (l := text)
      rw [destination?_append targeted, ← closed]
      exact textEq
    next => simp at found
  next => simp at found

theorem codeLength?_pos {text : Text} {count length : Nat}
    (found : codeLength? text count = some length) :
    0 < length := by
  induction count with
  | zero => simp [codeLength?] at found
  | succ count induction =>
      simp only [codeLength?] at found
      split at found
      · exact induction found
      · split at found
        · simp only [Option.some.injEq] at found
          omega
        · exact induction found

/-- A mark and what follows it are the text, and a mark is not empty. -/
theorem mark?_append {text rest : Text} {mark : InlineMark}
    (found : mark? text = some (mark, rest)) :
    mark.raw ++ rest = text ∧ mark.raw ≠ [] := by
  simp only [mark?] at found
  split at found
  next inside =>
    split at found
    next alt destination rest' labelled =>
      simp only [Option.some.injEq, Prod.mk.injEq] at found
      obtain ⟨rfl, rfl⟩ := found
      simp only [InlineMark.raw, List.cons_append, List.append_assoc]
      exact ⟨by rw [labelled?_append labelled], by simp⟩
    next => simp at found
  next inside _ =>
    split at found
    next c label destination rest' labelled =>
      simp only [Option.some.injEq, Prod.mk.injEq] at found
      obtain ⟨rfl, rfl⟩ := found
      have insideEq := labelled?_append labelled
      simp only [InlineMark.raw, List.cons_append, List.append_assoc]
      simp only [List.cons_append] at insideEq
      exact ⟨by rw [insideEq], by simp⟩
    next => simp at found
  next =>
    split at found
    next length measured =>
      split at found
      next within =>
        simp only [Option.some.injEq, Prod.mk.injEq] at found
        obtain ⟨rfl, rfl⟩ := found
        refine ⟨List.take_append_drop length text, ?_⟩
        intro empty
        have positive := codeLength?_pos measured
        have taken := congrArg List.length empty
        simp only [InlineMark.raw, List.length_take, List.length_nil] at taken
        omega
      next => simp at found
    next => simp at found

theorem length_lt_of_mark? {text rest : Text} {mark : InlineMark}
    (found : mark? text = some (mark, rest)) :
    rest.length < text.length := by
  obtain ⟨whole, nonempty⟩ := mark?_append found
  have := List.length_pos_iff.2 nonempty
  rw [← whole, List.length_append]
  omega

theorem label_length_lt {text label rest : Text} {destination : Destination}
    (found : mark? text = some (.link label destination, rest)) : label.length < text.length := by
  obtain ⟨whole, _⟩ := mark?_append found
  rw [← whole]
  simp only [InlineMark.raw, List.length_append, List.length_cons]
  omega

/-- Puts a code point of prose before nodes, into their first leaf if that is prose too. -/
def prependProse (offset : Nat) (c : Char) : List Node → List Node
  | .leaf .prose _ raw :: rest => .leaf .prose offset (c :: raw) :: rest
  | nodes => .leaf .prose offset [c] :: nodes

def labelledNode (kind : BranchKind) (offset : Nat) (opening label : Text) (labelNodes : List Node)
    (destination : Destination) : Node :=
  Node.spanning kind offset
    (.leaf .markup offset opening :: labelNodes ++
      [.leaf .markup (offset + opening.length + label.length) (']' :: destination.raw)])

/-- The nodes of the text of a line that stands at an offset. The label of a link is read in the
same way; that of an image is prose. -/
def inline (offset : Nat) : Text → List Node
  | [] => []
  | c :: rest =>
      match found : mark? (c :: rest) with
      | some (.code raw, after) => .leaf .code offset raw :: inline (offset + raw.length) after
      | some (.image alt destination, after) =>
          let labelNodes := if alt.isEmpty then [] else [.leaf .prose (offset + 2) alt]
          labelledNode (.image destination.address) offset ['!', '['] alt labelNodes destination ::
            inline (offset + (InlineMark.image alt destination).raw.length) after
      | some (.link label destination, after) =>
          labelledNode (.link destination.address) offset ['['] label
            (inline (offset + 1) label) destination ::
              inline (offset + (InlineMark.link label destination).raw.length) after
      | none => prependProse offset c (inline (offset + 1) rest)
termination_by text => text.length
decreasing_by
  · exact length_lt_of_mark? found
  · exact length_lt_of_mark? found
  · exact label_length_lt found
  · exact length_lt_of_mark? found
  · simp

end ProseLinter.Markdown
