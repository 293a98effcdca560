import ProseLinter.Fault

/-!
UTF-8. Reading stops at the first bytes that no code point can begin with, and says which bytes
these are and what is wrong with them: a byte that starts nothing, a byte that does not go on with
what was started, or an end in the middle.
-/

namespace ProseLinter.Utf8

def encode (text : Text) : List UInt8 := text.flatMap String.utf8EncodeChar

def isContinuation (byte : UInt8) : Bool := 0x80 ≤ byte && byte < 0xC0

/-- Whether a byte can be the second one after the first: this is where forms that are too long,
surrogates and what lies beyond the last code point are ruled out. -/
def isSecond (first second : UInt8) : Bool :=
  isContinuation second &&
    !(first == 0xE0 && second < 0xA0) && !(first == 0xED && 0xA0 ≤ second) &&
    !(first == 0xF0 && second < 0x90) && !(first == 0xF4 && 0x90 ≤ second)

def extend (bits : Nat) (byte : UInt8) : Nat := bits * 64 + byte.toNat % 64

/-- The code point that bytes begin with, and the bytes after it; or how many bytes are at fault,
and why. -/
def first (lead : UInt8) (rest : List UInt8) : Except (Nat × DecodingCause) (Char × List UInt8) :=
  if lead < 0x80 then .ok (Char.ofNat lead.toNat, rest)
  else if lead < 0xC2 then .error (1, .invalidStart)
  else if lead < 0xE0 then
    match rest with
    | [] => .error (1, .unexpectedEnd)
    | a :: rest =>
        if isContinuation a then .ok (Char.ofNat (extend (lead.toNat % 32) a), rest)
        else .error (1, .invalidContinuation)
  else if lead < 0xF0 then
    match rest with
    | [] => .error (1, .unexpectedEnd)
    | a :: rest =>
        if !isSecond lead a then .error (1, .invalidContinuation)
        else match rest with
          | [] => .error (2, .unexpectedEnd)
          | b :: rest =>
              if isContinuation b then
                .ok (Char.ofNat (extend (extend (lead.toNat % 16) a) b), rest)
              else .error (2, .invalidContinuation)
  else if lead < 0xF5 then
    match rest with
    | [] => .error (1, .unexpectedEnd)
    | a :: rest =>
        if !isSecond lead a then .error (1, .invalidContinuation)
        else match rest with
          | [] => .error (2, .unexpectedEnd)
          | b :: rest =>
              if !isContinuation b then .error (2, .invalidContinuation)
              else match rest with
                | [] => .error (3, .unexpectedEnd)
                | c :: rest =>
                    if isContinuation c then
                      .ok (Char.ofNat (extend (extend (extend (lead.toNat % 8) a) b) c), rest)
                    else .error (3, .invalidContinuation)
  else .error (1, .invalidStart)

/-- Each step leaves fewer bytes. -/
theorem length_of_first {lead : UInt8} {rest after : List UInt8} {c : Char}
    (found : first lead rest = .ok (c, after)) :
    after.length < rest.length + 1 := by
  unfold first at found
  repeat' split at found
  all_goals
    simp only [Except.ok.injEq, Prod.mk.injEq, reduceCtorEq] at found
  all_goals
    obtain ⟨_, rfl⟩ := found
    grind

def decodeFrom (offset : Nat) : List UInt8 → Except DecodingFault Text
  | [] => .ok []
  | lead :: rest =>
      match _ : first lead rest with
      | .error (count, cause) => .error ⟨offset, offset + count, lead, cause⟩
      | .ok (c, after) =>
          match decodeFrom (offset + c.utf8Size) after with
          | .ok text => .ok (c :: text)
          | .error fault => .error fault
termination_by bytes => bytes.length
decreasing_by exact length_of_first ‹_›

def decode (bytes : List UInt8) : Except DecodingFault Text := decodeFrom 0 bytes

/-- The text of bytes that are read a chunk at a time, after bytes of a code point that is not
complete yet. -/
def decodeChunks (size : Nat) : Nat → List UInt8 → List UInt8 → Except DecodingFault Text
  | 0, pending, _ => decode pending
  | fuel + 1, pending, bytes =>
      let known := pending ++ bytes.take size
      match decode known with
      | .ok text =>
          if bytes.isEmpty then .ok text
          else (decodeChunks size fuel [] (bytes.drop size)).map (text ++ ·)
      | .error fault =>
          if fault.cause = .unexpectedEnd ∧ !bytes.isEmpty then do
            let text ← decode (known.take fault.start)
            return text ++ (← decodeChunks size fuel (known.drop fault.start) (bytes.drop size))
          else .error fault

/-- The text of bytes that are read a chunk at a time. Offsets in faults count from the start of the
bytes that were still to be decoded when their chunk was read. -/
def decodeInChunks (size : Nat) (bytes : List UInt8) : Except DecodingFault Text :=
  decodeChunks size (bytes.length + 1) [] bytes

end ProseLinter.Utf8
