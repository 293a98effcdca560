import ProseLinter.Json.Reader
import ProseLinter.Json.Writer
import ProseLinter.Proofs.Text.Utf8

/-!
# Quoted strings

Between quotes a code point is written in one of the ways that are read as it, none of which holds a
line feed. A quoted string is therefore read back as it was, whatever code points it holds, and
stands on one line.
-/

namespace ProseLinter.Json

variable {text rest spelling : Text} {units : List Nat} {unit : Nat}

/-! ## Spellings -/

/-- The ways to write a code unit between quotes: a code point that stands for itself, a letter that
stands for another, or the number of the unit. -/
inductive Spells : Text → Nat → Prop
  | plain {c : Char} (not_quote : c ≠ '"') (not_escape : c ≠ '\\') (beyond : 32 ≤ c.toNat) :
    Spells [c] c.toNat
  | letter {letter meant : Char} (known : escaped? letter = some meant) :
    Spells ['\\', letter] meant.toNat
  | number {a b c d : Char} {unit : Nat} (read : hexNumber? [a, b, c, d] = some unit) :
      Spells ['\\', 'u', a, b, c, d] unit

theorem Spells.readUnits (spells : Spells spelling unit)
    (read : readUnits text = some (units, rest)) :
    Json.readUnits (spelling ++ text) = some (unit :: units, rest) := by
  cases spells with
  | @plain c not_quote not_escape beyond =>
      have allowed : ¬ (c.toNat < 32 ∨ c = '\\') := by
        rintro (control | escape)
        · omega
        · exact not_escape escape
      change Json.readUnits (c :: text) = some (c.toNat :: units, rest)
      rw [Json.readUnits, if_neg allowed, read]
      · rfl
      · exact not_quote
      · exact fun _ _ _ _ _ escape => absurd escape not_escape
      · exact fun _ _ escape => absurd escape not_escape
  | @letter letter meant known =>
      change Json.readUnits ('\\' :: letter :: text) = some (meant.toNat :: units, rest)
      rw [Json.readUnits, known, read]
      · rfl
      · -- No letter is the one that opens a number.
        rintro - - - - - rfl
        cases known
  | @number a b c d unit number =>
      change Json.readUnits ('\\' :: 'u' :: a :: b :: c :: d :: text) = some (unit :: units, rest)
      rw [Json.readUnits, number, read]
      rfl

theorem hexValue_ne_none {digits : List Char} {start number : Nat}
    (read : digits.foldlM (fun value digit => (hexValue? digit).map (value * 16 + ·)) start =
      some number) :
    ∀ digit ∈ digits, hexValue? digit ≠ none := by
  induction digits generalizing start with
  | nil => exact List.forall_mem_nil _
  | cons first digits induction =>
      rw [List.foldlM_cons] at read
      obtain ⟨next, own, others⟩ := Option.bind_eq_some_iff.mp read
      obtain ⟨value, known, -⟩ := Option.map_eq_some_iff.mp own
      refine List.forall_mem_cons.mpr ⟨?_, induction others⟩
      rw [known]
      exact Option.some_ne_none value

theorem Spells.feed_not_mem (spells : Spells spelling unit) : '\n' ∉ spelling := by
  cases spells with
  | plain not_quote not_escape beyond =>
      rintro (_ | ⟨-, ⟨⟩⟩)
      exact absurd beyond (by decide)
  | letter known =>
      rintro (_ | ⟨-, _ | ⟨-, ⟨⟩⟩⟩)
      cases known
  | number read =>
      rintro (_ | ⟨-, _ | ⟨-, digit⟩⟩)
      exact hexValue_ne_none read _ digit (by decide)

/-! ## What is written -/

theorem spells_control {code : Nat} (control : code < 32) :
    Spells (['\\', 'u'] ++ hexDigits 4 code) code := by
  have four_digits : ∀ code < 32, (hexDigits 4 code).length = 4 ∧
      hexNumber? (hexDigits 4 code) = some code := by decide
  obtain ⟨four, read⟩ := four_digits code control
  match digits : hexDigits 4 code, four with
  | [a, b, c, d], _ => exact .number (digits ▸ read)

theorem spells_escapeChar (c : Char) : Spells (escapeChar c) c.toNat := by
  have of_letter (letter : Char) {meant : Char} (known : escaped? letter = some meant)
      (spelt : escapeChar meant = ['\\', letter]) (same : c = meant) :
      Spells (escapeChar c) c.toNat := by
    rw [same, spelt]
    exact .letter known
  by_cases quote : c = '"'
  · exact of_letter '"' rfl rfl quote
  by_cases backslash : c = '\\'
  · exact of_letter '\\' rfl rfl backslash
  by_cases newline : c = '\n'
  · exact of_letter 'n' rfl rfl newline
  by_cases carriage : c = '\r'
  · exact of_letter 'r' rfl rfl carriage
  by_cases tab : c = '\t'
  · exact of_letter 't' rfl rfl tab
  by_cases backspace : c.toNat = 8
  · exact of_letter 'b' rfl rfl (Char.toNat_inj.mp backspace)
  by_cases feed : c.toNat = 12
  · exact of_letter 'f' rfl rfl (Char.toNat_inj.mp feed)
  by_cases control : c.toNat < 32
  · have spelt : escapeChar c = ['\\', 'u'] ++ hexDigits 4 c.toNat := by simp [escapeChar, *]
    exact spelt ▸ spells_control control
  · have spelt : escapeChar c = [c] := by simp [escapeChar, *]
    exact spelt ▸ .plain quote backslash (Nat.le_of_not_lt control)

theorem readUnits_escaped (text rest : Text) :
    readUnits (text.flatMap escapeChar ++ '"' :: rest) = some (text.map Char.toNat, rest) := by
  induction text with
  | nil => rfl
  | cons c text induction =>
      rw [List.flatMap_cons, List.append_assoc, List.map_cons]
      exact (spells_escapeChar c).readUnits induction

/-! ## Code points and code units -/

theorem charOfCode_toNat (c : Char) : charOfCode c.toNat = c := by
  have valid := Utf8.code_valid c
  rw [charOfCode, firstSurrogate, surrogateCount, if_neg (by omega), Char.ofNat_toNat]

/-- No two code points are a pair of surrogates, so none are joined. -/
theorem joinUnits_codes (text : Text) : joinUnits (text.map Char.toNat) = text := by
  induction text with
  | nil => rfl
  | cons c text induction =>
      cases text with
      | nil => rw [List.map_singleton, joinUnits, charOfCode_toNat]
      | cons next text =>
          have valid := Utf8.code_valid c
          rw [List.map_cons] at induction
          rw [List.map_cons, List.map_cons, joinUnits, if_neg (by omega),
            charOfCode_toNat, induction]

/-! ## Quoted strings -/

theorem readString_quoted (text rest : Text) :
    readString (text.flatMap escapeChar ++ '"' :: rest) = some (String.ofList text, rest) := by
  rw [readString, readUnits_escaped, Option.map_some]
  dsimp only
  rw [joinUnits_codes]

theorem readValue_quoted (depth fuel : Nat) (text : Text) :
    readValue depth (fuel + 1) (quoted text) = .ok (.string (String.ofList text), []) := by
  have opened : skipSpace (quoted text) = '"' :: (text.flatMap escapeChar ++ ['"']) := rfl
  simp only [readValue, opened, readString_quoted]
  rfl

theorem read_quotePlain (s : String) : read (quotePlain s).toList = .ok (.string s) := by
  rw [quotePlain, String.toList_ofList, read, readValue_quoted, String.ofList_toList]
  rfl

theorem feed_not_mem_quotePlain (s : String) : '\n' ∉ (quotePlain s).toList := by
  have free (c : Char) : '\n' ∉ escapeChar c := (spells_escapeChar c).feed_not_mem
  rw [quotePlain, String.toList_ofList, quoted]
  simp [free]

end ProseLinter.Json
