import Mathlib.Data.List.Basic
import ProseLinter.FileRun
import ProseLinter.Proofs.Text.Cutting

/-!
# Paths and their pieces

A path that is read from a string has parts that could each be a name. Written out and cut at its
slashes again, such a path gives its parts back, with what its root begins with before them, so what
is put below a path adds its names at the end.
-/

namespace ProseLinter

namespace Path

def IsPart (part : String) : Prop :=
  part ≠ "" ∧ part ≠ "." ∧ ∀ c ∈ part.toList, c ≠ '/' ∧ c ≠ Char.ofNat 0

/-- That a path begins as paths can begin and goes on with parts. -/
structure Plain (path : Path) : Prop where
  root : path.root = "" ∨ path.root = "/" ∨ path.root = "//"
  parts : ∀ part ∈ path.parts, IsPart part

variable {path : Path} {names : List String}

theorem hasNul_eq_false_iff {s : String} : hasNul s = false ↔ ∀ c ∈ s.toList, c ≠ Char.ofNat 0 := by
  rw [hasNul, List.elem_eq_contains, Bool.eq_false_iff, Ne, List.contains_iff_mem]
  constructor
  · rintro free c member rfl
    exact free member
  · intro each member
    exact each _ member rfl

theorem plain_ofString {s : String} (proper : hasNul s = false) : (ofString s).Plain := by
  refine ⟨?_, ?_⟩
  · change rootOf s.toList = _ ∨ rootOf s.toList = _ ∨ rootOf s.toList = _
    rw [rootOf]
    split
    · exact .inl rfl
    · exact .inr (.inr rfl)
    · exact .inr (.inl rfl)
  · intro part member
    obtain ⟨cut, real⟩ := List.mem_filter.mp member
    obtain ⟨piece, own, rfl⟩ := List.mem_map.mp cut
    rw [Bool.and_eq_true, Bool.not_eq_true', bne_iff_ne] at real
    refine ⟨?_, real.2, ?_⟩
    · intro empty
      rw [empty] at real
      exact absurd real.1 (by decide)
    · intro c inside
      rw [String.toList_ofList] at inside
      obtain ⟨known, different⟩ := Text.mem_of_cutAt own inside
      exact ⟨different, hasNul_eq_false_iff.mp proper c known⟩

theorem parts_of_slash (s : String) : (ofString (s ++ "/")).parts = (ofString s).parts := by
  have cut : pieces (s ++ "/") = pieces s ++ [""] := by
    change (Text.cutAt '/' (s ++ "/").toList).map String.ofList = _
    rw [String.toList_append]
    change (Text.cutAt '/' (s.toList ++ '/' :: [])).map String.ofList = _
    rw [Text.cutAt_append, List.map_append]
    rfl
  change (pieces (s ++ "/")).filter _ = (pieces s).filter _
  rw [cut, List.filter_append]
  exact List.append_nil _

theorem Plain.below (plain : path.Plain) (named : ∀ name ∈ names, IsPart name) :
    (path.below names).Plain := by
  refine ⟨plain.root, ?_⟩
  intro part member
  rcases List.mem_append.mp member with own | name
  · exact plain.parts part own
  · exact named part name

@[simp] theorem below_nil (path : Path) : path.below [] = path := by
  rw [Path.below, List.append_nil]

@[simp] theorem below_below (path : Path) (names more : List String) :
    (path.below names).below more = path.below (names ++ more) := by
  rw [Path.below, Path.below, Path.below, List.append_assoc]

/-! ## Written paths -/

theorem mem_written {c : Char} (member : c ∈ path.written.toList) :
    c ∈ path.root.toList ∨ (∃ part ∈ path.parts, c ∈ part.toList) ∨ c = '/' ∨ c = '.' := by
  have joined (parts : List String) (inside : c ∈ (String.intercalate "/" parts).toList) :
      (∃ part ∈ parts, c ∈ part.toList) ∨ c = '/' := by
    induction parts with
    | nil => cases inside
    | cons part rest induction =>
        cases rest with
        | nil => exact .inl ⟨part, List.mem_cons_self, by simpa using inside⟩
        | cons next rest =>
            rw [String.intercalate_cons_cons, String.toList_append, String.toList_append,
              List.mem_append, List.mem_append] at inside
            rcases inside with (own | slash) | later
            · exact .inl ⟨part, List.mem_cons_self, own⟩
            · exact .inr (List.mem_singleton.mp slash)
            · exact (induction later).imp_left fun ⟨one, known, there⟩ =>
                ⟨one, List.mem_cons_of_mem part known, there⟩
  rw [written] at member
  split at member
  · rw [String.toList_append, List.mem_append] at member
    rcases member with root | inside
    · exact .inl root
    · exact (joined path.parts inside).elim (fun own => .inr (.inl own)) fun slash =>
        .inr (.inr (.inl slash))
  · exact .inr (.inr (.inr (List.mem_singleton.mp member)))

theorem Plain.written_proper (plain : path.Plain) : hasNul path.written = false := by
  rw [hasNul_eq_false_iff]
  intro c member
  rcases mem_written member with root | ⟨part, own, inside⟩ | rfl | rfl
  · rcases plain.root with same | same | same <;> rw [same] at root
    · cases root
    · rw [List.mem_singleton.mp root]
      decide
    · rcases List.mem_cons.mp root with rfl | root
      · decide
      · rw [List.mem_singleton.mp root]
        decide
  · exact ((plain.parts part own).2.2 c inside).2
  · decide
  · decide

/-- The pieces that a path is written with before its parts. -/
def lead (path : Path) : List String := path.root.toList.map fun _ => ""

/-- What stands for the parts of a path that has none. -/
def filler (path : Path) : List String :=
  if path.parts.isEmpty then [if path.isAbsolute then "" else "."] else []

theorem written_of_parts (some_part : path.parts ≠ []) :
    path.written.toList = path.root.toList ++ ['/'].intercalate (path.parts.map String.toList) := by
  have listed : (path.isAbsolute || !path.parts.isEmpty) = true := by simp [some_part]
  rw [written, if_pos listed, String.toList_append, String.toList_intercalate]
  rfl

theorem Plain.cut_root (plain : path.Plain) (text : Text) :
    (Text.cutAt '/' (path.root.toList ++ text)).map String.ofList =
      path.lead ++ (Text.cutAt '/' text).map String.ofList := by
  rw [lead]
  rcases plain.root with same | same | same <;> rw [same] <;> rfl

theorem Plain.pieces_written (plain : path.Plain) :
    pieces path.written = path.lead ++ path.parts ++ path.filler := by
  cases some_part : path.parts with
  | nil =>
      obtain ⟨root, parts⟩ := path
      subst some_part
      rcases plain.root with rfl | rfl | rfl <;> rfl
  | cons part rest =>
      have listed : path.parts ≠ [] := by simp [some_part]
      have free : ∀ text ∈ path.parts.map String.toList, '/' ∉ text := by
        intro text member inside
        obtain ⟨own, known, rfl⟩ := List.mem_map.mp member
        exact ((plain.parts own known).2.2 '/' inside).1 rfl
      have nothing : path.filler = [] := by simp [filler, some_part]
      rw [pieces, written_of_parts listed, plain.cut_root,
        Text.cutAt_intercalate (by simpa using listed) free, List.map_map, nothing, List.append_nil,
        ← some_part]
      simp [Function.comp_def]

/-- Whether a piece is part of the way, and not only of how the way is written. -/
def isReal (piece : String) : Bool := !piece.isEmpty && piece != "."

theorem isReal_of_isPart {part : String} (own : IsPart part) : isReal part = true := by
  simp [isReal, own.1, own.2.1]

theorem filler_idle (path : Path) : ∀ piece ∈ path.filler, piece = "" ∨ piece = "." := by
  intro piece member
  rw [filler] at member
  split at member
  · rw [List.mem_singleton.mp member]
    split
    · exact .inl rfl
    · exact .inr rfl
  · cases member

theorem Plain.filter_lead (plain : path.Plain) :
    (path.lead ++ path.parts).filter isReal = path.parts := by
  have before : path.lead.filter isReal = [] := by
    rw [List.filter_eq_nil_iff]
    intro piece member
    obtain ⟨c, -, rfl⟩ := List.mem_map.mp member
    decide
  rw [List.filter_append, before, List.nil_append]
  exact List.filter_eq_self.mpr fun part member => isReal_of_isPart (plain.parts part member)

theorem Plain.filter_pieces (plain : path.Plain) :
    (pieces path.written).filter isReal = path.parts := by
  have behind : path.filler.filter isReal = [] := by
    rw [List.filter_eq_nil_iff]
    intro piece member
    rcases path.filler_idle piece member with rfl | rfl <;> decide
  rw [plain.pieces_written, List.filter_append, plain.filter_lead, behind, List.append_nil]

theorem Plain.head_pieces (plain : path.Plain) :
    ((pieces path.written).head? == some "") = path.isAbsolute := by
  rw [plain.pieces_written, lead, filler, isAbsolute]
  rcases plain.root with same | same | same
  · cases some_part : path.parts with
    | nil => simp [same]
    | cons part rest =>
        have own : (part == "") = false :=
          beq_false_of_ne (plain.parts part (by simp [some_part])).1
        simp [same, own]
  · simp [same]
  · simp [same]

theorem Plain.written_ne_empty (plain : path.Plain) : path.written ≠ "" := by
  intro empty
  cases some_part : path.parts with
  | nil =>
      obtain ⟨root, parts⟩ := path
      subst some_part
      rcases plain.root with rfl | rfl | rfl <;> exact absurd empty (by decide)
  | cons part rest =>
      have listed : path.parts ≠ [] := by simp [some_part]
      have text := written_of_parts listed
      have own : part.toList ≠ [] := by simpa using (plain.parts part (by simp [some_part])).1
      rw [empty, some_part] at text
      have nothing := (List.append_eq_nil_iff.mp text.symm).2
      cases rest with
      | nil =>
          rw [List.map_cons, List.map_nil, List.intercalate_singleton] at nothing
          exact own nothing
      | cons next rest =>
          rw [List.map_cons, List.map_cons, List.intercalate_cons_cons,
            List.append_assoc] at nothing
          exact own (List.append_eq_nil_iff.mp nothing).1

end Path

end ProseLinter
