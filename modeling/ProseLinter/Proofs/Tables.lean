import Mathlib.Data.List.Nodup
import ProseLinter.Table

/-!
# Writing into tables

A table has the keys that were written to it, each where it was written first, and under each key
what was written last. So of tables that are merged one after the other, the first that has a key
decides its place and the last that has it decides its value.
-/

namespace ProseLinter.Table

universe u

/-! ## Keys -/

section Keys

variable {κ : Type} [BEq κ] {α : Type u}

omit [BEq κ] in
theorem keys_cons (entry : κ × α) (rest : Table κ α) :
    keys (entry :: rest) = entry.1 :: keys rest := rfl

theorem keys_merge_cons (entry : κ × α) (rest later : Table κ α) :
    (merge (entry :: rest) later).keys =
    entry.1 :: (merge rest (later.filter fun written => !(written.1 == entry.1))).keys := by
  induction later generalizing entry rest with
  | nil => rfl
  | cons written later induction =>
      have step : merge (entry :: rest) (written :: later) =
          merge (set written.1 written.2 (entry :: rest)) later := rfl
      rw [step, set]
      by_cases same : (written.1 == entry.1) = true
      · rw [if_pos same, induction, List.filter_cons_of_neg (by simp [same])]
      · rw [if_neg same, induction, List.filter_cons_of_pos (by simp [same])]
        rfl

theorem keys_ofEntries (entries : Table κ α) :
    (ofEntries entries).keys = entries.keys.eraseDups := by
  match entries with
  | [] => rfl
  | entry :: later =>
      have shorter := List.length_filter_le (fun written : κ × α => !(written.1 == entry.1)) later
      have first : ofEntries (entry :: later) = merge [entry] later := rfl
      have others : (later.filter fun written => !(written.1 == entry.1)).map Prod.fst =
          (later.map Prod.fst).filter fun key => !(key == entry.1) := by
        rw [List.filter_map]
        rfl
      rw [first, keys_merge_cons, keys_cons, List.eraseDups_cons, ← ofEntries, keys_ofEntries,
        keys, others]
      rfl
termination_by entries.length
decreasing_by
  rw [List.length_cons]
  omega

theorem foldl_merge_eq_ofEntries (tables : List (Table κ α)) :
    tables.foldl merge [] = ofEntries tables.flatten :=
  List.foldl_flatten.symm

theorem all_values_set {p : α → Prop} {table : Table κ α} {key : κ} {value : α}
    (all : ∀ entry ∈ table, p entry.2) (own : p value) :
    ∀ entry ∈ table.set key value, p entry.2 := by
  induction table with
  | nil => exact List.forall_mem_singleton.mpr own
  | cons entry rest induction =>
      rw [List.forall_mem_cons] at all
      rw [set]
      split
      · exact List.forall_mem_cons.mpr ⟨own, all.2⟩
      · exact List.forall_mem_cons.mpr ⟨all.1, induction all.2⟩

theorem all_values_merge {p : α → Prop} {table later : Table κ α} (all : ∀ entry ∈ table, p entry.2)
    (written : ∀ entry ∈ later, p entry.2) : ∀ entry ∈ table.merge later, p entry.2 := by
  induction later generalizing table with
  | nil => exact all
  | cons entry later induction =>
      rw [List.forall_mem_cons] at written
      exact induction (all_values_set all written.1) written.2

theorem ofEntries_constant (written : List κ) (value : α) :
    ofEntries (written.map fun key => (key, value)) =
      written.eraseDups.map fun key => (key, value) := by
  let table := ofEntries (written.map fun key => (key, value))
  have none_before : ∀ entry ∈ ([] : Table κ α), entry.2 = value := nofun
  have constant : ∀ entry ∈ table, entry.2 = value :=
    all_values_merge (p := (· = value)) none_before (List.forall_mem_map.mpr fun _ _ => rfl)
  have mentioned : table.keys = written.eraseDups := by
    rw [keys_ofEntries, keys, List.map_map]
    exact congrArg List.eraseDups (List.map_id written)
  have entries : table.map (fun entry => (entry.1, value)) = table.map id :=
    List.map_congr_left fun entry member => Prod.ext rfl (constant entry member).symm
  rw [← mentioned, keys, List.map_map]
  exact (entries.trans (List.map_id table)).symm

end Keys

/-! ## Values -/

section Values

variable {α : Type u} {table later : Table String α} {key : String}

theorem get?_cons (entry : String × α) (rest : Table String α) (key : String) :
    get? (entry :: rest) key = if entry.1 = key then some entry.2 else rest.get? key := by
  obtain ⟨name, value⟩ := entry
  rw [get?, List.lookup_cons]
  by_cases same : name = key
  · simp [same]
  · have other : (key == name) = false := beq_eq_false_iff_ne.mpr (Ne.symm same)
    simp [same, other, get?]

theorem get?_of_fresh (fresh : key ∉ table.keys) : table.get? key = none := by
  rw [get?, List.lookup_eq_none_iff]
  intro entry member
  rw [bne_iff_ne]
  intro same
  exact fresh (List.mem_map.mpr ⟨entry, member, same.symm⟩)

theorem set_of_fresh (fresh : key ∉ table.keys) (value : α) :
    table.set key value = table ++ [(key, value)] := by
  induction table with
  | nil => rfl
  | cons entry rest induction =>
      rw [keys_cons, List.mem_cons, not_or] at fresh
      rw [set, if_neg (mt beq_iff_eq.mp fresh.1), induction fresh.2, List.cons_append]

theorem alter_of_fresh (fresh : key ∉ table.keys) (value : α) (change : α → α) :
    table.alter key value change = table ++ [(key, value)] := by
  rw [alter, get?_of_fresh fresh]
  exact set_of_fresh fresh value

theorem mem_keys_set {other : String} {value : α} :
    other ∈ (table.set key value).keys ↔ other = key ∨ other ∈ table.keys := by
  induction table with
  | nil => simp [set, keys]
  | cons entry rest induction =>
      rw [set]
      by_cases same : key = entry.1
      · simp [same, keys_cons]
      · simp [same, keys_cons, induction, or_left_comm]

theorem distinct_set (distinct : table.keys.Nodup) (key : String) (value : α) :
    (table.set key value).keys.Nodup := by
  induction table with
  | nil => simp [set, keys]
  | cons entry rest induction =>
      rw [keys_cons, List.nodup_cons] at distinct
      rw [set]
      by_cases same : key = entry.1
      · simpa [same, keys_cons] using distinct
      · have fresh : entry.1 ∉ keys (set key value rest) := by
          rw [mem_keys_set, not_or]
          exact ⟨Ne.symm same, distinct.1⟩
        simpa [same, keys_cons] using ⟨fresh, induction distinct.2⟩

theorem distinct_merge (distinct : table.keys.Nodup) (later : Table String α) :
    (table.merge later).keys.Nodup := by
  induction later generalizing table with
  | nil => exact distinct
  | cons entry rest induction => exact induction (distinct_set distinct entry.1 entry.2)

theorem get?_of_mem (distinct : table.keys.Nodup) :
    ∀ entry ∈ table, table.get? entry.1 = some entry.2 := by
  induction table with
  | nil => exact nofun
  | cons first rest induction =>
      rw [keys_cons, List.nodup_cons] at distinct
      intro entry member
      rcases List.mem_cons.mp member with same | later
      · rw [same, get?_cons, if_pos rfl]
      · have different : first.1 ≠ entry.1 :=
          fun same => distinct.1 (List.mem_map.mpr ⟨entry, later, same.symm⟩)
        rw [get?_cons, if_neg different, induction distinct.2 entry later]

theorem get?_merge (distinct : later.keys.Nodup) (table : Table String α) (key : String) :
    (table.merge later).get? key = (later.get? key).or (table.get? key) := by
  induction later generalizing table with
  | nil => rfl
  | cons entry rest induction =>
      rw [keys_cons, List.nodup_cons] at distinct
      have step : table.merge (entry :: rest) = (table.set entry.1 entry.2).merge rest := rfl
      rw [step, induction distinct.2, get?_cons]
      by_cases same : entry.1 = key
      · rw [if_pos same, ← same, get?_of_fresh distinct.1, get?_set_self]
        rfl
      · rw [if_neg same, get?_set_of_ne table entry.2 (Ne.symm same)]

theorem get?_foldl_merge {tables : List (Table String α)}
    (distinct : ∀ later ∈ tables, later.keys.Nodup) (table : Table String α) (key : String) :
    (tables.foldl merge table).get? key =
      (tables.reverse.findSome? (·.get? key)).or (table.get? key) := by
  induction tables generalizing table with
  | nil => rfl
  | cons first rest induction =>
      rw [List.forall_mem_cons] at distinct
      rw [List.foldl_cons, induction distinct.2, get?_merge distinct.1, List.reverse_cons,
        List.findSome?_append, List.findSome?_singleton, Option.or_assoc]

end Values

end ProseLinter.Table
