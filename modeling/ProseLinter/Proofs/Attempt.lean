import Mathlib.Data.List.Forall2
import ProseLinter.Fault

/-!
# Attempts

What may fail comes out or gives a fault. Here is what is known of several attempts, made one after
the other or one for each item of a list: what came out of each of them if all did, and in which
ways they can fail.
-/

namespace ProseLinter

section

variable {α β ε : Type} {f : α → Except ε β} {items : List α}

theorem ok_of_bind {attempt : Except ε α} {next : α → Except ε β} {made : β}
    (whole : attempt >>= next = .ok made) :
    ∃ first, attempt = .ok first ∧ next first = .ok made := by
  cases attempt with
  | ok first => exact ⟨first, rfl, whole⟩
  | error fault => cases whole

theorem bind_eq_ok_iff {attempt : Except ε α} {next : α → Except ε β} {made : β} :
    attempt >>= next = .ok made ↔ ∃ first, attempt = .ok first ∧ next first = .ok made := by
  constructor
  · exact ok_of_bind
  · rintro ⟨first, rfl, others⟩
    exact others

section

variable {δ : Type} {attempt : Except ε α} {told : ε → δ}

theorem mapError_ok_iff {made : α} : attempt.mapError told = .ok made ↔ attempt = .ok made := by
  cases attempt <;> simp [Except.mapError]

theorem mapError_error_iff {failure : δ} :
    attempt.mapError told = .error failure ↔ ∃ own, attempt = .error own ∧ told own = failure := by
  cases attempt <;> simp [Except.mapError]

end

theorem mapM_ok {made : List β} (mapped : items.mapM f = .ok made) :
    List.Forall₂ (fun item result => f item = .ok result) items made := by
  induction items generalizing made with
  | nil =>
      cases mapped
      exact .nil
  | cons first rest induction =>
      rw [List.mapM_cons] at mapped
      cases own : f first with
      | error fault =>
          rw [own] at mapped
          cases mapped
      | ok result =>
          cases others : rest.mapM f with
          | error fault =>
              rw [own, others] at mapped
              cases mapped
          | ok results =>
              rw [own, others] at mapped
              cases mapped
              exact .cons own (induction others)

theorem mapM_eq_map {make : α → β} (each : ∀ item ∈ items, f item = .ok (make item)) :
    items.mapM f = .ok (items.map make) := by
  induction items with
  | nil => rfl
  | cons first rest induction =>
      obtain ⟨own, others⟩ := List.forall_mem_cons.mp each
      rw [List.mapM_cons, own, induction others]
      rfl

theorem mapM_error {fault : ε} (stopped : items.mapM f = .error fault) :
    ∃ item ∈ items, f item = .error fault := by
  induction items with
  | nil => cases stopped
  | cons first rest induction =>
      rw [List.mapM_cons] at stopped
      cases own : f first with
      | error other =>
          rw [own] at stopped
          cases stopped
          exact ⟨first, List.mem_cons_self, own⟩
      | ok result =>
          cases others : rest.mapM f with
          | error other =>
              rw [own, others] at stopped
              cases stopped
              obtain ⟨item, member, refused⟩ := induction others
              exact ⟨item, List.mem_cons_of_mem first member, refused⟩
          | ok results =>
              rw [own, others] at stopped
              cases stopped

theorem exists_mapM {good : β → Prop}
    (each : ∀ item ∈ items, ∃ made, f item = .ok made ∧ good made) :
    ∃ made, items.mapM f = .ok made ∧ ∀ result ∈ made, good result := by
  induction items with
  | nil => exact ⟨[], rfl, List.forall_mem_nil good⟩
  | cons first rest induction =>
      obtain ⟨⟨own, made, fits⟩, others⟩ := List.forall_mem_cons.mp each
      obtain ⟨results, mapped, all⟩ := induction others
      refine ⟨own :: results, ?_, List.forall_mem_cons.mpr ⟨fits, all⟩⟩
      rw [List.mapM_cons, made, mapped]
      rfl

theorem exists_flatten {listed : α → Except ε (List β)} {good : β → Prop}
    (each : ∀ item ∈ items, ∃ made, listed item = .ok made ∧ ∀ result ∈ made, good result) :
    ∃ made, (do return (← items.mapM listed).flatten) = (.ok made : Except ε (List β)) ∧
      ∀ result ∈ made, good result := by
  obtain ⟨lists, mapped, all⟩ := exists_mapM each
  refine ⟨lists.flatten, by rw [mapped]; rfl, ?_⟩
  intro result member
  obtain ⟨made, known, inside⟩ := List.mem_flatten.mp member
  exact all made known result inside

theorem exists_filterM {keeps : α → Except ε Bool}
    (each : ∀ item ∈ items, ∃ kept, keeps item = .ok kept) :
    ∃ kept, items.filterM keeps = .ok kept ∧ ∀ item ∈ kept, item ∈ items := by
  have from_some (before : List α) : ∃ kept, items.filterAuxM keeps before = .ok kept ∧
      ∀ item ∈ kept, item ∈ items ∨ item ∈ before := by
    induction items generalizing before with
    | nil => exact ⟨before, rfl, fun item member => .inr member⟩
    | cons first rest induction =>
        obtain ⟨⟨own, decided⟩, others⟩ := List.forall_mem_cons.mp each
        obtain ⟨kept, made, inside⟩ := induction others (bif own then first :: before else before)
        refine ⟨kept, ?_, ?_⟩
        · rw [List.filterAuxM, decided]
          exact made
        · intro item member
          rcases inside item member with later | earlier
          · exact .inl (List.mem_cons_of_mem first later)
          · cases own with
            | false => exact .inr earlier
            | true =>
                rcases List.mem_cons.mp earlier with rfl | among
                · exact .inl List.mem_cons_self
                · exact .inr among
  obtain ⟨kept, made, inside⟩ := from_some []
  refine ⟨kept.reverse, ?_, ?_⟩
  · rw [List.filterM, made]
    rfl
  · intro item member
    exact (inside item (List.mem_reverse.mp member)).resolve_right List.not_mem_nil

theorem exists_left {R : α → β → Prop} {others : List β}
    (related : List.Forall₂ R items others) {other : β} (member : other ∈ others) :
    ∃ item ∈ items, R item other := by
  induction related with
  | nil => cases member
  | @cons first second items others own rest induction =>
      rcases List.mem_cons.mp member with same | later
      · exact ⟨first, List.mem_cons_self, same ▸ own⟩
      · obtain ⟨item, inside, holds⟩ := induction later
        exact ⟨item, List.mem_cons_of_mem first inside, holds⟩

theorem exists_pair {R : α → β → Prop} {first second : α} {others : List β}
    (related : List.Forall₂ R [first, second] others) :
    ∃ one two, others = [one, two] ∧ R first one ∧ R second two := by
  cases related with
  | cons own rest =>
      cases rest with
      | cons next rest =>
          cases rest
          exact ⟨_, _, rfl, own, next⟩

end

/-- That an attempt comes out or fails in one of the given ways. -/
def FailsAs {α : Type} (ways : Fault → Prop) (attempt : Except Fault α) : Prop :=
  ∀ fault, attempt = .error fault → ways fault

namespace FailsAs

variable {α β : Type} {ways more : Fault → Prop} {attempt : Except Fault α}

theorem ok (made : α) : FailsAs ways (.ok made) := by
  intro fault failed
  cases failed

theorem error {fault : Fault} (way : ways fault) : FailsAs (α := α) ways (.error fault) := by
  intro other failed
  cases failed
  exact way

theorem mono (fails : FailsAs ways attempt) (weaker : ∀ fault, ways fault → more fault) :
    FailsAs more attempt :=
  fun fault failed => weaker fault (fails fault failed)

theorem bind {next : α → Except Fault β} (first : FailsAs ways attempt)
    (others : ∀ made, attempt = .ok made → FailsAs ways (next made)) :
    FailsAs ways (attempt >>= next) := by
  intro fault failed
  cases attempted : attempt with
  | error own =>
      rw [attempted] at failed
      cases failed
      exact first _ attempted
  | ok made =>
      rw [attempted] at failed
      exact others made attempted fault failed

theorem map (made : α → β) (fails : FailsAs ways attempt) : FailsAs ways (made <$> attempt) := by
  intro fault failed
  cases attempted : attempt with
  | error own =>
      rw [attempted] at failed
      cases failed
      exact fails _ attempted
  | ok first =>
      rw [attempted] at failed
      cases failed

theorem mapM {items : List β} {make : β → Except Fault α}
    (each : ∀ item ∈ items, FailsAs ways (make item)) :
    FailsAs ways (items.mapM make) := by
  induction items with
  | nil => exact ok _
  | cons first rest induction =>
      obtain ⟨own, others⟩ := List.forall_mem_cons.mp each
      rw [List.mapM_cons]
      exact own.bind fun made _ => (induction others).bind fun _ _ => ok _

end FailsAs

end ProseLinter
