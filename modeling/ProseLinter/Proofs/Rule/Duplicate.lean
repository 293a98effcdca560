import ProseLinter.Proofs.Rule.Safety
import ProseLinter.Proofs.Session.Reports
import ProseLinter.Rule.Duplicate

/-!
# Copies lie in their documents

What is reported of a copy stands under the id of the copy and covers its text. It is held against
the last document of the id, so it is taken if that one is no shorter.
-/

namespace ProseLinter

namespace Table

variable {α : Type} {P : String → α → Prop} {table : Table String α} {key : String}

theorem forall_set {value : α} (each : ∀ entry ∈ table, P entry.1 entry.2) (new : P key value) :
    ∀ entry ∈ table.set key value, P entry.1 entry.2 := by
  induction table with
  | nil => exact List.forall_mem_singleton.mpr new
  | cons entry rest induction =>
      obtain ⟨own, others⟩ := List.forall_mem_cons.mp each
      rw [set]
      by_cases same : key = entry.1
      · rw [if_pos (beq_iff_eq.mpr same)]
        exact List.forall_mem_cons.mpr ⟨same ▸ new, others⟩
      · rw [if_neg (mt beq_iff_eq.mp same)]
        exact List.forall_mem_cons.mpr ⟨own, induction others⟩

theorem forall_alter {fresh : α} {change : α → α} (each : ∀ entry ∈ table, P entry.1 entry.2)
    (new : P key fresh) (changed : ∀ value, P key value → P key (change value)) :
    ∀ entry ∈ table.alter key fresh change, P entry.1 entry.2 := by
  apply forall_set each
  cases known : table.get? key with
  | none => exact new
  | some value =>
      obtain ⟨before, after, parts, -⟩ := List.lookup_eq_some_iff.mp known
      exact changed value (each (key, value) (by simp [parts]))

end Table

namespace SessionCheck

/-- That a check of a batch hands over findings, each under the id of a document and suiting the
text of one that has the id. -/
def IsSafe (check : SessionCheck) (context : RuleContext) (documents : List Document) : Prop :=
  ∃ found : Table String (List Finding),
    check.evaluate context documents = .ok (found.map fun entry => (entry.1, entry.2.map .proper)) ∧
      ∀ entry ∈ found, (∃ document ∈ documents, document.id = entry.1) ∧
        ∀ finding ∈ entry.2, ∃ document ∈ documents, document.id = entry.1 ∧
        finding.Suits document.text

/-- That of documents which share an id none is longer than the last. -/
def LastIsLongest (documents : List Document) : Prop :=
  ∀ document ∈ documents, ∀ last, named documents document.id = some last →
    document.length ≤ last.length

variable {check : SessionCheck} {context : RuleContext} {documents : List Document}

theorem last_is_longest_of_distinct (distinct : (documents.map (·.id)).Nodup) :
    LastIsLongest documents := by
  intro document member last known
  rw [named_of_distinct distinct member, Option.some.injEq] at known
  exact Nat.le_of_eq (congrArg Document.length known)

theorem IsSafe.delivers (safe : check.IsSafe context documents)
    (longest : LastIsLongest documents) :
    ∃ produced, check.Delivers context documents produced := by
  obtain ⟨found, handed, suit⟩ := safe
  refine ⟨_, handed, ?_⟩
  intro entry member
  obtain ⟨given, known, same⟩ := List.mem_map.mp member
  obtain ⟨⟨document, there, named_so⟩, suits⟩ := suit given known
  obtain ⟨last, stands_for⟩ := exists_named there
  rw [← same]
  refine ⟨last, named_so ▸ stands_for, ?_⟩
  intro item inside
  obtain ⟨finding, reported, proper⟩ := List.mem_map.mp inside
  obtain ⟨own, own_there, own_named, own_suits⟩ := suits finding reported
  have reaches := longest own own_there last (by rw [own_named, ← named_so, stands_for])
  obtain ⟨other, equal, within, fix_within⟩ := own_suits.sound
  rw [← proper]
  exact ⟨other, equal, Nat.le_trans within reaches,
    fun patch carried => Nat.le_trans (fix_within patch carried) reaches⟩

theorem IsSafe.no_failure (safe : check.IsSafe context documents)
    (longest : LastIsLongest documents) (id : String) :
    ∀ finding ∈ (check.findings context documents).under id, ¬ finding.IsFailure := by
  obtain ⟨produced, delivers⟩ := safe.delivers longest
  obtain ⟨found, handed, suit⟩ := safe
  have produces : produced = found.map fun entry => (entry.1, entry.2.map .proper) :=
    Except.ok.inj (delivers.1.symm.trans handed)
  intro finding reported
  rw [findings_of_delivers delivers, Finding.mem_taken] at reported
  obtain ⟨own, known, same⟩ := reported
  obtain ⟨entry, member, -, inside⟩ := Table.mem_under.mp known
  rw [produces] at member
  obtain ⟨given, given_member, parts⟩ := List.mem_map.mp member
  rw [← parts] at inside
  obtain ⟨other, stands, proper⟩ := List.mem_map.mp inside
  cases proper
  obtain ⟨_, _, _, suits⟩ := (suit given given_member).2 own stands
  rw [← same]
  exact (suits.attributedTo context.ruleId).no_failure

end SessionCheck

namespace Duplicate

theorem copies_there (least : Int) (seen : List (Text × String)) (documents : List Document) :
    ∀ copy ∈ copies least seen documents, copy.1 ∈ documents := by
  induction documents generalizing seen with
  | nil => exact fun copy member => absurd member List.not_mem_nil
  | cons document rest induction =>
      have later : ∀ seen, ∀ copy ∈ copies least seen rest, copy.1 ∈ document :: rest :=
        fun seen copy member => List.mem_cons_of_mem document (induction seen copy member)
      rw [copies]
      split
      · split
        · exact later _
        · split
          · exact later _
          · exact List.forall_mem_cons.mpr ⟨List.mem_cons_self, later _⟩
      · exact later _

/-- That findings under an id are reports of documents that have it. -/
def Reports (context : RuleContext) (documents : List Document) (id : String)
    (found : List Finding) : Prop :=
  (∃ document ∈ documents, document.id = id) ∧
    ∀ finding ∈ found, ∃ document ∈ documents, document.id = id ∧
    ∃ first, finding = report context document first

theorem find_reports (least : Int) (context : RuleContext) (documents : List Document) :
    ∀ entry ∈ find least context documents, Reports context documents entry.1 entry.2 := by
  -- Whatever was found before, a copy adds one report under its id.
  have folded : ∀ (found : Table String (List Finding)) (copied : List (Document × String)),
      (∀ copy ∈ copied, copy.1 ∈ documents) →
      (∀ entry ∈ found, Reports context documents entry.1 entry.2) →
      ∀ entry ∈ copied.foldl (fun found copy =>
          let finding := report context copy.1 copy.2
          found.alter copy.1.id [finding] (· ++ [finding])) found,
        Reports context documents entry.1 entry.2 := by
    intro found copied there each
    induction copied generalizing found with
    | nil => exact each
    | cons copy rest induction =>
        obtain ⟨here, others⟩ := List.forall_mem_cons.mp there
        have own : ∃ document ∈ documents, document.id = copy.1.id ∧
            ∃ first, report context copy.1 copy.2 = report context document first :=
          ⟨copy.1, here, rfl, copy.2, rfl⟩
        have added : ∀ entry ∈
            found.alter copy.1.id [report context copy.1 copy.2]
              (· ++ [report context copy.1 copy.2]),
            Reports context documents entry.1 entry.2 := by
          apply Table.forall_alter each
          · exact ⟨⟨copy.1, here, rfl⟩, List.forall_mem_singleton.mpr own⟩
          · rintro value ⟨known, reports⟩
            exact ⟨known, List.forall_mem_append.mpr ⟨reports, List.forall_mem_singleton.mpr own⟩⟩
        exact induction _ others added
  exact folded [] _ (copies_there least [] documents)
    (fun entry member => absurd member List.not_mem_nil)

theorem report_suits (context : RuleContext) (document : Document) (first : String) :
    (report context document first).Suits document.text := by
  apply Finding.suits_unfixed
  · exact Nat.le_of_eq (Nat.zero_add _)
  · rfl
  · apply Finding.not_failure_of_head (c := 'C')
    · simp [report, RuleContext.report]
    · decide

theorem check_safe {options : Value} {check : SessionCheck}
    (prepared : rule.prepare options = .ok check) (context : RuleContext)
    (documents : List Document) : check.IsSafe context documents := by
  obtain ⟨least, -, made⟩ := Options.prepare_eq_ok prepared
  rw [made]
  refine ⟨find least context documents, rfl, ?_⟩
  intro entry member
  obtain ⟨known, reports⟩ := find_reports least context documents entry member
  refine ⟨known, ?_⟩
  intro finding reported
  obtain ⟨document, there, same, first, equal⟩ := reports finding reported
  exact ⟨document, there, same, equal ▸ report_suits context document first⟩

end Duplicate

end ProseLinter
