import ProseLinter.Proofs.Evaluation.Vetting
import ProseLinter.Proofs.Tables
import ProseLinter.Session

/-!
# What the rules about a batch report

A rule about a batch reports under ids of documents. What it hands over is taken whole or not at
all: every id has to be that of a document, and everything under the id has to be sound for the
document. Of documents with one id the last counts. Otherwise every document is told that the rule
failed. What several rules report under one id stands together, in the order of the rules.
-/

namespace ProseLinter

namespace Table

variable {α : Type}

/-- Everything that stands under a key of a table of lists. -/
def under (table : Table String (List α)) (key : String) : List α :=
  table.flatMap fun entry => if entry.1 = key then entry.2 else []

theorem under_cons (entry : String × List α) (rest : Table String (List α)) (key : String) :
    under (entry :: rest) key = (if entry.1 = key then entry.2 else []) ++ rest.under key :=
  List.flatMap_cons

theorem mem_under {table : Table String (List α)} {key : String} {item : α} :
    item ∈ table.under key ↔ ∃ entry ∈ table, entry.1 = key ∧ item ∈ entry.2 := by
  rw [under, List.mem_flatMap]
  constructor
  · rintro ⟨entry, member, inside⟩
    by_cases same : entry.1 = key
    · rw [if_pos same] at inside
      exact ⟨entry, member, same, inside⟩
    · rw [if_neg same] at inside
      cases inside
  · rintro ⟨entry, member, same, inside⟩
    exact ⟨entry, member, by rwa [if_pos same]⟩

theorem under_of_distinct {table : Table String (List α)} (distinct : table.keys.Nodup)
    (key : String) :
    table.under key = (table.get? key).getD [] := by
  induction table with
  | nil => rfl
  | cons entry rest induction =>
      rw [keys_cons, List.nodup_cons] at distinct
      rw [under_cons, get?_cons, induction distinct.2]
      by_cases same : entry.1 = key
      · have absent : get? rest key = none := get?_of_fresh (same ▸ distinct.1)
        simp [same, absent]
      · simp [same]

theorem get?_merge_constant (table : Table String (List α)) (written : List String) (value : List α)
    (key : String) :
    (table.merge (written.map fun name => (name, value))).get? key =
      if key ∈ written then some value else table.get? key := by
  induction written generalizing table with
  | nil => rfl
  | cons first rest induction =>
      have step : table.merge ((first :: rest).map fun name => (name, value)) =
          (table.set first value).merge (rest.map fun name => (name, value)) := rfl
      rw [step, induction]
      by_cases same : key = first
      · simp [same, get?_set_self]
      · simp [same, get?_set_of_ne table value same]

theorem under_constant (written : List String) (value : List α) (key : String) :
    (ofEntries (written.map fun name => (name, value))).under key = if key ∈ written then value
      else [] := by
  have distinct : (ofEntries (written.map fun name => (name, value))).keys.Nodup := by
    apply distinct_merge
    exact List.nodup_nil
  rw [under_of_distinct distinct, ofEntries, get?_merge_constant]
  by_cases member : key ∈ written
  · rw [if_pos member, if_pos member, Option.getD_some]
  · rw [if_neg member, if_neg member]
    rfl

end Table

theorem Table.under_taken (ruleId : String) (produced : Table String (List (Supplied Finding)))
    (id : String) :
    Table.under (produced.map fun entry => (entry.1, Finding.taken ruleId entry.2)) id =
      Finding.taken ruleId (produced.under id) := by
  induction produced with
  | nil => rfl
  | cons entry rest induction =>
      rw [List.map_cons, under_cons, under_cons, induction, Finding.taken, Finding.taken,
        Finding.taken, List.filterMap_append]
      by_cases same : entry.1 = id
      · simp [same]
      · simp [same]

namespace SessionCheck

/-- The document that an id stands for: of several with the id the last. -/
def named (documents : List Document) (id : String) : Option Document :=
  documents.reverse.find? (·.id == id)

/-- That what stands under an id is sound for the document that the id stands for. -/
def Fits (documents : List Document) (entry : String × List (Supplied Finding)) : Prop :=
  ∃ document, named documents entry.1 = some document ∧
    ∀ item ∈ entry.2, item.IsSound document.length

/-- That a check of a batch hands over what is taken. -/
def Delivers (check : SessionCheck) (context : RuleContext) (documents : List Document)
    (produced : Table String (List (Supplied Finding))) : Prop :=
  check.evaluate context documents = .ok produced ∧ ∀ entry ∈ produced, Fits documents entry

/-- That the check words no failure in the name of another rule. -/
def OwnsFaults (check : SessionCheck) (context : RuleContext) (documents : List Document) : Prop :=
  ∀ fault, check.evaluate context documents = .error (.rule fault) → fault.ruleId = context.ruleId

variable {check : SessionCheck} {context : RuleContext} {documents : List Document}
  {produced : Table String (List (Supplied Finding))} {document : Document} {id : String}

theorem named_mem (known : named documents id = some document) :
    document ∈ documents ∧ document.id = id := by
  rw [named] at known
  have same : (document.id == id) = true := by simpa using List.find?_some known
  exact ⟨List.mem_reverse.mp (List.mem_of_find?_eq_some known), beq_iff_eq.mp same⟩

theorem exists_named (member : document ∈ documents) :
    ∃ last, named documents document.id = some last := by
  cases known : named documents document.id with
  | some last => exact ⟨last, rfl⟩
  | none =>
      have other := List.find?_eq_none.mp known document (List.mem_reverse.mpr member)
      exact absurd (beq_self_eq_true document.id) other

theorem named_of_distinct (distinct : (documents.map (·.id)).Nodup)
    (member : document ∈ documents) :
    named documents document.id = some document := by
  obtain ⟨last, known⟩ := exists_named member
  obtain ⟨there, same⟩ := named_mem known
  rw [known, List.inj_on_of_nodup_map distinct there member same]

theorem fits_iff_of_distinct (distinct : (documents.map (·.id)).Nodup)
    {entry : String × List (Supplied Finding)} :
    Fits documents entry ↔
      ∃ document ∈ documents, document.id = entry.1 ∧
        ∀ item ∈ entry.2, item.IsSound document.length := by
  constructor
  · rintro ⟨document, known, sound⟩
    obtain ⟨member, same⟩ := named_mem known
    exact ⟨document, member, same, sound⟩
  · rintro ⟨document, member, same, sound⟩
    exact ⟨document, same ▸ named_of_distinct distinct member, sound⟩

theorem vetsAll (ruleId : String) (documents : List Document) :
    Vets (vetAll ruleId documents)
    (Fits documents) fun entry => [(entry.1, Finding.taken ruleId entry.2)] where
  nothing := rfl
  next := by
    intro entry rest
    obtain ⟨id, items⟩ := entry
    cases known : named documents id with
    | none =>
        refine .inr ⟨?_, .unknownDocument id, ?_⟩
        · rintro ⟨document, found, -⟩
          rw [known] at found
          cases found
        · rw [named] at known
          rw [vetAll, known]
    | some document =>
        have found := known
        rw [named] at found
        by_cases sound : ∀ item ∈ items, item.IsSound document.length
        · refine .inl ⟨⟨document, known, sound⟩, ?_⟩
          rw [vetAll, found]
          simp only [Finding.vet_sound ruleId sound, bind, Except.bind, pure, Except.pure]
          cases vetAll ruleId documents rest with
          | ok findings => rfl
          | error cause => rfl
        · refine .inr ⟨?_, ?_⟩
          · rintro ⟨other, same, others⟩
            rw [known, Option.some.injEq] at same
            exact sound (same ▸ others)
          · obtain ⟨cause, refused⟩ := (Finding.vets ruleId document.length).refused sound
            refine ⟨cause, ?_⟩
            rw [vetAll, found]
            simp only [refused, bind, Except.bind]

theorem vetAll_fit (ruleId : String) (fit : ∀ entry ∈ produced, Fits documents entry) :
    vetAll ruleId documents produced =
      .ok (produced.map fun entry => (entry.1, Finding.taken ruleId entry.2)) := by
  rw [(vetsAll ruleId documents).all fit, List.map_eq_flatMap]

theorem findings_of_delivers (delivers : check.Delivers context documents produced) (id : String) :
    (check.findings context documents).under id =
      Finding.taken context.ruleId (produced.under id) := by
  rw [findings, run, delivers.1]
  simp only [vetAll_fit context.ruleId delivers.2]
  exact Table.under_taken context.ruleId produced id

theorem run_of_failure (fails : ∀ produced, ¬ check.Delivers context documents produced) :
    ∃ fault, check.run context documents = .error fault ∧
      (check.OwnsFaults context documents → fault.ruleId = context.ruleId) := by
  rw [run]
  cases handed : check.evaluate context documents with
  | error fault =>
      refine ⟨_, rfl, ?_⟩
      intro own
      exact DocumentCheck.ruleId_of_fault context fault fun worded same =>
        own worded (same ▸ handed)
  | ok produced =>
      have unfit : ¬ ∀ entry ∈ produced, Fits documents entry :=
        fun fit => fails produced ⟨handed, fit⟩
      obtain ⟨cause, refused⟩ := (vetsAll context.ruleId documents).refused unfit
      exact ⟨⟨context.ruleId, cause⟩, by simp only [refused], fun _ => rfl⟩

theorem under_of_failure {fault : RuleFault} (failed : check.run context documents = .error fault)
    (id : String) :
    (check.findings context documents).under id = if id ∈ documents.map (·.id) then [fault.finding]
      else [] := by
  have told : check.findings context documents =
      Table.ofEntries ((documents.map (·.id)).map fun id => (id, [fault.finding])) := by
    rw [findings, failed, List.map_map]
    rfl
  rw [told, Table.under_constant]

theorem findings_of_failure (fails : ∀ produced, ¬ check.Delivers context documents produced) :
    ∃ fault : RuleFault, ∀ document ∈ documents,
      (check.findings context documents).under document.id = [fault.finding] := by
  obtain ⟨fault, failed, -⟩ := run_of_failure fails
  refine ⟨fault, ?_⟩
  intro document member
  rw [under_of_failure failed, if_pos (List.mem_map.mpr ⟨document, member, rfl⟩)]

theorem findings_whole_or_none (check : SessionCheck) (context : RuleContext)
    (distinct : (documents.map (·.id)).Nodup) :
    (∃ produced, check.evaluate context documents = .ok produced ∧
      (∀ entry ∈ produced, ∃ document ∈ documents,
        document.id = entry.1 ∧ ∀ item ∈ entry.2, item.IsSound document.length) ∧
      ∀ id, (check.findings context documents).under id =
        Finding.taken context.ruleId (produced.under id)) ∨
    ((∀ produced, check.evaluate context documents = .ok produced →
        ¬ ∀ entry ∈ produced, ∃ document ∈ documents,
          document.id = entry.1 ∧ ∀ item ∈ entry.2, item.IsSound document.length) ∧
      ∃ fault : RuleFault, ∀ document ∈ documents,
        (check.findings context documents).under document.id = [fault.finding]) := by
  simp only [← fits_iff_of_distinct distinct]
  by_cases delivers : ∃ produced, check.Delivers context documents produced
  · obtain ⟨produced, handed, fit⟩ := delivers
    exact .inl ⟨produced, handed, fit, findings_of_delivers ⟨handed, fit⟩⟩
  · have fails := not_exists.mp delivers
    exact .inr ⟨fun produced handed fit => fails produced ⟨handed, fit⟩, findings_of_failure fails⟩

theorem findings_within (known : named documents id = some document) {finding : Finding}
    (reported : finding ∈ (check.findings context documents).under id) :
    finding.span.stop ≤ document.length := by
  by_cases delivers : ∃ produced, check.Delivers context documents produced
  · obtain ⟨produced, handed, fit⟩ := delivers
    rw [findings, run, handed] at reported
    simp only [vetAll_fit context.ruleId fit] at reported
    obtain ⟨entry, member, same, inside⟩ := Table.mem_under.mp reported
    obtain ⟨given, given_member, taken⟩ := List.mem_map.mp member
    obtain ⟨own, own_known, sound⟩ := fit given given_member
    rw [← taken] at same inside
    rw [same, known, Option.some.injEq] at own_known
    exact own_known ▸ Finding.taken_within sound inside
  · obtain ⟨fault, told⟩ := findings_of_failure (not_exists.mp delivers)
    obtain ⟨member, same⟩ := named_mem known
    rw [← same, told document member, List.mem_singleton] at reported
    rw [reported]
    exact Nat.zero_le _

end SessionCheck

namespace Profile

/-- What the rules about a batch report under an id, in the order of the rules. -/
def reports (profile : Profile) (documents : List Document) (id : String) : List Finding :=
  profile.sessionChecks.flatMap fun (context, check) => (check.findings context documents).under id

/-- That what is reported under an id lies in every document of the id. -/
def ReportsLieWithin (profile : Profile) (documents : List Document) : Prop :=
  ∀ document ∈ documents, ∀ finding ∈ profile.reports documents document.id,
    finding.span.stop ≤ document.length

theorem reports_within {profile : Profile} {documents : List Document} {document : Document}
    {id : String} (known : SessionCheck.named documents id = some document) {finding : Finding}
    (reported : finding ∈ profile.reports documents id) : finding.span.stop ≤ document.length := by
  obtain ⟨⟨context, check⟩, -, reported⟩ := List.mem_flatMap.mp reported
  exact SessionCheck.findings_within known reported

theorem reports_lie_within (profile : Profile) {documents : List Document}
    (distinct : (documents.map (·.id)).Nodup) :
    profile.ReportsLieWithin documents := by
  intro document member finding reported
  exact reports_within (SessionCheck.named_of_distinct distinct member) reported

end Profile

namespace Session

theorem get?_alter (collected : Table String (List Finding)) (entry : String × List Finding)
    (id : String) :
    ((collected.alter entry.1 entry.2 (· ++ entry.2)).get? id).getD [] =
      (collected.get? id).getD [] ++ if entry.1 = id then entry.2 else [] := by
  rw [Table.alter]
  by_cases same : entry.1 = id
  · subst same
    rw [Table.get?_set_self]
    cases collected.get? entry.1 with
    | none => simp
    | some findings => simp
  · rw [Table.get?_set_of_ne collected _ (Ne.symm same)]
    simp [same]

theorem get?_gather (collected found : Table String (List Finding)) (id : String) :
    ((gather collected found).get? id).getD [] = (collected.get? id).getD [] ++ found.under id := by
  rw [gather]
  induction found generalizing collected with
  | nil => simp [Table.under]
  | cons entry rest induction =>
      rw [List.foldl_cons, induction, get?_alter, Table.under_cons, List.append_assoc]

theorem get?_batchFindings (profile : Profile) {documents : List Document}
    (some_given : documents ≠ []) (id : String) :
    ((batchFindings profile documents).get? id).getD [] = profile.reports documents id := by
  -- Whatever was collected before, the reports of the checks that are left come behind it.
  have folded :
      ∀ (checks : List (RuleContext × SessionCheck)) (collected : Table String (List Finding)),
      ((checks.foldl (fun collected (context, check) =>
        gather collected (check.findings context documents))
        collected).get? id).getD [] =
      (collected.get? id).getD [] ++ checks.flatMap fun (context, check) =>
        (check.findings context documents).under id := by
    intro checks
    induction checks with
    | nil => simp
    | cons first rest induction =>
        intro collected
        rw [List.foldl_cons, induction, get?_gather, List.flatMap_cons, List.append_assoc]
  have given : documents.isEmpty = false := by simpa using some_given
  rw [batchFindings, given, if_neg Bool.false_ne_true, folded, Profile.reports]
  rfl

end Session

end ProseLinter
