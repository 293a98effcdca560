import ProseLinter.Evaluation

/-!
# Findings in order

Findings are located and sorted over and over: once when the rules have spoken, and again whenever a
notice joins them. The order is total and the sorting stable, so findings that stand in order stay
as they are, and a notice that joins them only takes its place between them.
-/

namespace ProseLinter

section

variable {β : Type} {le : β → β → Bool} (transitive : ∀ a b c, le a b → le b c → le a c)
  (total : ∀ a b, le a b || le b a)

include transitive total

theorem sorted_cons (first : β) (rest : List β) :
    (first :: rest).mergeSort le =
      (rest.mergeSort le).filter (fun item => !le first item) ++ first ::
        (rest.mergeSort le).filter (le first) := by
  obtain ⟨before, after, whole, parts, smaller⟩ := List.mergeSort_cons transitive total first rest
  have ordered := List.pairwise_mergeSort transitive total (first :: rest)
  rw [whole, List.pairwise_append, List.pairwise_cons] at ordered
  have larger : ∀ item ∈ after, le first item := ordered.2.1.1
  rw [whole, parts, List.filter_append, List.filter_append, List.filter_eq_self.mpr smaller,
    List.filter_eq_self.mpr larger,
    List.filter_eq_nil_iff.mpr (fun item member => by simp [larger item member]),
    List.filter_eq_nil_iff.mpr (fun item member => by simpa using smaller item member),
    List.append_nil, List.nil_append]

theorem filter_sorted (p : β → Bool) (items : List β) :
    (items.mergeSort le).filter p = (items.filter p).mergeSort le := by
  induction items with
  | nil => simp
  | cons first rest induction =>
      by_cases kept : p first
      · rw [List.filter_cons_of_pos kept, sorted_cons transitive total,
          sorted_cons transitive total, ← induction, List.filter_append,
          List.filter_cons_of_pos kept]
        simp only [List.filter_filter, Bool.and_comm]
      · obtain ⟨before, after, whole, parts, -⟩ := List.mergeSort_cons transitive total first rest
        rw [List.filter_cons_of_neg kept, ← induction, whole, parts, List.filter_append,
          List.filter_append, List.filter_cons_of_neg kept]

end

namespace Finding

def locatedIn (document : Document) (finding : Finding) : Finding :=
  { finding with location := some (document.lineMap.locate finding.span) }

/-- That findings are others, in the same order, with one notice among them. -/
def Joins (notice : Finding) (findings joined : List Finding) : Prop :=
  ∃ before after, findings = before ++ after ∧ joined = before ++ notice :: after

theorem joins_cons {notice : Finding} {findings joined : List Finding} (first : Finding)
    (joins : notice.Joins findings joined) :
    notice.Joins (first :: findings) (first :: joined) := by
  obtain ⟨before, after, whole, parts⟩ := joins
  exact ⟨first :: before, after, by rw [whole, List.cons_append], by rw [parts, List.cons_append]⟩

theorem joins_of_sublist {notice : Finding} {findings joined : List Finding}
    (kept : findings.Sublist joined) (together : joined.Perm (findings ++ [notice])) :
    notice.Joins findings joined := by
  induction kept with
  | slnil =>
      have count := together.length_eq
      simp at count
  | @cons findings joined first kept induction =>
      -- The one place that the findings do not fill is taken here, so from here on the lists agree.
      have count := together.length_eq
      rw [List.length_cons, List.length_append, List.length_singleton] at count
      have same : findings = joined := kept.eq_of_length (by omega)
      subst same
      have rotated : [first].Perm [notice] :=
        (List.perm_append_right_iff findings).mp
          (together.trans (List.perm_append_singleton notice findings))
      rw [List.singleton_perm_singleton] at rotated
      exact ⟨[], findings, rfl, by rw [rotated, List.nil_append]⟩
  | cons_cons first kept induction => exact joins_cons first (induction together.cons_inv)

theorem Joins.filter {notice : Finding} {findings joined : List Finding}
    (joins : notice.Joins findings joined) {p : Finding → Bool} (unconcerned : p notice = false) :
    joined.filter p = findings.filter p := by
  obtain ⟨before, after, whole, parts⟩ := joins
  rw [whole, parts, List.filter_append, List.filter_append, List.filter_cons, unconcerned]
  rfl

theorem Joins.mem {notice : Finding} {findings joined : List Finding}
    (joins : notice.Joins findings joined) :
    notice ∈ joined := by
  obtain ⟨before, after, -, parts⟩ := joins
  rw [parts]
  exact List.mem_append_right before List.mem_cons_self

end Finding

namespace Profile

variable (profile : Profile) (document : Document)

theorem ordered_total (first second : Finding) :
    profile.ordered first second || profile.ordered second first := by
  simp only [ordered, Bool.or_eq_true, Bool.and_eq_true, decide_eq_true_eq, beq_iff_eq]
  omega

theorem ordered_transitive (first second third : Finding) (early : profile.ordered first second)
    (late : profile.ordered second third) : profile.ordered first third := by
  simp only [ordered, Bool.or_eq_true, Bool.and_eq_true, decide_eq_true_eq,
    beq_iff_eq] at early late ⊢
  omega

theorem arrange_eq_sorted (findings : List Finding) :
    profile.arrange document findings =
      (findings.map (Finding.locatedIn document)).mergeSort profile.ordered := rfl

theorem arrange_ordered (findings : List Finding) :
    (profile.arrange document findings).Pairwise fun earlier later =>
      profile.ordered earlier later :=
  List.pairwise_mergeSort profile.ordered_transitive profile.ordered_total _

theorem mem_arrange {findings : List Finding} {finding : Finding} :
    finding ∈ profile.arrange document findings ↔
      ∃ given ∈ findings, given.locatedIn document = finding := by
  rw [arrange_eq_sorted, List.mem_mergeSort, List.mem_map]

theorem arrange_located {findings : List Finding} {finding : Finding}
    (arranged : finding ∈ profile.arrange document findings) :
    finding.locatedIn document = finding := by
  obtain ⟨given, -, same⟩ := (profile.mem_arrange document).mp arranged
  rw [← same]
  rfl

theorem arrange_within {findings : List Finding}
    (within : ∀ finding ∈ findings, finding.span.stop ≤ document.length) {finding : Finding}
    (member : finding ∈ profile.arrange document findings) :
    finding.span.stop ≤ document.length := by
  obtain ⟨given, given_member, same⟩ := (profile.mem_arrange document).mp member
  rw [← same]
  exact within given given_member

theorem arrange_placed {findings : List Finding} {finding : Finding}
    (member : finding ∈ profile.arrange document findings)
    (within : finding.span.stop ≤ document.length) :
    ∃ location, document.lineMap.locationOf finding.span = .ok location ∧
      finding.location = some location := by
  refine ⟨_, LineMap.locationOf_of_within (decide_eq_true within), ?_⟩
  exact congrArg Finding.location (profile.arrange_located document member).symm

theorem located_arrange (findings : List Finding) :
    (profile.arrange document findings).map (Finding.locatedIn document) =
      profile.arrange document findings := by
  have each : ∀ finding ∈ profile.arrange document findings,
      finding.locatedIn document = id finding := by
    intro finding arranged
    exact profile.arrange_located document arranged
  rw [List.map_congr_left each, List.map_id]

/-- That a finding may stand before another: it starts earlier, or at the same place and is of no
later rule. -/
def Precedes (earlier later : Finding) : Prop :=
  earlier.span.start < later.span.start ∨
    earlier.span.start = later.span.start ∧
      profile.ruleOrder earlier.ruleId ≤ profile.ruleOrder later.ruleId

theorem ordered_iff {earlier later : Finding} :
    profile.ordered earlier later ↔ profile.Precedes earlier later := by
  simp [ordered, Precedes]

/-- That findings are others put in order, and that those which start at one place and are of one
rule stand among themselves as they stood. -/
structure Sorts (given sorted : List Finding) : Prop where
  together : sorted.Perm given
  in_order : sorted.Pairwise profile.Precedes
  stable : ∀ start order,
    sorted.filter (fun finding => finding.span.start == start &&
      profile.ruleOrder finding.ruleId == order) =
      given.filter fun finding => finding.span.start == start &&
        profile.ruleOrder finding.ruleId == order

theorem sorts_mergeSort (findings : List Finding) :
    profile.Sorts findings (findings.mergeSort profile.ordered) where
  together := List.mergeSort_perm _ _
  in_order := by
    have ordered :=
      List.pairwise_mergeSort profile.ordered_transitive profile.ordered_total findings
    exact ordered.imp fun before => profile.ordered_iff.mp before
  stable := by
    intro start order
    rw [filter_sorted profile.ordered_transitive profile.ordered_total]
    apply List.mergeSort_of_pairwise
    apply List.pairwise_of_forall_mem_list
    intro earlier early later late
    simp only [List.mem_filter, Bool.and_eq_true, beq_iff_eq] at early late
    rw [ordered_iff, Precedes]
    omega

theorem arrange_sorts (findings : List Finding) :
    profile.Sorts (findings.map (Finding.locatedIn document)) (profile.arrange document findings) :=
  profile.sorts_mergeSort _

theorem filter_arrange {p : Finding → Bool}
    (indifferent : ∀ finding, p (finding.locatedIn document) = p finding)
    (findings : List Finding) :
    (profile.arrange document findings).filter p =
      profile.arrange document (findings.filter p) := by
  rw [arrange_eq_sorted, filter_sorted profile.ordered_transitive profile.ordered_total,
    List.filter_map, show p ∘ Finding.locatedIn document = p from funext indifferent,
    arrange_eq_sorted]

theorem arrange_one_rule (other : Profile) {ruleId : String} {findings : List Finding}
    (same : ∀ finding ∈ findings, finding.ruleId = ruleId) :
    profile.arrange document findings = other.arrange document findings := by
  have agree : ∀ earlier ∈ findings.map (Finding.locatedIn document),
      ∀ later ∈ findings.map (Finding.locatedIn document),
        profile.ordered earlier later = other.ordered (id earlier) (id later) := by
    intro earlier early later late
    obtain ⟨first, first_member, first_located⟩ := List.mem_map.mp early
    obtain ⟨second, second_member, second_located⟩ := List.mem_map.mp late
    have alike : earlier.ruleId = later.ruleId := by
      rw [← first_located, ← second_located]
      exact (same first first_member).trans (same second second_member).symm
    simp [ordered, alike]
  have sorted := List.map_mergeSort agree
  rwa [List.map_id, List.map_id] at sorted

theorem arrange_arrange (findings : List Finding) :
    profile.arrange document (profile.arrange document findings) =
      profile.arrange document findings := by
  rw [arrange_eq_sorted, located_arrange]
  exact List.mergeSort_of_pairwise (profile.arrange_ordered document findings)

theorem arrange_joins (findings : List Finding) (notice : Finding) :
    (notice.locatedIn document).Joins (profile.arrange document findings)
      (profile.arrange document (profile.arrange document findings ++ [notice])) := by
  rw [arrange_eq_sorted profile document (_ ++ [notice]), List.map_append, located_arrange,
    List.map_singleton]
  apply Finding.joins_of_sublist
  · exact List.sublist_mergeSort profile.ordered_transitive profile.ordered_total
      (profile.arrange_ordered document findings) (List.sublist_append_left _ _)
  · exact List.mergeSort_perm _ _

theorem evaluate_arranged : profile.arrange document (profile.evaluate document) =
    profile.evaluate document :=
  profile.arrange_arrange document _

theorem evaluate_joins (notice : Finding) :
    (notice.locatedIn document).Joins (profile.evaluate document)
      (profile.arrange document (profile.evaluate document ++ [notice])) :=
  profile.arrange_joins document _ notice

end Profile

end ProseLinter
