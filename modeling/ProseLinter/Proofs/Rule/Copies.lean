import Mathlib
import ProseLinter.Proofs.Rule.Duplicate
import ProseLinter.Proofs.Tables

/-!
# Copies are later documents with an earlier content

The table that goes along with the search of a batch holds, under every content that is compared,
the first document met that has it. So whether a document is a copy, and of which one, depends on
the documents before it alone; and each content is reported as often as it stands in the batch, but
once, whatever the order of the documents.
-/

namespace ProseLinter

namespace Duplicate

open scoped BigOperators

variable {least : Int} {context : RuleContext} {seen : List (Text × String)}
  {before documents : List Document} {document other : Document}

/-! ## The table of contents -/

theorem isCompared_iff :
    isCompared least document = true ↔
      content document ≠ [] ∧ least ≤ (content document).length := by
  rw [isCompared, Bool.and_eq_true, Bool.not_eq_true', List.isEmpty_eq_false_iff,
    decide_eq_true_iff]

theorem isCompared_congr (same : content other = content document) :
    isCompared least other = isCompared least document := by
  rw [isCompared, isCompared, same]

/-- The first of some documents that has the content of a given one. -/
def source (documents : List Document) (document : Document) : Option Document :=
  documents.find? fun other => decide (content other = content document)

theorem source_append (before after : List Document) (document : Document) :
    source (before ++ after) document = (source before document).or (source after document) :=
  List.find?_append

theorem source_eq_none : source before document = none ↔
    ∀ other ∈ before, content other ≠ content document := by
  simp only [source, List.find?_eq_none, decide_eq_true_iff, ne_eq]

theorem mem_of_source {first : Document} (known : source before document = some first) :
    first ∈ before :=
  List.mem_of_find?_eq_some known

theorem same_of_source {first : Document} (known : source before document = some first) :
    content first = content document := by
  have found := List.find?_some (p := fun other => decide (content other = content document)) known
  exact of_decide_eq_true found

/-- What the documents before a document make of it: a copy if one of them has its content. -/
def copyOf (least : Int) (before : List Document) (document : Document) :
    Option (Document × String) :=
  if isCompared least document then (source before document).map fun first => (document, first.id)
  else none

def copiesAfter (least : Int) (before : List Document) : List Document → List (Document × String)
  | [] => []
  | document :: rest =>
      (copyOf least before document).toList ++ copiesAfter least (before ++ [document]) rest

/-- That a table holds the first of the documents met so far under every content that is
compared. -/
def Knows (least : Int) (before : List Document) (seen : List (Text × String)) : Prop :=
  ∀ document, isCompared least document = true →
    seen.lookup (content document) = (source before document).map (·.id)

theorem Knows.pass (knows : Knows least before seen)
    (known : isCompared least document = true → source before document ≠ none) :
    Knows least (before ++ [document]) seen := by
  intro other compared
  rw [knows other compared, source_append]
  by_cases same : content document = content other
  · have met := known ((isCompared_congr same).trans compared)
    have sources : source before document = source before other := by rw [source, source, same]
    obtain ⟨first, found⟩ := Option.ne_none_iff_exists'.mp (sources ▸ met)
    rw [found, Option.some_or]
  · have nothing : source [document] other = none :=
      source_eq_none.mpr (List.forall_mem_singleton.mpr same)
    rw [nothing, Option.or_none]

theorem Knows.write (knows : Knows least before seen) (new : source before document = none) :
    Knows least (before ++ [document]) ((content document, document.id) :: seen) := by
  intro other compared
  rw [source_append, List.lookup_cons]
  by_cases same : content document = content other
  · have sources : source before other = none := by rw [source, ← same]; exact new
    have found : source [document] other = some document :=
      List.find?_cons_of_pos (decide_eq_true same)
    rw [sources, Option.none_or, found, beq_iff_eq.mpr same.symm]
    rfl
  · have nothing : source [document] other = none :=
      source_eq_none.mpr (List.forall_mem_singleton.mpr same)
    rw [nothing, Option.or_none, beq_eq_false_iff_ne.mpr (Ne.symm same)]
    exact knows other compared

theorem copies_eq_copiesAfter (knows : Knows least before seen)
    (distinct : ((before ++ documents).map (·.id)).Nodup) :
    copies least seen documents = copiesAfter least before documents := by
  induction documents generalizing before seen with
  | nil => rfl
  | cons document rest induction =>
      have step : before ++ document :: rest = (before ++ [document]) ++ rest :=
        List.append_cons before document rest
      rw [step] at distinct
      rw [copies, copiesAfter, copyOf]
      split
      case isFalse other =>
          exact induction (knows.pass fun compared => absurd compared other) distinct
      case isTrue compared =>
          rw [knows document compared]
          cases known : source before document with
          | none => exact induction (knows.write known) distinct
          | some first =>
              -- The ids of the batch differ, so the first document with the content is not the one
              -- at hand.
              have different : first.id ≠ document.id := by
                have apart := List.Nodup.of_append_left (List.map_append ▸ distinct)
                rw [List.map_append, List.nodup_append] at apart
                exact apart.2.2 first.id
                  (List.mem_map.mpr ⟨first, mem_of_source known, rfl⟩) document.id
                    List.mem_cons_self
              have goes_on :=
                induction (knows.pass fun _ => known ▸ Option.some_ne_none first) distinct
              simp only [Option.map_some, if_neg different, goes_on]
              rfl

/-! ## What is found -/

theorem copyOf_eq_some {copy : Document × String} : copyOf least before document = some copy ↔
    isCompared least document = true ∧ ∃ first, source before document = some first ∧
      (document, first.id) = copy := by
  rw [copyOf]
  split
  case isTrue compared => simp only [compared, true_and, Option.map_eq_some_iff]
  case isFalse other => simp only [other, false_and, reduceCtorEq, Bool.false_eq_true]

theorem mem_copiesAfter {copy : Document × String} : copy ∈ copiesAfter least before documents ↔
    ∃ earlier later, documents = earlier ++ copy.1 :: later ∧
      copyOf least (before ++ earlier) copy.1 = some copy := by
  induction documents generalizing before with
  | nil => simp [copiesAfter]
  | cons document rest induction =>
      rw [copiesAfter, List.mem_append, Option.mem_toList, induction]
      constructor
      · rintro (here | ⟨earlier, later, parts, found⟩)
        · obtain ⟨-, first, -, same⟩ := copyOf_eq_some.mp here
          have own : document = copy.1 := congrArg Prod.fst same
          exact ⟨[], rest, by rw [own, List.nil_append], by rw [← own, List.append_nil, here]⟩
        · exact ⟨document :: earlier, later,
            by rw [parts, List.cons_append], by rw [List.append_cons, found]⟩
      · rintro ⟨earlier, later, parts, found⟩
        cases earlier with
        | nil =>
            obtain ⟨own, -⟩ := List.cons.inj parts
            rw [List.append_nil, ← own] at found
            exact .inl found
        | cons first earlier =>
            obtain ⟨own, others⟩ := List.cons.inj parts
            rw [List.append_cons, ← own] at found
            exact .inr ⟨earlier, later, others, found⟩

theorem copied_sublist (least : Int) (before documents : List Document) :
    ((copiesAfter least before documents).map (·.1)).Sublist documents := by
  induction documents generalizing before with
  | nil => exact List.nil_sublist []
  | cons document rest induction =>
      have first : ((copyOf least before document).toList.map (·.1)).Sublist [document] := by
        cases known : copyOf least before document with
        | none => exact List.nil_sublist [document]
        | some copy =>
            obtain ⟨-, first, -, same⟩ := copyOf_eq_some.mp known
            rw [← same]
            exact List.Sublist.refl [document]
      rw [copiesAfter, List.map_append]
      exact first.append (induction (before ++ [document]))

/-- The ids of a batch differ, so that each copy has an entry of its own. -/
theorem find_eq (distinct : (documents.map (·.id)).Nodup) : find least context documents =
    (copiesAfter least [] documents).map fun copy =>
      (copy.1.id, [report context copy.1 copy.2]) := by
  have knows : Knows least [] [] := fun _ _ => rfl
  rw [find, copies_eq_copiesAfter knows (List.nil_append documents ▸ distinct)]
  have apart : ((copiesAfter least [] documents).map (·.1.id)).Nodup := by
    have ids := (copied_sublist least [] documents).map (·.id)
    rw [List.map_map] at ids
    exact distinct.sublist ids
  have folded : ∀ (copied : List (Document × String)) (found : Table String (List Finding)),
      (found.keys ++ copied.map (·.1.id)).Nodup →
      copied.foldl (fun found copy =>
          let finding := report context copy.1 copy.2
          found.alter copy.1.id [finding] (· ++ [finding])) found =
        found ++ copied.map fun copy => (copy.1.id, [report context copy.1 copy.2]) := by
    intro copied
    induction copied with
    | nil => exact fun found _ => (List.append_nil found).symm
    | cons copy rest induction =>
        intro found distinct
        have fresh : copy.1.id ∉ found.keys := by
          intro known
          exact (List.nodup_append.mp distinct).2.2 copy.1.id known copy.1.id List.mem_cons_self rfl
        rw [List.foldl_cons, Table.alter_of_fresh fresh, induction, List.append_assoc]
        · rfl
        · rw [Table.keys, List.map_append]
          rw [List.map_cons, List.append_cons] at distinct
          exact distinct
  exact folded _ [] apart

theorem keys_find (distinct : (documents.map (·.id)).Nodup) :
    (find least context documents).keys =
      ((copiesAfter least [] documents).map (·.1)).map (·.id) := by
  rw [find_eq distinct, Table.keys, List.map_map, List.map_map]
  rfl

theorem distinct_find (distinct : (documents.map (·.id)).Nodup) :
    (find least context documents).keys.Nodup := by
  rw [keys_find distinct]
  exact distinct.sublist ((copied_sublist least [] documents).map _)

/-- What is found of a document depends on the documents before it. -/
theorem get?_find {after : List Document} (parts : documents = before ++ document :: after)
    (distinct : (documents.map (·.id)).Nodup) : (find least context documents).get? document.id =
      (copyOf least before document).map fun copy => [report context document copy.2] := by
  have different : ∀ other ∈ documents, other.id = document.id → other = document := by
    intro other member same
    exact List.inj_on_of_nodup_map distinct member
      (parts ▸ List.mem_append_right before List.mem_cons_self) same
  -- A document stands once in the batch, so what is before it is the same in every division.
  have before_it : ∀ earlier later, documents = earlier ++ document :: later →
      earlier = before := by
    intro earlier later others
    have once : documents.Nodup := List.Nodup.of_map _ distinct
    rw [others] at once
    obtain ⟨-, once_later, apart⟩ := List.nodup_append.mp once
    have not_earlier : document ∉ earlier :=
      fun member => apart document member document List.mem_cons_self rfl
    have not_later : document ∉ later := (List.nodup_cons.mp once_later).1
    exact ((List.append_cons_inj_of_notMem not_earlier not_later).mp (others.symm.trans parts)).1
  cases known : copyOf least before document with
  | some copy =>
      obtain ⟨-, first, -, same⟩ := copyOf_eq_some.mp known
      have member : copy ∈ copiesAfter least [] documents := by
        rw [mem_copiesAfter, ← same]
        exact ⟨before, after, parts, by rw [List.nil_append, known, same]⟩
      have entry : (document.id, [report context document copy.2]) ∈
          find least context documents := by
        rw [find_eq distinct]
        exact List.mem_map.mpr ⟨copy, member, by rw [← same]⟩
      exact Table.get?_of_mem (distinct_find distinct) _ entry
  | none =>
      apply Table.get?_of_fresh
      intro listed
      rw [keys_find distinct, List.map_map] at listed
      obtain ⟨copy, member, same⟩ := List.mem_map.mp listed
      obtain ⟨earlier, later, others, found⟩ := mem_copiesAfter.mp member
      have there : copy.1 ∈ documents := others ▸ List.mem_append_right earlier List.mem_cons_self
      have own : copy.1 = document := different copy.1 there same
      rw [own] at others found
      rw [List.nil_append, before_it earlier later others, known] at found
      cases found

/-! ## How much is found -/

/-- The contents that a batch is searched for, one for each document that is compared. -/
def contents (least : Int) (documents : List Document) : List Text :=
  (documents.filter (isCompared least)).map content

theorem contents_append (least : Int) (first second : List Document) :
    contents least (first ++ second) = contents least first ++ contents least second := by
  rw [contents, List.filter_append, List.map_append]
  rfl

theorem contents_cons (compared : isCompared least document = true) (rest : List Document) :
    contents least (document :: rest) = content document :: contents least rest := by
  rw [contents, List.filter_cons_of_pos compared]
  rfl

theorem contents_cons_of_not (other : ¬ isCompared least document = true) (rest : List Document) :
    contents least (document :: rest) = contents least rest := by
  rw [contents, List.filter_cons_of_neg other]
  rfl

theorem source_eq_none_iff (compared : isCompared least document = true) :
    source before document = none ↔ content document ∉ contents least before := by
  rw [source_eq_none, contents, List.mem_map, not_exists]
  constructor
  · rintro new other ⟨member, same⟩
    exact new other (List.mem_of_mem_filter member) same
  · intro new other member same
    exact new other ⟨List.mem_filter.mpr ⟨member, (isCompared_congr same).trans compared⟩, same⟩

theorem card_new {text : Text} {texts known : Finset Text} (new : text ∉ known) :
    (insert text texts \ known).card = (texts \ insert text known).card + 1 := by
  have apart : insert text texts \ known = insert text (texts \ insert text known) := by
    rw [Finset.insert_sdiff_of_notMem texts new, Finset.sdiff_insert]
    ext other
    by_cases same : other = text <;> simp [same]
  rw [apart, Finset.card_insert_of_notMem (by simp)]

/-- Of the documents that are compared, those with a content not met before are spared, once for
each content. -/
theorem length_copiesAfter (least : Int) (before documents : List Document) :
    (copiesAfter least before documents).length +
        ((contents least documents).toFinset \ (contents least before).toFinset).card =
      (contents least documents).length := by
  induction documents generalizing before with
  | nil => simp [copiesAfter, contents]
  | cons document rest induction =>
      have later := induction (before ++ [document])
      rw [contents_append] at later
      rw [copiesAfter, List.length_append, copyOf]
      by_cases compared : isCompared least document = true
      · rw [contents_cons compared, List.toFinset_append, Finset.union_comm, List.toFinset_cons,
          show contents least [] = [] from rfl, List.toFinset_nil, Finset.insert_union,
            Finset.empty_union] at later
        rw [contents_cons compared, List.toFinset_cons, List.length_cons, if_pos compared, ← later]
        cases known : source before document with
        | some first =>
            have met : content document ∈ (contents least before).toFinset := by
              have not_new :=
                mt (source_eq_none_iff compared).mpr (known ▸ Option.some_ne_none first)
              exact List.mem_toFinset.mpr (not_not.mp not_new)
            rw [Finset.insert_sdiff_of_mem _ met, Finset.insert_eq_of_mem met, Option.map_some,
              Option.toList_some, List.length_singleton]
            omega
        | none =>
            have new : content document ∉ (contents least before).toFinset :=
              mt List.mem_toFinset.mp ((source_eq_none_iff compared).mp known)
            rw [card_new new, Option.map_none, Option.toList_none, List.length_nil]
            omega
      · rw [contents_cons_of_not compared, show contents least [] = [] from rfl,
          List.append_nil] at later
        rw [contents_cons_of_not compared, if_neg compared, Option.toList_none, List.length_nil,
          Nat.zero_add, later]

def findingCount (found : Table String (List Finding)) : Nat := (found.map (·.2.length)).sum

theorem findingCount_find (distinct : (documents.map (·.id)).Nodup) :
    findingCount (find least context documents) = (copiesAfter least [] documents).length := by
  have ones : ((copiesAfter least [] documents).map fun _ => 1).sum =
      (copiesAfter least [] documents).length := by simp
  rw [find_eq distinct, findingCount, List.map_map]
  exact ones

theorem sum_repeats (texts : List Text) :
    ∑ text ∈ texts.toFinset, (texts.count text - 1) = texts.length - texts.toFinset.card := by
  have counted : ∑ text ∈ texts.toFinset, (texts.count text - 1 + 1) = texts.length := by
    rw [← List.sum_toFinset_count_eq_length texts,
      lawful_beq_subsingleton instBEqOfDecidableEq List.instBEq]
    apply Finset.sum_congr rfl
    intro text member
    exact Nat.sub_add_cancel (List.count_pos_iff.mpr (List.mem_toFinset.mp member))
  rw [Finset.sum_add_distrib, ← Finset.card_eq_sum_ones] at counted
  omega

theorem findingCount_eq (distinct : (documents.map (·.id)).Nodup) :
    findingCount (find least context documents) =
    ∑ text ∈ (contents least documents).toFinset, ((contents least documents).count text - 1) := by
  have counted := length_copiesAfter least [] documents
  rw [show contents least [] = [] from rfl, List.toFinset_nil, Finset.sdiff_empty] at counted
  rw [findingCount_find distinct, sum_repeats]
  omega

/-- In a batch of documents whose ids differ, a document is reported if and only if its trimmed text
is not empty, is long enough and is that of an earlier document. It gets one message, over its whole
text, which names the first document of the batch with that text. So there are as many messages as
the texts that are compared have repeats, and as many for every order of the documents. -/
theorem copies_are_reported_once (least : Int) (context : RuleContext) {documents : List Document}
    (distinct : (documents.map (·.id)).Nodup) :
    let found := find least context documents
    (∀ options, readLength options = .ok least → ∃ check, rule.prepare options = .ok check ∧
      check.evaluate context documents =
        .ok (found.map fun entry => (entry.1, entry.2.map .proper))) ∧
    (found.keys.Nodup ∧ ∀ id ∈ found.keys, ∃ document ∈ documents, document.id = id) ∧
    (∀ before document after, documents = before ++ document :: after →
      ((∃ findings, found.get? document.id = some findings) ↔
        content document ≠ [] ∧ least ≤ (content document).length ∧
          ∃ earlier ∈ before, content earlier = content document) ∧
      ∀ findings, found.get? document.id = some findings →
        ∃ first,
          documents.find? (fun other => decide (content other = content document)) = some first ∧
          findings =
            [context.report (Span.ofLength 0 document.length)
              ("Content duplicates '" ++ first.id ++ "'.") none]) ∧
    findingCount found =
      ∑ text ∈ (contents least documents).toFinset, ((contents least documents).count text - 1) ∧
    ∀ shuffled, shuffled.Perm documents →
      findingCount (find least context shuffled) = findingCount found := by
  intro found
  refine ⟨?_, ⟨distinct_find distinct, ?_⟩, ?_, findingCount_eq distinct, ?_⟩
  · intro options known
    exact ⟨_, Options.prepare_of_read known ruleId _, rfl⟩
  · intro id listed
    rw [keys_find distinct] at listed
    obtain ⟨document, copied, same⟩ := List.mem_map.mp listed
    exact ⟨document, (copied_sublist least [] documents).subset copied, same⟩
  · intro before document after parts
    have what : found.get? document.id =
        (copyOf least before document).map fun copy => [report context document copy.2] :=
      get?_find parts distinct
    constructor
    · constructor
      · rintro ⟨findings, known⟩
        rw [what] at known
        obtain ⟨copy, copied, -⟩ := Option.map_eq_some_iff.mp known
        obtain ⟨compared, first, known_first, -⟩ := copyOf_eq_some.mp copied
        obtain ⟨some_text, long⟩ := isCompared_iff.mp compared
        exact ⟨some_text, long, first, mem_of_source known_first, same_of_source known_first⟩
      · rintro ⟨some_text, long, earlier, member, same⟩
        obtain ⟨first, known⟩ := Option.ne_none_iff_exists'.mp
          (mt source_eq_none.mp fun none_has => none_has earlier member same)
        have copied : copyOf least before document = some (document, first.id) :=
          copyOf_eq_some.mpr ⟨isCompared_iff.mpr ⟨some_text, long⟩, first, known, rfl⟩
        exact ⟨_, by rw [what, copied, Option.map_some]⟩
    · intro findings known
      rw [what] at known
      obtain ⟨copy, copied, reported⟩ := Option.map_eq_some_iff.mp known
      obtain ⟨-, first, known_first, same⟩ := copyOf_eq_some.mp copied
      have first_of_all : source documents document = some first := by
        rw [parts, source_append, known_first, Option.some_or]
      refine ⟨first, first_of_all, ?_⟩
      rw [← reported, ← same]
      rfl
  · intro shuffled permuted
    have same_contents : (contents least shuffled).Perm (contents least documents) :=
      (permuted.filter _).map content
    rw [findingCount_eq distinct, findingCount_eq ((permuted.map (·.id)).nodup_iff.mpr distinct),
      List.toFinset_eq_of_perm _ _ same_contents]
    exact Finset.sum_congr rfl fun text _ => congrArg (· - 1) (same_contents.count_eq text)

/-- Two documents with the text of the first but for white space, a shorter one and one with another
text. -/
theorem two_copies_of_the_first :
    let document := fun (id : String) (text : Text) =>
      Document.mk id text (.branch .document (Span.ofLength 0 text.length) []) "txt"
    let first := document "a" ['o', 'n', 'e']
    let batch :=
      [first, document "b" [' ', 'o', 'n', 'e'], document "c" ['o', 'n'],
        document "d" ['o', 'n', 'e', '\n'],
      document "e" ['t', 'w', 'o']]
    (batch.map (·.id)).Nodup ∧ findingCount (find 3 ⟨ruleId, .warning⟩ batch) = 2 ∧
      (find 3 ⟨ruleId, .warning⟩ batch).get? "d" =
        some [⟨ruleId, .warning, Span.ofLength 0 4, "Content duplicates 'a'.", none, none⟩] := by
  intro document first batch
  have distinct : (batch.map (·.id)).Nodup := by decide
  obtain ⟨-, -, what, count, -⟩ := copies_are_reported_once 3 ⟨ruleId, .warning⟩ distinct
  obtain ⟨reported, named⟩ :=
    what [first, document "b" [' ', 'o', 'n', 'e'], document "c" ['o', 'n']]
    (document "d" ['o', 'n', 'e', '\n']) [document "e" ['t', 'w', 'o']] rfl
  refine ⟨distinct, ?_, ?_⟩
  · rw [count]
    have counted : contents 3 batch =
        [['o', 'n', 'e'], ['o', 'n', 'e'], ['o', 'n', 'e'], ['t', 'w', 'o']] := by cbv
    rw [counted]
    decide
  · obtain ⟨findings, known⟩ :=
      reported.mpr ⟨by decide, by decide, first, List.mem_cons_self, by decide⟩
    obtain ⟨source, is_first, same⟩ := named findings known
    have source_is :
        batch.find?
          (fun other => decide (content other = content (document "d" ['o', 'n', 'e', '\n']))) =
        some first := by cbv
    rw [source_is, Option.some.injEq] at is_first
    rw [same, ← is_first] at known
    exact known

end Duplicate

end ProseLinter
