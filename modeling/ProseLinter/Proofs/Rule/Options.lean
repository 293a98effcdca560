import ProseLinter.Proofs.Attempt
import ProseLinter.Proofs.Rule.Safety
import ProseLinter.Registry

/-!
# The options that rules accept

A rule accepts null, true, and tables that hold nothing but keys it knows, with a value of the right
kind under each. What it makes of them are the values in the table, and its own defaults for keys
that are missing. All other options are refused by the rule itself, as long as the keys of the
options are texts; what stands deeper in them does not matter.
-/

namespace ProseLinter

theorem Key.text_beq_iff {name : String} {key : Key} :
    (Key.text name == key) = true ↔ key = .text name := by
  cases key with
  | text other =>
      change (name == other) = true ↔ Key.text other = Key.text name
      rw [beq_iff_eq, Key.text.injEq, eq_comm]
  | _ => exact ⟨nofun, nofun⟩

/-- That the keys of a value are texts, if it is a table. -/
def Value.IsTextKeyed (options : Value) : Prop :=
  ∀ entries, options = .table entries → ∀ key ∈ Table.keys entries, ∃ name, key = .text name

namespace Options

section Readers

variable {options : Value} {entries : Entries} {known : List String} {key : String}

/-- That options hold entries under known keys only; null and true hold none. -/
def Hold (known : List String) (options : Value) (entries : Entries) : Prop :=
  (options = .null ∨ options = .bool true) ∧ entries = [] ∨
    options = .table entries ∧ ∀ key ∈ Table.keys entries, ∃ name ∈ known, key = .text name

/-- That a setting is what an entry writes, or the default if there is no entry. -/
def Sets {α : Type} (entries : Entries) (key : String) (write : α → Value)
    (fallback setting : α) : Prop :=
  match entries.get? (.text key) with
  | none => setting = fallback
  | some value => value = write setting

def writeTexts (texts : List String) : Value := .list (texts.map .string)

theorem mem_unknownKeys {key : Key} :
    key ∈ unknownKeys known entries ↔
      key ∈ Table.keys entries ∧ ¬ ∃ name ∈ known, key = .text name := by
  rw [unknownKeys, List.mem_filter, Bool.not_eq_true', ← Bool.not_eq_true, List.any_eq_true]
  simp only [Key.text_beq_iff]

theorem table_eq_ok_iff : table known options = .ok entries ↔ Hold known options entries := by
  cases options with
  | null => simp [table, Hold, eq_comm]
  | bool b => cases b <;> simp [table, Hold, eq_comm]
  | table own =>
      have all_known : unknownKeys known own = [] ↔
          ∀ key ∈ Table.keys own, ∃ name ∈ known, key = .text name := by
        rw [List.eq_nil_iff_forall_not_mem]
        simp only [mem_unknownKeys, not_and, not_not]
      rw [table]
      cases unknown : unknownKeys known own with
      | nil =>
          have fits := all_known.mp unknown
          simp only [Except.ok.injEq, Hold, reduceCtorEq, or_self, false_and,
            Value.table.injEq, false_or]
          exact ⟨fun same => ⟨same, same ▸ fits⟩, fun both => both.1⟩
      | cons first rest =>
          have misfits : ¬ ∀ key ∈ Table.keys own, ∃ name ∈ known, key = .text name := fun fits =>
            absurd (unknown.symm.trans (all_known.mpr fits)) (List.cons_ne_nil first rest)
          simp only [reduceCtorEq, Hold, or_self, false_and, Value.table.injEq, false_or, false_iff]
          rintro ⟨rfl, fits⟩
          exact misfits fits
  | _ => simp [table, Hold]

theorem boolean_eq_ok_iff {fallback setting : Bool} :
    boolean entries key fallback = .ok setting ↔ Sets entries key .bool fallback setting := by
  rw [boolean, Sets]
  cases entries.get? (.text key) with
  | none => simp [eq_comm]
  | some value => cases value <;> simp

theorem integer_eq_ok_iff {least fallback setting : Int} {fault : OptionFault}
    (allowed : least ≤ fallback) :
    integer entries key least fallback fault = .ok setting ↔
      Sets entries key .int fallback setting ∧ least ≤ setting := by
  rw [integer, Sets]
  cases entries.get? (.text key) with
  | none =>
      simp only [Except.ok.injEq]
      constructor
      · rintro rfl
        exact ⟨rfl, allowed⟩
      · exact fun both => both.1.symm
  | some value =>
      cases value with
      | int n =>
          dsimp only
          split
          next reaches =>
            rw [Except.ok.injEq, Value.int.injEq]
            constructor
            · rintro rfl
              exact ⟨rfl, reaches⟩
            · exact fun both => both.1
          next below =>
            simp only [reduceCtorEq, Value.int.injEq, false_iff, not_and]
            rintro rfl
            exact below
      | _ => simp

theorem texts?_eq_some_iff {items : List Value} {texts : List String} :
    texts? items = some texts ↔ items = texts.map .string := by
  induction items generalizing texts with
  | nil => cases texts <;> simp [texts?]
  | cons item rest induction =>
      cases item with
      | string s =>
          cases texts with
          | nil => simp [texts?]
          | cons first others =>
              simp only [texts?, Option.map_eq_some_iff, induction, List.cons.injEq, List.map_cons,
                Value.string.injEq]
              constructor
              · rintro ⟨read, same, rfl, rfl⟩
                exact ⟨rfl, same⟩
              · rintro ⟨rfl, same⟩
                exact ⟨others, same, rfl, rfl⟩
      | _ => cases texts <;> simp [texts?]

/-! ## Refusals -/

/-- That an attempt to read options comes out or is refused for what the options are: the checking
itself does not fail. -/
def Refuses {α : Type} (attempt : Except OptionFault α) : Prop :=
  ∀ fault, attempt = .error fault → fault.isOfChecking = false

theorem Refuses.ok {α : Type} (made : α) : Refuses (.ok made) := fun _ => nofun

theorem Refuses.error {α : Type} {fault : OptionFault} (own : fault.isOfChecking = false) :
    Refuses (.error fault : Except OptionFault α) := by
  intro other same
  cases same
  exact own

theorem Refuses.bind {α β : Type} {attempt : Except OptionFault α} {next : α → Except OptionFault β}
    (first : Refuses attempt) (others : ∀ made, Refuses (next made)) :
    Refuses (attempt >>= next) := by
  cases attempted : attempt with
  | ok made => exact others made
  | error fault => exact .error (first fault attempted)

theorem textKeys_of_texts {keys : List Key} (texts : ∀ key ∈ keys, ∃ name, key = .text name) :
    (textKeys keys).length = keys.length := by
  induction keys with
  | nil => rfl
  | cons key keys induction =>
      obtain ⟨⟨name, rfl⟩, others⟩ := List.forall_mem_cons.mp texts
      have rest := induction others
      have kept : Key.text? (.text name) = some name := rfl
      rw [textKeys] at rest ⊢
      rw [List.filterMap_cons_some kept, List.length_cons, List.length_cons, rest]

theorem table_refuses (known : List String) (keyed : options.IsTextKeyed) :
    Refuses (table known options) := by
  cases options with
  | null => exact .ok _
  | bool b =>
      cases b with
      | true => exact .ok _
      | false => exact .error rfl
  | table own =>
      rw [table]
      cases unknown : unknownKeys known own with
      | nil => exact .ok _
      | cons first rest =>
          have texts : ∀ key ∈ first :: rest, ∃ name, key = .text name := by
            intro key member
            exact keyed own rfl key (mem_unknownKeys.mp (unknown ▸ member)).1
          apply Refuses.error
          rw [unknownFault, if_pos (textKeys_of_texts texts)]
          rfl
  | _ => exact .error rfl

theorem boolean_refuses (entries : Entries) (key : String) (fallback : Bool) :
    Refuses (boolean entries key fallback) := by
  rw [boolean]
  split
  · exact .ok _
  · exact .ok _
  · exact .error rfl

theorem integer_refuses (entries : Entries) (key : String) (least fallback : Int)
    {fault : OptionFault} (own : fault.isOfChecking = false) :
    Refuses (integer entries key least fallback fault) := by
  rw [integer]
  split
  · exact .ok _
  · split
    · exact .ok _
    · exact .error own
  · exact .error own

/-- That a rule judges options by what they give: it makes its check of the settings that they give,
of which there are no two, and otherwise refuses them. -/
structure Judges {Settings Check : Type} (prepare : Value → Except Fault Check)
    (Gives : Value → Settings → Prop) (check : Settings → Check) : Prop where
  accepts_iff : ∀ options made, prepare options = .ok made ↔
    ∃ settings, Gives options settings ∧ made = check settings
  gives_one : ∀ options one other, Gives options one → Gives options other → one = other
  refuses : ∀ options, (∀ settings, ¬ Gives options settings) → options.IsTextKeyed →
    ∃ fault, prepare options = .error fault ∧ fault.kind = "InvalidOptionsError"

theorem judges_of_read {Settings Check : Type} {read : Value → Except OptionFault Settings}
    {Gives : Value → Settings → Prop}
    (reads : ∀ options settings, read options = .ok settings ↔ Gives options settings)
    (refuses : ∀ options : Value, options.IsTextKeyed → Refuses (read options)) (ruleId : String)
    (check : Settings → Check) : Judges (prepare ruleId read check) Gives check where
  accepts_iff := by
    intro options made
    simp only [← reads]
    constructor
    · exact prepare_eq_ok
    · rintro ⟨settings, known, rfl⟩
      exact prepare_of_read known ruleId check
  gives_one := by
    intro options one other gives also
    rw [← reads] at gives also
    exact Except.ok.inj (gives.symm.trans also)
  refuses := by
    intro options none_given keyed
    rw [prepare]
    cases known : read options with
    | ok settings => exact absurd ((reads options settings).mp known) (none_given settings)
    | error fault =>
        refine ⟨.options (some ruleId) fault, ?_, rfl⟩
        simp only [refuses options keyed fault known, Bool.false_eq_true, if_false]

end Readers

end Options

/-! ## What the options of each rule give -/

open Options (Hold Sets writeTexts Judges Refuses table_eq_ok_iff boolean_eq_ok_iff
  integer_eq_ok_iff)

variable {options : Value}

namespace Emoji

def Gives (options : Value) (settings : Settings) : Prop :=
  ∃ entries, Hold ["allow"] options entries ∧ Sets entries "allow" writeTexts [] settings.allow

theorem read_eq_ok_iff {settings : Settings} :
    Settings.read options = .ok settings ↔ Gives options settings := by
  obtain ⟨allow⟩ := settings
  rw [Settings.read, bind_eq_ok_iff]
  simp only [table_eq_ok_iff, Gives, Sets]
  refine exists_congr fun entries => and_congr_right fun _ => ?_
  cases entries.get? "allow" with
  | none => simp [pure, Except.pure, eq_comm]
  | some value =>
      cases value with
      | list items =>
          simp only [writeTexts, Value.list.injEq, ← Options.texts?_eq_some_iff]
          cases Options.texts? items <;>
            simp [pure, Except.pure, throw, throwThe, MonadExceptOf.throw]
      | _ => simp [throw, throwThe, MonadExceptOf.throw, writeTexts]

theorem read_refuses (keyed : options.IsTextKeyed) : Refuses (Settings.read options) := by
  refine (Options.table_refuses _ keyed).bind fun entries => ?_
  split
  · exact .ok _
  · split
    · exact .ok _
    · exact .error rfl
  · exact .error rfl

end Emoji

namespace TrailingSpace

def Gives (options : Value) (settings : Settings) : Prop :=
  ∃ entries, Hold ["skip_blank_lines", "keep_hard_breaks"] options entries ∧
    Sets entries "skip_blank_lines" .bool false settings.skipBlankLines ∧
    Sets entries "keep_hard_breaks" .bool false settings.keepHardBreaks

theorem read_eq_ok_iff {settings : Settings} :
    Settings.read options = .ok settings ↔ Gives options settings := by
  obtain ⟨skipBlankLines, keepHardBreaks⟩ := settings
  simp only [Settings.read, bind_eq_ok_iff, table_eq_ok_iff, boolean_eq_ok_iff, Gives]
  refine exists_congr fun entries => and_congr_right fun _ => ?_
  simp [pure, Except.pure]

theorem read_refuses (keyed : options.IsTextKeyed) : Refuses (Settings.read options) :=
  (Options.table_refuses _ keyed).bind fun entries =>
    (Options.boolean_refuses entries _ false).bind fun _ =>
    (Options.boolean_refuses entries _ false).bind fun _ => .ok _

end TrailingSpace

namespace SentenceLength

def Gives (options : Value) (maximum : Int) : Prop :=
  ∃ entries, Hold ["max"] options entries ∧ Sets entries "max" .int 100 maximum ∧ 1 ≤ maximum

theorem read_eq_ok_iff {maximum : Int} :
    readMaximum options = .ok maximum ↔ Gives options maximum := by
  have allowed : 1 ≤ defaultMaximum := by decide
  simp only [readMaximum, bind_eq_ok_iff, table_eq_ok_iff, integer_eq_ok_iff allowed]
  rfl

theorem read_refuses (keyed : options.IsTextKeyed) : Refuses (readMaximum options) :=
  (Options.table_refuses _ keyed).bind fun entries =>
    Options.integer_refuses entries _ 1 defaultMaximum rfl

end SentenceLength

namespace Marker

def Gives (options : Value) (settings : Settings) : Prop :=
  ∃ entries, Hold ["terms", "ignore_case"] options entries ∧
    (Sets entries "terms" writeTexts ["TODO", "FIXME"] settings.terms ∧
      settings.terms ≠ [] ∧ ∀ term ∈ settings.terms, term ≠ "") ∧
    Sets entries "ignore_case" .bool false settings.ignoreCase

theorem readTerms_eq_ok_iff {entries : Entries} {terms : List String} :
    Settings.readTerms (entries.get? "terms") = .ok terms ↔
      Sets entries "terms" writeTexts ["TODO", "FIXME"] terms ∧ terms ≠ [] ∧
        ∀ term ∈ terms, term ≠ "" := by
  rw [Sets]
  cases entries.get? "terms" with
  | none =>
      simp only [Settings.readTerms, Except.ok.injEq]
      constructor
      · rintro rfl
        exact ⟨rfl, by decide⟩
      · exact fun both => both.1.symm
  | some value =>
      cases value with
      | list items =>
          simp only [Settings.readTerms, writeTexts, Value.list.injEq, ← Options.texts?_eq_some_iff]
          cases Options.texts? items with
          | none => simp
          | some texts =>
              have proper : (texts.isEmpty || texts.any (·.isEmpty)) = false ↔
                  texts ≠ [] ∧ ∀ term ∈ texts, term ≠ "" := by
                simp [List.isEmpty_eq_false_iff]
              dsimp only
              split
              next empty =>
                have improper := mt proper.mpr (ne_false_of_eq_true empty)
                simp only [reduceCtorEq, Option.some.injEq, false_iff]
                rintro ⟨rfl, fits⟩
                exact improper fits
              next filled =>
                have fits := proper.mp (Bool.eq_false_iff.mpr filled)
                simp only [Except.ok.injEq, Option.some.injEq]
                exact ⟨fun same => ⟨same, same ▸ fits⟩, fun both => both.1⟩
      | _ => simp [Settings.readTerms, writeTexts]

theorem readTerms_refuses (value : Option Value) : Refuses (Settings.readTerms value) := by
  rw [Settings.readTerms.eq_def]
  split
  · exact .ok _
  · split
    · split
      · exact .error rfl
      · exact .ok _
    · exact .error rfl
  · exact .error rfl

theorem read_eq_ok_iff {settings : Settings} :
    Settings.read options = .ok settings ↔ Gives options settings := by
  obtain ⟨terms, ignoreCase⟩ := settings
  simp only [Settings.read, bind_eq_ok_iff, table_eq_ok_iff, readTerms_eq_ok_iff,
    boolean_eq_ok_iff, Gives]
  refine exists_congr fun entries => and_congr_right fun _ => ?_
  simp [pure, Except.pure]

theorem read_refuses (keyed : options.IsTextKeyed) : Refuses (Settings.read options) :=
  (Options.table_refuses _ keyed).bind fun entries => (readTerms_refuses _).bind fun _ =>
    (Options.boolean_refuses entries _ false).bind fun _ => .ok _

end Marker

namespace Duplicate

def Gives (options : Value) (least : Int) : Prop :=
  ∃ entries, Hold ["min_length"] options entries ∧
    Sets entries "min_length" .int 1 least ∧ 0 ≤ least

theorem read_eq_ok_iff {least : Int} : readLength options = .ok least ↔ Gives options least := by
  have allowed : 0 ≤ defaultLength := by decide
  simp only [readLength, bind_eq_ok_iff, table_eq_ok_iff, integer_eq_ok_iff allowed]
  rfl

theorem read_refuses (keyed : options.IsTextKeyed) : Refuses (readLength options) :=
  (Options.table_refuses _ keyed).bind fun entries =>
    Options.integer_refuses entries _ 0 defaultLength rfl

end Duplicate

/-- Each of the built-in rules makes its check just of options that hold known keys only, with
values of the right kinds, and of the settings that they give: the values in the table, and the
defaults for keys that are missing. All other options whose keys are texts it refuses as invalid
options, and fails in no other way. -/
theorem built_in_options_are_judged :
    Judges Emoji.rule.prepare Emoji.Gives
      (fun settings => Options.documentCheck settings.value (Emoji.find settings)) ∧
    Judges TrailingSpace.rule.prepare TrailingSpace.Gives
      (fun settings => Options.documentCheck settings.value (TrailingSpace.find settings)) ∧
    Judges SentenceLength.rule.prepare SentenceLength.Gives
      (fun maximum =>
        ⟨.int maximum, fun context document =>
          (SentenceLength.find maximum context document).map (·.map .proper),
          fun _ _ => true⟩) ∧
    Judges Marker.rule.prepare Marker.Gives
      (fun settings => Options.documentCheck settings.value (Marker.find settings)) ∧
    Judges Duplicate.rule.prepare Duplicate.Gives
      (fun least =>
        ⟨.int least, fun context documents =>
          .ok ((Duplicate.find least context documents).map fun entry =>
            (entry.1, entry.2.map .proper))⟩) :=
  ⟨Options.judges_of_read (fun _ _ => Emoji.read_eq_ok_iff) (fun _ => Emoji.read_refuses) _ _,
    Options.judges_of_read (fun _ _ => TrailingSpace.read_eq_ok_iff)
      (fun _ => TrailingSpace.read_refuses) _ _,
    Options.judges_of_read (fun _ _ => SentenceLength.read_eq_ok_iff)
      (fun _ => SentenceLength.read_refuses) _ _,
    Options.judges_of_read (fun _ _ => Marker.read_eq_ok_iff) (fun _ => Marker.read_refuses) _ _,
    Options.judges_of_read (fun _ _ => Duplicate.read_eq_ok_iff)
      (fun _ => Duplicate.read_refuses) _ _⟩

theorem one_term_is_given_and_a_boolean_maximum_refused :
    Marker.rule.prepare (.table [("terms", .list [.string "HACK"])]) =
        .ok (Options.documentCheck (Marker.Settings.value ⟨["HACK"], false⟩)
          (Marker.find ⟨["HACK"], false⟩)) ∧
      ∃ fault, SentenceLength.rule.prepare (.table [("max", .bool true)]) = .error fault ∧
        fault.kind = "InvalidOptionsError" := by
  obtain ⟨-, -, sentences, markers, -⟩ := built_in_options_are_judged
  constructor
  · refine (markers.accepts_iff _ _).mpr
      ⟨⟨["HACK"], false⟩, ⟨[("terms", .list [.string "HACK"])], ?_, ?_, rfl⟩, rfl⟩
    · exact .inr ⟨rfl, fun key member =>
        ⟨"terms", List.mem_cons_self, List.mem_singleton.mp member⟩⟩
    · exact ⟨rfl, by decide, by decide⟩
  · refine sentences.refuses _ ?_ ?_
    · rintro maximum ⟨entries, held, set, -⟩
      obtain ⟨(absent | absent), -⟩ | ⟨same, -⟩ := held
      · cases absent
      · cases absent
      · cases same
        cases set
    · rintro entries same key member
      cases same
      exact ⟨"max", List.mem_singleton.mp member⟩

end ProseLinter
