import Mathlib.Algebra.BigOperators.Group.List.Lemmas
import Mathlib.Algebra.Group.Pi.Lemmas
import Mathlib.Data.Finset.Card
import Mathlib.Tactic.Abel
import RegistrySchema.CommandLine.Run
import RegistrySchema.Proofs.FirstOccurrences

/-!
# How many findings a check makes

The findings of a check counted by kind, for any report: records and ancestors may be repeated,
and names may lead nowhere. Each pass makes findings of one to three kinds, so its tally is a sum
of as many `Pi.single`s.

A repeated ancestor is not looked up again, so a chain has one `undefinedClass` for each
*distinct* ancestor without a record, and one `duplicateAncestor` for each further occurrence.

* `tally_check`: the tally of a check, kind by kind.
* `hasErrors_check_iff`: what a report without errors is.
* `exitCode_run_check`: what that means for the exit code.
-/

namespace RegistrySchema

section Counting

variable {α : Type} [DecidableEq α]

/-- How many members of a list are in `seen` or were met earlier in the list. -/
def repeats (seen xs : List α) : Nat := xs.length - (firstsAfter seen xs).length

/-- How many members of a list are not known. -/
def unknowns (known xs : List α) : Nat := xs.countP fun x => decide (x ∉ known)

theorem repeats_nil (seen : List α) : repeats seen [] = 0 := rfl

theorem repeats_cons_of_mem {seen : List α} {x : α} (h : x ∈ seen) (xs : List α) :
    repeats seen (x :: xs) = 1 + repeats seen xs := by
  have hle := (sublist_firstsAfter seen xs).length_le
  rw [repeats, repeats, firstsAfter_cons_of_mem h, List.length_cons]
  omega

theorem repeats_cons_of_not_mem {seen : List α} {x : α} (h : x ∉ seen) (xs : List α) :
    repeats seen (x :: xs) = repeats (x :: seen) xs := by
  rw [repeats, repeats, firstsAfter_cons_of_not_mem h, List.length_cons, List.length_cons]
  omega

theorem repeats_cons_seen_of_mem {seen : List α} {x : α} (h : x ∈ seen) (xs : List α) :
    repeats (x :: seen) xs = repeats seen xs := by
  have hcongr : firstsAfter (x :: seen) xs = firstsAfter seen xs := by
    refine firstsAfter_congr (fun y => ?_) xs
    rw [List.mem_cons]
    exact or_iff_right_of_imp fun hy => hy ▸ h
  rw [repeats, repeats, hcongr]

theorem toFinset_firsts (xs : List α) : (firsts xs).toFinset = xs.toFinset := by
  ext x
  rw [List.mem_toFinset, List.mem_toFinset, mem_firsts]

/-- What is repeated is what there is beyond the distinct members. -/
theorem repeats_eq (xs : List α) : repeats [] xs = xs.length - xs.toFinset.card := by
  -- The first occurrences are the distinct members.
  have hnodup : (firsts xs).Nodup := nodup_firstsAfter [] xs
  rw [← toFinset_firsts, List.toFinset_card_of_nodup hnodup]
  rfl

theorem repeats_eq_zero_iff {xs : List α} : repeats [] xs = 0 ↔ xs.Nodup := by
  have hle := List.toFinset_card_le xs
  have hcard : xs.toFinset.card = xs.length ↔ xs.Nodup :=
    Multiset.toFinset_card_eq_card_iff_nodup (m := (xs : Multiset α))
  rw [repeats_eq, ← hcard]
  omega

theorem unknowns_nil (known : List α) : unknowns known [] = 0 := rfl

theorem unknowns_cons_of_mem {known : List α} {x : α} (h : x ∈ known) (xs : List α) :
    unknowns known (x :: xs) = unknowns known xs :=
  List.countP_cons_of_neg (by simpa using h)

theorem unknowns_cons_of_not_mem {known : List α} {x : α} (h : x ∉ known) (xs : List α) :
    unknowns known (x :: xs) = 1 + unknowns known xs := by
  rw [unknowns, List.countP_cons_of_pos (by simpa using h), Nat.add_comm]
  rfl

theorem unknowns_append (known xs ys : List α) :
    unknowns known (xs ++ ys) = unknowns known xs + unknowns known ys :=
  List.countP_append

theorem unknowns_eq_zero_iff {known xs : List α} :
    unknowns known xs = 0 ↔ ∀ x ∈ xs, x ∈ known := by
  simp [unknowns]

/-- First occurrences that are not known, counted as distinct members. -/
theorem unknowns_firsts (known xs : List α) :
    unknowns known (firsts xs) = (xs.toFinset \ known.toFinset).card := by
  have hnodup : ((firsts xs).filter fun x => decide (x ∉ known)).Nodup :=
    (nodup_firstsAfter [] xs).filter _
  rw [unknowns, List.countP_eq_length_filter, ← List.toFinset_card_of_nodup hnodup]
  congr 1
  ext x
  simp [mem_firsts]

end Counting

namespace Report

/-- How many findings there are of each kind. -/
def tally (findings : List Diagnostic) (kind : DiagnosticKind) : Nat :=
  findings.countP fun finding => decide (finding.kind = kind)

/-- The tags of all block properties. -/
def tags (report : Report) : List TypeTag :=
  report.blocks.flatMap fun block => block.record.properties.map Prod.snd

/-- The enum names that tags give. -/
def enumTags (tags : List TypeTag) : List String := tags.filterMap TypeTag.enumName?

/-- How many findings of each kind a report calls for. -/
def multiplicity (report : Report) : DiagnosticKind → Nat
  | .unclassifiedProperty => report.tags.count .unclassified
  | .undefinedEnum => unknowns report.enumNames (enumTags report.tags)
  | .duplicateEnum => report.enums.length - report.enumNames.toFinset.card
  | .duplicateClass => report.classes.length - report.definedClasses.toFinset.card
  | .duplicateAncestor =>
    (report.classes.map fun entry =>
      entry.record.ancestors.length - entry.record.ancestors.toFinset.card).sum
  | .undefinedClass =>
    unknowns report.definedClasses report.concreteClasses
      + ((report.classes.filter fun entry =>
          decide (entry.record.source ∈ report.concreteClasses)).map fun entry =>
            (entry.record.ancestors.toFinset \ report.definedClasses.toFinset).card).sum
  | .enumConflict | .instantiationEmpty => 0

/-! ## Tallies -/

theorem tally_nil : tally [] = 0 := rfl

theorem tally_cons (kind : DiagnosticKind) {finding : Diagnostic} (h : finding.kind = kind)
    (findings : List Diagnostic) :
    tally (finding :: findings) = Pi.single kind 1 + tally findings := by
  funext other
  by_cases hother : kind = other
  · subst hother
    simp [tally, h, Nat.add_comm]
  · simp [tally, h, hother]

theorem tally_append (findings others : List Diagnostic) :
    tally (findings ++ others) = tally findings + tally others :=
  funext fun _ => List.countP_append

/-- The place of a finding does not count. -/
theorem tally_map_withSpan (findings : List Diagnostic) (span : Span) :
    tally (findings.map (·.withSpan span)) = tally findings := by
  funext kind
  rw [tally, List.countP_map]
  rfl

/-! ## Passes -/

theorem tally_properties (enums : List String) (block : BlockRecord)
    (pairs : List (String × TypeTag)) :
    tally (pairs.filterMap (propertyFinding? enums block)) =
      Pi.single .unclassifiedProperty ((pairs.map Prod.snd).count .unclassified) +
        Pi.single .undefinedEnum (unknowns enums (enumTags (pairs.map Prod.snd))) := by
  -- Each tag counts on at most one side: without a type, or as a name without a record.
  induction pairs with
  | nil => simp [tally_nil, enumTags, unknowns_nil]
  | cons pair pairs ih =>
    obtain ⟨property, tag⟩ := pair
    rw [List.map_cons]
    cases tag with
    | u8 =>
      rw [List.filterMap_cons_none rfl, List.count_cons_of_ne (by simp), ih]
      rfl
    | bool =>
      rw [List.filterMap_cons_none rfl, List.count_cons_of_ne (by simp), ih]
      rfl
    | unclassified =>
      have hsome : propertyFinding? enums block (property, .unclassified) =
          some ((Diagnostic.ofKind .unclassifiedProperty).about (block.name ++ "." ++ property)) :=
        rfl
      have htags : enumTags (.unclassified :: pairs.map Prod.snd) =
          enumTags (pairs.map Prod.snd) := rfl
      rw [List.filterMap_cons_some hsome, tally_cons .unclassifiedProperty rfl, ih,
        List.count_cons_self, htags, Pi.single_add]
      abel
    | named name =>
      have htags : enumTags (.named name :: pairs.map Prod.snd) =
          name :: enumTags (pairs.map Prod.snd) := rfl
      rw [List.count_cons_of_ne (by simp), htags]
      by_cases hname : name ∈ enums
      · have hnone : propertyFinding? enums block (property, .named name) = none := if_pos hname
        rw [List.filterMap_cons_none hnone, ih, unknowns_cons_of_mem hname]
      · have hsome : propertyFinding? enums block (property, .named name) =
            some ((Diagnostic.ofKind .undefinedEnum).about name) := if_neg hname
        rw [List.filterMap_cons_some hsome, tally_cons .undefinedEnum rfl, ih,
          unknowns_cons_of_not_mem hname, Pi.single_add]
        abel

theorem tally_blocks (report : Report) (enums : List String) :
    tally (report.blocks.flatMap (blockFindings enums)) =
      Pi.single .unclassifiedProperty (report.tags.count .unclassified) +
        Pi.single .undefinedEnum (unknowns enums (enumTags report.tags)) := by
  rw [tags]
  induction report.blocks with
  | nil => simp [tally_nil, enumTags, unknowns_nil]
  | cons block blocks ih =>
    have htags : enumTags ((block :: blocks).flatMap fun block =>
          block.record.properties.map Prod.snd) =
        enumTags (block.record.properties.map Prod.snd) ++
          enumTags (blocks.flatMap fun block => block.record.properties.map Prod.snd) := by
      rw [enumTags, List.flatMap_cons, List.filterMap_append, enumTags, enumTags]
    rw [htags, List.flatMap_cons, List.flatMap_cons, tally_append, ih, blockFindings,
      tally_map_withSpan, tally_properties, List.count_append, unknowns_append, Pi.single_add,
      Pi.single_add]
    abel

theorem tally_enumFindings (seen : List String) (enums : List (Located EnumRecord)) :
    tally (enumFindings seen enums) =
      Pi.single .duplicateEnum (repeats seen (enums.map (·.record.name))) := by
  induction enums generalizing seen with
  | nil => simp [enumFindings, tally_nil, repeats_nil]
  | cons enum enums ih =>
    rw [enumFindings, List.map_cons]
    by_cases hseen : enum.record.name ∈ seen
    · rw [if_pos hseen, tally_cons .duplicateEnum rfl, ih, repeats_cons_of_mem hseen, Pi.single_add]
    · rw [if_neg hseen, ih, repeats_cons_of_not_mem hseen]

theorem tally_entities (classes : List SourcePath) (entities : List (Located EntityRecord)) :
    tally (entities.filterMap (entityFinding? classes)) =
      Pi.single .undefinedClass (unknowns classes (entities.filterMap (·.record.source))) := by
  induction entities with
  | nil => simp [tally_nil, unknowns_nil]
  | cons entity entities ih =>
    obtain ⟨⟨name, source⟩, span, number⟩ := entity
    cases source with
    | none => rwa [List.filterMap_cons_none rfl, List.filterMap_cons_none rfl]
    | some source =>
      have hcons : (⟨⟨name, some source⟩, span, number⟩ :: entities).filterMap
            (fun entity : Located EntityRecord => entity.record.source) =
          source :: entities.filterMap (·.record.source) := rfl
      rw [hcons]
      by_cases hdefined : source ∈ classes
      · have hnone : entityFinding? classes ⟨⟨name, some source⟩, span, number⟩ = none :=
          if_pos hdefined
        rw [List.filterMap_cons_none hnone, ih, unknowns_cons_of_mem hdefined]
      · have hsome : entityFinding? classes ⟨⟨name, some source⟩, span, number⟩ =
            some ((undefinedClass source).withSpan span) := if_neg hdefined
        rw [List.filterMap_cons_some hsome, tally_cons .undefinedClass rfl, ih,
          unknowns_cons_of_not_mem hdefined, Pi.single_add]

/-- Ancestors that were seen only count as repeated, others only the first time as undefined. -/
theorem tally_chainFindings (classes : List SourcePath) (closed : Bool)
    (seen ancestors : List SourcePath) :
    tally (chainFindings classes closed seen ancestors) =
      Pi.single .duplicateAncestor (repeats seen ancestors) +
        Pi.single .undefinedClass
          (if closed then unknowns classes (firstsAfter seen ancestors) else 0) := by
  -- The three branches of the pass: seen before, open or defined, undefined.
  induction ancestors generalizing seen with
  | nil => simp [chainFindings, tally_nil, repeats_nil, firstsAfter, unknowns_nil]
  | cons ancestor ancestors ih =>
    rw [chainFindings]
    by_cases hseen : ancestor ∈ seen
    · rw [if_pos hseen, tally_cons .duplicateAncestor rfl, ih, repeats_cons_of_mem hseen,
        firstsAfter_cons_of_mem hseen, Pi.single_add, add_assoc]
    · rw [if_neg hseen, repeats_cons_of_not_mem hseen, firstsAfter_cons_of_not_mem hseen]
      cases closed with
      | false =>
        rw [if_neg (by simp), ih]
        rfl
      | true =>
        by_cases hdefined : ancestor ∈ classes
        · rw [if_neg (by simpa using hdefined), ih, unknowns_cons_of_mem hdefined]
        · rw [if_pos (by simpa using hdefined), tally_cons .undefinedClass rfl, ih,
            unknowns_cons_of_not_mem hdefined, if_pos rfl, if_pos rfl, Pi.single_add]
          abel

theorem tally_classFindings (concrete classes seen : List SourcePath)
    (entries : List (Located ClassRecord)) :
    tally (classFindings concrete classes seen entries) =
      Pi.single .duplicateClass (repeats seen (entries.map (·.record.source))) +
        Pi.single .duplicateAncestor
          (entries.map fun entry => repeats [] entry.record.ancestors).sum +
        Pi.single .undefinedClass
          ((entries.filter fun entry => decide (entry.record.source ∈ concrete)).map fun entry =>
            unknowns classes (firsts entry.record.ancestors)).sum := by
  induction entries generalizing seen with
  | nil => simp [classFindings, tally_nil, repeats_nil]
  | cons entry entries ih =>
    -- The class itself: whether it was seen or not, it counts as seen from here on.
    have hrepeated : tally (if entry.record.source ∈ seen then
          [(Diagnostic.ofKind .duplicateClass).about entry.record.source.text] else []) +
        Pi.single .duplicateClass
          (repeats (entry.record.source :: seen) (entries.map (·.record.source))) =
        Pi.single .duplicateClass (repeats seen
          (entry.record.source :: entries.map (·.record.source))) := by
      by_cases hseen : entry.record.source ∈ seen
      · rw [if_pos hseen, tally_cons .duplicateClass rfl, tally_nil, add_zero,
          repeats_cons_seen_of_mem hseen, repeats_cons_of_mem hseen, Pi.single_add]
      · rw [if_neg hseen, tally_nil, zero_add, repeats_cons_of_not_mem hseen]
    -- Its chain: undefined ancestors count if the class is that of an entity.
    have hundefined : (((entry :: entries).filter fun entry =>
          decide (entry.record.source ∈ concrete)).map fun entry =>
            unknowns classes (firsts entry.record.ancestors)).sum =
        (if decide (entry.record.source ∈ concrete) then
          unknowns classes (firsts entry.record.ancestors) else 0) +
          ((entries.filter fun entry => decide (entry.record.source ∈ concrete)).map fun entry =>
            unknowns classes (firsts entry.record.ancestors)).sum := by
      by_cases hconcrete : entry.record.source ∈ concrete <;> simp [hconcrete]
    rw [classFindings, tally_append, tally_map_withSpan, tally_append, tally_chainFindings, ih,
      List.map_cons, ← hrepeated, List.map_cons, List.sum_cons, hundefined, Pi.single_add,
      Pi.single_add, firsts]
    abel

/-! ## All passes -/

/-- A check makes as many findings of each kind as the report calls for. -/
theorem tally_check (report : Report) : tally report.check = report.multiplicity := by
  -- Four passes, and undefined classes are found by two of them.
  rw [check, tally_append, tally_append, tally_append, tally_blocks, tally_enumFindings,
    tally_entities, tally_classFindings, repeats_eq, repeats_eq]
  simp only [repeats_eq, unknowns_firsts]
  funext kind
  cases kind <;> simp [multiplicity, enumNames, definedClasses, concreteClasses]

/-! ## Reports without errors -/

/-- What a report has to be to have no errors. -/
structure Sound (report : Report) : Prop where
  /-- Enum tags name enums with a record. -/
  tags_defined : ∀ name, .named name ∈ report.tags → name ∈ report.enumNames
  /-- No enum has two records. -/
  enums_nodup : report.enumNames.Nodup
  /-- No class has two records. -/
  classes_nodup : report.definedClasses.Nodup
  /-- No chain names an ancestor twice. -/
  chains_nodup : ∀ entry ∈ report.classes, entry.record.ancestors.Nodup
  /-- The classes of entities have records. -/
  sources_defined : ∀ source ∈ report.concreteClasses, source ∈ report.definedClasses
  /-- So have the ancestors in the chain of such a class. -/
  chains_defined : ∀ entry ∈ report.classes, entry.record.source ∈ report.concreteClasses →
    ∀ ancestor ∈ entry.record.ancestors, ancestor ∈ report.definedClasses

theorem multiplicity_undefinedEnum_eq_zero_iff {report : Report} :
    report.multiplicity .undefinedEnum = 0 ↔
      ∀ name, .named name ∈ report.tags → name ∈ report.enumNames := by
  have hmem : ∀ name, name ∈ enumTags report.tags ↔ .named name ∈ report.tags := by
    intro name
    rw [enumTags, List.mem_filterMap]
    constructor
    · rintro ⟨tag, htag, hname⟩
      cases tag with
      | named found => cases hname; exact htag
      | u8 | bool | unclassified => cases hname
    · exact fun htag => ⟨_, htag, rfl⟩
  rw [multiplicity, unknowns_eq_zero_iff]
  simp only [hmem]

theorem multiplicity_duplicateEnum_eq_zero_iff {report : Report} :
    report.multiplicity .duplicateEnum = 0 ↔ report.enumNames.Nodup := by
  rw [← repeats_eq_zero_iff, repeats_eq, enumNames, List.length_map]
  rfl

theorem multiplicity_duplicateClass_eq_zero_iff {report : Report} :
    report.multiplicity .duplicateClass = 0 ↔ report.definedClasses.Nodup := by
  rw [← repeats_eq_zero_iff, repeats_eq, definedClasses, List.length_map]
  rfl

theorem multiplicity_duplicateAncestor_eq_zero_iff {report : Report} :
    report.multiplicity .duplicateAncestor = 0 ↔
      ∀ entry ∈ report.classes, entry.record.ancestors.Nodup := by
  simp only [multiplicity, ← repeats_eq, List.sum_eq_zero_iff_forall_eq_nat, List.forall_mem_map,
    repeats_eq_zero_iff]

theorem multiplicity_undefinedClass_eq_zero_iff {report : Report} :
    report.multiplicity .undefinedClass = 0 ↔
      (∀ source ∈ report.concreteClasses, source ∈ report.definedClasses) ∧
        ∀ entry ∈ report.classes, entry.record.source ∈ report.concreteClasses →
          ∀ ancestor ∈ entry.record.ancestors, ancestor ∈ report.definedClasses := by
  simp only [multiplicity, Nat.add_eq_zero_iff, unknowns_eq_zero_iff, ← unknowns_firsts,
    List.sum_eq_zero_iff_forall_eq_nat, List.forall_mem_map, List.mem_filter, decide_eq_true_eq,
    mem_firsts, and_imp]

/-- A collection has nothing of a severity iff there is nothing of any kind of that severity. -/
theorem any_severity_eq_false_iff (findings : List Diagnostic) (severity : Severity) :
    (findings.any fun finding => decide (finding.severity = severity)) = false ↔
      ∀ kind : DiagnosticKind, kind.severity = severity → tally findings kind = 0 := by
  simp only [List.any_eq_false, decide_eq_true_eq, tally, List.countP_eq_zero]
  constructor
  · rintro h kind hkind finding hfinding rfl
    exact h finding hfinding hkind
  · exact fun h finding hfinding hseverity => h finding.kind hseverity finding hfinding rfl

/-- A check finds no error iff the report is sound. -/
theorem hasErrors_check_iff {report : Report} : hasErrors report.check = false ↔ report.Sound := by
  -- A check makes findings of five kinds of errors, and one field of soundness excludes each.
  have htally := any_severity_eq_false_iff report.check .error
  rw [hasErrors]
  refine htally.trans ?_
  rw [tally_check]
  constructor
  · intro h
    have hclasses := multiplicity_undefinedClass_eq_zero_iff.1 (h .undefinedClass rfl)
    exact {
      tags_defined := multiplicity_undefinedEnum_eq_zero_iff.1 (h .undefinedEnum rfl)
      enums_nodup := multiplicity_duplicateEnum_eq_zero_iff.1 (h .duplicateEnum rfl)
      classes_nodup := multiplicity_duplicateClass_eq_zero_iff.1 (h .duplicateClass rfl)
      chains_nodup := multiplicity_duplicateAncestor_eq_zero_iff.1 (h .duplicateAncestor rfl)
      sources_defined := hclasses.1
      chains_defined := hclasses.2 }
  · intro h kind hkind
    cases kind with
    | enumConflict => rfl
    | undefinedEnum => exact multiplicity_undefinedEnum_eq_zero_iff.2 h.tags_defined
    | duplicateEnum => exact multiplicity_duplicateEnum_eq_zero_iff.2 h.enums_nodup
    | duplicateClass => exact multiplicity_duplicateClass_eq_zero_iff.2 h.classes_nodup
    | duplicateAncestor => exact multiplicity_duplicateAncestor_eq_zero_iff.2 h.chains_nodup
    | undefinedClass =>
      exact multiplicity_undefinedClass_eq_zero_iff.2 ⟨h.sources_defined, h.chains_defined⟩
    | instantiationEmpty | unclassifiedProperty => cases hkind

/-- A check finds nothing to review iff no property is left without a type. -/
theorem hasWarnings_check_iff {report : Report} :
    hasWarnings report.check = false ↔ .unclassified ∉ report.tags := by
  have htally := any_severity_eq_false_iff report.check .warning
  rw [hasWarnings]
  refine htally.trans ?_
  rw [tally_check, ← List.count_eq_zero]
  constructor
  · exact fun h => h .unclassifiedProperty rfl
  · intro h kind hkind
    cases kind with
    | instantiationEmpty => rfl
    | unclassifiedProperty => exact h
    | enumConflict | undefinedEnum | undefinedClass | duplicateEnum | duplicateClass
    | duplicateAncestor => cases hkind

end Report

namespace CommandLine

/-- A report that is read and parsed settles the exit code of its check. -/
theorem exitCode_run_check {path text : String} {manner : Manner} {circumstances : Circumstances}
    {faults : Faults} {fs : FileSystem} {report : Report} (hreach : faults.read = none)
    (hread : fs.readText (.ofText path) = .ok text) (hparse : Report.parse text = .ok report) :
    ((Invocation.check path manner).run circumstances faults fs).1.exitCode = 0 ↔
      report.Sound ∧ (manner.strict = true → .unclassified ∉ report.tags) := by
  have hcontent : (IoError.raise faults.read >>= fun _ => fs.readText (.ofText path)) =
      .ok text := by
    rw [hreach]
    exact hread
  have hpasses : passes manner report.check = true ↔
      report.Sound ∧ (manner.strict = true → .unclassified ∉ report.tags) := by
    rw [← Report.hasErrors_check_iff, ← Report.hasWarnings_check_iff, passes]
    cases manner.strict <;> simp
  have hmanner : (Invocation.check path manner).manner = manner := rfl
  rw [← hpasses, Invocation.run]
  simp only [Invocation.input, hcontent, Invocation.proceed, hparse, checked, hmanner]
  split
  · next h => simp [h]
  · next h => simp [h]

/-- The findings of a check, counted exactly, and what follows for the exit code of a check of a
file: without errors it is a success, if the check is strict only without warnings. -/
theorem tally_check_and_exitCode :
    (∀ (report : Report) (kind : DiagnosticKind),
      Report.tally report.check kind = report.multiplicity kind) ∧
    (∀ (path text : String) (manner : Manner) (circumstances : Circumstances) (faults : Faults)
        (fs : FileSystem) (report : Report), faults.read = none →
      fs.readText (.ofText path) = .ok text → Report.parse text = .ok report →
      (((Invocation.check path manner).run circumstances faults fs).1.exitCode = 0 ↔
        report.Sound ∧ (manner.strict = true → .unclassified ∉ report.tags))) := by
  refine ⟨fun report kind => congrFun (Report.tally_check report) kind, ?_⟩
  intro path text manner circumstances faults fs report hreach hread hparse
  exact exitCode_run_check hreach hread hparse

/-- A chain that names an ancestor without a record twice, in the record of an entity's class, and
another such ancestor in the chain of a class that no entity has. -/
def patchyReport : Report where
  blocks := []
  enums := []
  entities := [⟨⟨"cow", some ⟨"Cow"⟩⟩, ⟨0, 24⟩, 1⟩]
  classes :=
    [⟨⟨⟨"Cow"⟩, [⟨"Beast"⟩, ⟨"Mob"⟩, ⟨"Beast"⟩]⟩, ⟨25, 68⟩, 2⟩,
      ⟨⟨⟨"Mob"⟩, [⟨"Thing"⟩]⟩, ⟨69, 99⟩, 3⟩]

/-- A report with a property that has no type, and nothing else to complain of. -/
def openText : String :=
  "BLOCKINFO --- lamp - hue:TODO face:Face \n\nENUMINFO --- Face - up,down\n"

/-- A file system with one file in its root. -/
def singleFile (name text : String) : FileSystem :=
  ⟨⟨[([name], .file (Text.encode text.toList))], List.nodup_singleton _⟩, []⟩

/-- The ancestor without a record counts once as repeated and once as undefined, the other one not
at all; and a report with nothing but an open property is a failure if the check is strict. -/
theorem tally_check_and_exitCode_patchy :
    (Report.tally patchyReport.check .duplicateAncestor = 1 ∧
      Report.tally patchyReport.check .undefinedClass = 1) ∧
    ∀ manner circumstances,
      ((Invocation.check "report" manner).run circumstances {}
        (singleFile "report" openText)).1.exitCode = 0 ↔ manner.strict = false := by
  obtain ⟨htally, hexit⟩ := tally_check_and_exitCode
  refine ⟨⟨(htally patchyReport _).trans (by decide +kernel),
    (htally patchyReport _).trans (by decide +kernel)⟩, fun manner circumstances => ?_⟩
  let report : Report :=
    ⟨[⟨⟨"lamp", [("hue", .unclassified), ("face", .named "Face")]⟩, ⟨0, 40⟩, 1⟩],
      [⟨⟨"Face", ["up", "down"]⟩, ⟨42, 69⟩, 3⟩], [], []⟩
  have hread : (singleFile "report" openText).readText (.ofText "report") = .ok openText := by
    have hlookup : (singleFile "report" openText).lookup (.ofText "report") =
        .ok (.file (Text.encode openText.toList)) := by decide +kernel
    simp only [FileSystem.readText, hlookup, bind, Except.bind, Text.decode?_encode]
  have hparse : Report.parse openText = .ok report := by decide +kernel
  have hsound : report.Sound := Report.hasErrors_check_iff.1 (by decide +kernel)
  have hopen : .unclassified ∈ report.tags := by decide +kernel
  rw [hexit "report" openText manner circumstances {} _ report rfl hread hparse,
    and_iff_right hsound, imp_not_comm, imp_iff_right hopen, Bool.not_eq_true]

end CommandLine

end RegistrySchema
