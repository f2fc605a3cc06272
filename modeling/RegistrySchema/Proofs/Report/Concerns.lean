import RegistrySchema.Proofs.Report.Places
import RegistrySchema.Proofs.Underlining
import RegistrySchema.Report.Check

/-!
# Which line a finding is about

A check goes through the families one after the other and keeps sets of what it has met; a finding
says nothing but its kind, its message and a span. `Concern` says of a single record what there is
to be found on it, without the check: a name is repeated if a line further up has it. The findings
on a report that was read come in one group for each record, in the order of the lines: all that
concerns the record, with the span of the record's line (`check_eq_flatMap`, `mem_concerns_iff`).
Since the spans of lines are not empty and stay in the text, they are underlined as they are.
-/

namespace RegistrySchema

namespace Report

/-- What is wrong with a record on a line of a report. -/
inductive Concern (report : Report) (line : Nat) : Record → Diagnostic → Prop
  /-- A property has no type. -/
  | unclassifiedProperty {block : BlockRecord} {property : String} :
      (property, .unclassified) ∈ block.properties →
      Concern report line (.block block)
        ((Diagnostic.ofKind .unclassifiedProperty).about (block.name ++ "." ++ property))
  /-- A tag names an enum that no line is about. -/
  | undefinedEnum {block : BlockRecord} {property name : String} :
      (property, .named name) ∈ block.properties → name ∉ report.enumNames →
      Concern report line (.block block) ((Diagnostic.ofKind .undefinedEnum).about name)
  /-- A line further up is about the same enum. -/
  | duplicateEnum {enum : EnumRecord} {earlier : Located EnumRecord} :
      earlier ∈ report.enums → earlier.line < line → earlier.record.name = enum.name →
      Concern report line (.enum enum) ((Diagnostic.ofKind .duplicateEnum).about enum.name)
  /-- No line is about the class of an entity. -/
  | undefinedSource {entity : EntityRecord} {source : SourcePath} :
      entity.source = some source → source ∉ report.definedClasses →
      Concern report line (.entity entity) ((Diagnostic.ofKind .undefinedClass).about source.text)
  /-- A line further up is about the same class. -/
  | duplicateClass {lineage : ClassRecord} {earlier : Located ClassRecord} :
      earlier ∈ report.classes → earlier.line < line → earlier.record.source = lineage.source →
      Concern report line (.lineage lineage)
        ((Diagnostic.ofKind .duplicateClass).about lineage.source.text)
  /-- An ancestor is named more than once. -/
  | duplicateAncestor {lineage : ClassRecord} {ancestor : SourcePath} :
      1 < lineage.ancestors.count ancestor →
      Concern report line (.lineage lineage)
        ((Diagnostic.ofKind .duplicateAncestor).about ancestor.text)
  /-- No line is about an ancestor of a class that some entity has. -/
  | undefinedAncestor {lineage : ClassRecord} {ancestor : SourcePath} :
      lineage.source ∈ report.concreteClasses → ancestor ∈ lineage.ancestors →
      ancestor ∉ report.definedClasses →
      Concern report line (.lineage lineage)
        ((Diagnostic.ofKind .undefinedClass).about ancestor.text)

/-- Whether a line above the given one has a value under a key. -/
def metAbove {α κ : Type} [DecidableEq κ] (key : α → κ) (entries : List (Located α)) (line : Nat)
    (value : κ) : Bool :=
  entries.any fun earlier => decide (earlier.line < line ∧ key earlier.record = value)

/-- The findings on a record, without its span. -/
def concerns (report : Report) (line : Nat) : Record → List Diagnostic
  | .block r => r.properties.filterMap (propertyFinding? report.enumNames r)
  | .enum r =>
    if metAbove EnumRecord.name report.enums line r.name then
      [(Diagnostic.ofKind .duplicateEnum).about r.name] else []
  | .entity r =>
    (r.source.filter fun source => decide (source ∉ report.definedClasses)).toList.map
      undefinedClass
  | .lineage r =>
    (if metAbove ClassRecord.source report.classes line r.source then
      [(Diagnostic.ofKind .duplicateClass).about r.source.text] else []) ++
      chainFindings report.definedClasses (decide (r.source ∈ report.concreteClasses)) []
        r.ancestors

/-! ## Findings on one record -/

theorem metAbove_eq_true_iff {α κ : Type} [DecidableEq κ] {key : α → κ}
    {entries : List (Located α)} {line : Nat} {value : κ} :
    metAbove key entries line value = true ↔
      ∃ earlier ∈ entries, earlier.line < line ∧ key earlier.record = value := by
  simp [metAbove]

theorem propertyFinding?_eq_some_iff {names : List String} {block : BlockRecord}
    {pair : String × TypeTag} {finding : Diagnostic} :
    propertyFinding? names block pair = some finding ↔
      (pair.2 = .unclassified ∧
        finding = (Diagnostic.ofKind .unclassifiedProperty).about (block.name ++ "." ++ pair.1)) ∨
      ∃ name, pair.2 = .named name ∧ name ∉ names ∧
        finding = (Diagnostic.ofKind .undefinedEnum).about name := by
  obtain ⟨property, tag⟩ := pair
  cases tag with
  | unclassified => simp [propertyFinding?, eq_comm]
  | named name => by_cases h : name ∈ names <;> simp [propertyFinding?, h, eq_comm]
  | u8 | bool => simp [propertyFinding?]

/-- An item of a list that was met before, in `seen` or further up in the list. -/
def Again (seen items : List SourcePath) (item : SourcePath) : Prop :=
  item ∈ seen ∧ item ∈ items ∨ 1 < items.count item

theorem again_cons_iff {seen items : List SourcePath} {first item : SourcePath} :
    Again seen (first :: items) item ↔
      item = first ∧ first ∈ seen ∨ Again (first :: seen) items item := by
  have hcount : item ∈ items ↔ 0 < items.count item := List.count_pos_iff.symm
  unfold Again
  by_cases heq : item = first
  · subst heq
    rw [List.count_cons_self]
    simp only [List.mem_cons, true_or, and_true, true_and]
    constructor
    · rintro (h | h)
      · exact Or.inl h
      · exact Or.inr (Or.inl (hcount.2 (by omega)))
    · rintro (h | h | h)
      · exact Or.inl h
      · have hpos := hcount.1 h
        exact Or.inr (by omega)
      · exact Or.inr (by omega)
  · rw [List.count_cons_of_ne (Ne.symm heq)]
    simp [heq]

/-- The findings on a chain are about ancestors that are met again, and in a closed chain about new
ones that are not defined. -/
theorem mem_chainFindings_iff {classes seen ancestors : List SourcePath} {closed : Bool}
    {finding : Diagnostic} :
    finding ∈ chainFindings classes closed seen ancestors ↔
      (∃ ancestor, Again seen ancestors ancestor ∧
        finding = (Diagnostic.ofKind .duplicateAncestor).about ancestor.text) ∨
      closed = true ∧ ∃ ancestor ∈ ancestors, ancestor ∉ seen ∧ ancestor ∉ classes ∧
        finding = undefinedClass ancestor := by
  induction ancestors generalizing seen with
  | nil => simp [chainFindings, Again]
  | cons first ancestors ih =>
    -- Behind the first ancestor it counts as seen, whether or not it was seen before.
    rw [chainFindings]
    split
    · grind [again_cons_iff, Again]
    · split <;> grind [again_cons_iff, Again]

theorem mem_concerns_iff {report : Report} {line : Nat} {record : Record} {finding : Diagnostic} :
    finding ∈ report.concerns line record ↔ Concern report line record finding := by
  cases record with
  | block r =>
    simp only [concerns, List.mem_filterMap, propertyFinding?_eq_some_iff]
    constructor
    · rintro ⟨⟨property, tag⟩, hpair, ⟨rfl, rfl⟩ | ⟨name, rfl, hname, rfl⟩⟩
      · exact .unclassifiedProperty hpair
      · exact .undefinedEnum hpair hname
    · intro h
      cases h with
      | unclassifiedProperty hpair => exact ⟨_, hpair, Or.inl ⟨rfl, rfl⟩⟩
      | undefinedEnum hpair hname => exact ⟨_, hpair, Or.inr ⟨_, rfl, hname, rfl⟩⟩
  | enum r =>
    simp only [concerns, metAbove_eq_true_iff, List.mem_ite_nil_right, List.mem_singleton]
    constructor
    · rintro ⟨⟨earlier, hearlier, hline, hname⟩, rfl⟩
      exact .duplicateEnum hearlier hline hname
    · intro h
      cases h with
      | duplicateEnum hearlier hline hname => exact ⟨⟨_, hearlier, hline, hname⟩, rfl⟩
  | entity r =>
    simp only [concerns, List.mem_map, Option.mem_toList, Option.filter_eq_some_iff,
      decide_eq_true_eq]
    constructor
    · rintro ⟨source, ⟨hsource, hundefined⟩, rfl⟩
      exact .undefinedSource hsource hundefined
    · intro h
      cases h with
      | undefinedSource hsource hundefined => exact ⟨_, ⟨hsource, hundefined⟩, rfl⟩
  | lineage r =>
    simp only [concerns, List.mem_append, metAbove_eq_true_iff, List.mem_ite_nil_right,
      List.mem_singleton, mem_chainFindings_iff, Again, List.not_mem_nil, false_and, false_or,
      not_false_eq_true, true_and, decide_eq_true_eq]
    constructor
    · rintro (⟨⟨earlier, hearlier, hline, hsource⟩, rfl⟩ | ⟨ancestor, hcount, rfl⟩ |
        ⟨hconcrete, ancestor, hancestor, hundefined, rfl⟩)
      · exact .duplicateClass hearlier hline hsource
      · exact .duplicateAncestor hcount
      · exact .undefinedAncestor hconcrete hancestor hundefined
    · intro h
      cases h with
      | duplicateClass hearlier hline hsource =>
        exact Or.inl ⟨⟨_, hearlier, hline, hsource⟩, rfl⟩
      | duplicateAncestor hcount => exact Or.inr (Or.inl ⟨_, hcount, rfl⟩)
      | undefinedAncestor hconcrete hancestor hundefined =>
        exact Or.inr (Or.inr ⟨hconcrete, _, hancestor, hundefined, rfl⟩)

/-! ## Passes -/

section Passes

variable {α κ : Type} [DecidableEq κ] {key : α → κ} {front back : List (Located α)}
  {entry : Located α} {seen : List κ}

/-- Above a line there are the entries in front of it. -/
theorem metAbove_append_cons_iff
    (hlines : (front ++ entry :: back).Pairwise fun earlier later => earlier.line < later.line)
    (value : κ) :
    metAbove key (front ++ entry :: back) entry.line value = true ↔
      value ∈ front.map fun earlier => key earlier.record := by
  obtain ⟨-, hback, hfront⟩ := List.pairwise_append.1 hlines
  rw [metAbove_eq_true_iff, List.mem_map]
  constructor
  · rintro ⟨earlier, hearlier, hline, hkey⟩
    rcases List.mem_append.1 hearlier with hmem | hmem
    · exact ⟨earlier, hmem, hkey⟩
    · -- The entry itself and those behind it are no lines above it.
      rcases List.mem_cons.1 hmem with rfl | hmem
      · exact absurd hline (Nat.lt_irrefl _)
      · exact absurd hline (Nat.lt_asymm ((List.pairwise_cons.1 hback).1 _ hmem))
  · rintro ⟨earlier, hearlier, hkey⟩
    exact ⟨earlier, List.mem_append_left _ hearlier,
      hfront _ hearlier _ List.mem_cons_self, hkey⟩

/-- What a pass has seen are the values of the entries in front. -/
def SeenIn (key : α → κ) (front : List (Located α)) (seen : List κ) : Prop :=
  ∀ value, value ∈ seen ↔ value ∈ front.map fun earlier => key earlier.record

omit [DecidableEq κ] in
theorem SeenIn.concat (h : SeenIn key front seen) :
    SeenIn key (front ++ [entry]) (key entry.record :: seen) := by
  intro value
  rw [List.mem_cons, h, List.map_append, List.mem_append, List.map_singleton, List.mem_singleton]
  exact or_comm

omit [DecidableEq κ] in
theorem SeenIn.concat_of_mem (h : SeenIn key front seen) (hmem : key entry.record ∈ seen) :
    SeenIn key (front ++ [entry]) seen := by
  intro value
  rw [← h.concat, List.mem_cons]
  refine ⟨Or.inr, fun hvalue => hvalue.elim ?_ id⟩
  rintro rfl
  exact hmem

theorem SeenIn.metAbove_iff {entries : List (Located α)} (h : SeenIn key front seen)
    (hlines : entries.Pairwise fun earlier later => earlier.line < later.line)
    (hentries : front ++ entry :: back = entries) (value : κ) :
    metAbove key entries entry.line value = true ↔ value ∈ seen := by
  subst hentries
  rw [metAbove_append_cons_iff hlines, h]

end Passes

/-- The findings on an entry, with its span. -/
def located (report : Report) (entry : Located Record) : List Diagnostic :=
  (report.concerns entry.line entry.record).map (·.withSpan entry.span)

theorem enumFindings_eq_flatMap {report : Report}
    (hlines : report.enums.Pairwise fun earlier later => earlier.line < later.line) :
    enumFindings [] report.enums =
      report.enums.flatMap fun enum => report.located (enum.map .enum) := by
  have hpass : ∀ (back front : List (Located EnumRecord)) (seen : List String),
      front ++ back = report.enums → SeenIn EnumRecord.name front seen →
      enumFindings seen back = back.flatMap fun enum => report.located (enum.map .enum) := by
    intro back
    induction back with
    | nil => exact fun _ _ _ _ => rfl
    | cons enum back ih =>
      intro front seen hentries hseen
      have habove := hseen.metAbove_iff hlines hentries enum.record.name
      rw [List.append_cons] at hentries
      rw [enumFindings, List.flatMap_cons, located, Located.map, concerns]
      split
      · next hmet =>
        rw [if_pos (habove.2 hmet), ih _ seen hentries (hseen.concat_of_mem hmet)]
        rfl
      · next hnew =>
        rw [if_neg (mt habove.1 hnew), ih _ _ hentries hseen.concat]
        rfl
  exact hpass report.enums [] [] rfl fun _ => Iff.rfl

theorem classFindings_eq_flatMap {report : Report}
    (hlines : report.classes.Pairwise fun earlier later => earlier.line < later.line) :
    classFindings report.concreteClasses report.definedClasses [] report.classes =
      report.classes.flatMap fun entry => report.located (entry.map .lineage) := by
  have hpass : ∀ (back front : List (Located ClassRecord)) (seen : List SourcePath),
      front ++ back = report.classes → SeenIn ClassRecord.source front seen →
      classFindings report.concreteClasses report.definedClasses seen back =
        back.flatMap fun entry => report.located (entry.map .lineage) := by
    intro back
    induction back with
    | nil => exact fun _ _ _ _ => rfl
    | cons entry back ih =>
      intro front seen hentries hseen
      have habove := hseen.metAbove_iff hlines hentries entry.record.source
      rw [List.append_cons] at hentries
      rw [classFindings, List.flatMap_cons, ih _ _ hentries hseen.concat, located, Located.map,
        concerns]
      simp only [habove]
  exact hpass report.classes [] [] rfl fun _ => Iff.rfl

/-- The findings of a check, record by record. -/
theorem check_eq_flatMap {report : Report}
    (hlines : report.entries.Pairwise fun earlier later => earlier.line < later.line) :
    report.check = report.entries.flatMap report.located := by
  have hentities : report.entities.filterMap (entityFinding? report.definedClasses) =
      report.entities.flatMap fun entity => report.located (entity.map .entity) := by
    rw [List.filterMap_eq_flatMap_toList]
    refine List.flatMap_congr fun entity _ => ?_
    obtain ⟨⟨name, source⟩, span, number⟩ := entity
    cases source with
    | none => rfl
    | some source =>
      by_cases hdefined : source ∈ report.definedClasses <;>
        simp [entityFinding?, located, Located.map, concerns, hdefined, Option.filter]
  -- The lines of a family are some of all lines, so they grow, too.
  simp only [entries, List.pairwise_append, List.pairwise_map] at hlines
  obtain ⟨⟨⟨-, henums, -⟩, -, -⟩, hclasses, -⟩ := hlines
  rw [check, hentities, enumFindings_eq_flatMap henums, classFindings_eq_flatMap hclasses, entries]
  simp only [List.flatMap_append, List.flatMap_map]
  rfl

/-! ## Places -/

/-- A finding on an entry is what concerns its record, with the entry's span. -/
theorem mem_located_iff {report : Report} {entry : Located Record} {finding : Diagnostic} :
    finding ∈ report.located entry ↔
      ∃ concern, Concern report entry.line entry.record concern ∧
        finding = concern.withSpan entry.span := by
  simp only [located, List.mem_map, mem_concerns_iff, eq_comm]

theorem span_of_mem_located {report : Report} {entry : Located Record} {finding : Diagnostic}
    (h : finding ∈ report.located entry) : finding.span = some entry.span := by
  obtain ⟨concern, -, rfl⟩ := mem_located_iff.1 h
  rfl

theorem underlined_of_mem_entries {source : String} {report : Report}
    (h : parse source = .ok report) {entry : Located Record} (hentry : entry ∈ report.entries) :
    Printer.underlined source entry.span = entry.span := by
  obtain ⟨hstart, hstop⟩ := span_bounds_of_mem_entries h hentry
  exact Span.clamp_eq_self hstart hstop

/-- The findings on a report that was read come in groups, one for each record in the order of the
lines. The group of a record is what concerns it, with the span of its line; so offsets never fall.
Printed under the text that was read, a finding has just that span underlined. -/
theorem check_groups_by_line {source : String} {report : Report} (h : parse source = .ok report) :
    (∃ groups, report.check = groups.flatten ∧
      List.Forall₂ (fun entry group => ∀ finding, finding ∈ group ↔
        ∃ concern, Concern report entry.line entry.record concern ∧
          finding = concern.withSpan entry.span) report.entries groups) ∧
    (report.check.Pairwise fun earlier later =>
      ∀ span ∈ earlier.span, ∀ next ∈ later.span, span.start ≤ next.start) ∧
    ∀ finding ∈ report.check, ∃ entry ∈ report.entries, finding.span = some entry.span ∧
      Printer.underlined source entry.span = entry.span ∧
      ∀ printer : Printer, printer.source = some source →
        printer.print printer.lines finding =
          printer.framed printer.lines entry.span finding := by
  have hpairwise := pairwise_entries h
  have hcheck := check_eq_flatMap (hpairwise.imp And.left)
  refine ⟨⟨report.entries.map report.located, by rw [hcheck, List.flatMap_def], ?_⟩, ?_, ?_⟩
  · rw [List.forall₂_map_right_iff, List.forall₂_same]
    exact fun entry _ finding => mem_located_iff
  · -- Within a group the span is the same, and the groups lie one behind the other.
    rw [hcheck, List.pairwise_flatMap]
    refine ⟨fun entry _ => List.pairwise_of_forall_mem_list fun finding hfinding next hnext => ?_,
      hpairwise.imp_of_mem fun {entry other} hentry _ hbehind finding hfinding next hnext => ?_⟩
    · rw [span_of_mem_located hfinding, span_of_mem_located hnext]
      simp
    · rw [span_of_mem_located hfinding, span_of_mem_located hnext]
      have hstart := (span_bounds_of_mem_entries h hentry).1
      have hstop := hbehind.2
      simp only [Option.mem_def, Option.some.injEq, forall_eq']
      omega
  · intro finding hfinding
    rw [hcheck, List.mem_flatMap] at hfinding
    obtain ⟨entry, hentry, hfinding⟩ := hfinding
    have hspan := span_of_mem_located hfinding
    have hunderlined := underlined_of_mem_entries h hentry
    refine ⟨entry, hentry, hspan, hunderlined, fun printer hsource => ?_⟩
    rw [Printer.print_eq_framed hsource hspan, hunderlined]

/-- Two blocks with the same fault, an enum and a class with two lines each, and an ancestor that is
named twice and has no line. -/
def faulty : String :=
  "BLOCKINFO --- lamp - hue:TODO face:Face \nBLOCKINFO --- bell - face:Face \n\n" ++
    "ENUMINFO --- Axis - x\nENUMINFO --- Axis - y\n\nENTITYINFO --- cow - Cow\n\n" ++
    "ENTITYCLASSINFO --- Cow - Mob,Mob\nENTITYCLASSINFO --- Cow -"

/-- Both blocks have a finding of their own, and of the two lines on one name it is the later. -/
theorem check_groups_by_line_faulty :
    ∃ report, parse faulty = .ok report ∧
      (report.check.map fun finding => (finding.kind, finding.span)) =
        [(.unclassifiedProperty, some ⟨0, 40⟩), (.undefinedEnum, some ⟨0, 40⟩),
          (.undefinedEnum, some ⟨41, 72⟩), (.duplicateEnum, some ⟨96, 117⟩),
          (.undefinedClass, some ⟨145, 178⟩), (.duplicateAncestor, some ⟨145, 178⟩),
          (.duplicateClass, some ⟨179, 204⟩)] ∧
      ∀ finding ∈ report.check, ∃ entry ∈ report.entries, finding.span = some entry.span ∧
        Printer.underlined faulty entry.span = entry.span := by
  let report : Report :=
    ⟨[⟨⟨"lamp", [("hue", .unclassified), ("face", .named "Face")]⟩, ⟨0, 40⟩, 1⟩,
        ⟨⟨"bell", [("face", .named "Face")]⟩, ⟨41, 72⟩, 2⟩],
      [⟨⟨"Axis", ["x"]⟩, ⟨74, 95⟩, 4⟩, ⟨⟨"Axis", ["y"]⟩, ⟨96, 117⟩, 5⟩],
      [⟨⟨"cow", some ⟨"Cow"⟩⟩, ⟨119, 143⟩, 7⟩],
      [⟨⟨⟨"Cow"⟩, [⟨"Mob"⟩, ⟨"Mob"⟩]⟩, ⟨145, 178⟩, 9⟩, ⟨⟨⟨"Cow"⟩, []⟩, ⟨179, 204⟩, 10⟩]⟩
  have hparse : parse faulty = .ok report := by decide +kernel
  obtain ⟨-, -, hplaces⟩ := check_groups_by_line hparse
  refine ⟨report, hparse, by decide +kernel, fun finding hfinding => ?_⟩
  obtain ⟨entry, hentry, hspan, hunderlined, -⟩ := hplaces finding hfinding
  exact ⟨entry, hentry, hspan, hunderlined⟩

end Report

end RegistrySchema
