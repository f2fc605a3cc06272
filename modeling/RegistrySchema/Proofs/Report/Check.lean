import RegistrySchema.Proofs.Report.Entries
import RegistrySchema.Report.Check

/-!
# Reports without errors

What the records of a schema have to be for a report of them to be free of errors
(`Schema.Consistent`), and what a check finds then: one warning for each property without a type,
in the order of the lines. That no name has two records need not be asked for, since both tables
of a schema are catalogs.
-/

namespace RegistrySchema

/-- Every name that the records of a schema refer to has a record where the check looks for
one. -/
structure Schema.Consistent (schema : Schema) : Prop where
  /-- Enums that properties are tagged with. -/
  enums_defined : ∀ r ∈ schema.blocks, ∀ pair ∈ r.properties, ∀ name, pair.2 = .named name →
    name ∈ schema.enums.keys
  /-- Classes of entities. -/
  sources_defined : ∀ r ∈ schema.entities, ∀ source, r.source = some source →
    source ∈ schema.classes.keys
  /-- No chain names a class twice. -/
  chains_nodup : ∀ r ∈ schema.classRecords, r.ancestors.Nodup
  /-- Ancestors, in the chain of a class that some entity has. -/
  chains_defined : ∀ r ∈ schema.classRecords,
    r.source ∈ schema.entities.filterMap EntityRecord.source →
      ∀ ancestor ∈ r.ancestors, ancestor ∈ schema.classes.keys

namespace Report

/-- The warnings that a report calls for: one for each property without a type. -/
def reviews (report : Report) : List Diagnostic :=
  report.blocks.flatMap fun block =>
    (block.record.properties.filter fun pair => decide (pair.2 = .unclassified)).map fun pair =>
      ((Diagnostic.ofKind .unclassifiedProperty).about
        (block.record.name ++ "." ++ pair.1)).withSpan block.span

/-! ## One pass at a time -/

/-- If the enums of a block have records, only its properties without a type are found. -/
theorem blockFindings_eq_map {enums : List String} {block : Located BlockRecord}
    (h : ∀ pair ∈ block.record.properties, ∀ name, pair.2 = .named name → name ∈ enums) :
    blockFindings enums block =
      (block.record.properties.filter fun pair => decide (pair.2 = .unclassified)).map fun pair =>
        ((Diagnostic.ofKind .unclassifiedProperty).about
          (block.record.name ++ "." ++ pair.1)).withSpan block.span := by
  obtain ⟨⟨owner, properties⟩, span, number⟩ := block
  simp only [blockFindings]
  -- A finding depends on the block only by its name, so its properties can be taken apart.
  induction properties with
  | nil => rfl
  | cons pair properties ih =>
    obtain ⟨hpair, hproperties⟩ := List.forall_mem_cons.1 h
    obtain ⟨property, tag⟩ := pair
    cases tag with
    | u8 => exact ih hproperties
    | bool => exact ih hproperties
    | named name =>
      have hnone : propertyFinding? enums ⟨owner, (property, .named name) :: properties⟩
          (property, .named name) = none := if_pos (hpair name rfl)
      rw [List.filterMap_cons_none hnone]
      exact ih hproperties
    | unclassified => exact congrArg (List.cons _) (ih hproperties)

/-- Distinct enum names make no finding. -/
theorem enumFindings_eq_nil {seen : List String} {enums : List (Located EnumRecord)}
    (hseen : ∀ enum ∈ enums, enum.record.name ∉ seen)
    (hnodup : (enums.map fun enum => enum.record.name).Nodup) : enumFindings seen enums = [] := by
  induction enums generalizing seen with
  | nil => rfl
  | cons enum enums ih =>
    obtain ⟨henum, henums⟩ := List.forall_mem_cons.1 hseen
    rw [List.map_cons, List.nodup_cons] at hnodup
    rw [enumFindings, if_neg henum]
    refine ih (fun other hother => ?_) hnodup.2
    rw [List.mem_cons, not_or]
    refine ⟨fun hname => hnodup.1 ?_, henums other hother⟩
    exact hname ▸ List.mem_map_of_mem hother

/-- A class with a record makes no finding. -/
theorem entityFinding?_eq_none {classes : List SourcePath} {entity : Located EntityRecord}
    (h : ∀ source, entity.record.source = some source → source ∈ classes) :
    entityFinding? classes entity = none := by
  unfold entityFinding?
  cases hsource : entity.record.source with
  | none => rfl
  | some source => exact if_pos (h source hsource)

/-- Distinct ancestors make no finding, if those of a closed chain have records. -/
theorem chainFindings_eq_nil {classes : List SourcePath} {closed : Bool}
    {seen ancestors : List SourcePath} (hseen : ∀ a ∈ ancestors, a ∉ seen)
    (hnodup : ancestors.Nodup) (hdefined : closed = true → ∀ a ∈ ancestors, a ∈ classes) :
    chainFindings classes closed seen ancestors = [] := by
  induction ancestors generalizing seen with
  | nil => rfl
  | cons ancestor ancestors ih =>
    obtain ⟨hfirst, hothers⟩ := List.forall_mem_cons.1 hseen
    rw [List.nodup_cons] at hnodup
    have hknown : ¬ (closed && decide (ancestor ∉ classes)) = true := by
      rw [Bool.and_eq_true, decide_eq_true_eq]
      rintro ⟨hclosed, hout⟩
      exact hout (hdefined hclosed ancestor List.mem_cons_self)
    rw [chainFindings, if_neg hfirst, if_neg hknown]
    refine ih (fun a ha => ?_) hnodup.2 fun hclosed a ha =>
      hdefined hclosed a (List.mem_cons_of_mem ancestor ha)
    rw [List.mem_cons, not_or]
    exact ⟨fun heq => hnodup.1 (heq ▸ ha), hothers a ha⟩

/-- Distinct classes with such chains make no finding. -/
theorem classFindings_eq_nil {concrete classes seen : List SourcePath}
    {entries : List (Located ClassRecord)}
    (hseen : ∀ entry ∈ entries, entry.record.source ∉ seen)
    (hnodup : (entries.map fun entry => entry.record.source).Nodup)
    (hchain : ∀ entry ∈ entries, entry.record.ancestors.Nodup)
    (hdefined : ∀ entry ∈ entries, entry.record.source ∈ concrete →
      ∀ a ∈ entry.record.ancestors, a ∈ classes) :
    classFindings concrete classes seen entries = [] := by
  induction entries generalizing seen with
  | nil => rfl
  | cons entry entries ih =>
    obtain ⟨hfirst, hothers⟩ := List.forall_mem_cons.1 hseen
    obtain ⟨hchainFirst, hchain⟩ := List.forall_mem_cons.1 hchain
    obtain ⟨hdefinedFirst, hdefined⟩ := List.forall_mem_cons.1 hdefined
    rw [List.map_cons, List.nodup_cons] at hnodup
    have hnone : chainFindings classes (decide (entry.record.source ∈ concrete)) []
        entry.record.ancestors = [] :=
      chainFindings_eq_nil (fun _ _ => List.not_mem_nil) hchainFirst fun hclosed =>
        hdefinedFirst (of_decide_eq_true hclosed)
    have hrest : classFindings concrete classes (entry.record.source :: seen) entries = [] := by
      refine ih (fun other hother => ?_) hnodup.2 hchain hdefined
      rw [List.mem_cons, not_or]
      refine ⟨fun hsource => hnodup.1 ?_, hothers other hother⟩
      exact hsource ▸ List.mem_map_of_mem hother
    -- Neither a repeated class, nor its chain, nor the classes behind it.
    rw [classFindings, if_neg hfirst, hnone, hrest]
    rfl

/-! ## All passes -/

theorem enumNames_of_lists {report : Report} {schema : Schema} (h : report.Lists schema) :
    report.enumNames = schema.enums.keys := by
  have hnames := congrArg (List.map EnumRecord.name) h.enums
  rw [List.map_map] at hnames
  refine hnames.trans ?_
  simp [Schema.enumRecords, Catalog.keys, Function.comp_def]

theorem definedClasses_of_lists {report : Report} {schema : Schema} (h : report.Lists schema) :
    report.definedClasses = schema.classes.keys := by
  have hsources := congrArg (List.map ClassRecord.source) h.classes
  rw [List.map_map] at hsources
  refine hsources.trans ?_
  simp [Schema.classRecords, Catalog.keys, Function.comp_def]

theorem concreteClasses_of_lists {report : Report} {schema : Schema} (h : report.Lists schema) :
    report.concreteClasses = schema.entities.filterMap EntityRecord.source := by
  rw [← h.entities, List.filterMap_map]
  rfl

/-- A report of a consistent schema only calls for reviews. -/
theorem check_of_consistent {report : Report} {schema : Schema} (hlists : report.Lists schema)
    (h : schema.Consistent) : report.check = report.reviews := by
  have hnames := enumNames_of_lists hlists
  have hclasses := definedClasses_of_lists hlists
  have hblocks : report.blocks.flatMap (blockFindings report.enumNames) = report.reviews := by
    refine List.flatMap_congr fun block hblock => ?_
    refine blockFindings_eq_map fun pair hpair name htag => ?_
    have hrecord : block.record ∈ schema.blocks := hlists.blocks ▸ List.mem_map_of_mem hblock
    exact hnames ▸ h.enums_defined block.record hrecord pair hpair name htag
  have henums : enumFindings [] report.enums = [] := by
    refine enumFindings_eq_nil (fun _ _ => List.not_mem_nil) ?_
    have hnodup : report.enumNames.Nodup := hnames ▸ schema.enums.nodup
    exact hnodup
  have hentities : report.entities.filterMap (entityFinding? report.definedClasses) = [] := by
    rw [List.filterMap_eq_nil_iff]
    intro entity hentity
    refine entityFinding?_eq_none fun source hsource => ?_
    have hrecord : entity.record ∈ schema.entities :=
      hlists.entities ▸ List.mem_map_of_mem hentity
    exact hclasses ▸ h.sources_defined entity.record hrecord source hsource
  have hlineages : classFindings report.concreteClasses report.definedClasses [] report.classes =
      [] := by
    have hrecord : ∀ entry ∈ report.classes, entry.record ∈ schema.classRecords :=
      fun entry hentry => hlists.classes ▸ List.mem_map_of_mem hentry
    have hnodup : report.definedClasses.Nodup := hclasses ▸ schema.classes.nodup
    refine classFindings_eq_nil (fun _ _ => List.not_mem_nil) hnodup
      (fun entry hentry => h.chains_nodup _ (hrecord entry hentry)) fun entry hentry hsource => ?_
    rw [concreteClasses_of_lists hlists] at hsource
    exact hclasses ▸ h.chains_defined _ (hrecord entry hentry) hsource
  rw [check, hblocks, henums, hentities, hlineages]
  simp only [List.append_nil]

/-- Reviews are warnings. -/
theorem hasErrors_reviews (report : Report) : hasErrors report.reviews = false := by
  rw [hasErrors, List.any_eq_false]
  intro finding hfinding
  simp only [reviews, List.mem_flatMap, List.mem_map] at hfinding
  obtain ⟨block, -, pair, -, rfl⟩ := hfinding
  exact Bool.false_ne_true

end Report

end RegistrySchema
