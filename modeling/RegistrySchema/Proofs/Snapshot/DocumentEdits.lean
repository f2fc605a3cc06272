import Mathlib
import RegistrySchema.Proofs.Snapshot.Edits

/-!
# Documents of one snapshot

Which documents load alike. The changes that do not count are told record by record, from the
constants of an enumerated domain up to a whole snapshot: the order of members, unknown members,
defaults that are written out, and what stands in those fields of a domain that its kind does not
select. After any number of them a document still makes the same snapshot (`ofText_of_edits`).
-/

namespace RegistrySchema.Snapshot

open Json (Doc Key Stop)
open Decoder Decode

/-! ## Constants -/

/-- The members of a constant in another order. -/
inductive ConstantEdit : Nat → Doc → Doc → Prop
  | permute {depth : Nat} {members members' : List (Key × Doc)} {stop : Stop}
      (h : members.Perm members') :
      ConstantEdit depth (.object members stop) (.object members' stop)

theorem membersContentFlaw?_eq_none_iff {depth : Nat} {stop : Stop} {members : List (Key × Doc)} :
    membersContentFlaw? depth stop members = none ↔
      stop.flaw? = none ∧
        ∀ member ∈ members, member.1 ≠ .unpaired ∧ contentFlaw? depth member.2 = none := by
  induction members with
  | nil => simp [membersContentFlaw?]
  | cons member members ih =>
    obtain ⟨key, value⟩ := member
    cases key with
    | unpaired => simp [membersContentFlaw?]
    | text s =>
      rw [membersContentFlaw?, List.forall_mem_cons]
      cases contentFlaw? depth value with
      | some flaw => simp
      | none => simp [ih]

theorem contentFlaw?_object_of_perm {depth : Nat} {stop : Stop}
    {members members' : List (Key × Doc)} (hperm : members.Perm members')
    (h : contentFlaw? depth (.object members stop) = none) :
    contentFlaw? depth (.object members' stop) = none := by
  rw [contentFlaw?] at h ⊢
  split at h
  · cases h
  · next hdepth =>
    rw [if_neg hdepth]
    rw [membersContentFlaw?_eq_none_iff] at h ⊢
    exact ⟨h.1, fun member hmember => h.2 member (hperm.mem_iff.2 hmember)⟩

theorem onlyText?_eq_some_iff {key s : String} {members : List (Key × Doc)} :
    onlyText? key members = some s ↔
      members.filter (fun member => member.1 = .text key) = [(.text key, .string (some s))] := by
  have hkey : ∀ member ∈ members.filter (fun member => member.1 = .text key),
      member.1 = .text key := fun member hmember => by simpa using (List.mem_filter.1 hmember).2
  rw [onlyText?]
  split
  · next found value hfound =>
    rw [hfound] at hkey ⊢
    obtain rfl := hkey _ List.mem_cons_self
    simp
  · next hother => simpa using fun heq => hother _ _ heq

/-- What is there only once is the same in all orders. -/
theorem onlyText?_of_perm {key : String} {members members' : List (Key × Doc)}
    (hperm : members.Perm members') : onlyText? key members = onlyText? key members' := by
  have hfilter := hperm.filter fun member => member.1 = .text key
  refine Option.ext fun s => ?_
  rw [onlyText?_eq_some_iff, onlyText?_eq_some_iff]
  constructor
  · intro h
    rw [h] at hfilter
    exact (List.singleton_perm.1 hfilter).symm
  · intro h
    rw [h] at hfilter
    exact List.perm_singleton.1 hfilter

/-- A constant is read alike from all orders of its members. -/
theorem respects_enumValue : Respects 0 enumValue ConstantEdit := by
  rintro depth _ _ value - ⟨hperm⟩ hvalue
  rw [enumValue] at hvalue ⊢
  split at hvalue
  · cases hvalue
  · next hflaw =>
    -- A constant is read whole first; only then its two texts are looked for.
    rw [contentFlaw?_object_of_perm hperm hflaw]
    dsimp only at hvalue ⊢
    rw [← onlyText?_of_perm hperm, ← onlyText?_of_perm hperm]
    exact hvalue

/-! ## Domains -/

/-- The number that bounds are by default. -/
def zero : Doc := .number ⟨false, ['0'], none, none⟩

/-- The fields of a domain. -/
def domainShape : List FieldShape :=
  [{ name := "kind" },
    { name := "min", blank := some zero },
    { name := "max", blank := some zero },
    { name := "key", blank := some .null },
    { name := "category", blank := some (.string (some "")) },
    { name := "values", inside := ItemEdit ConstantEdit, blank := some (.array [] .closed) }]

/-- A value that may stand in a field that a kind does not select: the decoder of the field takes it,
so it has the type of the field and does not nest too deep. -/
inductive Unselected (kind : String) (depth : Nat) : String → Doc → Prop
  | min {value : Doc} {n : Int} (hkind : kind ≠ "int") (h : int32 depth value = .ok n) :
      Unselected kind depth "min" value
  | max {value : Doc} {n : Int} (hkind : kind ≠ "int") (h : int32 depth value = .ok n) :
      Unselected kind depth "max" value
  | key {value : Doc} {key? : Option String} (hkind : kind ≠ "enum")
      (h : optional text depth value = .ok key?) : Unselected kind depth "key" value
  | category {value : Doc} {s : String} (hkind : kind ≠ "enum")
      (h : text depth value = .ok s) : Unselected kind depth "category" value
  | values {value : Doc} {constants : List EnumValue} (hkind : kind ≠ "enum")
      (h : list enumValue depth value = .ok constants) : Unselected kind depth "values" value

/-- A change of a domain: one that any record allows, or another value in a field that the kind does
not select. -/
inductive DomainEdit : Nat → Doc → Doc → Prop
  | record {depth : Nat} {doc doc' : Doc} (h : RecordEdit domainShape depth doc doc') :
      DomainEdit depth doc doc'
  | member {depth : Nat} {kind name : String} {value value' : Doc} {front back : List (Key × Doc)}
      {stop : Stop} (hkind : (.text "kind", .string (some kind)) ∈ front ++ back)
      (h : Unselected kind depth name value') :
      DomainEdit (depth + 1) (.object (front ++ (.text name, value) :: back) stop)
        (.object (front ++ (.text name, value') :: back) stop)
  | item {depth : Nat} {kind : String} {field : FieldShape} {item item' : Doc}
      {front back : List Doc} {stop : Stop} (hkind : front.head? = some (.string (some kind)))
      (hfield : domainShape[front.length]? = some field)
      (h : Unselected kind depth field.name item') :
      DomainEdit (depth + 1) (.array (front ++ item :: back) stop)
        (.array (front ++ item' :: back) stop)

/-- The order in which a domain is filled in does not matter, and nothing is filled in twice. -/
theorem separate_domainFields : Separate domainFields {} where
  nodup_names := by decide
  not_given := by simp [domainFields, RecordField.of]
  given_fill := by simp [domainFields, RecordField.of, map_eq_ok_iff]
  independent := by
    simp only [domainFields, List.pairwise_cons, List.forall_mem_cons, List.not_mem_nil,
      IsEmpty.forall_iff, implies_true, List.Pairwise.nil, and_true]
    repeat' apply And.intro
    all_goals
      exact RecordField.independent_of (fun _ _ => rfl) (fun _ _ => rfl) fun _ _ _ => rfl

/-- An empty list is read wherever a bracket may be opened. -/
theorem list_nil {α : Type} (decode : Decoder α) {depth : Nat} (h : 1 ≤ depth) :
    list decode depth (.array [] .closed) = .ok [] := by
  obtain ⟨depth, rfl⟩ := Nat.exists_eq_add_of_le' h
  rfl

/-- What is missing in a domain is as good as its default. -/
theorem suits_domainFields :
    List.Forall₂ (Suits 1 DomainDraft.finish) domainShape domainFields := by
  refine .cons (suits_of respects_nothing ?_) (.cons (suits_of respects_nothing ?_)
    (.cons (suits_of respects_nothing ?_) (.cons (suits_of respects_nothing ?_)
      (.cons (suits_of respects_nothing ?_) (.cons (suits_of (respects_list respects_enumValue) ?_)
        .nil)))))
  all_goals rintro value ⟨⟩
  · exact ⟨0, fun _ _ => rfl, fun draft hmin => by simp [DomainDraft.finish, hmin]⟩
  · exact ⟨0, fun _ _ => rfl, fun draft hmax => by simp [DomainDraft.finish, hmax]⟩
  · exact ⟨none, fun _ _ => rfl, fun draft hkey => by simp [DomainDraft.finish, hkey]⟩
  · exact ⟨"", fun _ _ => rfl, fun draft hcategory => by simp [DomainDraft.finish, hcategory]⟩
  · exact ⟨[], fun _ => list_nil enumValue, fun draft hvalues => by
      simp [DomainDraft.finish, hvalues]⟩

/-- The kind of a domain is the one that is written. -/
theorem kind_of_mem {depth : Nat} {members : List (Key × Doc)} {kind : String}
    (hkind : (.text "kind", .string (some kind)) ∈ members) {filled : DomainDraft}
    (hfill : members.foldlM (fillMember domainFields depth) {} = .ok filled) :
    filled.kind = some kind := by
  have hfield : domainFields[0] ∈ domainFields := List.mem_cons_self
  obtain ⟨next, hnext⟩ := exists_fill_of_mem separate_domainFields hfield hkind hfill
  cases hnext
  rfl

/-- The bounds matter only to integers. -/
theorem DomainDraft.finish_congr_of_ne_int {draft draft' : DomainDraft} {kind : String}
    (hdraft : draft.kind = some kind) (hkind : kind ≠ "int")
    (h : { draft with min := draft'.min, max := draft'.max } = draft') :
    draft'.finish = draft.finish := by
  rw [← h]
  simp [DomainDraft.finish, required, hdraft, hkind, bind, Except.bind]

/-- The key, the category and the values matter only to enumerated domains. -/
theorem DomainDraft.finish_congr_of_ne_enum {draft draft' : DomainDraft} {kind : String}
    (hdraft : draft.kind = some kind) (hkind : kind ≠ "enum")
    (h : { draft with key := draft'.key, category := draft'.category, values := draft'.values } =
      draft') : draft'.finish = draft.finish := by
  rw [← h]
  simp [DomainDraft.finish, required, hdraft, hkind, bind, Except.bind]

/-- A field can be filled in with something else if that makes no difference to the kind. -/
theorem DomainDraft.exists_fill_of {β : Type} {name kind : String} {omissible : Bool}
    {get : DomainDraft → Option β} {set : DomainDraft → β → DomainDraft} {decode : Decoder β}
    {depth : Nat} {value' : Doc} {b : β} (hvalue : decode depth value' = .ok b)
    (hset : ∀ draft a, (set draft a).kind = some kind →
      (set draft b).finish = (set draft a).finish)
    {draft filled : DomainDraft} {value : Doc} (hkind : filled.kind = some kind)
    (hfill : (RecordField.of name omissible get set decode).fill draft depth value = .ok filled) :
    ∃ filled', (RecordField.of name omissible get set decode).fill draft depth value' =
      .ok filled' ∧ filled'.finish = filled.finish := by
  obtain ⟨a, -, rfl⟩ := map_eq_ok_iff.1 hfill
  exact ⟨set draft b, map_eq_ok_iff.2 ⟨b, hvalue, rfl⟩, hset draft a hkind⟩

/-- What stands in a field that the kind does not select makes no difference. -/
theorem exists_field_of_unselected {kind name : String} {depth : Nat} {value' : Doc}
    (h : Unselected kind depth name value') :
    ∃ field ∈ domainFields, field.name = name ∧ ∀ {draft filled value},
      filled.kind = some kind → field.fill draft depth value = .ok filled →
      ∃ filled', field.fill draft depth value' = .ok filled' ∧ filled'.finish = filled.finish := by
  cases h with
  | min hkind hvalue =>
    exact ⟨domainFields[1], by simp [domainFields], rfl, DomainDraft.exists_fill_of hvalue
      fun _ _ hfilled => DomainDraft.finish_congr_of_ne_int hfilled hkind rfl⟩
  | max hkind hvalue =>
    exact ⟨domainFields[2], by simp [domainFields], rfl, DomainDraft.exists_fill_of hvalue
      fun _ _ hfilled => DomainDraft.finish_congr_of_ne_int hfilled hkind rfl⟩
  | key hkind hvalue =>
    exact ⟨domainFields[3], by simp [domainFields], rfl, DomainDraft.exists_fill_of hvalue
      fun _ _ hfilled => DomainDraft.finish_congr_of_ne_enum hfilled hkind rfl⟩
  | category hkind hvalue =>
    exact ⟨domainFields[4], by simp [domainFields], rfl, DomainDraft.exists_fill_of hvalue
      fun _ _ hfilled => DomainDraft.finish_congr_of_ne_enum hfilled hkind rfl⟩
  | values hkind hvalue =>
    exact ⟨domainFields[5], by simp [domainFields], rfl, DomainDraft.exists_fill_of hvalue
      fun _ _ hfilled => DomainDraft.finish_congr_of_ne_enum hfilled hkind rfl⟩

/-- A domain is read alike after each change of a domain. -/
theorem respects_domain : Respects 2 domain DomainEdit := by
  intro depth doc doc' value hleast hedit h
  cases hedit with
  | record hrecord =>
    exact respects_record separate_domainFields suits_domainFields _ _ _ _ hleast hrecord h
  | member hkind hvalue =>
    obtain ⟨field, hfield, rfl, hchange⟩ := exists_field_of_unselected hvalue
    obtain ⟨hstop, hmakes⟩ := record_object_bind_eq_ok_iff.1 h
    refine record_object_bind_eq_ok_iff.2 ⟨hstop, makes_change separate_domainFields hfield
      (fun _ _ hfold hfill => hchange (kind_of_mem ?_ hfold) hfill) hmakes⟩
    rw [List.mem_append, List.mem_cons]
    exact (List.mem_append.1 hkind).imp_right Or.inr
  | @item depth kind shape item item' front back stop hkind hshape hvalue =>
    obtain ⟨field, hfield, hsuits⟩ := exists_getElem?_of_forall₂ suits_domainFields hshape
    obtain ⟨found, hfound, hname, hchange⟩ := exists_field_of_unselected hvalue
    -- The field at the place of the item is the one that the kind does not select.
    obtain rfl := separate_domainFields.eq_of_name_eq hfound (List.mem_of_getElem? hfield)
      (hname.trans hsuits.name_eq)
    -- The first item of a domain is its kind.
    have hfirst : (.text "kind", .string (some kind)) ∈
        keyed domainFields (front ++ item :: back) := by
      obtain ⟨rest, rfl⟩ := List.head?_eq_some_iff.1 hkind
      exact List.mem_cons_self
    exact record_array_change separate_domainFields hfield (fun _ _ hfold hfill =>
      hchange (kind_of_mem hfirst hfold) hfill) h

/-! ## Properties and blocks -/

/-- The fields of a property. -/
def propertyShape : List FieldShape :=
  [{ name := "name" }, { name := "domain", inside := DomainEdit }]

/-- The property that was filled in. -/
def PropertyDraft.finish (draft : PropertyDraft) : Except DecodeError Property := do
  return ⟨← required "name" draft.name, ← required "domain" draft.domain⟩

theorem separate_propertyFields : Separate propertyFields {} where
  nodup_names := by decide
  not_given := by simp [propertyFields, RecordField.of]
  given_fill := by simp [propertyFields, RecordField.of, map_eq_ok_iff]
  independent := List.pairwise_pair.2
    (RecordField.independent_of (fun _ _ => rfl) (fun _ _ => rfl) fun _ _ _ => rfl)

theorem suits_propertyFields :
    List.Forall₂ (Suits 2 PropertyDraft.finish) propertyShape propertyFields := by
  refine .cons (suits_of respects_nothing ?_) (.cons (suits_of respects_domain ?_) .nil)
  all_goals rintro value ⟨⟩

/-- A property is read alike after each change of a property. -/
theorem respects_property : Respects 3 property (RecordEdit propertyShape) :=
  respects_record separate_propertyFields suits_propertyFields

/-- The fields of a block kind. -/
def blockShape : List FieldShape :=
  [{ name := "id" },
    { name := "properties"
      inside := ItemEdit (RecordEdit propertyShape)
      blank := some (.array [] .closed) },
    { name := "inaccessible", blank := some (.bool false) }]

/-- The block kind that was filled in. -/
def BlockDraft.finish (draft : BlockDraft) : Except DecodeError DeclaredBlock := do
  return ⟨← required "id" draft.id, draft.properties.getD [], draft.inaccessible.getD false⟩

theorem separate_blockFields : Separate blockFields {} where
  nodup_names := by decide
  not_given := by simp [blockFields, RecordField.of]
  given_fill := by
    simp [blockFields, RecordField.of, map_eq_ok_iff, -Bool.exists_bool, -Bool.forall_bool]
  independent := by
    simp only [blockFields, List.pairwise_cons, List.forall_mem_cons, List.not_mem_nil,
      IsEmpty.forall_iff, implies_true, List.Pairwise.nil, and_true]
    repeat' apply And.intro
    all_goals
      exact RecordField.independent_of (fun _ _ => rfl) (fun _ _ => rfl) fun _ _ _ => rfl

theorem suits_blockFields : List.Forall₂ (Suits 4 BlockDraft.finish) blockShape blockFields := by
  refine .cons (suits_of respects_nothing ?_) (.cons
    (suits_of (respects_list respects_property) ?_) (.cons (suits_of respects_nothing ?_) .nil))
  all_goals rintro value ⟨⟩
  · exact ⟨[], fun _ hdepth => list_nil property (by omega), fun draft hproperties => by
      simp [BlockDraft.finish, hproperties]⟩
  · exact ⟨false, fun _ _ => rfl, fun draft hinaccessible => by
      simp [BlockDraft.finish, hinaccessible]⟩

theorem respects_block : Respects 5 block (RecordEdit blockShape) :=
  respects_record separate_blockFields suits_blockFields

/-! ## Entities -/

/-- The fields of an entity kind. -/
def entityShape : List FieldShape :=
  [{ name := "id" },
    { name := "class", blank := some .null },
    { name := "error", blank := some .null },
    { name := "inaccessible", blank := some (.bool false) }]

/-- The entity kind that was filled in. -/
def EntityDraft.finish (draft : EntityDraft) : Except DecodeError DeclaredEntity := do
  return ⟨← required "id" draft.id, draft.className.getD none, draft.failure.getD none,
    draft.inaccessible.getD false⟩

theorem separate_entityFields : Separate entityFields {} where
  nodup_names := by decide
  not_given := by simp [entityFields, RecordField.of]
  given_fill := by
    simp [entityFields, RecordField.of, map_eq_ok_iff, -Bool.exists_bool, -Bool.forall_bool]
  independent := by
    simp only [entityFields, List.pairwise_cons, List.forall_mem_cons, List.not_mem_nil,
      IsEmpty.forall_iff, implies_true, List.Pairwise.nil, and_true]
    repeat' apply And.intro
    all_goals
      exact RecordField.independent_of (fun _ _ => rfl) (fun _ _ => rfl) fun _ _ _ => rfl

theorem suits_entityFields :
    List.Forall₂ (Suits 0 EntityDraft.finish) entityShape entityFields := by
  refine .cons (suits_of respects_nothing ?_) (.cons (suits_of respects_nothing ?_)
    (.cons (suits_of respects_nothing ?_) (.cons (suits_of respects_nothing ?_) .nil)))
  all_goals rintro value ⟨⟩
  · exact ⟨none, fun _ _ => rfl, fun draft hclass => by simp [EntityDraft.finish, hclass]⟩
  · exact ⟨none, fun _ _ => rfl, fun draft hfailure => by simp [EntityDraft.finish, hfailure]⟩
  · exact ⟨false, fun _ _ => rfl, fun draft hinaccessible => by
      simp [EntityDraft.finish, hinaccessible]⟩

theorem respects_entity : Respects 1 entity (RecordEdit entityShape) :=
  respects_record separate_entityFields suits_entityFields

/-! ## Classes -/

/-- The fields of a class. -/
def classShape : List FieldShape :=
  [{ name := "superclass", blank := some .null },
    { name := "interfaces", blank := some (.array [] .closed) }]

/-- The class that was filled in. -/
def ClassDraft.finish (draft : ClassDraft) : Except DecodeError DeclaredClass := do
  return ⟨draft.superclass.getD none, draft.interfaces.getD []⟩

theorem separate_classFields : Separate classFields {} where
  nodup_names := by decide
  not_given := by simp [classFields, RecordField.of]
  given_fill := by simp [classFields, RecordField.of, map_eq_ok_iff]
  independent := List.pairwise_pair.2
    (RecordField.independent_of (fun _ _ => rfl) (fun _ _ => rfl) fun _ _ _ => rfl)

theorem suits_classFields : List.Forall₂ (Suits 1 ClassDraft.finish) classShape classFields := by
  refine .cons (suits_of respects_nothing ?_) (.cons (suits_of respects_nothing ?_) .nil)
  all_goals rintro value ⟨⟩
  · exact ⟨none, fun _ _ => rfl, fun draft hsuperclass => by
      simp [ClassDraft.finish, hsuperclass]⟩
  · exact ⟨[], fun _ => list_nil text, fun draft hinterfaces => by
      simp [ClassDraft.finish, hinterfaces]⟩

theorem respects_class : Respects 2 class_ (RecordEdit classShape) :=
  respects_record separate_classFields suits_classFields

/-! ## Snapshots -/

/-- The fields of a snapshot. -/
def snapshotShape : List FieldShape :=
  [{ name := "blocks"
     inside := ItemEdit (RecordEdit blockShape)
     blank := some (.array [] .closed) },
    { name := "entities"
      inside := ItemEdit (RecordEdit entityShape)
      blank := some (.array [] .closed) },
    { name := "classes"
      inside := EntryEdit (RecordEdit classShape)
      blank := some (.object [] .closed) },
    { name := "root", blank := some (.string (some defaultRoot)) }]

/-- The declarations that were filled in. -/
def SnapshotDraft.finish (draft : SnapshotDraft) : Except DecodeError Declarations := do
  return ⟨draft.blocks.getD [], draft.entities.getD [], draft.classes.getD Catalog.empty,
    draft.root.getD defaultRoot⟩

theorem separate_snapshotFields : Separate snapshotFields {} where
  nodup_names := by decide
  not_given := by simp [snapshotFields, RecordField.of]
  given_fill := by simp [snapshotFields, RecordField.of, map_eq_ok_iff]
  independent := by
    simp only [snapshotFields, List.pairwise_cons, List.forall_mem_cons, List.not_mem_nil,
      IsEmpty.forall_iff, implies_true, List.Pairwise.nil, and_true]
    repeat' apply And.intro
    all_goals
      exact RecordField.independent_of (fun _ _ => rfl) (fun _ _ => rfl) fun _ _ _ => rfl

theorem catalog_nil {α : Type} (decode : Decoder α) {depth : Nat} (h : 1 ≤ depth) :
    catalog decode depth (.object [] .closed) = .ok Catalog.empty := by
  obtain ⟨depth, rfl⟩ := Nat.exists_eq_add_of_le' h
  rfl

theorem suits_snapshotFields :
    List.Forall₂ (Suits 6 SnapshotDraft.finish) snapshotShape snapshotFields := by
  -- Blocks nest deepest; the other parts need fewer levels.
  have hentities := (respects_list respects_entity).mono (show 2 ≤ 6 by omega)
  have hclasses := (respects_catalog respects_class).mono (show 3 ≤ 6 by omega)
  refine .cons (suits_of (respects_list respects_block) ?_) (.cons (suits_of hentities ?_)
    (.cons (suits_of hclasses ?_) (.cons (suits_of respects_nothing ?_) .nil)))
  all_goals rintro value ⟨⟩
  · exact ⟨[], fun _ hdepth => list_nil block (by omega), fun draft hblocks => by
      simp [SnapshotDraft.finish, hblocks]⟩
  · exact ⟨[], fun _ hdepth => list_nil entity (by omega), fun draft hentities => by
      simp [SnapshotDraft.finish, hentities]⟩
  · exact ⟨Catalog.empty, fun _ hdepth => catalog_nil class_ (by omega), fun draft hclasses => by
      simp [SnapshotDraft.finish, hclasses]⟩
  · exact ⟨defaultRoot, fun _ _ => rfl, fun draft hroot => by simp [SnapshotDraft.finish, hroot]⟩

theorem respects_declarations : Respects 7 declarations (RecordEdit snapshotShape) :=
  respects_record separate_snapshotFields suits_snapshotFields

/-- A change of a snapshot's document that does not count. -/
abbrev SnapshotEdit : Doc → Doc → Prop := RecordEdit snapshotShape maxDepth

theorem document_eq_ok_iff {document : Json.Document} {declared : Declarations} :
    Decode.document document = .ok declared ↔
      declarations maxDepth document.root = .ok declared ∧ document.trailing = false := by
  rw [Decode.document, bind_eq_ok_iff]
  cases document.trailing <;> simp [pure, Except.pure]

/-- Any number of changes that do not count leads to a text with the same declarations. -/
theorem document_of_edits {document : Json.Document} {root' : Doc} {declared : Declarations}
    (h : Decode.document document = .ok declared)
    (hedits : Relation.ReflTransGen SnapshotEdit document.root root') :
    Decode.document ⟨root', false⟩ = .ok declared := by
  rw [document_eq_ok_iff] at h ⊢
  refine ⟨?_, rfl⟩
  induction hedits with
  | refl => exact h.1
  | tail _ hedit ih => exact respects_declarations _ _ _ _ (by decide) hedit ih

/-- A text that differs from one with a snapshot only in changes that do not count has the same
snapshot: the registries, the outcomes and the classes with their handles. -/
theorem ofText_of_edits {text text' : String} {root' : Doc} {snapshot : Snapshot}
    (h : ofText text = .ok snapshot)
    (hedits : Relation.ReflTransGen SnapshotEdit (Json.Document.ofText text).root root')
    (htext : Json.Document.ofText text' = ⟨root', false⟩) : ofText text' = .ok snapshot := by
  unfold ofText at h ⊢
  split at h
  · cases h
  · next declared hdocument =>
    -- The snapshot depends on the declarations alone.
    rw [htext, document_of_edits hdocument hedits]
    exact h

/-- The members of a property of truth values, with a bound that does not matter. -/
def openMembers (bound : Char) : List (Key × Doc) :=
  [(.text "name", .string (some "open")),
    (.text "domain", .object [(.text "kind", .string (some "boolean")),
      (.text "max", .number ⟨false, [bound], none, none⟩)] .closed)]

/-- The members of a snapshot with one block in the form of an array, which has one property. -/
def hatchMembers (property : List (Key × Doc)) : List (Key × Doc) :=
  [(.text "blocks", .array [.array [.string (some "hatch"),
    .array [.object property .closed] .closed] .closed] .closed)]

/-- The members after the changes: another bound, the property's members in another order, an
unknown member and the default root. -/
def variantMembers : List (Key × Doc) :=
  (.text "x", .array [.null] .closed) ::
    (hatchMembers (openMembers '5').reverse ++ [(.text "root", .string (some defaultRoot))])

/-- The snapshot as a text. -/
def hatchText : String :=
  "\x7b\"blocks\":[[\"hatch\",[\x7b\"name\":\"open\","
    ++ "\"domain\":\x7b\"kind\":\"boolean\",\"max\":3\x7d\x7d]]]\x7d"

/-- The changed snapshot as a text. -/
def variantText : String :=
  "\x7b\"x\":[null],\"blocks\":[[\"hatch\",["
    ++ "\x7b\"domain\":\x7b\"kind\":\"boolean\",\"max\":5\x7d,\"name\":\"open\"\x7d]]],"
    ++ "\"root\":\"java.lang.Object\"\x7d"

/-- A change of the property is a change of the snapshot. -/
theorem edit_hatchMembers {depth : Nat} {members members' : List (Key × Doc)}
    (h : RecordEdit propertyShape depth (.object members .closed) (.object members' .closed)) :
    RecordEdit snapshotShape (depth + 4) (.object (hatchMembers members) .closed)
      (.object (hatchMembers members') .closed) := by
  have hproperties : ItemEdit (RecordEdit propertyShape) (depth + 1)
      (.array [.object members .closed] .closed) (.array [.object members' .closed] .closed) :=
    @ItemEdit.item _ _ _ _ [] [] _ h
  have hblock : RecordEdit blockShape (depth + 2)
      (.array [.string (some "hatch"), .array [.object members .closed] .closed] .closed)
      (.array [.string (some "hatch"), .array [.object members' .closed] .closed] .closed) :=
    @RecordEdit.changeItem _ _ blockShape[1] _ _ [.string (some "hatch")] [] _ rfl hproperties
  exact @RecordEdit.changeMember _ _ snapshotShape[0] _ _ [] [] _ List.mem_cons_self
    (@ItemEdit.item _ _ _ _ [] [] _ hblock)

theorem edits_hatchMembers :
    Relation.ReflTransGen SnapshotEdit
      (.object (hatchMembers (openMembers '3')) .closed) (.object variantMembers .closed) := by
  have hbound : RecordEdit propertyShape 123 (.object (openMembers '3') .closed)
      (.object (openMembers '5') .closed) := by
    refine @RecordEdit.changeMember _ _ propertyShape[1] _ _ [(.text "name", .string (some "open"))]
      [] _ (by simp [propertyShape]) ?_
    exact @DomainEdit.member _ "boolean" "max" _ _ [(.text "kind", .string (some "boolean"))] [] _
      List.mem_cons_self (.max (by decide) rfl)
  have horder : RecordEdit propertyShape 123 (.object (openMembers '5') .closed)
      (.object (openMembers '5').reverse .closed) :=
    .permute (List.reverse_perm _).symm
  refine .tail (.tail (.tail (.single (edit_hatchMembers hbound)) (edit_hatchMembers horder))
    (@RecordEdit.writeBlank _ _ snapshotShape[3] _ _ _ (by simp [snapshotShape]) rfl ?_))
    (.addUnknown (by decide) (.array ?_))
  · simp [hatchMembers, snapshotShape]
  · simpa using Doc.Whole.null

/-- A block in the form of an array, and changes at several depths. -/
theorem ofText_of_edits_hatch :
    ∃ snapshot, ofText hatchText = .ok snapshot ∧ ofText variantText = .ok snapshot ∧
      snapshot.blocks = [.ok ⟨⟨"minecraft", "hatch"⟩, [⟨"open", .boolean⟩]⟩] := by
  have hhatch : Json.Document.ofText hatchText =
      ⟨.object (hatchMembers (openMembers '3')) .closed, false⟩ := by
    cbv
  have hvariant : Json.Document.ofText variantText = ⟨.object variantMembers .closed, false⟩ := by
    cbv
  let declared : Declarations :=
    ⟨[⟨⟨"minecraft", "hatch"⟩, [⟨"open", .boolean⟩], false⟩], [], Catalog.empty, defaultRoot⟩
  have hdocument : Decode.document ⟨.object (hatchMembers (openMembers '3')) .closed, false⟩ =
      .ok declared := by
    rfl
  have hload : ofText hatchText = ofDeclarations declared := by
    rw [ofText, hhatch, hdocument]
  refine ⟨_, hload, ofText_of_edits hload ?_ hvariant, rfl⟩
  rw [hhatch]
  exact edits_hatchMembers

end RegistrySchema.Snapshot
