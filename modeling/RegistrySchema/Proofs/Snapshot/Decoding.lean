import RegistrySchema.Proofs.Fallible
import RegistrySchema.Proofs.Identifier
import RegistrySchema.Proofs.Pointwise
import RegistrySchema.Snapshot.Basic

/-!
# What a decoder yields

A fact about all values that a decoder yields does not depend on the document: it comes from the
decoders of the parts. A list has it for each of its members, and a record if every field keeps it
while the record is filled in, whether the record is written as an object or as an array.

The one fact that is used later is that identifiers come from texts, so that their namespaces have
no colon.
-/

namespace RegistrySchema.Snapshot

open Json (Doc Key Stop)

namespace Decoder

variable {α δ : Type}

/-- All that a decoder yields has a property. -/
def Yields (decode : Decoder α) (P : α → Prop) : Prop :=
  ∀ depth doc value, decode depth doc = .ok value → P value

/-- A field that is filled in keeps a property of the record. -/
def RecordField.Keeps (field : RecordField δ) (I : δ → Prop) : Prop :=
  ∀ draft, I draft → Yields (field.fill draft) I

/-- What is filled in at one place of a record, if anything, has a property. -/
def Given (get : δ → Option α) (P : α → Prop) (draft : δ) : Prop := ∀ value ∈ get draft, P value

/-- A field fills in what its decoder yields. -/
theorem RecordField.keeps_given {name : String} {omissible : Bool} {get : δ → Option α}
    {set : δ → α → δ} {decode : Decoder α} {P : α → Prop} (hdecode : Yields decode P)
    (hset : ∀ draft value, get (set draft value) = some value) :
    (RecordField.of name omissible get set decode).Keeps (Given get P) := by
  intro draft _ depth doc filled hfilled value hvalue
  obtain ⟨found, hfound, rfl⟩ := map_eq_ok_iff.1 hfilled
  obtain rfl : found = value := Option.some.inj ((hset draft found).symm.trans hvalue)
  exact hdecode depth doc found hfound

/-- A field leaves the other places of a record alone. -/
theorem RecordField.keeps_other {β : Type} {name : String} {omissible : Bool} {get : δ → Option β}
    {set : δ → β → δ} {decode : Decoder β} {place : δ → Option α} {P : α → Prop}
    (hset : ∀ draft value, place (set draft value) = place draft) :
    (RecordField.of name omissible get set decode).Keeps (Given place P) := by
  intro draft hdraft depth doc filled hfilled
  obtain ⟨found, -, rfl⟩ := map_eq_ok_iff.1 hfilled
  rwa [Given, hset]

theorem required_eq_ok_iff {name : String} {given : Option α} {value : α} :
    required name given = .ok value ↔ given = some value := by
  cases given <;> simp [required]

/-- Each member of a list is yielded by the decoder of members. -/
theorem yields_list {decode : Decoder α} {P : α → Prop} (h : Yields decode P) :
    Yields (list decode) fun values => ∀ value ∈ values, P value := by
  intro depth doc values hvalues
  unfold list at hvalues
  split at hvalues
  · obtain ⟨inner, -, hrest⟩ := bind_eq_ok_iff.1 hvalues
    obtain ⟨found, hfound, hend⟩ := bind_eq_ok_iff.1 hrest
    obtain ⟨-, -, hlast⟩ := bind_eq_ok_iff.1 hend
    cases hlast
    intro value hvalue
    obtain ⟨item, -, hitem⟩ := exists_mem_of_forall₂ (mapM_eq_ok_iff.1 hfound) hvalue
    exact h _ _ _ hitem
  · cases hvalues

section Record

variable {fields : List (RecordField δ)} {I : δ → Prop}

theorem fillMember_keeps (hfields : ∀ field ∈ fields, field.Keeps I) {depth : Nat} {draft next : δ}
    {member : Key × Doc} (hdraft : I draft) (h : fillMember fields depth draft member = .ok next) :
    I next := by
  obtain ⟨name, -, hrest⟩ := bind_eq_ok_iff.1 h
  split at hrest
  · next field hfind =>
    split at hrest
    · cases hrest
    · exact hfields field (List.mem_of_find?_eq_some hfind) draft hdraft _ _ _ hrest
  · -- An unknown member is passed over.
    obtain ⟨-, -, hlast⟩ := bind_eq_ok_iff.1 hrest
    cases hlast
    exact hdraft

theorem fillItems_keeps (hfields : ∀ field ∈ fields, field.Keeps I) {label : String} {size : Nat}
    {stop : Stop} {depth count : Nat} {items : List Doc} {draft last : δ} (hdraft : I draft)
    (h : fillItems label size stop depth draft count fields items = .ok last) : I last := by
  induction fields generalizing count items draft with
  | nil =>
    cases items with
    | nil =>
      rw [fillItems] at h
      obtain ⟨-, -, hlast⟩ := bind_eq_ok_iff.1 h
      cases hlast
      exact hdraft
    | cons item items =>
      rw [fillItems] at h
      cases h
  | cons field fields ih =>
    obtain ⟨hfield, hfields⟩ := List.forall_mem_cons.1 hfields
    cases items with
    | nil =>
      rw [fillItems] at h
      obtain ⟨-, -, hrest⟩ := bind_eq_ok_iff.1 h
      split at hrest
      · exact ih hfields hdraft hrest
      · cases hrest
    | cons item items =>
      rw [fillItems] at h
      obtain ⟨next, hnext, hrest⟩ := bind_eq_ok_iff.1 h
      exact ih hfields (hfield draft hdraft _ _ _ hnext) hrest

/-- A record has what holds of the blank one and is kept by every field. -/
theorem yields_record {label : String} {blank : δ} (hblank : I blank)
    (hfields : ∀ field ∈ fields, field.Keeps I) : Yields (record label fields blank) I := by
  intro depth doc filled h
  unfold record at h
  split at h
  · obtain ⟨inner, -, hrest⟩ := bind_eq_ok_iff.1 h
    obtain ⟨draft, hdraft, hend⟩ := bind_eq_ok_iff.1 hrest
    obtain ⟨-, -, hlast⟩ := bind_eq_ok_iff.1 hend
    cases hlast
    exact foldlM_invariant (fun _ _ _ => fillMember_keeps hfields) hblank hdraft
  · obtain ⟨inner, -, hrest⟩ := bind_eq_ok_iff.1 h
    exact fillItems_keeps hfields hblank hrest
  · cases h

end Record

end Decoder

namespace Decode

open Decoder RecordField

/-- An identifier that comes from a text. -/
def Read (id : Identifier) : Prop := ∃ s, id = Identifier.parse s

theorem yields_identifier : Yields identifier Read := by
  intro depth doc id h
  obtain ⟨s, -, rfl⟩ := map_eq_ok_iff.1 h
  exact ⟨s, rfl⟩

/-- The identifier of a block kind comes from a text. -/
theorem yields_block : Yields block fun found => Read found.id := by
  intro depth doc found h
  obtain ⟨draft, hdraft, hrest⟩ := bind_eq_ok_iff.1 h
  obtain ⟨id, hid, hlast⟩ := bind_eq_ok_iff.1 hrest
  cases hlast
  have hkeeps : ∀ field ∈ blockFields, field.Keeps (Given BlockDraft.id Read) := by
    simp only [blockFields, List.forall_mem_cons]
    exact ⟨keeps_given yields_identifier fun _ _ => rfl, keeps_other fun _ _ => rfl,
      keeps_other fun _ _ => rfl, List.forall_mem_nil _⟩
  exact yields_record (by simp [Given]) hkeeps _ _ _ hdraft id (required_eq_ok_iff.1 hid)

/-- The identifier of an entity kind comes from a text. -/
theorem yields_entity : Yields entity fun found => Read found.id := by
  intro depth doc found h
  obtain ⟨draft, hdraft, hrest⟩ := bind_eq_ok_iff.1 h
  obtain ⟨id, hid, hlast⟩ := bind_eq_ok_iff.1 hrest
  cases hlast
  have hkeeps : ∀ field ∈ entityFields, field.Keeps (Given EntityDraft.id Read) := by
    simp only [entityFields, List.forall_mem_cons]
    exact ⟨keeps_given yields_identifier fun _ _ => rfl, keeps_other fun _ _ => rfl,
      keeps_other fun _ _ => rfl, keeps_other fun _ _ => rfl, List.forall_mem_nil _⟩
  exact yields_record (by simp [Given]) hkeeps _ _ _ hdraft id (required_eq_ok_iff.1 hid)

/-- All identifiers of declarations come from texts. -/
theorem yields_declarations : Yields declarations fun declared =>
    (∀ block ∈ declared.blocks, Read block.id) ∧ ∀ entity ∈ declared.entities, Read entity.id := by
  intro depth doc declared h
  obtain ⟨draft, hdraft, hlast⟩ := bind_eq_ok_iff.1 h
  cases hlast
  have hblocks : ∀ field ∈ snapshotFields,
      field.Keeps (Given SnapshotDraft.blocks fun blocks => ∀ block ∈ blocks, Read block.id) := by
    simp only [snapshotFields, List.forall_mem_cons]
    exact ⟨keeps_given (yields_list yields_block) fun _ _ => rfl, keeps_other fun _ _ => rfl,
      keeps_other fun _ _ => rfl, keeps_other fun _ _ => rfl, List.forall_mem_nil _⟩
  have hentities : ∀ field ∈ snapshotFields,
      field.Keeps (Given SnapshotDraft.entities fun found => ∀ entity ∈ found, Read entity.id) := by
    simp only [snapshotFields, List.forall_mem_cons]
    exact ⟨keeps_other fun _ _ => rfl, keeps_given (yields_list yields_entity) fun _ _ => rfl,
      keeps_other fun _ _ => rfl, keeps_other fun _ _ => rfl, List.forall_mem_nil _⟩
  have hgiven := yields_record (by simp [Given]) hblocks _ _ _ hdraft
  have hgiven' := yields_record (by simp [Given]) hentities _ _ _ hdraft
  -- What is not filled in is an empty list.
  constructor
  · show ∀ block ∈ draft.blocks.getD [], Read block.id
    cases hfilled : draft.blocks with
    | none => simp
    | some blocks => exact hgiven blocks hfilled
  · show ∀ entity ∈ draft.entities.getD [], Read entity.id
    cases hfilled : draft.entities with
    | none => simp
    | some entities => exact hgiven' entities hfilled

end Decode

/-- A text that holds a snapshot holds its declarations, whose identifiers have no colon in their
namespaces. -/
theorem exists_declarations_of_ofText {text : String} {snapshot : Snapshot}
    (h : ofText text = .ok snapshot) :
    ∃ declared, ofDeclarations declared = .ok snapshot ∧
      (∀ block ∈ declared.blocks, ':' ∉ block.id.space.toList) ∧
      ∀ entity ∈ declared.entities, ':' ∉ entity.id.space.toList := by
  unfold ofText at h
  split at h
  · cases h
  · next declared hdocument =>
    obtain ⟨found, hfound, hrest⟩ := bind_eq_ok_iff.1 hdocument
    split at hrest
    · cases hrest
    · cases hrest
      obtain ⟨hblocks, hentities⟩ := Decode.yields_declarations _ _ _ hfound
      refine ⟨_, h, fun block hblock => ?_, fun entity hentity => ?_⟩
      · obtain ⟨s, hs⟩ := hblocks block hblock
        rw [hs]
        exact Identifier.colon_not_mem_space_parse s
      · obtain ⟨s, hs⟩ := hentities entity hentity
        rw [hs]
        exact Identifier.colon_not_mem_space_parse s

end RegistrySchema.Snapshot
