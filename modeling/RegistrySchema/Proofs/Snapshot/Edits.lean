import RegistrySchema.Proofs.Snapshot.Members

/-!
# Changes of a document that do not count

A document can be changed in ways that a decoder does not see: the members of a record may come in
another order, there may be unknown ones among them, a field that is absent may be written with the
value that it stands for, and within a value there may be such changes again. What may be changed
about a record is told by its shape. Decoders of lists, of catalogs and of records respect changes
if the decoders of their parts do (`respects_list`, `respects_catalog`, `respects_record`).
-/

namespace RegistrySchema.Json

/-- A value that is read to its end in all its parts. -/
inductive Doc.Whole : Doc → Prop
  | null : Whole .null
  | bool (value : Bool) : Whole (.bool value)
  | number (value : NumberText) : Whole (.number value)
  | string (value : Option String) : Whole (.string value)
  | array {items : List Doc} (h : ∀ item ∈ items, Whole item) : Whole (.array items .closed)
  | object {members : List (Key × Doc)} (h : ∀ member ∈ members, Whole member.2) :
    Whole (.object members .closed)

theorem itemsSkipFlaw?_eq_none {items : List Doc} (h : ∀ item ∈ items, item.skipFlaw? = none) :
    itemsSkipFlaw? .closed items = none := by
  induction items with
  | nil => rfl
  | cons item items ih =>
    obtain ⟨hitem, hitems⟩ := List.forall_mem_cons.1 h
    rw [itemsSkipFlaw?, hitem]
    exact ih hitems

theorem membersSkipFlaw?_eq_none {members : List (Key × Doc)}
    (h : ∀ member ∈ members, member.2.skipFlaw? = none) :
    membersSkipFlaw? .closed members = none := by
  induction members with
  | nil => rfl
  | cons member members ih =>
    obtain ⟨hmember, hmembers⟩ := List.forall_mem_cons.1 h
    rw [membersSkipFlaw?, hmember]
    exact ih hmembers

/-- Nothing stops a reader who passes over such a value. -/
theorem Doc.Whole.skipFlaw?_eq_none {doc : Doc} (h : doc.Whole) : doc.skipFlaw? = none := by
  induction h with
  | null | bool | number | string => rfl
  | array _ ih => exact itemsSkipFlaw?_eq_none ih
  | object _ ih => exact membersSkipFlaw?_eq_none ih

end RegistrySchema.Json

namespace RegistrySchema.Snapshot

open Json (Doc Key Stop)

/-- A relation between values and changed values, given how deep they may nest. -/
abbrev Edit := (depth : Nat) → Doc → Doc → Prop

/-- A change of one item of an array. -/
inductive ItemEdit (edit : Edit) : Nat → Doc → Doc → Prop
  | item {depth : Nat} {item item' : Doc} {front back : List Doc} {stop : Stop}
      (h : edit depth item item') :
      ItemEdit edit (depth + 1) (.array (front ++ item :: back) stop)
        (.array (front ++ item' :: back) stop)

/-- A change of the value under one key of an object. The order of the keys stays. -/
inductive EntryEdit (edit : Edit) : Nat → Doc → Doc → Prop
  | entry {depth : Nat} {key : Key} {value value' : Doc} {front back : List (Key × Doc)}
      {stop : Stop} (h : edit depth value value') :
      EntryEdit edit (depth + 1) (.object (front ++ (key, value) :: back) stop)
        (.object (front ++ (key, value') :: back) stop)

/-- What may be changed about a field of a record. -/
structure FieldShape where
  /-- Its name. -/
  name : String
  /-- The changes within its value. -/
  inside : Edit := fun _ _ _ => False
  /-- The value that stands for it if it is absent, unless it must not be. -/
  blank : Option Doc := none

/-- A change of a record that is written as an object or as an array, given its fields in order. New
members come at one end, and from there to any place by another order. -/
inductive RecordEdit (shape : List FieldShape) : Nat → Doc → Doc → Prop
  /-- The members of an object in another order. -/
  | permute {depth : Nat} {members members' : List (Key × Doc)} {stop : Stop}
      (h : members.Perm members') :
      RecordEdit shape depth (.object members stop) (.object members' stop)
  /-- Another member, with an unknown name. -/
  | addUnknown {depth : Nat} {name : String} {value : Doc} {members : List (Key × Doc)}
      {stop : Stop} (hname : name ∉ shape.map FieldShape.name) (hvalue : value.Whole) :
      RecordEdit shape depth (.object members stop)
        (.object ((.text name, value) :: members) stop)
  /-- An absent field with the value that stands for it. -/
  | writeBlank {depth : Nat} {field : FieldShape} {value : Doc} {members : List (Key × Doc)}
      {stop : Stop} (hfield : field ∈ shape) (hblank : field.blank = some value)
      (habsent : ∀ member ∈ members, member.1 ≠ .text field.name) :
      RecordEdit shape depth (.object members stop)
        (.object (members ++ [(.text field.name, value)]) stop)
  /-- The first absent field of an array with the value that stands for it. -/
  | appendBlank {depth : Nat} {field : FieldShape} {value : Doc} {items : List Doc} {stop : Stop}
      (hfield : shape[items.length]? = some field) (hblank : field.blank = some value) :
      RecordEdit shape depth (.array items stop) (.array (items ++ [value]) stop)
  /-- A change within the value of a field. -/
  | changeMember {depth : Nat} {field : FieldShape} {value value' : Doc}
      {front back : List (Key × Doc)} {stop : Stop} (hfield : field ∈ shape)
      (h : field.inside depth value value') :
      RecordEdit shape (depth + 1) (.object (front ++ (.text field.name, value) :: back) stop)
        (.object (front ++ (.text field.name, value') :: back) stop)
  /-- A change within the value of a field of an array. -/
  | changeItem {depth : Nat} {field : FieldShape} {item item' : Doc} {front back : List Doc}
      {stop : Stop} (hfield : shape[front.length]? = some field)
      (h : field.inside depth item item') :
      RecordEdit shape (depth + 1) (.array (front ++ item :: back) stop)
        (.array (front ++ item' :: back) stop)

namespace Decoder

variable {α δ : Type}

/-- A decoder yields from a changed value what it yields from the value, if they may nest at least
`least` deep. -/
def Respects (least : Nat) (decode : Decoder α) (edit : Edit) : Prop :=
  ∀ depth doc doc' value, least ≤ depth → edit depth doc doc' →
    decode depth doc = .ok value → decode depth doc' = .ok value

theorem Respects.mono {least least' : Nat} {decode : Decoder α} {edit : Edit}
    (h : Respects least decode edit) (hle : least ≤ least') : Respects least' decode edit :=
  fun depth doc doc' value hleast => h depth doc doc' value (hle.trans hleast)

/-- A list is respected in the changes that its members are respected in. -/
theorem respects_list {least : Nat} {decode : Decoder α} {edit : Edit}
    (h : Respects least decode edit) : Respects (least + 1) (list decode) (ItemEdit edit) := by
  rintro depth _ _ values hleast ⟨hitem⟩ hvalues
  have hlist : ∀ {depth : Nat} {items : List Doc} {stop : Stop},
      list decode (depth + 1) (.array items stop) = .ok values ↔ stop.flaw? = none ∧
        List.Forall₂ (fun item value => decode depth item = .ok value) items values := by
    intro depth items stop
    rw [← mapM_eq_ok_iff]
    exact bind_refuse_eq_ok_iff
  rw [hlist] at hvalues ⊢
  refine ⟨hvalues.1, forall₂_replace (fun value hvalue => ?_) hvalues.2⟩
  exact h _ _ _ value (Nat.le_of_succ_le_succ hleast) hitem hvalue

/-- A catalog is respected in the changes that its values are respected in. -/
theorem respects_catalog {least : Nat} {decode : Decoder α} {edit : Edit}
    (h : Respects least decode edit) : Respects (least + 1) (catalog decode) (EntryEdit edit) := by
  rintro depth _ _ table hleast ⟨hentry⟩ htable
  obtain ⟨hstop, hfold⟩ := bind_refuse_eq_ok_iff.1 htable
  refine bind_refuse_eq_ok_iff.2 ⟨hstop, foldlM_replace_eq_ok ?_ hfold⟩
  intro state next hnext
  obtain ⟨key, hkey, hrest⟩ := bind_eq_ok_iff.1 hnext
  obtain ⟨value, hvalue, hlast⟩ := bind_eq_ok_iff.1 hrest
  have hvalue' := h _ _ _ value (Nat.le_of_succ_le_succ hleast) hentry hvalue
  exact bind_eq_ok_iff.2 ⟨key, hkey, bind_eq_ok_iff.2 ⟨value, hvalue', hlast⟩⟩

/-! ## Records -/

section Record

variable {label : String} {fields : List (RecordField δ)} {blank : δ}
  {finish : δ → Except DecodeError α}

/-- A value is made of the members of a record. -/
def Makes (fields : List (RecordField δ)) (blank : δ) (finish : δ → Except DecodeError α)
    (depth : Nat) (members : List (Key × Doc)) (value : α) : Prop :=
  ∃ draft, members.foldlM (fillMember fields depth) blank = .ok draft ∧ finish draft = .ok value

theorem record_object_bind_eq_ok_iff {depth : Nat} {members : List (Key × Doc)} {stop : Stop}
    {a : α} :
    record label fields blank (depth + 1) (.object members stop) >>= finish = .ok a ↔
      stop.flaw? = none ∧ Makes fields blank finish depth members a := by
  rw [bind_eq_ok_iff]
  simp only [record_object_eq_ok_iff, Makes, and_assoc]
  exact exists_and_left

variable (h : Separate fields blank)

include h

theorem record_array_bind_eq_ok_iff {depth : Nat} {items : List Doc} {stop : Stop} {a : α} :
    record label fields blank (depth + 1) (.array items stop) >>= finish = .ok a ↔
      (items.length ≤ fields.length ∧
        ∀ field ∈ fields.drop items.length, field.omissible = true) ∧
      stop.flaw? = none ∧ Makes fields blank finish depth (keyed fields items) a := by
  rw [bind_eq_ok_iff]
  simp only [record_array_eq_ok_iff h, record_object_eq_ok_iff, Makes, and_assoc]
  rw [exists_and_left, exists_and_left, exists_and_left]

/-- The value of a member can be changed to one that makes no difference in the end. -/
theorem makes_change {field : RecordField δ} (hfield : field ∈ fields) {depth : Nat}
    {front back : List (Key × Doc)} {value value' : Doc} {a : α}
    (hvalue : ∀ draft filled,
      (front ++ (.text field.name, value) :: back).foldlM (fillMember fields depth) blank =
        .ok filled → field.fill draft depth value = .ok filled →
      ∃ filled', field.fill draft depth value' = .ok filled' ∧ finish filled' = finish filled)
    (ha : Makes fields blank finish depth (front ++ (.text field.name, value) :: back) a) :
    Makes fields blank finish depth (front ++ (.text field.name, value') :: back) a := by
  obtain ⟨filled, hfilled, hfinish⟩ := ha
  obtain ⟨draft, hdraft, hgiven, hfill⟩ := (foldlM_fillMember_middle_iff h hfield).1 hfilled
  obtain ⟨filled', hfill', hsame⟩ := hvalue draft filled hfilled hfill
  exact ⟨filled', (foldlM_fillMember_middle_iff h hfield).2 ⟨draft, hdraft, hgiven, hfill'⟩,
    hsame.trans hfinish⟩

/-- A member with the name of a field that is absent can be added if it makes no difference in the
end. -/
theorem makes_concat {field : RecordField δ} (hfield : field ∈ fields) {depth : Nat}
    {members : List (Key × Doc)} {value : Doc} {a : α}
    (habsent : ∀ member ∈ members, member.1 ≠ .text field.name)
    (hvalue : ∀ draft, field.given draft = false →
      ∃ filled, field.fill draft depth value = .ok filled ∧ finish filled = finish draft)
    (ha : Makes fields blank finish depth members a) :
    Makes fields blank finish depth (members ++ [(.text field.name, value)]) a := by
  obtain ⟨draft, hdraft, hfinish⟩ := ha
  -- No member filled the field in, so it is as blank as at the start.
  have hgiven : field.given draft = false := by
    rw [given_foldlM_fillMember h hfield habsent hdraft]
    exact h.not_given field hfield
  obtain ⟨filled, hfill, hsame⟩ := hvalue draft hgiven
  refine ⟨filled, (foldlM_fillMember_middle_iff h hfield).2 ⟨draft, ?_, hgiven, hfill⟩,
    hsame.trans hfinish⟩
  rwa [List.append_nil]

/-- The value of an item can be changed to one that makes no difference in the end. -/
theorem record_array_change {field : RecordField δ} {depth : Nat} {front back : List Doc}
    {item item' : Doc} {stop : Stop} {a : α} (hfield : fields[front.length]? = some field)
    (hitem : ∀ draft filled,
      (keyed fields (front ++ item :: back)).foldlM (fillMember fields depth) blank =
        .ok filled → field.fill draft depth item = .ok filled →
      ∃ filled', field.fill draft depth item' = .ok filled' ∧ finish filled' = finish filled)
    (ha : record label fields blank (depth + 1) (.array (front ++ item :: back) stop) >>= finish =
      .ok a) :
    record label fields blank (depth + 1) (.array (front ++ item' :: back) stop) >>= finish =
      .ok a := by
  rw [record_array_bind_eq_ok_iff h] at ha ⊢
  obtain ⟨⟨hlength, homissible⟩, hstop, hmakes⟩ := ha
  rw [keyed_append_cons hfield] at hitem hmakes ⊢
  refine ⟨⟨?_, ?_⟩, hstop, makes_change h (List.mem_of_getElem? hfield) hitem hmakes⟩
  · simpa using hlength
  · simpa using homissible

/-- The first field that an array leaves out can be written if it makes no difference in the end. -/
theorem record_array_concat {field : RecordField δ} {depth : Nat} {items : List Doc} {value : Doc}
    {stop : Stop} {a : α} (hfield : fields[items.length]? = some field)
    (hvalue : ∀ draft, field.given draft = false →
      ∃ filled, field.fill draft depth value = .ok filled ∧ finish filled = finish draft)
    (ha : record label fields blank (depth + 1) (.array items stop) >>= finish = .ok a) :
    record label fields blank (depth + 1) (.array (items ++ [value]) stop) >>= finish = .ok a := by
  rw [record_array_bind_eq_ok_iff h] at ha ⊢
  obtain ⟨⟨-, homissible⟩, hstop, hmakes⟩ := ha
  have hlength := (List.getElem?_eq_some_iff.1 hfield).1
  rw [List.length_append]
  refine ⟨⟨hlength, fun other hother => homissible other ?_⟩, hstop, ?_⟩
  · -- One field less is left out.
    exact (List.drop_sublist_drop_left fields (Nat.le_add_right _ 1)).subset hother
  · rw [keyed_append_cons hfield, keyed, keyed, List.zipWith_nil_right]
    exact makes_concat h (List.mem_of_getElem? hfield)
      (name_ne_of_mem_keyed h.nodup_names hfield) hvalue hmakes

end Record

/-! ## Shapes -/

/-- A field of a record is as a shape tells: it has the name, it respects the changes within its
value, and the value that stands for it if it is absent makes no difference. -/
structure Suits (least : Nat) (finish : δ → Except DecodeError α) (shape : FieldShape)
    (field : RecordField δ) : Prop where
  name_eq : shape.name = field.name
  respects : ∀ draft, Respects least (field.fill draft) shape.inside
  blank : ∀ value, shape.blank = some value → ∀ depth draft, least ≤ depth →
    field.given draft = false →
      ∃ filled, field.fill draft depth value = .ok filled ∧ finish filled = finish draft

theorem suits_of {β : Type} {least : Nat} {finish : δ → Except DecodeError α} {shape : FieldShape}
    {omissible : Bool} {get : δ → Option β} {set : δ → β → δ} {decode : Decoder β}
    (hinside : Respects least decode shape.inside)
    (hblank : ∀ value, shape.blank = some value →
      ∃ b, (∀ depth, least ≤ depth → decode depth value = .ok b) ∧
        ∀ draft, get draft = none → finish (set draft b) = finish draft) :
    Suits least finish shape (.of shape.name omissible get set decode) where
  name_eq := rfl
  respects := by
    intro draft depth doc doc' filled hleast hedit hfill
    obtain ⟨b, hb, rfl⟩ := map_eq_ok_iff.1 hfill
    exact map_eq_ok_iff.2 ⟨b, hinside _ _ _ _ hleast hedit hb, rfl⟩
  blank := by
    intro value hvalue depth draft hleast hgiven
    obtain ⟨b, hb, hfinish⟩ := hblank value hvalue
    exact ⟨set draft b, map_eq_ok_iff.2 ⟨b, hb depth hleast, rfl⟩,
      hfinish draft (Option.not_isSome_iff_eq_none.1 (Bool.eq_false_iff.1 hgiven))⟩

theorem respects_nothing {least : Nat} {decode : Decoder α} :
    Respects least decode fun _ _ _ => False :=
  fun _ _ _ _ _ hedit => hedit.elim

/-- A record is respected in the changes that its shape allows. -/
theorem respects_record {label : String} {fields : List (RecordField δ)} {blank : δ}
    {finish : δ → Except DecodeError α} {shape : List FieldShape} {least : Nat}
    (h : Separate fields blank) (hshape : List.Forall₂ (Suits least finish) shape fields) :
    Respects (least + 1) (fun depth doc => record label fields blank depth doc >>= finish)
      (RecordEdit shape) := by
  intro depth doc doc' a hleast hedit ha
  -- A record opens a bracket, so there is one level less for the values of its fields.
  obtain ⟨depth, rfl⟩ : ∃ inner, depth = inner + 1 := ⟨depth - 1, by omega⟩
  replace hleast := Nat.le_of_succ_le_succ hleast
  have hnames : shape.map FieldShape.name = fields.map RecordField.name :=
    map_eq_map_of_forall₂ hshape fun _ _ hsuits => hsuits.name_eq
  have hmem : ∀ field ∈ shape, ∃ found ∈ fields, Suits least finish field found := by
    intro field hfield
    obtain ⟨n, hn⟩ := List.mem_iff_getElem?.1 hfield
    obtain ⟨found, hfound, hsuits⟩ := exists_getElem?_of_forall₂ hshape hn
    exact ⟨found, List.mem_of_getElem? hfound, hsuits⟩
  cases hedit with
  | permute hperm =>
    obtain ⟨hstop, draft, hdraft, hfinish⟩ := record_object_bind_eq_ok_iff.1 ha
    exact record_object_bind_eq_ok_iff.2
      ⟨hstop, draft, foldlM_fillMember_of_perm h hperm hdraft, hfinish⟩
  | addUnknown hname hvalue =>
    -- The first member leaves the record as blank as it was.
    obtain ⟨hstop, draft, hdraft, hfinish⟩ := record_object_bind_eq_ok_iff.1 ha
    rw [hnames] at hname
    have hskip := fillMember_of_unknown h hname hvalue.skipFlaw?_eq_none depth blank
    exact record_object_bind_eq_ok_iff.2
      ⟨hstop, draft, foldlM_cons_eq_ok_iff.2 ⟨blank, hskip, hdraft⟩, hfinish⟩
  | writeBlank hfield hblank habsent =>
    obtain ⟨found, hfound, hsuits⟩ := hmem _ hfield
    obtain ⟨hstop, hmakes⟩ := record_object_bind_eq_ok_iff.1 ha
    rw [hsuits.name_eq] at habsent ⊢
    exact record_object_bind_eq_ok_iff.2 ⟨hstop, makes_concat h hfound habsent
      (fun draft => hsuits.blank _ hblank depth draft hleast) hmakes⟩
  | appendBlank hfield hblank =>
    obtain ⟨found, hfound, hsuits⟩ := exists_getElem?_of_forall₂ hshape hfield
    exact record_array_concat h hfound (fun draft => hsuits.blank _ hblank depth draft hleast) ha
  | changeMember hfield hinside =>
    obtain ⟨found, hfound, hsuits⟩ := hmem _ hfield
    obtain ⟨hstop, hmakes⟩ := record_object_bind_eq_ok_iff.1 ha
    rw [hsuits.name_eq] at hmakes ⊢
    exact record_object_bind_eq_ok_iff.2 ⟨hstop, makes_change h hfound
      (fun draft filled _ hfill =>
        ⟨filled, hsuits.respects draft _ _ _ filled hleast hinside hfill, rfl⟩) hmakes⟩
  | changeItem hfield hinside =>
    -- The same as for an object, once the items have names.
    obtain ⟨found, hfound, hsuits⟩ := exists_getElem?_of_forall₂ hshape hfield
    exact record_array_change h hfound (fun draft filled _ hfill =>
      ⟨filled, hsuits.respects draft _ _ _ filled hleast hinside hfill, rfl⟩) ha

end Decoder

end RegistrySchema.Snapshot
