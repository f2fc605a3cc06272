import Mathlib.Data.List.Pairwise
import RegistrySchema.Proofs.Catalog
import RegistrySchema.Proofs.Snapshot.Decoding

/-!
# The members of a record

Fields that can be told apart by their names may be filled in in any order, so a record is read
alike from all orders of its members (`foldlM_fillMember_of_perm`), and what one member fills in can
be looked at as if it came last (`foldlM_fillMember_middle_iff`). The items of an array are members
with the names of the fields in their order (`record_array_eq_ok_iff`).
-/

namespace RegistrySchema.Snapshot.Decoder

open Json (Doc Key Stop)

variable {δ α β : Type}

/-! ## Fields -/

/-- Fields that leave each other alone: neither fills in the other, and the order in which they are
filled in does not matter. -/
structure RecordField.Independent (field other : RecordField δ) : Prop where
  given_left : ∀ {draft filled depth doc},
    field.fill draft depth doc = .ok filled → other.given filled = other.given draft
  given_right : ∀ {draft filled depth doc},
    other.fill draft depth doc = .ok filled → field.given filled = field.given draft
  comm : ∀ {draft depth doc doc' last},
    (∃ next, field.fill draft depth doc = .ok next ∧ other.fill next depth doc' = .ok last) ↔
      ∃ next, other.fill draft depth doc' = .ok next ∧ field.fill next depth doc = .ok last

instance : Std.Symm (@RecordField.Independent δ) :=
  ⟨fun _ _ h => ⟨h.given_right, h.given_left, h.comm.symm⟩⟩

/-- Fields that are kept in different places of a record are independent. -/
theorem RecordField.independent_of {name name' : String} {omissible omissible' : Bool}
    {get : δ → Option α} {set : δ → α → δ} {decode : Decoder α} {get' : δ → Option β}
    {set' : δ → β → δ} {decode' : Decoder β} (hget : ∀ draft a, get' (set draft a) = get' draft)
    (hget' : ∀ draft b, get (set' draft b) = get draft)
    (hset : ∀ draft a b, set' (set draft a) b = set (set' draft b) a) :
    (RecordField.of name omissible get set decode).Independent
      (RecordField.of name' omissible' get' set' decode') where
  given_left h := by
    obtain ⟨a, -, rfl⟩ := map_eq_ok_iff.1 h
    exact congrArg Option.isSome (hget _ a)
  given_right h := by
    obtain ⟨b, -, rfl⟩ := map_eq_ok_iff.1 h
    exact congrArg Option.isSome (hget' _ b)
  comm := by
    intro draft depth doc doc' last
    simp only [RecordField.of, map_eq_ok_iff]
    constructor
    · rintro ⟨_, ⟨a, ha, rfl⟩, b, hb, rfl⟩
      exact ⟨set' draft b, ⟨b, hb, rfl⟩, a, ha, (hset draft a b).symm⟩
    · rintro ⟨_, ⟨b, hb, rfl⟩, a, ha, rfl⟩
      exact ⟨set draft a, ⟨a, ha, rfl⟩, b, hb, hset draft a b⟩

/-- Fields with names of their own that are independent and all still to be filled in. -/
structure Separate (fields : List (RecordField δ)) (blank : δ) : Prop where
  nodup_names : (fields.map RecordField.name).Nodup
  not_given : ∀ field ∈ fields, field.given blank = false
  given_fill : ∀ field ∈ fields, ∀ draft depth doc filled,
    field.fill draft depth doc = .ok filled → field.given filled = true
  independent : fields.Pairwise RecordField.Independent

namespace Separate

variable {fields : List (RecordField δ)} {blank : δ} (h : Separate fields blank)

include h

theorem eq_of_name_eq {field other : RecordField δ} (hfield : field ∈ fields)
    (hother : other ∈ fields) (hname : field.name = other.name) : field = other :=
  List.inj_on_of_nodup_map h.nodup_names hfield hother hname

theorem independent_of_name_ne {field other : RecordField δ} (hfield : field ∈ fields)
    (hother : other ∈ fields) (hname : field.name ≠ other.name) : field.Independent other :=
  h.independent.forall hfield hother fun heq => hname (congrArg RecordField.name heq)

theorem find?_name {field : RecordField δ} (hfield : field ∈ fields) :
    fields.find? (fun other => other.name = field.name) = some field :=
  find?_eq_some_of_nodup_map RecordField.name h.nodup_names hfield

end Separate

/-! ## Members -/

/-- How a record takes in a member: the member fills in the field that it names, or it names none
and can be passed over. -/
inductive Takes (fields : List (RecordField δ)) (depth : Nat) (draft : δ) :
    Key × Doc → δ → Prop
  | known {field : RecordField δ} {value : Doc} {filled : δ} (hfield : field ∈ fields)
      (hgiven : field.given draft = false) (hfill : field.fill draft depth value = .ok filled) :
      Takes fields depth draft (.text field.name, value) filled
  | unknown {name : String} {value : Doc} (hname : name ∉ fields.map RecordField.name)
      (hvalue : value.skipFlaw? = none) : Takes fields depth draft (.text name, value) draft

/-- What comes after a place is read if there is no flaw. -/
theorem refuse_bind_eq_ok_iff {flaw? : Option Json.Flaw} {next : Except DecodeError α} {a : α} :
    (refuse flaw? >>= fun _ => next) = .ok a ↔ flaw? = none ∧ next = .ok a := by
  cases flaw? <;> simp [refuse, bind, Except.bind]

theorem find?_name_eq_none_iff {fields : List (RecordField δ)} {name : String} :
    fields.find? (fun field => field.name = name) = none ↔ name ∉ fields.map RecordField.name := by
  simp [List.find?_eq_none]

section Members

variable {fields : List (RecordField δ)} {blank : δ} (h : Separate fields blank)

include h

theorem fillMember_eq_ok_iff {depth : Nat} {draft next : δ} {member : Key × Doc} :
    fillMember fields depth draft member = .ok next ↔ Takes fields depth draft member next := by
  obtain ⟨key, value⟩ := member
  constructor
  · intro hfill
    obtain ⟨name, hname, hrest⟩ := bind_eq_ok_iff.1 hfill
    obtain rfl : key = .text name := by
      cases key with
      | text s => exact congrArg Key.text (Except.ok.inj hname)
      | unpaired => cases hname
    split at hrest
    · next field hfind =>
      obtain rfl : field.name = name := by simpa using List.find?_some hfind
      split at hrest
      · cases hrest
      · next hgiven =>
        exact .known (List.mem_of_find?_eq_some hfind) (by simpa using hgiven) hrest
    · next hfind =>
      obtain ⟨hvalue, hlast⟩ := refuse_bind_eq_ok_iff.1 hrest
      cases hlast
      exact .unknown (find?_name_eq_none_iff.1 hfind) hvalue
  · rintro (⟨hfield, hgiven, hfill⟩ | ⟨hname, hvalue⟩)
    · simp [fillMember, keyText, h.find?_name hfield, hgiven, hfill, bind, Except.bind]
    · simp [fillMember, keyText, find?_name_eq_none_iff.2 hname, hvalue, refuse, bind, Except.bind,
        pure, Except.pure]

/-- A member with the name of a field fills it in, if that was not done before. -/
theorem fillMember_name_eq_ok_iff {field : RecordField δ} (hfield : field ∈ fields) {depth : Nat}
    {draft next : δ} {value : Doc} :
    fillMember fields depth draft (.text field.name, value) = .ok next ↔
      field.given draft = false ∧ field.fill draft depth value = .ok next := by
  simp only [fillMember, keyText, h.find?_name hfield, bind, Except.bind]
  cases field.given draft <;> simp

/-- Two members that are taken in one after the other can change places. -/
theorem fillMember_swap {depth : Nat} {draft next last : δ} {first second : Key × Doc}
    (hfirst : fillMember fields depth draft first = .ok next)
    (hsecond : fillMember fields depth next second = .ok last) :
    ∃ other, fillMember fields depth draft second = .ok other ∧
      fillMember fields depth other first = .ok last := by
  simp only [fillMember_eq_ok_iff h] at *
  cases hfirst with
  | unknown hname hvalue => exact ⟨last, hsecond, .unknown hname hvalue⟩
  | @known field value _ hfield hgiven hfill =>
    cases hsecond with
    | unknown hname hvalue => exact ⟨draft, .unknown hname hvalue, .known hfield hgiven hfill⟩
    | @known other value' _ hother hgiven' hfill' =>
      by_cases hname : field.name = other.name
      · -- A field is not filled in twice.
        obtain rfl := h.eq_of_name_eq hfield hother hname
        rw [h.given_fill field hfield _ _ _ _ hfill] at hgiven'
        cases hgiven'
      · have hind := h.independent_of_name_ne hfield hother hname
        obtain ⟨middle, hmiddle, hlast⟩ := hind.comm.1 ⟨next, hfill, hfill'⟩
        refine ⟨middle, .known hother ?_ hmiddle, .known hfield ?_ hlast⟩
        · rw [← hind.given_left hfill]
          exact hgiven'
        · rw [hind.given_right hmiddle]
          exact hgiven

/-- A record is the same whatever the order of its members. -/
theorem foldlM_fillMember_of_perm {depth : Nat} {draft last : δ} {members others : List (Key × Doc)}
    (hperm : members.Perm others)
    (hfill : members.foldlM (fillMember fields depth) draft = .ok last) :
    others.foldlM (fillMember fields depth) draft = .ok last := by
  refine foldlM_eq_ok_of_perm ?_ hperm hfill
  intro draft first second next last hfirst hsecond
  exact fillMember_swap h hfirst hsecond

/-- A member with the name of a field fills it in as if it came last. -/
theorem foldlM_fillMember_middle_iff {field : RecordField δ} (hfield : field ∈ fields) {depth : Nat}
    {draft last : δ} {front back : List (Key × Doc)} {value : Doc} :
    (front ++ (.text field.name, value) :: back).foldlM (fillMember fields depth) draft = .ok last ↔
      ∃ next, (front ++ back).foldlM (fillMember fields depth) draft = .ok next ∧
        field.given next = false ∧ field.fill next depth value = .ok last := by
  have hperm : (front ++ (.text field.name, value) :: back).Perm
      (front ++ back ++ [(.text field.name, value)]) :=
    List.perm_middle.trans (List.perm_append_singleton _ _).symm
  simp only [← fillMember_name_eq_ok_iff h hfield]
  rw [← foldlM_concat_eq_ok_iff]
  exact ⟨foldlM_fillMember_of_perm h hperm, foldlM_fillMember_of_perm h hperm.symm⟩

/-- An unknown member is passed over. -/
theorem fillMember_of_unknown {name : String} (hname : name ∉ fields.map RecordField.name)
    {value : Doc} (hvalue : value.skipFlaw? = none) (depth : Nat) (draft : δ) :
    fillMember fields depth draft (.text name, value) = .ok draft :=
  (fillMember_eq_ok_iff h).2 (.unknown hname hvalue)

/-- What a member with the name of a field fills in is there in the end. -/
theorem exists_fill_of_mem {field : RecordField δ} (hfield : field ∈ fields) {depth : Nat}
    {draft last : δ} {members : List (Key × Doc)} {value : Doc}
    (hmember : (.text field.name, value) ∈ members)
    (hfill : members.foldlM (fillMember fields depth) draft = .ok last) :
    ∃ next, field.fill next depth value = .ok last := by
  obtain ⟨front, back, rfl⟩ := List.append_of_mem hmember
  obtain ⟨next, -, -, hlast⟩ := (foldlM_fillMember_middle_iff h hfield).1 hfill
  exact ⟨next, hlast⟩

/-- A field that no member names stays as it is. -/
theorem given_foldlM_fillMember {field : RecordField δ} (hfield : field ∈ fields) {depth : Nat}
    {draft last : δ} {members : List (Key × Doc)}
    (hname : ∀ member ∈ members, member.1 ≠ .text field.name)
    (hfill : members.foldlM (fillMember fields depth) draft = .ok last) :
    field.given last = field.given draft := by
  induction members generalizing draft with
  | nil =>
    cases hfill
    rfl
  | cons member members ih =>
    obtain ⟨hmember, hmembers⟩ := List.forall_mem_cons.1 hname
    obtain ⟨next, hnext, hrest⟩ := foldlM_cons_eq_ok_iff.1 hfill
    rw [ih hmembers hrest]
    cases (fillMember_eq_ok_iff h).1 hnext with
    | unknown => rfl
    | known hother _ hfilled =>
      have hne := fun heq => hmember (congrArg Key.text heq)
      exact (h.independent_of_name_ne hother hfield hne).given_left hfilled

end Members

/-- What was read counts if there is no flaw behind it. -/
theorem bind_refuse_eq_ok_iff {flaw? : Option Json.Flaw} {first : Except DecodeError α} {a : α} :
    (first >>= fun found => refuse flaw? >>= fun _ => pure found) = .ok a ↔
      flaw? = none ∧ first = .ok a := by
  rw [bind_eq_ok_iff]
  simp only [refuse_bind_eq_ok_iff]
  constructor
  · rintro ⟨found, hfound, hflaw, hlast⟩
    cases hlast
    exact ⟨hflaw, hfound⟩
  · rintro ⟨hflaw, hfirst⟩
    exact ⟨a, hfirst, hflaw, rfl⟩

theorem record_object_eq_ok_iff {label : String} {fields : List (RecordField δ)} {blank last : δ}
    {depth : Nat} {members : List (Key × Doc)} {stop : Stop} :
    record label fields blank (depth + 1) (.object members stop) = .ok last ↔
      stop.flaw? = none ∧ members.foldlM (fillMember fields depth) blank = .ok last :=
  bind_refuse_eq_ok_iff

/-! ## Items -/

/-- The items of an array under the names of fields. -/
def keyed (fields : List (RecordField δ)) (items : List Doc) : List (Key × Doc) :=
  List.zipWith (fun field item => (.text field.name, item)) fields items

/-- An item under the name of the field at its place. -/
theorem keyed_append_cons {fields : List (RecordField δ)} {field : RecordField δ} {front : List Doc}
    (hfield : fields[front.length]? = some field) (item : Doc) (back : List Doc) :
    keyed fields (front ++ item :: back) =
      keyed fields front ++ (.text field.name, item) ::
        keyed (fields.drop (front.length + 1)) back := by
  induction front generalizing fields with
  | nil =>
    cases fields with
    | nil => cases hfield
    | cons other fields =>
      obtain rfl : other = field := Option.some.inj hfield
      rfl
  | cons first front ih =>
    cases fields with
    | nil => cases hfield
    | cons other fields => exact congrArg (_ :: ·) (ih hfield)

/-- The items in front of a place do not have the name of its field. -/
theorem name_ne_of_mem_keyed {fields : List (RecordField δ)} {field : RecordField δ}
    (hnames : (fields.map RecordField.name).Nodup) {items : List Doc}
    (hfield : fields[items.length]? = some field) :
    ∀ member ∈ keyed fields items, member.1 ≠ .text field.name := by
  induction items generalizing fields with
  | nil => simp [keyed]
  | cons item items ih =>
    cases fields with
    | nil => cases hfield
    | cons other fields =>
      obtain ⟨hother, hnames⟩ := List.nodup_cons.1 hnames
      have hrest : fields[items.length]? = some field := hfield
      refine List.forall_mem_cons.2 ⟨fun hname => hother ?_, ih hnames hrest⟩
      rw [Key.text.inj hname]
      exact List.mem_map_of_mem (List.mem_of_getElem? hrest)

/-- Without items the fields that are left stay as they are, and each may be left out. -/
theorem fillItems_nil_eq_ok_iff {label : String} {size : Nat} {stop : Stop} {depth : Nat}
    {draft last : δ} {count : Nat} {left : List (RecordField δ)} :
    fillItems label size stop depth draft count left [] = .ok last ↔
      (∀ field ∈ left, field.omissible = true) ∧ stop.flaw? = none ∧ draft = last := by
  induction left generalizing count with
  | nil =>
    rw [fillItems, refuse_bind_eq_ok_iff]
    simp [pure, Except.pure]
  | cons field left ih =>
    rw [fillItems, refuse_bind_eq_ok_iff, List.forall_mem_cons]
    split
    · next homissible =>
      rw [ih]
      tauto
    · next homissible => simp [homissible]

/-- The fields that are left take the items that are left, if nothing was filled in for them. -/
theorem fillItems_eq_ok_iff {label : String} {size : Nat} {stop : Stop} {depth : Nat}
    {fields : List (RecordField δ)} {blank : δ} (h : Separate fields blank)
    {left : List (RecordField δ)} (hleft : left.Sublist fields) {items : List Doc}
    {draft last : δ} {count : Nat} (hdraft : ∀ field ∈ left, field.given draft = false) :
    fillItems label size stop depth draft count left items = .ok last ↔
      (items.length ≤ left.length ∧ ∀ field ∈ left.drop items.length, field.omissible = true) ∧
        stop.flaw? = none ∧
          (keyed left items).foldlM (fillMember fields depth) draft = .ok last := by
  induction left generalizing items draft count with
  | nil =>
    cases items with
    | nil =>
      rw [fillItems_nil_eq_ok_iff]
      simp [keyed, pure, Except.pure]
    | cons item items => simp [fillItems]
  | cons field left ih =>
    cases items with
    | nil =>
      rw [fillItems_nil_eq_ok_iff]
      simp [keyed, pure, Except.pure]
    | cons item items =>
      have hfield : field ∈ fields := hleft.subset List.mem_cons_self
      obtain ⟨hgiven, hrest⟩ := List.forall_mem_cons.1 hdraft
      have hcons : keyed (field :: left) (item :: items) =
          (.text field.name, item) :: keyed left items := rfl
      rw [fillItems, bind_eq_ok_iff, hcons, foldlM_cons_eq_ok_iff, List.length_cons,
        List.length_cons, List.drop_succ_cons, Nat.add_le_add_iff_right]
      simp only [fillMember_name_eq_ok_iff h hfield, hgiven, true_and]
      -- The item fills in its own field and leaves the fields behind it alone.
      have hnext : ∀ next, field.fill draft depth item = .ok next →
          ∀ other ∈ left, other.given next = false := by
        intro next hnext other hother
        have hind := List.rel_of_pairwise_cons (h.independent.sublist hleft) hother
        rw [hind.given_left hnext]
        exact hrest other hother
      have hsub := (List.sublist_cons_self field left).trans hleft
      constructor
      · rintro ⟨next, hfilled, hlast⟩
        obtain ⟨hlength, hstop, hitems⟩ := (ih hsub (hnext next hfilled)).1 hlast
        exact ⟨hlength, hstop, next, hfilled, hitems⟩
      · rintro ⟨hlength, hstop, next, hfilled, hitems⟩
        exact ⟨next, hfilled, (ih hsub (hnext next hfilled)).2 ⟨hlength, hstop, hitems⟩⟩

/-- An array is read as the object that has its items under the names of the fields, as long as it
has an item for each field that must not be left out, and no more than there are fields. -/
theorem record_array_eq_ok_iff {label : String} {fields : List (RecordField δ)} {blank last : δ}
    (h : Separate fields blank) {depth : Nat} {items : List Doc} {stop : Stop} :
    record label fields blank (depth + 1) (.array items stop) = .ok last ↔
      (items.length ≤ fields.length ∧
        ∀ field ∈ fields.drop items.length, field.omissible = true) ∧
      record label fields blank (depth + 1) (.object (keyed fields items) stop) = .ok last := by
  rw [record_object_eq_ok_iff]
  exact fillItems_eq_ok_iff h (List.Sublist.refl fields) h.not_given

end RegistrySchema.Snapshot.Decoder
