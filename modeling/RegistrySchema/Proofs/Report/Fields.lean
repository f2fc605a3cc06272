import RegistrySchema.Proofs.Fallible
import RegistrySchema.Proofs.Pointwise
import RegistrySchema.Proofs.Text.Cutting
import RegistrySchema.Proofs.Text.Trimming
import RegistrySchema.Report.Reader

/-!
# Fields of a report line

When a name, a list of items or a list of pairs is read from the text that was written for it.
For each kind of field there is a predicate on what is written, and two facts: whatever the
reader returns satisfies the predicate (up to the end of a list), and what satisfies the
predicate is read back.

* `NameFits`: the name does not take part in a separator.
* `ItemsFit`: the items are not empty, hold no comma, and the last one does not end in white space.
* `PairFits`: no space, no colon in the property, and a tag that is its own reading.
-/

namespace RegistrySchema.Report

/-! ## Names -/

/-- A name ends where it should if the separator behind it is the first one: neither does the
name hold a separator, nor does it form one with the first two characters behind it. -/
def NameFits (name : List Char) : Prop := ¬ nameSeparator <:+: name ++ " -".toList

instance (name : List Char) : Decidable (NameFits name) :=
  inferInstanceAs (Decidable (¬ nameSeparator <:+: name ++ " -".toList))

/-- A dash at the end takes part in the separator only behind a space. -/
example : NameFits "a-".toList ∧ ¬ NameFits "a -".toList := by decide

theorem nameSeparator_ne_nil : nameSeparator ≠ [] := by decide

/-- A text is cut behind a name iff the name fits. -/
theorem splitOnce_nameSeparator_eq_some_iff {cs name payload : List Char} :
    Text.splitOnce nameSeparator cs = some (name, payload) ↔
      cs = name ++ nameSeparator ++ payload ∧ NameFits name := by
  have hdropLast : nameSeparator.dropLast = " -".toList := by decide
  rw [Text.splitOnce_eq_some_iff nameSeparator_ne_nil, hdropLast, NameFits]

/-- A separator can only start inside a name or with a dash behind a space at its end. -/
theorem nameFits_iff {name : List Char} :
    NameFits name ↔ ¬ nameSeparator <:+: name ∧ ¬ " -".toList <:+ name := by
  rw [NameFits, ← not_or, not_iff_not, List.infix_append_iff]
  constructor
  · rintro (h | h | ⟨front, back, heq, hfront, hback⟩)
    · exact Or.inl h
    · have hle := h.length_le
      exact absurd hle (by decide)
    · -- The part of the separator behind the name is empty, a space, or a space and a dash.
      have hsep : nameSeparator = [' ', '-', ' '] := by decide
      have hdash : " -".toList = [' ', '-'] := by decide
      rw [hsep] at heq
      rw [hdash] at hback ⊢
      match front, back with
      | [], back =>
        rw [← List.nil_append back, ← heq] at hback
        exact absurd hback.length_le (by decide)
      | [a], back =>
        rw [List.singleton_append, List.cons.injEq] at heq
        rw [← heq.2] at hback
        exact absurd hback (by decide)
      | [a, b], back =>
        simp only [List.cons_append, List.nil_append, List.cons.injEq] at heq
        obtain ⟨rfl, rfl, -⟩ := heq
        exact Or.inr hfront
      | [a, b, c], back =>
        simp only [List.cons_append, List.nil_append, List.cons.injEq] at heq
        obtain ⟨rfl, rfl, rfl, -⟩ := heq
        exact Or.inl (hsep ▸ hfront.isInfix)
      | a :: b :: c :: d :: front, back => simp at heq
  · rintro (h | ⟨front, rfl⟩)
    · exact Or.inl h
    · refine Or.inr (Or.inr ⟨" -".toList, [' '], by decide, List.suffix_append _ _, by decide⟩)

/-- The name that is read from a body always fits. -/
theorem nameFits_splitName (body : List Char) : NameFits (splitName body).1 := by
  unfold splitName
  split
  · next name payload h =>
    exact (splitOnce_nameSeparator_eq_some_iff.1 h).2
  · next hnone =>
    -- Without a separator the body is trimmed, and a separator at its end may be left as a dash.
    rw [Text.splitOnce_eq_none_iff] at hnone
    have htrim : ¬ nameSeparator <:+: Text.trimEnd body := fun h =>
      hnone (h.trans (Text.isPrefix_dropEndWhile _ _).isInfix)
    have hdash : Text.trimEnd nameSeparator = " -".toList := by decide
    dsimp only
    split
    · next name h =>
      rw [Text.dropTail?_eq_some_iff, hdash] at h
      rw [NameFits, ← h]
      exact htrim
    · next h =>
      rw [nameFits_iff]
      refine ⟨htrim, ?_⟩
      rintro ⟨name, hname⟩
      rw [← hdash] at hname
      rw [Text.dropTail?_eq_some_iff.2 hname.symm] at h
      cases h

/-- A fitting name is read back whatever its payload. -/
theorem splitName_append {name : List Char} (h : NameFits name) (payload : List Char) :
    splitName (name ++ nameSeparator ++ payload) = (name, payload) := by
  rw [splitName, splitOnce_nameSeparator_eq_some_iff.2 ⟨rfl, h⟩]

/-- Name and payload are infixes of the body. -/
theorem infix_splitName (body : List Char) :
    (splitName body).1 <:+: body ∧ (splitName body).2 <:+: body := by
  have htrim : Text.trimEnd body <:+: body := (Text.isPrefix_dropEndWhile _ _).isInfix
  unfold splitName
  split
  · next parts h => exact Text.infix_of_splitOnce h
  · dsimp only
    split
    · next name h =>
      rw [Text.dropTail?_eq_some_iff] at h
      refine ⟨List.IsInfix.trans ?_ htrim, List.nil_infix⟩
      rw [h]
      exact (List.prefix_append _ _).isInfix
    · exact ⟨htrim, List.nil_infix⟩

/-! ## Lists of items -/

/-- Items that are read back from a list: none is empty or holds the separator, and the last one
does not end in white space, which is dropped at the end of a list. -/
structure ItemsFit (items : List String) : Prop where
  /-- No item is empty. -/
  ne_empty : ∀ item ∈ items, item ≠ ""
  /-- No item holds the separator. -/
  no_separator : ∀ item ∈ items, listSeparator ∉ item.toList
  /-- The last item keeps its end. -/
  last : ∀ item ∈ items.getLast?, Text.endsBlank item.toList = false

instance (items : List String) : Decidable (ItemsFit items) :=
  decidable_of_iff ((∀ item ∈ items, item ≠ "") ∧ (∀ item ∈ items, listSeparator ∉ item.toList) ∧
      ∀ item ∈ items.getLast?, Text.endsBlank item.toList = false)
    ⟨fun h => ⟨h.1, h.2.1, h.2.2⟩, fun h => ⟨h.ne_empty, h.no_separator, h.last⟩⟩

theorem isBlank_of_isTerminator {c : Char} (h : Line.isTerminator c = true) :
    Text.isBlank c = true := by
  rw [Line.isTerminator, Bool.or_eq_true, decide_eq_true_eq, decide_eq_true_eq] at h
  rcases h with rfl | rfl <;> decide

/-- A line terminator does not belong to a list. -/
theorem listItems_dropEndWhile (payload : List Char) :
    listItems (Text.dropEndWhile Line.isTerminator payload) = listItems payload := by
  rw [listItems, listItems, Text.trimEnd_dropEndWhile fun _ => isBlank_of_isTerminator]

/-- An item that is read is not empty, holds no separator and is an infix of the payload. -/
theorem of_mem_listItems {payload item : List Char} (h : item ∈ listItems payload) :
    item ≠ [] ∧ listSeparator ∉ item ∧ item <:+: payload := by
  rw [listItems, List.mem_filter] at h
  obtain ⟨hpiece, hne⟩ := h
  refine ⟨by simpa using hne, Text.not_mem_of_mem_pieces hpiece, ?_⟩
  exact (Text.infix_of_mem_pieces hpiece).trans (Text.isPrefix_dropEndWhile _ _).isInfix

theorem of_mem_map_listItems {payload : List Char} {items : List String}
    (h : (listItems payload).map String.ofList = items) :
    ∀ item ∈ items, item ≠ "" ∧ listSeparator ∉ item.toList := by
  rw [← h, List.forall_mem_map]
  intro part hpart
  obtain ⟨hne, hsep, -⟩ := of_mem_listItems hpart
  rw [String.toList_ofList]
  exact ⟨by simpa using hne, hsep⟩

/-- The items of a list as they come back when the end of the list is trimmed: the last item is
trimmed, and lost if nothing is left of it. -/
def trimmedItems (items : List String) : List String :=
  match items.getLast? with
  | none => []
  | some last =>
    let kept := Text.trimEnd last.toList
    if kept = [] then items.dropLast else items.dropLast ++ [String.ofList kept]

theorem trimmedItems_concat (front : List String) (last : String) :
    trimmedItems (front ++ [last]) =
      if Text.trimEnd last.toList = [] then front
      else front ++ [String.ofList (Text.trimEnd last.toList)] := by
  simp [trimmedItems]

/-- Trimming a list trims its last item: the comma before it is kept. -/
theorem trimEnd_joined_concat (front : List (List Char)) (last : List Char) :
    Text.trimEnd (Text.joined [listSeparator] (front ++ [last])) =
      Text.joined [listSeparator] (front ++ [Text.trimEnd last]) := by
  induction front with
  | nil => rfl
  | cons item front ih =>
    have hcomma : ∀ c, (item ++ [listSeparator]).getLast? = some c → Text.isBlank c = false := by
      intro c hc
      rw [List.getLast?_concat, Option.some.injEq] at hc
      rw [← hc]
      decide
    rw [List.cons_append, List.cons_append, Text.joined_cons_of_ne_nil _ _ (by simp),
      Text.joined_cons_of_ne_nil _ _ (by simp), ← ih]
    exact Text.dropEndWhile_append hcomma _

/-- What is read back of a list whose items are not empty and hold no comma. -/
theorem listItems_listText_eq_trimmedItems {items : List String}
    (hne : ∀ item ∈ items, item ≠ "") (hsep : ∀ item ∈ items, listSeparator ∉ item.toList) :
    (listItems (listText items)).map String.ofList = trimmedItems items := by
  rcases List.eq_nil_or_concat items with rfl | ⟨front, last, rfl⟩
  · rfl
  · rw [List.concat_eq_append, List.forall_mem_append, List.forall_mem_singleton] at hne hsep
    have hpieces : ∀ item ∈ front.map String.toList ++ [Text.trimEnd last.toList],
        listSeparator ∉ item := by
      rw [List.forall_mem_append, List.forall_mem_map, List.forall_mem_singleton]
      exact ⟨hsep.1, fun hmem => hsep.2 ((Text.isPrefix_dropEndWhile _ _).subset hmem)⟩
    have hfront : (front.map String.toList).filter (fun item => !item.isEmpty) =
        front.map String.toList := by
      rw [List.filter_eq_self, List.forall_mem_map]
      intro item hitem
      simpa using hne.1 item hitem
    have hback : (front.map String.toList).map String.ofList = front := by simp
    rw [List.concat_eq_append, listItems, listText, List.map_append, List.map_singleton,
      trimEnd_joined_concat, Text.pieces_joined (by simp) hpieces, List.filter_append, hfront,
      List.map_append, hback, trimmedItems_concat]
    by_cases hlost : Text.trimEnd last.toList = []
    · rw [if_pos hlost, hlost]
      exact List.append_nil front
    · have hkept : [Text.trimEnd last.toList].filter (fun item => !item.isEmpty) =
          [Text.trimEnd last.toList] := List.filter_cons_of_pos (by simpa using hlost)
      rw [if_neg hlost, hkept, List.map_singleton]

/-- Nothing is lost of a list iff its last item does not end in white space. -/
theorem trimmedItems_eq_self_iff {items : List String} (hne : ∀ item ∈ items, item ≠ "") :
    trimmedItems items = items ↔
      ∀ last ∈ items.getLast?, Text.endsBlank last.toList = false := by
  rcases List.eq_nil_or_concat items with rfl | ⟨front, last, rfl⟩
  · simp [trimmedItems]
  · rw [List.concat_eq_append] at hne ⊢
    have hlast : last ≠ "" := hne last (by simp)
    have hself : String.ofList (Text.trimEnd last.toList) = last ↔
        Text.endsBlank last.toList = false := by
      rw [← Text.trimEnd_eq_self_iff, ← String.toList_inj, String.toList_ofList]
    rw [trimmedItems_concat, List.getLast?_concat]
    simp only [Option.mem_def, Option.some.injEq, forall_eq', ← hself]
    by_cases hlost : Text.trimEnd last.toList = []
    · rw [if_pos hlost, hlost]
      simpa using hlast.symm
    · rw [if_neg hlost]
      simp

/-- Items are read back from their list iff they fit. -/
theorem listItems_listText_iff {items : List String} :
    (listItems (listText items)).map String.ofList = items ↔ ItemsFit items := by
  constructor
  · intro h
    have hitems := of_mem_map_listItems h
    have hne : ∀ item ∈ items, item ≠ "" := fun item hmem => (hitems item hmem).1
    have hsep : ∀ item ∈ items, listSeparator ∉ item.toList := fun item hmem =>
      (hitems item hmem).2
    rw [listItems_listText_eq_trimmedItems hne hsep] at h
    exact ⟨hne, hsep, (trimmedItems_eq_self_iff hne).1 h⟩
  · rintro ⟨hne, hsep, hlast⟩
    rw [listItems_listText_eq_trimmedItems hne hsep]
    exact (trimmedItems_eq_self_iff hne).2 hlast

/-! ## Pairs -/

/-- Pairs that are read back: the property holds neither a space nor a colon, the tag no space,
and the tag names no enum by one of the fixed words. -/
structure PairFits (pair : String × TypeTag) : Prop where
  /-- The property is one word. -/
  property_space : ' ' ∉ pair.1.toList
  /-- The property ends at the first colon. -/
  property_colon : propertySeparator ∉ pair.1.toList
  /-- The tag is one word. -/
  tag_space : ' ' ∉ pair.2.text.toList
  /-- The tag is what its text stands for. -/
  tag_own : pair.2 ≠ .named "u8" ∧ pair.2 ≠ .named "bool" ∧ pair.2 ≠ .named "TODO"

instance (pair : String × TypeTag) : Decidable (PairFits pair) :=
  decidable_of_iff (' ' ∉ pair.1.toList ∧ propertySeparator ∉ pair.1.toList ∧
      ' ' ∉ pair.2.text.toList ∧
      pair.2 ≠ .named "u8" ∧ pair.2 ≠ .named "bool" ∧ pair.2 ≠ .named "TODO")
    ⟨fun h => ⟨h.1, h.2.1, h.2.2.1, h.2.2.2⟩,
      fun h => ⟨h.property_space, h.property_colon, h.tag_space, h.tag_own⟩⟩

/-- A tag is its own reading iff it names no enum by one of the fixed words. -/
theorem ofText_text_eq_self_iff {tag : TypeTag} :
    TypeTag.ofText tag.text = tag ↔
      tag ≠ .named "u8" ∧ tag ≠ .named "bool" ∧ tag ≠ .named "TODO" := by
  cases tag with
  | u8 => simp [TypeTag.text, TypeTag.ofText]
  | bool => simp [TypeTag.text, TypeTag.ofText]
  | unclassified => simp [TypeTag.text, TypeTag.ofText]
  | named name =>
    by_cases hu8 : name = "u8" <;> by_cases hbool : name = "bool" <;>
      by_cases htodo : name = "TODO" <;> simp [TypeTag.text, TypeTag.ofText, hu8, hbool, htodo]

/-- The word of a pair, without the space behind it. -/
def pairWord (pair : String × TypeTag) : List Char :=
  pair.1.toList ++ propertySeparator :: pair.2.text.toList

theorem pairText_eq (pair : String × TypeTag) : pairText pair = pairWord pair ++ [' '] := by
  simp [pairText, pairWord]

/-- A word is read as a pair iff it is the word of that pair and the pair fits, given that the
word is one. -/
theorem readPair_eq_ok_iff {word : List Char} (hspace : ' ' ∉ word) {pair : String × TypeTag} :
    readPair word = .ok pair ↔ word = pairWord pair ∧ PairFits pair := by
  obtain ⟨property, tag⟩ := pair
  unfold readPair
  split
  · next before after h =>
    rw [Text.splitOnce_singleton_eq_some_iff] at h
    obtain ⟨rfl, hcolon⟩ := h
    rw [List.mem_append, List.mem_cons, not_or, not_or] at hspace
    obtain ⟨hbefore, -, hafter⟩ := hspace
    rw [Except.ok.injEq, Prod.mk.injEq]
    constructor
    · rintro ⟨rfl, rfl⟩
      have hown := ofText_text_eq_self_iff.1
        (congrArg TypeTag.ofText (TypeTag.text_ofText (String.ofList after)))
      refine ⟨by simp [pairWord, TypeTag.text_ofText], ?_, ?_, ?_, hown⟩
      · rwa [String.toList_ofList]
      · rwa [String.toList_ofList]
      · rwa [TypeTag.text_ofText, String.toList_ofList]
    · rintro ⟨hword, hfits⟩
      -- The word is cut at its first colon, which is the one behind the property.
      have hsplit := Text.splitOnce_singleton_eq_some_iff.2 ⟨hword, hfits.property_colon⟩
      rw [Text.splitOnce_singleton_eq_some_iff.2 ⟨rfl, hcolon⟩, Option.some.injEq,
        Prod.mk.injEq] at hsplit
      obtain ⟨rfl, rfl⟩ := hsplit
      rw [String.ofList_toList, String.ofList_toList]
      exact ⟨rfl, ofText_text_eq_self_iff.2 hfits.tag_own⟩
  · next hnone =>
    rw [Text.splitOnce_eq_none_iff, List.singleton_infix_iff] at hnone
    simp only [reduceCtorEq, false_iff, not_and]
    rintro rfl
    exact absurd (by simp [pairWord]) hnone

/-- A word is a pair iff it has a colon. -/
theorem exists_readPair_ok_iff {word : List Char} :
    (∃ pair, readPair word = .ok pair) ↔ propertySeparator ∈ word := by
  rw [← not_iff_not, ← List.singleton_infix_iff, ← Text.splitOnce_eq_none_iff, readPair]
  cases Text.splitOnce [propertySeparator] word <;> simp

theorem readPair_eq_error_iff {word : List Char} {fault : LineFault} :
    readPair word = .error fault ↔
      propertySeparator ∉ word ∧ fault = .noPair (String.ofList word) := by
  rw [← List.singleton_infix_iff, ← Text.splitOnce_eq_none_iff, readPair]
  cases Text.splitOnce [propertySeparator] word <;> simp [eq_comm]

/-- A word that is read is not empty, holds no space and is an infix of the payload. -/
theorem of_mem_words {payload word : List Char} (h : word ∈ words payload) :
    word ≠ [] ∧ ' ' ∉ word ∧ word <:+: payload := by
  rw [words, List.mem_filter] at h
  exact ⟨by simpa using h.2, Text.not_mem_of_mem_pieces h.1, Text.infix_of_mem_pieces h.1⟩

/-- In front of other words, the words of written pairs without spaces are those that were
written. -/
theorem words_flatMap_pairText_append {pairs : List (String × TypeTag)}
    (h : ∀ pair ∈ pairs, ' ' ∉ pairWord pair) (rest : List Char) :
    words (pairs.flatMap pairText ++ rest) = pairs.map pairWord ++ words rest := by
  induction pairs with
  | nil => rfl
  | cons pair pairs ih =>
    have hword : pairWord pair ≠ [] := by simp [pairWord]
    have hpiece := Text.pieces_append_cons (h pair (by simp)) (pairs.flatMap pairText ++ rest)
    rw [List.flatMap_cons, pairText_eq, List.append_assoc, List.append_assoc,
      List.singleton_append, words, hpiece, List.filter_cons_of_pos (by simpa using hword),
      ← words, ih fun p hp => h p (List.mem_cons_of_mem pair hp), List.map_cons,
      List.cons_append]

theorem space_not_mem_pairWord {pair : String × TypeTag} (h : PairFits pair) :
    ' ' ∉ pairWord pair := by
  rw [pairWord, List.mem_append, List.mem_cons, not_or, not_or]
  exact ⟨h.property_space, by decide, h.tag_space⟩

/-- Words are read as pairs iff they are the words of these pairs, and the pairs fit. -/
theorem mapM_readPair_eq_ok_iff {payload : List Char} {pairs : List (String × TypeTag)} :
    (words payload).mapM readPair = .ok pairs ↔
      words payload = pairs.map pairWord ∧ ∀ pair ∈ pairs, PairFits pair := by
  have hspace : ∀ word ∈ words payload, ' ' ∉ word := fun word hword => (of_mem_words hword).2.1
  generalize words payload = found at hspace
  rw [mapM_eq_ok_iff]
  induction found generalizing pairs with
  | nil => cases pairs <;> simp
  | cons word found ih =>
    obtain ⟨hword, hfound⟩ := List.forall_mem_cons.1 hspace
    cases pairs with
    | nil => simp
    | cons pair pairs =>
      have hrest : List.Forall₂ (fun word pair => readPair word = .ok pair) found pairs ↔
          found = pairs.map pairWord ∧ ∀ pair ∈ pairs, PairFits pair := ih hfound
      rw [List.forall₂_cons, readPair_eq_ok_iff hword, hrest, List.map_cons, List.cons.injEq,
        List.forall_mem_cons, and_and_and_comm]

/-- Pairs are read back from their words iff they fit. -/
theorem mapM_readPair_iff {pairs : List (String × TypeTag)} :
    (words (pairs.flatMap pairText)).mapM readPair = .ok pairs ↔
      ∀ pair ∈ pairs, PairFits pair := by
  rw [mapM_readPair_eq_ok_iff]
  refine and_iff_right_of_imp fun h => ?_
  have hwords := words_flatMap_pairText_append
    (fun pair hpair => space_not_mem_pairWord (h pair hpair)) []
  rwa [List.append_nil, show words [] = [] from rfl, List.append_nil] at hwords

end RegistrySchema.Report
