import QueueService.Proofs.ParameterTree
import QueueService.Query.Request

/-!
# The numbers of items

A list has the numbers that the names of its parameters spell. Numbers are read with a plus sign or zeros in
front too, while the fields of an item are looked up below its number in plain decimal form. Hence every item
that is named plainly is found, but a number that was spelled in another way brings in an item of which
nothing is found, unless the plain name is there as well.

* `index?_eq_some_iff` — the number that a name gives, in any of its spellings.
* `eq_itemName_of_isPlain` — a plain spelling gives the name under which the item is looked up.
* `indices_plain_iff` — the numbers found are those of the items named plainly if and only if each item that
  is named in another way is named plainly as well.
-/

namespace QueueService.Params

/-! ## The parameters of an item -/

/-- **Belonging.** The name is that of the item, or it begins with it and a dot. -/
def BelongsTo (item name : String) : Prop := name = item ∨ (item ++ ".").toList <+: name.toList

instance (item name : String) : Decidable (BelongsTo item name) := inferInstanceAs (Decidable (_ ∨ _))

/-- Some parameter belongs to the item. -/
def HasItem (p : Params) (item : String) : Prop := ∃ name ∈ p.values.keys, BelongsTo item name

instance (p : Params) (item : String) : Decidable (p.HasItem item) :=
  inferInstanceAs (Decidable (∃ name ∈ p.values.keys, _))

/-- The name of the item that has a given spelling for its number. -/
def spelledItem (list segment : String) : String := list ++ "." ++ segment

section Name

variable {p : Params} {list segment item name : String} {n : Nat}

theorem toList_spelledItem (list segment : String) :
    (spelledItem list segment).toList = list.toList ++ ['.'] ++ segment.toList := by
  rw [spelledItem, String.toList_append, String.toList_append]
  rfl

/-- Behind the name of the item nothing follows, or a dot. -/
theorem belongsTo_iff : BelongsTo item name ↔
    ∃ more, name.toList = item.toList ++ more ∧ (more = [] ∨ ∃ rest, more = '.' :: rest) := by
  have hdot : (item ++ ".").toList = item.toList ++ ['.'] := String.toList_append
  unfold BelongsTo
  rw [hdot]
  constructor
  · rintro (rfl | ⟨rest, hrest⟩)
    · exact ⟨[], (List.append_nil _).symm, .inl rfl⟩
    · refine ⟨'.' :: rest, ?_, .inr ⟨rest, rfl⟩⟩
      rw [← hrest, List.append_assoc, List.singleton_append]
  · rintro ⟨more, hname, rfl | ⟨rest, rfl⟩⟩
    · rw [List.append_nil] at hname
      exact .inl (String.toList_inj.mp hname)
    · refine .inr ⟨rest, ?_⟩
      rw [hname, List.append_assoc, List.singleton_append]

theorem dot_notMem_of_spells {cs : List Char} (h : Integer.Spells cs n) : '.' ∉ cs := by
  cases h with
  | plain _ digits => exact fun hdot => absurd (digits _ hdot) (by decide)
  | plus _ digits =>
      intro hdot
      rcases List.mem_cons.mp hdot with hplus | hdot
      · exact absurd hplus (by decide)
      · exact absurd (digits _ hdot) (by decide)

/-- **The number that a name gives.** The name belongs to an item of the list, under any spelling of the
    number. -/
theorem index?_eq_some_iff : index? list name = some n ↔ n < 1 <<< 32 ∧
    ∃ segment : String, Integer.Spells segment.toList n ∧ BelongsTo (spelledItem list segment) name := by
  constructor
  · intro h
    by_cases hstart : list.toList ++ ['.'] <+: name.toList
    · obtain ⟨rest, hrest⟩ := hstart
      have hread : Integer.unsigned? 32 (String.ofList (rest.takeWhile (· != '.'))) = some n := by
        simpa only [index?, ← hrest, List.isPrefixOf_iff_prefix, List.prefix_append, if_true,
          List.drop_left] using h
      obtain ⟨hspells, hlt⟩ := Integer.unsigned?_eq_some_iff.mp hread
      refine ⟨hlt, _, hspells, belongsTo_iff.mpr ⟨rest.dropWhile (· != '.'), ?_, ?_⟩⟩
      · rw [toList_spelledItem, String.toList_ofList, List.append_assoc, List.takeWhile_append_dropWhile,
          hrest]
      · cases hbehind : rest.dropWhile (· != '.') with
        | nil => exact .inl rfl
        | cons c more =>
            obtain rfl := Separator.eq_of_dropWhile hbehind
            exact .inr ⟨more, rfl⟩
    · rw [index?_eq_none hstart] at h
      cases h
  · rintro ⟨hlt, segment, hspells, hname⟩
    have hdot := dot_notMem_of_spells hspells
    obtain ⟨more, hmore, hend⟩ := belongsTo_iff.mp hname
    have hsegment : (segment.toList ++ more).takeWhile (· != '.') = segment.toList := by
      rcases hend with rfl | ⟨rest, rfl⟩
      · rw [List.takeWhile_append_of_pos (Separator.bne_of_notMem hdot), List.takeWhile_nil,
          List.append_nil]
      · exact Separator.takeWhile_append_cons hdot
    rw [toList_spelledItem, List.append_assoc] at hmore
    simp only [index?, hmore, List.isPrefixOf_iff_prefix, List.prefix_append, if_true,
      List.drop_left, hsegment, String.ofList_toList]
    exact Integer.unsigned?_eq_some_iff.mpr ⟨hspells, hlt⟩

theorem mem_indices_iff_hasItem : n ∈ p.indices list ↔ n < 1 <<< 32 ∧
    ∃ segment : String, Integer.Spells segment.toList n ∧ p.HasItem (spelledItem list segment) := by
  rw [mem_indices_iff]
  constructor
  · rintro ⟨name, value, hvalue, hindex⟩
    obtain ⟨hlt, segment, hspells, hname⟩ := index?_eq_some_iff.mp hindex
    exact ⟨hlt, segment, hspells, name, Dict.mem_keys_iff.mpr ⟨value, hvalue⟩, hname⟩
  · rintro ⟨hlt, segment, hspells, name, hkey, hname⟩
    obtain ⟨value, hvalue⟩ := Dict.mem_keys_iff.mp hkey
    exact ⟨name, value, hvalue, index?_eq_some_iff.mpr ⟨hlt, segment, hspells, hname⟩⟩

/-- The name under which an item is looked up has its number in plain decimal form, and only a plain
    spelling gives that name. -/
theorem eq_itemName_of_isPlain (hspells : Integer.Spells segment.toList n)
    (hplain : Integer.IsPlain segment.toList) : spelledItem list segment = itemName list n := by
  have hdecimal := hspells.eq_toDigits_iff.mpr hplain
  rw [← Integer.toList_toString] at hdecimal
  rw [String.toList_inj.mp hdecimal]
  rfl

end Name

/-! ## What is found of an item -/

section Missing

variable {p : Params} {item : String}

/-- Without a parameter that belongs to it, nothing is found of an item. -/
theorem get?_of_not_hasItem (h : ¬ p.HasItem item) {name : String} (hname : BelongsTo item name) :
    p.get? name = none := by
  cases hvalue : p.get? name with
  | none => rfl
  | some value => exact absurd ⟨name, Dict.mem_keys_iff.mpr ⟨value, hvalue⟩, hname⟩ h

theorem belongsTo_field (item field : String) : BelongsTo item (item ++ "." ++ field) := by
  refine .inr ⟨field.toList, ?_⟩
  rw [String.toList_append (s := item ++ ".")]

theorem getText_of_not_hasItem (h : ¬ p.HasItem item) (field : String) :
    p.getText (item ++ "." ++ field) = "" := by
  rw [getText, get?_of_not_hasItem h (belongsTo_field item field)]
  rfl

/-- Such an item is read as a message attribute without a name and without a value. -/
theorem offeredAttribute_of_not_hasItem (h : ¬ p.HasItem item) :
    p.offeredAttribute item = { name := "", value? := none } := by
  have hname : p.getText (item ++ ".Name") = "" := by
    have hfield := getText_of_not_hasItem h "Name"
    rwa [String.append_assoc] at hfield
  have hvalue : p.hasBelow (item ++ ".Value.") = false := by
    rw [Bool.eq_false_iff]
    intro hbelow
    obtain ⟨name, hkey, hstart⟩ := List.any_eq_true.mp hbelow
    obtain ⟨rest, hrest⟩ := List.isPrefixOf_iff_prefix.mp hstart
    refine h ⟨name, hkey, .inr ⟨"Value.".toList ++ rest, ?_⟩⟩
    rw [← hrest, String.toList_append, String.toList_append]
    simp
  rw [offeredAttribute, hname, hvalue]
  rfl

end Missing

/-! ## Plain numbers -/

/-- **The numbers of a list** ascend. They are the numbers of 32 bits that some parameter spells, so that no
    item is overlooked that is named plainly. They are just the numbers of the items named plainly if and
    only if every item that is named in another way is named plainly as well; all other items are read as if
    they had no fields. -/
theorem indices_plain_iff (p : Params) (list : String) :
    (p.indices list).Pairwise (· < ·) ∧
      (∀ n, n ∈ p.indices list ↔ n < 1 <<< 32 ∧ ∃ segment : String,
        Integer.Spells segment.toList n ∧ p.HasItem (spelledItem list segment)) ∧
      (∀ n < 1 <<< 32, p.HasItem (itemName list n) → n ∈ p.indices list) ∧
      ((∀ n, n ∈ p.indices list ↔ n < 1 <<< 32 ∧ p.HasItem (itemName list n)) ↔
        ∀ n < 1 <<< 32, ∀ segment : String, Integer.Spells segment.toList n →
          ¬ Integer.IsPlain segment.toList → p.HasItem (spelledItem list segment) →
            p.HasItem (itemName list n)) ∧
      ∀ n, ¬ p.HasItem (itemName list n) →
        p.get? (itemName list n) = none ∧ (∀ field, p.getText (itemName list n ++ "." ++ field) = "") ∧
          p.offeredAttribute (itemName list n) = { name := "", value? := none } := by
  have hplain : ∀ n < 1 <<< 32, p.HasItem (itemName list n) → n ∈ p.indices list := fun n hlt hitem =>
    mem_indices_iff_hasItem.mpr ⟨hlt, toString n, Integer.spells_toString n, hitem⟩
  refine ⟨pairwise_indices p list, fun n => mem_indices_iff_hasItem, hplain, ⟨?_, ?_⟩, ?_⟩
  · intro h n hlt segment hspells _ hitem
    exact ((h n).mp (mem_indices_iff_hasItem.mpr ⟨hlt, segment, hspells, hitem⟩)).2
  · intro h n
    refine ⟨fun hn => ?_, fun hn => hplain n hn.1 hn.2⟩
    obtain ⟨hlt, segment, hspells, hitem⟩ := mem_indices_iff_hasItem.mp hn
    by_cases hsegment : Integer.IsPlain segment.toList
    · exact ⟨hlt, eq_itemName_of_isPlain hspells hsegment ▸ hitem⟩
    · exact ⟨hlt, h n hlt segment hspells hsegment hitem⟩
  · intro n h
    exact ⟨get?_of_not_hasItem h (.inl rfl), getText_of_not_hasItem h,
      offeredAttribute_of_not_hasItem h⟩

/-- The number one in plain form and behind a plus sign. -/
def twoSpellings : Params :=
  { values := Dict.ofList [("Attribute.1.Name", "DelaySeconds"), ("Attribute.+1.Value", "3")], path := "/" }

/-- One item is found, and it is named plainly. Of the next one, which is not there, nothing would be found. -/
theorem indices_plain_twoSpellings :
    twoSpellings.HasItem (itemName "Attribute" 1) ∧
      twoSpellings.HasItem (spelledItem "Attribute" "+1") ∧
      (∀ n, n ∈ twoSpellings.indices "Attribute" ↔
        n < 1 <<< 32 ∧ twoSpellings.HasItem (itemName "Attribute" n)) ∧
      ¬ twoSpellings.HasItem (itemName "Attribute" 2) ∧
      twoSpellings.offeredAttribute (itemName "Attribute" 2) = { name := "", value? := none } := by
  have hindices : twoSpellings.indices "Attribute" = [1] := by cbv
  have hone : twoSpellings.HasItem (itemName "Attribute" 1) := by decide
  have htwo : ¬ twoSpellings.HasItem (itemName "Attribute" 2) := by decide
  obtain ⟨-, hmem, -, hiff, hmissing⟩ := indices_plain_iff twoSpellings "Attribute"
  refine ⟨hone, by decide, hiff.mpr ?_, htwo, (hmissing 2 htwo).2.2⟩
  intro n hlt segment hspells _ hitem
  have hn := (hmem n).mpr ⟨hlt, segment, hspells, hitem⟩
  rw [hindices, List.mem_singleton] at hn
  rw [hn]
  exact hone

/-- An attribute whose number has a zero in front. -/
def zeroInFront : Params :=
  { values := Dict.ofList [("Attribute.01.Name", "VisibilityTimeout"), ("Attribute.01.Value", "10")]
    path := "/" }

/-- The number is found although nothing is named plainly by it, and the attribute that is asked for has
    neither a name nor a value. -/
theorem indices_plain_zeroInFront :
    ¬ (∀ n, n ∈ zeroInFront.indices "Attribute" ↔
        n < 1 <<< 32 ∧ zeroInFront.HasItem (itemName "Attribute" n)) ∧
      zeroInFront.suppliedAttributes = [("", "")] := by
  have hindices : zeroInFront.indices "Attribute" = [1] := by cbv
  have hmissing : ¬ zeroInFront.HasItem (itemName "Attribute" 1) := by decide
  refine ⟨fun h => ?_, ?_⟩
  · have hone : 1 ∈ zeroInFront.indices "Attribute" := by
      rw [hindices]
      exact List.mem_singleton_self 1
    exact hmissing ((h 1).mp hone).2
  · have hname := getText_of_not_hasItem hmissing "Name"
    have hvalue := getText_of_not_hasItem hmissing "Value"
    rw [String.append_assoc] at hname hvalue
    rw [suppliedAttributes, hindices, List.map_singleton]
    exact congrArg (· :: []) (Prod.ext hname hvalue)

end QueueService.Params
