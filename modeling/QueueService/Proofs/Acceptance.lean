import QueueService.Message.Validation
import QueueService.Proofs.Check

/-!
# Accepted attributes

What the checks of `OfferedAttribute` stand for. A name is accepted if it is an `AttributeName`, short
enough and new (`checkName_ok_iff`); an accepted value is a single text or a single run of bytes; and the
attributes of a message are accepted under different names, each with the number of bytes that it adds
(`acceptAll_ok`).
-/

namespace QueueService

/-- **A name for an attribute.** It is drawn from its alphabet, has no two dots side by side, and does not
    begin with a reserved word in letters of either case. -/
structure AttributeName (name : String) : Prop where
  nonempty : name ≠ ""
  characters : ∀ c ∈ name.toList, Alphabet.isAttributeNameChar c = true
  dots : ¬ ['.', '.'] <:+: name.toList
  reserved : ∀ word ∈ ["aws", "amazon"], ¬ word.toList <+: name.toList.map Char.toLower

/-- A single value, of one text or of one run of bytes, and no list of them. -/
inductive Payload.Single : Payload → Prop
  | text (value : String) : Single (.text value)
  | bytes (value : List UInt8) : Single (.bytes value)

/-- The bytes of an attribute: those of its name, of its data type and of its value. -/
def attributeSize (name : String) (value : AttributeValue) : Nat :=
  name.utf8ByteSize + value.dataType.utf8ByteSize + value.payload.size

namespace OfferedAttribute

variable {limits : Limits} {taken : List String} {name : String}

/-! ## Names -/

theorem isReserved_eq_true_iff :
    isReserved name = true ↔ ∃ word ∈ ["aws", "amazon"], word.toList <+: name.toList.map Char.toLower := by
  have haws : "aws".toList = ['a', 'w', 's'] := rfl
  have hamazon : "amazon".toList = ['a', 'm', 'a', 'z', 'o', 'n'] := rfl
  simp only [isReserved, Bool.or_eq_true, List.isPrefixOf_iff_prefix, List.mem_cons,
    List.not_mem_nil, or_false, exists_eq_or_imp, exists_eq_left, haws, hamazon]
  exact or_comm

theorem hasSuccessiveDots_eq_true_iff (cs : List Char) :
    hasSuccessiveDots cs = true ↔ ['.', '.'] <:+: cs := by
  induction cs using hasSuccessiveDots.induct with
  | case1 rest =>
      refine ⟨fun _ => ⟨[], rest, rfl⟩, fun _ => rfl⟩
  | case2 c rest hdots ih =>
      have hfirst : ¬ ['.', '.'] <+: c :: rest := by
        rintro ⟨more, heq⟩
        obtain ⟨rfl, hrest⟩ := List.cons.inj heq
        exact hdots more rfl hrest.symm
      rw [hasSuccessiveDots, ih, List.infix_cons_iff]
      · exact ⟨Or.inr, fun h => h.resolve_left hfirst⟩
      · exact hdots
  | case3 =>
      refine ⟨fun h => ?_, fun h => ?_⟩
      · cases h
      · exact absurd (List.infix_nil.mp h) (List.cons_ne_nil _ _)

/-- **Accepted names.** They are names for attributes, within the limit, and not taken. -/
theorem checkName_ok_iff :
    checkName limits taken name = .ok () ↔
      AttributeName name ∧ name.length ≤ limits.messageAttributeNameLength ∧ name ∉ taken := by
  unfold checkName
  by_cases hempty : name = ""
  · subst hempty
    exact ⟨nofun, fun h => absurd rfl h.1.nonempty⟩
  rw [if_neg (by simpa using hempty)]
  by_cases hlength : limits.messageAttributeNameLength < name.length
  · rw [if_pos hlength]
    exact ⟨nofun, fun h => absurd h.2.1 (Nat.not_le_of_lt hlength)⟩
  rw [if_neg hlength]
  by_cases hreserved : isReserved name = true
  · rw [if_pos hreserved]
    refine ⟨nofun, fun h => ?_⟩
    obtain ⟨word, hword, hbegins⟩ := isReserved_eq_true_iff.mp hreserved
    exact absurd hbegins (h.1.reserved word hword)
  rw [if_neg hreserved]
  by_cases hdots : hasSuccessiveDots name.toList = true
  · rw [if_pos hdots]
    exact ⟨nofun, fun h => absurd ((hasSuccessiveDots_eq_true_iff _).mp hdots) h.1.dots⟩
  rw [if_neg hdots]
  cases hcharacter : Alphabet.firstNonAttributeNameChar? name with
  | some c =>
      refine ⟨nofun, fun h => ?_⟩
      rw [Alphabet.firstNonAttributeNameChar?_eq_none_iff.mpr h.1.characters] at hcharacter
      cases hcharacter
  | none =>
      have hname : AttributeName name :=
        { nonempty := hempty
          characters := Alphabet.firstNonAttributeNameChar?_eq_none_iff.mp hcharacter
          dots := fun h => hdots ((hasSuccessiveDots_eq_true_iff _).mpr h)
          reserved := fun word hword h => hreserved (isReserved_eq_true_iff.mpr ⟨word, hword, h⟩) }
      by_cases htaken : name ∈ taken
      · simp only [List.contains_iff_mem.mpr htaken, if_true]
        exact ⟨nofun, fun h => absurd htaken h.2.2⟩
      · have hnew : taken.contains name = false := by simpa using htaken
        simp only [hnew, Bool.false_eq_true, if_false, true_iff]
        exact ⟨hname, Nat.le_of_not_lt hlength, htaken⟩

/-! ## Values -/

theorem payload_ok {dataType : String} {kind : AttributeKind} {text? : Option String}
    {bytes? : Option (List UInt8)} {p : Payload}
    (h : payload name dataType kind text? bytes? = .ok p) : p.Single := by
  unfold payload at h
  split at h
  · cases h
  · cases h
  · -- one text
    split at h
    · split at h
      · cases h
      · split at h
        · cases h
        · cases h
          exact .text _
    · cases h
  · -- one run of bytes
    split at h
    · cases h
    · cases h
      exact .bytes _

/-- The text of an accepted payload is drawn from the alphabet of bodies. -/
theorem payload_text {dataType : String} {kind : AttributeKind} {text? : Option String}
    {bytes? : Option (List UInt8)} {text : String}
    (h : payload name dataType kind text? bytes? = .ok (.text text)) :
    ∀ c ∈ text.toList, Alphabet.isBodyChar c = true := by
  unfold payload at h
  split at h
  · cases h
  · cases h
  · split at h
    · split at h
      · cases h
      · next hcharacters =>
        split at h
        · cases h
        · cases h
          exact Alphabet.firstNonBodyChar?_eq_none_iff.mp hcharacters
    · cases h
  · split at h <;> cases h

/-- A text that was offered is the payload, if one was accepted. -/
theorem payload_of_text {dataType text : String} {kind : AttributeKind} {text? : Option String}
    {bytes? : Option (List UInt8)} {p : Payload}
    (h : payload name dataType kind text? bytes? = .ok p) (htext : text? = some text)
    (hnonempty : text ≠ "") : p = .text text := by
  have hfilter : text?.filter (!·.isEmpty) = some text := by
    simp [htext, Option.filter, hnonempty]
  unfold payload at h
  rw [hfilter] at h
  split at h
  · next hnone _ => cases hnone
  · cases h
  · next hsome _ =>
    cases hsome
    split at h
    · split at h
      · cases h
      · split at h
        · cases h
        · cases h
          rfl
    · cases h
  · next hnone _ => cases hnone

/-- The payload of an accepted value has been accepted. -/
theorem exists_payload {value? : Option OfferedValue} {value : AttributeValue}
    (h : acceptValue limits name value? = .ok value) :
    ∃ offered kind bytes?, value? = some offered ∧
      payload name value.dataType kind offered.text? bytes? = .ok value.payload := by
  unfold acceptValue at h
  split at h
  · cases h
  split at h
  · cases h
  split at h
  · cases h
  split at h
  · cases h
  split at h
  · cases h
  split at h
  · cases h
  split at h
  · cases h
  · next hpayload =>
    cases h
    exact ⟨_, _, _, rfl, hpayload⟩

/-! ## Attributes -/

/-- **Accepted.** What was accepted under a name is a single value, and its size is that of name, data
    type and value. -/
structure Sound (name : String) (a : AcceptedAttribute) : Prop where
  named : AttributeName name
  single : a.value.payload.Single
  size : a.size = attributeSize name a.value

/-- Behind a checked name the value decides, and the name is taken in any case. -/
theorem accept_of_name_ok {offer : OfferedAttribute} (h : checkName limits taken offer.name = .ok ()) :
    accept limits taken offer =
      ((acceptValue limits offer.name offer.value?).map fun value =>
        ⟨value, attributeSize offer.name value⟩, offer.name :: taken) := by
  rw [accept, h]
  cases acceptValue limits offer.name offer.value? <;> rfl

/-- Behind a refused name the value does not matter, and no name is taken. -/
theorem accept_of_name_error {offer : OfferedAttribute} {e : AttributeError}
    (h : checkName limits taken offer.name = .error e) : accept limits taken offer = (.error e, taken) := by
  rw [accept, h]

/-- An accepted attribute has a checked name and an accepted value. -/
theorem accept_checked {offer : OfferedAttribute} {a : AcceptedAttribute} {taken' : List String}
    (h : accept limits taken offer = (.ok a, taken')) :
    checkName limits taken offer.name = .ok () ∧
      acceptValue limits offer.name offer.value? = .ok a.value ∧
      a.size = attributeSize offer.name a.value ∧ taken' = offer.name :: taken := by
  cases hname : checkName limits taken offer.name with
  | error e =>
      rw [accept_of_name_error hname] at h
      cases h
  | ok =>
      rw [accept_of_name_ok hname] at h
      obtain ⟨hresult, rfl⟩ := Prod.mk.inj h
      obtain ⟨value, hvalue, rfl⟩ := exceptMap_ok hresult
      exact ⟨rfl, hvalue, rfl, rfl⟩

theorem accept_ok {offer : OfferedAttribute} {a : AcceptedAttribute} {taken' : List String}
    (h : accept limits taken offer = (.ok a, taken')) :
    Sound offer.name a ∧ offer.name ∉ taken ∧ taken' = offer.name :: taken := by
  obtain ⟨hname, hvalue, hsize, htaken⟩ := accept_checked h
  obtain ⟨hname, -, hnew⟩ := checkName_ok_iff.mp hname
  obtain ⟨offered, kind, bytes?, -, hpayload⟩ := exists_payload hvalue
  exact ⟨⟨hname, payload_ok hpayload, hsize⟩, hnew, htaken⟩

/-- Behind an accepted attribute there is one that was offered, with a value that passed its checks. -/
theorem exists_offer {offers : List OfferedAttribute} {accepted : List (String × AcceptedAttribute)}
    (h : acceptAll limits taken offers = .ok accepted) :
    ∀ a ∈ accepted, ∃ offer ∈ offers, acceptValue limits offer.name offer.value? = .ok a.2.value := by
  induction offers generalizing taken accepted with
  | nil =>
      cases h
      exact nofun
  | cons offer rest ih =>
      unfold acceptAll at h
      split at h
      · cases h
      · next a taken' haccept =>
        obtain ⟨-, hvalue, -, -⟩ := accept_checked haccept
        split at h
        · cases h
        · next more hrest =>
          cases h
          rw [List.forall_mem_cons]
          refine ⟨⟨offer, List.mem_cons_self, hvalue⟩, ?_⟩
          intro b hb
          obtain ⟨other, hmem, hother⟩ := ih hrest b hb
          exact ⟨other, List.mem_cons_of_mem _ hmem, hother⟩

/-- What was offered has been accepted under its name. -/
theorem exists_accepted {offers : List OfferedAttribute} {accepted : List (String × AcceptedAttribute)}
    (h : acceptAll limits taken offers = .ok accepted) :
    ∀ offer ∈ offers, ∃ a, (offer.name, a) ∈ accepted ∧
      acceptValue limits offer.name offer.value? = .ok a.value := by
  induction offers generalizing taken accepted with
  | nil => exact nofun
  | cons offer rest ih =>
      unfold acceptAll at h
      split at h
      · cases h
      · next a taken' haccept =>
        obtain ⟨-, hvalue, -, -⟩ := accept_checked haccept
        split at h
        · cases h
        · next more hrest =>
          cases h
          rw [List.forall_mem_cons]
          refine ⟨⟨a, List.mem_cons_self, hvalue⟩, ?_⟩
          intro other hother
          obtain ⟨b, hmem, hb⟩ := ih hrest other hother
          exact ⟨b, List.mem_cons_of_mem _ hmem, hb⟩

/-- **All that was accepted** stands under different names, none of which was taken before. -/
theorem acceptAll_ok {offers : List OfferedAttribute} {accepted : List (String × AcceptedAttribute)}
    (h : acceptAll limits taken offers = .ok accepted) :
    (accepted.map (·.1)).Nodup ∧ (∀ a ∈ accepted, a.1 ∉ taken) ∧ ∀ a ∈ accepted, Sound a.1 a.2 := by
  induction offers generalizing taken accepted with
  | nil =>
      cases h
      exact ⟨List.nodup_nil, nofun, nofun⟩
  | cons offer rest ih =>
      unfold acceptAll at h
      split at h
      · cases h
      · next a taken' haccept =>
        split at h
        · cases h
        · next more hrest =>
          cases h
          obtain ⟨hsound, hnew, rfl⟩ := accept_ok haccept
          obtain ⟨hnodup, hapart, hall⟩ := ih hrest
          -- the names behind this one were accepted when it was taken already
          have hfirst : offer.name ∉ more.map (·.1) := by
            intro hmem
            obtain ⟨b, hb, heq⟩ := List.mem_map.mp hmem
            exact hapart b hb (heq ▸ List.mem_cons_self)
          refine ⟨List.nodup_cons.mpr ⟨hfirst, hnodup⟩, ?_, ?_⟩
          · intro b hb
            rcases List.mem_cons.mp hb with rfl | hb
            · exact hnew
            · exact fun hmem => hapart b hb (List.mem_cons_of_mem _ hmem)
          · intro b hb
            rcases List.mem_cons.mp hb with rfl | hb
            · exact hsound
            · exact hall b hb

end OfferedAttribute

end QueueService
