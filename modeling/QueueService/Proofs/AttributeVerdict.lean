import QueueService.Proofs.DecimalLiteral
import QueueService.Proofs.EncodedBytes
import QueueService.Proofs.Refusal

/-!
# The verdict on an attribute

What is said of a single attribute beside names that are taken, in the terms in which it was offered: the
name, the data type, the text and the bytes that the Base64 text stands for. A name is checked first, and is
taken as soon as it passes; the value is checked behind it, and lists are reported before the payload is
looked at.

* `AttributeKind.Names` — the data types of a kind; each is of one kind at most.
* `OfferedValue.Conforms` — the values that are accepted, with the payload that they become;
  `OfferedValue.Conforms.gives` and `OfferedValue.Gives.conforms` connect them with the rules of
  `OfferedValue.Gives`.
* `OfferedAttribute.acceptValue_eq_listValue_iff` — where a list is what is reported.
* `OfferedAttribute.accept_verdict` — when an attribute is accepted and as what, when it is refused as
  unsupported, and which names are taken afterwards.
-/

namespace QueueService

/-! ## Data types -/

namespace AttributeKind

variable {kind kind' : AttributeKind} {dataType : String}

/-- **A data type of a kind:** the kind's own, alone or with a dot and a label behind it. -/
def Names (kind : AttributeKind) (dataType : String) : Prop :=
  dataType = kind.toText ∨ ∃ label, dataType = kind.toText ++ "." ++ label

theorem covers_iff : kind.covers dataType = true ↔ kind.Names dataType := by
  rw [covers, Bool.or_eq_true, beq_iff_eq, List.isPrefixOf_iff_prefix]
  refine or_congr_right ⟨?_, ?_⟩
  · rintro ⟨label, hlabel⟩
    refine ⟨String.ofList label, String.toList_injective ?_⟩
    simp only [String.toList_append, String.toList_ofList]
    exact hlabel.symm
  · rintro ⟨label, rfl⟩
    exact ⟨label.toList, by rw [String.toList_append, String.toList_append]; rfl⟩

/-- Kinds differ in their first letters, so that a data type is of one kind only. -/
theorem Names.unique (h : kind.Names dataType) (h' : kind'.Names dataType) : kind = kind' := by
  have hhead {kind : AttributeKind} (h : kind.Names dataType) :
      dataType.toList.head? = kind.toText.toList.head? := by
    rcases h with rfl | ⟨label, rfl⟩
    · rfl
    · rw [String.toList_append, String.toList_append]
      cases kind <;> rfl
  have heads := (hhead h).symm.trans (hhead h')
  revert heads
  cases kind <;> cases kind' <;> decide

/-- **The kind of a data type** is the one that it is of. -/
theorem ofDataType?_eq_some_iff : ofDataType? dataType = some kind ↔ kind.Names dataType := by
  have hfound {kind : AttributeKind} (h : ofDataType? dataType = some kind) : kind.Names dataType := by
    have hcovers := List.find?_some (p := fun kind : AttributeKind => kind.covers dataType) h
    exact covers_iff.mp hcovers
  refine ⟨hfound, fun h => ?_⟩
  have hmem : kind ∈ [string, binary, number] := by cases kind <;> decide
  have hsome : (ofDataType? dataType).isSome = true :=
    List.find?_isSome.mpr ⟨kind, hmem, covers_iff.mpr h⟩
  obtain ⟨found, heq⟩ := Option.isSome_iff_exists.mp hsome
  rw [heq, (hfound heq).unique h]

/-- Binaries are the only values that are not offered as text. -/
theorem usesText_iff : kind.usesText = true ↔ kind ≠ .binary := by
  cases kind <;> decide

end AttributeKind

/-! ## Text and bytes -/

namespace OfferedValue

variable {limits : Limits} {value : OfferedValue} {kind : AttributeKind} {p : Payload}

/-- The text that is offered; none is the empty one. -/
def text (value : OfferedValue) : String := value.text?.getD ""

/-- The bytes that the offered Base64 text stands for; none is the empty sequence. -/
def bytes (value : OfferedValue) : List UInt8 := (value.base64?.bind Base64.decode?).getD []

theorem text_of_offered {text : String} (h : value.text? = some text) : value.text = text := by
  rw [OfferedValue.text, h, Option.getD_some]

theorem text_of_missing (h : value.text? = none) : value.text = "" := by
  rw [OfferedValue.text, h, Option.getD_none]

theorem offered_of_text_ne (h : value.text ≠ "") : value.text? = some value.text := by
  cases hoffered : value.text? with
  | none => exact absurd (text_of_missing hoffered) h
  | some text => rw [text_of_offered hoffered]

theorem bytes_of_offered {base64 : String} {bytes : List UInt8} (h : value.base64? = some base64)
    (hdecode : Base64.decode? base64 = some bytes) : value.bytes = bytes := by
  rw [OfferedValue.bytes, h, Option.bind_some, hdecode, Option.getD_some]

theorem bytes_of_missing (h : value.base64?.bind Base64.decode? = none) : value.bytes = [] := by
  rw [OfferedValue.bytes, h, Option.getD_none]

theorem offered_of_bytes_ne (h : value.bytes ≠ []) :
    ∃ base64, value.base64? = some base64 ∧ Base64.decode? base64 = some value.bytes := by
  cases hbound : value.base64?.bind Base64.decode? with
  | none => exact absurd (bytes_of_missing hbound) h
  | some bytes =>
      obtain ⟨base64, hoffered, hdecode⟩ := Option.bind_eq_some_iff.mp hbound
      exact ⟨base64, hoffered, by rw [hdecode, bytes_of_offered hoffered hdecode]⟩

/-! ## Conforming values -/

/-- **The payload of a kind.** For binaries it is the bytes that are offered. For the other kinds it is the
    text, which has to be drawn from the alphabet of bodies and, for numbers, to be a finite literal. -/
inductive PayloadOf (value : OfferedValue) (kind : AttributeKind) : Payload → Prop
  | text (textual : kind ≠ .binary) (characters : ∀ c ∈ value.text.toList, Alphabet.isBodyChar c = true)
      (finite : kind = .number → Number.FiniteLiteral value.text) : PayloadOf value kind (.text value.text)
  | bytes (binary : kind = .binary) : PayloadOf value kind (.bytes value.bytes)

/-- **A value of a kind.** Its data type is one of the kind, and not too long. -/
structure Typed (limits : Limits) (value : OfferedValue) (kind : AttributeKind) : Prop where
  named : kind.Names value.dataType
  length : value.dataType.utf8ByteSize ≤ limits.messageAttributeTypeLength

/-- **A conforming value** of a kind, with its payload. -/
structure Conforms (limits : Limits) (value : OfferedValue) (kind : AttributeKind) (payload : Payload) :
    Prop where
  typed : value.Typed limits kind
  texts : value.texts = []
  blobs : value.blobs = []
  base64 : ∀ base64, value.base64? = some base64 → ∃ bytes, base64 = Base64.encode bytes
  /-- Of text and bytes exactly one is there. -/
  single : value.text ≠ "" ↔ value.bytes = []
  /-- It is the one that the kind uses. -/
  used : kind = .binary ↔ value.bytes ≠ []
  payload : value.PayloadOf kind payload

/-- A conforming value gives its payload. -/
theorem Conforms.gives (h : value.Conforms limits kind p) : value.Gives kind p := by
  cases h.payload with
  | text textual characters finite =>
      have hbytes : value.bytes = [] := Classical.not_not.mp (mt h.used.mpr textual)
      have htext := h.single.mpr hbytes
      refine .text (offered_of_text_ne htext) htext (fun base64 hoffered => ?_)
        (AttributeKind.usesText_iff.mpr textual) characters fun hnumber =>
          Number.isFiniteLiteral_iff.mpr (finite hnumber)
      obtain ⟨bytes, rfl⟩ := h.base64 base64 hoffered
      have hdecode := Base64.decode?_encode bytes
      rw [hdecode, ← bytes_of_offered hoffered hdecode, hbytes]
  | bytes binary =>
      have hbytes := h.used.mp binary
      obtain ⟨base64, hoffered, hdecode⟩ := offered_of_bytes_ne hbytes
      refine .bytes hoffered hdecode hbytes (fun text htext => ?_) (by rw [binary]; rfl)
      rw [← text_of_offered htext]
      exact Classical.not_not.mp (mt h.single.mp hbytes)

/-- A value that gives a payload conforms, if its data type is not too long and it has no list. -/
theorem Gives.conforms (h : value.Gives kind p) (htyped : value.Typed limits kind)
    (htexts : value.texts = []) (hblobs : value.blobs = []) : value.Conforms limits kind p := by
  cases h with
  | @text text offered nonempty alone uses characters number =>
      have hkind := AttributeKind.usesText_iff.mp uses
      have hbytes : value.bytes = [] := by
        cases hbase64 : value.base64? with
        | none => exact bytes_of_missing (by rw [hbase64, Option.bind_none])
        | some base64 => exact bytes_of_offered hbase64 (alone base64 hbase64)
      obtain rfl := text_of_offered offered
      exact
        { typed := htyped
          texts := htexts
          blobs := hblobs
          base64 := fun base64 hbase64 =>
            ⟨[], Base64.decode?_eq_some_iff.mp (alone base64 hbase64)⟩
          single := iff_of_true nonempty hbytes
          used := iff_of_false hkind (not_not_intro hbytes)
          payload := .text hkind characters fun hnumber =>
            Number.isFiniteLiteral_iff.mp (number hnumber) }
  | @bytes base64 bytes offered decoded nonempty alone uses =>
      have hkind : kind = .binary := by
        by_contra hne
        rw [AttributeKind.usesText_iff.mpr hne] at uses
        cases uses
      have htext : value.text = "" := by
        cases hoffered : value.text? with
        | none => exact text_of_missing hoffered
        | some text => rw [text_of_offered hoffered, alone text hoffered]
      obtain rfl := bytes_of_offered offered decoded
      have hbase64 : ∀ other, value.base64? = some other → ∃ bytes, other = Base64.encode bytes := by
        intro other hother
        cases offered.symm.trans hother
        exact ⟨_, Base64.decode?_eq_some_iff.mp decoded⟩
      exact
        { typed := htyped
          texts := htexts
          blobs := hblobs
          base64 := hbase64
          single := iff_of_false (not_not_intro htext) nonempty
          used := iff_of_true hkind nonempty
          payload := .bytes hkind }

end OfferedValue

namespace OfferedAttribute

variable {limits : Limits} {taken : List String} {name : String}

/-- **Accepted values** are those that conform. -/
theorem acceptValue_conforms {value? : Option OfferedValue} {accepted : AttributeValue} :
    acceptValue limits name value? = .ok accepted ↔
      ∃ value kind, value? = some value ∧ accepted.dataType = value.dataType ∧
        value.Conforms limits kind accepted.payload := by
  cases value? with
  | none => exact ⟨nofun, nofun⟩
  | some value =>
      rw [acceptValue_ok_iff]
      constructor
      · rintro ⟨htype, hlength, htexts, hblobs, kind, hkind, hgives⟩
        exact ⟨value, kind, rfl, htype,
          hgives.conforms ⟨AttributeKind.ofDataType?_eq_some_iff.mp hkind, hlength⟩ htexts hblobs⟩
      · rintro ⟨_, kind, ⟨⟩, htype, h⟩
        exact ⟨htype, h.typed.length, h.texts, h.blobs, kind,
          AttributeKind.ofDataType?_eq_some_iff.mpr h.typed.named, h.gives⟩

/-! ## Errors -/

/-- Of the errors only the one about lists is coded as an unsupported operation. -/
theorem code_eq_unsupported_iff {e : AttributeError} :
    (ServiceError.messageAttribute e).code = .unsupportedOperation ↔ e = .listValue := by
  cases e <;> simp [ServiceError.code]

theorem checkName_ne_listValue : checkName limits taken name ≠ .error .listValue := by
  unfold checkName
  repeat' split
  all_goals nofun

theorem offeredBytes_ne_listValue {base64? : Option String} :
    offeredBytes name base64? ≠ .error .listValue := by
  unfold offeredBytes
  repeat' split
  all_goals nofun

theorem payload_ne_listValue {dataType : String} {kind : AttributeKind} {text? : Option String}
    {bytes? : Option (List UInt8)} : payload name dataType kind text? bytes? ≠ .error .listValue := by
  unfold payload
  repeat' split
  all_goals nofun

/-- **Lists** are reported behind a missing value, the data type and its length, and before everything
    else. -/
theorem acceptValue_eq_listValue_iff {value? : Option OfferedValue} :
    acceptValue limits name value? = .error .listValue ↔
      ∃ value kind, value? = some value ∧ value.Typed limits kind ∧
        (value.texts ≠ [] ∨ value.blobs ≠ []) := by
  constructor
  · intro h
    unfold acceptValue at h
    split at h
    · cases h
    next value =>
    split at h
    · cases h
    split at h
    · cases h
    next kind hkind =>
    split at h
    · cases h
    next hlength =>
    split at h
    · next hlists =>
      refine ⟨value, kind, rfl,
        ⟨AttributeKind.ofDataType?_eq_some_iff.mp hkind, Nat.le_of_not_lt hlength⟩, ?_⟩
      simpa using hlists
    · split at h
      · next hbytes =>
        cases h
        exact absurd hbytes offeredBytes_ne_listValue
      · split at h
        · next hpayload =>
          cases h
          exact absurd hpayload payload_ne_listValue
        · cases h
  · rintro ⟨value, kind, rfl, ⟨htyped, hlength⟩, hlists⟩
    have hkind := AttributeKind.ofDataType?_eq_some_iff.mpr htyped
    have hnonempty : value.dataType.isEmpty = false := by simpa using dataType_ne_empty hkind
    have hlisted : (!value.texts.isEmpty || !value.blobs.isEmpty) = true := by simpa using hlists
    simp only [acceptValue, hnonempty, Bool.false_eq_true, if_false, hkind,
      if_neg (Nat.not_lt_of_le hlength), hlisted, if_true]

/-! ## Attributes -/

/-- **A passing name.** It is one for attributes, within the limit, and not taken. -/
structure PassingName (limits : Limits) (taken : List String) (name : String) : Prop where
  named : AttributeName name
  length : name.length ≤ limits.messageAttributeNameLength
  new : name ∉ taken

theorem checkName_passing : checkName limits taken name = .ok () ↔ PassingName limits taken name := by
  rw [checkName_ok_iff]
  exact ⟨fun ⟨named, length, new⟩ => ⟨named, length, new⟩, fun h => ⟨h.named, h.length, h.new⟩⟩

/-- A name that does not pass is refused, and for no list. -/
theorem accept_of_failing {offer : OfferedAttribute} (h : ¬ PassingName limits taken offer.name) :
    ∃ e, e ≠ .listValue ∧ accept limits taken offer = (.error e, taken) := by
  cases hname : checkName limits taken offer.name with
  | ok => exact absurd (checkName_passing.mp hname) h
  | error e => exact ⟨e, fun heq => checkName_ne_listValue (heq ▸ hname), accept_of_name_error hname⟩

/-- An attribute is accepted with its name and its value. -/
theorem accept_eq_ok_iff {offer : OfferedAttribute} {a : AcceptedAttribute} :
    (accept limits taken offer).1 = .ok a ↔
      PassingName limits taken offer.name ∧
        acceptValue limits offer.name offer.value? = .ok a.value ∧
          a.size = attributeSize offer.name a.value := by
  by_cases hpassing : PassingName limits taken offer.name
  · rw [accept_of_name_ok (checkName_passing.mpr hpassing)]
    cases acceptValue limits offer.name offer.value? with
    | error e => simp [Except.map]
    | ok value =>
        obtain ⟨accepted, size⟩ := a
        simp only [Except.map, Except.ok.injEq, AcceptedAttribute.mk.injEq, hpassing, true_and]
        refine and_congr_right ?_
        rintro rfl
        exact eq_comm
  · obtain ⟨e, -, heq⟩ := accept_of_failing hpassing
    rw [heq]
    exact ⟨nofun, fun h => absurd h.1 hpassing⟩

/-- A list is reported of an attribute where the name passes and it is reported of the value. -/
theorem accept_eq_listValue_iff {offer : OfferedAttribute} :
    (accept limits taken offer).1 = .error .listValue ↔
      PassingName limits taken offer.name ∧
        acceptValue limits offer.name offer.value? = .error .listValue := by
  by_cases hpassing : PassingName limits taken offer.name
  · rw [accept_of_name_ok (checkName_passing.mpr hpassing)]
    cases acceptValue limits offer.name offer.value? <;> simp [Except.map, hpassing]
  · obtain ⟨e, hne, heq⟩ := accept_of_failing hpassing
    rw [heq]
    exact ⟨fun h => absurd (Except.error.inj h) hne, fun h => absurd h.1 hpassing⟩

/-- **Taken names** are those that were taken before, and the name of the attribute if it passes. -/
theorem mem_accept_taken_iff {offer : OfferedAttribute} {other : String} :
    other ∈ (accept limits taken offer).2 ↔
      other ∈ taken ∨ other = offer.name ∧ PassingName limits taken offer.name := by
  by_cases hpassing : PassingName limits taken offer.name
  · rw [accept_of_name_ok (checkName_passing.mpr hpassing), List.mem_cons]
    simp only [hpassing, and_true, or_comm]
  · obtain ⟨e, -, heq⟩ := accept_of_failing hpassing
    simp only [heq, hpassing, and_false, or_false]

/-- **The verdict on an attribute.** It is accepted if and only if its name passes and its value conforms. It
    is accepted as the payload of the value, with the bytes of its name, of its data type and of the payload.
    It is refused as an unsupported operation if and only if there is a list and the checks of the name and
    of the data type, which come before, pass. Its name is taken afterwards if and only if it passes,
    whatever is said of the value. -/
theorem accept_verdict (limits : Limits) (taken : List String) (offer : OfferedAttribute) :
    ((∃ a, (accept limits taken offer).1 = .ok a) ↔
        PassingName limits taken offer.name ∧
          ∃ value kind payload, offer.value? = some value ∧ value.Conforms limits kind payload) ∧
      (∀ a, (accept limits taken offer).1 = .ok a ↔
        PassingName limits taken offer.name ∧
          (∃ value kind, offer.value? = some value ∧ a.value.dataType = value.dataType ∧
            value.Conforms limits kind a.value.payload) ∧
          a.size = offer.name.utf8ByteSize + a.value.dataType.utf8ByteSize + a.value.payload.size) ∧
      ((∃ e, (accept limits taken offer).1 = .error e ∧
          (ServiceError.messageAttribute e).code = .unsupportedOperation) ↔
        PassingName limits taken offer.name ∧
          ∃ value kind, offer.value? = some value ∧ value.Typed limits kind ∧
            (value.texts ≠ [] ∨ value.blobs ≠ [])) ∧
      ∀ other, other ∈ (accept limits taken offer).2 ↔
        other ∈ taken ∨ other = offer.name ∧ PassingName limits taken offer.name := by
  refine ⟨⟨?_, ?_⟩, fun a => ?_, ?_, fun other => mem_accept_taken_iff⟩
  · rintro ⟨a, ha⟩
    obtain ⟨hpassing, hvalue, -⟩ := accept_eq_ok_iff.mp ha
    obtain ⟨value, kind, hoffered, -, hconforms⟩ := acceptValue_conforms.mp hvalue
    exact ⟨hpassing, value, kind, _, hoffered, hconforms⟩
  · rintro ⟨hpassing, value, kind, p, hoffered, hconforms⟩
    have hvalue : acceptValue limits offer.name offer.value? = .ok ⟨value.dataType, p⟩ :=
      acceptValue_conforms.mpr ⟨value, kind, hoffered, rfl, hconforms⟩
    exact ⟨⟨⟨value.dataType, p⟩, attributeSize offer.name _⟩,
      accept_eq_ok_iff.mpr ⟨hpassing, hvalue, rfl⟩⟩
  · rw [accept_eq_ok_iff, acceptValue_conforms]
    rfl
  · simp only [code_eq_unsupported_iff, exists_eq_right, accept_eq_listValue_iff,
      acceptValue_eq_listValue_iff]

end OfferedAttribute

end QueueService
