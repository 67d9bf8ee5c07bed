import Mathlib
import QueueService.Proofs.Check
import QueueService.Proofs.Preparation

/-!
# Refused messages

Which messages can be prepared for a queue, and what is said of the others. The conditions are stated of
the message as it was offered, and they are checked in stages: the delay, the attributes one after another,
the body, the size of all. Of a message that fails at several stages only the first is reported.

* `OfferedAttribute.accept_ok_iff`, `OfferedAttribute.acceptAll_decides` — the rules for one attribute and
  for all.
* `OutboundMessage.prepare_iff` — the messages that are prepared, and the error of every other one.
-/

namespace QueueService

/-! ## Single attributes -/

/-- **The payload of an offered value** for a kind. A text is given if the kind uses texts, if no bytes are
    offered beside it, if it is drawn from the alphabet of bodies and, for numbers, if it spells one; bytes
    are given if the kind does not use texts and no text is offered beside them. -/
inductive OfferedValue.Gives (value : OfferedValue) (kind : AttributeKind) : Payload → Prop
  | text {text : String} (offered : value.text? = some text) (nonempty : text ≠ "")
      (alone : ∀ base64, value.base64? = some base64 → Base64.decode? base64 = some [])
      (uses : kind.usesText = true) (characters : ∀ c ∈ text.toList, Alphabet.isBodyChar c = true)
      (number : kind = .number → Number.isFiniteLiteral text = true) : Gives value kind (.text text)
  | bytes {base64 : String} {bytes : List UInt8} (offered : value.base64? = some base64)
      (decoded : Base64.decode? base64 = some bytes) (nonempty : bytes ≠ [])
      (alone : ∀ text, value.text? = some text → text = "") (uses : kind.usesText = false) :
      Gives value kind (.bytes bytes)

/-- **A valid value.** Its data type is one of a kind and not too long, it has no list, and it gives a
    payload. -/
structure OfferedValue.Valid (limits : Limits) (value : OfferedValue) : Prop where
  gives : ∃ kind payload, AttributeKind.ofDataType? value.dataType = some kind ∧ value.Gives kind payload
  typeLength : value.dataType.utf8ByteSize ≤ limits.messageAttributeTypeLength
  texts : value.texts = []
  blobs : value.blobs = []

/-- The bytes of an offered value: those of its data type, of its text and those that its Base64 text
    stands for. -/
def OfferedValue.size (value : OfferedValue) : Nat :=
  value.dataType.utf8ByteSize + (value.text?.getD "").utf8ByteSize +
    ((value.base64?.bind Base64.decode?).getD []).length

namespace OfferedAttribute

/-- **A valid attribute.** It has a name for attributes that is not too long, and a valid value. -/
structure Valid (limits : Limits) (offer : OfferedAttribute) : Prop where
  named : AttributeName offer.name
  nameLength : offer.name.length ≤ limits.messageAttributeNameLength
  valued : ∃ value, offer.value? = some value ∧ value.Valid limits

/-- The bytes of an offered attribute: those of its name and those of its value. -/
def size (offer : OfferedAttribute) : Nat :=
  offer.name.utf8ByteSize + (offer.value?.map OfferedValue.size).getD 0

variable {limits : Limits} {taken : List String} {name : String}

/-- Bytes are read from Base64 text, if there is any. -/
theorem offeredBytes_ok_iff {base64? : Option String} {bytes? : Option (List UInt8)} :
    offeredBytes name base64? = .ok bytes? ↔
      bytes? = base64?.bind Base64.decode? ∧
        ∀ base64, base64? = some base64 → ∃ bytes, Base64.decode? base64 = some bytes := by
  cases base64? with
  | none => simp [offeredBytes, eq_comm]
  | some base64 => cases hdecode : Base64.decode? base64 <;> simp [offeredBytes, hdecode, eq_comm]

/-- What is not offered as a payload is missing or empty. -/
theorem filter_eq_none_iff {α : Type} {isEmpty : α → Bool} {offered? : Option α} :
    offered?.filter (!isEmpty ·) = none ↔ ∀ a, offered? = some a → isEmpty a = true := by
  cases offered? <;> simp [Option.filter]

theorem gives_of_payload {value : OfferedValue} {kind : AttributeKind} {bytes? : Option (List UInt8)}
    {p : Payload} (hbytes : offeredBytes name value.base64? = .ok bytes?)
    (h : payload name value.dataType kind value.text? bytes? = .ok p) : value.Gives kind p := by
  obtain ⟨rfl, hdecodes⟩ := offeredBytes_ok_iff.mp hbytes
  unfold payload at h
  split at h
  · cases h
  · cases h
  · next text htext hnone =>
    obtain ⟨hoffered, hnonempty⟩ := Option.filter_eq_some_iff.mp htext
    split at h
    · next huses =>
      split at h
      · cases h
      · next hcharacters =>
        split at h
        · cases h
        · next hnumber =>
          cases h
          refine .text hoffered (by simpa using hnonempty) ?_ huses
            (Alphabet.firstNonBodyChar?_eq_none_iff.mp hcharacters) (by simpa using hnumber)
          intro base64 hbase64
          obtain ⟨bytes, hdecode⟩ := hdecodes base64 hbase64
          have hempty := filter_eq_none_iff.mp hnone bytes (by rw [hbase64, Option.bind_some, hdecode])
          rw [hdecode, List.isEmpty_iff.mp hempty]
    · cases h
  · next bytes hnone hsome =>
    obtain ⟨hbound, hnonempty⟩ := Option.filter_eq_some_iff.mp hsome
    obtain ⟨base64, hoffered, hdecode⟩ := Option.bind_eq_some_iff.mp hbound
    split at h
    · cases h
    · next huses =>
      cases h
      refine .bytes hoffered hdecode (by simpa using hnonempty) ?_ (by simpa using huses)
      intro text htext
      simpa using filter_eq_none_iff.mp hnone text htext

theorem payload_of_gives {value : OfferedValue} {kind : AttributeKind} {p : Payload}
    (h : value.Gives kind p) (name : String) :
    ∃ bytes?, offeredBytes name value.base64? = .ok bytes? ∧
      payload name value.dataType kind value.text? bytes? = .ok p := by
  cases h with
  | @text text offered nonempty alone uses characters number =>
      have htext : value.text?.filter (!·.isEmpty) = some text :=
        Option.filter_eq_some_iff.mpr ⟨offered, by simpa using nonempty⟩
      have hnone : (value.base64?.bind Base64.decode?).filter (!·.isEmpty) = none := by
        rw [filter_eq_none_iff]
        intro bytes hbytes
        obtain ⟨base64, hbase64, hdecode⟩ := Option.bind_eq_some_iff.mp hbytes
        rw [alone base64 hbase64] at hdecode
        cases hdecode
        rfl
      refine ⟨_, offeredBytes_ok_iff.mpr ⟨rfl, fun base64 hbase64 => ⟨_, alone base64 hbase64⟩⟩, ?_⟩
      have hcharacters := Alphabet.firstNonBodyChar?_eq_none_iff.mpr characters
      have hnumber : ¬ (decide (kind = .number) && !Number.isFiniteLiteral text) = true := by
        simpa using number
      simp only [payload, htext, hnone, uses, if_true, hcharacters, if_neg hnumber]
  | @bytes base64 bytes offered decoded nonempty alone uses =>
      have hbound : value.base64?.bind Base64.decode? = some bytes := by
        rw [offered, Option.bind_some, decoded]
      have hsome : (value.base64?.bind Base64.decode?).filter (!·.isEmpty) = some bytes :=
        Option.filter_eq_some_iff.mpr ⟨hbound, by simpa using nonempty⟩
      have hnone : value.text?.filter (!·.isEmpty) = none := by
        rw [filter_eq_none_iff]
        intro text htext
        simpa using alone text htext
      refine ⟨_, offeredBytes_ok_iff.mpr ⟨rfl, ?_⟩, ?_⟩
      · intro other hother
        cases offered.symm.trans hother
        exact ⟨bytes, decoded⟩
      · simp only [payload, hnone, hsome, uses, Bool.false_eq_true, if_false]

/-- The data type of a kind is not empty. -/
theorem dataType_ne_empty {dataType : String} {kind : AttributeKind}
    (h : AttributeKind.ofDataType? dataType = some kind) : dataType ≠ "" := by
  rintro rfl
  have hnone : AttributeKind.ofDataType? "" = none := by decide
  rw [hnone] at h
  cases h

/-- **Accepted values.** They are valid, and become the data type and the payload that was offered. -/
theorem acceptValue_ok_iff {value : OfferedValue} {accepted : AttributeValue} :
    acceptValue limits name (some value) = .ok accepted ↔
      accepted.dataType = value.dataType ∧
        value.dataType.utf8ByteSize ≤ limits.messageAttributeTypeLength ∧
        value.texts = [] ∧ value.blobs = [] ∧
        ∃ kind, AttributeKind.ofDataType? value.dataType = some kind ∧
          value.Gives kind accepted.payload := by
  constructor
  · intro h
    unfold acceptValue at h
    simp only at h
    split at h
    · cases h
    split at h
    · cases h
    · next kind hkind =>
      split at h
      · cases h
      next hlength =>
      split at h
      · cases h
      next hlists =>
      split at h
      · cases h
      next hbytes =>
      split at h
      · cases h
      next hpayload =>
      cases h
      simp only [Bool.or_eq_true, Bool.not_eq_true', not_or, Bool.not_eq_false,
        List.isEmpty_iff] at hlists
      exact ⟨rfl, Nat.le_of_not_lt hlength, hlists.1, hlists.2, kind, hkind,
        gives_of_payload hbytes hpayload⟩
  · rintro ⟨htype, hlength, htexts, hblobs, kind, hkind, hgives⟩
    obtain ⟨bytes?, hbytes, hpayload⟩ := payload_of_gives hgives name
    have hnonempty : value.dataType.isEmpty = false := by simpa using dataType_ne_empty hkind
    simp only [acceptValue, hnonempty, Bool.false_eq_true, if_false, hkind,
      if_neg (Nat.not_lt_of_le hlength), htexts, hblobs, List.isEmpty_nil, Bool.not_true, Bool.or_self,
      hbytes, hpayload]
    rw [← htype]

/-- A payload has the bytes of the text and of the bytes that were offered, one of which is missing. -/
theorem size_of_gives {value : OfferedValue} {kind : AttributeKind} {p : Payload}
    (h : value.Gives kind p) : value.dataType.utf8ByteSize + p.size = value.size := by
  rw [OfferedValue.size, Nat.add_assoc]
  congr 1
  cases h with
  | text offered nonempty alone uses characters number =>
      have hnone : ((value.base64?.bind Base64.decode?).getD []).length = 0 := by
        cases hbase64 : value.base64? with
        | none => rfl
        | some base64 => rw [Option.bind_some, alone base64 hbase64]; rfl
      rw [offered, hnone]
      rfl
  | bytes offered decoded nonempty alone uses =>
      have hnone : (value.text?.getD "").utf8ByteSize = 0 := by
        cases htext : value.text? with
        | none => rfl
        | some text => rw [alone text htext]; rfl
      rw [offered, Option.bind_some, decoded, hnone, Nat.zero_add]
      rfl

/-- A name that is not taken passes if it would pass alone, and fails for the same reason. -/
theorem accept_new {offer : OfferedAttribute} (hnew : offer.name ∉ taken) :
    (accept limits taken offer).1 = (accept limits [] offer).1 := by
  have hname : checkName limits taken offer.name = checkName limits [] offer.name := by
    have hcontains : taken.contains offer.name = ([] : List String).contains offer.name := by
      simpa using hnew
    unfold checkName
    rw [hcontains]
  cases halone : checkName limits [] offer.name with
  | error e => rw [accept_of_name_error halone, accept_of_name_error (hname.trans halone)]
  | ok => rw [accept_of_name_ok halone, accept_of_name_ok (hname.trans halone)]

/-- A valid attribute under a new name is accepted, with the bytes that were offered. -/
theorem accept_valid {offer : OfferedAttribute} (h : offer.Valid limits) (hnew : offer.name ∉ taken) :
    ∃ a, accept limits taken offer = (.ok a, offer.name :: taken) ∧ a.size = offer.size := by
  obtain ⟨value, hvalue, hvalid⟩ := h.valued
  obtain ⟨kind, p, hkind, hgives⟩ := hvalid.gives
  have hname := checkName_ok_iff.mpr ⟨h.named, h.nameLength, hnew⟩
  have haccept : acceptValue limits offer.name offer.value? = .ok ⟨value.dataType, p⟩ := by
    rw [hvalue, acceptValue_ok_iff]
    exact ⟨rfl, hvalid.typeLength, hvalid.texts, hvalid.blobs, kind, hkind, hgives⟩
  refine ⟨_, by rw [accept_of_name_ok hname, haccept]; rfl, ?_⟩
  rw [size, hvalue, Option.map_some, Option.getD_some, ← size_of_gives hgives]
  exact Nat.add_assoc ..

/-- A name that was valid once is refused the second time, whatever its value is. -/
theorem accept_taken {offer : OfferedAttribute} (hnamed : AttributeName offer.name)
    (hlength : offer.name.length ≤ limits.messageAttributeNameLength) (htaken : offer.name ∈ taken) :
    accept limits taken offer = (.error (.nameTaken offer.name), taken) := by
  have hnonempty : offer.name.isEmpty = false := by simpa using hnamed.nonempty
  have hreserved : isReserved offer.name = false := by
    rw [Bool.eq_false_iff, Ne, isReserved_eq_true_iff]
    rintro ⟨word, hword, hbegins⟩
    exact hnamed.reserved word hword hbegins
  have hdots : hasSuccessiveDots offer.name.toList = false := by
    rw [Bool.eq_false_iff, Ne, hasSuccessiveDots_eq_true_iff]
    exact hnamed.dots
  have hcharacters := Alphabet.firstNonAttributeNameChar?_eq_none_iff.mpr hnamed.characters
  have hname : checkName limits taken offer.name = .error (.nameTaken offer.name) := by
    simp only [checkName, hnonempty, if_neg (Nat.not_lt_of_le hlength), hreserved, hdots, hcharacters,
      List.contains_iff_mem.mpr htaken, Bool.false_eq_true, if_false, if_true]
  exact accept_of_name_error hname

/-- **Single attributes.** An attribute is accepted on its own if and only if it is valid. -/
theorem accept_ok_iff {offer : OfferedAttribute} :
    (∃ a, (accept limits [] offer).1 = .ok a) ↔ offer.Valid limits := by
  constructor
  · rintro ⟨a, ha⟩
    obtain ⟨hname, hvalue, -, -⟩ := accept_checked (Prod.ext ha rfl)
    obtain ⟨hnamed, hlength, -⟩ := checkName_ok_iff.mp hname
    cases hoffered : offer.value? with
    | none =>
        rw [hoffered] at hvalue
        cases hvalue
    | some value =>
        rw [hoffered, acceptValue_ok_iff] at hvalue
        obtain ⟨-, htype, htexts, hblobs, kind, hkind, hgives⟩ := hvalue
        exact ⟨hnamed, hlength, value, hoffered, ⟨kind, _, hkind, hgives⟩, htype, htexts, hblobs⟩
  · intro h
    obtain ⟨a, haccept, -⟩ := accept_valid h List.not_mem_nil
    exact ⟨a, by rw [haccept]⟩

/-! ## All attributes -/

/-- **Acceptable attributes.** Each is valid, and no two have the same name. -/
structure Acceptable (limits : Limits) (offers : List OfferedAttribute) : Prop where
  valid : ∀ offer ∈ offers, offer.Valid limits
  distinct : (offers.map (·.name)).Nodup

/-- **The first attribute that is refused,** behind others that are acceptable: for its own sake, or because
    it has the name of one of them. -/
inductive Refused (limits : Limits) (offers : List OfferedAttribute) : AttributeError → Prop
  | own {before after : List OfferedAttribute} {offer : OfferedAttribute} {e : AttributeError}
      (offered : offers = before ++ offer :: after) (acceptable : Acceptable limits before)
      (new : offer.name ∉ before.map (·.name)) (error : (accept limits [] offer).1 = .error e) :
      Refused limits offers e
  | taken {before after : List OfferedAttribute} {offer : OfferedAttribute}
      (offered : offers = before ++ offer :: after) (acceptable : Acceptable limits before)
      (taken : offer.name ∈ before.map (·.name)) : Refused limits offers (.nameTaken offer.name)

/-- Acceptable attributes are accepted under names that are not taken, with the bytes that were offered, and
    those behind them are checked next, when their names are taken. -/
theorem exists_acceptAll {offers : List OfferedAttribute} (h : Acceptable limits offers)
    (hnew : ∀ offer ∈ offers, offer.name ∉ taken) (rest : List OfferedAttribute) :
    ∃ accepted, accepted.map (·.2.size) = offers.map size ∧
      acceptAll limits taken (offers ++ rest) =
        (acceptAll limits ((offers.map (·.name)).reverse ++ taken) rest).map (accepted ++ ·) := by
  induction offers generalizing taken with
  | nil =>
      refine ⟨[], rfl, ?_⟩
      rw [List.nil_append, List.map_nil, List.reverse_nil, List.nil_append]
      cases acceptAll limits taken rest <;> rfl
  | cons offer offers ih =>
      obtain ⟨hfirst, hvalid⟩ := List.forall_mem_cons.mp h.valid
      obtain ⟨hother, hdistinct⟩ := List.nodup_cons.mp h.distinct
      rw [List.forall_mem_cons] at hnew
      obtain ⟨a, haccept, hsize⟩ := accept_valid hfirst hnew.1
      have hnew' : ∀ other ∈ offers, other.name ∉ offer.name :: taken := by
        intro other hmem htaken
        rcases List.mem_cons.mp htaken with heq | htaken
        · exact hother (List.mem_map.mpr ⟨other, hmem, heq⟩)
        · exact hnew.2 other hmem htaken
      obtain ⟨accepted, hsizes, hrest⟩ := ih ⟨hvalid, hdistinct⟩ hnew'
      refine ⟨(offer.name, a) :: accepted, by rw [List.map_cons, List.map_cons, hsizes, hsize], ?_⟩
      rw [List.cons_append, acceptAll, haccept]
      simp only [hrest, List.map_cons, List.reverse_cons, List.append_assoc, List.singleton_append]
      cases acceptAll limits _ rest <;> rfl

/-- Attributes are acceptable, or there is a first that is refused. -/
theorem acceptable_or_refused (limits : Limits) (offers : List OfferedAttribute) :
    Acceptable limits offers ∨ ∃ e, Refused limits offers e := by
  induction offers using List.reverseRecOn with
  | nil => exact .inl ⟨nofun, List.nodup_nil⟩
  | append_singleton offers offer ih =>
      rcases ih with hacceptable | ⟨e, hrefused⟩
      · by_cases htaken : offer.name ∈ offers.map (·.name)
        · exact .inr ⟨_, .taken rfl hacceptable htaken⟩
        · cases hresult : (accept limits [] offer).1 with
          | error e => exact .inr ⟨e, .own rfl hacceptable htaken hresult⟩
          | ok a =>
              refine .inl ⟨?_, ?_⟩
              · intro other hmem
                rcases List.mem_append.mp hmem with hmem | hmem
                · exact hacceptable.valid other hmem
                · rw [List.mem_singleton.mp hmem]
                  exact accept_ok_iff.mp ⟨a, hresult⟩
              · rw [List.map_append, List.map_singleton]
                exact List.nodup_append_comm.mp (List.nodup_cons.mpr ⟨htaken, hacceptable.distinct⟩)
      · -- what is refused among the first is refused among all
        refine .inr ⟨e, ?_⟩
        cases hrefused with
        | own offered acceptable new error =>
            exact .own (by rw [offered, List.append_assoc]; rfl) acceptable new error
        | taken offered acceptable taken =>
            exact .taken (by rw [offered, List.append_assoc]; rfl) acceptable taken

/-- **Acceptable attributes** are accepted, with the bytes that were offered. -/
theorem acceptAll_of_acceptable {offers : List OfferedAttribute} (h : Acceptable limits offers) :
    ∃ accepted, acceptAll limits [] offers = .ok accepted ∧
      accepted.map (·.2.size) = offers.map size := by
  obtain ⟨accepted, hsizes, heq⟩ := exists_acceptAll h (fun _ _ => List.not_mem_nil) []
  rw [List.append_nil] at heq
  refine ⟨accepted, heq.trans ?_, hsizes⟩
  rw [acceptAll, Except.map, List.append_nil]

/-- **The first refused attribute** decides what is said of all. -/
theorem acceptAll_of_refused {offers : List OfferedAttribute} {e : AttributeError}
    (h : Refused limits offers e) : acceptAll limits [] offers = .error e := by
  cases h with
  | @own before after offer _ offered acceptable new error =>
      obtain ⟨accepted, -, heq⟩ :=
        exists_acceptAll acceptable (fun _ _ => List.not_mem_nil) (offer :: after)
      have hrefused : (accept limits ((before.map (·.name)).reverse ++ []) offer).1 = .error e :=
        (accept_new (by simpa using new)).trans error
      rw [offered, heq, acceptAll]
      revert hrefused
      cases accept limits ((before.map (·.name)).reverse ++ []) offer with
      | mk result taken =>
          rintro rfl
          rfl
  | @taken before after offer offered acceptable taken =>
      obtain ⟨accepted, -, heq⟩ :=
        exists_acceptAll acceptable (fun _ _ => List.not_mem_nil) (offer :: after)
      obtain ⟨first, hfirst, hname⟩ := List.mem_map.mp taken
      have hvalid := acceptable.valid first hfirst
      rw [offered, heq, acceptAll, accept_taken (hname ▸ hvalid.named) (hname ▸ hvalid.nameLength)
        (by simpa using taken)]
      rfl

/-- **All attributes.** They are accepted if and only if they are acceptable, and otherwise the first that is
    refused is reported. -/
theorem acceptAll_decides (limits : Limits) (offers : List OfferedAttribute) :
    Decides (acceptAll limits [] offers) (Acceptable limits offers) (Refused limits offers) where
  ok h := by
    obtain ⟨accepted, haccepted, -⟩ := acceptAll_of_acceptable h
    exact ⟨accepted, haccepted⟩
  error _ h := acceptAll_of_refused h
  total := acceptable_or_refused limits offers

end OfferedAttribute

namespace OutboundMessage

variable {limits : Limits} {sender : String} {queue : Queue} {now : Int} {id : String}
  {m : OutboundMessage} {e : ServiceError}

/-! ## Delay and body -/

/-- **A timely message.** Its delay is absent or a number of 64 bits within the limits. -/
def Timely (limits : Limits) (m : OutboundMessage) : Prop :=
  ∀ text, m.delay? = some text →
    ∃ delay : Nat, Integer.signed? 64 (Blank.trim text) = some (delay : Int) ∧
      delay ≤ limits.delaySeconds

/-- **What is wrong with a delay.** -/
inductive Untimely (limits : Limits) (m : OutboundMessage) : ServiceError → Prop
  | notANumber {text : String} (asked : m.delay? = some text)
      (unread : Integer.signed? 64 (Blank.trim text) = none) :
      Untimely limits m (.delayNotANumber text)
  | outOfRange {text : String} {n : Int} (asked : m.delay? = some text)
      (read : Integer.signed? 64 (Blank.trim text) = some n)
      (outside : n < 0 ∨ (limits.delaySeconds : Int) < n) :
      Untimely limits m (.delayOutOfRange limits.delaySeconds)

/-- **What is wrong with a body.** -/
inductive Unbodied (m : OutboundMessage) : ServiceError → Prop
  | missing (absent : ∀ body, m.body? = some body → body = "") : Unbodied m .bodyMissing
  | character {body : String} {before after : List Char} {c : Char} (offered : m.body? = some body)
      (characters : body.toList = before ++ c :: after)
      (clean : ∀ d ∈ before, Alphabet.isBodyChar d = true) (wrong : Alphabet.isBodyChar c = false) :
      Unbodied m (.bodyCharacter c)

theorem delay_decides (limits : Limits) (queue : Queue) (m : OutboundMessage) :
    Decides (m.delay limits queue) (m.Timely limits) (m.Untimely limits) where
  ok h := by
    unfold delay
    cases hdelay : m.delay? with
    | none => exact ⟨_, rfl⟩
    | some text =>
        obtain ⟨delay, hread, hle⟩ := h text hdelay
        have hrange : (decide (0 ≤ (delay : Int)) &&
            decide ((delay : Int) ≤ limits.delaySeconds)) = true := by
          simpa using hle
        exact ⟨delay, by simp only [hread, if_pos hrange]⟩
  error := by
    intro e h
    cases h with
    | notANumber asked unread => simp only [delay, asked, unread]
    | @outOfRange text n asked read outside =>
        have hrange : ¬ (decide (0 ≤ n) && decide (n ≤ (limits.delaySeconds : Int))) = true := by
          simp only [Bool.and_eq_true, decide_eq_true_eq]
          omega
        simp only [delay, asked, read, if_neg hrange]
  total := by
    cases hdelay : m.delay? with
    | none => exact .inl fun text htext => nomatch hdelay.symm.trans htext
    | some text =>
        cases hread : Integer.signed? 64 (Blank.trim text) with
        | none => exact .inr ⟨_, .notANumber hdelay hread⟩
        | some n =>
            by_cases hrange : 0 ≤ n ∧ n ≤ (limits.delaySeconds : Int)
            · obtain ⟨delay, rfl⟩ := Int.eq_ofNat_of_zero_le hrange.1
              refine .inl fun text' htext' => ?_
              cases hdelay.symm.trans htext'
              exact ⟨delay, hread, Int.ofNat_le.mp hrange.2⟩
            · exact .inr ⟨_, .outOfRange hdelay hread (by omega)⟩

theorem checkedBody_of_bodied {body : String} (h : m.Bodied body) : m.checkedBody = .ok body := by
  have hfilter : m.body?.filter (!·.isEmpty) = some body :=
    Option.filter_eq_some_iff.mpr ⟨h.offered, by simpa using h.nonempty⟩
  have hcharacters := Alphabet.firstNonBodyChar?_eq_none_iff.mpr h.characters
  simp only [checkedBody, hfilter, hcharacters]

theorem checkedBody_decides (m : OutboundMessage) :
    Decides m.checkedBody (∃ body, m.Bodied body) m.Unbodied where
  ok := fun ⟨body, h⟩ => ⟨body, checkedBody_of_bodied h⟩
  error := by
    intro e h
    cases h with
    | missing absent =>
        have hfilter : m.body?.filter (!·.isEmpty) = none := by
          rw [OfferedAttribute.filter_eq_none_iff]
          intro body hbody
          simpa using absent body hbody
        simp only [checkedBody, hfilter]
    | @character body before after c offered characters clean wrong =>
        have hnonempty : body ≠ "" := by
          rintro rfl
          exact List.cons_ne_nil _ _ (List.append_eq_nil_iff.mp characters.symm).2
        have hfilter : m.body?.filter (!·.isEmpty) = some body :=
          Option.filter_eq_some_iff.mpr ⟨offered, by simpa using hnonempty⟩
        have hcharacter : Alphabet.firstNonBodyChar? body = some c := by
          rw [Alphabet.firstNonBodyChar?, List.find?_eq_some_iff_append]
          exact ⟨by rw [wrong]; rfl, before, after, characters, by simpa using clean⟩
        simp only [checkedBody, hfilter, hcharacter]
  total := by
    cases hfilter : m.body?.filter (!·.isEmpty) with
    | none =>
        refine .inr ⟨_, .missing fun body hbody => ?_⟩
        simpa using OfferedAttribute.filter_eq_none_iff.mp hfilter body hbody
    | some body =>
        obtain ⟨hoffered, hnonempty⟩ := Option.filter_eq_some_iff.mp hfilter
        cases hcharacter : Alphabet.firstNonBodyChar? body with
        | none =>
            exact .inl ⟨body, hoffered, by simpa using hnonempty,
              Alphabet.firstNonBodyChar?_eq_none_iff.mp hcharacter⟩
        | some c =>
            obtain ⟨hwrong, before, after, hcharacters, hclean⟩ :=
              List.find?_eq_some_iff_append.mp hcharacter
            exact .inr ⟨_, .character hoffered hcharacters (by simpa using hclean) (by simpa using hwrong)⟩

/-! ## Preparation -/

/-- The bytes of a message with a given body: those of the body and of the attributes that were offered. -/
def offeredSize (m : OutboundMessage) (body : String) : Nat :=
  body.utf8ByteSize + (m.attributes.map OfferedAttribute.size).sum

/-- **A refused message,** by the first stage that it fails at. -/
inductive Refused (limits : Limits) (queue : Queue) (m : OutboundMessage) : ServiceError → Prop
  | delay {e : ServiceError} (delay : Untimely limits m e) : Refused limits queue m e
  | attributes {e : AttributeError} (delay : m.Timely limits)
      (attributes : OfferedAttribute.Refused limits m.attributes e) :
      Refused limits queue m (.messageAttribute e)
  | body {e : ServiceError} (delay : m.Timely limits)
      (attributes : OfferedAttribute.Acceptable limits m.attributes) (body : m.Unbodied e) :
      Refused limits queue m e
  | size {body : String} (delay : m.Timely limits)
      (attributes : OfferedAttribute.Acceptable limits m.attributes) (bodied : m.Bodied body)
      (size : queue.attributes.maximumMessageSize < m.offeredSize body) :
      Refused limits queue m (.messageTooLong queue.attributes.maximumMessageSize)

theorem size_eq_sum (body : String) (accepted : List (String × AcceptedAttribute)) :
    size body accepted = body.utf8ByteSize + (accepted.map (·.2.size)).sum := by
  induction accepted with
  | nil => rfl
  | cons a rest ih =>
      rw [size] at ih ⊢
      rw [List.foldr_cons, ih, List.map_cons, List.sum_cons]
      omega

/-- The size that is checked is that of what was offered. -/
theorem size_eq_offeredSize {accepted : List (String × AcceptedAttribute)}
    (h : OfferedAttribute.acceptAll limits [] m.attributes = .ok accepted) (body : String) :
    size body accepted = m.offeredSize body := by
  have hacceptable := (OfferedAttribute.acceptAll_decides limits m.attributes).ok_iff.mp ⟨accepted, h⟩
  obtain ⟨accepted', h', hsizes⟩ := OfferedAttribute.acceptAll_of_acceptable hacceptable
  cases h.symm.trans h'
  rw [size_eq_sum, hsizes, offeredSize]

theorem bodied_unique {body body' : String} (h : m.Bodied body) (h' : m.Bodied body') : body = body' :=
  Option.some.inj (h.offered.symm.trans h'.offered)

/-- A message has one body at most, so some body is small enough if there is one and all are. -/
theorem bodied_and_le_iff {size : Nat} :
    (∃ body, m.Bodied body ∧ m.offeredSize body ≤ size) ↔
      (∃ body, m.Bodied body) ∧ ∀ body, m.Bodied body → m.offeredSize body ≤ size := by
  constructor
  · rintro ⟨body, hbodied, hsize⟩
    refine ⟨⟨body, hbodied⟩, fun body' hbodied' => ?_⟩
    rwa [bodied_unique hbodied' hbodied]
  · rintro ⟨⟨body, hbodied⟩, hsize⟩
    exact ⟨body, hbodied, hsize body hbodied⟩

/-- The ways to be refused, each behind the stages that come before it. -/
theorem refused_iff :
    m.Refused limits queue e ↔ m.Untimely limits e ∨ m.Timely limits ∧
      ((∃ cause, OfferedAttribute.Refused limits m.attributes cause ∧ .messageAttribute cause = e) ∨
        OfferedAttribute.Acceptable limits m.attributes ∧
          (m.Unbodied e ∨ (∃ body, m.Bodied body) ∧
            ∃ body, m.Bodied body ∧ queue.attributes.maximumMessageSize < m.offeredSize body ∧
              e = .messageTooLong queue.attributes.maximumMessageSize)) := by
  constructor
  · intro h
    cases h with
    | delay delay => exact .inl delay
    | attributes delay attributes => exact .inr ⟨delay, .inl ⟨_, attributes, rfl⟩⟩
    | body delay attributes body => exact .inr ⟨delay, .inr ⟨attributes, .inl body⟩⟩
    | size delay attributes bodied size =>
        exact .inr ⟨delay, .inr ⟨attributes, .inr ⟨⟨_, bodied⟩, _, bodied, size, rfl⟩⟩⟩
  · rintro (hdelay | ⟨htimely, ⟨cause, hrefused, rfl⟩ | ⟨hacceptable, hbody | hsize⟩⟩)
    · exact .delay hdelay
    · exact .attributes htimely hrefused
    · exact .body htimely hacceptable hbody
    · obtain ⟨-, body, hbodied, hsize, rfl⟩ := hsize
      exact .size htimely hacceptable hbodied hsize

/-- **Preparation** in its four stages. -/
theorem prepare_decides (limits : Limits) (sender : String) (queue : Queue) (now : Int) (id : String)
    (m : OutboundMessage) :
    Decides (m.prepare limits sender queue now id)
      (m.Timely limits ∧ OfferedAttribute.Acceptable limits m.attributes ∧
        ∃ body, m.Bodied body ∧ m.offeredSize body ≤ queue.attributes.maximumMessageSize)
      (m.Refused limits queue) := by
  refine Decides.congr ?_ (and_congr_right fun _ => and_congr_right fun _ => bodied_and_le_iff.symm)
    fun _ => refused_iff.symm
  unfold prepare
  refine (delay_decides limits queue m).bind fun delay _ => ?_
  refine ((OfferedAttribute.acceptAll_decides limits m.attributes).mapError _).bind
    fun accepted haccepted => ?_
  refine (checkedBody_decides m).bind fun body hbody => ?_
  have hbodied := checkedBody_ok hbody
  rw [size_eq_offeredSize (exceptMapError_ok haccepted)]
  refine ⟨fun h => ?_, ?_, ?_⟩
  · rw [if_neg (Nat.not_lt_of_le (h body hbodied))]
    exact ⟨_, rfl⟩
  · rintro e ⟨body', hbodied', hsize, rfl⟩
    cases bodied_unique hbodied hbodied'
    rw [if_pos hsize]
    rfl
  · by_cases hsize : queue.attributes.maximumMessageSize < m.offeredSize body
    · exact .inr ⟨_, body, hbodied, hsize, rfl⟩
    · refine .inl fun body' hbodied' => ?_
      cases bodied_unique hbodied hbodied'
      exact Nat.le_of_not_lt hsize

/-- **Preparation.** A message is prepared for a queue if and only if its delay is absent or within the
    limits, its attributes are acceptable, and it has a body that is not larger, with the attributes, than
    the queue allows. Otherwise the first stage that it fails at is reported. -/
theorem prepare_iff (limits : Limits) (sender : String) (queue : Queue) (now : Int) (id : String)
    (m : OutboundMessage) :
    ((∃ message, m.prepare limits sender queue now id = .ok message) ↔
        m.Timely limits ∧ OfferedAttribute.Acceptable limits m.attributes ∧
          ∃ body, m.Bodied body ∧ m.offeredSize body ≤ queue.attributes.maximumMessageSize) ∧
      ∀ e, m.prepare limits sender queue now id = .error e ↔ m.Refused limits queue e := by
  have hdecides := prepare_decides limits sender queue now id m
  exact ⟨hdecides.ok_iff, fun _ => hdecides.error_iff⟩

end OutboundMessage

end QueueService
