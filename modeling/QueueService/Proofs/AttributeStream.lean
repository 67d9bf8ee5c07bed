import Mathlib
import QueueService.Proofs.Admission
import QueueService.Proofs.EncodedText
import QueueService.Proofs.Store.Listing

/-!
# The stream of attributes

What the digest of a message's attributes is taken of. The stream has the attributes in the order of their
names, and each part of an attribute is a field, which stands behind its length. A length has four bytes; as
long as it fits into them, the end of a field can be told from its beginning, and the attributes can be read
off the stream one after another. What a queue takes is never too long for that, because the size of a
message is checked before its digests are made.

* `written_stream` — the layout of the stream, for attributes of any length and form.
* `stream_injective` — different attributes of single values have different streams.
* `OutboundMessage.prepare_fitting` — the attributes of a prepared message fit into their fields.
-/

namespace QueueService

namespace Digest

/-! ## Fields -/

/-- The number that bytes spell, the highest of them first. -/
def spelled (bytes : List UInt8) : Nat := bytes.foldl (fun n b => 256 * n + b.toNat) 0

/-- **A field as it is written:** bytes behind four others that spell their number, as far as four bytes
    can. -/
def CutField (bytes field : List UInt8) : Prop :=
  ∃ head, head.length = 4 ∧ spelled head = bytes.length % 2 ^ 32 ∧ field = head ++ bytes

/-- **A whole field:** bytes behind four others that spell their number. -/
def WholeField (bytes field : List UInt8) : Prop :=
  ∃ head, head.length = 4 ∧ spelled head = bytes.length ∧ field = head ++ bytes

/-- Bytes whose number four bytes can spell. -/
def Fits (bytes : List UInt8) : Prop := bytes.length ≤ 2 ^ 32 - 1

theorem spelled_lengthBytes (n : Nat) : spelled (lengthBytes n) = n % 2 ^ 32 := by
  simp only [spelled, lengthBytes, List.foldl_cons, List.foldl_nil, UInt8.toNat_ofNat',
    Nat.shiftRight_eq_div_pow, Nat.reducePow]
  omega

theorem cutField_framed (bytes : List UInt8) : CutField bytes (framed bytes) :=
  ⟨_, rfl, spelled_lengthBytes _, rfl⟩

theorem wholeField_framed {bytes : List UInt8} (h : Fits bytes) : WholeField bytes (framed bytes) := by
  have hlt : bytes.length < 2 ^ 32 := Nat.lt_of_le_of_lt h (by decide)
  exact ⟨_, rfl, by rw [spelled_lengthBytes, Nat.mod_eq_of_lt hlt], rfl⟩

/-! ## Layout -/

/-- **The form of a value** in a stream: its tag, and its fields. -/
inductive Form : Payload → UInt8 → List (List UInt8) → Prop
  | text (value : String) : Form (.text value) 1 [Utf8.encode value]
  | bytes (value : List UInt8) : Form (.bytes value) 2 [value]
  | texts (values : List String) : Form (.texts values) 3 (values.map Utf8.encode)
  | blobs (values : List (List UInt8)) : Form (.blobs values) 4 values

/-- **The layout of a stream.** Every attribute has a field for its name, one for its data type, the tag of
    its value and the fields of its value, with fields of a given kind. -/
inductive Written (Field : List UInt8 → List UInt8 → Prop) :
    List (String × AttributeValue) → List UInt8 → Prop
  | nil : Written Field [] []
  | cons {name : String} {value : AttributeValue} {rest : List (String × AttributeValue)}
      {nameField typeField more : List UInt8} {tag : UInt8} {parts fields : List (List UInt8)}
      (hname : Field (Utf8.encode name) nameField)
      (htype : Field (Utf8.encode value.dataType) typeField)
      (hform : Form value.payload tag parts) (hparts : List.Forall₂ Field parts fields)
      (hrest : Written Field rest more) :
      Written Field ((name, value) :: rest)
        (nameField ++ typeField ++ tag :: fields.flatten ++ more)

theorem exists_form (p : Payload) :
    ∃ parts, Form p p.tag parts ∧ payloadStream p = (parts.map framed).flatten := by
  cases p with
  | text value => exact ⟨_, .text value, by simp [payloadStream]⟩
  | bytes value => exact ⟨_, .bytes value, by simp [payloadStream]⟩
  | texts values =>
      refine ⟨_, .texts values, ?_⟩
      rw [payloadStream, List.map_map, List.flatMap_def]
      rfl
  | blobs values => exact ⟨_, .blobs values, by rw [payloadStream, List.flatMap_def]⟩

/-- **The layout,** with all fields of a kind if what they hold is written so. -/
theorem written_of_fields {Field : List UInt8 → List UInt8 → Prop}
    {entries : List (String × AttributeValue)}
    (hname : ∀ e ∈ entries, Field (Utf8.encode e.1) (framed (Utf8.encode e.1)))
    (htype : ∀ e ∈ entries, Field (Utf8.encode e.2.dataType) (framed (Utf8.encode e.2.dataType)))
    (hparts : ∀ e ∈ entries, ∀ tag parts, Form e.2.payload tag parts →
      ∀ part ∈ parts, Field part (framed part)) :
    Written Field entries (entries.flatMap fun e => attributeStream e.1 e.2) := by
  induction entries with
  | nil => exact .nil
  | cons e rest ih =>
      rw [List.forall_mem_cons] at hname htype hparts
      obtain ⟨parts, hform, hstream⟩ := exists_form e.2.payload
      rw [List.flatMap_cons, attributeStream, hstream]
      refine .cons hname.1 htype.1 hform ?_ (ih hname.2 htype.2 hparts.2)
      exact List.forall₂_map_right_iff.mpr (List.forall₂_same.mpr (hparts.1 _ _ hform))

theorem written_stream (attributes : Dict String AttributeValue) :
    Written CutField attributes.entries (stream attributes) :=
  written_of_fields (fun _ _ => cutField_framed _) (fun _ _ => cutField_framed _)
    fun _ _ _ _ _ _ _ => cutField_framed _

/-- Attributes stand in the order of the bytes of their names. -/
theorem entries_ascending (attributes : Dict String AttributeValue) :
    attributes.entries.Pairwise fun a b => Utf8.encode a.1 < Utf8.encode b.1 := by
  refine attributes.ascending.imp ?_
  intro a b hlt
  exact Utf8.encode_lt (String.lt_iff.mpr (Store.compare_text_lt.mp hlt))

/-! ## Attributes that fit -/

/-- **Fitting attributes:** single values, with every part short enough for its field. -/
structure Fitting (name : String) (value : AttributeValue) : Prop where
  single : value.payload.Single
  name : name.utf8ByteSize ≤ 2 ^ 32 - 1
  dataType : value.dataType.utf8ByteSize ≤ 2 ^ 32 - 1
  payload : value.payload.size ≤ 2 ^ 32 - 1

theorem fits_encode {text : String} (h : text.utf8ByteSize ≤ 2 ^ 32 - 1) : Fits (Utf8.encode text) := by
  rw [Fits, Utf8.length_encode]
  exact h

theorem Form.fits {p : Payload} {tag : UInt8} {parts : List (List UInt8)} (hform : Form p tag parts)
    (hsingle : p.Single) (hsize : p.size ≤ 2 ^ 32 - 1) : ∀ part ∈ parts, Fits part := by
  cases hform with
  | text value => exact List.forall_mem_singleton.mpr (fits_encode hsize)
  | bytes value => exact List.forall_mem_singleton.mpr hsize
  | texts | blobs => cases hsingle

/-- No length is cut off in the stream of attributes that fit. -/
theorem written_of_fitting {attributes : Dict String AttributeValue}
    (h : ∀ e ∈ attributes.entries, Fitting e.1 e.2) :
    Written WholeField attributes.entries (stream attributes) :=
  written_of_fields (fun e he => wholeField_framed (fits_encode (h e he).name))
    (fun e he => wholeField_framed (fits_encode (h e he).dataType))
    fun e he _ _ hform part hpart =>
      wholeField_framed (hform.fits (h e he).single (h e he).payload part hpart)

/-! ## Reading a stream -/

/-- A code can be split off the front of any bytes, for values with a property. -/
def Separable {α : Type} (P : α → Prop) (code : α → List UInt8) : Prop :=
  ∀ a b x y, P a → P b → code a ++ x = code b ++ y → a = b ∧ x = y

/-- A row of values is read off the bytes one value after another. -/
theorem Separable.flatMap {α : Type} {P : α → Prop} {code : α → List UInt8} (h : Separable P code)
    (hnonempty : ∀ a, code a ≠ []) {as bs : List α} (ha : ∀ a ∈ as, P a) (hb : ∀ b ∈ bs, P b)
    (heq : as.flatMap code = bs.flatMap code) : as = bs := by
  induction as generalizing bs with
  | nil =>
      cases bs with
      | nil => rfl
      | cons b bs =>
          rw [List.flatMap_nil, List.flatMap_cons] at heq
          exact absurd (List.append_eq_nil_iff.mp heq.symm).1 (hnonempty b)
  | cons a as ih =>
      cases bs with
      | nil =>
          rw [List.flatMap_nil, List.flatMap_cons] at heq
          exact absurd (List.append_eq_nil_iff.mp heq).1 (hnonempty a)
      | cons b bs =>
          rw [List.forall_mem_cons] at ha hb
          rw [List.flatMap_cons, List.flatMap_cons] at heq
          obtain ⟨rfl, hrest⟩ := h a b _ _ ha.1 hb.1 heq
          rw [ih ha.2 hb.2 hrest]

/-- The length of a field tells where it ends. -/
theorem framed_separable : Separable Fits framed := by
  intro a b x y ha hb h
  rw [framed, framed, List.append_assoc, List.append_assoc] at h
  obtain ⟨hhead, hrest⟩ := List.append_inj h rfl
  have hlength : a.length = b.length := by
    have hspelled := congrArg spelled hhead
    rw [spelled_lengthBytes, spelled_lengthBytes] at hspelled
    rw [Fits] at ha hb
    omega
  exact List.append_inj hrest hlength

theorem framed_encode_separable :
    Separable (fun text : String => text.utf8ByteSize ≤ 2 ^ 32 - 1) (framed ∘ Utf8.encode) := by
  intro a b x y ha hb h
  obtain ⟨hbytes, hrest⟩ := framed_separable _ _ x y (fits_encode ha) (fits_encode hb) h
  exact ⟨Utf8.encode_inj.mp hbytes, hrest⟩

/-- The tag tells the form of a value. -/
theorem payload_separable :
    Separable (fun p : Payload => p.Single ∧ p.size ≤ 2 ^ 32 - 1) fun p => p.tag :: payloadStream p := by
  rintro p q x y ⟨hp, hpsize⟩ ⟨hq, hqsize⟩ h
  obtain ⟨htag, hrest⟩ := List.cons.inj h
  cases hp with
  | text s =>
      cases hq with
      | text t =>
          obtain ⟨rfl, hmore⟩ := framed_encode_separable s t x y hpsize hqsize hrest
          exact ⟨rfl, hmore⟩
      | bytes => exact absurd htag (show (1 : UInt8) ≠ 2 by decide)
  | bytes a =>
      cases hq with
      | text => exact absurd htag (show (2 : UInt8) ≠ 1 by decide)
      | bytes b =>
          obtain ⟨rfl, hmore⟩ := framed_separable a b x y hpsize hqsize hrest
          exact ⟨rfl, hmore⟩

theorem attribute_separable :
    Separable (fun e : String × AttributeValue => Fitting e.1 e.2) fun e => attributeStream e.1 e.2 := by
  rintro ⟨name, dataType, p⟩ ⟨name', dataType', p'⟩ x y h h' heq
  simp only [attributeStream, List.append_assoc] at heq
  obtain ⟨hname, hbehind⟩ := framed_encode_separable name name' _ _ h.name h'.name heq
  obtain ⟨htype, hvalue⟩ :=
    framed_encode_separable dataType dataType' _ _ h.dataType h'.dataType hbehind
  obtain ⟨hpayload, hrest⟩ :=
    payload_separable p p' x y ⟨h.single, h.payload⟩ ⟨h'.single, h'.payload⟩ hvalue
  exact ⟨by rw [hname, htype, hpayload], hrest⟩

/-- **Different attributes have different streams,** if they fit. -/
theorem stream_injective {attributes attributes' : Dict String AttributeValue}
    (h : ∀ e ∈ attributes.entries, Fitting e.1 e.2) (h' : ∀ e ∈ attributes'.entries, Fitting e.1 e.2)
    (heq : stream attributes = stream attributes') : attributes = attributes' :=
  Dict.ext (attribute_separable.flatMap (fun _ => by simp [attributeStream, framed, lengthBytes]) h h' heq)

/-! ## Digests as text -/

theorem length_digest (bytes : List UInt8) : (Md5.digest bytes).length = 16 := rfl

/-- **Lower-case hexadecimal digits,** two for every byte. -/
theorem hex_encode_digits (bytes : List UInt8) :
    (Hex.encode bytes).length = 2 * bytes.length ∧
      ∀ c ∈ (Hex.encode bytes).toList, c ∈ "0123456789abcdef".toList := by
  have hdigit : ∀ n : Fin 16, Nat.digitChar n ∈ "0123456789abcdef".toList := by decide
  constructor
  · rw [Hex.encode, String.length_ofList, List.length_flatMap]
    simp [Hex.ofByte, Nat.mul_comm]
  · intro c hc
    rw [Hex.encode, String.toList_ofList] at hc
    obtain ⟨b, -, hb⟩ := List.mem_flatMap.mp hc
    have hlt := b.toNat_lt
    rw [Hex.ofByte, List.mem_cons, List.mem_singleton] at hb
    rcases hb with rfl | rfl
    · exact hdigit ⟨b.toNat / 16, by omega⟩
    · exact hdigit ⟨b.toNat % 16, by omega⟩

end Digest

/-! ## Prepared messages -/

/-- What is admitted to a queue fits, since the size of its messages is a number of 32 bits. -/
theorem Message.Admitted.fitting {queue : Queue} {m : Message} (h : m.Admitted queue) :
    ∀ e ∈ m.attributes.entries, Digest.Fitting e.1 e.2 := by
  intro e he
  have hroom : queue.attributes.maximumMessageSize < 1 <<< 32 :=
    QueueAttributes.setting_lt _ _ (by decide)
  have hsize := h.size
  have hentry : attributeSize e.1 e.2 ≤ (m.attributes.entries.map fun e => attributeSize e.1 e.2).sum :=
    List.single_le_sum (fun _ _ => Nat.zero_le _) _ (List.mem_map_of_mem he)
  rw [Message.size] at hsize
  rw [attributeSize] at hentry
  have hbound : (1 <<< 32 : Nat) = 2 ^ 32 := rfl
  exact
    { single := h.values e.1 e.2 (Dict.mem_entries_iff.mp he)
      name := by omega
      dataType := by omega
      payload := by omega }

/-- **Digests of attributes.** They are the MD5 in lower-case hexadecimal digits of a stream that has the
    attributes in the order of the bytes of their names, one field behind another. Attributes of single
    values that fit into their fields are determined by their stream, and those of a prepared message fit,
    whatever the limits: none of their lengths is cut off. -/
theorem Digest.ofAttributes_stream :
    (∀ attributes : Dict String AttributeValue,
        ofAttributes attributes = Hex.encode (Md5.digest (stream attributes)) ∧
          (ofAttributes attributes).length = 32 ∧
          (∀ c ∈ (ofAttributes attributes).toList, c ∈ "0123456789abcdef".toList) ∧
          (attributes.entries.Pairwise fun a b => Utf8.encode a.1 < Utf8.encode b.1) ∧
          Written CutField attributes.entries (stream attributes)) ∧
      (∀ attributes attributes' : Dict String AttributeValue,
        (∀ e ∈ attributes.entries, Fitting e.1 e.2) → (∀ e ∈ attributes'.entries, Fitting e.1 e.2) →
          stream attributes = stream attributes' → attributes = attributes') ∧
      ∀ (limits : Limits) (sender : String) (queue : Queue) (now : Int) (id : String)
        (m : OutboundMessage) (message : Message),
        m.prepare limits sender queue now id = .ok message →
          (message.attributesDigest? =
            if message.attributes.entries = [] then none else some (ofAttributes message.attributes)) ∧
          (∀ e ∈ message.attributes.entries, Fitting e.1 e.2) ∧
          Written WholeField message.attributes.entries (stream message.attributes) := by
  refine ⟨fun attributes => ?_, fun _ _ => stream_injective, ?_⟩
  · obtain ⟨hlength, hdigits⟩ := hex_encode_digits (Md5.digest (stream attributes))
    rw [length_digest] at hlength
    exact ⟨rfl, hlength, hdigits, entries_ascending attributes, written_stream attributes⟩
  · intro limits sender queue now id m message h
    have hadmitted := OutboundMessage.prepare_admitted h
    have hfitting := hadmitted.fitting
    exact ⟨hadmitted.attributesDigest, hfitting, written_of_fitting hfitting⟩

/-- A map of one attribute with a text. -/
def Digest.oneText (name dataType text : String) : Dict String AttributeValue :=
  .ofList [(name, { dataType, payload := .text text })]

/-- A message with an attribute of one byte. -/
def Digest.oneByte : OutboundMessage :=
  ⟨some "aé", none, [⟨"b.c", some ⟨"Binary", none, some "/w==", [], []⟩⟩]⟩

/-- Two attributes whose parts are the same bytes one behind another, which their lengths tell apart, and a
    message whose attribute has a stream without a cut. -/
theorem Digest.ofAttributes_stream_lengths :
    Utf8.encode "a" ++ Utf8.encode "String.String" =
        Utf8.encode "aString." ++ Utf8.encode "String" ∧
      stream (oneText "a" "String.String" "x") ≠ stream (oneText "aString." "String" "x") ∧
      ∃ message, oneByte.prepare .standard "" (Queue.new (Sample.id "q") .standard 0) 0 "m" =
          .ok message ∧
        message.attributes.entries = [("b.c", { dataType := "Binary", payload := .bytes [255] })] ∧
        Written WholeField message.attributes.entries (stream message.attributes) := by
  have hfit : ∀ e ∈ (oneText "a" "String.String" "x").entries, Fitting e.1 e.2 :=
    List.forall_mem_singleton.mpr ⟨.text "x", by decide, by decide, by decide⟩
  have hfit' : ∀ e ∈ (oneText "aString." "String" "x").entries, Fitting e.1 e.2 :=
    List.forall_mem_singleton.mpr ⟨.text "x", by decide, by decide, by decide⟩
  obtain ⟨message, hprepared, hentries⟩ : ∃ message,
      oneByte.prepare .standard "" (Queue.new (Sample.id "q") .standard 0) 0 "m" = .ok message ∧
        message.attributes.entries = [("b.c", { dataType := "Binary", payload := .bytes [255] })] :=
    ⟨_, rfl, rfl⟩
  refine ⟨by decide, fun heq => ?_, message, hprepared, hentries, ?_⟩
  · have hsame := ofAttributes_stream.2.1 _ _ hfit hfit' heq
    exact absurd (congrArg (fun d => d.contains "a") hsame) (by decide)
  · exact (ofAttributes_stream.2.2 _ _ _ _ _ _ _ hprepared).2.2

end QueueService
