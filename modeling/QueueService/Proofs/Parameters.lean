import QueueService.Proofs.ParameterTree
import QueueService.Query.Request

/-!
# Requests as parameters

A request is written as parameters by numbering the entries of a batch, the attributes of each message
and the texts of each list value, each list by itself and with gaps wherever one likes. What is read of
them is the request, whatever the numbers and the order of the parameters.

* `Numbered` — a list whose things have ascending numbers.
* `NumberedRequest` — requests with all their numbers, as trees of parameters.
* `request_of_numbered` — reading the parameters of such a request yields the request.
-/

namespace QueueService

open Params Tree

/-! ## Numbered lists -/

/-- **Numbered.** Things with numbers of 32 bits in ascending order. -/
structure Numbered (α : Type) where
  items : List (Nat × α)
  ascending : (items.map Prod.fst).Pairwise (· < ·)
  bounded : ∀ e ∈ items, e.1 < 1 <<< 32

theorem toString_inj {m n : Nat} (h : toString m = toString n) : m = n := by
  have hm := Integer.digits?_toDigits m
  rw [← Integer.toList_toString, h, Integer.toList_toString, Integer.digits?_toDigits] at hm
  exact (Option.some.inj hm).symm

theorem dotless_toString (n : Nat) : Dotless (toString n) := by
  intro hdot
  rw [Integer.toList_toString] at hdot
  exact absurd (Integer.isDigit_of_mem_toDigits hdot) (by decide)

namespace Numbered

variable {α β : Type} {l : Numbered α} {write : α → Tree}

/-- The things in the order of their numbers. -/
def values (l : Numbered α) : List α := l.items.map Prod.snd

/-- The tree of a list: below each number the thing with the number. -/
def tree (write : α → Tree) (l : Numbered α) : Tree :=
  .record (l.items.map fun e => (toString e.1, write e.2))

theorem names (l : Numbered α) (write : α → Tree) :
    FieldNames ((l.items.map fun e => (toString e.1, write e.2)).map Prod.fst) := by
  rw [List.map_map]
  constructor
  · have hnumbers : (l.items.map Prod.fst).Nodup := l.ascending.imp Nat.ne_of_lt
    have hnames : ((l.items.map Prod.fst).map toString).Nodup := hnumbers.map fun _ _ => toString_inj
    rwa [List.map_map] at hnames
  · intro name hname
    obtain ⟨e, -, rfl⟩ := List.mem_map.mp hname
    exact dotless_toString e.1

theorem sound_tree (h : ∀ a, (write a).Sound) : (l.tree write).Sound := by
  apply Tree.sound_record (names l write)
  intro field hfield
  obtain ⟨e, -, rfl⟩ := List.mem_map.mp hfield
  exact h e.2

variable {p : Params} {path : List String}

/-- Below its number stands each thing. -/
theorem has_item (h : p.Has path (l.tree write)) {e : Nat × α} (he : e ∈ l.items) :
    p.Has (path ++ [toString e.1]) (write e.2) :=
  h.field (names l write) (List.mem_map.mpr ⟨e, he, rfl⟩)

/-- **The indices read are the numbers written,** if nothing is written as nothing. -/
theorem indices_eq (h : p.Has path (l.tree write)) (hpath : path ≠ []) (hfull : ∀ a, write a ≠ []) :
    p.indices (joined path) = l.items.map Prod.fst := by
  apply eq_of_pairwise_lt (pairwise_indices p _) l.ascending
  intro n
  rw [h.mem_indices_iff hpath, List.mem_map]
  constructor
  · rintro ⟨segment, more, value, he, hindex⟩
    obtain ⟨name, part, sub, hfield, heq, -⟩ := mem_record_iff.mp he
    obtain ⟨e, hitem, hfield⟩ := List.mem_map.mp hfield
    cases hfield
    cases heq
    rw [Integer.unsigned?_toString (l.bounded e hitem)] at hindex
    exact ⟨e, hitem, Option.some.inj hindex⟩
  · rintro ⟨e, hitem, rfl⟩
    obtain ⟨⟨sub, value⟩, rest, hwrite⟩ := List.exists_cons_of_ne_nil (hfull e.2)
    refine ⟨toString e.1, sub, value, ?_, Integer.unsigned?_toString (l.bounded e hitem)⟩
    refine mem_record_iff.mpr ⟨_, write e.2, sub, List.mem_map.mpr ⟨e, hitem, rfl⟩, rfl, ?_⟩
    rw [hwrite]
    exact List.mem_cons_self

/-- What is read at each index is what was numbered. -/
theorem map_indices_eq (h : p.Has path (l.tree write)) (hpath : path ≠ [])
    (hfull : ∀ a, write a ≠ []) {read : Nat → β} {plain : α → β}
    (hread : ∀ e ∈ l.items, read e.1 = plain e.2) :
    (p.indices (joined path)).map read = l.values.map plain := by
  rw [indices_eq h hpath hfull, values, List.map_map, List.map_map]
  exact List.map_congr_left hread

end Numbered

theorem itemName_joined {path : List String} (hpath : path ≠ []) (n : Nat) :
    itemName (joined path) n = joined (path ++ [toString n]) := by
  rw [joined_append hpath, itemName, joined_singleton]

/-- The texts of a numbered list of texts. -/
theorem items_eq {p : Params} {path : List String} {l : Numbered String}
    (h : p.Has path (l.tree leaf)) (hpath : path ≠ []) : p.items (joined path) = l.values := by
  have hread : ∀ e ∈ l.items, p.get? (itemName (joined path) e.1) = some e.2 := by
    intro e he
    rw [itemName_joined hpath]
    have hitem : p.Has (path ++ [toString e.1]) (leaf? (some e.2)) := Numbered.has_item h he
    exact Has.get?_eq hitem (by simp)
  have hmap : ((p.indices (joined path)).map fun n => p.get? (itemName (joined path) n)) =
      l.values.map some :=
    Numbered.map_indices_eq h hpath (fun _ => List.cons_ne_nil _ _) hread
  calc p.items (joined path)
      _ = ((p.indices (joined path)).map fun n => p.get? (itemName (joined path) n)).filterMap id := by
        rw [List.filterMap_map]
        rfl
      _ = (l.values.map some).filterMap id := by rw [hmap]
      _ = l.values := by simp

/-! ## Numbered requests -/

/-- A value with its lists numbered. -/
structure NumberedValue where
  dataType : String
  text? : Option String
  base64? : Option String
  texts : Numbered String
  blobs : Numbered String

/-- A message attribute with its lists numbered. -/
structure NumberedAttribute where
  name : String
  value? : Option NumberedValue

/-- A message with its attributes numbered. -/
structure NumberedMessage where
  body? : Option String
  delay? : Option String
  attributes : Numbered NumberedAttribute

/-- An entry of a batch with its attributes numbered. -/
structure NumberedEntry where
  id : String
  message : NumberedMessage

/-- A request that has lists, with all their numbers. A locator that is given as a parameter is not
    empty. -/
inductive NumberedRequest
  | createQueue (name? : Option String) (attributes : Numbered (String × String))
  | sendMessage (locator : String) (given : locator ≠ "") (message : NumberedMessage)
  | sendBatch (locator : String) (given : locator ≠ "") (entries : Numbered NumberedEntry)

/-! ## Without the numbers -/

def NumberedValue.plain (v : NumberedValue) : OfferedValue :=
  { dataType := v.dataType, text? := v.text?, base64? := v.base64?
    texts := v.texts.values, blobs := v.blobs.values }

def NumberedAttribute.plain (a : NumberedAttribute) : OfferedAttribute :=
  { name := a.name, value? := a.value?.map NumberedValue.plain }

def NumberedMessage.plain (m : NumberedMessage) : OutboundMessage :=
  { body? := m.body?, delay? := m.delay?
    attributes := m.attributes.values.map NumberedAttribute.plain }

def NumberedEntry.plain (e : NumberedEntry) : BatchEntry :=
  { id := e.id, message := e.message.plain }

/-- The request itself. -/
def NumberedRequest.plain : NumberedRequest → Request
  | createQueue name? attributes => .createQueue name? attributes.values
  | sendMessage locator _ message => .sendMessage locator message.plain
  | sendBatch locator _ entries => .sendBatch locator (entries.values.map NumberedEntry.plain)

/-! ## As parameters -/

/-- The fields of a value. -/
def NumberedValue.fields (v : NumberedValue) : List (String × Tree) :=
  [("DataType", leaf v.dataType), ("StringValue", leaf? v.text?), ("BinaryValue", leaf? v.base64?),
    ("StringListValue", v.texts.tree leaf), ("BinaryListValue", v.blobs.tree leaf)]

/-- The fields of an attribute. -/
def NumberedAttribute.fields (a : NumberedAttribute) : List (String × Tree) :=
  [("Name", leaf a.name), ("Value", record ((a.value?.map NumberedValue.fields).getD []))]

/-- The fields of a message. -/
def NumberedMessage.fields (m : NumberedMessage) : List (String × Tree) :=
  [("MessageBody", leaf? m.body?), ("DelaySeconds", leaf? m.delay?),
    ("MessageAttribute", m.attributes.tree fun a => record a.fields)]

/-- The fields of an entry. -/
def NumberedEntry.fields (e : NumberedEntry) : List (String × Tree) :=
  ("Id", leaf e.id) :: e.message.fields

/-- The fields of an attribute that a new queue is to have. -/
def suppliedFields (a : String × String) : List (String × Tree) :=
  [("Name", leaf a.1), ("Value", leaf a.2)]

/-- The fields of a request. -/
def NumberedRequest.fields : NumberedRequest → List (String × Tree)
  | createQueue name? attributes =>
    [("Action", leaf "CreateQueue"), ("QueueName", leaf? name?),
      ("Attribute", attributes.tree fun a => record (suppliedFields a))]
  | sendMessage locator _ message =>
    ("Action", leaf "SendMessage") :: ("QueueUrl", leaf locator) :: message.fields
  | sendBatch locator _ entries =>
    [("Action", leaf "SendMessageBatch"), ("QueueUrl", leaf locator),
      ("SendMessageBatchRequestEntry", entries.tree fun e => record e.fields)]

/-- The parameters of a request. -/
def NumberedRequest.parameters (r : NumberedRequest) : List (String × String) :=
  (record r.fields).parameters

/-! ## Sound trees -/

theorem NumberedValue.names (v : NumberedValue) : FieldNames (v.fields.map Prod.fst) := by
  show FieldNames ["DataType", "StringValue", "BinaryValue", "StringListValue", "BinaryListValue"]
  decide

theorem NumberedAttribute.names (a : NumberedAttribute) : FieldNames (a.fields.map Prod.fst) := by
  show FieldNames ["Name", "Value"]
  decide

theorem NumberedEntry.names (e : NumberedEntry) : FieldNames (e.fields.map Prod.fst) := by
  show FieldNames ["Id", "MessageBody", "DelaySeconds", "MessageAttribute"]
  decide

theorem names_suppliedFields (a : String × String) :
    FieldNames ((suppliedFields a).map Prod.fst) := by
  show FieldNames ["Name", "Value"]
  decide

theorem NumberedRequest.names (r : NumberedRequest) : FieldNames (r.fields.map Prod.fst) := by
  cases r with
  | createQueue =>
      show FieldNames ["Action", "QueueName", "Attribute"]
      decide
  | sendMessage =>
      show FieldNames ["Action", "QueueUrl", "MessageBody", "DelaySeconds", "MessageAttribute"]
      decide
  | sendBatch =>
      show FieldNames ["Action", "QueueUrl", "SendMessageBatchRequestEntry"]
      decide

theorem NumberedValue.sound (v : NumberedValue) : (record v.fields).Sound := by
  apply sound_record v.names
  simp only [fields, List.forall_mem_cons, List.not_mem_nil, IsEmpty.forall_iff,
    implies_true, and_true]
  exact ⟨sound_leaf _, sound_leaf? _, sound_leaf? _, Numbered.sound_tree sound_leaf,
    Numbered.sound_tree sound_leaf⟩

theorem NumberedAttribute.sound (a : NumberedAttribute) : (record a.fields).Sound := by
  apply sound_record a.names
  simp only [fields, List.forall_mem_cons, List.not_mem_nil, IsEmpty.forall_iff,
    implies_true, and_true]
  refine ⟨sound_leaf _, ?_⟩
  cases a.value? with
  | none => exact sound_record (by decide) (List.forall_mem_nil _)
  | some v => exact v.sound

theorem NumberedMessage.sound (m : NumberedMessage) : ∀ field ∈ m.fields, field.2.Sound := by
  simp only [fields, List.forall_mem_cons, List.not_mem_nil, IsEmpty.forall_iff,
    implies_true, and_true]
  exact ⟨sound_leaf? _, sound_leaf? _, Numbered.sound_tree NumberedAttribute.sound⟩

theorem NumberedEntry.sound (e : NumberedEntry) : (record e.fields).Sound := by
  apply sound_record e.names
  exact List.forall_mem_cons.mpr ⟨sound_leaf _, e.message.sound⟩

theorem NumberedRequest.sound (r : NumberedRequest) : (record r.fields).Sound := by
  apply sound_record r.names
  cases r with
  | createQueue name? attributes =>
      simp only [fields, List.forall_mem_cons, List.not_mem_nil, IsEmpty.forall_iff,
    implies_true, and_true]
      refine ⟨sound_leaf _, sound_leaf? _, Numbered.sound_tree ?_⟩
      intro a
      apply sound_record (names_suppliedFields a)
      simp only [suppliedFields, List.forall_mem_cons, List.not_mem_nil, IsEmpty.forall_iff,
    implies_true, and_true]
      exact ⟨sound_leaf _, sound_leaf _⟩
  | sendMessage locator given message =>
      exact List.forall_mem_cons.mpr
        ⟨sound_leaf _, List.forall_mem_cons.mpr ⟨sound_leaf _, message.sound⟩⟩
  | sendBatch locator given entries =>
      simp only [fields, List.forall_mem_cons, List.not_mem_nil, IsEmpty.forall_iff,
    implies_true, and_true]
      exact ⟨sound_leaf _, sound_leaf _, Numbered.sound_tree NumberedEntry.sound⟩

/-! ## Reading back -/

section Read

variable {p : Params} {path : List String} {fields : List (String × Tree)} {name : String}

/-- A field's name behind the name that it stands below. -/
theorem joined_field (hpath : path ≠ []) (name : String) :
    joined path ++ ("." ++ name) = lead path ++ name := by
  rw [lead_eq hpath, String.append_assoc]

theorem get?_field {value? : Option String} (h : p.Has path (record fields))
    (hnames : FieldNames (fields.map Prod.fst)) (hfield : (name, leaf? value?) ∈ fields) :
    p.get? (lead path ++ name) = value? := by
  rw [lead_append]
  exact (h.field hnames hfield).get?_eq (by simp)

theorem getText_field {value : String} (h : p.Has path (record fields))
    (hnames : FieldNames (fields.map Prod.fst)) (hfield : (name, leaf value) ∈ fields) :
    p.getText (lead path ++ name) = value := by
  rw [lead_append]
  exact (h.field hnames hfield).getText_eq (by simp)

theorem items_field {l : Numbered String} (h : p.Has path (record fields))
    (hnames : FieldNames (fields.map Prod.fst)) (hfield : (name, l.tree leaf) ∈ fields) :
    p.items (lead path ++ name) = l.values := by
  rw [lead_append]
  exact items_eq (h.field hnames hfield) (by simp)

/-- What is read at the indices of a field is what was numbered. -/
theorem map_indices_field {α β : Type} {l : Numbered α} {write : α → Tree} {read : Nat → β}
    {plain : α → β} (h : p.Has path (record fields)) (hnames : FieldNames (fields.map Prod.fst))
    (hfield : (name, l.tree write) ∈ fields) (hfull : ∀ a, write a ≠ [])
    (hread : ∀ e ∈ l.items, p.Has (path ++ [name, toString e.1]) (write e.2) →
      read e.1 = plain e.2) :
    (p.indices (lead path ++ name)).map read = l.values.map plain := by
  have hlist := h.field hnames hfield
  rw [lead_append]
  refine Numbered.map_indices_eq hlist (by simp) hfull ?_
  intro e he
  apply hread e he
  have hitem := Numbered.has_item hlist he
  rwa [List.append_assoc] at hitem

/-- The name of an item of a list. -/
theorem itemName_field (path : List String) (name : String) (n : Nat) :
    itemName (lead path ++ name) n = joined (path ++ [name, toString n]) := by
  rw [lead_append, itemName_joined (by simp), List.append_assoc]
  rfl

theorem offeredValue_eq {v : NumberedValue} (h : p.Has path (record v.fields)) (hpath : path ≠ []) :
    p.offeredValue (joined path) = v.plain := by
  have htype : p.getText (joined path ++ ".DataType") = v.dataType :=
    joined_field hpath "DataType" ▸ getText_field h v.names (by simp [NumberedValue.fields])
  have htext : p.get? (joined path ++ ".StringValue") = v.text? :=
    joined_field hpath "StringValue" ▸ get?_field h v.names (by simp [NumberedValue.fields])
  have hbase64 : p.get? (joined path ++ ".BinaryValue") = v.base64? :=
    joined_field hpath "BinaryValue" ▸ get?_field h v.names (by simp [NumberedValue.fields])
  have htexts : p.items (joined path ++ ".StringListValue") = v.texts.values :=
    joined_field hpath "StringListValue" ▸ items_field h v.names (by simp [NumberedValue.fields])
  have hblobs : p.items (joined path ++ ".BinaryListValue") = v.blobs.values :=
    joined_field hpath "BinaryListValue" ▸ items_field h v.names (by simp [NumberedValue.fields])
  rw [offeredValue, htype, htext, hbase64, htexts, hblobs]
  rfl

/-- An attribute has a value if and only if one was written. -/
theorem offeredAttribute_eq {a : NumberedAttribute} (h : p.Has path (record a.fields))
    (hpath : path ≠ []) : p.offeredAttribute (joined path) = a.plain := by
  have hname : p.getText (joined path ++ ".Name") = a.name :=
    joined_field hpath "Name" ▸ getText_field h a.names (by simp [NumberedAttribute.fields])
  have hvalue : p.Has (path ++ ["Value"]) (record ((a.value?.map NumberedValue.fields).getD [])) :=
    h.field a.names (by simp [NumberedAttribute.fields])
  have hbase : joined path ++ ".Value" = joined (path ++ ["Value"]) :=
    (joined_field hpath "Value").trans (lead_append path "Value")
  have hbelow := hvalue.hasBelow_iff (by simp)
  rw [← hbase, String.append_assoc] at hbelow
  rw [offeredAttribute, hname]
  cases hv : a.value? with
  | none =>
      -- nothing stands below the name of the value
      rw [hv] at hbelow
      have hnone : ¬ p.hasBelow (joined path ++ ".Value.") = true := by
        rintro htrue
        obtain ⟨segment, more, value, hmem⟩ := hbelow.mp htrue
        cases hmem
      rw [if_neg hnone, NumberedAttribute.plain, hv]
      rfl
  | some v =>
      rw [hv] at hvalue hbelow
      have hsome : p.hasBelow (joined path ++ ".Value.") = true :=
        hbelow.mpr ⟨"DataType", [], v.dataType, List.mem_cons_self⟩
      rw [if_pos hsome, hbase, offeredValue_eq hvalue (by simp), NumberedAttribute.plain, hv]
      rfl

/-- A message is read where its fields stand, among whatever others. -/
theorem outbound_eq {m : NumberedMessage} (h : p.Has path (record fields))
    (hnames : FieldNames (fields.map Prod.fst)) (hfields : ∀ field ∈ m.fields, field ∈ fields) :
    p.outbound (lead path) = m.plain := by
  have hbody : p.get? (lead path ++ "MessageBody") = m.body? :=
    get?_field h hnames (hfields _ (by simp [NumberedMessage.fields]))
  have hdelay : p.get? (lead path ++ "DelaySeconds") = m.delay? :=
    get?_field h hnames (hfields _ (by simp [NumberedMessage.fields]))
  have hattributes : p.offeredAttributes (lead path ++ "MessageAttribute") =
      m.attributes.values.map NumberedAttribute.plain := by
    refine map_indices_field h hnames (hfields _ (List.mem_of_getElem? (i := 2) rfl)) ?_ ?_
    · exact fun a => List.cons_ne_nil _ _
    · intro e _ hitem
      rw [itemName_field]
      exact offeredAttribute_eq hitem (by simp)
  rw [outbound, hbody, hdelay, hattributes]
  rfl

/-- The entry of a batch with a given number. -/
def Params.batchEntry (p : Params) (n : Nat) : BatchEntry :=
  let item := itemName "SendMessageBatchRequestEntry" n ++ "."
  { id := p.getText (item ++ "Id"), message := p.outbound item }

theorem batchEntry_eq {n : Nat} {e : NumberedEntry}
    (h : p.Has ["SendMessageBatchRequestEntry", toString n] (record e.fields)) :
    p.batchEntry n = e.plain := by
  have hitem : itemName "SendMessageBatchRequestEntry" n ++ "." =
      lead ["SendMessageBatchRequestEntry", toString n] := by
    rw [lead_eq (by simp), ← List.nil_append ["SendMessageBatchRequestEntry", toString n],
      ← itemName_field]
    rfl
  have hid : p.getText (lead ["SendMessageBatchRequestEntry", toString n] ++ "Id") = e.id :=
    getText_field h e.names List.mem_cons_self
  have hmessage := outbound_eq h e.names fun field hfield => List.mem_cons_of_mem _ hfield
  rw [batchEntry, hitem, hid, hmessage]
  rfl

theorem queueLocator_eq {locator : String} (h : p.getText "QueueUrl" = locator)
    (given : locator ≠ "") : p.queueLocator = .ok locator := by
  unfold getText at h
  cases hget : p.get? "QueueUrl" with
  | none =>
      rw [hget] at h
      exact absurd h.symm given
  | some value =>
      rw [hget] at h
      obtain rfl : value = locator := h
      have hfull : (!value.isEmpty) = true := by simpa using given
      rw [queueLocator, hget, Option.filter_some, if_pos hfull]

theorem suppliedAttributes_eq {attributes : Numbered (String × String)} (h : p.Has [] (record fields))
    (hnames : FieldNames (fields.map Prod.fst))
    (hfield : ("Attribute", attributes.tree fun a => record (suppliedFields a)) ∈ fields) :
    p.suppliedAttributes = attributes.values := by
  have hroot : lead [] ++ "Attribute" = "Attribute" := String.empty_append
  have hread : ((p.indices (lead [] ++ "Attribute")).map fun n =>
      (p.getText (itemName "Attribute" n ++ ".Name"),
        p.getText (itemName "Attribute" n ++ ".Value"))) = attributes.values.map id := by
    refine map_indices_field h hnames hfield (fun a => List.cons_ne_nil _ _) ?_
    intro e _ hitem
    have hbase : itemName "Attribute" e.1 = joined ["Attribute", toString e.1] :=
      itemName_field [] "Attribute" e.1
    have hne : ["Attribute", toString e.1] ≠ [] := List.cons_ne_nil _ _
    have hname : p.getText (joined ["Attribute", toString e.1] ++ ".Name") = e.2.1 :=
      joined_field hne "Name" ▸ getText_field hitem (names_suppliedFields e.2)
        (by simp [suppliedFields])
    have hvalue : p.getText (joined ["Attribute", toString e.1] ++ ".Value") = e.2.2 :=
      joined_field hne "Value" ▸ getText_field hitem (names_suppliedFields e.2)
        (by simp [suppliedFields])
    rw [hbase]
    rw [hname, hvalue]
    rfl
  rwa [List.map_id, hroot] at hread

/-- **The parameters of a numbered request ask for the request.** -/
theorem request_of_has {r : NumberedRequest} (h : p.Has [] (record r.fields)) :
    p.request = .ok r.plain := by
  have hroot : ∀ name, lead [] ++ name = name := fun _ => String.empty_append
  have hnames := r.names
  cases r with
  | createQueue name? attributes =>
      have haction : p.getText "Action" = "CreateQueue" :=
        hroot "Action" ▸ getText_field h hnames List.mem_cons_self
      have hname : p.get? "QueueName" = name? :=
        hroot "QueueName" ▸ get?_field h hnames (List.mem_of_getElem? (i := 1) rfl)
      have hattributes : p.suppliedAttributes = attributes.values :=
        suppliedAttributes_eq h hnames (List.mem_of_getElem? (i := 2) rfl)
      have hrequest : p.request = .ok (.createQueue (p.get? "QueueName") p.suppliedAttributes) := by
        rw [request, haction]
        rfl
      rw [hrequest, hname, hattributes]
      rfl
  | sendMessage locator given message =>
      have haction : p.getText "Action" = "SendMessage" :=
        hroot "Action" ▸ getText_field h hnames List.mem_cons_self
      have hlocator : p.queueLocator = .ok locator :=
        queueLocator_eq (hroot "QueueUrl" ▸
          getText_field h hnames (List.mem_of_getElem? (i := 1) rfl)) given
      have hmessage : p.outbound "" = message.plain :=
        outbound_eq h hnames fun field hfield =>
          List.mem_cons_of_mem _ (List.mem_cons_of_mem _ hfield)
      have hrequest : p.request = (do return .sendMessage (← p.queueLocator) (p.outbound "")) := by
        rw [request, haction]
        rfl
      rw [hrequest, hlocator, hmessage]
      rfl
  | sendBatch locator given entries =>
      have haction : p.getText "Action" = "SendMessageBatch" :=
        hroot "Action" ▸ getText_field h hnames List.mem_cons_self
      have hlocator : p.queueLocator = .ok locator :=
        queueLocator_eq (hroot "QueueUrl" ▸
          getText_field h hnames (List.mem_of_getElem? (i := 1) rfl)) given
      have hread : (p.indices (lead [] ++ "SendMessageBatchRequestEntry")).map p.batchEntry =
          entries.values.map NumberedEntry.plain :=
        map_indices_field h hnames (List.mem_of_getElem? (i := 2) rfl)
          (fun e => List.cons_ne_nil _ _) fun e _ hitem => batchEntry_eq hitem
      rw [hroot] at hread
      have hentries : p.batchEntries = entries.values.map NumberedEntry.plain := hread
      have hrequest : p.request = (do return .sendBatch (← p.queueLocator) p.batchEntries) := by
        rw [request, haction]
        rfl
      rw [hrequest, hlocator, hentries]
      rfl

end Read

/-! ## One entry at a time -/

/-- The parameters whose names begin in a given way are the same. -/
def Params.AgreeBelow (start : String) (p p' : Params) : Prop :=
  ∀ name : String, start.toList <+: name.toList → p.get? name = p'.get? name

namespace Params.AgreeBelow

variable {start : String} {p p' : Params}

theorem narrow (h : AgreeBelow start p p') (more : String) : AgreeBelow (start ++ more) p p' := by
  intro name hname
  rw [String.toList_append] at hname
  exact h name ((List.prefix_append _ _).trans hname)

theorem narrow_item (h : AgreeBelow start p p') (n : Nat) : AgreeBelow (itemName start n) p p' := by
  rw [itemName, String.append_assoc]
  exact h.narrow ("." ++ toString n)

theorem get? (h : AgreeBelow start p p') : p.get? start = p'.get? start := h start (List.prefix_refl _)

theorem getText (h : AgreeBelow start p p') : p.getText start = p'.getText start := by
  rw [Params.getText, Params.getText, h.get?]

theorem hasBelow (h : AgreeBelow start p p') : p.hasBelow start = p'.hasBelow start := by
  have hany : ∀ q : Params, q.hasBelow start = true ↔
      ∃ name : String, start.toList <+: name.toList ∧ ∃ value, q.get? name = some value := by
    intro q
    simp only [Params.hasBelow, List.any_eq_true, List.isPrefixOf_iff_prefix, Dict.mem_keys_iff]
    exact ⟨fun ⟨name, hvalue, hname⟩ => ⟨name, hname, hvalue⟩,
      fun ⟨name, hname, hvalue⟩ => ⟨name, hvalue, hname⟩⟩
  rw [Bool.eq_iff_iff, hany, hany]
  constructor
  · rintro ⟨name, hname, value, hvalue⟩
    exact ⟨name, hname, value, h name hname ▸ hvalue⟩
  · rintro ⟨name, hname, value, hvalue⟩
    exact ⟨name, hname, value, (h name hname).symm ▸ hvalue⟩

/-- The indices of a list hang on the parameters below its name only. -/
theorem indices (h : AgreeBelow start p p') : p.indices start = p'.indices start := by
  apply eq_of_pairwise_lt (pairwise_indices p start) (pairwise_indices p' start)
  intro n
  have hbelow : ∀ {name : String}, index? start name = some n → start.toList <+: name.toList := by
    intro name hindex
    by_contra hnot
    rw [index?_eq_none fun hdot => hnot ((List.prefix_append _ _).trans hdot)] at hindex
    cases hindex
  rw [mem_indices_iff, mem_indices_iff]
  constructor
  · rintro ⟨name, value, hvalue, hindex⟩
    exact ⟨name, value, h name (hbelow hindex) ▸ hvalue, hindex⟩
  · rintro ⟨name, value, hvalue, hindex⟩
    exact ⟨name, value, (h name (hbelow hindex)).symm ▸ hvalue, hindex⟩

theorem items (h : AgreeBelow start p p') : p.items start = p'.items start := by
  rw [Params.items, Params.items, h.indices]
  congr 1
  funext n
  exact (h.narrow_item n).get?

theorem offeredValue (h : AgreeBelow start p p') : p.offeredValue start = p'.offeredValue start := by
  rw [Params.offeredValue, Params.offeredValue, (h.narrow ".DataType").getText,
    (h.narrow ".StringValue").get?, (h.narrow ".BinaryValue").get?,
    (h.narrow ".StringListValue").items, (h.narrow ".BinaryListValue").items]

theorem offeredAttribute (h : AgreeBelow start p p') :
    p.offeredAttribute start = p'.offeredAttribute start := by
  rw [Params.offeredAttribute, Params.offeredAttribute, (h.narrow ".Name").getText,
    (h.narrow ".Value.").hasBelow, (h.narrow ".Value").offeredValue]

theorem outbound (h : AgreeBelow start p p') : p.outbound start = p'.outbound start := by
  have hattributes := h.narrow "MessageAttribute"
  have hlist : p.offeredAttributes (start ++ "MessageAttribute") =
      p'.offeredAttributes (start ++ "MessageAttribute") := by
    rw [Params.offeredAttributes, Params.offeredAttributes, hattributes.indices]
    apply List.map_congr_left
    intro n _
    exact (hattributes.narrow_item n).offeredAttribute
  rw [Params.outbound, Params.outbound, (h.narrow "MessageBody").get?,
    (h.narrow "DelaySeconds").get?, hlist]

end Params.AgreeBelow

/-- **Numbered parameters.** From any forms that spell the parameters of a numbered request, in whatever
    order and however they are divided between the query string and the body, the request is read, and there
    are such forms. Moreover an entry of a batch hangs on the parameters below its own number only. -/
theorem request_of_numbered :
    (∀ (r : NumberedRequest) (query body : List UInt8) (qs bs : List (String × String))
      (path : String), Form.Spells query qs → Form.Spells body bs →
        (qs ++ bs).Perm r.parameters →
        (Params.read query body path >>= Params.request) = .ok r.plain) ∧
    (∀ pairs, Form.Spells (Form.write pairs) pairs) ∧
    ∀ p : Params,
      p.batchEntries = (p.indices "SendMessageBatchRequestEntry").map p.batchEntry ∧
      ∀ (p' : Params) (n : Nat),
        AgreeBelow (itemName "SendMessageBatchRequestEntry" n ++ ".") p p' →
        p.batchEntry n = p'.batchEntry n := by
  refine ⟨?_, Form.spells_write, ?_⟩
  · intro r query body qs bs path hquery hbody hperm
    rw [read_of_spells hquery hbody]
    exact request_of_has (has_of_perm r.sound hperm path)
  · intro p
    refine ⟨rfl, ?_⟩
    intro p' n h
    rw [batchEntry, batchEntry, (h.narrow "Id").getText, h.outbound]

/-- A batch with entries one and ten, the first of which has attributes one and eleven. -/
def scattered : NumberedRequest :=
  let texts : Numbered String :=
    { items := [(0, "s"), (4294967295, "t")], ascending := by decide, bounded := by decide }
  let noTexts : Numbered String := { items := [], ascending := by decide, bounded := by decide }
  let attributes : Numbered NumberedAttribute :=
    { items := [(1, ⟨"n", some ⟨"String", some "v", none, texts, noTexts⟩⟩), (11, ⟨"m", none⟩)]
      ascending := by decide
      bounded := by decide }
  .sendBatch "/123456789012/q" (by decide)
    { items := [(1, ⟨"a", ⟨some "", none, attributes⟩⟩),
        (10, ⟨"b", ⟨none, some "3", { items := [], ascending := by decide, bounded := by decide }⟩⟩)]
      ascending := by decide
      bounded := by decide }

/-- Its parameters from the last to the first, four of them in the query string and the others in the
    body. -/
theorem request_of_numbered_scattered :
    ∃ query body qs bs, Form.Spells query qs ∧ Form.Spells body bs ∧
      (qs ++ bs).Perm scattered.parameters ∧ qs.length = 4 ∧ bs.length = 8 ∧
      (Params.read query body "/" >>= Params.request) =
        .ok (.sendBatch "/123456789012/q"
          [⟨"a", ⟨some "", none, [⟨"n", some ⟨"String", some "v", none, ["s", "t"], []⟩⟩, ⟨"m", none⟩]⟩⟩,
            ⟨"b", ⟨none, some "3", []⟩⟩]) := by
  have hperm : (scattered.parameters.reverse.take 4 ++ scattered.parameters.reverse.drop 4).Perm
      scattered.parameters := by
    rw [List.take_append_drop]
    exact List.reverse_perm _
  have hquery := request_of_numbered.2.1 (scattered.parameters.reverse.take 4)
  have hbody := request_of_numbered.2.1 (scattered.parameters.reverse.drop 4)
  exact ⟨_, _, _, _, hquery, hbody, hperm, by decide, by decide,
    request_of_numbered.1 scattered _ _ _ _ "/" hquery hbody hperm⟩

end QueueService
