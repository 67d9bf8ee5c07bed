import QueueService.Proofs.Address
import QueueService.Proofs.RedriveGraph
import QueueService.Proofs.Setting

/-!
# Queues that are described and made again

What the service tells of a queue is what it can be asked for again. A queue has the attributes that its
founding request came to (`Founded.checked`), each of which was `Kept` in a form that passes its own check
and is kept as it is. A description adds three derived attributes, which a request passes over. So the
attributes of a description, in any order, come to those of the queue.

* `Founded` — the turn that made a queue; every queue that is there has one (`Session.exists_founder`).
* `Service.setAttributes_described` — what a described list of attributes comes to.
* `Founded.createQueue_described` — the queue is found again, and nothing changes.
-/

namespace QueueService

open Operation Service

/-! ## Founding turns -/

/-- **The founder of a queue.** The turn has made the queue, which was not there before, and since then the
    queue has always been there. -/
inductive Founded (b₀ : Backend) (id : QueueId) (founder : Turn) : List Turn → Backend → Prop
  | made {turns : List Turn} {b b' : Backend} (past : Session b₀ turns b)
      (absent : b.store.lookup? id = none)
      (served : (founder.request.serve founder.desk founder.caller founder.occasion).runOn b =
        (founder.outcome, b'))
      (present : (b'.store.lookup? id).isSome) : Founded b₀ id founder (turns ++ [founder]) b'
  | kept {turns : List Turn} {b b' : Backend} {turn : Turn} (past : Founded b₀ id founder turns b)
      (served : (turn.request.serve turn.desk turn.caller turn.occasion).runOn b = (turn.outcome, b'))
      (present : (b'.store.lookup? id).isSome) : Founded b₀ id founder (turns ++ [turn]) b'

section Founded

variable {b₀ b : Backend} {turns : List Turn} {id : QueueId} {founder : Turn} {queue : Queue}

theorem Founded.session (h : Founded b₀ id founder turns b) : Session b₀ turns b := by
  induction h with
  | made past absent served => exact past.next served
  | kept past served present ih => exact ih.next served

theorem Founded.present (h : Founded b₀ id founder turns b) : (b.store.lookup? id).isSome := by
  cases h with
  | made past absent served present => exact present
  | kept past served present => exact present

/-- Every queue that is there has a founder. -/
theorem Session.exists_founder (session : Session b₀ turns b) (hempty : b₀.store = .empty)
    (hpresent : (b.store.lookup? id).isSome) : ∃ founder, Founded b₀ id founder turns b := by
  induction session with
  | start =>
      rw [hempty] at hpresent
      cases hpresent
  | @next turns b b' turn past served ih =>
      cases hbefore : b.store.lookup? id with
      | none => exact ⟨turn, .made past hbefore served hpresent⟩
      | some queue =>
          obtain ⟨founder, hfounded⟩ := ih (by rw [hbefore]; rfl)
          exact ⟨founder, hfounded.kept served hpresent⟩

/-- A request that passes its checks founds the queue, if the store does not have it yet. -/
theorem Session.founds {s : Store} {name : String} {supplied : List (String × String)}
    {attributes : QueueAttributes} (past : Session b₀ turns (.reliable s)) (founder : Turn)
    (asked : founder.request = .createQueue (some name) supplied)
    (answered : founder.outcome =
      .ok (.address (founder.desk.addresses.url ⟨founder.caller.account, name⟩)))
    (checked : Checked founder.desk founder.caller (some name) supplied (.reliable s) name attributes
      (.reliable s))
    (absent : s.lookup? ⟨founder.caller.account, name⟩ = none) :
    Founded b₀ ⟨founder.caller.account, name⟩ founder (turns ++ [founder])
      (.reliable (s.setHeld ⟨founder.caller.account, name⟩
        { queue := Queue.new ⟨founder.caller.account, name⟩ attributes (founder.occasion.clock 0)
          messages := [] })) := by
  refine .made past absent ?_ ?_
  · rw [asked, answered, Request.serve, runOn_map, createQueue_of_checked checked, absent]
    rfl
  · rw [Backend.reliable_store, Store.lookup?, Store.held?_setHeld_self]
    rfl

/-- **The founding request.** It passed its checks, and the queue still has the attributes that it came
    to: no other turn writes to them. -/
theorem Founded.checked (h : Founded b₀ id founder turns b) (hqueue : b.store.lookup? id = some queue) :
    ∃ name? supplied name b₁ b₂, founder.request = .createQueue name? supplied ∧
      Checked founder.desk founder.caller name? supplied b₁ name queue.attributes b₂ ∧
      id = ⟨founder.caller.account, name⟩ := by
  induction h generalizing queue with
  | @made turns b b' past absent served present =>
      -- of all that a turn can do to the records, only this makes one
      cases Turn.recorded served with
      | kept same =>
          rw [same id, absent] at hqueue
          cases hqueue
      | @made name? supplied name attributes b₂ asked checked gains =>
          by_cases hid : id = ⟨founder.caller.account, name⟩
          · subst hid
            obtain ⟨queue', hqueue', rfl⟩ := gains.lookup?_self
            cases hqueue.symm.trans hqueue'
            exact ⟨name?, supplied, name, b, b₂, asked, checked, rfl⟩
          · rw [gains.lookup?_of_ne hid, absent] at hqueue
            cases hqueue
      | deleted asked lost =>
          rw [lost, absent, ite_self] at hqueue
          cases hqueue
  | @kept turns b b' turn past served present ih =>
      cases Turn.recorded served with
      | kept same => exact ih (same id ▸ hqueue)
      | @made name? supplied name attributes b₂ asked checked gains =>
          have hother : id ≠ ⟨turn.caller.account, name⟩ := by
            rintro rfl
            have hthere := past.present
            rw [gains.lookup?_absent] at hthere
            cases hthere
          exact ih (gains.lookup?_of_ne hother ▸ hqueue)
      | deleted asked lost =>
          rw [lost] at hqueue
          split at hqueue
          · cases hqueue
          · exact ih hqueue

end Founded

/-! ## Entries in any order -/

namespace Dict

variable {κ α : Type} [Ord κ] [Std.LawfulEqOrd κ] [Std.TransOrd κ] {entries : List (κ × α)} {k : κ}

theorem find?_foldl_insert_of_notMem (h : k ∉ entries.map (·.1)) (d : Dict κ α) :
    (entries.foldl (fun d e => d.insert e.1 e.2) d).find? k = d.find? k := by
  induction entries generalizing d with
  | nil => rfl
  | cons e rest ih =>
      rw [List.map_cons, List.mem_cons, not_or] at h
      rw [List.foldl_cons, ih h.2, find?_insert_of_ne _ h.1]

theorem find?_foldl_insert_of_mem (hnodup : (entries.map (·.1)).Nodup) {v : α} (h : (k, v) ∈ entries)
    (d : Dict κ α) : (entries.foldl (fun d e => d.insert e.1 e.2) d).find? k = some v := by
  induction entries generalizing d with
  | nil => cases h
  | cons e rest ih =>
      obtain ⟨hfirst, hrest⟩ := List.nodup_cons.mp hnodup
      rw [List.foldl_cons]
      rcases List.mem_cons.mp h with rfl | h
      · rw [find?_foldl_insert_of_notMem hfirst, find?_insert_self]
      · exact ih hrest h _

/-- The entries of a dictionary, in any order, come to it on top of every other that has no further keys. -/
theorem foldl_insert_of_perm {d base : Dict κ α} (hperm : entries.Perm d.entries)
    (hbase : ∀ k ∈ base.keys, k ∈ d.keys) :
    entries.foldl (fun d e => d.insert e.1 e.2) base = d := by
  have hkeys : (entries.map (·.1)).Perm d.keys := hperm.map _
  apply ext_find?
  intro k
  cases hfind : d.find? k with
  | some v =>
      have hmem : (k, v) ∈ entries := hperm.mem_iff.mpr (mem_entries_iff.mpr hfind)
      exact find?_foldl_insert_of_mem (hkeys.nodup_iff.mpr d.nodup_keys) hmem base
  | none =>
      have hnot : k ∉ d.keys := by
        rw [mem_keys_iff]
        rintro ⟨v, hv⟩
        cases hfind.symm.trans hv
      rw [find?_foldl_insert_of_notMem (fun hmem => hnot (hkeys.mem_iff.mp hmem))]
      cases hbefore : base.find? k with
      | none => rfl
      | some v => exact absurd (hbase k (mem_keys_iff.mpr ⟨v, hbefore⟩)) hnot

end Dict

/-! ## Kept values -/

namespace Service

/-- **A value as it is kept:** a number in its range, an access policy, or the canonical document of a redrive
    policy that the account may have in the region. -/
inductive Kept (limits : Limits) (account region : String) : QueueAttribute → String → Prop
  | number {a : QueueAttribute} {value : String} {least greatest : Nat}
      (range : numericRange? limits a = some (least, greatest))
      (check : checkNumber a.toText value least greatest = .ok ()) : Kept limits account region a value
  | policy {value : String} (check : Policy.check value = .ok ()) :
      Kept limits account region .policy value
  | redrive {policy : RedrivePolicy} (valid : policy.Valid limits account region) :
      Kept limits account region .redrivePolicy (policy.toDocument region)

/-- The attributes that follow from the record of a queue. -/
def derived : List QueueAttribute := [.queueArn, .createdTimestamp, .lastModifiedTimestamp]

section Kept

variable {limits : Limits} {account region : String} {caller : Caller} {a : QueueAttribute}
  {value : String} {s : Store} {b b' : Backend} {attributes result : QueueAttributes}

/-- What follows from the record is never kept. -/
theorem Kept.notMem_derived (h : Kept limits account region a value) : a ∉ derived := by
  intro hmem
  simp only [derived, List.mem_cons, List.not_mem_nil, or_false] at hmem
  cases h with
  | number range => rcases hmem with rfl | rfl | rfl <;> cases range
  | policy | redrive => rcases hmem with heq | heq | heq <;> cases heq

/-- **Attributes that can be asked for again:** each is kept in its form, and none of the standard ones is
    missing. -/
structure Resettable (limits : Limits) (account region : String) (attributes : QueueAttributes) :
    Prop where
  kept : ∀ {a value}, attributes.find? a = some value → Kept limits account region a value
  standard : ∀ {a}, a ∈ QueueAttributes.standard.keys → a ∈ attributes.keys

theorem checkNumber_toString {name : String} {n least greatest : Nat} (hn : n < 1 <<< 63)
    (hleast : least ≤ n) (hgreatest : n ≤ greatest) :
    checkNumber name (toString n) least greatest = .ok () := by
  have hread : Integer.signed? 64 (toString n) = some (n : Int) := Integer.signed?_toString hn
  have hrange : ¬ (decide ((n : Int) < least) || decide ((greatest : Int) < n)) = true := by
    simp only [Bool.or_eq_true, decide_eq_true_eq]
    omega
  rw [checkNumber, hread]
  exact if_neg hrange

/-- The standard attributes are kept under limits that have room for them. -/
theorem resettable_standard (hroom : ∀ x : QueueSetting, x.standard ≤ limits.get x.limit) :
    Resettable limits account region .standard := by
  refine ⟨fun {a value} hfind => ?_, id⟩
  have hsetting (x : QueueSetting) (hfind : QueueAttributes.standard.find? x.key = some value) :
      Kept limits account region x.key value := by
    cases (x.find?_standard).symm.trans hfind
    have hfits : x.standard < 1 <<< 63 := Nat.lt_trans x.standard_lt (by decide)
    exact .number (x.numericRange?_key limits)
      (checkNumber_toString hfits x.least_le_standard (hroom x))
  cases a with
  | delaySeconds => exact hsetting .delaySeconds hfind
  | maximumMessageSize => exact hsetting .maximumMessageSize hfind
  | messageRetentionPeriod => exact hsetting .messageRetentionPeriod hfind
  | visibilityTimeout => exact hsetting .visibilityTimeout hfind
  | receiveMessageWaitTimeSeconds =>
      cases hfind
      exact .number rfl (checkNumber_toString (by decide) (Nat.le_refl 0) (Nat.zero_le _))
  | all | policy | approximateNumberOfMessages | approximateNumberOfMessagesNotVisible
  | createdTimestamp | lastModifiedTimestamp | queueArn | approximateNumberOfMessagesDelayed
  | redrivePolicy => cases hfind

theorem Assigned.resettable (h : Assigned limits caller s a value attributes result)
    (hattributes : Resettable limits caller.account caller.region attributes) :
    Resettable limits caller.account caller.region result := by
  have hinsert {value' : String} (hkept : Kept limits caller.account caller.region a value') :
      Resettable limits caller.account caller.region (attributes.insert a value') := by
    refine ⟨fun {a' value''} hfind => ?_, fun {a'} hmem => ?_⟩
    · rw [Dict.find?_insert] at hfind
      split at hfind
      · next heq =>
        cases hfind
        exact heq ▸ hkept
      · exact hattributes.kept hfind
    · exact Dict.mem_keys_insert_iff.mpr (.inr (hattributes.standard hmem))
  cases h with
  | number range check => exact hinsert (.number range check)
  | policy named check =>
      subst named
      exact hinsert (.policy check)
  | redrive named standing =>
      subst named
      exact hinsert (.redrive (RedrivePolicy.valid_of_parse standing.reads))
  | passed => exact hattributes

theorem setAttributes_resettable {supplied : List (String × String)}
    (h : (setAttributes limits caller attributes supplied).runOn b = (.ok result, b'))
    (hattributes : Resettable limits caller.account caller.region attributes) :
    Resettable limits caller.account caller.region result := by
  induction supplied generalizing attributes b with
  | nil =>
      cases h
      exact hattributes
  | cons first rest ih =>
      obtain ⟨changed, b₁, hset, h⟩ := bind_ok h
      obtain ⟨a, -, hassigned⟩ := setAttribute_ok hset
      exact ih h (hassigned.resettable hattributes)

/-! ## Setting them again -/

/-- **A kept value is kept as it is,** if the target of a redrive policy is there. -/
theorem Kept.setAttribute (h : Kept limits caller.account caller.region a value)
    (htarget : ∀ policy, a = .redrivePolicy →
      RedrivePolicy.parse limits caller.account caller.region value = .ok policy →
        (s.lookup? policy.target).isSome) (attributes : QueueAttributes) :
    (setAttribute limits caller attributes a.toText value).runOn (.reliable s) =
      (.ok (attributes.insert a value), .reliable s) := by
  have hnamed : attributeNamed a.toText = .ok a := by
    rw [attributeNamed, QueueAttribute.ofText?_toText]
  unfold Service.setAttribute
  rw [hnamed, runOn_bind_of_ok (runOn_ofExcept _ _)]
  cases h with
  | number range check =>
      simp only [range]
      rw [check, runOn_bind_of_ok (runOn_ofExcept _ _)]
      rfl
  | policy check =>
      have hnonempty : value.isEmpty = false := by
        rw [Bool.eq_false_iff, Ne, String.isEmpty_iff]
        rintro rfl
        cases check
      simp only [numericRange?, hnonempty, decide_true, Bool.not_false, Bool.and_self, if_true]
      rw [check]
      rfl
  | @redrive policy valid =>
      have hstanding : Standing limits caller s (policy.toDocument caller.region) policy :=
        ⟨valid.parse_toDocument, htarget policy rfl valid.parse_toDocument⟩
      have hnonempty : (policy.toDocument caller.region).isEmpty = false := by
        rw [Bool.eq_false_iff, Ne, String.isEmpty_iff]
        intro hempty
        have hreads := hstanding.reads
        rw [hempty] at hreads
        cases hreads
      simp only [numericRange?, hnonempty]
      exact runOn_bind_of_ok (redrivePolicy_of_standing hstanding)

/-- A derived attribute is passed over. -/
theorem setAttribute_derived (h : a ∈ derived) (value : String) (attributes : QueueAttributes) :
    (setAttribute limits caller attributes a.toText value).runOn b = (.ok attributes, b) := by
  simp only [derived, List.mem_cons, List.not_mem_nil, or_false] at h
  rcases h with rfl | rfl | rfl <;> rfl

/-- **Descriptions.** Of attributes that are kept or derived, the kept ones are set, one after another. -/
theorem setAttributes_described {entries : List (QueueAttribute × String)}
    (h : ∀ e ∈ entries, e.1 ∉ derived → Kept limits caller.account caller.region e.1 e.2 ∧
      ∀ policy, e.1 = .redrivePolicy →
        RedrivePolicy.parse limits caller.account caller.region e.2 = .ok policy →
          (s.lookup? policy.target).isSome)
    (attributes : QueueAttributes) :
    (setAttributes limits caller attributes (entries.map fun e => (e.1.toText, e.2))).runOn
        (.reliable s) =
      (.ok ((entries.filter fun e => e.1 ∉ derived).foldl (fun d e => d.insert e.1 e.2) attributes),
        .reliable s) := by
  induction entries generalizing attributes with
  | nil => rfl
  | cons e rest ih =>
      rw [List.forall_mem_cons] at h
      rw [List.map_cons, setAttributes]
      by_cases hderived : e.1 ∈ derived
      · rw [runOn_bind_of_ok (setAttribute_derived hderived e.2 attributes), ih h.2,
          List.filter_cons_of_neg (by simpa using hderived)]
      · obtain ⟨hkept, htarget⟩ := h.1 hderived
        rw [runOn_bind_of_ok (hkept.setAttribute htarget attributes), ih h.2,
          List.filter_cons_of_pos (by simpa using hderived), List.foldl_cons]

end Kept

/-- A description adds nothing but derived attributes. -/
theorem describe_filter_derived {queue : Queue} (h : ∀ {a value}, queue.attributes.find? a = some value →
    a ∉ derived) (region : String) :
    ((queue.describe region).filter fun a _ => a ∉ derived) = queue.attributes := by
  apply Dict.ext_find?
  intro a
  rw [Dict.find?_filter (fun a => decide (a ∉ derived))]
  by_cases hderived : a ∈ derived
  · rw [if_neg (by simpa using hderived)]
    cases hfind : queue.attributes.find? a with
    | none => rfl
    | some value => exact absurd hderived (h hfind)
  · rw [if_pos (by simpa using hderived)]
    simp only [derived, List.mem_cons, List.not_mem_nil, or_false, not_or] at hderived
    obtain ⟨harn, hcreated, hmodified⟩ := hderived
    rw [Queue.describe, Dict.find?_insert_of_ne _ hmodified, Dict.find?_insert_of_ne _ hcreated,
      Dict.find?_insert_of_ne _ harn]

section Described

variable {desk : Desk} {caller : Caller} {s : Store} {id : QueueId} {queue : Queue}

theorem describeQueue_all {locator : String} (hresolve : desk.addresses.resolve? locator = some id)
    (hown : id.account = caller.account) (hqueue : s.lookup? id = some queue) :
    (describeQueue desk caller locator ["All"]).runOn (.reliable s) =
      (.ok (queue.describe caller.region), .reliable s) := by
  have howned := ownedQueue_of_resolve hresolve hown s
  rw [hqueue] at howned
  have hnames : ["All"].mapM attributeNamed = .ok [QueueAttribute.all] := rfl
  have hall : ((queue.describe caller.region).filter fun a _ =>
      [QueueAttribute.all].contains .all || [QueueAttribute.all].contains a) =
        queue.describe caller.region :=
    Dict.ext (List.filter_eq_self.mpr fun _ _ => rfl)
  rw [describeQueue, hnames, runOn_bind_of_ok (runOn_ofExcept _ _), runOn_bind_of_ok howned, hall]
  rfl

end Described

end Service

/-- **Recreation.** A queue was made under the limits in force, by a caller of the same account and region,
    and if it has a redrive policy, its target is still there; the limits have room for the standard values.
    Then all that the service tells of the queue, in any order, can be asked for under the name of the queue:
    the queue is found, and nothing changes. -/
theorem Founded.createQueue_described {b₀ b : Backend} {turns : List Turn} {id : QueueId} {founder : Turn}
    {queue : Queue} {desk : Desk} {caller : Caller} {locator : String}
    (h : Founded b₀ id founder turns b) (hqueue : b.store.lookup? id = some queue)
    (hlimits : founder.desk.limits = desk.limits) (haccount : founder.caller.account = caller.account)
    (hregion : founder.caller.region = caller.region)
    (hroom : ∀ x : QueueSetting, x.standard ≤ desk.limits.get x.limit)
    (htarget : ∀ policy, queue.Redrives policy → (b.store.lookup? policy.target).isSome)
    (hresolve : desk.addresses.resolve? locator = some id) :
    ∃ described, (describeQueue desk caller locator ["All"]).runOn (.reliable b.store) =
        (.ok described, .reliable b.store) ∧
      ∀ entries : List (QueueAttribute × String), entries.Perm described.entries → ∀ occasion,
        (createQueue desk caller occasion (some id.name)
            (entries.map fun e => (e.1.toText, e.2))).runOn (.reliable b.store) =
          (.ok (desk.addresses.url id), .reliable b.store) := by
  obtain ⟨name?, supplied, name, b₁, b₂, -, hchecked, rfl⟩ := h.checked hqueue
  have hname := hchecked.name
  obtain ⟨rfl, -⟩ := queueName_ok hname
  have hresettable : Resettable desk.limits caller.account caller.region queue.attributes := by
    rw [← hlimits, ← haccount, ← hregion]
    exact setAttributes_resettable hchecked.attributes (resettable_standard (hlimits ▸ hroom))
  have hderived := describe_filter_derived (fun hfind => (hresettable.kept hfind).notMem_derived)
    caller.region
  refine ⟨_, describeQueue_all hresolve haccount hqueue, fun entries hperm occasion => ?_⟩
  have hentries : (entries.filter fun e => e.1 ∉ derived).Perm queue.attributes.entries := by
    rw [← hderived]
    exact hperm.filter _
  have hset : (queueAttributes desk.limits caller (entries.map fun e => (e.1.toText, e.2))).runOn
      (.reliable b.store) = (.ok queue.attributes, .reliable b.store) := by
    rw [queueAttributes, setAttributes_described, Dict.foldl_insert_of_perm hentries
      fun _ => hresettable.standard]
    intro e hmem hnot
    have hfind : queue.attributes.find? e.1 = some e.2 :=
      Dict.mem_entries_iff.mp (hentries.mem_iff.mp (List.mem_filter.mpr ⟨hmem, by simpa using hnot⟩))
    refine ⟨hresettable.kept hfind, fun policy hkey hread => htarget policy ?_⟩
    exact ⟨e.2, _, _, _, hkey ▸ hfind, hread⟩
  have hagain : Checked desk caller (some name) (entries.map fun e => (e.1.toText, e.2))
      (.reliable b.store) name queue.attributes (.reliable b.store) := ⟨hlimits ▸ hname, hset⟩
  rw [haccount] at hqueue ⊢
  rw [createQueue_of_checked hagain, hqueue]
  exact if_pos rfl

/-- The turn of the sample caller that asks for a queue. -/
def Sample.asking (name : String) (supplied : List (String × String)) : Turn :=
  { desk, caller, occasion, request := .createQueue (some name) supplied
    outcome := .ok (.address (desk.addresses.url (id name))) }

/-- A queue with a redrive policy is described, and asked for again with all that is told of it, from the
    last attribute to the first. -/
theorem createQueue_described_redriving :
    ∃ (s : Store) (described : Dict QueueAttribute String),
      Founded (.reliable .empty) (Sample.id "q") (Sample.asking "q" [("RedrivePolicy", redrivingDocument)])
        [Sample.asking "dlq" [], Sample.asking "q" [("RedrivePolicy", redrivingDocument)]]
        (.reliable s) ∧
      (describeQueue Sample.desk Sample.caller (Sample.locator "q") ["All"]).runOn (.reliable s) =
        (.ok described, .reliable s) ∧
      (createQueue Sample.desk Sample.caller Sample.occasion (some "q")
          (described.entries.reverse.map fun e => (e.1.toText, e.2))).runOn (.reliable s) =
        (.ok (Sample.desk.addresses.url (Sample.id "q")), .reliable s) := by
  have hread := parse_redrivingDocument
  -- the target is made on the empty store, and the queue beside it
  let s : Store := Store.empty.setHeld (Sample.id "dlq")
    { queue := Queue.new (Sample.id "dlq") .standard (Sample.occasion.clock 0), messages := [] }
  let attributes := QueueAttributes.standard.insert .redrivePolicy
    (redrivingPolicy.toDocument Sample.caller.region)
  let s' : Store := s.setHeld (Sample.id "q")
    { queue := Queue.new (Sample.id "q") attributes (Sample.occasion.clock 0), messages := [] }
  have htarget : Checked Sample.desk Sample.caller (some "dlq") [] (.reliable .empty) "dlq" .standard
      (.reliable .empty) := ⟨rfl, rfl⟩
  have hqueue : Checked Sample.desk Sample.caller (some "q") [("RedrivePolicy", redrivingDocument)]
      (.reliable s) "q" attributes (.reliable s) := ⟨rfl, queueAttributes_of_standing ⟨hread, rfl⟩⟩
  have hfirst : Founded (.reliable .empty) (Sample.id "dlq") (Sample.asking "dlq" [])
      ([] ++ [Sample.asking "dlq" []]) (.reliable s) :=
    Session.start.founds (Sample.asking "dlq" []) rfl rfl htarget rfl
  have hfounded : Founded (.reliable .empty) (Sample.id "q")
      (Sample.asking "q" [("RedrivePolicy", redrivingDocument)])
      [Sample.asking "dlq" [], Sample.asking "q" [("RedrivePolicy", redrivingDocument)]]
      (.reliable s') :=
    hfirst.session.founds (Sample.asking "q" [("RedrivePolicy", redrivingDocument)]) rfl rfl hqueue rfl
  have hlook : s'.lookup? (Sample.id "q") = some (Queue.new (Sample.id "q") attributes 5000) := rfl
  have hpolicy : ∀ policy, (Queue.new (Sample.id "q") attributes 5000).Redrives policy →
      (s'.lookup? policy.target).isSome := by
    rintro policy ⟨document, limits, account, region, hfind, hparse⟩
    have hdocument : attributes.find? .redrivePolicy = _ := Dict.find?_insert_self ..
    cases hdocument.symm.trans hfind
    obtain rfl := RedrivePolicy.parse_unique (RedrivePolicy.valid_of_parse hread).parse_toDocument hparse
    rfl
  have hlimits : (Sample.asking "q" [("RedrivePolicy", redrivingDocument)]).desk.limits =
      Sample.desk.limits := rfl
  have hcaller : (Sample.asking "q" [("RedrivePolicy", redrivingDocument)]).caller = Sample.caller := rfl
  have hroom : ∀ x : QueueSetting, x.standard ≤ Sample.desk.limits.get x.limit := by
    intro x
    cases x <;> decide
  have hresolve : Sample.desk.addresses.resolve? (Sample.locator "q") = some (Sample.id "q") := rfl
  obtain ⟨described, hdescribed, hagain⟩ := hfounded.createQueue_described hlook hlimits
    (congrArg Caller.account hcaller) (congrArg Caller.region hcaller) hroom hpolicy hresolve
  exact ⟨s', described, hfounded, hdescribed, hagain _ (List.reverse_perm _) Sample.occasion⟩

end QueueService
