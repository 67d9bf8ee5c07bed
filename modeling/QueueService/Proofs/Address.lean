import Mathlib
import QueueService.Proofs.Locator
import QueueService.Proofs.Records
import QueueService.Proofs.Store.Listing

/-!
# Addresses lead back

A queue's address is the endpoint with an account and a name behind it. Where the endpoint is an origin of
the web and the accounts are plain, the address is read back as the account and the name that it was
written from, because both are plain segments: names have been checked, and no segment can be lost, split
or taken for something else on the way through the address.

* `AddressBook.resolve?_url` — a plain address names the queue that it was written for.
* `AddressBook.url_inj` — different queues have different addresses.
* `Session.answered_addresses` — both, for all addresses that the service hands out.
-/

namespace QueueService

open Operation

/-! ## Writing and reading an address -/

namespace AddressBook

/-- **Under an origin.** The endpoint is an origin of the web that is read as an address without a path of
    its own, and the accounts are plain. -/
structure Under (book : AddressBook) (origin : Url.Origin) : Prop where
  endpoint : book.endpoint = String.ofList origin.text
  read : Url.path? (String.ofList origin.text) = some "/"
  accounts : ∀ account ∈ book.accounts, Alphabet.IsPlain account

/-- The slashes at the end of an endpoint do not count, and no others are lost. -/
theorem endpoint_ofEndpoint (origin : Url.Origin) (slashes : Nat) (accounts : List String) :
    (ofEndpoint (String.ofList (origin.text ++ List.replicate slashes '/')) accounts).endpoint =
      String.ofList origin.text := by
  have hlast : ∀ c ∈ origin.authority.reverse.head?, (c == '/') = false := by
    intro c hc
    have hmem : c ∈ origin.authority := List.mem_reverse.mp (List.mem_of_head? hc)
    have hslash := (origin.closed c hmem).1
    simp only [Url.isSlash, Bool.or_eq_false_iff] at hslash
    exact hslash.1
  have htext : origin.text.reverse.dropWhile (· == '/') = origin.text.reverse := by
    rw [Url.Origin.text, List.reverse_append, List.reverse_cons, List.reverse_cons,
      List.reverse_cons]
    cases hauthority : origin.authority.reverse with
    | nil => exact absurd (List.reverse_eq_nil_iff.mp hauthority) origin.present
    | cons c rest =>
        have hc := hlast c (by rw [hauthority]; rfl)
        exact List.dropWhile_cons_of_neg (by rw [hc]; decide)
  have hslashes : ∀ c ∈ List.replicate slashes '/', (c == '/') = true := by
    intro c hc
    rw [List.eq_of_mem_replicate hc]
    rfl
  simp only [ofEndpoint, String.toList_ofList]
  rw [List.reverse_append, List.reverse_replicate, List.dropWhile_append_of_pos hslashes, htext,
    List.reverse_reverse]

section Address

variable {book : AddressBook} {origin : Url.Origin} {id id' : QueueId}

theorem toList_url (book : AddressBook) (id : QueueId) :
    (book.url id).toList =
      book.endpoint.toList ++ '/' :: (id.account.toList ++ '/' :: id.name.toList) := by
  simp [url]

/-- **An address is read back.** It names the queue that it was written for. -/
theorem resolve?_url (h : book.Under origin) (haccount : id.account ∈ book.accounts)
    (hname : Alphabet.IsPlain id.name) : book.resolve? (book.url id) = some id := by
  have hread : (Url.path? (String.ofList origin.text)).isSome = true := by rw [h.read]; rfl
  have hpath : Layout.direct.path id = '/' :: (id.account.toList ++ '/' :: id.name.toList) := by
    simp [Layout.path, Layout.words, Layout.front, pathOf]
  have hurl : book.url id = String.ofList (origin.text ++ Layout.direct.path id) := by
    apply String.toList_inj.mp
    rw [toList_url, h.endpoint, String.toList_ofList, String.toList_ofList, hpath]
  rw [hurl]
  exact resolve?_path_under .direct hread (h.accounts id.account haccount) hname haccount

/-- A text is cut at its last slash in one way only. -/
theorem eq_of_lastSlash {front front' back back' : List Char} (hback : '/' ∉ back)
    (hback' : '/' ∉ back') (h : front ++ '/' :: back = front' ++ '/' :: back') :
    front = front' ∧ back = back' := by
  rcases List.append_eq_append_iff.mp h with ⟨between, rfl, hrest⟩ | ⟨between, rfl, hrest⟩
  · cases between with
    | nil => exact ⟨(List.append_nil _).symm, (List.cons.inj hrest).2⟩
    | cons c between =>
        refine absurd ?_ hback
        rw [(List.cons.inj hrest).2]
        exact List.mem_append_right _ List.mem_cons_self
  · cases between with
    | nil => exact ⟨List.append_nil _, (List.cons.inj hrest).2.symm⟩
    | cons c between =>
        refine absurd ?_ hback'
        rw [(List.cons.inj hrest).2]
        exact List.mem_append_right _ List.mem_cons_self

/-- **Different queues have different addresses.** -/
theorem url_inj (hname : '/' ∉ id.name.toList) (hname' : '/' ∉ id'.name.toList)
    (h : book.url id = book.url id') : id = id' := by
  have htext := String.toList_inj.mpr h
  rw [toList_url, toList_url, ← List.cons_append, ← List.append_assoc, ← List.cons_append,
    ← List.append_assoc] at htext
  obtain ⟨hfront, hback⟩ := eq_of_lastSlash hname hname' htext
  obtain ⟨account, name⟩ := id
  obtain ⟨account', name'⟩ := id'
  have haccount := (List.cons.inj (List.append_cancel_left hfront)).2
  exact congrArg₂ QueueId.mk (String.toList_inj.mp haccount) (String.toList_inj.mp hback)

end Address

end AddressBook

/-! ## Answered addresses -/

/-- The addresses that an answer consists of. -/
def Reply.urls : Reply → List String
  | address url => [url]
  | addresses urls => urls
  | _ => []

/-- **Whose address is handed out.** Where a queue is made or found, it is the caller's queue of the name
    that was asked for; where queues are listed, it is one of the caller's that the store holds and whose
    name begins as asked for. -/
inductive Request.Concerns (caller : Caller) (s : Store) : Request → QueueId → Prop
  | create {name : String} {supplied : List (String × String)} :
      Concerns caller s (.createQueue (some name) supplied) ⟨caller.account, name⟩
  | find {name : String} {queue : Queue} (held : s.lookup? ⟨caller.account, name⟩ = some queue) :
      Concerns caller s (.queueUrl (some name)) ⟨caller.account, name⟩
  | list {start? : Option String} {name : String} {queue : Queue}
      (held : s.lookup? ⟨caller.account, name⟩ = some queue)
      (begins : (start?.getD "").toList <+: name.toList) :
      Concerns caller s (.listQueues start?) ⟨caller.account, name⟩

theorem Request.Concerns.account {caller : Caller} {s : Store} {request : Request} {id : QueueId}
    (h : request.Concerns caller s id) : id.account = caller.account := by
  cases h <;> rfl

/-- The names of a store's queues are plain. -/
def Store.PlainNames (s : Store) : Prop :=
  ∀ ⦃id queue⦄, s.lookup? id = some queue → Alphabet.IsPlain id.name

namespace Service

section Answer

variable {desk : Desk} {caller : Caller} {occasion : Occasion} {b b' : Backend}

theorem queueName_ok {limits : Limits} {name? : Option String} {name : String}
    (h : queueName limits name? = .ok name) : name? = some name ∧ Alphabet.IsPlain name := by
  unfold queueName at h
  split at h
  · cases h
  · split at h
    · cases h
    · split at h
      · next hname =>
        cases h
        exact ⟨rfl, Alphabet.isPlain_of_isQueueName hname⟩
      · cases h

theorem queueUrl_ok {name? : Option String} {url : String} (hkeyed : b.store.Keyed)
    (h : (queueUrl desk caller name?).runOn b = (.ok url, b')) :
    ∃ name queue, name? = some name ∧ b.store.lookup? ⟨caller.account, name⟩ = some queue ∧
      url = desk.addresses.url ⟨caller.account, name⟩ := by
  unfold queueUrl at h
  obtain ⟨name, _, hverdict, h⟩ := bind_ok h
  obtain ⟨hname, rfl⟩ := ofExcept_ok hverdict
  obtain ⟨found, b₁, hlook, h⟩ := bind_ok h
  cases found with
  | none => cases h
  | some queue =>
      cases h
      have hheld := Backend.lookupQueue_some (ofAction_ok hlook)
      refine ⟨name, queue, (queueName_ok hname).1, hheld, ?_⟩
      rw [hkeyed.id_of_lookup? hheld]

/-- A listing's addresses are those of queues that the store holds. -/
theorem listQueues_ok {start? : Option String} {urls : List String} (hkeyed : b.store.Keyed)
    (h : (listQueues desk caller start?).runOn b = (.ok urls, b')) :
    ∃ ids : List QueueId, urls = ids.map desk.addresses.url ∧
      ∀ id ∈ ids, Request.Concerns caller b.store (.listQueues start?) id := by
  unfold listQueues at h
  obtain ⟨queues, b₁, hlist, h⟩ := bind_ok h
  cases h
  have hqueues : queues = b.store.list caller.account (start?.getD "") := by
    cases Backend.call_answer (ofAction_ok hlist) with
    | granted done => cases done; rfl
    | missed _ answer => cases answer
  refine ⟨queues.map Queue.id, by rw [List.map_map]; rfl, ?_⟩
  intro id hid
  obtain ⟨queue, hqueue, rfl⟩ := List.mem_map.mp hid
  rw [hqueues, Store.list_eq_filter] at hqueue
  obtain ⟨entry, hentry, rfl⟩ := List.mem_map.mp hqueue
  obtain ⟨hmem, hlisted⟩ := List.mem_filter.mp hentry
  obtain ⟨haccount, hbegins⟩ := Store.isListed_iff.mp hlisted
  have hheld : b.store.held? entry.1 = some entry.2 := Dict.mem_entries_iff.mp hmem
  have hlook : b.store.lookup? entry.1 = some entry.2.queue := by rw [Store.lookup?, hheld]; rfl
  rw [hkeyed hheld]
  obtain ⟨⟨account, name⟩, q⟩ := entry
  obtain rfl : account = caller.account := haccount
  exact .list hlook hbegins

/-- The queue that an address of the caller leads to is the one that the store holds under the identity
    that the address names. -/
theorem ownedQueue_of_resolve {locator : String} {id : QueueId}
    (hresolve : desk.addresses.resolve? locator = some id) (hown : id.account = caller.account)
    (s : Store) :
    (ownedQueue desk caller locator).runOn (.reliable s) =
      ((s.lookup? id).elim (.error .queueMissing) .ok, .reliable s) := by
  have hlook := Backend.lookupQueue_reliable id s
  unfold ownedQueue
  rw [hresolve]
  simp only [hown, bne_self_eq_false, Bool.false_eq_true, if_false]
  rw [call_bind_of_ok hlook]
  cases s.lookup? id <;> rfl

end Answer

end Service

section Session

variable {b₀ b b' : Backend} {turns : List Turn}

open Service

/-- **Names are plain.** In every session, whatever limits it was served under. -/
theorem Session.plainNames (session : Session b₀ turns b) (hempty : b₀.store = .empty) :
    b.store.PlainNames := by
  intro id queue h
  obtain ⟨turn, -, name?, supplied, name, _, _, -, hchecked, rfl, -⟩ :=
    session.exists_made hempty h
  exact (queueName_ok hchecked.name).2

theorem Session.keyed (session : Session b₀ turns b) (hempty : b₀.store = .empty) :
    b.store.Keyed := by
  obtain ⟨log, run, -⟩ := session.exists_run hempty
  exact Store.Path.keyed run fun _ _ hq => nomatch hq

/-- An answer's addresses are those of queues that the request concerns. -/
theorem Request.exists_concerned {desk : Desk} {caller : Caller} {occasion : Occasion}
    {request : Request} {reply : Reply} (hkeyed : b.store.Keyed) (hplain : b.store.PlainNames)
    (served : (request.serve desk caller occasion).runOn b = (.ok reply, b')) :
    ∃ ids : List QueueId, reply.urls = ids.map desk.addresses.url ∧
      ∀ id ∈ ids, request.Concerns caller b.store id ∧ Alphabet.IsPlain id.name := by
  -- only three kinds of requests are answered with addresses
  have hnone : ∀ {urls : List String}, urls = [] → ∃ ids : List QueueId,
      urls = ids.map desk.addresses.url ∧
        ∀ id ∈ ids, request.Concerns caller b.store id ∧ Alphabet.IsPlain id.name := by
    rintro _ rfl
    exact ⟨[], rfl, List.forall_mem_nil _⟩
  cases request with
  | createQueue name? supplied =>
      obtain ⟨url, hrun, rfl⟩ := map_ok served
      obtain ⟨name, _, _, _, hchecked, -, rfl, -⟩ := createQueue_ok hrun
      obtain ⟨rfl, hname⟩ := queueName_ok hchecked.name
      refine ⟨[⟨caller.account, name⟩], rfl, ?_⟩
      intro id hid
      obtain rfl := List.mem_singleton.mp hid
      exact ⟨.create, hname⟩
  | queueUrl name? =>
      obtain ⟨url, hrun, rfl⟩ := map_ok served
      obtain ⟨name, queue, rfl, hheld, rfl⟩ := queueUrl_ok hkeyed hrun
      refine ⟨[⟨caller.account, name⟩], rfl, ?_⟩
      intro id hid
      obtain rfl := List.mem_singleton.mp hid
      exact ⟨.find hheld, hplain hheld⟩
  | listQueues start? =>
      obtain ⟨urls, hrun, rfl⟩ := map_ok served
      obtain ⟨ids, rfl, hids⟩ := listQueues_ok hkeyed hrun
      refine ⟨ids, rfl, ?_⟩
      intro id hid
      have hconcerns := hids id hid
      refine ⟨hconcerns, ?_⟩
      cases hconcerns with
      | list held begins => exact hplain held
  | describeQueue | purgeQueue | deleteQueue | sendMessage | sendBatch | receiveMessages
  | deleteMessage =>
      obtain ⟨answer, -, rfl⟩ := map_ok served
      exact hnone rfl

/-- **Addresses that are handed out lead back.** Where the service stands under an origin, with any number
    of slashes behind it, and accounts are plain, each address that it hands out to a caller of one of these
    accounts names the queue that it was written for, the one that the request concerns. So the caller
    gets at that queue under the address on every store that holds it. Addresses of different queues are
    different. -/
theorem Session.answered_addresses {desk : Desk} {caller : Caller} {occasion : Occasion}
    {request : Request} {reply : Reply} {origin : Url.Origin} {slashes : Nat} {accounts : List String}
    (session : Session b₀ turns b) (hempty : b₀.store = .empty)
    (hbook : desk.addresses =
      .ofEndpoint (String.ofList (origin.text ++ List.replicate slashes '/')) accounts)
    (hread : Url.path? (String.ofList origin.text) = some "/")
    (haccounts : ∀ account ∈ accounts, Alphabet.IsPlain account)
    (hcaller : caller.account ∈ accounts)
    (served : (request.serve desk caller occasion).runOn b = (.ok reply, b')) :
    (∃ ids : List QueueId, reply.urls = ids.map desk.addresses.url ∧ ∀ id ∈ ids,
      request.Concerns caller b.store id ∧ Alphabet.IsPlain id.name ∧
      desk.addresses.resolve? (desk.addresses.url id) = some id ∧
      ∀ s : Store, (ownedQueue desk caller (desk.addresses.url id)).runOn (.reliable s) =
        ((s.lookup? id).elim (.error .queueMissing) .ok, .reliable s)) ∧
    b.store.PlainNames ∧
    ∀ id id' : QueueId, Alphabet.IsPlain id.name → Alphabet.IsPlain id'.name →
      desk.addresses.url id = desk.addresses.url id' → id = id' := by
  have hplain := session.plainNames hempty
  have hunder : desk.addresses.Under origin := by
    rw [hbook]
    exact ⟨AddressBook.endpoint_ofEndpoint origin slashes accounts, hread, haccounts⟩
  refine ⟨?_, hplain, ?_⟩
  · obtain ⟨ids, hurls, hids⟩ := Request.exists_concerned (session.keyed hempty) hplain served
    refine ⟨ids, hurls, ?_⟩
    intro id hid
    obtain ⟨hconcerns, hname⟩ := hids id hid
    have haccount : id.account ∈ desk.addresses.accounts := by
      rw [hbook, hconcerns.account]
      exact hcaller
    have hresolve := AddressBook.resolve?_url hunder haccount hname
    exact ⟨hconcerns, hname, hresolve, ownedQueue_of_resolve hresolve hconcerns.account⟩
  · intro id id' hname hname' heq
    exact AddressBook.url_inj (AddressBook.slash_notMem_of_isPlain hname)
      (AddressBook.slash_notMem_of_isPlain hname') heq

end Session

namespace Sample

/-- A desk with slashes behind its endpoint, and an account that is a word of the service path. -/
def crossroads : Desk :=
  { desk with
    addresses := .ofEndpoint (String.ofList (origin.text ++ List.replicate 2 '/'))
      ["services", "123456789012"] }

end Sample

/-- An account and a name that together spell the service path are read as an account and a name. -/
theorem answered_addresses_servicePath :
    ∃ turns b b' url, Session (.reliable .empty) turns b ∧
      (Request.serve Sample.crossroads { Sample.caller with account := "services" } Sample.occasion
        (.listQueues none)).runOn b = (.ok (.addresses [url]), b') ∧
      url = "http://localhost:4566/services/simplequeue" ∧
      Sample.crossroads.addresses.resolve? url = some ⟨"services", "simplequeue"⟩ ∧
      ∃ queue, b.store.lookup? ⟨"services", "simplequeue"⟩ = some queue ∧
        (Service.ownedQueue Sample.crossroads { Sample.caller with account := "services" } url).runOn
          (.reliable b.store) = (.ok queue, .reliable b.store) := by
  obtain ⟨turns, b, session, b', url, queue, served, hurl, hheld⟩ : ∃ turns b,
      Session (.reliable .empty) turns b ∧ ∃ b' url queue,
        (Request.serve Sample.crossroads { Sample.caller with account := "services" } Sample.occasion
          (.listQueues none)).runOn b = (.ok (.addresses [url]), b') ∧
        url = "http://localhost:4566/services/simplequeue" ∧
        b.store.lookup? ⟨"services", "simplequeue"⟩ = some queue :=
    ⟨_, _, session_serveAll Sample.crossroads { Sample.caller with account := "services" }
        (.reliable .empty) [(Sample.occasion, .createQueue (some "simplequeue") [])],
      _, _, _, rfl, rfl, rfl⟩
  obtain ⟨⟨ids, hurls, hids⟩, hplain, hinj⟩ := Session.answered_addresses session rfl rfl
    Sample.path?_origin (by decide) (by decide) served
  obtain ⟨id, rfl, hid⟩ := List.map_eq_singleton_iff.mp hurls.symm
  obtain ⟨-, hname, hresolve, howned⟩ := hids id (List.mem_singleton_self id)
  have heq : id = ⟨"services", "simplequeue"⟩ :=
    hinj _ _ hname (hplain hheld) (hid.trans hurl)
  subst heq
  rw [hid] at hresolve howned
  refine ⟨turns, b, b', url, session, served, hurl, hresolve, queue, hheld, ?_⟩
  rw [howned, hheld]
  rfl

end QueueService
