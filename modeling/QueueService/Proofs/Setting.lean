import QueueService.Proofs.Assignment
import QueueService.Proofs.Records

/-!
# Settings

The numbers that the service reads back from the attributes of its queues, against those that were asked
for. A number is checked as a signed one of 64 bits and read back as an unsigned one of 32 bits, or else
as its standard value, and only supplied numbers are checked. So there are two exceptions to what one
would expect, and no others:

* `createQueue_setting_iff` — a setting is what was asked for, except a visibility timeout of zero that is
  written with a minus sign;
* `setting_inRange_iff` — all settings of all queues are in the ranges that the limits in force set,
  exactly if the standard ones are.
-/

namespace QueueService

open Operation Service

/-- The settings that the service reads back. -/
inductive QueueSetting
  | delaySeconds
  | maximumMessageSize
  | messageRetentionPeriod
  | visibilityTimeout
  deriving DecidableEq

namespace QueueSetting

/-- The attribute that a setting is read from. -/
def key : QueueSetting → QueueAttribute
  | delaySeconds => .delaySeconds
  | maximumMessageSize => .maximumMessageSize
  | messageRetentionPeriod => .messageRetentionPeriod
  | visibilityTimeout => .visibilityTimeout

/-- The value of a setting that was not asked for. -/
def standard : QueueSetting → Nat
  | delaySeconds => QueueAttributes.standardDelaySeconds
  | maximumMessageSize => QueueAttributes.standardMaximumMessageSize
  | messageRetentionPeriod => QueueAttributes.standardMessageRetentionPeriod
  | visibilityTimeout => QueueAttributes.standardVisibilityTimeout

/-- The value in force of a setting. -/
def read (attributes : QueueAttributes) : QueueSetting → Nat
  | delaySeconds => attributes.delaySeconds
  | maximumMessageSize => attributes.maximumMessageSize
  | messageRetentionPeriod => attributes.messageRetentionPeriod
  | visibilityTimeout => attributes.visibilityTimeout

/-- The least value of a setting. -/
def least : QueueSetting → Nat
  | delaySeconds => 0
  | maximumMessageSize => 1024
  | messageRetentionPeriod => 60
  | visibilityTimeout => 0

/-- The limit on a setting. -/
def limit : QueueSetting → Limit
  | delaySeconds => .delaySeconds
  | maximumMessageSize => .maximumMessageSize
  | messageRetentionPeriod => .messageRetentionPeriod
  | visibilityTimeout => .visibilityTimeout

/-- The value is in the range that the limits set. -/
def InRange (limits : Limits) (x : QueueSetting) (n : Nat) : Prop :=
  x.least ≤ n ∧ n ≤ limits.get x.limit

/-! ## Reading -/

theorem read_eq (attributes : QueueAttributes) (x : QueueSetting) :
    x.read attributes = attributes.setting x.key x.standard := by
  cases x <;> rfl

theorem numericRange?_key (limits : Limits) (x : QueueSetting) :
    numericRange? limits x.key = some (x.least, limits.get x.limit) := by
  cases x <;> rfl

theorem find?_standard (x : QueueSetting) :
    QueueAttributes.standard.find? x.key = some (toString x.standard) := by
  cases x <;> rfl

theorem standard_lt (x : QueueSetting) : x.standard < 1 <<< 32 := by
  cases x <;> decide

theorem least_le_standard (x : QueueSetting) : x.least ≤ x.standard := by
  cases x <;> decide

/-- What is compared decides all settings. -/
theorem read_of_comparable {attributes attributes' : QueueAttributes}
    (h : attributes.comparable = attributes'.comparable) (x : QueueSetting) :
    x.read attributes = x.read attributes' := by
  have hfind (d : QueueAttributes) : d.comparable.find? x.key = d.find? x.key := by
    rw [QueueAttributes.comparable, Dict.find?_filter]
    cases x <;> rfl
  have hsame : attributes.find? x.key = attributes'.find? x.key := by
    rw [← hfind attributes, h, hfind]
  rw [read_eq, read_eq, QueueAttributes.setting, QueueAttributes.setting, hsame]

/-! ## Asking -/

/-- **The number that a request asks for**: the last one that it supplies, as its range was checked, or
    the standard one. -/
inductive Asked (limits : Limits) (supplied : List (String × String)) (x : QueueSetting) : Nat → Prop
  | supplied {text : String} {n : Nat} (last : lastValue? supplied x.key = some text)
      (reads : Integer.signed? 64 text = some (n : Int)) (range : x.InRange limits n) :
      Asked limits supplied x n
  | standard (none : lastValue? supplied x.key = none) : Asked limits supplied x x.standard

/-- A request asks for one number only. -/
theorem Asked.unique {limits : Limits} {supplied : List (String × String)} {x : QueueSetting} {n m : Nat}
    (h : x.Asked limits supplied n) (h' : x.Asked limits supplied m) : m = n := by
  cases h with
  | supplied last reads =>
      cases h' with
      | supplied last' reads' =>
          have htext := Option.some.inj (last.symm.trans last')
          subst htext
          have hread := Option.some.inj (reads.symm.trans reads')
          omega
      | standard none => cases last.symm.trans none
  | standard none =>
      cases h' with
      | supplied last' => cases none.symm.trans last'
      | standard => rfl

theorem Asked.least_le {limits : Limits} {supplied : List (String × String)} {x : QueueSetting} {n : Nat}
    (h : x.Asked limits supplied n) : x.least ≤ n := by
  cases h with
  | supplied _ _ range => exact range.1
  | standard => exact x.least_le_standard

/-- The number is supplied with a minus sign in front. -/
def Negated (supplied : List (String × String)) (x : QueueSetting) : Prop :=
  ∃ text, lastValue? supplied x.key = some text ∧ Integer.HasMinus text

theorem checkNumber_ok {name text : String} {least greatest : Nat}
    (h : checkNumber name text least greatest = .ok ()) :
    ∃ n : Nat, Integer.signed? 64 text = some (n : Int) ∧ least ≤ n ∧ n ≤ greatest := by
  unfold checkNumber at h
  split at h
  · cases h
  · next z hread =>
    split at h
    · cases h
    · next hrange =>
      simp only [Bool.or_eq_true, decide_eq_true_eq, not_or, Int.not_lt] at hrange
      obtain ⟨n, rfl⟩ : ∃ n : Nat, z = n := Int.eq_ofNat_of_zero_le (by omega)
      exact ⟨n, hread, by omega, by omega⟩

section

variable {limits : Limits} {caller : Caller} {supplied : List (String × String)} {b b' : Backend}
  {attributes : QueueAttributes}

/-- **From the request to the setting.** What was asked for is in force, unless it is a zero with a minus
    sign, which is read back as the standard value. -/
theorem exists_asked (hlimits : limits.Fits)
    (h : (queueAttributes limits caller supplied).runOn b = (.ok attributes, b')) (x : QueueSetting) :
    ∃ n, x.Asked limits supplied n ∧ (¬ x.Negated supplied → x.read attributes = n) ∧
      (x.Negated supplied → n = 0 ∧ x.read attributes = x.standard) := by
  obtain ⟨hfind, hcheck⟩ := setAttributes_number h (x.numericRange?_key limits)
  rw [x.find?_standard] at hfind
  rw [read_eq, QueueAttributes.setting, hfind]
  cases hlast : lastValue? supplied x.key with
  | none =>
      have hplain : ¬ x.Negated supplied := by
        rintro ⟨text, htext, -⟩
        cases hlast.symm.trans htext
      refine ⟨x.standard, .standard hlast, fun _ => ?_, fun hneg => absurd hneg hplain⟩
      show (Integer.unsigned? 32 (toString x.standard)).getD _ = _
      rw [Integer.unsigned?_toString x.standard_lt]
      rfl
  | some text =>
      obtain ⟨n, hread, hleast, hgreatest⟩ := checkNumber_ok (hcheck text hlast)
      have hfits : n < 1 <<< 32 := Nat.lt_of_le_of_lt hgreatest (hlimits x.limit)
      refine ⟨n, .supplied hlast hread ⟨hleast, hgreatest⟩, fun hplain => ?_, ?_⟩
      · have hminus : ¬ Integer.HasMinus text := fun h => hplain ⟨text, hlast, h⟩
        show (Integer.unsigned? 32 text).getD _ = _
        rw [Integer.unsigned?_of_signed? hread hminus hfits]
        rfl
      · rintro ⟨text', htext', hminus⟩
        cases hlast.symm.trans htext'
        refine ⟨Integer.eq_zero_of_hasMinus hread hminus, ?_⟩
        show (Integer.unsigned? 32 text).getD _ = _
        rw [Integer.unsigned?_of_hasMinus hminus]
        rfl

/-- What is asked for is what is in force, but for a visibility timeout of minus zero: any other setting
    that may be zero is zero by itself. -/
theorem read_eq_asked_iff (hlimits : limits.Fits)
    (h : (queueAttributes limits caller supplied).runOn b = (.ok attributes, b')) {x : QueueSetting}
    {n : Nat} (hasked : x.Asked limits supplied n) :
    x.read attributes = n ↔ ¬ (x = .visibilityTimeout ∧ x.Negated supplied) := by
  obtain ⟨m, hm, hplain, hnegated⟩ := x.exists_asked hlimits h
  obtain rfl := hm.unique hasked
  by_cases hneg : x.Negated supplied
  · obtain ⟨rfl, hread⟩ := hnegated hneg
    have hleast : x.least ≤ 0 := hasked.least_le
    rw [hread]
    cases x with
    | delaySeconds =>
        apply iff_of_true
        · rfl
        · intro h
          cases h.1
    | visibilityTimeout =>
        apply iff_of_false
        · intro h
          cases h
        · intro h
          exact h ⟨rfl, hneg⟩
    | maximumMessageSize | messageRetentionPeriod => cases hleast
  · apply iff_of_true
    · exact hplain hneg
    · intro h
      exact hneg h.2

end

end QueueSetting

/-! ## Queues as they were asked for -/

namespace Service

section

variable {desk : Desk} {caller : Caller} {occasion : Occasion} {name? : Option String}
  {supplied : List (String × String)} {b b' : Backend}

/-- **Settings as asked for.** Behind an answer, unless the queue is untraced, each setting of the queue is
    the number that the request asks for, exactly if this is not a visibility timeout with a minus sign. -/
theorem createQueue_setting_iff {url : String} (hlimits : desk.limits.Fits)
    (h : (createQueue desk caller occasion name? supplied).runOn b = (.ok url, b')) :
    ∃ name attributes b₁, Checked desk caller name? supplied b name attributes b₁ ∧
      (Untraced (occasion.clock 0) ⟨caller.account, name⟩ attributes b₁ b' ∨
        ∃ queue, b'.store.lookup? ⟨caller.account, name⟩ = some queue ∧
          ∀ x : QueueSetting, (∃ n, x.Asked desk.limits supplied n) ∧
            ∀ n, x.Asked desk.limits supplied n →
              (x.read queue.attributes = n ↔ ¬ (x = .visibilityTimeout ∧ x.Negated supplied))) := by
  obtain ⟨name, attributes, b₁, existing?, hc, hplace, -, hagree⟩ := createQueue_ok h
  refine ⟨name, attributes, b₁, hc, ?_⟩
  -- the queue is compared with the attributes of the request, or made with them
  have hqueue : Untraced (occasion.clock 0) ⟨caller.account, name⟩ attributes b₁ b' ∨
      ∃ queue, b'.store.lookup? ⟨caller.account, name⟩ = some queue ∧
        queue.attributes.comparable = attributes.comparable := by
    cases existing? with
    | some queue => exact Or.inr ⟨queue, hplace.lookup?_of_some.2, hagree queue rfl⟩
    | none =>
        rcases hplace.gains_of_none with hgains | ⟨huntraced, -⟩
        · exact Or.inr hgains.matches
        · exact Or.inl huntraced
  rcases hqueue with huntraced | ⟨queue, hlook, hcomparable⟩
  · exact Or.inl huntraced
  · refine Or.inr ⟨queue, hlook, fun x => ⟨?_, fun n hasked => ?_⟩⟩
    · obtain ⟨n, hasked, -⟩ := x.exists_asked hlimits hc.attributes
      exact ⟨n, hasked⟩
    · rw [x.read_of_comparable hcomparable]
      exact x.read_eq_asked_iff hlimits hc.attributes hasked

end

/-- Numbers in several spellings, one of them hidden by a later one. -/
def respelled : List (String × String) :=
  [("DelaySeconds", "5"), ("VisibilityTimeout", "+040"), ("DelaySeconds", "-0")]

/-- All of them are read back as they were asked for, though one has a minus sign. -/
theorem createQueue_setting_respelled :
    ∃ url b' queue, Sample.desk.limits.Fits ∧
      (createQueue Sample.desk Sample.caller Sample.occasion (some "q") respelled).runOn
        (.reliable .empty) = (.ok url, b') ∧
      b'.store.lookup? (Sample.id "q") = some queue ∧ queue.attributes.visibilityTimeout = 40 ∧
      queue.attributes.delaySeconds = 0 ∧
      ∀ (x : QueueSetting) (n : Nat), x.Asked Sample.desk.limits respelled n →
        x.read queue.attributes = n := by
  have hlimits : Sample.desk.limits.Fits := Limits.standard_admissible.fits
  obtain ⟨url, b', queue, hrun, hlook, hvisibility, hdelay⟩ : ∃ url b' queue,
      (createQueue Sample.desk Sample.caller Sample.occasion (some "q") respelled).runOn
        (.reliable .empty) = (.ok url, b') ∧
      b'.store.lookup? (Sample.id "q") = some queue ∧ queue.attributes.visibilityTimeout = 40 ∧
      queue.attributes.delaySeconds = 0 := ⟨_, _, _, rfl, rfl, rfl, rfl⟩
  refine ⟨url, b', queue, hlimits, hrun, hlook, hvisibility, hdelay, fun x n hasked => ?_⟩
  obtain ⟨name, attributes, b₁, hc, hqueue⟩ := createQueue_setting_iff hlimits hrun
  obtain rfl : name = "q" := (Except.ok.inj hc.name).symm
  have hplain : ¬ QueueSetting.visibilityTimeout.Negated respelled := by
    rintro ⟨text, hlast, hminus⟩
    cases hlast
    cases hminus
  rcases hqueue with ⟨taken, b₂, b₃, look, make, again⟩ | ⟨queue', hlook', hread⟩
  · -- an untraced queue would not be there
    have hstore := (overtaken_store look make again).trans hc.store
    rw [hstore] at hlook
    cases hlook
  · obtain rfl : queue = queue' := Option.some.inj (hlook.symm.trans hlook')
    refine ((hread x).2 n hasked).mpr ?_
    rintro ⟨rfl, hnegated⟩
    exact hplain hnegated

/-- A visibility timeout of zero that is written with a minus sign comes to one of thirty seconds. -/
theorem createQueue_setting_negated :
    ¬ ∀ url b', (createQueue Sample.desk Sample.caller Sample.occasion (some "q")
        [("VisibilityTimeout", "-0")]).runOn (.reliable .empty) = (.ok url, b') →
      ∃ queue, b'.store.lookup? (Sample.id "q") = some queue ∧
        ∀ (x : QueueSetting) (n : Nat),
          x.Asked Sample.desk.limits [("VisibilityTimeout", "-0")] n → x.read queue.attributes = n := by
  intro h
  obtain ⟨queue, hlook, hread⟩ := h _ _ rfl
  cases hlook
  have hasked : QueueSetting.visibilityTimeout.Asked Sample.desk.limits [("VisibilityTimeout", "-0")] 0 :=
    .supplied rfl rfl ⟨Nat.le_refl 0, Nat.zero_le _⟩
  have hzero := hread .visibilityTimeout 0 hasked
  cases hzero

end Service

/-! ## Settings in range -/

/-- The store is reached from an empty one by requests that are all served under the same limits. -/
def Store.ReachedUnder (limits : Limits) (s : Store) : Prop :=
  ∃ b₀ turns b, Session b₀ turns b ∧ b₀.store = .empty ∧
    (∀ turn ∈ turns, turn.desk.limits = limits) ∧ b.store = s

section

variable {limits : Limits}

/-- A setting that is not the standard one was asked for, and so it is in range. -/
theorem Store.ReachedUnder.setting {s : Store} (h : s.ReachedUnder limits) (hlimits : limits.Fits)
    {id : QueueId} {queue : Queue} (hqueue : s.lookup? id = some queue) (x : QueueSetting) :
    x.InRange limits (x.read queue.attributes) ∨ x.read queue.attributes = x.standard := by
  obtain ⟨b₀, turns, b, session, hempty, hunder, rfl⟩ := h
  obtain ⟨turn, hmem, name?, supplied, name, b₁, b₂, -, hc, -, -⟩ := session.exists_made hempty hqueue
  have hattributes := hc.attributes
  rw [hunder turn hmem] at hattributes
  obtain ⟨n, hasked, hplain, hnegated⟩ := x.exists_asked hlimits hattributes
  by_cases hneg : x.Negated supplied
  · exact Or.inr (hnegated hneg).2
  · rw [hplain hneg]
    cases hasked with
    | supplied _ _ range => exact Or.inl range
    | standard => exact Or.inr rfl

/-- A queue that was asked for without attributes. -/
theorem exists_reachedUnder_standard (hlimits : limits.Admissible) :
    ∃ (s : Store) (id : QueueId) (queue : Queue), s.ReachedUnder limits ∧ s.lookup? id = some queue ∧
      queue.attributes = .standard := by
  let desk : Desk := { Sample.desk with limits }
  have hlength : 1 ≤ limits.queueNameLength := hlimits.least_le .queueNameLength
  have hvalid : Alphabet.isQueueName limits.queueNameLength "q" = true := by
    apply Alphabet.isQueueName_iff.mpr
    refine ⟨by decide, hlength, ?_⟩
    intro c hc
    obtain rfl : c = 'q' := List.mem_singleton.mp hc
    rfl
  have hname : queueName limits (some "q") = .ok "q" := by
    simp [queueName, hvalid]
  have hc : Checked desk Sample.caller (some "q") [] (.reliable .empty) "q" .standard
      (.reliable .empty) := ⟨hname, rfl⟩
  rcases hserve : (Request.serve desk Sample.caller Sample.occasion (.createQueue (some "q") [])).runOn
    (.reliable .empty) with ⟨outcome, b⟩
  have session : Session (.reliable .empty)
      [{ desk, caller := Sample.caller, occasion := Sample.occasion,
         request := .createQueue (some "q") [], outcome }] b := Session.start.next hserve
  -- nothing is there, so the queue is made
  rw [Request.serve, runOn_map, createQueue_of_checked hc Sample.occasion] at hserve
  cases hserve
  refine ⟨_, Sample.id "q", _, ⟨_, _, _, session, rfl, ?_, rfl⟩, rfl, rfl⟩
  intro turn hmem
  obtain rfl := List.mem_singleton.mp hmem
  rfl

/-- **Settings in range.** Under limits that stay the same, each setting of each queue is in its range or
    has its standard value. All of them are always in range exactly if the standard values are. -/
theorem setting_inRange_iff (hlimits : limits.Admissible) :
    (∀ s : Store, s.ReachedUnder limits → ∀ id queue, s.lookup? id = some queue → ∀ x : QueueSetting,
        x.InRange limits (x.read queue.attributes) ∨ x.read queue.attributes = x.standard) ∧
      ((∀ s : Store, s.ReachedUnder limits → ∀ id queue, s.lookup? id = some queue →
          ∀ x : QueueSetting, x.InRange limits (x.read queue.attributes)) ↔
        ∀ x : QueueSetting, x.standard ≤ limits.get x.limit) := by
  refine ⟨fun s hs id queue hqueue x => hs.setting hlimits.fits hqueue x, ?_, ?_⟩
  · intro h x
    obtain ⟨s, id, queue, hs, hqueue, hstandard⟩ := exists_reachedUnder_standard hlimits
    have hrange := h s hs id queue hqueue x
    have hread : x.read queue.attributes = x.standard := by
      rw [hstandard]
      cases x <;> rfl
    exact hread ▸ hrange.2
  · intro h s hs id queue hqueue x
    rcases hs.setting hlimits.fits hqueue x with hrange | hread
    · exact hrange
    · rw [hread]
      exact ⟨x.least_le_standard, h x⟩

/-- A new service keeps all settings in range. -/
theorem setting_inRange_newService :
    Limits.standard.Admissible ∧ ∀ s : Store, s.ReachedUnder .standard → ∀ id queue,
      s.lookup? id = some queue → ∀ x : QueueSetting,
        x.InRange .standard (x.read queue.attributes) := by
  have hstandard : ∀ x : QueueSetting, x.standard ≤ Limits.standard.get x.limit := by
    intro x
    cases x <;> decide
  exact ⟨Limits.standard_admissible, (setting_inRange_iff Limits.standard_admissible).2.mpr hstandard⟩

/-- The limits of a service that takes messages of a kilobyte at most. -/
def kilobyte : Limits := { Limits.standard with maximumMessageSize := 1024 }

/-- Under such limits a queue that is made without attributes takes larger messages all the same. -/
theorem setting_outOfRange_kilobyte :
    Limits.standard.apply [("max_maximum_message_size", "1024")] = .ok kilobyte ∧
      ¬ ∀ s : Store, s.ReachedUnder kilobyte → ∀ id queue, s.lookup? id = some queue →
        ∀ x : QueueSetting, x.InRange kilobyte (x.read queue.attributes) := by
  have happly : Limits.standard.apply [("max_maximum_message_size", "1024")] = .ok kilobyte := rfl
  refine ⟨happly, fun h => ?_⟩
  obtain ⟨s, id, queue, hs, hqueue, hstandard⟩ :=
    exists_reachedUnder_standard (Limits.standard_admissible.apply happly)
  have hrange := h s hs id queue hqueue .maximumMessageSize
  rw [hstandard] at hrange
  exact absurd hrange.2 (by decide)

end

end QueueService
