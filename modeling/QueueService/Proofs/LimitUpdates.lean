import QueueService.Limits
import QueueService.Proofs.Check

/-!
# Updates of the limits

What lists of updates do to the limits in force. A list is read from the front, up to the first update that
is at fault, which refuses all of it. Otherwise each limit has the number that is given for it last, so that
the order of the list counts only for keys that occur twice.

* `Limits.apply_decides` — which lists are refused, and with which error.
* `Limits.overlay_of_apply` — what the limits are behind a list that is not.
* `Limits.publish_outcome` — the limits in force behind one list, behind the same list in another order, and
  behind any number of lists.
-/

namespace QueueService.Limits

/-! ## Single updates -/

/-- **A sound update** gives a limit a number. It has the key of the limit, and up to blanks at its ends its
    value spells a number of 32 bits that is not below the least one. -/
structure Gives (update : String × String) (l : Limit) (n : Nat) : Prop where
  named : l.key = update.1
  spelled : Integer.Spells (Blank.trim update.2).toList n
  fits : n < 1 <<< 32
  least_le : l.least ≤ n

/-- **What is wrong with an update.** -/
inductive Faulty (update : String × String) : Error → Prop
  | unknownKey (unknown : ∀ l : Limit, l.key ≠ update.1) : Faulty update (.unknownKey update.1)
  | notANumber {l : Limit} (named : l.key = update.1)
      (unread : ∀ n, Integer.Spells (Blank.trim update.2).toList n → ¬ n < 1 <<< 32) :
      Faulty update (.notANumber l update.2)
  | tooSmall {l : Limit} {n : Nat} (named : l.key = update.1)
      (spelled : Integer.Spells (Blank.trim update.2).toList n) (fits : n < 1 <<< 32)
      (small : n < l.least) : Faulty update (.tooSmall l update.2)

section Update

variable {update : String × String} {l : Limit} {n : Nat}

theorem unsigned?_trim_eq_none_iff {value : String} :
    Integer.unsigned? 32 (Blank.trim value) = none ↔
      ∀ n, Integer.Spells (Blank.trim value).toList n → ¬ n < 1 <<< 32 := by
  rw [Option.eq_none_iff_forall_ne_some]
  refine forall_congr' fun n => ?_
  rw [Ne, Integer.unsigned?_eq_some_iff, not_and]

theorem readUpdate_eq_ok_iff : readUpdate update.1 update.2 = .ok (l, n) ↔ Gives update l n := by
  constructor
  · intro h
    obtain ⟨hkey, hread, hleast⟩ := readUpdate_ok h
    obtain ⟨hspelled, hfits⟩ := Integer.unsigned?_eq_some_iff.mp hread
    exact ⟨Limit.ofKey?_eq_some_iff.mp hkey, hspelled, hfits, hleast⟩
  · intro h
    have hkey := Limit.ofKey?_eq_some_iff.mpr h.named
    have hread := Integer.unsigned?_eq_some_iff.mpr ⟨h.spelled, h.fits⟩
    simp only [readUpdate, hkey, hread, if_neg (Nat.not_lt_of_le h.least_le)]

/-- An update is sound, or something is wrong with it. -/
theorem readUpdate_decides (update : String × String) :
    Decides (readUpdate update.1 update.2) (∃ l n, Gives update l n) (Faulty update) where
  ok := fun ⟨l, n, h⟩ => ⟨(l, n), readUpdate_eq_ok_iff.mpr h⟩
  error := by
    intro e h
    cases h with
    | unknownKey unknown =>
        have hkey : Limit.ofKey? update.1 = none :=
          Option.eq_none_iff_forall_ne_some.mpr fun l hl => unknown l (Limit.ofKey?_eq_some_iff.mp hl)
        simp only [readUpdate, hkey]
    | notANumber named unread =>
        have hkey := Limit.ofKey?_eq_some_iff.mpr named
        simp only [readUpdate, hkey, unsigned?_trim_eq_none_iff.mpr unread]
    | tooSmall named spelled fits small =>
        have hkey := Limit.ofKey?_eq_some_iff.mpr named
        have hread := Integer.unsigned?_eq_some_iff.mpr ⟨spelled, fits⟩
        simp only [readUpdate, hkey, hread, if_pos small]
  total := by
    by_cases hkey : ∃ l : Limit, l.key = update.1
    · obtain ⟨l, hl⟩ := hkey
      cases hread : Integer.unsigned? 32 (Blank.trim update.2) with
      | none => exact .inr ⟨_, .notANumber hl (unsigned?_trim_eq_none_iff.mp hread)⟩
      | some n =>
          obtain ⟨hspelled, hfits⟩ := Integer.unsigned?_eq_some_iff.mp hread
          by_cases hsmall : n < l.least
          · exact .inr ⟨_, .tooSmall hl hspelled hfits hsmall⟩
          · exact .inl ⟨l, n, hl, hspelled, hfits, Nat.le_of_not_lt hsmall⟩
    · exact .inr ⟨_, .unknownKey fun l hl => hkey ⟨l, hl⟩⟩

end Update

/-! ## Lists of updates -/

/-- Every update of a list is sound. -/
def Sound (updates : List (String × String)) : Prop := ∀ update ∈ updates, ∃ l n, Gives update l n

/-- **The first fault of a list:** what is wrong with an update that stands behind sound ones. -/
def FirstFault (updates : List (String × String)) (e : Error) : Prop :=
  ∃ before update after, updates = before ++ update :: after ∧ Sound before ∧ Faulty update e

/-- **Limits with updates laid over them.** A limit whose key occurs has the number that its last value
    spells, and the others are as they were. -/
structure Overlay (limits : Limits) (updates : List (String × String)) (next : Limits) : Prop where
  last : ∀ (l : Limit) before value after, updates = before ++ (l.key, value) :: after →
    l.key ∉ after.map (·.1) → Integer.Spells (Blank.trim value).toList (next.get l)
  kept : ∀ l : Limit, l.key ∉ updates.map (·.1) → next.get l = limits.get l

section Apply

variable {limits next : Limits} {updates updates' : List (String × String)}

theorem apply_cons (limits : Limits) (update : String × String) (rest : List (String × String)) :
    limits.apply (update :: rest) =
      readUpdate update.1 update.2 >>= fun given => (limits.set given.1 given.2).apply rest := by
  obtain ⟨key, value⟩ := update
  rw [apply]
  cases readUpdate key value <;> rfl

theorem sound_cons_iff {update : String × String} {rest : List (String × String)} :
    Sound (update :: rest) ↔ (∃ l n, Gives update l n) ∧ Sound rest := List.forall_mem_cons

theorem not_firstFault_nil (e : Error) : ¬ FirstFault [] e := by
  rintro ⟨before, update, after, heq, -⟩
  exact List.cons_ne_nil _ _ (List.append_eq_nil_iff.mp heq.symm).2

theorem firstFault_cons_iff {update : String × String} {rest : List (String × String)} {e : Error} :
    FirstFault (update :: rest) e ↔
      Faulty update e ∨ (∃ l n, Gives update l n) ∧ FirstFault rest e := by
  constructor
  · rintro ⟨before, update', after, heq, hsound, hfault⟩
    cases before with
    | nil =>
        cases heq
        exact .inl hfault
    | cons first before =>
        cases heq
        obtain ⟨hfirst, hbefore⟩ := sound_cons_iff.mp hsound
        exact .inr ⟨hfirst, before, update', after, rfl, hbefore, hfault⟩
  · rintro (hfault | ⟨hfirst, before, update', after, rfl, hbefore, hfault⟩)
    · exact ⟨[], update, rest, rfl, List.forall_mem_nil _, hfault⟩
    · exact ⟨update :: before, update', after, rfl, sound_cons_iff.mpr ⟨hfirst, hbefore⟩, hfault⟩

/-- A list has a first fault if it has any. -/
theorem exists_firstFault_iff :
    (∃ e, FirstFault updates e) ↔ ∃ update ∈ updates, ∃ e, Faulty update e := by
  constructor
  · rintro ⟨e, before, update, after, rfl, -, hfault⟩
    exact ⟨update, List.mem_append_right _ List.mem_cons_self, e, hfault⟩
  · rintro ⟨update, hupdate, hfault⟩
    induction updates with
    | nil => cases hupdate
    | cons first rest ih =>
        rcases (readUpdate_decides first).total with hfirst | ⟨e, he⟩
        · rcases List.mem_cons.mp hupdate with rfl | hrest
          · obtain ⟨e, he⟩ := hfault
            exact ⟨e, firstFault_cons_iff.mpr (.inl he)⟩
          · obtain ⟨e, he⟩ := ih hrest
            exact ⟨e, firstFault_cons_iff.mpr (.inr ⟨hfirst, he⟩)⟩
        · exact ⟨e, firstFault_cons_iff.mpr (.inl he)⟩

/-- **Which lists are refused,** and with which error. It does not depend on the limits in force. -/
theorem apply_decides (limits : Limits) (updates : List (String × String)) :
    Decides (limits.apply updates) (Sound updates) (FirstFault updates) := by
  induction updates generalizing limits with
  | nil =>
      exact ⟨fun _ => ⟨limits, rfl⟩, fun e h => absurd h (not_firstFault_nil e),
        .inl (List.forall_mem_nil _)⟩
  | cons update rest ih =>
      rw [apply_cons]
      exact ((readUpdate_decides update).bind fun given _ => ih (limits.set given.1 given.2)).congr
        sound_cons_iff.symm fun _ => firstFault_cons_iff.symm

/-! ### What the others come to -/

/-- A list that is not refused is laid over the limits. -/
theorem overlay_of_apply (h : limits.apply updates = .ok next) : Overlay limits updates next := by
  induction updates generalizing limits with
  | nil =>
      cases h
      exact ⟨fun l before value after heq _ =>
        absurd (List.append_eq_nil_iff.mp heq.symm).2 (List.cons_ne_nil _ _), fun _ _ => rfl⟩
  | cons update rest ih =>
      rw [apply_cons] at h
      obtain ⟨⟨l₀, n₀⟩, hread, h⟩ := exceptBind_ok h
      have hgives := readUpdate_eq_ok_iff.mp hread
      have hrest := ih h
      constructor
      · intro l before value after heq hafter
        cases before with
        | nil =>
            -- the update in front is the last one with its key
            cases heq
            obtain rfl := Limit.key_inj hgives.named
            rw [hrest.kept l₀ hafter, get_set, if_pos rfl]
            exact hgives.spelled
        | cons first before =>
            cases heq
            exact hrest.last l before value after rfl hafter
      · intro l hl
        rw [List.map_cons, List.mem_cons, not_or] at hl
        rw [hrest.kept l hl.2, get_set, if_neg]
        rintro rfl
        exact hl.1 hgives.named

/-- A key that occurs has a last occurrence. -/
theorem exists_last {key : String} (h : key ∈ updates.map (·.1)) :
    ∃ before value after, updates = before ++ (key, value) :: after ∧ key ∉ after.map (·.1) := by
  induction updates with
  | nil => cases h
  | cons update rest ih =>
      by_cases hrest : key ∈ rest.map (·.1)
      · obtain ⟨before, value, after, rfl, hafter⟩ := ih hrest
        exact ⟨update :: before, value, after, rfl, hafter⟩
      · obtain ⟨key', value⟩ := update
        obtain rfl := (List.mem_cons.mp h).resolve_right hrest
        exact ⟨[], value, rest, rfl, hrest⟩

theorem Overlay.unique {next' : Limits} (h : Overlay limits updates next)
    (h' : Overlay limits updates next') : next = next' := by
  refine ext_get fun l => ?_
  by_cases hl : l.key ∈ updates.map (·.1)
  · obtain ⟨before, value, after, heq, hafter⟩ := exists_last hl
    exact (h.last l before value after heq hafter).unique (h'.last l before value after heq hafter)
  · rw [h.kept l hl, h'.kept l hl]

/-! ### Other orders -/

theorem Sound.of_perm (h : Sound updates) (hperm : updates.Perm updates') : Sound updates' :=
  fun update hupdate => h update (hperm.mem_iff.mpr hupdate)

/-- Where no key occurs twice, it does not matter where an update stands. -/
theorem Overlay.of_perm (h : Overlay limits updates next) (hperm : updates.Perm updates')
    (hkeys : (updates.map (·.1)).Nodup) : Overlay limits updates' next where
  last := by
    rintro l before value after rfl -
    have hmem : (l.key, value) ∈ updates := hperm.mem_iff.mpr (List.mem_append_right _ List.mem_cons_self)
    obtain ⟨before', after', rfl⟩ := List.append_of_mem hmem
    rw [List.map_append, List.map_cons] at hkeys
    have hafter := (List.nodup_cons.mp (List.nodup_append.mp hkeys).2.1).1
    exact h.last l before' value after' rfl hafter
  kept l hl := h.kept l fun hmem => hl ((hperm.map _).mem_iff.mp hmem)

/-- **Lists in another order** come to the same, where no key occurs twice. -/
theorem apply_perm (limits : Limits) (hperm : updates.Perm updates')
    (hkeys : (updates.map (·.1)).Nodup) :
    (limits.apply updates').toOption = (limits.apply updates).toOption := by
  have hdecides := apply_decides limits updates
  have hdecides' := apply_decides limits updates'
  cases hanswer : limits.apply updates with
  | ok next =>
      obtain ⟨next', hnext'⟩ := hdecides'.ok ((hdecides.ok_iff.mp ⟨next, hanswer⟩).of_perm hperm)
      have hoverlay := (overlay_of_apply hanswer).of_perm hperm hkeys
      rw [hnext', (overlay_of_apply hnext').unique hoverlay]
  | error e =>
      cases hanswer' : limits.apply updates' with
      | error e' => rfl
      | ok next' =>
          obtain ⟨next, hnext⟩ := hdecides.ok ((hdecides'.ok_iff.mp ⟨next', hanswer'⟩).of_perm hperm.symm)
          cases hanswer.symm.trans hnext

end Apply

/-! ## Limits in force -/

/-- **Putting a list in force,** and what it may come to. -/
inductive Publication (limits : Limits) (updates : List (String × String)) :
    Except Error Limits → Limits → Prop
  /-- A list with a fault is answered with the first one, and nothing changes. -/
  | refused {e : Error} (fault : FirstFault updates e) : Publication limits updates (.error e) limits
  /-- A list of sound updates is laid over the limits. -/
  | published {next : Limits} (sound : Sound updates) (overlay : Overlay limits updates next) :
      Publication limits updates (.ok next) next

/-- The limits in force behind a sequence of lists. -/
def publishAll (limits : Limits) (lists : List (List (String × String))) : Limits :=
  lists.foldl (fun limits updates => (limits.publish updates).2) limits

theorem publish_eq_iff {limits after : Limits} {updates : List (String × String)}
    {answer : Except Error Limits} :
    limits.publish updates = (answer, after) ↔ Publication limits updates answer after := by
  have hdecides := apply_decides limits updates
  constructor
  · intro h
    unfold publish at h
    split at h
    · next happly =>
      cases h
      exact .published (hdecides.ok_iff.mp ⟨_, happly⟩) (overlay_of_apply happly)
    · next happly =>
      cases h
      exact .refused (hdecides.error_iff.mp happly)
  · intro h
    cases h with
    | refused fault => rw [publish, hdecides.error _ fault]
    | published sound overlay =>
        obtain ⟨next, happly⟩ := hdecides.ok sound
        rw [publish, happly, (overlay_of_apply happly).unique overlay]

theorem publish_fst (limits : Limits) (updates : List (String × String)) :
    (limits.publish updates).1 = limits.apply updates := by
  unfold publish
  cases limits.apply updates <;> rfl

theorem publish_snd (limits : Limits) (updates : List (String × String)) :
    (limits.publish updates).2 = (limits.apply updates).toOption.getD limits := by
  unfold publish
  cases limits.apply updates <;> rfl

/-- One list keeps the limits admissible, refused or not. -/
theorem Admissible.publish {limits : Limits} (h : limits.Admissible) (updates : List (String × String)) :
    (limits.publish updates).2.Admissible := by
  unfold Limits.publish
  split
  · next happly => exact h.apply happly
  · exact h

theorem Admissible.publishAll {limits : Limits} (h : limits.Admissible)
    (lists : List (List (String × String))) : (limits.publishAll lists).Admissible := by
  induction lists generalizing limits with
  | nil => exact h
  | cons updates lists ih => exact ih (h.publish updates)

/-- **Updates of the limits.** A list of updates is refused if and only if something is wrong with one of
    them; the answer is then what is wrong with the first such update, and the limits in force stay. Otherwise
    they are the limits from before with the updates laid over them. Where no key occurs twice, the same
    updates in another order are refused or not as before, and come to the same limits. And whatever lists
    come one after the other, the limits in force are always admissible. -/
theorem publish_outcome (limits : Limits) (updates : List (String × String)) :
    ((∃ e, (limits.publish updates).1 = .error e) ↔ ∃ update ∈ updates, ∃ e, Faulty update e) ∧
    (∀ answer after, limits.publish updates = (answer, after) ↔
      Publication limits updates answer after) ∧
    (∀ updates', updates.Perm updates' → (updates.map (·.1)).Nodup →
      (limits.publish updates').1.toOption = (limits.publish updates).1.toOption ∧
      (limits.publish updates').2 = (limits.publish updates).2) ∧
    ∀ lists, (standard.publishAll lists).Admissible := by
  refine ⟨?_, fun _ _ => publish_eq_iff, ?_, standard_admissible.publishAll⟩
  · rw [publish_fst, ← exists_firstFault_iff]
    exact exists_congr fun _ => (apply_decides limits updates).error_iff
  · intro updates' hperm hkeys
    have hsame := apply_perm limits hperm hkeys
    rw [publish_fst, publish_fst, publish_snd, publish_snd, hsame]
    exact ⟨rfl, rfl⟩

/-- The last value of a key counts. A sign in front of a number does not, nor do zeros and blanks. -/
example :
    standard.publish [("max_delay_seconds", "60"), ("max_delay_seconds", " +030\n")] =
      (.ok { standard with delaySeconds := 30 }, { standard with delaySeconds := 30 }) := rfl

end QueueService.Limits
