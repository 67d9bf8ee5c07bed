import QueueService.Dict.Basic

/-!
# Laws of ordered dictionaries

Each operation is described by what it does to `find?`, and `find?` determines a dictionary
(`ext_find?`), so equal contents are equal values whatever the order of insertion.
-/

namespace QueueService

variable {κ α : Type} [Ord κ] [Std.LawfulEqOrd κ]

/-! ## Lists of entries -/

namespace Entries

theorem find?_cons [DecidableEq κ] (k k' : κ) (v : α) (rest : List (κ × α)) :
    find? k ((k', v) :: rest) = if k = k' then some v else find? k rest := by
  simp only [find?, Std.compare_eq_iff_eq]

theorem find?_insert_self (k : κ) (v : α) (entries : List (κ × α)) :
    find? k (insert k v entries) = some v := by
  induction entries with
  | nil => simp [insert, find?]
  | cons head rest ih =>
    obtain ⟨k', v'⟩ := head
    unfold insert
    split
    · simp [find?]
    · simp [find?]
    · next hgt => simp [find?, hgt, ih]

theorem find?_insert_of_ne {k k' : κ} (h : k' ≠ k) (v : α) (entries : List (κ × α)) :
    find? k' (insert k v entries) = find? k' entries := by
  induction entries with
  | nil => simp [insert, find?, h]
  | cons head rest ih =>
    obtain ⟨k'', v''⟩ := head
    unfold insert
    split
    · simp [find?, h]
    · next heq =>
      have hk : k = k'' := Std.LawfulEqOrd.eq_of_compare heq
      simp [find?, ← hk, h]
    · simp [find?, ih]

theorem find?_erase [DecidableEq κ] (k k' : κ) (entries : List (κ × α)) :
    find? k' (erase k entries) = if k' = k then none else find? k' entries := by
  induction entries with
  | nil => simp [erase, find?]
  | cons head rest ih =>
    obtain ⟨k'', v''⟩ := head
    unfold erase at ih ⊢
    by_cases hk : k = k''
    · subst hk
      simp only [List.filter_cons, Std.compare_self, bne_self_eq_false, Bool.false_eq_true,
        if_false, ih, find?_cons]
      split <;> rfl
    · simp only [List.filter_cons, bne_iff_ne, ne_eq, Std.compare_eq_iff_eq, hk, not_false_eq_true,
        if_true, find?_cons, ih]
      by_cases h1 : k' = k''
      · subst h1
        simp [Ne.symm hk]
      · simp [h1]

theorem find?_filter [DecidableEq κ] (p : κ → Bool) (k : κ) (entries : List (κ × α)) :
    find? k (entries.filter fun e => p e.1) = if p k then find? k entries else none := by
  induction entries with
  | nil => simp [find?]
  | cons head rest ih =>
    obtain ⟨k', v⟩ := head
    rw [List.filter_cons, find?_cons]
    by_cases hk : k = k'
    · subst hk
      split
      · rw [find?_cons, if_pos rfl, if_pos rfl]
      · next hp => rw [ih, if_neg hp]
    · rw [if_neg hk]
      split
      · rw [find?_cons, if_neg hk, ih]
      · exact ih

theorem mem_of_find? {k : κ} {v : α} {entries : List (κ × α)} (h : find? k entries = some v) :
    (k, v) ∈ entries := by
  induction entries with
  | nil => simp [find?] at h
  | cons head rest ih =>
    obtain ⟨k', v'⟩ := head
    simp only [find?, Std.compare_eq_iff_eq] at h
    split at h
    · next hk => simp_all
    · exact List.mem_cons_of_mem _ (ih h)

theorem find?_of_mem {k : κ} {v : α} {entries : List (κ × α)} (ha : Ascending entries)
    (h : (k, v) ∈ entries) : find? k entries = some v := by
  induction entries with
  | nil => simp at h
  | cons head rest ih =>
    obtain ⟨k', v'⟩ := head
    obtain ⟨hhead, hrest⟩ := List.pairwise_cons.mp ha
    rcases List.mem_cons.mp h with h | h
    · obtain ⟨rfl, rfl⟩ := Prod.mk.inj h
      simp [find?]
    · have hne : k ≠ k' := by
        intro hk
        have := hhead _ h
        simp [hk] at this
      simp [find?, hne, ih hrest h]

/-- Storing under a new key adds one entry. -/
theorem insert_perm {k : κ} {entries : List (κ × α)} (h : k ∉ entries.map (·.1)) (v : α) :
    (insert k v entries).Perm ((k, v) :: entries) := by
  induction entries with
  | nil => exact List.Perm.refl _
  | cons head rest ih =>
    obtain ⟨k', v'⟩ := head
    rw [List.map_cons, List.mem_cons, not_or] at h
    obtain ⟨hne, hrest⟩ := h
    unfold insert
    split
    · exact List.Perm.refl _
    · next heq => exact absurd (Std.LawfulEqOrd.eq_of_compare heq) hne
    · exact ((ih hrest).cons _).trans (List.Perm.swap ..)

theorem ext_find? [Std.TransOrd κ] {a b : List (κ × α)} (ha : Ascending a) (hb : Ascending b)
    (h : ∀ k, find? k a = find? k b) : a = b := by
  induction a generalizing b with
  | nil =>
    cases b with
    | nil => rfl
    | cons head rest =>
      have := h head.1
      simp [find?] at this
  | cons head rest ih =>
    obtain ⟨k, v⟩ := head
    obtain ⟨hhead, hrest⟩ := List.pairwise_cons.mp ha
    cases b with
    | nil =>
      have := h k
      simp [find?] at this
    | cons head' rest' =>
      obtain ⟨k', v'⟩ := head'
      obtain ⟨hhead', hrest'⟩ := List.pairwise_cons.mp hb
      have hmem : (k, v) ∈ (k', v') :: rest' :=
        mem_of_find? ((h k).symm.trans (by simp [find?]))
      have hmem' : (k', v') ∈ (k, v) :: rest :=
        mem_of_find? ((h k').trans (by simp [find?]))
      have hkv : (k, v) = (k', v') := by
        rcases List.mem_cons.mp hmem with he | he
        · exact he
        · rcases List.mem_cons.mp hmem' with he' | he'
          · exact he'.symm
          · have h1 := hhead' _ he
            have h2 := hhead _ he'
            have := Std.TransCmp.lt_trans h1 h2
            simp at this
      obtain ⟨rfl, rfl⟩ := Prod.mk.inj hkv
      congr 1
      apply ih hrest hrest'
      intro j
      have hj := h j
      simp only [find?, Std.compare_eq_iff_eq] at hj
      by_cases hjk : j = k
      · subst hjk
        have none_of {l : List (κ × α)} (hl : ∀ e ∈ l, compare j e.1 = .lt) :
            find? j l = none := by
          cases hf : find? j l with
          | none => rfl
          | some w =>
            have := hl _ (mem_of_find? hf)
            simp at this
        rw [none_of hhead, none_of hhead']
      · simpa [hjk] using hj

end Entries

/-! ## Dictionaries -/

namespace Dict

omit [Std.LawfulEqOrd κ] in
@[simp] theorem find?_empty (k : κ) : (empty : Dict κ α).find? k = none := rfl

theorem find?_erase [DecidableEq κ] (d : Dict κ α) (k k' : κ) :
    (d.erase k).find? k' = if k' = k then none else d.find? k' :=
  Entries.find?_erase k k' d.entries

theorem find?_filter [DecidableEq κ] (p : κ → Bool) (d : Dict κ α) (k : κ) :
    (d.filter fun k _ => p k).find? k = if p k then d.find? k else none :=
  Entries.find?_filter p k d.entries

theorem mem_entries_iff {d : Dict κ α} {k : κ} {v : α} :
    (k, v) ∈ d.entries ↔ d.find? k = some v :=
  ⟨Entries.find?_of_mem d.ascending, Entries.mem_of_find?⟩

theorem mem_keys_iff {d : Dict κ α} {k : κ} : k ∈ d.keys ↔ ∃ v, d.find? k = some v := by
  unfold keys
  rw [List.mem_map]
  constructor
  · rintro ⟨⟨k', v⟩, he, rfl⟩
    exact ⟨v, mem_entries_iff.mp he⟩
  · rintro ⟨v, h⟩
    exact ⟨(k, v), mem_entries_iff.mpr h, rfl⟩

variable [Std.TransOrd κ]

@[simp] theorem find?_insert_self (d : Dict κ α) (k : κ) (v : α) :
    (d.insert k v).find? k = some v :=
  Entries.find?_insert_self k v d.entries

theorem find?_insert_of_ne (d : Dict κ α) {k k' : κ} (h : k' ≠ k) (v : α) :
    (d.insert k v).find? k' = d.find? k' :=
  Entries.find?_insert_of_ne h v d.entries

theorem find?_insert [DecidableEq κ] (d : Dict κ α) (k k' : κ) (v : α) :
    (d.insert k v).find? k' = if k' = k then some v else d.find? k' := by
  split
  · next h => rw [h, find?_insert_self]
  · next h => exact find?_insert_of_ne d h v

/-- Dictionaries with the same contents are equal. -/
theorem ext_find? {d e : Dict κ α} (h : ∀ k, d.find? k = e.find? k) : d = e :=
  Dict.ext (Entries.ext_find? d.ascending e.ascending h)

/-- A map of entries under different keys has just these entries. -/
theorem entries_ofList_perm {entries : List (κ × α)} (h : (entries.map (·.1)).Nodup) :
    (ofList entries).entries.Perm entries := by
  suffices hgen : ∀ d : Dict κ α, (∀ e ∈ entries, e.1 ∉ d.keys) →
      (entries.foldl (fun d e => d.insert e.1 e.2) d).entries.Perm (entries ++ d.entries) by
    have hall := hgen empty fun e _ => List.not_mem_nil
    rwa [show (empty : Dict κ α).entries = [] from rfl, List.append_nil] at hall
  induction entries with
  | nil => exact fun d _ => List.Perm.refl _
  | cons first rest ih =>
    intro d hnew
    obtain ⟨hfirst, hrest⟩ := List.nodup_cons.mp h
    have hins : (d.insert first.1 first.2).entries.Perm (first :: d.entries) :=
      Entries.insert_perm (hnew first List.mem_cons_self) first.2
    refine (ih hrest (d.insert first.1 first.2) ?_).trans ?_
    · intro e he hmem
      rcases List.mem_cons.mp ((hins.map (·.1)).mem_iff.mp hmem) with heq | hmem
      · exact hfirst (heq ▸ List.mem_map_of_mem he)
      · exact hnew e (List.mem_cons_of_mem _ he) hmem
    · exact (hins.append_left rest).trans List.perm_middle

theorem mem_keys_insert_iff [DecidableEq κ] {d : Dict κ α} {k k' : κ} {v : α} :
    k ∈ (d.insert k' v).keys ↔ k = k' ∨ k ∈ d.keys := by
  rw [mem_keys_iff, mem_keys_iff, find?_insert]
  by_cases h : k = k' <;> simp [h]

/-- A map has the keys of the entries that it was made of. -/
theorem mem_keys_ofList_iff [DecidableEq κ] {entries : List (κ × α)} {k : κ} :
    k ∈ (ofList entries).keys ↔ k ∈ entries.map (·.1) := by
  suffices hgen : ∀ d : Dict κ α, k ∈ (entries.foldl (fun d e => d.insert e.1 e.2) d).keys ↔
      k ∈ entries.map (·.1) ∨ k ∈ d.keys by
    have hall := hgen empty
    have hnone : k ∉ (empty : Dict κ α).keys := List.not_mem_nil
    rwa [or_iff_left hnone] at hall
  induction entries with
  | nil => intro d; simp
  | cons first rest ih =>
    intro d
    rw [List.foldl_cons, ih, mem_keys_insert_iff, List.map_cons, List.mem_cons, or_assoc,
      or_left_comm]

omit [Std.TransOrd κ] in
theorem nodup_keys (d : Dict κ α) : (d.entries.map (·.1)).Nodup := by
  refine List.pairwise_map.mpr (d.ascending.imp ?_)
  intro a b hlt heq
  rw [heq, Std.compare_self] at hlt
  cases hlt

/-- A map is made of its entries. -/
@[simp] theorem ofList_entries (d : Dict κ α) : ofList d.entries = d := by
  apply ext_find?
  intro k
  apply Option.ext
  intro v
  rw [← mem_entries_iff, ← mem_entries_iff, (entries_ofList_perm d.nodup_keys).mem_iff]

/-- The order of entries under different keys does not matter. -/
theorem ofList_eq_of_perm {entries entries' : List (κ × α)} (hperm : entries.Perm entries')
    (h : (entries.map (·.1)).Nodup) : ofList entries = ofList entries' := by
  have h' : (entries'.map (·.1)).Nodup := (hperm.map _).nodup_iff.mp h
  apply ext_find?
  intro k
  apply Option.ext
  intro v
  rw [← mem_entries_iff, ← mem_entries_iff, (entries_ofList_perm h).mem_iff, hperm.mem_iff,
    (entries_ofList_perm h').mem_iff]

/-- The same keys with other values. -/
def map {β : Type} (f : α → β) (d : Dict κ α) : Dict κ β where
  entries := d.entries.map fun e => (e.1, f e.2)
  ascending := by
    unfold Entries.Ascending
    rw [List.pairwise_map]
    exact d.ascending

omit [Std.TransOrd κ] in
theorem find?_map {β : Type} (f : α → β) (d : Dict κ α) {k : κ} {v : α} (h : d.find? k = some v) :
    (d.map f).find? k = some (f v) := by
  rw [← mem_entries_iff] at h ⊢
  exact List.mem_map_of_mem h

end Dict

end QueueService
