import QueueService.Proofs.Store.Effect
import QueueService.Queue.Id

/-!
# Listing queues

The queues of a listing stand side by side in the store: it looks for the first entry that is not below
the text asked for and goes on for as long as the names begin with it. This finds every queue of the
account whose name begins with the text (`list_eq_filter`), because the order of names keeps the names
with one beginning together (`prefix_of_between`).
-/

namespace QueueService.Store

/-! ## Names with one beginning -/

/-- What lies between a text and a text that begins with it begins with it too. -/
theorem prefix_of_between {start mid last : List Char} (hmid : ¬ mid < start) (hlast : mid < last)
    (hstart : start <+: last) : start <+: mid := by
  induction start generalizing mid last with
  | nil => exact List.nil_prefix
  | cons c start ih =>
      obtain ⟨rest, rfl⟩ := hstart
      cases mid with
      | nil => exact absurd (List.nil_lt_cons c start) hmid
      | cons d mid =>
          rw [List.cons_append, List.cons_lt_cons_iff] at hlast
          rw [List.cons_lt_cons_iff, not_or, not_and] at hmid
          -- neither below nor above: the two begin with the same character
          obtain rfl : d = c := by
            rcases hlast with hlt | ⟨heq, -⟩
            · exact absurd hlt hmid.1
            · exact heq
          rcases hlast with hlt | ⟨-, hlt⟩
          · exact absurd hlt hmid.1
          · exact List.cons_prefix_cons.mpr ⟨rfl, ih (hmid.2 rfl) hlt (List.prefix_append _ _)⟩

/-! ## Side by side -/

section SideBySide

variable {α : Type} {R : α → α → Prop} {below chosen : α → Bool} {entries : List α}

/-- Where nothing chosen stands behind something that is not, all that is chosen stands in front. -/
theorem takeWhile_eq_filter (hsorted : entries.Pairwise R)
    (hconvex : ∀ x ∈ entries, ∀ y ∈ entries, R x y → chosen y = true → chosen x = true) :
    entries.takeWhile chosen = entries.filter chosen := by
  induction entries with
  | nil => rfl
  | cons first rest ih =>
      obtain ⟨hfirst, hrest⟩ := List.pairwise_cons.mp hsorted
      have hih := ih hrest fun x hx y hy =>
        hconvex x (List.mem_cons_of_mem _ hx) y (List.mem_cons_of_mem _ hy)
      by_cases hchosen : chosen first = true
      · rw [List.takeWhile_cons_of_pos hchosen, List.filter_cons_of_pos hchosen, hih]
      · rw [List.takeWhile_cons_of_neg hchosen, List.filter_cons_of_neg hchosen, eq_comm,
          List.filter_eq_nil_iff]
        intro y hy hy'
        exact hchosen (hconvex first List.mem_cons_self y (List.mem_cons_of_mem _ hy) (hfirst y hy) hy')

/-- Passing over what lies below passes over nothing that is chosen. -/
theorem takeWhile_dropWhile_eq_filter (hsorted : entries.Pairwise R)
    (hbelow : ∀ x ∈ entries, chosen x = true → below x = false)
    (hup : ∀ x ∈ entries, ∀ y ∈ entries, R x y → below x = false → below y = false)
    (hconvex : ∀ x ∈ entries, ∀ y ∈ entries, R x y → below x = false → chosen y = true →
      chosen x = true) :
    (entries.dropWhile below).takeWhile chosen = entries.filter chosen := by
  induction entries with
  | nil => rfl
  | cons first rest ih =>
      obtain ⟨hfirst, hrest⟩ := List.pairwise_cons.mp hsorted
      by_cases hlow : below first = true
      · -- the first entry is passed over, and it is not chosen
        have hnot : ¬ chosen first = true := by
          intro hchosen
          rw [hbelow first List.mem_cons_self hchosen] at hlow
          cases hlow
        rw [List.dropWhile_cons_of_pos hlow, List.filter_cons_of_neg hnot]
        apply ih hrest
        · exact fun x hx => hbelow x (List.mem_cons_of_mem _ hx)
        · exact fun x hx y hy => hup x (List.mem_cons_of_mem _ hx) y (List.mem_cons_of_mem _ hy)
        · exact fun x hx y hy => hconvex x (List.mem_cons_of_mem _ hx) y (List.mem_cons_of_mem _ hy)
      · -- from here on nothing lies below
        have hhigh : ∀ x ∈ first :: rest, below x = false := by
          intro x hx
          rcases List.mem_cons.mp hx with rfl | hx
          · exact Bool.eq_false_iff.mpr hlow
          · exact hup first List.mem_cons_self x (List.mem_cons_of_mem _ hx) (hfirst x hx)
              (Bool.eq_false_iff.mpr hlow)
        rw [List.dropWhile_cons_of_neg hlow]
        exact takeWhile_eq_filter hsorted fun x hx y hy hxy => hconvex x hx y hy hxy (hhigh x hx)

end SideBySide

/-! ## The order of identities -/

theorem compare_id_lt {id id' : QueueId} : compare id id' = .lt ↔
    compare id.account id'.account = .lt ∨
      id.account = id'.account ∧ compare id.name id'.name = .lt := by
  show (compare id.account id'.account).then (compare id.name id'.name) = .lt ↔ _
  rw [Ordering.then_eq_lt, Std.compare_eq_iff_eq]

theorem compare_text_lt {a b : String} : compare a b = .lt ↔ a.toList < b.toList := by
  rw [← String.lt_iff]
  exact compareOfLessAndEq_eq_lt

/-- A text is not above what begins with it. -/
theorem not_lt_of_prefix {start text : List Char} (h : start <+: text) : ¬ text < start := by
  obtain ⟨rest, rfl⟩ := h
  induction start with
  | nil => exact List.not_lt_nil _
  | cons c start ih =>
      rw [List.cons_append, List.cons_lt_cons_iff]
      rintro (hlt | ⟨-, hlt⟩)
      · exact Char.lt_irrefl c hlt
      · exact ih hlt

/-! ## Listings -/

/-- Whether a queue belongs into a listing. -/
def isListed (account start : String) (id : QueueId) : Bool :=
  id.account == account && start.toList.isPrefixOf id.name.toList

theorem isListed_iff {account start : String} {id : QueueId} :
    isListed account start id = true ↔ id.account = account ∧ start.toList <+: id.name.toList := by
  rw [isListed, Bool.and_eq_true, beq_iff_eq, List.isPrefixOf_iff_prefix]

/-- **A listing is complete.** It has the records of all queues of the account whose names begin with the
    text, in the order of their names. -/
theorem list_eq_filter (s : Store) (account start : String) :
    s.list account start =
      (s.queues.entries.filter fun e => isListed account start e.1).map fun e => e.2.queue := by
  show List.map _ (((s.queues.entries.dropWhile fun e => compare e.1 ⟨account, start⟩ == .lt).takeWhile
    fun e => isListed account start e.1)) = _
  rw [takeWhile_dropWhile_eq_filter s.queues.ascending]
  · intro e he hlisted
    obtain ⟨haccount, hstart⟩ := isListed_iff.mp hlisted
    rw [beq_eq_false_iff_ne, ne_eq, compare_id_lt, haccount]
    rintro (hlt | ⟨-, hlt⟩)
    · rw [Std.compare_self] at hlt
      cases hlt
    · exact not_lt_of_prefix hstart (compare_text_lt.mp hlt)
  · intro e he e' he' hlt hhigh
    rw [beq_eq_false_iff_ne] at hhigh ⊢
    exact fun hlow => hhigh (Std.TransCmp.lt_trans hlt hlow)
  · intro e he e' he' hlt hhigh hlisted
    obtain ⟨haccount, hstart⟩ := isListed_iff.mp hlisted
    rw [beq_eq_false_iff_ne, ne_eq, compare_id_lt, not_or, not_and] at hhigh
    rw [compare_id_lt, haccount] at hlt
    -- an entry that is not below the text and not above the account is of the account
    rcases hlt with hlt | ⟨hsame, hlt⟩
    · exact absurd hlt hhigh.1
    · refine isListed_iff.mpr ⟨hsame, prefix_of_between ?_ (compare_text_lt.mp hlt) hstart⟩
      exact fun hlow => hhigh.2 hsame (compare_text_lt.mpr hlow)

end QueueService.Store
