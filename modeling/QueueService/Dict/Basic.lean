/-!
# Ordered dictionaries

A `Dict` is a finite map kept as the list of its entries in ascending order of their keys, so that
each map has one representation and its entries are read back in key order. Text keys are ordered
by code point, which is also the byte order of their UTF-8 form.

## Contents
- `Entries`: looking up, inserting and erasing in a bare list of entries.
- `Dict`: the list together with its order, and the operations on it.
-/

namespace QueueService

/-! ## Lists of entries -/

namespace Entries

variable {κ α : Type} [Ord κ]

/-- The value stored under a key. -/
def find? (k : κ) : List (κ × α) → Option α
  | [] => none
  | (k', v) :: rest => if compare k k' = .eq then some v else find? k rest

/-- Store a value under a key, in place of the value it had. -/
def insert (k : κ) (v : α) : List (κ × α) → List (κ × α)
  | [] => [(k, v)]
  | (k', v') :: rest =>
    match compare k k' with
    | .lt => (k, v) :: (k', v') :: rest
    | .eq => (k, v) :: rest
    | .gt => (k', v') :: insert k v rest

/-- Drop the entry of a key. -/
def erase (k : κ) (entries : List (κ × α)) : List (κ × α) :=
  entries.filter fun e => compare k e.1 != .eq

/-- The entries stand in strictly ascending order of their keys. -/
def Ascending (entries : List (κ × α)) : Prop :=
  entries.Pairwise fun a b => compare a.1 b.1 = .lt

theorem mem_insert {k : κ} {v : α} {entries : List (κ × α)} {e : κ × α}
    (h : e ∈ insert k v entries) : e = (k, v) ∨ e ∈ entries := by
  induction entries with
  | nil => simpa [insert] using h
  | cons head rest ih =>
    obtain ⟨k', v'⟩ := head
    unfold insert at h
    split at h
    · simpa using h
    · rcases List.mem_cons.mp h with h | h
      · exact .inl h
      · exact .inr (List.mem_cons_of_mem _ h)
    · rcases List.mem_cons.mp h with h | h
      · exact .inr (h ▸ List.mem_cons_self)
      · exact (ih h).imp id (List.mem_cons_of_mem _)

theorem ascending_insert [Std.TransOrd κ] [Std.LawfulEqOrd κ] (k : κ) (v : α)
    {entries : List (κ × α)} (h : Ascending entries) : Ascending (insert k v entries) := by
  induction entries with
  | nil => exact List.pairwise_singleton _ _
  | cons head rest ih =>
    obtain ⟨k', v'⟩ := head
    obtain ⟨hhead, hrest⟩ := List.pairwise_cons.mp h
    unfold insert
    split
    · next hlt =>
      refine List.pairwise_cons.mpr ⟨?_, h⟩
      intro e he
      rcases List.mem_cons.mp he with rfl | he
      · exact hlt
      · exact Std.TransCmp.lt_trans hlt (hhead e he)
    · next heq =>
      have hk : k = k' := Std.LawfulEqOrd.eq_of_compare heq
      exact List.pairwise_cons.mpr ⟨fun e he => hk ▸ hhead e he, hrest⟩
    · next hgt =>
      refine List.pairwise_cons.mpr ⟨?_, ih hrest⟩
      intro e he
      rcases mem_insert he with rfl | he
      · exact Std.OrientedCmp.gt_iff_lt.mp hgt
      · exact hhead e he

theorem ascending_filter (p : κ × α → Bool) {entries : List (κ × α)} (h : Ascending entries) :
    Ascending (entries.filter p) :=
  List.Pairwise.sublist List.filter_sublist h

end Entries

/-! ## Dictionaries -/

/-- A finite map whose entries stand in ascending order of their keys. -/
structure Dict (κ : Type) (α : Type) [Ord κ] where
  entries : List (κ × α)
  ascending : Entries.Ascending entries

namespace Dict

variable {κ α : Type} [Ord κ]

theorem ext {d e : Dict κ α} (h : d.entries = e.entries) : d = e := by
  cases d; cases e; simp_all

instance [DecidableEq κ] [DecidableEq α] : DecidableEq (Dict κ α) := fun d e =>
  decidable_of_iff (d.entries = e.entries) ⟨ext, fun h => h ▸ rfl⟩

/-- The map without entries. -/
def empty : Dict κ α := ⟨[], List.Pairwise.nil⟩

instance : Inhabited (Dict κ α) := ⟨empty⟩

/-- The value stored under a key. -/
def find? (d : Dict κ α) (k : κ) : Option α := Entries.find? k d.entries

/-- Whether a key has a value. -/
def contains (d : Dict κ α) (k : κ) : Bool := (d.find? k).isSome

/-- The keys, in ascending order. -/
def keys (d : Dict κ α) : List κ := d.entries.map (·.1)

/-- Whether there is no entry. -/
def isEmpty (d : Dict κ α) : Bool := d.entries.isEmpty

/-- Keep the entries that satisfy `p`. -/
def filter (p : κ → α → Bool) (d : Dict κ α) : Dict κ α :=
  ⟨d.entries.filter fun e => p e.1 e.2, Entries.ascending_filter _ d.ascending⟩

/-- Drop the entry of a key. -/
def erase (d : Dict κ α) (k : κ) : Dict κ α :=
  ⟨Entries.erase k d.entries, Entries.ascending_filter _ d.ascending⟩

variable [Std.TransOrd κ] [Std.LawfulEqOrd κ]

/-- Store a value under a key, in place of the value it had. -/
def insert (d : Dict κ α) (k : κ) (v : α) : Dict κ α :=
  ⟨Entries.insert k v d.entries, Entries.ascending_insert k v d.ascending⟩

/-- The map of a list of entries; the last entry of a key counts. -/
def ofList (entries : List (κ × α)) : Dict κ α :=
  entries.foldl (fun d e => d.insert e.1 e.2) empty

end Dict

end QueueService
