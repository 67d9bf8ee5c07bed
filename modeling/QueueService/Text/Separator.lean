/-!
# Separators

Texts and byte strings are cut at the first separator in them. What stands in front of it has none, and what
is left begins with it; and a list that is put together that way is cut again where it was joined.
-/

namespace QueueService.Separator

section Cut

variable {α : Type} [BEq α] [LawfulBEq α] {a b : α} {front rest l : List α}

theorem notMem_takeWhile (a : α) (l : List α) : a ∉ l.takeWhile (· != a) := by
  intro hmem
  have hne := List.all_eq_true.mp List.all_takeWhile a hmem
  simp at hne

/-- Nothing is left, or what is left begins with the separator. -/
theorem eq_of_dropWhile (h : l.dropWhile (· != a) = b :: rest) : b = a := by
  have hhead := List.head?_dropWhile_not (fun c => c != a) l
  rw [h] at hhead
  simpa using hhead

theorem bne_of_notMem (h : a ∉ front) : ∀ c ∈ front, (c != a) = true := by
  intro c hc
  rw [bne_iff_ne]
  rintro rfl
  exact h hc

theorem takeWhile_append_cons (h : a ∉ front) : (front ++ a :: rest).takeWhile (· != a) = front := by
  rw [List.takeWhile_append_of_pos (bne_of_notMem h)]
  simp

theorem dropWhile_append_cons (h : a ∉ front) :
    (front ++ a :: rest).dropWhile (· != a) = a :: rest := by
  rw [List.dropWhile_append_of_pos (bne_of_notMem h)]
  simp

end Cut

end QueueService.Separator
