/-!
# Checks

What is known when a check, or a sequence of checks, has passed: each part of it has. And what it takes to
say of a check when it passes and what it reports otherwise: `Decides`, which is put together stage by stage
with `Decides.bind`.
-/

namespace QueueService

variable {ε ε' α β : Type}

/-! ## Checks that passed -/

/-- A sequence of checks that passes has passed at each of them. -/
theorem exceptBind_ok {r : Except ε α} {f : α → Except ε β} {b : β} (h : r >>= f = .ok b) :
    ∃ a, r = .ok a ∧ f a = .ok b := by
  cases r with
  | error e => cases h
  | ok a => exact ⟨a, rfl, h⟩

theorem exceptMap_ok {r : Except ε α} {f : α → β} {b : β} (h : r.map f = .ok b) :
    ∃ a, r = .ok a ∧ f a = b := by
  cases r with
  | error e => cases h
  | ok a => exact ⟨a, rfl, Except.ok.inj h⟩

theorem exceptMapError_ok {r : Except ε α} {f : ε → ε'} {a : α} (h : r.mapError f = .ok a) :
    r = .ok a := by
  cases r with
  | error e => cases h
  | ok a' => cases h; rfl

/-! ## Stages of a check -/

/-- **A decided check.** It passes under a condition, and otherwise reports one of the errors that stand for
    the ways to fail. -/
structure Decides (result : Except ε α) (passes : Prop) (fails : ε → Prop) : Prop where
  ok : passes → ∃ a, result = .ok a
  error : ∀ e, fails e → result = .error e
  total : passes ∨ ∃ e, fails e

namespace Decides

variable {result : Except ε α} {passes passes' : Prop} {fails fails' : ε → Prop}

theorem ok_iff (h : Decides result passes fails) : (∃ a, result = .ok a) ↔ passes := by
  refine ⟨?_, h.ok⟩
  rintro ⟨a, ha⟩
  refine h.total.resolve_right ?_
  rintro ⟨e, he⟩
  rw [h.error e he] at ha
  cases ha

theorem error_iff (h : Decides result passes fails) {e : ε} : result = .error e ↔ fails e := by
  refine ⟨fun he => ?_, h.error e⟩
  rcases h.total with hpasses | ⟨e', he'⟩
  · obtain ⟨a, ha⟩ := h.ok hpasses
    rw [ha] at he
    cases he
  · cases he.symm.trans (h.error e' he')
    exact he'

theorem mapError (h : Decides result passes fails) (f : ε → ε') :
    Decides (result.mapError f) passes fun e' => ∃ e, fails e ∧ f e = e' where
  ok hpasses := by
    obtain ⟨a, ha⟩ := h.ok hpasses
    exact ⟨a, by rw [ha]; rfl⟩
  error := by
    rintro _ ⟨e, he, rfl⟩
    rw [h.error e he]
    rfl
  total := h.total.imp_right fun ⟨e, he⟩ => ⟨f e, e, he, rfl⟩

/-- **Stages.** A second check is made where the first has passed, and reports its errors only there. -/
theorem bind (h : Decides result passes fails) {next : α → Except ε β}
    (hnext : ∀ a, result = .ok a → Decides (next a) passes' fails') :
    Decides (result >>= next) (passes ∧ passes') fun e => fails e ∨ passes ∧ fails' e where
  ok := by
    rintro ⟨hpasses, hpasses'⟩
    obtain ⟨a, ha⟩ := h.ok hpasses
    obtain ⟨b, hb⟩ := (hnext a ha).ok hpasses'
    exact ⟨b, by rw [ha]; exact hb⟩
  error := by
    rintro e (he | ⟨hpasses, he⟩)
    · rw [h.error e he]
      rfl
    · obtain ⟨a, ha⟩ := h.ok hpasses
      rw [ha]
      exact (hnext a ha).error e he
  total := by
    rcases h.total with hpasses | ⟨e, he⟩
    · obtain ⟨a, ha⟩ := h.ok hpasses
      rcases (hnext a ha).total with hpasses' | ⟨e, he⟩
      · exact .inl ⟨hpasses, hpasses'⟩
      · exact .inr ⟨e, .inr ⟨hpasses, he⟩⟩
    · exact .inr ⟨e, .inl he⟩

/-- The same check, with other words for when it passes and when it fails. -/
theorem congr (h : Decides result passes fails) (hpasses : passes ↔ passes')
    (hfails : ∀ e, fails e ↔ fails' e) : Decides result passes' fails' where
  ok h' := h.ok (hpasses.mpr h')
  error e h' := h.error e ((hfails e).mpr h')
  total := h.total.imp hpasses.mp (Exists.imp fun e => (hfails e).mp)

end Decides

end QueueService
