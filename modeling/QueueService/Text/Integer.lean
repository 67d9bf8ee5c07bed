/-!
# Integers in text

Reading a decimal integer of a fixed width. A reading takes ASCII digits only, in any number and
with any zeros in front, after at most one sign; `-` is a sign only where negative numbers exist.
Writing is the plain decimal form of `toString`.
-/

namespace QueueService.Integer

/-- The value of a non-empty run of ASCII digits. -/
def digits? (cs : List Char) : Option Nat :=
  if !cs.isEmpty && cs.all Char.isDigit then some (Nat.ofDigitChars 10 cs 0) else none

/-- The value of a run of digits after an optional `+`. -/
def natural? (cs : List Char) : Option Nat :=
  match cs with
  | '+' :: rest => digits? rest
  | _ => digits? cs

/-- Read an unsigned integer of the given width in bits. -/
def unsigned? (bits : Nat) (text : String) : Option Nat :=
  (natural? text.toList).filter (· < 1 <<< bits)

/-- Read a signed integer of the given width in bits. -/
def signed? (bits : Nat) (text : String) : Option Int :=
  match text.toList with
  | '-' :: rest => ((digits? rest).filter (· ≤ 1 <<< (bits - 1))).map fun n => -(n : Int)
  | cs => ((natural? cs).filter (· < 1 <<< (bits - 1))).map Int.ofNat

theorem signed?_lt {bits n : Nat} {text : String} (h : signed? bits text = some (n : Int)) :
    n < 1 <<< (bits - 1) := by
  unfold signed? at h
  split at h
  · -- below zero only zero is a natural number
    next rest _ =>
    obtain ⟨k, hread, hk⟩ := Option.map_eq_some_iff.mp h
    obtain ⟨digits, -, heq⟩ := Option.bind_eq_some_iff.mp hread
    cases heq
    obtain rfl : n = 0 := by omega
    exact Nat.one_shiftLeft _ ▸ Nat.two_pow_pos _
  · obtain ⟨k, hfilter, hk⟩ := Option.map_eq_some_iff.mp h
    obtain rfl : k = n := Int.ofNat.inj hk
    simpa using (Option.filter_eq_some_iff.mp hfilter).2

theorem unsigned?_lt {bits : Nat} {text : String} {n : Nat} (h : unsigned? bits text = some n) :
    n < 1 <<< bits := by
  simp only [unsigned?, Option.filter_eq_some_iff, decide_eq_true_eq] at h
  exact h.2

/-! ## Texts that are read -/

/-- **A natural number in text:** ASCII digits, at least one, behind a plus sign or none. -/
inductive Spells : List Char → Nat → Prop
  | plain {ds : List Char} (nonempty : ds ≠ []) (digits : ∀ c ∈ ds, c.isDigit = true) :
      Spells ds (Nat.ofDigitChars 10 ds 0)
  | plus {ds : List Char} (nonempty : ds ≠ []) (digits : ∀ c ∈ ds, c.isDigit = true) :
      Spells ('+' :: ds) (Nat.ofDigitChars 10 ds 0)

theorem digits?_eq_some_iff {cs : List Char} {n : Nat} :
    digits? cs = some n ↔
      cs ≠ [] ∧ (∀ c ∈ cs, c.isDigit = true) ∧ n = Nat.ofDigitChars 10 cs 0 := by
  unfold digits?
  rw [Option.ite_none_right_eq_some, Bool.and_eq_true, Bool.not_eq_true', List.isEmpty_eq_false_iff,
    List.all_eq_true, and_assoc, Option.some.injEq, eq_comm (a := n)]

theorem natural?_eq_some_iff {cs : List Char} {n : Nat} : natural? cs = some n ↔ Spells cs n := by
  unfold natural?
  split
  · next rest =>
    rw [digits?_eq_some_iff]
    constructor
    · rintro ⟨hnonempty, hdigits, rfl⟩
      exact .plus hnonempty hdigits
    · intro h
      cases h with
      | plain _ digits => exact absurd (digits '+' List.mem_cons_self) (by decide)
      | plus nonempty digits => exact ⟨nonempty, digits, rfl⟩
  · next hplus =>
    rw [digits?_eq_some_iff]
    constructor
    · rintro ⟨hnonempty, hdigits, rfl⟩
      exact .plain hnonempty hdigits
    · intro h
      cases h with
      | plain nonempty digits => exact ⟨nonempty, digits, rfl⟩
      | plus => exact absurd rfl (hplus _)

/-- An unsigned integer is read from a text that spells one of its width. -/
theorem unsigned?_eq_some_iff {bits n : Nat} {text : String} :
    unsigned? bits text = some n ↔ Spells text.toList n ∧ n < 1 <<< bits := by
  rw [unsigned?, Option.filter_eq_some_iff, natural?_eq_some_iff, decide_eq_true_eq]

/-- A text spells one number at most. -/
theorem Spells.unique {cs : List Char} {n m : Nat} (hn : Spells cs n) (hm : Spells cs m) : n = m :=
  Option.some.inj ((natural?_eq_some_iff.mpr hn).symm.trans (natural?_eq_some_iff.mpr hm))

/-! ## One text, two readings -/

/-- The text begins with a minus sign. -/
def HasMinus (text : String) : Prop := text.toList.head? = some '-'

instance (text : String) : Decidable (HasMinus text) :=
  inferInstanceAs (Decidable (text.toList.head? = some '-'))

/-- Behind a minus sign there is no unsigned integer. -/
theorem unsigned?_of_hasMinus {bits : Nat} {text : String} (h : HasMinus text) :
    unsigned? bits text = none := by
  obtain ⟨rest, htext⟩ := List.head?_eq_some_iff.mp h
  have hread : natural? ('-' :: rest) = none := rfl
  unfold unsigned?
  rw [htext, hread]
  rfl

/-- The only natural number that is written with a minus sign is zero. -/
theorem eq_zero_of_hasMinus {bits n : Nat} {text : String} (hread : signed? bits text = some (n : Int))
    (h : HasMinus text) : n = 0 := by
  obtain ⟨rest, htext⟩ := List.head?_eq_some_iff.mp h
  unfold signed? at hread
  rw [htext] at hread
  obtain ⟨k, hk, hneg⟩ := Option.map_eq_some_iff.mp hread
  obtain ⟨digits, -, heq⟩ := Option.bind_eq_some_iff.mp hk
  cases heq
  omega

/-- A natural number without a minus sign reads the same unsigned, in any width in which it fits. -/
theorem unsigned?_of_signed? {bits bits' n : Nat} {text : String}
    (hread : signed? bits text = some (n : Int)) (h : ¬ HasMinus text) (hfits : n < 1 <<< bits') :
    unsigned? bits' text = some n := by
  unfold signed? at hread
  split at hread
  · next rest htext => exact absurd (by rw [HasMinus, htext]; rfl) h
  · obtain ⟨k, hfilter, hk⟩ := Option.map_eq_some_iff.mp hread
    obtain rfl : k = n := Int.ofNat.inj hk
    have hnatural := (Option.filter_eq_some_iff.mp hfilter).1
    unfold unsigned?
    rw [hnatural, Option.filter_some, if_pos (decide_eq_true hfits)]

/-! ## Reading what was written -/

theorem isDigit_of_mem_toDigits {n : Nat} {c : Char} (h : c ∈ Nat.toDigits 10 n) :
    c.isDigit = true :=
  Nat.isDigit_of_mem_toDigits (by decide) (by decide) h

/-- The decimal form of a number is a run of digits that spells it. -/
theorem digits?_toDigits (n : Nat) : digits? (Nat.toDigits 10 n) = some n := by
  have hall : (Nat.toDigits 10 n).all Char.isDigit = true :=
    List.all_eq_true.mpr fun c hc => isDigit_of_mem_toDigits hc
  unfold digits?
  rw [hall, Nat.ofDigitChars_toDigits (by decide) (by decide)]
  simp [Nat.toDigits_ne_nil]

theorem natural?_toDigits (n : Nat) : natural? (Nat.toDigits 10 n) = some n := by
  unfold natural?
  split
  · -- a plus sign is no digit
    next rest heq =>
    have hplus : '+'.isDigit = true := isDigit_of_mem_toDigits (heq ▸ List.mem_cons_self)
    cases hplus
  · exact digits?_toDigits n

theorem toList_toString (n : Nat) : (toString n).toList = Nat.toDigits 10 n := by
  rw [Nat.toString_eq_repr, Nat.repr_eq_ofList_toDigits, String.toList_ofList]

/-- A number that fits is read back from its decimal form. -/
theorem unsigned?_toString {bits n : Nat} (h : n < 1 <<< bits) :
    unsigned? bits (toString n) = some n := by
  unfold unsigned?
  rw [toList_toString, natural?_toDigits, Option.filter_some, if_pos (decide_eq_true h)]

theorem signed?_toString {bits n : Nat} (h : n < 1 <<< (bits - 1)) :
    signed? bits (toString n) = some (n : Int) := by
  unfold signed?
  rw [toList_toString]
  split
  · next rest heq =>
    have hminus : '-'.isDigit = true := isDigit_of_mem_toDigits (heq ▸ List.mem_cons_self)
    cases hminus
  · rw [natural?_toDigits, Option.filter_some, if_pos (decide_eq_true h)]
    rfl

/-- What is read back from the decimal form of a number is that number, if it is anything. -/
theorem signed?_toString_getD (bits : Nat) (n : Int) : (signed? bits (toString n)).getD n = n := by
  cases n with
  | ofNat n =>
      show (signed? bits (toString n)).getD _ = _
      unfold signed?
      rw [toList_toString]
      split
      · next rest heq =>
        have hminus : '-'.isDigit = true := isDigit_of_mem_toDigits (heq ▸ List.mem_cons_self)
        cases hminus
      · rw [natural?_toDigits, Option.filter_some]
        split <;> rfl
  | negSucc n =>
      have htext : (toString (Int.negSucc n)).toList = '-' :: Nat.toDigits 10 (n + 1) := by
        show ("-" ++ toString (n + 1)).toList = _
        rw [String.toList_append, toList_toString]
        rfl
      unfold signed?
      rw [htext]
      simp only [digits?_toDigits, Option.filter_some]
      split <;> rfl

/-! ## Plain decimal forms -/

/-- **Plain.** No plus sign stands in front, and no zero in front of other digits. -/
def IsPlain (cs : List Char) : Prop := cs = ['0'] ∨ cs.head? ≠ some '0' ∧ cs.head? ≠ some '+'

instance (cs : List Char) : Decidable (IsPlain cs) := inferInstanceAs (Decidable (_ ∨ _))

/-- The decimal form of a positive number does not begin with a zero. -/
theorem head_toDigits_ne {n : Nat} (h : 0 < n) : (Nat.toDigits 10 n).head? ≠ some '0' := by
  induction n using Nat.strongRecOn with
  | ind n ih =>
      by_cases hsmall : n < 10
      · rw [Nat.toDigits_of_lt_base hsmall]
        have hall : ∀ k : Fin 10, k.val ≠ 0 → Nat.digitChar k ≠ '0' := by decide
        intro heq
        exact hall ⟨n, hsmall⟩ (Nat.ne_of_gt h) (Option.some.inj heq)
      · rw [Nat.toDigits_of_base_le (by decide) (by omega), List.head?_append]
        have hhead := ih (n / 10) (by omega) (by omega)
        cases hdigits : Nat.toDigits 10 (n / 10) with
        | nil => exact absurd hdigits Nat.toDigits_ne_nil
        | cons c cs =>
            rw [hdigits] at hhead
            exact hhead

theorem isPlain_toDigits (n : Nat) : IsPlain (Nat.toDigits 10 n) := by
  cases Nat.eq_zero_or_pos n with
  | inl hzero =>
      subst hzero
      exact .inl (Nat.toDigits_zero 10)
  | inr hpos =>
      refine .inr ⟨head_toDigits_ne hpos, fun hplus => ?_⟩
      have hdigit := isDigit_of_mem_toDigits (List.mem_of_head? hplus)
      cases hdigit

theorem digit_range {c : Char} (h : c.isDigit = true) : 48 ≤ c.toNat ∧ c.toNat ≤ 57 := by
  simp only [Char.isDigit, Bool.and_eq_true, decide_eq_true_eq] at h
  exact h

theorem digit_lt {c : Char} (h : c.isDigit = true) : c.toNat - '0'.toNat < 10 := by
  obtain ⟨-, hhigh⟩ := digit_range h
  have hzero : '0'.toNat = 48 := rfl
  omega

/-- A digit is the decimal form of its value. -/
theorem toDigits_digit {c : Char} (h : c.isDigit = true) :
    Nat.toDigits 10 (c.toNat - '0'.toNat) = [c] := by
  obtain ⟨hlow, -⟩ := digit_range h
  have hzero : '0'.toNat = 48 := rfl
  have hchar : (c.toNat - '0'.toNat).digitChar = c := by
    apply Char.toNat_inj.mp
    rw [Nat.toNat_digitChar_of_lt_ten (digit_lt h)]
    omega
  rw [Nat.toDigits_of_lt_base (digit_lt h), hchar]

/-- Digits without a zero in front are the decimal form of what they spell, which is not zero. -/
theorem toDigits_ofDigitChars {ds : List Char} (hnonempty : ds ≠ [])
    (hdigits : ∀ c ∈ ds, c.isDigit = true) (hhead : ds.head? ≠ some '0') :
    0 < Nat.ofDigitChars 10 ds 0 ∧ Nat.toDigits 10 (Nat.ofDigitChars 10 ds 0) = ds := by
  -- the last digit is the remainder, so the induction takes the digits from the end
  induction hlength : ds.length generalizing ds with
  | zero => exact absurd (List.length_eq_zero_iff.mp hlength) hnonempty
  | succ k ih =>
      obtain ⟨front, c, rfl⟩ := (List.eq_nil_or_concat ds).resolve_left hnonempty
      rw [List.concat_eq_append] at *
      have hdigit : c.isDigit = true := hdigits c (by simp)
      have hc := toDigits_digit hdigit
      rw [Nat.ofDigitChars_append, Nat.ofDigitChars_cons, Nat.ofDigitChars_nil]
      by_cases hfront : front = []
      · subst hfront
        have hpos : 0 < c.toNat - '0'.toNat := by
          refine Nat.pos_of_ne_zero fun hzero => hhead ?_
          rw [hzero, Nat.toDigits_zero] at hc
          exact congrArg some (List.cons.inj hc).1.symm
        rw [Nat.ofDigitChars_nil, Nat.mul_zero, Nat.zero_add]
        exact ⟨hpos, hc⟩
      · have hsame : (front ++ [c]).head? = front.head? := by
          rw [List.head?_append, Option.or_of_isSome (List.isSome_head?.mpr hfront)]
        obtain ⟨hpos, hdecimal⟩ := ih hfront (fun d hd => hdigits d (List.mem_append_left _ hd))
          (hsame ▸ hhead) (by simpa using hlength)
        refine ⟨by omega, ?_⟩
        rw [← Nat.toDigits_append_toDigits (by decide) hpos (digit_lt hdigit), hdecimal, hc]

/-- **One plain spelling.** Of the spellings of a number just its decimal form is plain. -/
theorem Spells.eq_toDigits_iff {cs : List Char} {n : Nat} (h : Spells cs n) :
    cs = Nat.toDigits 10 n ↔ IsPlain cs := by
  constructor
  · rintro rfl
    exact isPlain_toDigits n
  · intro hplain
    cases h with
    | plain nonempty digits =>
        rcases hplain with rfl | ⟨hzero, -⟩
        · rfl
        · exact (toDigits_ofDigitChars nonempty digits hzero).2.symm
    | plus =>
        rcases hplain with hzero | ⟨-, hplus⟩
        · cases hzero
        · exact absurd rfl hplus

theorem spells_toString (n : Nat) : Spells (toString n).toList n := by
  rw [toList_toString, ← natural?_eq_some_iff]
  exact natural?_toDigits n

end QueueService.Integer
