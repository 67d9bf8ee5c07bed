import QueueService.Json.Token
import QueueService.Proofs.DecimalLiteral

/-!
# JSON numbers

Which texts are JSON numbers, and what number a text is. The digits of an exponent are counted only until
the exponent is beyond the limit, but beyond the limit all exponents of one sign come to the same. So a
number is what its parts say with the whole exponent, however many digits that has.

* `Json.Number.Written` — the grammar, with the parts of a number.
* `Json.Number.Parts.value?` — what the parts come to.
* `Json.Number.parse?_eq_some_iff` — that is what is read.
* `Json.Number.parse?_toDigits` — natural numbers of 64 bits are read back from their decimal form.
-/

namespace QueueService.Json.Number

open QueueService.Number (Digits NoDigitHead NoSignHead Marked digits_splitDigits splitDigits_append
  countedUpTo countedUpTo_le exponentUpTo?_eq_some_iff)

/-! ## Numbers and their parts -/

/-- **The parts of a number:** whether there is a minus sign, the digits before the point, the digits behind
    it if there is a point, and the sign and the digits of the exponent if there is one. -/
structure Parts where
  negative : Bool
  whole : List Char
  fraction? : Option (List Char)
  power? : Option (Bool × List Char)

/-- A minus sign or nothing. -/
inductive Minus : List Char → Bool → Prop
  | absent : Minus [] false
  | present : Minus ['-'] true

/-- One zero, or digits that do not begin with a zero. -/
structure Whole (ds : List Char) : Prop where
  nonempty : ds ≠ []
  digits : Digits ds
  leading : ds = ['0'] ∨ ds.head? ≠ some '0'

/-- Nothing, or a point with digits behind it. -/
inductive Pointed : List Char → Option (List Char) → Prop
  | absent : Pointed [] none
  | present {ds : List Char} (nonempty : ds ≠ []) (digits : Digits ds) : Pointed ('.' :: ds) (some ds)

/-- Nothing, or an exponent. -/
inductive Scaled : List Char → Option (Bool × List Char) → Prop
  | absent : Scaled [] none
  | present {cs power : List Char} {lowering : Bool} (nonempty : cs ≠ [])
      (marked : Marked cs lowering power) : Scaled cs (some (lowering, power))

/-- **A number** is written as its parts, one behind the other. -/
inductive Written : List Char → Parts → Prop
  | intro {minus whole point marked : List Char} {negative : Bool} {fraction? : Option (List Char)}
      {power? : Option (Bool × List Char)} (signed : Minus minus negative) (digits : Whole whole)
      (pointed : Pointed point fraction?) (scaled : Scaled marked power?) :
      Written (minus ++ (whole ++ (point ++ marked))) ⟨negative, whole, fraction?, power?⟩

/-- An exponent with a sign whose digits come to `n`. -/
def signed (lowering : Bool) (n : Nat) : Int := if lowering then -n else n

/-- **What the parts come to,** with the exponent that all of its digits spell. -/
def Parts.value? (w : Parts) : Option Number :=
  ofParts? w.negative w.whole w.fraction? (w.power?.map fun p => signed p.1 (Nat.ofDigitChars 10 p.2 0))

/-! ## Exponents -/

theorem natAbs_signed (lowering : Bool) (n : Nat) : (signed lowering n).natAbs = n := by
  cases lowering <;> simp [signed]

theorem signed_lt_zero_iff {n : Nat} (h : 0 < n) (lowering : Bool) :
    signed lowering n < 0 ↔ lowering = true := by
  cases lowering with
  | false => simp [signed]
  | true => simpa [signed] using h

/-- Exponents beyond the limit that have one sign come to the same. -/
theorem binary?_of_beyond {m n : Nat} (hm : exponentLimit < m) (hn : exponentLimit < n)
    (negative lowering : Bool) (significand : Nat) (start : Int) :
    binary? negative significand start (signed lowering m) =
      binary? negative significand start (signed lowering n) := by
  have hsign : signed lowering m < 0 ↔ signed lowering n < 0 :=
    (signed_lt_zero_iff (by omega) lowering).trans (signed_lt_zero_iff (by omega) lowering).symm
  unfold binary?
  rw [natAbs_signed, natAbs_signed, if_pos hm, if_pos hn, decide_eq_decide.mpr hsign]

/-- Digits of an exponent that do not count make no difference. -/
theorem binary?_countedUpTo (negative lowering : Bool) (significand : Nat) (start : Int)
    (power : List Char) :
    binary? negative significand start (signed lowering (countedUpTo (exponentLimit + 1) power)) =
      binary? negative significand start (signed lowering (Nat.ofDigitChars 10 power 0)) := by
  obtain ⟨hle, heq⟩ := countedUpTo_le (exponentLimit + 1) power
  by_cases hsmall : countedUpTo (exponentLimit + 1) power < exponentLimit + 1
  · rw [heq hsmall]
  · exact binary?_of_beyond (by omega) (by omega) negative lowering significand start

/-- The parts of a number come to the same with the digits that count. -/
theorem Parts.ofParts?_counted (w : Parts) :
    ofParts? w.negative w.whole w.fraction?
        (w.power?.map fun p => signed p.1 (countedUpTo (exponentLimit + 1) p.2)) = w.value? := by
  obtain ⟨negative, whole, fraction?, power?⟩ := w
  cases power? with
  | none => rfl
  | some power =>
      cases fraction? with
      | none => exact binary?_countedUpTo ..
      | some fraction => exact binary?_countedUpTo ..

/-! ## Parts of a number -/

section Parts

variable {cs minus whole point marked : List Char} {negative : Bool} {fraction? : Option (List Char)}
  {power? : Option (Bool × List Char)}

theorem splitMinus_spelled (cs : List Char) :
    ∃ minus, Minus minus (splitMinus cs).1 ∧ cs = minus ++ (splitMinus cs).2 := by
  unfold splitMinus
  split
  · exact ⟨['-'], .present, rfl⟩
  · exact ⟨[], .absent, rfl⟩

theorem Minus.splitMinus (h : Minus minus negative) (hcs : NoSignHead cs) :
    splitMinus (minus ++ cs) = (negative, cs) := by
  cases h with
  | present => rfl
  | absent =>
      rw [List.nil_append]
      unfold Number.splitMinus
      split
      · exact absurd rfl (hcs '-' rfl).2
      · rfl

theorem isWhole_iff {ds : List Char} : isWhole ds = true ↔ Whole ds := by
  unfold isWhole
  split
  · exact iff_of_false Bool.false_ne_true fun h => h.nonempty rfl
  · exact iff_of_true rfl ⟨List.cons_ne_nil _ _, List.forall_mem_singleton.mpr rfl, .inl rfl⟩
  · next c rest hzero =>
    rw [Bool.and_eq_true, bne_iff_ne, List.all_eq_true]
    constructor
    · rintro ⟨hc, hdigits⟩
      exact ⟨List.cons_ne_nil _ _, hdigits, .inr fun heq => hc (Option.some.inj heq)⟩
    · rintro ⟨-, hdigits, hleading⟩
      refine ⟨?_, hdigits⟩
      rintro rfl
      rcases hleading with heq | hne
      · exact hzero rfl (List.cons.inj heq).2
      · exact hne rfl

theorem splitPoint_spelled (h : (splitPoint cs).1 ≠ some []) :
    ∃ point, Pointed point (splitPoint cs).1 ∧ cs = point ++ (splitPoint cs).2 := by
  unfold splitPoint at h ⊢
  split at h
  · next rest =>
    exact ⟨_, .present (fun hnil => h (congrArg some hnil)) (digits_splitDigits rest),
      congrArg _ (splitDigits_append rest)⟩
  · exact ⟨[], .absent, rfl⟩

theorem Scaled.head (h : Scaled marked power?) : NoDigitHead marked ∧ marked.head? ≠ some '.' := by
  cases h with
  | absent => exact ⟨nofun, nofun⟩
  | present _ marked => exact marked.head

theorem Pointed.splitPoint (h : Pointed point fraction?) (hscaled : Scaled marked power?) :
    splitPoint (point ++ marked) = (fraction?, marked) := by
  cases h with
  | present nonempty digits =>
      rw [List.cons_append, Number.splitPoint, digits.splitDigits hscaled.head.1]
  | absent =>
      rw [List.nil_append]
      unfold Number.splitPoint
      split
      · exact absurd rfl hscaled.head.2
      · rfl

theorem Pointed.head (h : Pointed point fraction?) (hscaled : Scaled marked power?) :
    NoDigitHead (point ++ marked) := by
  cases h with
  | present nonempty digits => exact .cons rfl _
  | absent => exact hscaled.head.1

/-- A point has digits behind it. -/
theorem Pointed.ne (h : Pointed point fraction?) : fraction? ≠ some [] := by
  cases h with
  | absent => exact nofun
  | present nonempty digits => exact fun heq => nonempty (Option.some.inj heq)

/-- **Exponents** are read as they are spelled, with the digits that count. -/
theorem exponent?_eq_some_iff {written : Option Int} : exponent? cs = some written ↔
    ∃ power?, Scaled cs power? ∧
      (power?.map fun p => signed p.1 (countedUpTo (exponentLimit + 1) p.2)) = written := by
  unfold exponent?
  split
  · constructor
    · rintro ⟨⟩
      exact ⟨none, .absent, rfl⟩
    · rintro ⟨power?, hscaled, rfl⟩
      cases hscaled with
      | absent => rfl
      | present nonempty marked => exact absurd rfl nonempty
  · next hne =>
    rw [Option.map_eq_some_iff]
    constructor
    · rintro ⟨e, he, rfl⟩
      obtain ⟨lowering, power, hmarked, rfl⟩ := exponentUpTo?_eq_some_iff.mp he
      exact ⟨some (lowering, power), .present hne hmarked, rfl⟩
    · rintro ⟨power?, hscaled, rfl⟩
      cases hscaled with
      | absent => exact absurd rfl hne
      | present nonempty marked => exact ⟨_, exponentUpTo?_eq_some_iff.mpr ⟨_, _, marked, rfl⟩, rfl⟩

/-- **Numbers** are read as they are written, and nothing else is a number. -/
theorem parse?_eq_some_iff {n : Number} : parse? cs = some n ↔ ∃ w, Written cs w ∧ w.value? = some n := by
  constructor
  · intro h
    obtain ⟨minus, hminus, hunsigned⟩ := splitMinus_spelled cs
    unfold parse? at h
    simp only at h
    split at h
    · cases h
    · next hparts =>
      rw [Bool.or_eq_true, not_or, Bool.not_eq_true', Bool.not_eq_false, decide_eq_true_eq] at hparts
      obtain ⟨point, hpointed, hpoint⟩ := splitPoint_spelled hparts.2
      obtain ⟨written, hwritten, hvalue⟩ := Option.bind_eq_some_iff.mp h
      obtain ⟨power?, hscaled, rfl⟩ := exponent?_eq_some_iff.mp hwritten
      have hspelled := Written.intro hminus (isWhole_iff.mp hparts.1) hpointed hscaled
      rw [← hpoint, ← splitDigits_append, ← hunsigned] at hspelled
      refine ⟨_, hspelled, ?_⟩
      rw [← Parts.ofParts?_counted]
      exact hvalue
  · rintro ⟨_, hspelled, hvalue⟩
    cases hspelled with
    | @intro minus whole point marked negative fraction? power? hminus hwhole hpointed hscaled =>
        have hsign : NoSignHead (whole ++ (point ++ marked)) := by
          cases whole with
          | nil => exact absurd rfl hwhole.nonempty
          | cons c rest => exact .of_digit (hwhole.digits c List.mem_cons_self) _
        have hparts : ¬ (!isWhole whole || decide (fraction? = some [])) = true := by
          simp [isWhole_iff.mpr hwhole, hpointed.ne]
        simp only [parse?, hminus.splitMinus hsign,
          hwhole.digits.splitDigits (hpointed.head hscaled), hpointed.splitPoint hscaled, if_neg hparts]
        rw [exponent?_eq_some_iff.mpr ⟨power?, hscaled, rfl⟩, Option.bind_some, ← hvalue]
        exact Parts.ofParts?_counted ⟨negative, whole, fraction?, power?⟩

end Parts

/-- An exponent beyond the limit makes a number too large or zero, whatever stands in front of it. -/
example : parse? "0.1e2147483648".toList = none ∧
    parse? "1e-2147483648".toList = some (.binary false .zero) := by decide

/-! ## Natural numbers -/

theorem le_ofDigitChars (cs : List Char) (n : Nat) : n ≤ Nat.ofDigitChars 10 cs n := by
  induction cs generalizing n with
  | nil => exact Nat.le_refl n
  | cons c cs ih =>
      rw [Nat.ofDigitChars_cons]
      have hlater := ih (10 * n + (c.toNat - '0'.toNat))
      omega

/-- Digits all find room if the number that they spell does. -/
theorem gather_of_le {cs : List Char} {significand : Nat}
    (h : Nat.ofDigitChars 10 cs significand ≤ greatest) (used : Nat) :
    gather significand used cs = (Nat.ofDigitChars 10 cs significand, used + cs.length) := by
  induction cs generalizing significand used with
  | nil => rfl
  | cons c cs ih =>
      rw [Nat.ofDigitChars_cons] at h ⊢
      have hcomm : significand * 10 = 10 * significand := Nat.mul_comm ..
      have hroom := le_ofDigitChars cs (10 * significand + (c.toNat - '0'.toNat))
      have hnext : 10 * significand + (c.toNat - '0'.toNat) ≤ greatest := Nat.le_trans hroom h
      unfold gather
      simp only [hcomm, if_pos hnext]
      rw [ih h, List.length_cons, Nat.add_assoc, Nat.add_comm 1]

/-- Digits that find room are the whole number that they spell. -/
theorem Parts.value?_of_le {ds : List Char} (h : Nat.ofDigitChars 10 ds 0 ≤ greatest) :
    Parts.value? ⟨false, ds, none, none⟩ = some (.integer (Nat.ofDigitChars 10 ds 0)) := by
  simp [Parts.value?, ofParts?, gather_of_le h]

theorem whole_toDigits (n : Nat) : Whole (Nat.toDigits 10 n) where
  nonempty := Nat.toDigits_ne_nil
  digits _ hc := Integer.isDigit_of_mem_toDigits hc
  leading := by
    cases Nat.eq_zero_or_pos n with
    | inl hzero => subst hzero; exact .inl (Nat.toDigits_zero 10)
    | inr hpos => exact .inr (Integer.head_toDigits_ne hpos)

/-- **Natural numbers.** One of 64 bits is read back from its decimal form. -/
theorem parse?_toDigits {n : Nat} (h : n ≤ greatest) :
    parse? (Nat.toDigits 10 n) = some (.integer n) := by
  have hvalue : Nat.ofDigitChars 10 (Nat.toDigits 10 n) 0 = n :=
    Nat.ofDigitChars_toDigits (by decide) (by decide)
  have hwritten : Written (Nat.toDigits 10 n) ⟨false, Nat.toDigits 10 n, none, none⟩ := by
    have hintro := Written.intro .absent (whole_toDigits n) .absent .absent
    simpa using hintro
  refine parse?_eq_some_iff.mpr ⟨_, hwritten, ?_⟩
  rw [Parts.value?_of_le (by omega), hvalue]

end QueueService.Json.Number
