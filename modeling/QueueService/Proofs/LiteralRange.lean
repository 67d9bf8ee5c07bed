import Mathlib
import QueueService.Proofs.DecimalLiteral
import QueueService.Text.Alphabet

/-!
# The range of literals

Which decimal literals are in the range of binary64, by the rational number that they denote. The check goes
by the digits as they are written, however many there are. Only the digits of an exponent stop counting, once
they spell a number of 65536 or more; so the number that is checked may be another one than the number
denoted. They are the same for exponents below 655360. Beyond that both are far out of the range or far within
it, unless there are tens of thousands of digits that make up for the exponent.

* `Number.Written` — the grammar of literals, with the parts of a literal.
* `Number.Parts.value`, `Number.Parts.counted` — the number denoted, and the number that is checked.
* `Number.isFiniteLiteral_inRange` — which texts pass, and for which of them that is a matter of the number
  denoted.
* `Number.isFiniteLiteral_outweighed` — a literal within the range that does not pass.
-/

namespace QueueService.Number

/-! ## Literals and their parts -/

/-- **The parts of a literal:** a sign, the digits before and behind the point, and the sign and the digits of
    the exponent. Parts that are not there have no digits. -/
structure Parts where
  negative : Bool
  whole : List Char
  fraction : List Char
  lowering : Bool
  power : List Char

/-- Digits, perhaps with a point and more digits behind them, or a point with digits behind it. -/
inductive Mantissa : List Char → List Char → List Char → Prop
  | whole {ds : List Char} (nonempty : ds ≠ []) (digits : Digits ds) : Mantissa ds ds []
  | pointed {ds fs : List Char} (nonempty : ds ≠ []) (digits : Digits ds) (digits' : Digits fs) :
      Mantissa (ds ++ '.' :: fs) ds fs
  | fraction {fs : List Char} (nonempty : fs ≠ []) (digits : Digits fs) : Mantissa ('.' :: fs) [] fs

/-- **A literal** is written as its parts: perhaps a sign, the digits, and perhaps an exponent. -/
inductive Written : List Char → Parts → Prop
  | intro {sign mantissa marked whole fraction power : List Char} {negative lowering : Bool}
      (signed : SpelledSign sign negative) (digits : Mantissa mantissa whole fraction)
      (scaled : Marked marked lowering power) :
      Written (sign ++ (mantissa ++ marked)) ⟨negative, whole, fraction, lowering, power⟩

namespace Parts

/-- The exponent whose digits come to a given number. -/
def exponent (w : Parts) (n : Nat) : ℤ := if w.lowering then -(n : ℤ) else n

/-- The number of a literal whose exponent has digits that come to `n`. -/
def scaled (w : Parts) (n : Nat) : ℚ :=
  (if w.negative then -1 else 1) * Nat.ofDigitChars 10 (w.whole ++ w.fraction) 0 *
    10 ^ (w.exponent n - w.fraction.length)

/-- **The number that a literal denotes,** exactly. -/
def value (w : Parts) : ℚ := w.scaled (Nat.ofDigitChars 10 w.power 0)

/-- **The number that a literal is checked as.** Digits of its exponent behind a number of 65536 or more are
    passed over. -/
def counted (w : Parts) : ℚ := w.scaled (exponentSize w.power)

/-- Either every digit of the exponent counts, or too few other digits stand against it: a negative exponent
    is outweighed only by digits before the point, and a positive one by digits behind it. -/
def Weighty (w : Parts) : Prop :=
  Nat.ofDigitChars 10 w.power 0 < 655360 ∨
    if w.lowering then w.whole.length ≤ 65844 else w.fraction.length ≤ 65227

/-- The literal that is read. -/
def literal (w : Parts) : Literal :=
  ⟨w.negative, w.whole ++ w.fraction, w.exponent (exponentSize w.power) - w.fraction.length⟩

theorem abs_scaled (w : Parts) (n : Nat) : |w.scaled n| =
    Nat.ofDigitChars 10 (w.whole ++ w.fraction) 0 * (10 : ℚ) ^ (w.exponent n - w.fraction.length) := by
  have hsign : |(if w.negative then -1 else 1 : ℚ)| = 1 := by
    cases w.negative <;> simp
  have hpow : (0 : ℚ) ≤ 10 ^ (w.exponent n - w.fraction.length) := by positivity
  rw [scaled, abs_mul, abs_mul, hsign, one_mul, Nat.abs_cast, abs_of_nonneg hpow]

theorem abs_counted (w : Parts) : |w.counted| = w.literal.magnitude := abs_scaled w _

end Parts

/-! ## Grammar -/

section Grammar

variable {cs mantissa whole fraction marked power : List Char} {lowering : Bool} {w w' : Parts}

/-- A mantissa is digits and a point with digits, of which either may be missing. -/
theorem mantissa_iff : Mantissa mantissa whole fraction ↔
    ∃ point, mantissa = whole ++ point ∧ Digits whole ∧ SpelledFraction point fraction ∧
      whole ++ fraction ≠ [] := by
  constructor
  · intro h
    cases h with
    | whole nonempty digits => exact ⟨[], by simp, digits, .absent, by simpa using nonempty⟩
    | pointed nonempty digits digits' => exact ⟨_, rfl, digits, .present digits', by simp [nonempty]⟩
    | fraction nonempty digits =>
        exact ⟨_, rfl, fun c hc => absurd hc List.not_mem_nil, .present digits, nonempty⟩
  · rintro ⟨point, rfl, digits, pointed, nonempty⟩
    cases pointed with
    | absent =>
        rw [List.append_nil] at nonempty ⊢
        exact .whole nonempty digits
    | present digits' =>
        by_cases hwhole : whole = []
        · subst hwhole
          exact .fraction nonempty digits'
        · exact .pointed hwhole digits digits'

theorem Marked.spelled (h : Marked marked lowering power) :
    SpelledExponent marked (if lowering then -(exponentSize power : ℤ) else exponentSize power) :=
  spelledExponent_iff.mpr ⟨_, _, h, rfl⟩

/-- **Literals** are read as the literals of their parts. -/
theorem spelled_iff {l : Literal} : Spelled cs l ↔ ∃ w, Written cs w ∧ w.literal = l := by
  constructor
  · intro h
    cases h with
    | @intro sign whole point fraction marked negative exponent signed digits pointed nonempty scaled =>
        have hmantissa := mantissa_iff.mpr ⟨point, rfl, digits, pointed, nonempty⟩
        rw [← List.append_assoc whole point marked]
        obtain ⟨lowering, power, hmarked, rfl⟩ := spelledExponent_iff.mp scaled
        exact ⟨_, .intro signed hmantissa hmarked, rfl⟩
  · rintro ⟨_, ⟨signed, hmantissa, hmarked⟩, rfl⟩
    obtain ⟨point, rfl, digits, pointed, nonempty⟩ := mantissa_iff.mp hmantissa
    rw [List.append_assoc]
    exact .intro signed digits pointed nonempty hmarked.spelled

/-- The digits of a literal are those of its parts. -/
theorem Written.digits (h : Written cs w) : Digits (w.whole ++ w.fraction) :=
  (spelled_iff.mpr ⟨w, h, rfl⟩).digits

/-! ### Characters -/

theorem Digits.isBodyChar {ds : List Char} (h : Digits ds) : ∀ c ∈ ds, Alphabet.isBodyChar c = true := by
  intro c hc
  obtain ⟨hlow, hhigh⟩ := Integer.digit_range (h c hc)
  simp only [Alphabet.isBodyChar, Alphabet.isBodyCodePoint, Bool.or_eq_true, Bool.and_eq_true,
    decide_eq_true_eq]
  omega

theorem SpelledSign.isBodyChar {sign : List Char} {negative : Bool} (h : SpelledSign sign negative) :
    ∀ c ∈ sign, Alphabet.isBodyChar c = true := by
  cases h with
  | absent => nofun
  | plus | minus => exact List.forall_mem_singleton.mpr (by decide)

theorem Mantissa.isBodyChar (h : Mantissa mantissa whole fraction) :
    ∀ c ∈ mantissa, Alphabet.isBodyChar c = true := by
  cases h with
  | whole nonempty digits => exact digits.isBodyChar
  | pointed nonempty digits digits' =>
      exact List.forall_mem_append.mpr
        ⟨digits.isBodyChar, List.forall_mem_cons.mpr ⟨by decide, digits'.isBodyChar⟩⟩
  | fraction nonempty digits => exact List.forall_mem_cons.mpr ⟨by decide, digits.isBodyChar⟩

theorem Marked.isBodyChar (h : Marked marked lowering power) :
    ∀ c ∈ marked, Alphabet.isBodyChar c = true := by
  cases h with
  | absent => nofun
  | present marked signed nonempty digits =>
      have hmark : ∀ c, c = 'e' ∨ c = 'E' → Alphabet.isBodyChar c = true := by
        rintro c (rfl | rfl) <;> decide
      exact List.forall_mem_cons.mpr
        ⟨hmark _ marked, List.forall_mem_append.mpr ⟨signed.isBodyChar, digits.isBodyChar⟩⟩

/-- **The characters of a literal** may all stand in a text value. -/
theorem Written.isBodyChar (h : Written cs w) : ∀ c ∈ cs, Alphabet.isBodyChar c = true := by
  obtain ⟨signed, hmantissa, hmarked⟩ := h
  exact List.forall_mem_append.mpr
    ⟨signed.isBodyChar, List.forall_mem_append.mpr ⟨hmantissa.isBodyChar, hmarked.isBodyChar⟩⟩

/-! ### Uniqueness -/

/-- The sign and the digits of an exponent, read off from the front. -/
def splitMark : List Char → Bool × List Char
  | [] => (false, [])
  | _ :: rest => splitSign rest

theorem Marked.splitMark (h : Marked marked lowering power) : splitMark marked = (lowering, power) := by
  cases h with
  | absent => rfl
  | present marked signed nonempty digits => exact signed.splitSign (digits.noSignHead nonempty)

/-- The parts of a literal, read off from the front. -/
def partsOf (cs : List Char) : Parts :=
  let (negative, unsigned) := splitSign cs
  let (whole, afterWhole) := splitDigits unsigned
  let (fraction, marked) := splitFraction afterWhole
  let (lowering, power) := splitMark marked
  { negative, whole, fraction, lowering, power }

theorem Written.partsOf (h : Written cs w) : partsOf cs = w := by
  obtain ⟨signed, hmantissa, hmarked⟩ := h
  obtain ⟨point, rfl, digits, pointed, nonempty⟩ := mantissa_iff.mp hmantissa
  have hscaled := hmarked.spelled
  rw [List.append_assoc]
  simp only [Number.partsOf, signed.splitSign (noSignHead_unsigned digits pointed nonempty),
    digits.splitDigits (pointed.head hscaled), pointed.splitFraction hscaled, hmarked.splitMark]

/-- **A text is a literal in one way.** -/
theorem Written.unique (h : Written cs w) (h' : Written cs w') : w = w' :=
  h.partsOf.symm.trans h'.partsOf

end Grammar

/-! ## Range -/

theorem cast_shiftLeft_sub {m n : Nat} (h : m ≤ n) : ((1 <<< n - 1 <<< m : Nat) : ℚ) = 2 ^ n - 2 ^ m := by
  have hle : 2 ^ m ≤ 2 ^ n := Nat.pow_le_pow_right (by decide) h
  rw [Nat.one_shiftLeft, Nat.one_shiftLeft, Nat.cast_sub hle, Nat.cast_pow, Nat.cast_pow, Nat.cast_ofNat]

theorem overflowBound_eq : (overflowBound : ℚ) = 2 ^ 1024 - 2 ^ 970 :=
  cast_shiftLeft_sub (by decide)

theorem zpow_lt_overflowBound : (10 : ℚ) ^ (308 : ℤ) < overflowBound := by
  have hlt : 10 ^ 308 < overflowBound := by decide +kernel
  rw [zpow_ofNat]
  exact_mod_cast hlt

theorem overflowBound_le_zpow : (overflowBound : ℚ) ≤ 10 ^ (309 : ℤ) := by
  rw [zpow_ofNat]
  exact_mod_cast Nat.le_of_lt (overflowBound_lt_pow (Nat.le_refl 309))

section Range

variable {w : Parts} {n : Nat} {cs : List Char}

/-- A literal is within the range if its exponent lowers it by all but 308 of the digits before the point. -/
theorem abs_scaled_lt (hdigits : Digits (w.whole ++ w.fraction)) (hlowering : w.lowering = true)
    (h : w.whole.length ≤ n + 308) : |w.scaled n| < 2 ^ 1024 - 2 ^ 970 := by
  have hsize : (Nat.ofDigitChars 10 (w.whole ++ w.fraction) 0 : ℚ) <
      10 ^ ((w.whole.length + w.fraction.length : Nat) : ℤ) := by
    have hlt := ofDigitChars_lt hdigits 0
    rw [Nat.zero_add, Nat.one_mul, List.length_append] at hlt
    rw [zpow_natCast]
    exact_mod_cast hlt
  have hexponent : w.exponent n = -(n : ℤ) := by rw [Parts.exponent, hlowering, if_pos rfl]
  have hscale : (0 : ℚ) < 10 ^ (w.exponent n - w.fraction.length) := by positivity
  calc |w.scaled n|
      = Nat.ofDigitChars 10 (w.whole ++ w.fraction) 0 * (10 : ℚ) ^ (w.exponent n - w.fraction.length) :=
        w.abs_scaled n
    _ < 10 ^ ((w.whole.length + w.fraction.length : Nat) : ℤ) *
          (10 : ℚ) ^ (w.exponent n - w.fraction.length) := mul_lt_mul_of_pos_right hsize hscale
    _ = 10 ^ ((w.whole.length : ℤ) - n) := by
        rw [← zpow_add₀ (by norm_num), hexponent]
        congr 1
        push_cast
        ring
    _ ≤ 10 ^ (308 : ℤ) := zpow_le_zpow_right₀ (by norm_num) (by omega)
    _ < overflowBound := zpow_lt_overflowBound
    _ = 2 ^ 1024 - 2 ^ 970 := overflowBound_eq

/-- A literal other than zero is out of range if its exponent raises it by 309 more than there are digits
    behind the point. -/
theorem le_abs_scaled (hnonzero : Nat.ofDigitChars 10 (w.whole ++ w.fraction) 0 ≠ 0)
    (hlowering : w.lowering = false) (h : w.fraction.length + 309 ≤ n) :
    2 ^ 1024 - 2 ^ 970 ≤ |w.scaled n| := by
  have hone : (1 : ℚ) ≤ Nat.ofDigitChars 10 (w.whole ++ w.fraction) 0 := by
    exact_mod_cast Nat.one_le_iff_ne_zero.mpr hnonzero
  have hexponent : w.exponent n = n := by simp [Parts.exponent, hlowering]
  have hscale : (0 : ℚ) ≤ 10 ^ (w.exponent n - w.fraction.length) := by positivity
  calc (2 : ℚ) ^ 1024 - 2 ^ 970 = overflowBound := overflowBound_eq.symm
    _ ≤ 10 ^ (309 : ℤ) := overflowBound_le_zpow
    _ ≤ 10 ^ (w.exponent n - w.fraction.length) :=
        zpow_le_zpow_right₀ (by norm_num) (by rw [hexponent]; omega)
    _ ≤ Nat.ofDigitChars 10 (w.whole ++ w.fraction) 0 *
          (10 : ℚ) ^ (w.exponent n - w.fraction.length) := le_mul_of_one_le_left hscale hone
    _ = |w.scaled n| := (w.abs_scaled n).symm

/-- **Exponents that have their weight.** The number that is checked is in the range if and only if the number
    denoted is. -/
theorem counted_lt_iff (hdigits : Digits (w.whole ++ w.fraction)) (h : w.Weighty) :
    |w.counted| < 2 ^ 1024 - 2 ^ 970 ↔ |w.value| < 2 ^ 1024 - 2 ^ 970 := by
  by_cases hexact : Nat.ofDigitChars 10 w.power 0 < 0xA0000
  · have hcounts : exponentSize w.power = Nat.ofDigitChars 10 w.power 0 :=
      countedUpTo_eq (by omega)
    rw [Parts.counted, hcounts, Parts.value]
  -- beyond that, both exponents are large
  have hsmall : exponentSize w.power < 0x10000 → exponentSize w.power = Nat.ofDigitChars 10 w.power 0 :=
    (countedUpTo_le 0x10000 w.power).2
  have hcounted : 0x10000 ≤ exponentSize w.power := by omega
  have hweight := h.resolve_left hexact
  by_cases hzero : Nat.ofDigitChars 10 (w.whole ++ w.fraction) 0 = 0
  · simp [Parts.counted, Parts.value, Parts.scaled, hzero]
  cases hlowering : w.lowering with
  | true =>
      rw [hlowering, if_pos rfl] at hweight
      exact iff_of_true (abs_scaled_lt hdigits hlowering (by omega))
        (abs_scaled_lt hdigits hlowering (by omega))
  | false =>
      rw [hlowering, if_neg Bool.false_ne_true] at hweight
      exact iff_of_false (not_lt_of_ge (le_abs_scaled hzero hlowering (by omega)))
        (not_lt_of_ge (le_abs_scaled hzero hlowering (by omega)))

end Range

/-! ## The check of numbers -/

/-- A text passes if it is a literal that is checked as a number in the range. -/
theorem isFiniteLiteral_iff_counted {text : String} : isFiniteLiteral text = true ↔
    ∃ w, Written text.toList w ∧ |w.counted| < 2 ^ 1024 - 2 ^ 970 := by
  rw [isFiniteLiteral_iff, FiniteLiteral]
  constructor
  · rintro ⟨l, hspelled, hlt⟩
    obtain ⟨w, hwritten, rfl⟩ := spelled_iff.mp hspelled
    exact ⟨w, hwritten, by rw [w.abs_counted, ← overflowBound_eq]; exact hlt⟩
  · rintro ⟨w, hwritten, hlt⟩
    rw [w.abs_counted, ← overflowBound_eq] at hlt
    exact ⟨w.literal, spelled_iff.mpr ⟨w, hwritten, rfl⟩, hlt⟩

/-- **Numbers in the range.** A text passes if and only if it is a literal and the number that it is checked as
    is below the bound of the range. If its exponent has its weight, it passes if and only if the number that
    it denotes is below the bound, whatever the number of its digits and the size of its exponent. A text is a
    literal in one way at most, so it denotes one number. -/
theorem isFiniteLiteral_inRange (text : String) :
    (isFiniteLiteral text = true ↔
        ∃ w, Written text.toList w ∧ |w.counted| < 2 ^ 1024 - 2 ^ 970) ∧
      (∀ w, Written text.toList w → w.Weighty →
        (isFiniteLiteral text = true ↔ |w.value| < 2 ^ 1024 - 2 ^ 970)) ∧
      ∀ w w', Written text.toList w → Written text.toList w' → w = w' := by
  refine ⟨isFiniteLiteral_iff_counted, ?_, fun w w' h h' => h.unique h'⟩
  intro w hwritten hweighty
  rw [← counted_lt_iff hwritten.digits hweighty, isFiniteLiteral_iff_counted]
  constructor
  · rintro ⟨w', hwritten', hlt⟩
    rwa [hwritten.unique hwritten']
  · intro hlt
    exact ⟨w, hwritten, hlt⟩

theorem isFiniteLiteral_inRange_tiny :
    Written ".5E-1234567890".toList ⟨false, [], ['5'], true, "1234567890".toList⟩ ∧
      Parts.Weighty ⟨false, [], ['5'], true, "1234567890".toList⟩ ∧
      (isFiniteLiteral ".5E-1234567890" = true ↔
        |Parts.value ⟨false, [], ['5'], true, "1234567890".toList⟩| < 2 ^ 1024 - 2 ^ 970) := by
  have hmantissa : Mantissa ['.', '5'] [] ['5'] := .fraction (by decide) (by simp [Digits])
  have hmarked : Marked ('E' :: (['-'] ++ "1234567890".toList)) true "1234567890".toList :=
    .present (.inr rfl) .minus (by decide) (by simp [Digits])
  have htext : ".5E-1234567890".toList = [] ++ (['.', '5'] ++ 'E' :: (['-'] ++ "1234567890".toList)) := by
    simp
  have hwritten : Written ".5E-1234567890".toList ⟨false, [], ['5'], true, "1234567890".toList⟩ := by
    rw [htext]
    exact .intro .absent hmantissa hmarked
  have hweighty : Parts.Weighty ⟨false, [], ['5'], true, "1234567890".toList⟩ := .inr (Nat.zero_le 65844)
  exact ⟨hwritten, hweighty, (isFiniteLiteral_inRange _).2.1 _ hwritten hweighty⟩

/-! ## Exponents that are outweighed -/

section Outweighed

variable {zeros n : Nat} {power : List Char}

/-- The parts of a one with zeros behind it and a negative exponent. -/
def Parts.oneZeros (zeros : Nat) (power : List Char) : Parts :=
  ⟨false, '1' :: List.replicate zeros '0', [], true, power⟩

/-- The literal of these parts. -/
def oneZeros (zeros : Nat) (power : List Char) : String :=
  String.ofList (('1' :: List.replicate zeros '0') ++ 'e' :: '-' :: power)

theorem digits_oneZeros : Digits ('1' :: List.replicate zeros '0') := by
  intro c hc
  rcases List.mem_cons.mp hc with rfl | hc
  · rfl
  · rw [List.eq_of_mem_replicate hc]
    rfl

theorem written_oneZeros (nonempty : power ≠ []) (digits : Digits power) :
    Written (oneZeros zeros power).toList (.oneZeros zeros power) := by
  rw [oneZeros, String.toList_ofList]
  exact .intro .absent (.whole (List.cons_ne_nil _ _) digits_oneZeros)
    (.present (.inl rfl) .minus nonempty digits)

theorem Parts.length_whole_oneZeros : (oneZeros zeros power).whole.length = zeros + 1 := by
  simp [oneZeros]

theorem Parts.abs_scaled_oneZeros : |(oneZeros zeros power).scaled n| = 10 ^ ((zeros : ℤ) - n) := by
  have hdigits : Nat.ofDigitChars 10 ('1' :: List.replicate zeros '0') 0 = 10 ^ zeros := by
    rw [Nat.ofDigitChars_cons, Nat.ofDigitChars_replicate_zero]
    simp
  have hexponent : (oneZeros zeros power).exponent n = -(n : ℤ) := rfl
  rw [abs_scaled, hexponent]
  simp only [oneZeros, List.append_nil, hdigits, List.length_nil, Nat.cast_zero, sub_zero, Nat.cast_pow,
    Nat.cast_ofNat]
  rw [← zpow_natCast, ← zpow_add₀ (by norm_num), sub_eq_add_neg]

/-- The literal is checked as a number out of range if the digits that count leave 310 digits or more. -/
theorem le_abs_counted_oneZeros (h : exponentSize power + 309 ≤ zeros) :
    2 ^ 1024 - 2 ^ 970 ≤ |(Parts.oneZeros zeros power).counted| := by
  calc (2 : ℚ) ^ 1024 - 2 ^ 970 = overflowBound := overflowBound_eq.symm
    _ ≤ 10 ^ (309 : ℤ) := overflowBound_le_zpow
    _ ≤ 10 ^ ((zeros : ℤ) - exponentSize power) := zpow_le_zpow_right₀ (by norm_num) (by omega)
    _ = |(Parts.oneZeros zeros power).counted| := Parts.abs_scaled_oneZeros.symm

end Outweighed

/-- **An exponent that is outweighed.** A one with 66000 zeros behind it and the exponent -655360 denotes a
    number below one. Of the exponent all digits but the last one count, so it is checked as a number of 465
    digits and does not pass. -/
theorem isFiniteLiteral_outweighed :
    (∀ c ∈ (oneZeros 66000 "655360".toList).toList, Alphabet.isBodyChar c = true) ∧
      ¬ (isFiniteLiteral (oneZeros 66000 "655360".toList) = true ↔
        ∃ w, Written (oneZeros 66000 "655360".toList).toList w ∧ |w.value| < 2 ^ 1024 - 2 ^ 970) := by
  have hwritten : Written (oneZeros 66000 "655360".toList).toList (.oneZeros 66000 "655360".toList) :=
    written_oneZeros (by decide) (by simp [Digits])
  have hvalue : |(Parts.oneZeros 66000 "655360".toList).value| < 2 ^ 1024 - 2 ^ 970 := by
    have hpower : Nat.ofDigitChars 10 (Parts.oneZeros 66000 "655360".toList).power 0 = 655360 := by
      decide +kernel
    refine abs_scaled_lt hwritten.digits rfl ?_
    rw [Parts.length_whole_oneZeros, hpower]
    decide
  have hcounted : 2 ^ 1024 - 2 ^ 970 ≤ |(Parts.oneZeros 66000 "655360".toList).counted| := by
    have hpower : exponentSize "655360".toList = 65536 := by decide +kernel
    exact le_abs_counted_oneZeros (by omega)
  refine ⟨hwritten.isBodyChar, ?_⟩
  intro h
  obtain ⟨w, hw, hlt⟩ := isFiniteLiteral_iff_counted.mp (h.mpr ⟨_, hwritten, hvalue⟩)
  rw [hw.unique hwritten] at hlt
  exact absurd hlt (not_lt_of_ge hcounted)

end QueueService.Number
