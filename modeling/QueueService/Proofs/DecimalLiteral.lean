import Mathlib
import QueueService.Text.Integer
import QueueService.Text.Number

/-!
# Spelled literals

Which texts spell a decimal literal, and which of the literals round to a finite number of binary64. The
reader takes a literal apart from the front, so that each part has to be seen to end where the next begins:
digits end at a point or an exponent, and what stands behind a sign does not begin with one.

* `Number.Spelled` — the grammar, with the literal that a text spells; `Number.parse?_eq_some_iff` says that
  it is the literal that is read.
* `Number.exponentUpTo?_eq_some_iff`, `Number.countedUpTo_eq` — exponents whose digits count up to a bound.
* `Number.Literal.isFinite_iff` — a literal is finite if and only if its exact value is below the bound of
  the range, also where no power of ten is formed.
* `Number.isFiniteLiteral_iff` — both together.
-/

namespace QueueService.Number

/-! ## Grammar -/

/-- The text is a run of digits. -/
def Digits (cs : List Char) : Prop := ∀ c ∈ cs, c.isDigit = true

/-- An optional sign, and whether it is a minus. -/
inductive SpelledSign : List Char → Bool → Prop
  | absent : SpelledSign [] false
  | plus : SpelledSign ['+'] false
  | minus : SpelledSign ['-'] true

/-- An optional point, and the digits behind it. -/
inductive SpelledFraction : List Char → List Char → Prop
  | absent : SpelledFraction [] []
  | present {ds : List Char} (digits : Digits ds) : SpelledFraction ('.' :: ds) ds

/-- Nothing, or a mark, perhaps a sign, and digits. -/
inductive Marked : List Char → Bool → List Char → Prop
  | absent : Marked [] false []
  | present {mark : Char} {sign ds : List Char} {negative : Bool} (marked : mark = 'e' ∨ mark = 'E')
      (signed : SpelledSign sign negative) (nonempty : ds ≠ []) (digits : Digits ds) :
      Marked (mark :: (sign ++ ds)) negative ds

/-- An optional exponent, and its value. -/
inductive SpelledExponent : List Char → Int → Prop
  | absent : SpelledExponent [] 0
  | present {marker : Char} {sign ds : List Char} {negative : Bool} (marked : marker = 'e' ∨ marker = 'E')
      (signed : SpelledSign sign negative) (nonempty : ds ≠ []) (digits : Digits ds) :
      SpelledExponent (marker :: (sign ++ ds))
        (if negative then -(exponentSize ds : Int) else exponentSize ds)

/-- **A decimal literal:** a sign, digits, a point with digits and an exponent, each of which may be missing
    except that there is a digit before the exponent. -/
inductive Spelled : List Char → Literal → Prop
  | intro {sign whole point fraction marked : List Char} {negative : Bool} {exponent : Int}
      (signed : SpelledSign sign negative) (digits : Digits whole)
      (pointed : SpelledFraction point fraction) (nonempty : whole ++ fraction ≠ [])
      (scaled : SpelledExponent marked exponent) :
      Spelled (sign ++ (whole ++ (point ++ marked)))
        ⟨negative, whole ++ fraction, exponent - fraction.length⟩

/-- An exponent is spelled by a mark, a sign and digits. -/
theorem spelledExponent_iff {cs : List Char} {e : Int} : SpelledExponent cs e ↔
    ∃ lowering power, Marked cs lowering power ∧
      (if lowering then -(exponentSize power : Int) else exponentSize power) = e := by
  constructor
  · intro h
    cases h with
    | absent => exact ⟨_, _, .absent, rfl⟩
    | present marked signed nonempty digits =>
        exact ⟨_, _, .present marked signed nonempty digits, rfl⟩
  · rintro ⟨lowering, power, hmarked, rfl⟩
    cases hmarked with
    | absent => exact .absent
    | present marked signed nonempty digits => exact .present marked signed nonempty digits

/-- The digits of a literal are those before and behind its point. -/
theorem Spelled.digits {cs : List Char} {l : Literal} (h : Spelled cs l) : Digits l.digits := by
  obtain ⟨-, whole, pointed, -, -⟩ := h
  intro c hc
  rcases List.mem_append.mp hc with hc | hc
  · exact whole c hc
  · cases pointed with
    | absent => cases hc
    | present digits => exact digits c hc

/-! ## Parts of a literal -/

/-- The text does not begin with a digit. -/
def NoDigitHead (cs : List Char) : Prop := ∀ c, cs.head? = some c → c.isDigit = false

/-- The text does not begin with a sign. -/
def NoSignHead (cs : List Char) : Prop := ∀ c, cs.head? = some c → c ≠ '+' ∧ c ≠ '-'

theorem NoDigitHead.cons {c : Char} (h : c.isDigit = false) (cs : List Char) : NoDigitHead (c :: cs) := by
  rintro _ ⟨⟩
  exact h

theorem NoSignHead.of_digit {c : Char} (h : c.isDigit = true) (cs : List Char) : NoSignHead (c :: cs) := by
  rintro _ ⟨⟩
  constructor <;> rintro rfl <;> cases h

theorem splitSign_spelled (cs : List Char) :
    ∃ sign, SpelledSign sign (splitSign cs).1 ∧ cs = sign ++ (splitSign cs).2 := by
  unfold splitSign
  split
  · exact ⟨['-'], .minus, rfl⟩
  · exact ⟨['+'], .plus, rfl⟩
  · exact ⟨[], .absent, rfl⟩

theorem SpelledSign.splitSign {sign : List Char} {negative : Bool} (h : SpelledSign sign negative)
    {rest : List Char} (hrest : NoSignHead rest) : splitSign (sign ++ rest) = (negative, rest) := by
  cases h with
  | plus | minus => rfl
  | absent =>
      rw [List.nil_append]
      unfold Number.splitSign
      split
      · exact absurd rfl (hrest '-' rfl).2
      · exact absurd rfl (hrest '+' rfl).1
      · rfl

theorem digits_splitDigits (cs : List Char) : Digits (splitDigits cs).1 :=
  List.all_eq_true.mp List.all_takeWhile

theorem splitDigits_append (cs : List Char) : cs = (splitDigits cs).1 ++ (splitDigits cs).2 :=
  List.takeWhile_append_dropWhile.symm

theorem Digits.splitDigits {ds : List Char} (h : Digits ds) {rest : List Char} (hrest : NoDigitHead rest) :
    splitDigits (ds ++ rest) = (ds, rest) := by
  rw [Number.splitDigits, List.takeWhile_append_of_pos h, List.dropWhile_append_of_pos h]
  cases rest with
  | nil => rw [List.takeWhile_nil, List.dropWhile_nil, List.append_nil]
  | cons c rest =>
      have hc : ¬ c.isDigit = true := by simp [hrest c rfl]
      rw [List.takeWhile_cons_of_neg hc, List.dropWhile_cons_of_neg hc, List.append_nil]

theorem splitFraction_spelled (cs : List Char) :
    ∃ point, SpelledFraction point (splitFraction cs).1 ∧ cs = point ++ (splitFraction cs).2 := by
  unfold splitFraction
  split
  · next rest => exact ⟨_, .present (digits_splitDigits rest), congrArg _ (splitDigits_append rest)⟩
  · exact ⟨[], .absent, rfl⟩

/-- An exponent begins with neither a digit nor a point. -/
theorem Marked.head {cs power : List Char} {lowering : Bool} (h : Marked cs lowering power) :
    NoDigitHead cs ∧ cs.head? ≠ some '.' := by
  cases h with
  | absent => exact ⟨nofun, nofun⟩
  | present marked signed nonempty digits =>
      rcases marked with rfl | rfl
      · exact ⟨.cons rfl _, nofun⟩
      · exact ⟨.cons rfl _, nofun⟩

theorem SpelledExponent.head {marked : List Char} {e : Int} (h : SpelledExponent marked e) :
    NoDigitHead marked ∧ marked.head? ≠ some '.' := by
  obtain ⟨lowering, power, hmarked, -⟩ := spelledExponent_iff.mp h
  exact hmarked.head

theorem SpelledFraction.splitFraction {point fraction : List Char} (h : SpelledFraction point fraction)
    {marked : List Char} {e : Int} (hmarked : SpelledExponent marked e) :
    splitFraction (point ++ marked) = (fraction, marked) := by
  cases h with
  | present digits => exact digits.splitDigits hmarked.head.1
  | absent =>
      rw [List.nil_append]
      unfold Number.splitFraction
      split
      · exact absurd rfl hmarked.head.2
      · rfl

/-- A point or an exponent stands behind the digits. -/
theorem SpelledFraction.head {point fraction : List Char} (h : SpelledFraction point fraction)
    {marked : List Char} {e : Int} (hmarked : SpelledExponent marked e) : NoDigitHead (point ++ marked) := by
  cases h with
  | present digits => exact .cons rfl _
  | absent => exact hmarked.head.1

theorem Digits.noSignHead {ds : List Char} (h : Digits ds) (hne : ds ≠ []) : NoSignHead ds := by
  cases ds with
  | nil => exact absurd rfl hne
  | cons c ds => exact .of_digit (h c List.mem_cons_self) ds

/-- **Exponents** are read as they are spelled, with their digits counted up to the bound. -/
theorem exponentUpTo?_eq_some_iff {bound : Nat} {cs : List Char} {e : Int} :
    exponentUpTo? bound cs = some e ↔ ∃ lowering power, Marked cs lowering power ∧
      (if lowering then -(countedUpTo bound power : Int) else countedUpTo bound power) = e := by
  constructor
  · intro h
    cases cs with
    | nil => cases h; exact ⟨_, _, .absent, rfl⟩
    | cons c rest =>
        obtain ⟨sign, hsigned, hrest⟩ := splitSign_spelled rest
        rw [exponentUpTo?] at h
        split at h
        · next hmarked =>
          simp only at h
          split at h
          · next hdigits =>
            cases h
            rw [Bool.and_eq_true, Bool.not_eq_true', List.isEmpty_eq_false_iff] at hdigits
            have hspelled := Marked.present hmarked hsigned hdigits.1 (List.all_eq_true.mp hdigits.2)
            rw [← hrest] at hspelled
            exact ⟨_, _, hspelled, rfl⟩
          · cases h
        · cases h
  · rintro ⟨lowering, power, hmarked, rfl⟩
    cases hmarked with
    | absent => rfl
    | present marked signed nonempty digits =>
        have hall : (!power.isEmpty && power.all Char.isDigit) = true := by
          rw [Bool.and_eq_true, Bool.not_eq_true', List.isEmpty_eq_false_iff]
          exact ⟨nonempty, List.all_eq_true.mpr digits⟩
        simp only [exponentUpTo?, if_pos marked, signed.splitSign (digits.noSignHead nonempty),
          if_pos hall]

theorem exponent?_eq_some_iff {cs : List Char} {e : Int} :
    exponent? cs = some e ↔ SpelledExponent cs e :=
  exponentUpTo?_eq_some_iff.trans spelledExponent_iff.symm

/-- What stands behind a sign does not begin with one. -/
theorem noSignHead_unsigned {whole point fraction marked : List Char} (digits : Digits whole)
    (pointed : SpelledFraction point fraction) (nonempty : whole ++ fraction ≠ []) :
    NoSignHead (whole ++ (point ++ marked)) := by
  cases whole with
  | cons c whole => exact .of_digit (digits c List.mem_cons_self) _
  | nil =>
      cases pointed with
      | absent => exact absurd rfl nonempty
      | present _ =>
          rintro _ ⟨⟩
          decide

/-- **Literals** are read as they are spelled. -/
theorem parse?_eq_some_iff {cs : List Char} {l : Literal} :
    Literal.parse? cs = some l ↔ Spelled cs l := by
  constructor
  · intro h
    obtain ⟨sign, hsigned, hsign⟩ := splitSign_spelled cs
    obtain ⟨point, hpointed, hpoint⟩ := splitFraction_spelled (splitDigits (splitSign cs).2).2
    unfold Literal.parse? at h
    simp only at h
    split at h
    · cases h
    · next hdigits =>
      obtain ⟨e, he, rfl⟩ := Option.map_eq_some_iff.mp h
      have hnonempty : (splitDigits (splitSign cs).2).1 ++
          (splitFraction (splitDigits (splitSign cs).2).2).1 ≠ [] := by
        simpa using hdigits
      have hspelled := Spelled.intro hsigned (digits_splitDigits _) hpointed hnonempty
        (exponent?_eq_some_iff.mp he)
      rwa [← hpoint, ← splitDigits_append, ← hsign] at hspelled
  · rintro ⟨signed, digits, pointed, nonempty, scaled⟩
    simp only [Literal.parse?, signed.splitSign (noSignHead_unsigned digits pointed nonempty),
      digits.splitDigits (pointed.head scaled), pointed.splitFraction scaled]
    rw [if_neg (by simpa using nonempty), exponent?_eq_some_iff.mpr scaled, Option.map_some]

/-! ## Exponents -/

theorem countedUpTo_append_singleton (bound : Nat) (ds : List Char) (c : Char) :
    countedUpTo bound (ds ++ [c]) =
      if countedUpTo bound ds < bound then 10 * countedUpTo bound ds + (c.toNat - '0'.toNat)
      else countedUpTo bound ds := by
  rw [countedUpTo, List.foldl_append]
  rfl

/-- Digits that do not count make an exponent smaller, and only one that stays at the bound or above. -/
theorem countedUpTo_le (bound : Nat) (ds : List Char) :
    countedUpTo bound ds ≤ Nat.ofDigitChars 10 ds 0 ∧
      (countedUpTo bound ds < bound → countedUpTo bound ds = Nat.ofDigitChars 10 ds 0) := by
  induction ds using List.reverseRecOn with
  | nil => exact ⟨Nat.le_refl 0, fun _ => rfl⟩
  | append_singleton ds c ih =>
      rw [countedUpTo_append_singleton, Nat.ofDigitChars_append, Nat.ofDigitChars_cons,
        Nat.ofDigitChars_nil]
      by_cases hsmall : countedUpTo bound ds < bound
      · rw [if_pos hsmall, ih.2 hsmall]
        exact ⟨Nat.le_refl _, fun _ => rfl⟩
      · rw [if_neg hsmall]
        omega

/-- Of an exponent below ten times the bound every digit counts. -/
theorem countedUpTo_eq {bound : Nat} {ds : List Char} (h : Nat.ofDigitChars 10 ds 0 < 10 * bound) :
    countedUpTo bound ds = Nat.ofDigitChars 10 ds 0 := by
  cases ds using List.reverseRecOn with
  | nil => rfl
  | append_singleton ds c =>
      rw [Nat.ofDigitChars_append, Nat.ofDigitChars_cons, Nat.ofDigitChars_nil] at h ⊢
      obtain ⟨hle, heq⟩ := countedUpTo_le bound ds
      have hsmall : countedUpTo bound ds < bound := by omega
      rw [countedUpTo_append_singleton, if_pos hsmall, heq hsmall]

/-! ## Size -/

/-- The absolute value of a literal. -/
def Literal.magnitude (l : Literal) : ℚ := l.significand * (10 : ℚ) ^ l.exponent

/-- Digits spell a number of no more digits. -/
theorem ofDigitChars_lt {ds : List Char} (h : Digits ds) (n : Nat) :
    Nat.ofDigitChars 10 ds n < (n + 1) * 10 ^ ds.length := by
  induction ds generalizing n with
  | nil => simp
  | cons c ds ih =>
      have hc : c.toNat - '0'.toNat < 10 := Integer.digit_lt (h c List.mem_cons_self)
      rw [Nat.ofDigitChars_cons, List.length_cons, Nat.pow_succ]
      refine Nat.lt_of_lt_of_le (ih (fun d hd => h d (List.mem_cons_of_mem c hd)) _) ?_
      calc (10 * n + (c.toNat - '0'.toNat) + 1) * 10 ^ ds.length
          ≤ (10 * (n + 1)) * 10 ^ ds.length := Nat.mul_le_mul_right _ (by omega)
        _ = (n + 1) * (10 ^ ds.length * 10) := by ring

theorem overflowBound_pos : 0 < overflowBound := by decide +kernel

/-- Powers of ten from the 309th on are out of range. -/
theorem overflowBound_lt_pow {e : Nat} (h : 309 ≤ e) : overflowBound < 10 ^ e := by
  obtain ⟨more, rfl⟩ : ∃ more, e = 154 + (155 + more) := ⟨e - 309, by omega⟩
  have hsplit : overflowBound < 10 ^ 154 * 10 ^ 155 := by decide +kernel
  calc overflowBound < 10 ^ 154 * 10 ^ 155 := hsplit
    _ ≤ 10 ^ 154 * 10 ^ 155 * 10 ^ more := Nat.le_mul_of_pos_right _ (Nat.pow_pos (by decide))
    _ = 10 ^ (154 + (155 + more)) := by rw [Nat.pow_add, Nat.pow_add, Nat.mul_assoc]

/-- **Size.** The literals that are finite are those below the bound of the range. -/
theorem Literal.isFinite_iff {l : Literal} (h : Digits l.digits) :
    l.isFinite = true ↔ l.magnitude < overflowBound := by
  by_cases hzero : l.significand = 0
  · simp [isFinite, magnitude, hzero, overflowBound_pos]
  have hpos := Nat.pos_of_ne_zero hzero
  cases hexponent : l.exponent with
  | ofNat e =>
      have hmagnitude : l.magnitude = ((l.significand * 10 ^ e : Nat) : ℚ) := by
        simp [magnitude, hexponent]
      -- a power of ten that is too large is not formed
      have hlarge : l.significand * 10 ^ e < overflowBound → e < 309 := by
        intro hlt
        by_contra hlarge
        have hbound := overflowBound_lt_pow (Nat.le_of_not_lt hlarge)
        have hpow : 10 ^ e ≤ l.significand * 10 ^ e := Nat.le_mul_of_pos_left _ hpos
        omega
      rw [hmagnitude, Nat.cast_lt]
      simpa [isFinite, hexponent, hzero] using hlarge
  | negSucc e =>
      have hscale : (0 : ℚ) < 10 ^ (e + 1) := by positivity
      have hmagnitude : l.magnitude = l.significand / 10 ^ (e + 1) := by
        rw [magnitude, hexponent, zpow_negSucc, div_eq_mul_inv]
      -- a number with no more digits than the power of ten is less than one
      have hsmall : l.digits.length ≤ e → l.significand < overflowBound * 10 ^ (e + 1) := by
        intro hle
        calc l.significand < 10 ^ l.digits.length := by simpa [significand] using ofDigitChars_lt h 0
          _ ≤ 10 ^ (e + 1) := Nat.pow_le_pow_right (by decide) (by omega)
          _ ≤ overflowBound * 10 ^ (e + 1) := Nat.le_mul_of_pos_left _ overflowBound_pos
      rw [hmagnitude, div_lt_iff₀ hscale]
      have hcast : (l.significand : ℚ) < overflowBound * 10 ^ (e + 1) ↔
          l.significand < overflowBound * 10 ^ (e + 1) := by exact_mod_cast Iff.rfl
      rw [hcast]
      simpa [isFinite, hexponent, hzero] using hsmall

/-- **Finite literals.** A text is a finite literal if it spells one that is below the bound of the range. -/
def FiniteLiteral (text : String) : Prop :=
  ∃ l, Spelled text.toList l ∧ l.magnitude < overflowBound

/-- **The check of numbers** accepts the finite literals. -/
theorem isFiniteLiteral_iff {text : String} : isFiniteLiteral text = true ↔ FiniteLiteral text := by
  rw [isFiniteLiteral, Option.any_eq_true, FiniteLiteral]
  refine exists_congr fun l => ?_
  rw [parse?_eq_some_iff]
  exact and_congr_right fun hspelled => Literal.isFinite_iff hspelled.digits

end QueueService.Number
