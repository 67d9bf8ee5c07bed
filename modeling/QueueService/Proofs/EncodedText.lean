import Mathlib
import QueueService.Text.Utf8

/-!
# Text as bytes

The UTF-8 form of a text says as much as the text, and in the same order. A character is written as a first
byte, which says how many bytes follow it, and the digits to the base 64 of its number
(`utf8EncodeChar_eq`). So the character with the lower number has the lower bytes, whatever stands behind
them, and the same goes for whole texts.

* `Utf8.encode_lt_iff` — the order of texts is that of their bytes.
* `Utf8.encode_inj` — different texts have different bytes.
-/

namespace QueueService.Utf8

/-! ## Bytes of numbers -/

/-- Bytes are compared by their numbers, and the first that differ decide. -/
theorem ofNat_cons_lt {a b : Nat} {x y : List UInt8} (hb : b < 256) (h : a < b ∨ a = b ∧ x < y) :
    UInt8.ofNat a :: x < UInt8.ofNat b :: y := by
  rw [List.cons_lt_cons_iff]
  rcases h with h | ⟨rfl, h⟩
  · left
    have ha : a < 256 := Nat.lt_trans h hb
    rw [UInt8.lt_iff_toNat_lt, UInt8.toNat_ofNat_of_lt' ha, UInt8.toNat_ofNat_of_lt' hb]
    exact h
  · exact .inr ⟨rfl, h⟩

/-- Of two numbers the lower one has the lower quotient, or else the lower remainder. -/
theorem div_lt_or_mod_lt {m n : Nat} (h : m < n) (b : Nat) :
    m / b < n / b ∨ m / b = n / b ∧ m % b < n % b := by
  rcases Nat.lt_or_eq_of_le (Nat.div_le_div_right (c := b) (Nat.le_of_lt h)) with hlt | heq
  · exact .inl hlt
  · have hm := Nat.div_add_mod m b
    have hn := Nat.div_add_mod n b
    rw [heq] at hm
    exact .inr ⟨heq, by omega⟩

/-- The last `k` digits of a number to the base 64, each as a continuation byte. -/
def continuation : Nat → Nat → List UInt8
  | 0, _ => []
  | k + 1, n => UInt8.ofNat (n / 64 ^ k % 64 + 0x80) :: continuation k n

theorem continuation_lt {k m n : Nat} (h : m % 64 ^ k < n % 64 ^ k) (x y : List UInt8) :
    continuation k m ++ x < continuation k n ++ y := by
  induction k with
  | zero => exact absurd h (by simp [Nat.mod_one])
  | succ k ih =>
      have hdigit (n : Nat) : n % 64 ^ (k + 1) / 64 ^ k = n / 64 ^ k % 64 := by
        rw [Nat.pow_succ, Nat.mod_mul_right_div_self]
      have hrest (n : Nat) : n % 64 ^ (k + 1) % 64 ^ k = n % 64 ^ k :=
        Nat.mod_mod_of_dvd n (Nat.pow_dvd_pow 64 (Nat.le_succ k))
      have hcases := div_lt_or_mod_lt h (64 ^ k)
      rw [hdigit, hdigit, hrest, hrest] at hcases
      refine ofNat_cons_lt (by omega) ?_
      rcases hcases with hlt | ⟨heq, hlt⟩
      · exact .inl (by omega)
      · exact .inr ⟨by rw [heq], ih hlt⟩

/-! ## Characters -/

/-- How many bytes follow the first one of a character with a given number. -/
def followers (n : Nat) : Nat :=
  if n ≤ 0x7F then 0 else if n ≤ 0x7FF then 1 else if n ≤ 0xFFFF then 2 else 3

/-- The bits of a first byte that say how many others follow it. -/
def mark : Nat → Nat
  | 0 => 0
  | 1 => 0xC0
  | 2 => 0xE0
  | _ => 0xF0

/-- The first byte of the character with a given number. -/
def lead (n : Nat) : Nat := n / 64 ^ followers n + mark (followers n)

theorem toNat_lt (c : Char) : c.toNat < 0x110000 := by
  have hvalid := c.valid
  simp only [UInt32.isValidChar, Nat.isValidChar] at hvalid
  show c.val.toNat < _
  omega

/-- **Characters.** Behind the first byte stand the digits that it has no room for. -/
theorem utf8EncodeChar_eq (c : Char) :
    String.utf8EncodeChar c =
      UInt8.ofNat (lead c.toNat) :: continuation (followers c.toNat) c.toNat := by
  have hc := toNat_lt c
  have hval : c.val.toNat = c.toNat := rfl
  unfold String.utf8EncodeChar lead followers
  rw [hval]
  dsimp only
  split
  · simp [continuation, mark]
  · split
    · have hdigit : c.toNat / 64 % 32 = c.toNat / 64 := by omega
      simp [continuation, mark, hdigit]
    · split
      · have hdigit : c.toNat / 4096 % 16 = c.toNat / 4096 := by omega
        simp [continuation, mark, hdigit]
      · have hdigit : c.toNat / 262144 % 8 = c.toNat / 262144 := by omega
        simp [continuation, mark, hdigit]

/-- Each number of followers stands for one range of numbers. -/
theorem followers_cases (n : Nat) :
    n ≤ 0x7F ∧ followers n = 0 ∨ 0x7F < n ∧ n ≤ 0x7FF ∧ followers n = 1 ∨
      0x7FF < n ∧ n ≤ 0xFFFF ∧ followers n = 2 ∨ 0xFFFF < n ∧ followers n = 3 := by
  unfold followers
  split
  · exact .inl ⟨‹_›, rfl⟩
  · split
    · exact .inr (.inl ⟨by omega, ‹_›, rfl⟩)
    · split
      · exact .inr (.inr (.inl ⟨by omega, ‹_›, rfl⟩))
      · exact .inr (.inr (.inr ⟨by omega, rfl⟩))

/-- **First bytes.** Each length has its own range of them, and longer forms have the higher ranges. -/
theorem lead_range {n : Nat} (h : n < 0x110000) :
    n ≤ 0x7F ∧ followers n = 0 ∧ lead n ≤ 0x7F ∨
      0x7F < n ∧ n ≤ 0x7FF ∧ followers n = 1 ∧ 0xC0 ≤ lead n ∧ lead n ≤ 0xDF ∨
      0x7FF < n ∧ n ≤ 0xFFFF ∧ followers n = 2 ∧ 0xE0 ≤ lead n ∧ lead n ≤ 0xEF ∨
      0xFFFF < n ∧ followers n = 3 ∧ 0xF0 ≤ lead n ∧ lead n ≤ 0xF7 := by
  have hlead : lead n = n / 64 ^ followers n + mark (followers n) := rfl
  rcases followers_cases n with ⟨hn, hk⟩ | ⟨hlow, hn, hk⟩ | ⟨hlow, hn, hk⟩ | ⟨hlow, hk⟩ <;>
    simp only [hk, mark, Nat.reducePow] at hlead
  · exact .inl ⟨hn, hk, by omega⟩
  · exact .inr (.inl ⟨hlow, hn, hk, by omega⟩)
  · exact .inr (.inr (.inl ⟨hlow, hn, hk, by omega⟩))
  · exact .inr (.inr (.inr ⟨hlow, hk, by omega⟩))

/-- **The order of characters.** The character with the lower number has the lower bytes, whatever stands
    behind them. -/
theorem utf8EncodeChar_lt {c d : Char} (h : c < d) (x y : List UInt8) :
    String.utf8EncodeChar c ++ x < String.utf8EncodeChar d ++ y := by
  have hlt : c.toNat < d.toNat := h
  have hc := toNat_lt c
  have hd := toNat_lt d
  rw [utf8EncodeChar_eq, utf8EncodeChar_eq, List.cons_append, List.cons_append]
  have hrange := lead_range hc
  have hrange' := lead_range hd
  refine ofNat_cons_lt (by omega) ?_
  by_cases hsame : followers c.toNat = followers d.toNat
  · -- forms of one length are compared digit by digit
    unfold lead
    rw [hsame]
    rcases div_lt_or_mod_lt hlt (64 ^ followers d.toNat) with hfirst | ⟨hfirst, hrest⟩
    · exact .inl (by omega)
    · exact .inr ⟨by rw [hfirst], continuation_lt hrest x y⟩
  · exact .inl (by omega)

/-! ## Texts -/

theorem flatMap_lt {cs ds : List Char} (h : cs < ds) :
    cs.flatMap String.utf8EncodeChar < ds.flatMap String.utf8EncodeChar := by
  induction cs generalizing ds with
  | nil =>
      cases ds with
      | nil => exact absurd h (List.lt_irrefl [])
      | cons d ds =>
          rw [List.flatMap_nil, List.flatMap_cons, utf8EncodeChar_eq, List.cons_append]
          exact List.nil_lt_cons _ _
  | cons c cs ih =>
      cases ds with
      | nil => exact absurd h (List.not_lt_nil _)
      | cons d ds =>
          rw [List.flatMap_cons, List.flatMap_cons]
          rcases List.cons_lt_cons_iff.mp h with hlt | ⟨rfl, hlt⟩
          · exact utf8EncodeChar_lt hlt _ _
          · exact List.append_left_lt (ih hlt)

theorem encode_lt {a b : String} (h : a < b) : encode a < encode b := flatMap_lt (String.lt_iff.mp h)

/-- **Different texts have different bytes.** -/
theorem encode_inj {a b : String} : encode a = encode b ↔ a = b := by
  refine ⟨fun h => ?_, fun h => by rw [h]⟩
  rcases Std.lt_trichotomy a b with hlt | heq | hlt
  · exact absurd (h ▸ encode_lt hlt) (List.lt_irrefl _)
  · exact heq
  · exact absurd (h ▸ encode_lt hlt) (List.lt_irrefl _)

/-- **The order of texts is that of their bytes.** -/
theorem encode_lt_iff {a b : String} : encode a < encode b ↔ a < b := by
  refine ⟨fun h => ?_, encode_lt⟩
  rcases Std.lt_trichotomy a b with hlt | rfl | hlt
  · exact hlt
  · exact absurd h (List.lt_irrefl _)
  · exact absurd h (List.lt_asymm (encode_lt hlt))

theorem length_encode (text : String) : (encode text).length = text.utf8ByteSize := by
  conv => rhs; rw [← String.ofList_toList (s := text)]
  rw [encode, String.utf8ByteSize, String.toByteArray_ofList, List.utf8Encode, List.size_toByteArray]

end QueueService.Utf8
