import QueueService.Text.Base64

/-!
# Bytes as text

Bytes that were written as text are read back, and no other text is read. Writing and reading go through
the text group by group, so that what has to be seen is that four digits have the three bytes of their
group, and that a group with padding has the one or two bytes that were left. Conversely a group that is
read has no bits beside those of its bytes, so that it is what the bytes are written as.

* `Base64.decode?_encode` — bytes come back from their text.
* `Base64.decode?_eq_some_iff` — each sequence of bytes has one text.
-/

namespace QueueService.Base64

/-! ## Groups of digits -/

/-- The written form of bytes from the front, group by group. -/
def groups : List UInt8 → List Char
  | [] => []
  | [a] => [digitChar (a.toNat / 4), digitChar (a.toNat % 4 * 16), '=', '=']
  | [a, b] =>
    [digitChar (a.toNat / 4), digitChar (a.toNat % 4 * 16 + b.toNat / 16),
      digitChar (b.toNat % 16 * 4), '=']
  | a :: b :: c :: rest =>
    digitChar (a.toNat / 4) :: digitChar (a.toNat % 4 * 16 + b.toNat / 16) ::
      digitChar (b.toNat % 16 * 4 + c.toNat / 64) :: digitChar (c.toNat % 64) :: groups rest

theorem write_eq_groups (acc : List Char) (bytes : List UInt8) :
    write acc bytes = (groups bytes).reverse ++ acc := by
  induction acc, bytes using write.induct with
  | case1 | case2 | case3 => rfl
  | case4 acc a b c rest ih =>
      rw [write, ih, groups]
      simp

theorem toList_encode (bytes : List UInt8) : (encode bytes).toList = groups bytes := by
  rw [encode, String.toList_ofList, write_eq_groups, List.append_nil, List.reverse_reverse]

/-- Padding is no digit. -/
theorem digitChar_ne_padding {n : Nat} (h : n < 64) : digitChar n ≠ '=' := by
  have hall : ∀ m ∈ List.range 64, digitChar m ≠ '=' := by decide
  exact hall n (List.mem_range.mpr h)

/-- The byte of a number is the one that the number was taken from. -/
theorem ofNat_eq {n : Nat} {a : UInt8} (h : n = a.toNat) : UInt8.ofNat n = a := by
  rw [h, UInt8.ofNat_toNat]

/-- The first byte of a group has its high bits in the first digit and its low bits in the second. -/
theorem firstByte_eq (a b : UInt8) :
    UInt8.ofNat (a.toNat / 4 * 4 + (a.toNat % 4 * 16 + b.toNat / 16) / 16) = a := by
  have hb := b.toNat_lt
  exact ofNat_eq (by omega)

theorem group?_digits (a b c : UInt8) :
    group? (digitChar (a.toNat / 4)) (digitChar (a.toNat % 4 * 16 + b.toNat / 16))
        (digitChar (b.toNat % 16 * 4 + c.toNat / 64)) (digitChar (c.toNat % 64)) =
      some [c, b, a] := by
  have ha := a.toNat_lt
  have hb := b.toNat_lt
  have hc := c.toNat_lt
  have hlast : UInt8.ofNat ((b.toNat % 16 * 4 + c.toNat / 64) % 4 * 64 + c.toNat % 64) = c :=
    ofNat_eq (by omega)
  have hmiddle : UInt8.ofNat ((a.toNat % 4 * 16 + b.toNat / 16) % 16 * 16 +
      (b.toNat % 16 * 4 + c.toNat / 64) / 4) = b := ofNat_eq (by omega)
  unfold group?
  rw [digitValue?_digitChar (by omega), digitValue?_digitChar (by omega),
    digitValue?_digitChar (by omega), digitValue?_digitChar (by omega)]
  show some [_, _, _] = _
  rw [hlast, hmiddle, firstByte_eq]

theorem lastGroup?_one (a : UInt8) :
    lastGroup? (digitChar (a.toNat / 4)) (digitChar (a.toNat % 4 * 16)) '=' '=' = some [a] := by
  have ha := a.toNat_lt
  have hfirst : UInt8.ofNat (a.toNat / 4 * 4 + a.toNat % 4 * 16 / 16) = a := ofNat_eq (by omega)
  unfold lastGroup?
  rw [if_pos rfl, if_pos rfl, digitValue?_digitChar (by omega), digitValue?_digitChar (by omega)]
  show (if _ then some [_] else none) = _
  rw [if_pos (by omega), hfirst]

theorem lastGroup?_two (a b : UInt8) :
    lastGroup? (digitChar (a.toNat / 4)) (digitChar (a.toNat % 4 * 16 + b.toNat / 16))
        (digitChar (b.toNat % 16 * 4)) '=' = some [b, a] := by
  have ha := a.toNat_lt
  have hb := b.toNat_lt
  have hmiddle : UInt8.ofNat ((a.toNat % 4 * 16 + b.toNat / 16) % 16 * 16 + b.toNat % 16 * 4 / 4) =
      b := ofNat_eq (by omega)
  unfold lastGroup?
  rw [if_pos rfl, if_neg (digitChar_ne_padding (by omega)), digitValue?_digitChar (by omega),
    digitValue?_digitChar (by omega), digitValue?_digitChar (by omega)]
  show (if _ then some [_, _] else none) = _
  -- the bits that are left over in the last digit are zero
  rw [if_pos (by omega), hmiddle, firstByte_eq]

/-! ## Reading -/

/-- A full group is read, also where it is the last one. -/
theorem read?_group {p q r s : Char} {bytes : List UInt8} (hgroup : group? p q r s = some bytes)
    (hpadding : s ≠ '=') (acc : List UInt8) (rest : List Char) :
    read? acc (p :: q :: r :: s :: rest) = read? (bytes ++ acc) rest := by
  cases rest with
  | nil => simp only [read?, lastGroup?, if_neg hpadding, hgroup, Option.map_some]
  | cons t rest => simp only [read?, hgroup]

theorem read?_groups (acc bytes : List UInt8) :
    read? acc (groups bytes) = some (bytes.reverse ++ acc) := by
  -- the reader collects the bytes in reverse, in front of those that it has read already
  induction bytes using groups.induct generalizing acc with
  | case1 => rfl
  | case2 a => simp only [groups, read?, lastGroup?_one, Option.map_some, List.reverse_singleton]
  | case3 a b =>
      simp only [groups, read?, lastGroup?_two, Option.map_some]
      rfl
  | case4 a b c rest ih =>
      have hc := c.toNat_lt
      rw [groups, read?_group (group?_digits a b c) (digitChar_ne_padding (by omega)), ih]
      simp

/-- **Bytes come back from their text.** -/
theorem decode?_encode (bytes : List UInt8) : decode? (encode bytes) = some bytes := by
  rw [decode?, toList_encode, read?_groups, Option.map_some, List.append_nil, List.reverse_reverse]

/-! ## Canonical text -/

/-- A digit is written from the value that it is read as. -/
theorem digitChar_of_digitValue? {c : Char} {n : Nat} (h : digitValue? c = some n) :
    n < 64 ∧ c = digitChar n := by
  unfold digitValue? at h
  simp only [Bool.and_eq_true, decide_eq_true_eq] at h
  split at h
  · cases h
    rw [digitChar, if_pos (by omega), show 0x41 + (c.toNat - 0x41) = c.toNat by omega,
      Char.ofNat_toNat]
    exact ⟨by omega, rfl⟩
  split at h
  · cases h
    rw [digitChar, if_neg (by omega), if_pos (by omega),
      show 0x61 + (c.toNat - 0x61 + 26 - 26) = c.toNat by omega, Char.ofNat_toNat]
    exact ⟨by omega, rfl⟩
  split at h
  · cases h
    rw [digitChar, if_neg (by omega), if_neg (by omega), if_pos (by omega),
      show 0x30 + (c.toNat - 0x30 + 52 - 52) = c.toNat by omega, Char.ofNat_toNat]
    exact ⟨by omega, rfl⟩
  split at h
  · next hplus => cases h; exact ⟨by decide, hplus⟩
  split at h
  · next hslash => cases h; exact ⟨by decide, hslash⟩
  · cases h

/-- A full group that is read is the written form of three bytes, whatever is written behind them. -/
theorem groups_of_group? {p q r s : Char} {bytes : List UInt8} (h : group? p q r s = some bytes) :
    ∃ a b c, bytes = [c, b, a] ∧
      ∀ rest, groups (a :: b :: c :: rest) = p :: q :: r :: s :: groups rest := by
  unfold group? at h
  simp only [Option.bind_eq_bind, Option.bind_eq_some_iff] at h
  obtain ⟨i, hi, j, hj, k, hk, l, hl, heq⟩ := h
  obtain ⟨hi64, rfl⟩ := digitChar_of_digitValue? hi
  obtain ⟨hj64, rfl⟩ := digitChar_of_digitValue? hj
  obtain ⟨hk64, rfl⟩ := digitChar_of_digitValue? hk
  obtain ⟨hl64, rfl⟩ := digitChar_of_digitValue? hl
  cases heq
  refine ⟨_, _, _, rfl, fun rest => ?_⟩
  simp only [groups, UInt8.toNat_ofNat']
  congr <;> omega

/-- A last group that is read is the written form of one, two or three bytes. -/
theorem groups_of_lastGroup? {p q r s : Char} {bytes : List UInt8}
    (h : lastGroup? p q r s = some bytes) : groups bytes.reverse = [p, q, r, s] := by
  unfold lastGroup? at h
  split at h
  · next hs =>
    subst hs
    split at h
    · next hr =>
      subst hr
      simp only [Option.bind_eq_bind, Option.bind_eq_some_iff] at h
      obtain ⟨i, hi, j, hj, heq⟩ := h
      obtain ⟨hi64, rfl⟩ := digitChar_of_digitValue? hi
      obtain ⟨hj64, rfl⟩ := digitChar_of_digitValue? hj
      split at heq
      · cases heq
        simp only [List.reverse_singleton, groups, UInt8.toNat_ofNat']
        congr <;> omega
      · cases heq
    · simp only [Option.bind_eq_bind, Option.bind_eq_some_iff] at h
      obtain ⟨i, hi, j, hj, k, hk, heq⟩ := h
      obtain ⟨hi64, rfl⟩ := digitChar_of_digitValue? hi
      obtain ⟨hj64, rfl⟩ := digitChar_of_digitValue? hj
      obtain ⟨hk64, rfl⟩ := digitChar_of_digitValue? hk
      split at heq
      · cases heq
        simp only [List.reverse_cons, List.reverse_nil, List.nil_append, List.cons_append, groups,
          UInt8.toNat_ofNat']
        congr <;> omega
      · cases heq
  · obtain ⟨a, b, c, rfl, hgroups⟩ := groups_of_group? h
    exact hgroups []

/-- Text that is read is the written form of the bytes that are read from it. -/
theorem groups_of_read? {acc bytes : List UInt8} {cs : List Char} (h : read? acc cs = some bytes) :
    ∃ read, bytes = read.reverse ++ acc ∧ groups read = cs := by
  induction acc, cs using read?.induct with
  | case1 acc => cases h; exact ⟨[], rfl, rfl⟩
  | case2 acc p q r s =>
      obtain ⟨last, hlast, rfl⟩ := Option.map_eq_some_iff.mp h
      exact ⟨last.reverse, by rw [List.reverse_reverse], groups_of_lastGroup? hlast⟩
  | case3 acc p q r s rest hrest group hgroup ih =>
      simp only [read?, hgroup] at h
      obtain ⟨read, rfl, rfl⟩ := ih h
      obtain ⟨a, b, c, rfl, hgroups⟩ := groups_of_group? hgroup
      exact ⟨a :: b :: c :: read, by simp, hgroups read⟩
  | case4 acc p q r s rest hrest hgroup =>
      simp only [read?, hgroup] at h
      cases h
  | case5 acc cs hnil hfour hmore =>
      rw [read?] at h
      · cases h
      all_goals assumption

/-- **Text that stands for bytes** is their written form, and no other text stands for them. -/
theorem decode?_eq_some_iff {text : String} {bytes : List UInt8} :
    decode? text = some bytes ↔ text = encode bytes := by
  constructor
  · intro h
    obtain ⟨reversed, hread, rfl⟩ := Option.map_eq_some_iff.mp h
    obtain ⟨read, rfl, hgroups⟩ := groups_of_read? hread
    rw [List.append_nil, List.reverse_reverse]
    exact String.toList_injective (by rw [toList_encode, hgroups])
  · rintro rfl
    exact decode?_encode bytes

end QueueService.Base64
