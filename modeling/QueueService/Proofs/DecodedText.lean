import Mathlib
import QueueService.Proofs.EncodedText
import QueueService.Proofs.FormText

/-!
# Bytes that are text

The reader of UTF-8 takes the bytes of texts and no others. What it reads as one character is what that
character is written as (`Utf8.of_afterLead`): the ranges of the second byte leave out the longer forms of
other characters, and the numbers that stand for none. A byte below `0x80` is a character by itself, so the
bytes on either side of it are texts if all of them together are one.

* `Utf8.decode?_eq_some_iff` — bytes are read as a text if and only if they are its bytes.
* `Utf8.encode_eq_append_cons` — bytes that are a text, cut at a byte below `0x80`.
-/

namespace QueueService.Utf8

/-! ## One character -/

/-- What is known of the byte behind a leading byte of a sequence of three or four, by its number. -/
theorem isSecond_range {lead b : UInt8} (h : isSecond lead b = true) :
    (0x80 ≤ b.toNat ∧ b.toNat ≤ 0xBF) ∧
      (lead.toNat = 0xE0 → 0xA0 ≤ b.toNat) ∧ (lead.toNat = 0xED → b.toNat ≤ 0x9F) ∧
        (lead.toNat = 0xF0 → 0x90 ≤ b.toNat) ∧ (lead.toNat = 0xF4 → b.toNat ≤ 0x8F) := by
  have hrange : if lead.toNat = 0xE0 then 0xA0 ≤ b.toNat ∧ b.toNat ≤ 0xBF
      else if lead.toNat = 0xED then 0x80 ≤ b.toNat ∧ b.toNat ≤ 0x9F
      else if lead.toNat = 0xF0 then 0x90 ≤ b.toNat ∧ b.toNat ≤ 0xBF
      else if lead.toNat = 0xF4 then 0x80 ≤ b.toNat ∧ b.toNat ≤ 0x8F
      else 0x80 ≤ b.toNat ∧ b.toNat ≤ 0xBF := by
    rw [← isContinuation_iff]
    simpa [isSecond, ← UInt8.toNat_inj, UInt8.le_iff_toNat_le] using h
  split_ifs at hrange <;> omega

/-- The bytes of the character with a given number. -/
theorem utf8EncodeChar_ofNat {v : Nat} (h : v.isValidChar) :
    String.utf8EncodeChar (Char.ofNat v) =
      if v ≤ 0x7F then [UInt8.ofNat v]
      else if v ≤ 0x7FF then [UInt8.ofNat (v / 64 % 32 + 192), UInt8.ofNat (v % 64 + 128)]
      else if v ≤ 0xFFFF then
        [UInt8.ofNat (v / 4096 % 16 + 224), UInt8.ofNat (v / 64 % 64 + 128), UInt8.ofNat (v % 64 + 128)]
      else
        [UInt8.ofNat (v / 262144 % 8 + 240), UInt8.ofNat (v / 4096 % 64 + 128),
          UInt8.ofNat (v / 64 % 64 + 128), UInt8.ofNat (v % 64 + 128)] := by
  have hval : (Char.ofNat v).val.toNat = v := by
    show (Char.ofNat v).toNat = v
    rw [Char.toNat_ofNat, if_pos h]
  unfold String.utf8EncodeChar
  simp only [hval]

/-- A byte is known by its number. -/
theorem ofNat_eq {n : Nat} {b : UInt8} (h : n = b.toNat) : UInt8.ofNat n = b := by
  rw [h, UInt8.ofNat_toNat]

section Lead

variable {lead b d e : UInt8} {rest : List UInt8} {c : Char} {k : Nat}

theorem utf8EncodeChar_one (h : lead.toNat < 0x80) :
    String.utf8EncodeChar (Char.ofNat lead.toNat) = [lead] := by
  rw [utf8EncodeChar_ofNat (.inl (by omega)), if_pos (by omega), UInt8.ofNat_toNat]

theorem utf8EncodeChar_two (hleast : 0xC2 ≤ lead.toNat) (hmost : lead.toNat ≤ 0xDF)
    (hb : isContinuation b = true) :
    String.utf8EncodeChar (Char.ofNat (lead.toNat % 32 * 64 + payload b)) = [lead, b] := by
  obtain ⟨hb, hb'⟩ := isContinuation_iff.mp hb
  have hpayload : payload b = b.toNat % 64 := rfl
  generalize hv : lead.toNat % 32 * 64 + payload b = v
  rw [utf8EncodeChar_ofNat (.inl (by omega)), if_neg (by omega), if_pos (by omega),
    ofNat_eq (b := lead) (by omega), ofNat_eq (b := b) (by omega)]

theorem utf8EncodeChar_three (hleast : 0xE0 ≤ lead.toNat) (hmost : lead.toNat ≤ 0xEF)
    (hb : isSecond lead b = true) (hd : isContinuation d = true) :
    String.utf8EncodeChar (Char.ofNat (lead.toNat % 16 * 4096 + payload b * 64 + payload d)) =
      [lead, b, d] := by
  obtain ⟨⟨hb, hb'⟩, hE0, hED, -⟩ := isSecond_range hb
  obtain ⟨hd, hd'⟩ := isContinuation_iff.mp hd
  have hpayload : payload b = b.toNat % 64 := rfl
  have hpayload' : payload d = d.toNat % 64 := rfl
  generalize hv : lead.toNat % 16 * 4096 + payload b * 64 + payload d = v
  -- no surrogate, by the range behind 0xED
  have hvalid : v < 0xD800 ∨ 0xDFFF < v ∧ v < 0x110000 := by omega
  rw [utf8EncodeChar_ofNat hvalid, if_neg (by omega), if_neg (by omega), if_pos (by omega),
    ofNat_eq (b := lead) (by omega), ofNat_eq (b := b) (by omega), ofNat_eq (b := d) (by omega)]

theorem utf8EncodeChar_four (hleast : 0xF0 ≤ lead.toNat) (hmost : lead.toNat ≤ 0xF4)
    (hb : isSecond lead b = true) (hd : isContinuation d = true) (he : isContinuation e = true) :
    String.utf8EncodeChar (Char.ofNat (lead.toNat % 8 * 262144 + payload b * 4096 + payload d * 64
      + payload e)) = [lead, b, d, e] := by
  obtain ⟨⟨hb, hb'⟩, -, -, hF0, hF4⟩ := isSecond_range hb
  obtain ⟨hd, hd'⟩ := isContinuation_iff.mp hd
  obtain ⟨he, he'⟩ := isContinuation_iff.mp he
  have hpayload : payload b = b.toNat % 64 := rfl
  have hpayload' : payload d = d.toNat % 64 := rfl
  have hpayload'' : payload e = e.toNat % 64 := rfl
  generalize hv : lead.toNat % 8 * 262144 + payload b * 4096 + payload d * 64 + payload e = v
  -- within the code points, by the range behind 0xF4
  have hvalid : v < 0xD800 ∨ 0xDFFF < v ∧ v < 0x110000 := by omega
  rw [utf8EncodeChar_ofNat hvalid, if_neg (by omega), if_neg (by omega), if_neg (by omega),
    ofNat_eq (b := lead) (by omega), ofNat_eq (b := b) (by omega), ofNat_eq (b := d) (by omega),
    ofNat_eq (b := e) (by omega)]

/-- **A character is read from the bytes that it is written as.** -/
theorem of_afterLead (h : afterLead lead rest = (some c, k)) :
    lead :: rest = String.utf8EncodeChar c ++ rest.drop k := by
  unfold afterLead at h
  split at h
  · next hone =>
    cases h
    rw [utf8EncodeChar_one (UInt8.lt_iff_toNat_lt.mp hone)]
    rfl
  split at h
  · next htwo =>
    obtain ⟨hleast, hmost⟩ := (within_iff (m := 0xC2) (n := 0xDF) (by decide) (by decide)).mp htwo
    split at h
    · split at h
      · next hb =>
        cases h
        rw [utf8EncodeChar_two hleast hmost hb]
        rfl
      · cases h
    · cases h
  split at h
  · next hthree =>
    obtain ⟨hleast, hmost⟩ := (within_iff (m := 0xE0) (n := 0xEF) (by decide) (by decide)).mp hthree
    split at h
    · split at h
      · next hb =>
        split at h
        · split at h
          · next hd =>
            cases h
            rw [utf8EncodeChar_three hleast hmost hb hd]
            rfl
          · cases h
        · cases h
      · cases h
    · cases h
  split at h
  · next hfour =>
    obtain ⟨hleast, hmost⟩ := (within_iff (m := 0xF0) (n := 0xF4) (by decide) (by decide)).mp hfour
    split at h
    · split at h
      · next hb =>
        split at h
        · split at h
          · next hd =>
            split at h
            · split at h
              · next he =>
                cases h
                rw [utf8EncodeChar_four hleast hmost hb hd he]
                rfl
              · cases h
            · cases h
          · cases h
        · cases h
      · cases h
    · cases h
  · cases h

end Lead

/-! ## Texts -/

theorem mem_scan_of_mem {acc : List (Option Char)} {bytes : List UInt8} {c? : Option Char}
    (h : c? ∈ acc) : c? ∈ scan acc bytes := by
  induction acc, bytes using scan.induct with
  | case1 acc => rwa [scan]
  | case2 acc lead rest step ih =>
      rw [scan]
      exact ih (List.mem_cons_of_mem _ h)

/-- Bytes in which no sequence is malformed are those of characters. -/
theorem flatMap_of_scan {acc : List (Option Char)} {bytes : List UInt8}
    (h : ∀ c? ∈ scan acc bytes, c?.isSome) : ∃ cs : List Char, bytes = cs.flatMap String.utf8EncodeChar := by
  induction acc, bytes using scan.induct with
  | case1 acc => exact ⟨[], rfl⟩
  | case2 acc lead rest step ih =>
      rw [scan] at h
      obtain ⟨cs, hcs⟩ := ih h
      obtain ⟨c, hc⟩ := Option.isSome_iff_exists.mp (h step.1 (mem_scan_of_mem List.mem_cons_self))
      have hread := of_afterLead (k := step.2) (Prod.ext hc rfl : afterLead lead rest = (some c, step.2))
      exact ⟨c :: cs, by rw [hread, hcs, List.flatMap_cons]⟩

/-- Bytes that are read as a text are the bytes of some text. -/
theorem exists_encode {bytes : List UInt8} (h : (decode? bytes).isSome) : ∃ text, bytes = encode text := by
  unfold decode? at h
  simp only [Option.isSome_ite, List.all_eq_true, characters, List.mem_reverse] at h
  obtain ⟨cs, rfl⟩ := flatMap_of_scan h
  exact ⟨String.ofList cs, by rw [encode, String.toList_ofList]⟩

/-- **Texts.** Bytes are read as a text if and only if they are its bytes. -/
theorem decode?_eq_some_iff {bytes : List UInt8} {text : String} :
    decode? bytes = some text ↔ bytes = encode text := by
  constructor
  · intro h
    obtain ⟨text', rfl⟩ := exists_encode (Option.isSome_of_eq_some h)
    rw [decode?_encode, Option.some_inj] at h
    rw [h]
  · rintro rfl
    exact decode?_encode text

/-! ## Cutting texts -/

/-- A byte below `0x80` is a character by itself. -/
theorem utf8EncodeChar_eq_singleton {c : Char} {b : UInt8} (hb : b.toNat < 0x80)
    (h : b ∈ String.utf8EncodeChar c) : String.utf8EncodeChar c = [b] := by
  have hvalid : c.toNat.isValidChar := c.valid
  have hbytes := utf8EncodeChar_ofNat hvalid
  rw [Char.ofNat_toNat] at hbytes
  rw [hbytes] at h ⊢
  have hhigh : ∀ n, 0x80 ≤ n → n < 0x100 → b ≠ UInt8.ofNat n := by
    rintro n hn hn' rfl
    rw [toNat_ofNat_of_lt hn'] at hb
    omega
  split at h
  · next hone =>
    rw [if_pos hone, List.mem_singleton.mp h]
  -- in the longer forms all bytes are above
  all_goals exfalso
  split at h
  · simp only [List.mem_cons, List.not_mem_nil, or_false] at h
    rcases h with h | h <;> exact hhigh _ (by omega) (by omega) h
  split at h
  · simp only [List.mem_cons, List.not_mem_nil, or_false] at h
    rcases h with h | h | h <;> exact hhigh _ (by omega) (by omega) h
  · simp only [List.mem_cons, List.not_mem_nil, or_false] at h
    rcases h with h | h | h | h <;> exact hhigh _ (by omega) (by omega) h

theorem flatMap_eq_append_cons {cs : List Char} {front back : List UInt8} {b : UInt8}
    (hb : b.toNat < 0x80) (h : cs.flatMap String.utf8EncodeChar = front ++ b :: back) :
    ∃ ds es : List Char, front = ds.flatMap String.utf8EncodeChar ∧
      back = es.flatMap String.utf8EncodeChar := by
  induction cs generalizing front with
  | nil => simp at h
  | cons c cs ih =>
      rw [List.flatMap_cons] at h
      rcases List.append_eq_append_iff.mp h with ⟨more, rfl, hmore⟩ | ⟨more, hc, hmore⟩
      · obtain ⟨ds, es, rfl, rfl⟩ := ih hmore
        exact ⟨c :: ds, es, by rw [List.flatMap_cons], rfl⟩
      · cases more with
        | nil =>
            rw [List.append_nil] at hc
            have hrest : cs.flatMap String.utf8EncodeChar = [] ++ b :: back := hmore.symm
            obtain ⟨ds, es, hds, rfl⟩ := ih hrest
            exact ⟨c :: ds, es, by rw [List.flatMap_cons, ← hds, hc, List.append_nil], rfl⟩
        | cons b' more =>
            -- the byte is the whole of the character
            obtain ⟨rfl, rfl⟩ := List.cons.inj hmore
            have hone := utf8EncodeChar_eq_singleton hb (by rw [hc]; simp)
            rw [hone] at hc
            rcases List.append_eq_singleton_iff.mp hc.symm with ⟨rfl, hmore⟩ | ⟨-, hmore⟩
            · cases hmore
              exact ⟨[], cs, rfl, rfl⟩
            · cases hmore

/-- **A text is cut** at a byte below `0x80` into texts. -/
theorem encode_eq_append_cons {text : String} {front back : List UInt8} {b : UInt8} (hb : b.toNat < 0x80)
    (h : encode text = front ++ b :: back) : ∃ s t, front = encode s ∧ back = encode t := by
  obtain ⟨ds, es, hds, hes⟩ := flatMap_eq_append_cons hb h
  refine ⟨String.ofList ds, String.ofList es, ?_, ?_⟩
  · rw [encode, String.toList_ofList, hds]
  · rw [encode, String.toList_ofList, hes]

end QueueService.Utf8
