import Mathlib
import QueueService.Query.Params
import QueueService.Text.Separator

/-!
# Writing forms

Forms are read back as they were meant. Bytes of UTF-8 are read character by character, each behind its
lead byte (`Utf8.afterLead_encode`); percent-encoded bytes are read one by one; and neither a written
name nor a written value contains a mark between pieces.

* `Utf8.decode?_encode` — a text written as bytes is read back.
* `Form.spells_write` — every list of names and values has a form that spells it.
-/

namespace QueueService

/-! ## Characters as bytes -/

namespace Utf8

theorem toNat_ofNat_of_lt {n : Nat} (h : n < 256) : (UInt8.ofNat n).toNat = n := by
  rw [UInt8.toNat_ofNat']
  exact Nat.mod_eq_of_lt h

theorem within_iff {m n : Nat} (hm : m < 256) (hn : n < 256) {b : UInt8} :
    (UInt8.ofNat m ≤ b && b ≤ UInt8.ofNat n) = true ↔ m ≤ b.toNat ∧ b.toNat ≤ n := by
  rw [Bool.and_eq_true, decide_eq_true_eq, decide_eq_true_eq, UInt8.le_iff_toNat_le,
    UInt8.le_iff_toNat_le, toNat_ofNat_of_lt hm, toNat_ofNat_of_lt hn]

theorem isContinuation_iff {b : UInt8} :
    isContinuation b = true ↔ 0x80 ≤ b.toNat ∧ b.toNat ≤ 0xBF :=
  within_iff (m := 0x80) (n := 0xBF) (by decide) (by decide)

/-- A second byte, by its number: it is a continuation, and four lead bytes narrow its range. -/
theorem isSecond_of {lead b : UInt8} (hb : isContinuation b = true)
    (hE0 : lead.toNat = 0xE0 → 0xA0 ≤ b.toNat) (hED : lead.toNat = 0xED → b.toNat ≤ 0x9F)
    (hF0 : lead.toNat = 0xF0 → 0x90 ≤ b.toNat) (hF4 : lead.toNat = 0xF4 → b.toNat ≤ 0x8F) :
    isSecond lead b = true := by
  obtain ⟨hleast, hmost⟩ := isContinuation_iff.mp hb
  unfold isSecond
  split
  · next h =>
    subst h
    exact (within_iff (m := 0xA0) (n := 0xBF) (by decide) (by decide)).mpr ⟨hE0 rfl, hmost⟩
  · split
    · next h =>
      subst h
      exact (within_iff (m := 0x80) (n := 0x9F) (by decide) (by decide)).mpr ⟨hleast, hED rfl⟩
    · split
      · next h =>
        subst h
        exact (within_iff (m := 0x90) (n := 0xBF) (by decide) (by decide)).mpr ⟨hF0 rfl, hmost⟩
      · split
        · next h =>
          subst h
          exact (within_iff (m := 0x80) (n := 0x8F) (by decide) (by decide)).mpr ⟨hleast, hF4 rfl⟩
        · exact hb

section Lead

variable {lead b c d : UInt8} {rest : List UInt8}

theorem not_lt_of_le_toNat {n : Nat} (hn : n < 256) (h : n ≤ lead.toNat) :
    ¬ lead < UInt8.ofNat n := by
  rw [UInt8.lt_iff_toNat_lt, toNat_ofNat_of_lt hn]
  omega

theorem not_within_of_lt {m n : Nat} (hm : m < 256) (hn : n < 256) (h : n < lead.toNat) :
    ¬ (UInt8.ofNat m ≤ lead && lead ≤ UInt8.ofNat n) = true := by
  rw [within_iff hm hn]
  omega

theorem afterLead_one (h : lead.toNat < 0x80) :
    afterLead lead rest = (some (Char.ofNat lead.toNat), 0) := by
  unfold afterLead
  exact if_pos (UInt8.lt_iff_toNat_lt.mpr h)

theorem afterLead_two (hleast : 0xC2 ≤ lead.toNat) (hmost : lead.toNat ≤ 0xDF)
    (hb : isContinuation b = true) :
    afterLead lead (b :: rest) =
      (some (Char.ofNat (lead.toNat % 32 * 64 + payload b)), 1) := by
  have hone : ¬ lead < 0x80 := not_lt_of_le_toNat (n := 0x80) (by decide) (by omega)
  have htwo : (0xC2 ≤ lead && lead ≤ 0xDF) = true :=
    (within_iff (m := 0xC2) (n := 0xDF) (by decide) (by decide)).mpr ⟨hleast, hmost⟩
  simp only [afterLead, if_neg hone, htwo, if_true, hb]

theorem afterLead_three (hleast : 0xE0 ≤ lead.toNat) (hmost : lead.toNat ≤ 0xEF)
    (hb : isSecond lead b = true) (hc : isContinuation c = true) :
    afterLead lead (b :: c :: rest) =
      (some (Char.ofNat (lead.toNat % 16 * 4096 + payload b * 64 + payload c)), 2) := by
  have hone : ¬ lead < 0x80 := not_lt_of_le_toNat (n := 0x80) (by decide) (by omega)
  have htwo : ¬ (0xC2 ≤ lead && lead ≤ 0xDF) = true :=
    not_within_of_lt (m := 0xC2) (n := 0xDF) (by decide) (by decide) (by omega)
  have hthree : (0xE0 ≤ lead && lead ≤ 0xEF) = true :=
    (within_iff (m := 0xE0) (n := 0xEF) (by decide) (by decide)).mpr ⟨hleast, hmost⟩
  simp only [afterLead, if_neg hone, htwo, hthree, if_true, hb, hc]
  rfl

theorem afterLead_four (hleast : 0xF0 ≤ lead.toNat) (hmost : lead.toNat ≤ 0xF4)
    (hb : isSecond lead b = true) (hc : isContinuation c = true) (hd : isContinuation d = true) :
    afterLead lead (b :: c :: d :: rest) =
      (some (Char.ofNat (lead.toNat % 8 * 262144 + payload b * 4096 + payload c * 64
        + payload d)), 3) := by
  have hone : ¬ lead < 0x80 := not_lt_of_le_toNat (n := 0x80) (by decide) (by omega)
  have htwo : ¬ (0xC2 ≤ lead && lead ≤ 0xDF) = true :=
    not_within_of_lt (m := 0xC2) (n := 0xDF) (by decide) (by decide) (by omega)
  have hthree : ¬ (0xE0 ≤ lead && lead ≤ 0xEF) = true :=
    not_within_of_lt (m := 0xE0) (n := 0xEF) (by decide) (by decide) (by omega)
  have hfour : (0xF0 ≤ lead && lead ≤ 0xF4) = true :=
    (within_iff (m := 0xF0) (n := 0xF4) (by decide) (by decide)).mpr ⟨hleast, hmost⟩
  simp only [afterLead, if_neg hone, htwo, hthree, hfour, if_true, hb, hc, hd]
  rfl

end Lead

theorem isContinuation_ofNat (n : Nat) : isContinuation (UInt8.ofNat (n % 64 + 128)) = true := by
  rw [isContinuation_iff, toNat_ofNat_of_lt (by omega)]
  omega

theorem payload_ofNat (n : Nat) : payload (UInt8.ofNat (n % 64 + 128)) = n % 64 := by
  rw [payload, toNat_ofNat_of_lt (by omega)]
  omega

/-- **A character is read back** from the bytes that it is written as, whatever follows them. The cases
    are its four lengths; that it is no surrogate and within the code points narrows the second byte. -/
theorem afterLead_encode (c : Char) :
    ∃ lead more, String.utf8EncodeChar c = lead :: more ∧
      ∀ rest, afterLead lead (more ++ rest) = (some c, more.length) := by
  have hvalid : c.val.toNat < 0xD800 ∨ 0xDFFF < c.val.toNat ∧ c.val.toNat < 0x110000 := c.valid
  have hnumber : Char.ofNat c.val.toNat = c := Char.ofNat_toNat c
  simp only [String.utf8EncodeChar]
  -- from here on there are only numbers: the lead byte and those behind it are digits of v
  generalize c.val.toNat = v at hvalid hnumber ⊢
  split
  · have hlead : (UInt8.ofNat v).toNat = v := toNat_ofNat_of_lt (by omega)
    refine ⟨_, _, rfl, ?_⟩
    intro rest
    rw [afterLead_one (by omega), hlead, hnumber]
    rfl
  · split
    · have hlead : (UInt8.ofNat (v / 64 % 32 + 192)).toNat = v / 64 % 32 + 192 :=
        toNat_ofNat_of_lt (by omega)
      have hv : (v / 64 % 32 + 192) % 32 * 64 + v % 64 = v := by omega
      refine ⟨_, _, rfl, ?_⟩
      intro rest
      rw [List.cons_append, afterLead_two (by omega) (by omega) (isContinuation_ofNat v), hlead,
        payload_ofNat, hv, hnumber]
      rfl
    · split
      · have hlead : (UInt8.ofNat (v / 4096 % 16 + 224)).toNat = v / 4096 % 16 + 224 :=
          toNat_ofNat_of_lt (by omega)
        have hsecond : (UInt8.ofNat (v / 64 % 64 + 128)).toNat = v / 64 % 64 + 128 :=
          toNat_ofNat_of_lt (by omega)
        have hv : (v / 4096 % 16 + 224) % 16 * 4096 + v / 64 % 64 * 64 + v % 64 = v := by omega
        have hrange : isSecond (UInt8.ofNat (v / 4096 % 16 + 224))
            (UInt8.ofNat (v / 64 % 64 + 128)) = true := by
          apply isSecond_of (isContinuation_ofNat _) <;> rw [hlead, hsecond] <;> omega
        refine ⟨_, _, rfl, ?_⟩
        intro rest
        rw [List.cons_append, List.cons_append, afterLead_three (by omega) (by omega) hrange
          (isContinuation_ofNat v), hlead, payload_ofNat, payload_ofNat, hv, hnumber]
        rfl
      · have hlead : (UInt8.ofNat (v / 262144 % 8 + 240)).toNat = v / 262144 % 8 + 240 :=
          toNat_ofNat_of_lt (by omega)
        have hsecond : (UInt8.ofNat (v / 4096 % 64 + 128)).toNat = v / 4096 % 64 + 128 :=
          toNat_ofNat_of_lt (by omega)
        have hv : (v / 262144 % 8 + 240) % 8 * 262144 + v / 4096 % 64 * 4096 + v / 64 % 64 * 64
            + v % 64 = v := by omega
        have hrange : isSecond (UInt8.ofNat (v / 262144 % 8 + 240))
            (UInt8.ofNat (v / 4096 % 64 + 128)) = true := by
          apply isSecond_of (isContinuation_ofNat _) <;> rw [hlead, hsecond] <;> omega
        refine ⟨_, _, rfl, ?_⟩
        intro rest
        rw [List.cons_append, List.cons_append, List.cons_append, afterLead_four (by omega)
          (by omega) hrange (isContinuation_ofNat _) (isContinuation_ofNat v), hlead,
          payload_ofNat, payload_ofNat, payload_ofNat, hv, hnumber]
        rfl

theorem scan_encode (acc : List (Option Char)) (cs : List Char) :
    scan acc (cs.flatMap String.utf8EncodeChar) = (cs.map some).reverse ++ acc := by
  induction cs generalizing acc with
  | nil => rw [List.flatMap_nil, scan]; rfl
  | cons c cs ih =>
      obtain ⟨lead, more, hc, hread⟩ := afterLead_encode c
      rw [List.flatMap_cons, hc, List.cons_append, scan, hread, List.drop_left, ih, List.map_cons,
        List.reverse_cons, List.append_assoc]
      rfl

theorem characters_encode (text : String) : characters (encode text) = text.toList.map some := by
  rw [characters, encode, scan_encode, List.append_nil, List.reverse_reverse]

/-- **A text is read back** from its bytes. -/
theorem decode?_encode (text : String) : decode? (encode text) = some text := by
  have hall : (text.toList.map some).all Option.isSome = true := by simp
  have hback : (text.toList.map some).filterMap id = text.toList := by simp
  unfold decode?
  rw [characters_encode]
  simp only [hall, if_true, hback, String.ofList_toList]

theorem decodeLossy_encode (text : String) : decodeLossy (encode text) = text := by
  unfold decodeLossy
  rw [characters_encode, List.map_map]
  have hback : ((fun c : Option Char => c.getD '\uFFFD') ∘ some) = id := rfl
  rw [hback, List.map_id, String.ofList_toList]

theorem encode_append (s t : String) : encode (s ++ t) = encode s ++ encode t := by
  rw [encode, encode, encode, String.toList_append, List.flatMap_append]

end Utf8

/-! ## Names and values as bytes -/

namespace Form

/-- A byte as it is written: letters, digits and three marks stand for themselves. -/
def writeByte (b : UInt8) : List UInt8 :=
  if Alphabet.isAttributeNameCodePoint b.toNat then [b]
  else (Percent.encodeByte b).map fun c => UInt8.ofNat c.toNat

/-- A name or a value as it is written. -/
def writeText (text : String) : List UInt8 := (Utf8.encode text).flatMap writeByte

/-- A name and its value as they are written. -/
def writePair (e : String × String) : List UInt8 := writeText e.1 ++ 0x3D :: writeText e.2

/-- The form of names and values. -/
def write (pairs : List (String × String)) : List UInt8 :=
  [0x26].intercalate (pairs.map writePair)

/-- Bytes that a written name or value consists of. -/
def IsWritten (b : UInt8) : Prop := b = 0x25 ∨ Alphabet.isAttributeNameCodePoint b.toNat = true

theorem ne_of_isWritten {b d : UInt8} (h : IsWritten b) (hne : d ≠ 0x25)
    (hd : Alphabet.isAttributeNameCodePoint d.toNat = false) : b ≠ d := by
  rintro rfl
  rcases h with h | h
  · exact hne h
  · rw [hd] at h
    cases h

/-- The digits of a percent-encoded byte are written bytes that are read back as digits. -/
theorem upperDigit {n : Nat} (h : n < 16) :
    IsWritten (UInt8.ofNat (Nat.digitChar n).toUpper.toNat) ∧
      Hex.digit? (Char.ofNat (UInt8.ofNat (Nat.digitChar n).toUpper.toNat).toNat) = some n := by
  have hall : ∀ k : Fin 16,
      Alphabet.isAttributeNameCodePoint
          (UInt8.ofNat (Nat.digitChar k).toUpper.toNat).toNat = true ∧
        Hex.digit? (Char.ofNat (UInt8.ofNat (Nat.digitChar k).toUpper.toNat).toNat) =
          some k.val := by decide
  obtain ⟨hwritten, hdigit⟩ := hall ⟨n, h⟩
  exact ⟨Or.inr hwritten, hdigit⟩

theorem isWritten_of_mem_writeByte {b d : UInt8} (h : d ∈ writeByte b) : IsWritten d := by
  unfold writeByte at h
  split at h
  · next hb =>
    rw [List.mem_singleton.mp h]
    exact Or.inr hb
  · have hlt : b.toNat < 256 := b.toNat_lt_size
    rw [Percent.encodeByte, List.map_cons, List.map_cons, List.map_cons, List.map_nil] at h
    simp only [List.mem_cons, List.not_mem_nil, or_false] at h
    rcases h with rfl | rfl | rfl
    · exact Or.inl rfl
    · exact (upperDigit (by omega)).1
    · exact (upperDigit (by omega)).1

theorem isWritten_of_mem_writeText {text : String} {d : UInt8} (h : d ∈ writeText text) :
    IsWritten d := by
  obtain ⟨b, -, hd⟩ := List.mem_flatMap.mp h
  exact isWritten_of_mem_writeByte hd

/-! ## Reading written bytes -/

theorem scan_of_ne {b : UInt8} (h : b ≠ 0x25) (acc rest : List UInt8) :
    Percent.scan acc (b :: rest) = Percent.scan (b :: acc) rest := by
  match rest with
  | [] => rfl
  | [_] => rfl
  | high :: low :: rest => rw [Percent.scan, if_neg h]

theorem scan_writeByte (b : UInt8) (acc rest : List UInt8) :
    Percent.scan acc (writeByte b ++ rest) = Percent.scan (b :: acc) rest := by
  unfold writeByte
  split
  · next hb =>
    apply scan_of_ne
    rintro rfl
    exact absurd hb (by decide)
  · have hlt : b.toNat < 256 := b.toNat_lt_size
    have hbyte : Percent.byte? (UInt8.ofNat (Nat.digitChar (b.toNat / 16)).toUpper.toNat)
        (UInt8.ofNat (Nat.digitChar (b.toNat % 16)).toUpper.toNat) = some b := by
      rw [Percent.byte?, (upperDigit (by omega)).2, (upperDigit (by omega)).2]
      show some (UInt8.ofNat (16 * (b.toNat / 16) + b.toNat % 16)) = some b
      rw [Nat.div_add_mod, UInt8.ofNat_toNat]
    rw [Percent.encodeByte]
    show Percent.scan acc (0x25 :: _ :: _ :: rest) = _
    rw [Percent.scan, if_pos rfl, hbyte]

theorem scan_writeBytes (bytes acc rest : List UInt8) :
    Percent.scan acc (bytes.flatMap writeByte ++ rest) =
      Percent.scan (bytes.reverse ++ acc) rest := by
  induction bytes generalizing acc with
  | nil => rfl
  | cons b bytes ih =>
      rw [List.flatMap_cons, List.append_assoc, scan_writeByte, ih, List.reverse_cons,
        List.append_assoc]
      rfl

/-- Written bytes contain no plus, so none is read as a space. -/
theorem map_plus {written : List UInt8} (h : ∀ b ∈ written, b ≠ 0x2B) :
    (written.map fun b => if b = 0x2B then 0x20 else b) = written := by
  refine (List.map_congr_left ?_).trans (List.map_id _)
  intro b hb
  rw [if_neg (h b hb), id]

theorem decode_writeText (text : String) : decode (writeText text) = Utf8.encode text := by
  have hplus : ∀ b ∈ writeText text, b ≠ 0x2B := fun b hb =>
    ne_of_isWritten (isWritten_of_mem_writeText hb) (by decide) (by decide)
  have hscan := scan_writeBytes (Utf8.encode text) [] []
  rw [List.append_nil, List.append_nil] at hscan
  rw [decode, map_plus hplus, Percent.decode, writeText, hscan, Percent.scan, List.reverse_reverse]

theorem decode_writePair (e : String × String) :
    decode (writePair e) = Utf8.encode (e.1 ++ "=" ++ e.2) := by
  have hplus : ∀ b ∈ writePair e, b ≠ 0x2B := by
    intro b hb
    rcases List.mem_append.mp hb with hb | hb
    · exact ne_of_isWritten (isWritten_of_mem_writeText hb) (by decide) (by decide)
    · rcases List.mem_cons.mp hb with rfl | hb
      · decide
      · exact ne_of_isWritten (isWritten_of_mem_writeText hb) (by decide) (by decide)
  have hvalue := scan_writeBytes (Utf8.encode e.2) (0x3D :: (Utf8.encode e.1).reverse) []
  rw [List.append_nil] at hvalue
  rw [decode, map_plus hplus, Percent.decode, writePair, writeText, writeText, scan_writeBytes,
    List.append_nil, scan_of_ne (by decide), hvalue, Percent.scan, List.reverse_append,
    List.reverse_reverse, List.reverse_cons, List.reverse_reverse, Utf8.encode_append,
    Utf8.encode_append]
  rfl

theorem text_writeText (text : String) : Form.text (writeText text) = text := by
  rw [Form.text, decode_writeText, Utf8.decodeLossy_encode]

/-! ## Forms -/

/-- **Spelling.** The form is text, and consists of the names and values. -/
structure Spells (form : List UInt8) (pairs : List (String × String)) : Prop where
  isText : misfit? form = none
  pairs : Form.pairs form = pairs

theorem splitOn_writePair (e : String × String) :
    (text (writtenName (writePair e)), text (writtenValue (writePair e))) = e := by
  have hname : 0x3D ∉ writeText e.1 := fun hb =>
    ne_of_isWritten (isWritten_of_mem_writeText hb) (by decide) (by decide) rfl
  have htake : writtenName (writePair e) = writeText e.1 := Separator.takeWhile_append_cons hname
  have hdrop : writtenValue (writePair e) = writeText e.2 := by
    rw [writtenValue, writePair, Separator.dropWhile_append_cons hname]
    rfl
  rw [htake, hdrop, text_writeText, text_writeText]

theorem pieces_write {pairs : List (String × String)} (h : pairs ≠ []) :
    pieces (write pairs) = pairs.map writePair := by
  have hfree : ∀ piece ∈ pairs.map writePair, 0x26 ∉ piece := by
    intro piece hpiece hmem
    obtain ⟨e, -, rfl⟩ := List.mem_map.mp hpiece
    rcases List.mem_append.mp hmem with hb | hb
    · exact ne_of_isWritten (isWritten_of_mem_writeText hb) (by decide) (by decide) rfl
    · rcases List.mem_cons.mp hb with hb | hb
      · cases hb
      · exact ne_of_isWritten (isWritten_of_mem_writeText hb) (by decide) (by decide) rfl
  exact List.splitOn_intercalate 0x26 hfree fun hnil => h (List.map_eq_nil_iff.mp hnil)

/-- **Every list of names and values has a form that spells it.** -/
theorem spells_write (pairs : List (String × String)) : Spells (write pairs) pairs := by
  cases pairs with
  | nil => exact ⟨by cbv, by cbv⟩
  | cons e rest =>
      have hpieces := pieces_write (List.cons_ne_nil e rest)
      constructor
      · have hnone : (pieces (write (e :: rest))).find? (fun piece => !isText piece) = none := by
          rw [List.find?_eq_none, hpieces]
          intro piece hpiece
          obtain ⟨e', -, rfl⟩ := List.mem_map.mp hpiece
          rw [isText, decode_writePair, Utf8.decode?_encode, Option.isSome_some]
          decide
        rw [misfit?, hnone, Option.map_none]
      · have hfull : ∀ piece ∈ (e :: rest).map writePair, (!piece.isEmpty) = true := by
          intro piece hpiece
          obtain ⟨e', -, rfl⟩ := List.mem_map.mp hpiece
          simp [writePair]
        rw [Form.pairs, hpieces, List.filter_eq_self.mpr hfull, List.map_map]
        exact (List.map_congr_left fun e' _ => splitOn_writePair e').trans (List.map_id _)

end Form

/-- Parameters are read from forms that are text. -/
theorem Params.read_of_spells {query body : List UInt8} {qs bs : List (String × String)}
    (hquery : Form.Spells query qs) (hbody : Form.Spells body bs) (path : String) :
    Params.read query body path = .ok { values := Dict.ofList (qs ++ bs), path } := by
  unfold Params.read
  rw [hquery.isText, hbody.isText, hquery.pairs, hbody.pairs]
  rfl

end QueueService
