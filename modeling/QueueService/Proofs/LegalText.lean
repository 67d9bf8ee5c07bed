import QueueService.Arn
import QueueService.Digest.Content
import QueueService.Proofs.PlainPath
import QueueService.Redrive
import QueueService.Text.Base64

/-!
# Legal texts

The characters that XML knows are those of message bodies (`Alphabet.isBodyChar`). A text of such
characters is legal, and if none of them needs an escape it is bare. What the service makes itself, such as
numbers, digests and encoded bytes, is bare; a JSON string is legal if the text in it is. A text that quotes
others between words of its own is legal if they are (`Quotes`).
-/

namespace QueueService.Xml

/-- **Legal.** The text consists of characters that XML knows, which are those of message bodies. -/
def Legal (text : String) : Prop := ∀ c ∈ text.toList, Alphabet.isBodyChar c = true

instance (text : String) : Decidable (Legal text) := List.decidableBAll _ _

/-- **Bare.** The text consists of characters that XML knows and that need no escape between tags. -/
def Bare (text : String) : Prop :=
  ∀ c ∈ text.toList, Alphabet.isBodyChar c = true ∧ c ∉ ['&', '<', '>']

instance (text : String) : Decidable (Bare text) := List.decidableBAll _ _

theorem Bare.legal {text : String} (h : Bare text) : Legal text := fun c hc => (h c hc).1

/-- A text that is written out. -/
theorem Legal.literal {cs : List Char} (h : cs.all Alphabet.isBodyChar = true) :
    Legal (String.ofList cs) := by
  intro c hc
  rw [String.toList_ofList] at hc
  exact List.all_eq_true.mp h c hc

theorem Bare.literal {cs : List Char}
    (h : cs.all (fun c => Alphabet.isBodyChar c && c != '&' && c != '<' && c != '>') = true) :
    Bare (String.ofList cs) := by
  intro c hc
  rw [String.toList_ofList] at hc
  have hbare := List.all_eq_true.mp h c hc
  simpa [and_assoc] using hbare

theorem legal_append_iff {a b : String} : Legal (a ++ b) ↔ Legal a ∧ Legal b := by
  rw [Legal, String.toList_append, List.forall_mem_append]
  rfl

theorem legal_intercalate {separator : String} {texts : List String} (hseparator : Legal separator)
    (h : ∀ text ∈ texts, Legal text) : Legal (separator.intercalate texts) := by
  induction texts with
  | nil => exact List.forall_mem_nil _
  | cons first rest ih =>
      rw [List.forall_mem_cons] at h
      cases rest with
      | nil => exact h.1
      | cons second more =>
          rw [String.intercalate_cons_cons, legal_append_iff, legal_append_iff]
          exact ⟨⟨h.1, hseparator⟩, ih h.2⟩

/-! ## Bare characters -/

/-- The characters of names, numbers and encoded bytes: ASCII letters and digits, and five others. -/
def isBareChar (c : Char) : Bool :=
  Alphabet.isAsciiAlphanumeric c.toNat || ['-', '_', '+', '/', '='].contains c

theorem bare_of_isBareChar {c : Char} (h : isBareChar c = true) :
    Alphabet.isBodyChar c = true ∧ c ∉ ['&', '<', '>'] := by
  simp only [isBareChar, Bool.or_eq_true, List.contains_iff_mem, List.mem_cons, List.not_mem_nil,
    or_false] at h
  rcases h with halpha | rfl | rfl | rfl | rfl | rfl
  · simp only [Alphabet.isAsciiAlphanumeric, Bool.or_eq_true, Bool.and_eq_true,
      decide_eq_true_eq] at halpha
    refine ⟨?_, ?_⟩
    · simp only [Alphabet.isBodyChar, Alphabet.isBodyCodePoint, Bool.or_eq_true, Bool.and_eq_true,
        decide_eq_true_eq, beq_iff_eq]
      omega
    · intro hmem
      simp only [List.mem_cons, List.not_mem_nil, or_false] at hmem
      rcases hmem with rfl | rfl | rfl <;> simp at halpha
  all_goals decide

theorem bare_of_forall {text : String} (h : ∀ c ∈ text.toList, isBareChar c = true) : Bare text :=
  fun c hc => bare_of_isBareChar (h c hc)

theorem isBareChar_of_isAlphanum {c : Char} (h : c.isAlphanum = true) : isBareChar c = true := by
  have hnumber : c.val.toNat = c.toNat := rfl
  simp only [Char.isAlphanum, Char.isAlpha, Char.isUpper, Char.isLower, Char.isDigit,
    Bool.or_eq_true, Bool.and_eq_true, decide_eq_true_eq, ge_iff_le, UInt32.le_iff_toNat_le,
    hnumber] at h
  have halpha : Alphabet.isAsciiAlphanumeric c.toNat = true := by
    simp only [Alphabet.isAsciiAlphanumeric, Bool.or_eq_true, Bool.and_eq_true, decide_eq_true_eq]
    simp at h
    omega
  rw [isBareChar, halpha, Bool.true_or]

theorem isBareChar_of_isDigit {c : Char} (h : c.isDigit = true) : isBareChar c = true :=
  isBareChar_of_isAlphanum (by rw [Char.isAlphanum, h, Bool.or_true])

theorem bare_of_isPlain {text : String} (h : Alphabet.IsPlain text) : Bare text := by
  apply bare_of_forall
  intro c hc
  have hname := h.2 c hc
  simp only [Alphabet.isQueueNameChar, Bool.or_eq_true, beq_iff_eq] at hname
  rcases hname with (rfl | rfl) | halpha
  · rfl
  · rfl
  · simp [isBareChar, halpha]

/-- Names of message attributes may have dots, too. -/
theorem legal_of_attributeNameChars {name : String}
    (h : ∀ c ∈ name.toList, Alphabet.isAttributeNameChar c = true) : Legal name := by
  intro c hc
  have hname := h c hc
  simp only [Alphabet.isAttributeNameChar, Alphabet.isAttributeNameCodePoint,
    Alphabet.isAsciiAlphanumeric, Bool.or_eq_true, Bool.and_eq_true, beq_iff_eq,
    decide_eq_true_eq] at hname
  simp only [Alphabet.isBodyChar, Alphabet.isBodyCodePoint, Bool.or_eq_true, Bool.and_eq_true,
    beq_iff_eq, decide_eq_true_eq]
  omega

/-! ## Numbers -/

theorem bare_toString_nat (n : Nat) : Bare (toString n) := by
  apply bare_of_forall
  intro c hc
  rw [Integer.toList_toString] at hc
  exact isBareChar_of_isDigit (Integer.isDigit_of_mem_toDigits hc)

theorem bare_toString_int (n : Int) : Bare (toString n) := by
  cases n with
  | ofNat n => exact bare_toString_nat n
  | negSucc n =>
      have htext : (toString (Int.negSucc n)).toList = '-' :: (toString (n + 1)).toList := by
        show ("-" ++ toString (n + 1)).toList = _
        rw [String.toList_append]
        rfl
      intro c hc
      rw [htext, List.mem_cons] at hc
      rcases hc with rfl | hc
      · decide
      · exact bare_toString_nat (n + 1) c hc

/-- A text that reads as a number has digits, and perhaps a sign. -/
theorem legal_of_signed? {bits : Nat} {text : String} {n : Int}
    (h : Integer.signed? bits text = some n) : Legal text := by
  have hdigits : ∀ {cs : List Char} {k : Nat}, Integer.digits? cs = some k →
      ∀ c ∈ cs, Alphabet.isBodyChar c = true := by
    intro cs k hread c hc
    unfold Integer.digits? at hread
    split at hread
    · next hall =>
      simp only [Bool.and_eq_true, List.all_eq_true] at hall
      exact (bare_of_isBareChar (isBareChar_of_isDigit (hall.2 c hc))).1
    · cases hread
  unfold Integer.signed? at h
  intro c hc
  split at h
  · next rest htext =>
    obtain ⟨k, hread, -⟩ := Option.map_eq_some_iff.mp h
    obtain ⟨digits, hfilter, -⟩ := Option.bind_eq_some_iff.mp hread
    rw [htext, List.mem_cons] at hc
    rcases hc with rfl | hc
    · decide
    · exact hdigits (Option.filter_eq_some_iff.mp hfilter).1 c hc
  · obtain ⟨k, hread, -⟩ := Option.map_eq_some_iff.mp h
    have hnatural := (Option.filter_eq_some_iff.mp hread).1
    unfold Integer.natural? at hnatural
    split at hnatural
    · next rest htext =>
      rw [htext, List.mem_cons] at hc
      rcases hc with rfl | hc
      · decide
      · exact hdigits hnatural c hc
    · exact hdigits hnatural c hc

/-! ## Encoded bytes -/

theorem isBareChar_hex (bytes : List UInt8) :
    ∀ c ∈ (Hex.encode bytes).toList, isBareChar c = true := by
  have hdigit : ∀ n : Fin 16, isBareChar (Nat.digitChar n) = true := by decide
  intro c hc
  rw [Hex.encode, String.toList_ofList] at hc
  obtain ⟨b, -, hb⟩ := List.mem_flatMap.mp hc
  have hlt := b.toNat_lt
  simp only [Hex.ofByte, List.mem_cons, List.not_mem_nil, or_false] at hb
  rcases hb with rfl | rfl
  · exact hdigit ⟨b.toNat / 16, by omega⟩
  · exact hdigit ⟨b.toNat % 16, by omega⟩

theorem bare_hex (bytes : List UInt8) : Bare (Hex.encode bytes) := bare_of_forall (isBareChar_hex bytes)

theorem isBareChar_base64Digit {n : Nat} (h : n < 64) : isBareChar (Base64.digitChar n) = true := by
  have hall : ∀ m ∈ List.range 64, isBareChar (Base64.digitChar m) = true := by decide
  exact hall n (List.mem_range.mpr h)

theorem isBareChar_base64 (bytes : List UInt8) :
    ∀ c ∈ (Base64.encode bytes).toList, isBareChar c = true := by
  -- digits are put in front of those that have been written, so these are part of the induction
  have hwrite : ∀ acc : List Char, (∀ c ∈ acc, isBareChar c = true) →
      ∀ c ∈ Base64.write acc bytes, isBareChar c = true := by
    intro acc hacc
    induction acc, bytes using Base64.write.induct with
    | case1 acc =>
        rw [Base64.write]
        exact hacc
    | case2 acc a =>
        have ha := a.toNat_lt
        rw [Base64.write]
        simp only [List.forall_mem_cons]
        exact ⟨rfl, rfl, isBareChar_base64Digit (by omega), isBareChar_base64Digit (by omega), hacc⟩
    | case3 acc a b =>
        have ha := a.toNat_lt
        have hb := b.toNat_lt
        rw [Base64.write]
        simp only [List.forall_mem_cons]
        exact ⟨rfl, isBareChar_base64Digit (by omega), isBareChar_base64Digit (by omega),
          isBareChar_base64Digit (by omega), hacc⟩
    | case4 acc a b c rest ih =>
        have ha := a.toNat_lt
        have hb := b.toNat_lt
        have hc := c.toNat_lt
        rw [Base64.write]
        apply ih
        simp only [List.forall_mem_cons]
        exact ⟨isBareChar_base64Digit (by omega), isBareChar_base64Digit (by omega),
          isBareChar_base64Digit (by omega), isBareChar_base64Digit (by omega), hacc⟩
  intro c hc
  rw [Base64.encode, String.toList_ofList, List.mem_reverse] at hc
  exact hwrite [] (List.forall_mem_nil _) c hc

theorem bare_base64 (bytes : List UInt8) : Bare (Base64.encode bytes) :=
  bare_of_forall (isBareChar_base64 bytes)

/-- The way in which refusals name a character is legal, whatever the character is. -/
theorem legal_codePointLabel (c : Char) : Legal (Alphabet.codePointLabel c) := by
  have hdigit : ∀ n : Fin 16, Alphabet.isBodyChar (Nat.digitChar n) = true := by decide
  have hdigits : ∀ n : Nat, ∀ d ∈ Nat.toDigits 16 n, Alphabet.isBodyChar d = true := by
    intro n
    induction n using Nat.strongRecOn with
    | _ n ih =>
        intro d hd
        by_cases hsmall : n < 16
        · rw [Nat.toDigits_of_lt_base hsmall, List.mem_singleton] at hd
          rw [hd]
          exact hdigit ⟨n, hsmall⟩
        · rw [Nat.toDigits_of_base_le (by decide) (by omega), List.mem_append,
            List.mem_singleton] at hd
          rcases hd with hd | rfl
          · exact ih (n / 16) (by omega) d hd
          · exact hdigit ⟨n % 16, Nat.mod_lt n (by decide)⟩
  rw [Alphabet.codePointLabel, legal_append_iff]
  refine ⟨by decide, ?_⟩
  intro d hd
  rw [String.toList_ofList] at hd
  exact hdigits _ d hd

/-! ## Names and documents -/

theorem legal_arn {arn : Arn} (hpartition : Legal arn.partition) (hservice : Legal arn.service)
    (hregion : Legal arn.region) (haccount : Legal arn.account) (hresource : Legal arn.resource) :
    Legal arn.toText := by
  have hcolon : Legal ":" := by decide
  have hstart : Legal "arn:" := by decide
  unfold Arn.toText
  simp only [legal_append_iff]
  exact ⟨⟨⟨⟨⟨⟨⟨⟨⟨hstart, hpartition⟩, hcolon⟩, hservice⟩, hcolon⟩, hregion⟩, hcolon⟩, haccount⟩,
    hcolon⟩, hresource⟩

theorem forall_jsonEscapeChar {c : Char} (h : Alphabet.isBodyChar c = true) :
    ∀ d ∈ Json.escapeChar c, Alphabet.isBodyChar d = true := by
  unfold Json.escapeChar
  split
  · exact List.all_eq_true.mp rfl
  split
  · exact List.all_eq_true.mp rfl
  split
  · exact List.all_eq_true.mp rfl
  split
  · exact List.all_eq_true.mp rfl
  split
  · exact List.all_eq_true.mp rfl
  split
  · exact List.all_eq_true.mp rfl
  split
  · exact List.all_eq_true.mp rfl
  split
  · next hne1 hne2 hne3 hne4 hne5 hne6 hne7 hlt =>
    -- the characters below a space that XML knows have an escape of their own
    simp only [Alphabet.isBodyChar, Alphabet.isBodyCodePoint, Bool.or_eq_true, Bool.and_eq_true,
      beq_iff_eq, decide_eq_true_eq] at h
    have htab : c.toNat ≠ 0x9 := fun heq => hne7 (Char.toNat_inj.mp heq)
    have hfeed : c.toNat ≠ 0xA := fun heq => hne5 (Char.toNat_inj.mp heq)
    have hreturn : c.toNat ≠ 0xD := fun heq => hne6 (Char.toNat_inj.mp heq)
    omega
  · intro d hd
    rw [List.mem_singleton] at hd
    rw [hd]
    exact h

theorem forall_quoted {s : String} (h : Legal s) :
    ∀ c ∈ Json.quoted s, Alphabet.isBodyChar c = true := by
  intro c hc
  simp only [Json.quoted, List.cons_append, List.mem_cons, List.mem_append, List.mem_flatMap,
    List.not_mem_nil, or_false] at hc
  rcases hc with rfl | ⟨d, hd, hc⟩ | rfl
  · rfl
  · exact forall_jsonEscapeChar (h d hd) c hc
  · rfl

/-- The canonical document of a redrive policy. -/
theorem legal_toDocument {policy : RedrivePolicy} {region : String}
    (h : Legal (policy.target.arn region).toText) : Legal (policy.toDocument region) := by
  have hkeys : Legal RedrivePolicy.targetKey ∧ Legal RedrivePolicy.countKey := by decide
  have htext : (policy.toDocument region).toList =
      '\x7b' :: (Json.quoted RedrivePolicy.targetKey ++ ':' ::
        (Json.quoted (policy.target.arn region).toText ++ ',' ::
          (Json.quoted RedrivePolicy.countKey ++ ':' ::
            ((toString (policy.maxReceiveCount : Int)).toList ++ ['\x7d'])))) := by
    simp only [RedrivePolicy.toDocument, Json.toText, Json.write, Json.writeMembers,
      Json.Number.write, String.toList_ofList, List.append_assoc, List.cons_append, List.nil_append]
  intro c hc
  rw [htext] at hc
  simp only [List.mem_cons, List.mem_append, List.not_mem_nil, or_false] at hc
  rcases hc with rfl | hc | rfl | hc | rfl | hc | rfl | hc | rfl
  · rfl
  · exact forall_quoted hkeys.1 c hc
  · rfl
  · exact forall_quoted h c hc
  · rfl
  · exact forall_quoted hkeys.2 c hc
  · rfl
  · exact (bare_toString_int _ c hc).1
  · rfl

/-! ## Texts that quote others -/

/-- **Quoting.** The text is legal if the quoted ones are, and only then, so that all else in it is. -/
def Quotes (text : String) (quoted : List String) : Prop := Legal text ↔ ∀ s ∈ quoted, Legal s

namespace Quotes

variable {a b : String} {as bs : List String}

theorem of_legal (h : Legal a) : Quotes a [] := iff_of_true h (List.forall_mem_nil _)

theorem literal {cs : List Char} (h : cs.all Alphabet.isBodyChar = true) :
    Quotes (String.ofList cs) [] :=
  of_legal (.literal h)

theorem self (text : String) : Quotes text [text] := List.forall_mem_singleton.symm

theorem append (ha : Quotes a as) (hb : Quotes b bs) : Quotes (a ++ b) (as ++ bs) := by
  rw [Quotes, legal_append_iff, List.forall_mem_append]
  exact and_congr ha hb

/-- A legal text behind another one quotes nothing. -/
theorem legal (ha : Quotes a as) (hb : Legal b) : Quotes (a ++ b) as := by
  have h := ha.append (of_legal hb)
  rwa [List.append_nil] at h

theorem words (ha : Quotes a as) {cs : List Char} (h : cs.all Alphabet.isBodyChar = true) :
    Quotes (a ++ String.ofList cs) as :=
  ha.legal (.literal h)

theorem number (ha : Quotes a as) (n : Nat) : Quotes (a ++ toString n) as :=
  ha.legal (bare_toString_nat n).legal

theorem quote (ha : Quotes a as) (text : String) : Quotes (a ++ text) (as ++ [text]) :=
  ha.append (self text)

end Quotes

end QueueService.Xml
