import QueueService.Json.Reader
import QueueService.Json.Writer
import QueueService.Proofs.JsonNumber

/-!
# Reading JSON

The scanner takes the written form of a string back as that string, whatever characters it has
(`scan?_quoted`), and the written form of a natural number of 64 bits as that number (`scan?_natural`).
Each lemma says how the scanner goes on behind the token, so that documents are read token by token.

Whatever is read, the members of its objects stand in ascending order of their names, each name once
(`ordered_of_parse?`).
-/

namespace QueueService.Json

variable (found : List Token)

/-! ## Strings -/

/-- One step of the scanner. -/
theorem scan?_of_step {mode mode' : Mode} {c : Char} {tokens : List Token}
    (h : step? mode c = some (tokens, mode')) (rest : List Char) :
    scan? found mode (c :: rest) = scan? (tokens.reverse ++ found) mode' rest := by
  rw [scan?, h]

/-- The digits of a control character give it back. -/
theorem scan?_unit {c : Char} (h : c.toNat < 0x20) (gathered rest : List Char) :
    scan? found (.text gathered) ('\\' :: 'u' :: '0' :: '0' :: Nat.digitChar (c.toNat / 16) ::
        Nat.digitChar (c.toNat % 16) :: rest) =
      scan? found (.text (c :: gathered)) rest := by
  have hhigh : Hex.digit? (Nat.digitChar (c.toNat / 16)) = some (c.toNat / 16) :=
    Hex.digit?_digitChar (by omega)
  have hlow : Hex.digit? (Nat.digitChar (c.toNat % 16)) = some (c.toNat % 16) :=
    Hex.digit?_digitChar (by omega)
  have hthird : step? (.unit gathered none 0 2) (Nat.digitChar (c.toNat / 16)) =
      some ([], .unit gathered none (c.toNat / 16) 1) := by
    simp [step?, hhigh]
  have hvalue : 16 * (c.toNat / 16) + c.toNat % 16 = c.toNat := by omega
  have hclose : closeUnit? gathered none c.toNat = some (.text (c :: gathered)) := by
    have hplain : ¬ (0xD800 ≤ c.toNat ∧ c.toNat ≤ 0xDBFF) := by omega
    have hplain' : ¬ (0xDC00 ≤ c.toNat ∧ c.toNat ≤ 0xDFFF) := by omega
    simp [closeUnit?, hplain, hplain', Char.ofNat_toNat]
  have hfourth : step? (.unit gathered none (c.toNat / 16) 1) (Nat.digitChar (c.toNat % 16)) =
      some ([], .text (c :: gathered)) := by
    simp [step?, hlow, hvalue, hclose]
  calc scan? found (.text gathered) _
      _ = scan? found (.unit gathered none 0 2) _ := rfl
      _ = scan? found (.unit gathered none (c.toNat / 16) 1) _ := scan?_of_step found hthird _
      _ = scan? found (.text (c :: gathered)) rest := scan?_of_step found hfourth _

/-- A written character is gathered as the character itself. -/
theorem scan?_escapeChar (c : Char) (gathered rest : List Char) :
    scan? found (.text gathered) (escapeChar c ++ rest) = scan? found (.text (c :: gathered)) rest := by
  unfold escapeChar
  -- seven characters have an escape of one letter, which stands for the character
  iterate 7
    split
    · next h => subst h; rfl
  split
  · next h => exact scan?_unit found h gathered rest
  · next hquote hslash _ _ _ _ _ hcontrol =>
    have hstep : step? (.text gathered) c = some ([], .text (c :: gathered)) := by
      simp [step?, hquote, hslash, hcontrol]
    exact scan?_of_step found hstep rest

theorem scan?_text (cs gathered rest : List Char) :
    scan? found (.text gathered) (cs.flatMap escapeChar ++ '"' :: rest) =
      scan? (.string (String.ofList (gathered.reverse ++ cs)) :: found) .between rest := by
  induction cs generalizing gathered with
  | nil =>
      have hclose : step? (.text gathered) '"' =
          some ([.string (String.ofList gathered.reverse)], .between) := rfl
      rw [List.append_nil]
      exact scan?_of_step found hclose rest
  | cons c cs ih =>
      rw [List.flatMap_cons, List.append_assoc, scan?_escapeChar, ih, List.reverse_cons,
        List.append_assoc, List.singleton_append]

/-- **Strings.** A written string is scanned as that string. -/
theorem scan?_quoted (s : String) (rest : List Char) :
    scan? found .between (quoted s ++ rest) = scan? (.string s :: found) .between rest := by
  have hopen : step? .between '"' = some ([], .text []) := rfl
  have hsplit : quoted s ++ rest = '"' :: (s.toList.flatMap escapeChar ++ '"' :: rest) := by
    simp [quoted]
  rw [hsplit, scan?_of_step found hopen, List.reverse_nil, List.nil_append, scan?_text,
    List.reverse_nil, List.nil_append, String.ofList_toList]

/-! ## Natural numbers -/

theorem begin?_digit {c : Char} (h : c.isDigit = true) : begin? c = some ([], .number [c]) := by
  have hne : ∀ d : Char, d.isDigit = false → c ≠ d := by
    rintro d hd rfl
    rw [h] at hd
    cases hd
  have hgap : isGap c = false := by
    simp [isGap, hne ' ' rfl, hne '\t' rfl, hne '\n' rfl, hne '\r' rfl]
  simp [begin?, hgap, hne '"' rfl, h]

theorem scan?_digits {ds : List Char} (h : ∀ c ∈ ds, c.isDigit = true) (gathered rest : List Char) :
    scan? found (.number gathered) (ds ++ rest) = scan? found (.number (ds.reverse ++ gathered)) rest := by
  induction ds generalizing gathered with
  | nil => rfl
  | cons c ds ih =>
      have hdigit : c.isDigit = true := h c List.mem_cons_self
      have hstep : step? (.number gathered) c = some ([], .number (c :: gathered)) := by
        simp [step?, isNumberChar, hdigit]
      have hrest := ih (fun d hd => h d (List.mem_cons_of_mem c hd)) (c :: gathered)
      rw [List.cons_append, scan?_of_step found hstep, List.reverse_nil, List.nil_append, hrest,
        List.reverse_cons, List.append_assoc, List.singleton_append]

/-- **Natural numbers.** A written number is scanned as that number, when something follows that cannot be
    part of it. -/
theorem scan?_natural {n : Nat} (h : n ≤ Number.greatest) {c : Char} {tokens : List Token} {mode : Mode}
    (hend : isNumberChar c = false) (hbegin : begin? c = some (tokens, mode)) (rest : List Char) :
    scan? found .between ((toString n).toList ++ c :: rest) =
      scan? (tokens.reverse ++ .number (.integer n) :: found) mode rest := by
  have hparse := Number.parse?_toDigits h
  have hdigit : ∀ d ∈ Nat.toDigits 10 n, d.isDigit = true :=
    fun d hd => Integer.isDigit_of_mem_toDigits hd
  rw [Integer.toList_toString]
  cases hdigits : Nat.toDigits 10 n with
  | nil => exact absurd hdigits Nat.toDigits_ne_nil
  | cons d ds =>
      rw [hdigits] at hparse hdigit
      have hopen : step? .between d = some ([], .number [d]) :=
        begin?_digit (hdigit d List.mem_cons_self)
      have hclose : step? (.number (ds.reverse ++ [d])) c =
          some (.number (.integer n) :: tokens, mode) := by
        have hgathered : (ds.reverse ++ [d]).reverse = d :: ds := by simp
        simp [step?, hend, hgathered, hparse, hbegin]
      rw [List.cons_append, scan?_of_step found hopen, List.reverse_nil, List.nil_append,
        scan?_digits found (fun e he => hdigit e (List.mem_cons_of_mem d he)),
        scan?_of_step found hclose]
      simp

/-! ## Objects that are read -/

/-- **An ordered value.** In each of its objects the names of the members ascend, so that none occurs
    twice. -/
inductive Ordered : Json → Prop
  | null : Ordered .null
  | bool (value : Bool) : Ordered (.bool value)
  | number (value : Number) : Ordered (.number value)
  | string (value : String) : Ordered (.string value)
  | array {elements : List Json} (ordered : ∀ v ∈ elements, Ordered v) : Ordered (.array elements)
  | object {members : List (String × Json)} (ascending : Entries.Ascending members)
      (ordered : ∀ e ∈ members, Ordered e.2) : Ordered (.object members)

/-- What an open container has so far is ordered. -/
def Frame.Ordered : Frame → Prop
  | .array elements => (Json.array elements).Ordered
  | .object members _ => (Json.object members).Ordered

/-- All that the builder has so far is ordered. -/
def Builder.Ordered : Builder → Prop
  | .value stack | .firstElement stack | .firstName stack | .next stack => ∀ f ∈ stack, f.Ordered
  | .name stack members | .colon stack members _ =>
    (∀ f ∈ stack, f.Ordered) ∧ (Json.object members).Ordered
  | .done document => document.Ordered

theorem ordered_emptyArray : (Json.array []).Ordered := .array (List.forall_mem_nil _)

theorem ordered_emptyObject : (Json.object []).Ordered := .object .nil (List.forall_mem_nil _)

theorem Ordered.insert {members : List (String × Json)} (h : (Json.object members).Ordered) {v : Json}
    (hv : v.Ordered) (name : String) : (Json.object (Entries.insert name v members)).Ordered := by
  cases h with
  | object ascending ordered =>
      refine .object (Entries.ascending_insert name v ascending) fun e he => ?_
      rcases Entries.mem_insert he with rfl | he
      · exact hv
      · exact ordered e he

section Builder

variable {stack : List Frame} {v : Json} {t : Token} {b b' : Builder}

theorem ordered_give (hv : v.Ordered) (hstack : ∀ f ∈ stack, f.Ordered) : (give v stack).Ordered := by
  cases stack with
  | nil => exact hv
  | cons frame stack =>
      obtain ⟨hframe, hrest⟩ := List.forall_mem_cons.mp hstack
      cases frame with
      | array elements =>
          cases hframe with
          | array ordered =>
              exact List.forall_mem_cons.mpr ⟨.array (List.forall_mem_cons.mpr ⟨hv, ordered⟩), hrest⟩
      | object members name => exact List.forall_mem_cons.mpr ⟨Json.Ordered.insert hframe hv name, hrest⟩

theorem ordered_startValue? (hstack : ∀ f ∈ stack, f.Ordered) (h : startValue? stack t = some b) :
    b.Ordered := by
  unfold startValue? at h
  split at h
  · cases h; exact ordered_give .null hstack
  · cases h; exact ordered_give (.bool _) hstack
  · cases h; exact ordered_give (.number _) hstack
  · cases h; exact ordered_give (.string _) hstack
  · split at h
    · cases h; exact hstack
    · cases h
  · split at h
    · cases h; exact hstack
    · cases h
  · cases h

/-- One token. -/
theorem Builder.ordered_step? (hb : b.Ordered) (h : b.step? t = some b') : b'.Ordered := by
  unfold Builder.step? at h
  split at h
  · exact ordered_startValue? hb h
  · cases h; exact ordered_give ordered_emptyArray hb
  · next stack _ =>
    have hstack : ∀ f ∈ Frame.array [] :: stack, f.Ordered :=
      List.forall_mem_cons.mpr ⟨ordered_emptyArray, hb⟩
    exact ordered_startValue? hstack h
  · cases h; exact ordered_give ordered_emptyObject hb
  · cases h; exact ⟨hb, ordered_emptyObject⟩
  · cases h; exact hb
  · cases h; exact List.forall_mem_cons.mpr ⟨hb.2, hb.1⟩
  · cases h; exact hb
  · -- the elements of an array have been gathered from the last one
    cases h
    obtain ⟨hframe, hrest⟩ := List.forall_mem_cons.mp hb
    cases hframe with
    | array ordered =>
        exact ordered_give (.array fun v hv => ordered v (List.mem_reverse.mp hv)) hrest
  · cases h
    obtain ⟨hframe, hrest⟩ := List.forall_mem_cons.mp hb
    exact ⟨hrest, hframe⟩
  · cases h
    obtain ⟨hframe, hrest⟩ := List.forall_mem_cons.mp hb
    exact ordered_give hframe hrest
  · cases h

theorem ordered_build? {tokens : List Token} (hb : b.Ordered) (h : build? b tokens = some v) :
    v.Ordered := by
  induction tokens generalizing b with
  | nil =>
      unfold build? at h
      split at h
      · cases h; exact hb
      · cases h
  | cons t rest ih =>
      unfold build? at h
      split at h
      · next hstep => exact ih (Builder.ordered_step? hb hstep) h
      · cases h

end Builder

/-- **Documents are ordered,** however they were written. -/
theorem ordered_of_parse? {text : String} {v : Json} (h : parse? text = some v) : v.Ordered := by
  unfold parse? at h
  split at h
  · have hempty : (Builder.value []).Ordered := List.forall_mem_nil _
    exact ordered_build? hempty h
  · cases h

end QueueService.Json
