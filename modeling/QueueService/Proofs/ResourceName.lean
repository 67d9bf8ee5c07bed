import Mathlib
import QueueService.Arn
import QueueService.Proofs.Check

/-!
# Reading resource names

Which texts are resource names, and what is wrong with the others. The first four colons behind the start
part the fields, so each accepted text comes apart in one way only, and writing the fields puts it together
again. A text with fewer colons has too few fields, and of a text with enough of them the first field that
is empty, and may not be, is reported.

* `Arn.length_splitFields` — how many fields there are.
* `Arn.parse_decides` — which texts are read, and with which error the others are refused.
* `Arn.parse_decomposition` — reading undoes writing, writing undoes reading, and what is read is unique.
-/

namespace QueueService.Arn

/-! ## Fields -/

/-- A text is split at as many colons as are asked for, or at all that it has. -/
theorem length_splitFields (n : Nat) (cs : List Char) :
    (splitFields n cs).length = min n (cs.count ':') + 1 := by
  induction n generalizing cs with
  | zero => simp [splitFields]
  | succ n ih =>
      have hfield : (cs.takeWhile (· != ':')).count ':' = 0 :=
        List.count_eq_zero.mpr (Separator.notMem_takeWhile ':' cs)
      have hcount : cs.count ':' = (cs.dropWhile (· != ':')).count ':' := by
        conv_lhs => rw [← List.takeWhile_append_dropWhile (p := fun c => c != ':') (l := cs)]
        rw [List.count_append, hfield, Nat.zero_add]
      rw [splitFields, hcount]
      cases hrest : cs.dropWhile (· != ':') with
      | nil => simp
      | cons c rest =>
          obtain rfl := Separator.eq_of_dropWhile hrest
          simp only [List.length_cons, ih, List.count_cons_self]
          omega

/-- With four colons there are five fields. -/
theorem exists_fields {cs : List Char} (h : 4 ≤ cs.count ':') : ∃ p s r a x, Fields cs p s r a x := by
  have hlength : (splitFields 4 cs).length = 5 := by
    rw [length_splitFields]
    omega
  match hsplit : splitFields 4 cs, hlength with
  | [p, s, r, a, x], _ => exact ⟨p, s, r, a, x, splitFields_eq_iff.mp hsplit⟩

/-! ## Texts -/

/-- What resource names begin with. -/
def start : List Char := ['a', 'r', 'n', ':']

/-- **The first empty field** of those that may not be empty. -/
inductive FirstEmpty : List Char → List Char → List Char → String → Prop
  | partition (s x : List Char) : FirstEmpty [] s x "partition"
  | service {p : List Char} (partition : p ≠ []) (x : List Char) : FirstEmpty p [] x "service"
  | resource {p s : List Char} (partition : p ≠ []) (service : s ≠ []) : FirstEmpty p s [] "resource"

/-- **What is wrong with a text.** -/
inductive Faulty (text : String) : Error → Prop
  | missingStart (other : ¬ start <+: text.toList) : Faulty text (.missingStart text)
  | fieldCount {rest : List Char} (started : text.toList = start ++ rest) (few : rest.count ':' < 4) :
      Faulty text (.fieldCount text)
  | emptyField {rest p s r a x : List Char} {field : String} (started : text.toList = start ++ rest)
      (fields : Fields rest p s r a x) (empty : FirstEmpty p s x field) :
      Faulty text (.emptyField field text)

section Parse

variable {text : String} {arn : Arn} {rest : List Char}

theorem parse_of_start (h : text.toList = start ++ rest) : parse text =
    match splitFields 4 rest with
    | [p, s, r, a, x] =>
      if p.isEmpty then .error (.emptyField "partition" text)
      else if s.isEmpty then .error (.emptyField "service" text)
      else if x.isEmpty then .error (.emptyField "resource" text)
      else .ok
        { partition := String.ofList p, service := String.ofList s, region := String.ofList r,
          account := String.ofList a, resource := String.ofList x }
    | _ => .error (.fieldCount text) := by
  unfold parse
  rw [h]
  rfl

/-- **Texts that are read** are the texts of resource names that can be told from them. -/
theorem parse_eq_ok_iff : parse text = .ok arn ↔ arn.WellFormed ∧ arn.toText = text := by
  constructor
  · exact of_parse
  · rintro ⟨hwell, rfl⟩
    exact parse_toText hwell

/-- **The verdict on a text.** It is read, or else refused for its first fault. -/
theorem parse_decides (text : String) :
    Decides (parse text) (∃ arn : Arn, arn.WellFormed ∧ arn.toText = text) (Faulty text) where
  ok := fun ⟨arn, h⟩ => ⟨arn, parse_eq_ok_iff.mpr h⟩
  error := by
    intro e h
    cases h with
    | missingStart other =>
        unfold parse
        split
        · next rest heq => exact absurd ⟨rest, heq.symm⟩ other
        · rfl
    | @fieldCount rest started few =>
        have hlength := length_splitFields 4 rest
        rw [parse_of_start started]
        split
        · next hfive =>
          rw [hfive] at hlength
          simp at hlength
          omega
        · rfl
    | emptyField started fields empty =>
        rw [parse_of_start started, splitFields_eq_iff.mpr fields]
        cases empty with
        | partition => rfl
        | service partition => simp [partition]
        | resource partition service => simp [partition, service]
  total := by
    by_cases hstart : start <+: text.toList
    · obtain ⟨rest, hrest⟩ := hstart
      by_cases hcount : rest.count ':' < 4
      · exact .inr ⟨_, .fieldCount hrest.symm hcount⟩
      obtain ⟨p, s, r, a, x, hfields⟩ := exists_fields (Nat.le_of_not_lt hcount)
      by_cases hp : p = []
      · subst hp
        exact .inr ⟨_, .emptyField hrest.symm hfields (.partition s x)⟩
      by_cases hs : s = []
      · subst hs
        exact .inr ⟨_, .emptyField hrest.symm hfields (.service hp x)⟩
      by_cases hx : x = []
      · subst hx
        exact .inr ⟨_, .emptyField hrest.symm hfields (.resource hp hs)⟩
      · refine .inl ?_
        have hok : ∃ arn, parse text = .ok arn := by
          rw [parse_of_start hrest.symm, splitFields_eq_iff.mpr hfields]
          simp [hp, hs, hx]
        obtain ⟨arn, harn⟩ := hok
        exact ⟨arn, parse_eq_ok_iff.mp harn⟩
    · exact .inr ⟨_, .missingStart hstart⟩

end Parse

/-- **Resource names and their texts.** What is read is written as the text it was read from, and what is
    written is read back if its fields can be told apart. A text is read if and only if it has the form of a
    resource name, with a partition, a service and a resource, and colons in the last field alone; it has
    that form in one way. All other texts are refused for what is wrong with them. -/
theorem parse_decomposition :
    (∀ text arn, parse text = .ok arn → arn.toText = text) ∧
      (∀ arn : Arn, arn.WellFormed → parse arn.toText = .ok arn) ∧
      (∀ text, (∃ arn, parse text = .ok arn) ↔
        ∃ p s r a x : String,
          text = "arn:" ++ p ++ ":" ++ s ++ ":" ++ r ++ ":" ++ a ++ ":" ++ x ∧
            p ≠ "" ∧ ':' ∉ p.toList ∧ s ≠ "" ∧ ':' ∉ s.toList ∧ ':' ∉ r.toList ∧ ':' ∉ a.toList ∧
              x ≠ "") ∧
      (∀ arn arn' : Arn, arn.WellFormed → arn'.WellFormed → arn.toText = arn'.toText → arn = arn') ∧
      ∀ text e, parse text = .error e ↔ Faulty text e := by
  refine ⟨?_, ?_, ?_, ?_, fun text e => (parse_decides text).error_iff⟩
  · intro text arn h
    exact (parse_eq_ok_iff.mp h).2
  · intro arn h
    exact parse_toText h
  · intro text
    rw [(parse_decides text).ok_iff]
    constructor
    · rintro ⟨⟨p, s, r, a, x⟩, ⟨⟨hp, hp'⟩, ⟨hs, hs'⟩, hr, ha, hx⟩, htext⟩
      exact ⟨p, s, r, a, x, htext.symm, hp, hp', hs, hs', hr, ha, hx⟩
    · rintro ⟨p, s, r, a, x, rfl, hp, hp', hs, hs', hr, ha, hx⟩
      exact ⟨⟨p, s, r, a, x⟩, ⟨⟨hp, hp'⟩, ⟨hs, hs'⟩, hr, ha, hx⟩, rfl⟩
  · intro arn arn' h h' heq
    have hread := parse_toText h
    rw [heq, parse_toText h'] at hread
    exact (Except.ok.inj hread).symm

/-- A resource with colons, and a region that is left out. -/
theorem parse_decomposition_colons :
    (⟨"aws", "lambda", "", "123456789012", "function:f:live"⟩ : Arn).WellFormed ∧
      parse "arn:aws:lambda::123456789012:function:f:live" =
        .ok ⟨"aws", "lambda", "", "123456789012", "function:f:live"⟩ ∧
      ∀ arn : Arn, arn.WellFormed → arn.toText = "arn:aws:lambda::123456789012:function:f:live" →
        arn.resource = "function:f:live" := by
  obtain ⟨hwrite, hread, -, hunique, -⟩ := parse_decomposition
  have hparse : parse "arn:aws:lambda::123456789012:function:f:live" =
      .ok ⟨"aws", "lambda", "", "123456789012", "function:f:live"⟩ := by cbv
  have htext := hwrite _ _ hparse
  have hwell : (⟨"aws", "lambda", "", "123456789012", "function:f:live"⟩ : Arn).WellFormed :=
    ⟨by decide, by decide, by decide, by decide, by decide⟩
  refine ⟨hwell, ?_, ?_⟩
  · rw [← htext]
    exact hread _ hwell
  · intro arn harn heq
    rw [hunique arn _ harn hwell (heq.trans htext.symm)]

end QueueService.Arn
