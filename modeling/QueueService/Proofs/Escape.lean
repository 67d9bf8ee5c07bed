import Mathlib.Data.List.Basic
import Mathlib.Tactic.SplitIfs
import QueueService.Xml

/-!
# Escaped text

Characters are replaced one after the other in the whole of a text, so that a later replacement also sees
what an earlier one has written. It finds nothing there to replace as long as no written form has a character
of a later replacement in it (`replaceInTurn_eq_flatMap`). Since every reference begins with an ampersand,
this is so with the ampersand in front and not otherwise.

* `toList_escapeText` — replacing in turn comes to writing each character by itself.
* `escapeChar_cases` — a character is written as a reference, or as itself if it is no markup.
* `expand_escape` — what is written is read back by expanding references, whatever else looks like one.
* `escapeText_expandable` — all of it, for every text.
-/

namespace QueueService.Xml

/-! ## One replacement after the other -/

/-- What a character becomes if each of some replacements sees the text as it was. -/
def substitute (replacements : List (Char × List Char)) (c : Char) : List Char :=
  match replacements with
  | [] => [c]
  | r :: rest => if c = r.1 then r.2 else substitute rest c

section Replace

variable {replacements : List (Char × List Char)} {written : List Char}

/-- Characters that are not replaced stay as they are. -/
theorem flatMap_substitute_of_forall (h : ∀ r ∈ replacements, r.1 ∉ written) :
    written.flatMap (substitute replacements) = written := by
  have hself : ∀ c ∈ written, substitute replacements c = [c] := by
    intro c hc
    induction replacements with
    | nil => rfl
    | cons r rest ih =>
        rw [List.forall_mem_cons] at h
        have hne : c ≠ r.1 := fun heq => h.1 (heq ▸ hc)
        rw [substitute, if_neg hne, ih h.2]
  rw [List.flatMap_congr hself, List.flatMap_singleton']

/-- **In turn or at once.** If no replacement writes a character that a later one replaces, the later ones
    leave alone what has been written. -/
theorem replaceInTurn_eq_flatMap (h : replacements.Pairwise fun r later => later.1 ∉ r.2)
    (cs : List Char) : replaceInTurn replacements cs = cs.flatMap (substitute replacements) := by
  induction replacements generalizing cs with
  | nil => exact (List.flatMap_singleton' cs).symm
  | cons r rest ih =>
      obtain ⟨hfirst, hrest⟩ := List.pairwise_cons.mp h
      have hchar : ∀ c, (if c = r.1 then r.2 else [c]).flatMap (substitute rest) =
          substitute (r :: rest) c := by
        intro c
        rw [substitute]
        split
        · exact flatMap_substitute_of_forall hfirst
        · exact List.flatMap_singleton _ _
      calc replaceInTurn (r :: rest) cs
          _ = replaceInTurn rest (replace r.1 r.2 cs) := rfl
          _ = (replace r.1 r.2 cs).flatMap (substitute rest) := ih hrest _
          _ = cs.flatMap fun c => (if c = r.1 then r.2 else [c]).flatMap (substitute rest) :=
            List.flatMap_assoc
          _ = cs.flatMap (substitute (r :: rest)) := List.flatMap_congr fun c _ => hchar c

/-- With the ampersand at the end, the references that are there already would be replaced. -/
example : replaceInTurn references.reverse ['<'] = ['&', 'a', 'm', 'p', ';', 'l', 't', ';'] := by decide

theorem substitute_references (c : Char) : substitute references c = escapeChar c := rfl

/-- **A text is escaped character by character.** -/
theorem toList_escapeText (text : String) : (escapeText text).toList = escape text.toList := by
  have hlater : references.Pairwise fun r later => later.1 ∉ r.2 := by decide
  rw [escapeText, String.toList_ofList, replaceInTurn_eq_flatMap hlater]
  exact List.flatMap_congr fun c _ => substitute_references c

end Replace

/-! ## What is written for a character -/

/-- The names of the predefined entities. -/
def entities : List (List Char) :=
  [['a', 'm', 'p'], ['l', 't'], ['g', 't'], ['q', 'u', 'o', 't'], ['a', 'p', 'o', 's']]

/-- The characters that may not stand in escaped text. The ampersand may, in front of a name. -/
def forbidden : List Char := ['<', '>', '"', '\'']

/-- A character is written as a reference, or as itself. -/
theorem escapeChar_cases (c : Char) :
    (∃ name ∈ entities, escapeChar c = '&' :: (name ++ [';'])) ∨
      (c ≠ '&' ∧ c ∉ forbidden ∧ escapeChar c = [c]) := by
  unfold escapeChar
  split_ifs with hand hless hgreater hquote hapostrophe
  · exact .inl ⟨['a', 'm', 'p'], by decide, rfl⟩
  · exact .inl ⟨['l', 't'], by decide, rfl⟩
  · exact .inl ⟨['g', 't'], by decide, rfl⟩
  · exact .inl ⟨['q', 'u', 'o', 't'], by decide, rfl⟩
  · exact .inl ⟨['a', 'p', 'o', 's'], by decide, rfl⟩
  · exact .inr ⟨hand, by simp [forbidden, hless, hgreater, hquote, hapostrophe], rfl⟩

/-- There is no markup behind the ampersand of a reference, since names consist of letters. -/
theorem markup_notMem_entity {name : List Char} (h : name ∈ entities) :
    ∀ c ∈ '&' :: forbidden, c ∉ name ++ [';'] := by
  have hletters : ∀ name ∈ entities, name.all Char.isAlpha = true := by decide
  have hmarkup : ∀ c ∈ '&' :: forbidden, c.isAlpha = false ∧ c ≠ ';' := by simp [forbidden]
  intro c hc hmem
  obtain ⟨hother, hend⟩ := hmarkup c hc
  rcases List.mem_append.mp hmem with hmem | hmem
  · have hletter := List.all_eq_true.mp (hletters name h) c hmem
    rw [hother] at hletter
    cases hletter
  · exact hend (List.mem_singleton.mp hmem)

section Escaped

variable {cs front back : List Char}

theorem forbidden_notMem_escapeChar (c : Char) : ∀ d ∈ forbidden, d ∉ escapeChar c := by
  intro d hd hmem
  rcases escapeChar_cases c with ⟨name, hname, heq⟩ | ⟨-, hplain, heq⟩
  · rw [heq, List.mem_cons] at hmem
    rcases hmem with rfl | hmem
    · exact absurd hd (by decide)
    · exact markup_notMem_entity hname d (List.mem_cons_of_mem _ hd) hmem
  · rw [heq, List.mem_singleton] at hmem
    exact hplain (hmem ▸ hd)

/-- **No markup.** -/
theorem forbidden_notMem_escape (cs : List Char) : ∀ d ∈ forbidden, d ∉ escape cs := by
  intro d hd hmem
  obtain ⟨c, -, hc⟩ := List.mem_flatMap.mp hmem
  exact forbidden_notMem_escapeChar c d hd hc

/-- Behind an ampersand in what is written for a character stands the rest of a reference. -/
theorem entity_of_escapeChar {c : Char} (h : escapeChar c = front ++ '&' :: back) :
    ∃ name ∈ entities, back = name ++ [';'] := by
  rcases escapeChar_cases c with ⟨name, hname, heq⟩ | ⟨hand, -, heq⟩
  · rw [h] at heq
    cases front with
    | nil => exact ⟨name, hname, (List.cons.inj heq).2⟩
    | cons d front =>
        refine absurd ?_ (markup_notMem_entity hname '&' List.mem_cons_self)
        rw [← (List.cons.inj heq).2]
        exact List.mem_append_right front List.mem_cons_self
  · have hmem : '&' ∈ [c] := heq ▸ h ▸ List.mem_append_right front List.mem_cons_self
    exact absurd (List.mem_singleton.mp hmem).symm hand

/-- **Every ampersand begins a reference.** -/
theorem entity_of_escape (h : escape cs = front ++ '&' :: back) :
    ∃ name ∈ entities, name ++ [';'] <+: back := by
  induction cs generalizing front with
  | nil => simp [escape] at h
  | cons c rest ih =>
      have hsplit : escapeChar c ++ escape rest = front ++ '&' :: back := h
      rcases List.append_eq_append_iff.mp hsplit with ⟨more, -, hrest⟩ | ⟨more, hchar, hback⟩
      · exact ih hrest
      · cases more with
        | nil =>
            have hrest : escape rest = [] ++ '&' :: back := hback.symm
            exact ih hrest
        | cons d more =>
            -- the ampersand is one of those written for the first character
            obtain ⟨rfl, rfl⟩ := List.cons.inj hback
            obtain ⟨name, hname, rfl⟩ := entity_of_escapeChar hchar
            exact ⟨name, hname, List.prefix_append _ _⟩

end Escaped

/-! ## Expanding references -/

/-- Go through characters once, from left to right, with the character that is meant for each reference to
    a predefined entity. All else stays. -/
def expand : List Char → List Char
  | '&' :: 'a' :: 'm' :: 'p' :: ';' :: rest => '&' :: expand rest
  | '&' :: 'l' :: 't' :: ';' :: rest => '<' :: expand rest
  | '&' :: 'g' :: 't' :: ';' :: rest => '>' :: expand rest
  | '&' :: 'q' :: 'u' :: 'o' :: 't' :: ';' :: rest => '"' :: expand rest
  | '&' :: 'a' :: 'p' :: 'o' :: 's' :: ';' :: rest => '\'' :: expand rest
  | c :: rest => c :: expand rest
  | [] => []

theorem expand_cons {c : Char} (h : c ≠ '&') (rest : List Char) :
    expand (c :: rest) = c :: expand rest := by
  rw [expand]
  all_goals exact fun _ heq => absurd heq h

/-- What is written for a character is read as the character, whatever follows. -/
theorem expand_escapeChar (c : Char) (rest : List Char) :
    expand (escapeChar c ++ rest) = c :: expand rest := by
  unfold escapeChar
  split_ifs with hand hless hgreater hquote hapostrophe
  · rw [hand]; rfl
  · rw [hless]; rfl
  · rw [hgreater]; rfl
  · rw [hquote]; rfl
  · rw [hapostrophe]; rfl
  · exact expand_cons hand rest

/-- **Texts come back,** also those with references in them. -/
theorem expand_escape (cs : List Char) : expand (escape cs) = cs := by
  induction cs with
  | nil => rfl
  | cons c rest ih =>
      rw [escape, List.flatMap_cons, expand_escapeChar]
      exact congrArg (c :: ·) ih

/-- **Escaped text** is the same whether characters are replaced in turn or each by itself, and it is what
    stands between tags. It has no markup but ampersands that begin a reference, and expanding references
    gives back the text. Texts are escaped one behind the other. -/
theorem escapeText_expandable :
    (∀ text : String,
      (escapeText text).toList = text.toList.flatMap escapeChar ∧
        (Xml.text text).write = (escapeText text).toList ∧
        (∀ c ∈ forbidden, c ∉ (escapeText text).toList) ∧
        (∀ front back, (escapeText text).toList = front ++ '&' :: back →
          ∃ name ∈ entities, name ++ [';'] <+: back) ∧
        expand (escapeText text).toList = text.toList) ∧
      ∀ a b : String, escapeText (a ++ b) = escapeText a ++ escapeText b := by
  refine ⟨fun text => ?_, fun a b => ?_⟩
  · have hescape := toList_escapeText text
    rw [hescape]
    exact ⟨rfl, write.eq_1 text, forbidden_notMem_escape _, fun _ _ => entity_of_escape,
      expand_escape _⟩
  · apply String.toList_inj.mp
    rw [String.toList_append, toList_escapeText, toList_escapeText, toList_escapeText,
      String.toList_append, escape_append]

/-- A text that looks like an escaped one. -/
theorem escapeText_expandable_reference :
    escapeText "&lt;'" = "&amp;lt;&apos;" ∧
      "&amp;lt;&apos;".toList = "&amp;lt;".toList ++ '&' :: "apos;".toList ∧
      (∃ name ∈ entities, name ++ [';'] <+: "apos;".toList) ∧
      expand "&amp;lt;&apos;".toList = "&lt;'".toList := by
  have htext : escapeText "&lt;'" = "&amp;lt;&apos;" := by decide
  have hsplit : "&amp;lt;&apos;".toList = "&amp;lt;".toList ++ '&' :: "apos;".toList := rfl
  obtain ⟨-, -, -, hand, hback⟩ := escapeText_expandable.1 "&lt;'"
  rw [htext] at hand hback
  exact ⟨htext, hsplit, hand _ _ hsplit, hback⟩

end QueueService.Xml
