import QueueService.Proofs.XmlReader

/-!
# Documents as they are written

What is written is balanced, whatever the texts in it are, and so it is read back as it was meant: texts
come back as the characters between tags, and none of them as a tag. What has to hold for this is said of
the pieces and of the vocabulary that their tags are from.

* `Xml.balanced_write` — a piece is written as it is to be read.
* `Xml.read?_document` — the document of an element is read as that element.
* `Xml.Over.tags_subset` — no tag of it is one that its texts have brought in.
* `Xml.wellFormed_document_iff` — it is well formed if its texts are legal, and only then.
-/

namespace QueueService.Xml

/-! ## What is written -/

mutual

/-- A piece as it is to be read. -/
def nodes : Xml → List Node
  | text content => content.toList.map .char
  | verbatim content => content.toList.map .char
  | element tag attributes content => [.element tag attributes (nodesAll content)]
  | empty tag => [.element tag [] []]

/-- Pieces as they are to be read. -/
def nodesAll : List Xml → List Node
  | [] => []
  | x :: rest => x.nodes ++ nodesAll rest

end

mutual

/-- The texts of a piece that are escaped. -/
def texts : Xml → List String
  | text content => [content]
  | verbatim _ => []
  | element _ _ content => textsAll content
  | empty _ => []

/-- The texts of pieces that are escaped. -/
def textsAll : List Xml → List String
  | [] => []
  | x :: rest => x.texts ++ textsAll rest

end

/-- The tags that a document may have, with their attributes. -/
abbrev Vocabulary := List (String × List (String × String))

/-- What stands in the angle brackets that open an element. -/
def tagBody (tag : String) (attributes : List (String × String)) : List Char :=
  tag.toList ++ attributes.flatMap writeAttribute

/-- **Sound.** The names of a vocabulary are names, no attribute is there twice, and the values of
    attributes need no escape between quotation marks. -/
structure Vocabulary.Sound (v : Vocabulary) : Prop where
  tags : ∀ t ∈ v, isName t.1.toList = true
  attributes : ∀ t ∈ v, ∀ a ∈ t.2, isName a.1.toList = true
  values : ∀ t ∈ v, ∀ a ∈ t.2, '"' ∉ a.2.toList ∧ Bare a.2
  distinct : ∀ t ∈ v, (t.2.map (·.1)).Nodup

/-- **Over a vocabulary.** All tags of the piece are from the vocabulary, and what is written as it is
    needs no escape. -/
inductive Over (v : Vocabulary) : Xml → Prop
  | text (content : String) : Over v (.text content)
  | verbatim {content : String} (bare : Bare content) : Over v (.verbatim content)
  | element {tag : String} {attributes : List (String × String)} {content : List Xml}
      (known : (tag, attributes) ∈ v) (inner : ∀ x ∈ content, Over v x) :
      Over v (.element tag attributes content)
  | empty {tag : String} (known : (tag, []) ∈ v) : Over v (.empty tag)

section Build

variable {v : Vocabulary} {tag text : String} {content : List Xml}

theorem Over.node (known : (tag, []) ∈ v) (inner : ∀ x ∈ content, x.Over v) :
    (Xml.node tag content).Over v :=
  .element known inner

theorem Over.leaf (known : (tag, []) ∈ v) (text : String) : (Xml.leaf tag text).Over v :=
  .element known (List.forall_mem_singleton.mpr (.text text))

/-- An element that holds a text that is written as it is. -/
theorem Over.field (known : (tag, []) ∈ v) (bare : Bare text) :
    (Xml.node tag [.verbatim text]).Over v :=
  .element known (List.forall_mem_singleton.mpr (.verbatim bare))

theorem textsAll_append (front back : List Xml) :
    textsAll (front ++ back) = textsAll front ++ textsAll back := by
  induction front with
  | nil => rfl
  | cons x rest ih => rw [List.cons_append, textsAll, ih, textsAll, List.append_assoc]

theorem forall_textsAll_map {α : Type} {f : α → Xml} {as : List α} {P : String → Prop} :
    (∀ s ∈ textsAll (as.map f), P s) ↔ ∀ a ∈ as, ∀ s ∈ (f a).texts, P s := by
  induction as with
  | nil => exact iff_of_true (List.forall_mem_nil _) (List.forall_mem_nil _)
  | cons a rest ih =>
      rw [List.map_cons, textsAll, List.forall_mem_append, List.forall_mem_cons]
      exact and_congr_right fun _ => ih

end Build

/-! ## Reading tags -/

section Tag

variable {name : List Char} {tag : String} {attributes : List (String × String)}

/-- Attributes are read one behind the other. -/
theorem attributes?_write (hnames : ∀ a ∈ attributes, isName a.1.toList = true)
    (hvalues : ∀ a ∈ attributes, '"' ∉ a.2.toList ∧ Bare a.2) :
    attributes? ((attributes.flatMap writeAttribute).splitOn '"') = some attributes := by
  induction attributes with
  | nil => rfl
  | cons a rest ih =>
      rw [List.forall_mem_cons] at hnames hvalues
      obtain ⟨hname, hnames⟩ := hnames
      obtain ⟨⟨hquote, hbare⟩, hvalues⟩ := hvalues
      have hand : '&' ∉ a.2.toList := fun hmem => (hbare '&' hmem).2 List.mem_cons_self
      have hfront : '"' ∉ ' ' :: (a.1.toList ++ ['=']) := by
        simp [notMem_of_isName hname (c := '"') (by decide)]
      have hwrite : (a :: rest).flatMap writeAttribute =
          ' ' :: (a.1.toList ++ ['=']) ++
            '"' :: (a.2.toList ++ '"' :: rest.flatMap writeAttribute) := by
        simp [writeAttribute]
      rw [hwrite, splitOn_quote hfront, splitOn_quote hquote, attributes?, ih hnames hvalues]
      simp [hname, hand]

theorem getLast?_tagBody_ne (hname : isName tag.toList = true)
    (attributes : List (String × String)) :
    (tagBody tag attributes).getLast? ≠ some '/' := by
  rcases List.eq_nil_or_concat attributes with rfl | ⟨front, a, rfl⟩
  · intro hlast
    rw [tagBody, List.flatMap_nil, List.append_nil] at hlast
    exact notMem_of_isName hname (by decide) (List.mem_of_getLast? hlast)
  · -- behind the last attribute there is a quotation mark
    have hbody : tagBody tag (front ++ [a]) =
        (tag.toList ++ (front.flatMap writeAttribute ++ ' ' :: a.1.toList ++ '=' :: '"' ::
          a.2.toList)) ++ ['"'] := by
      simp [tagBody, writeAttribute]
    rw [List.concat_eq_append, hbody, List.getLast?_concat]
    decide

theorem takeWhile_tagBody (hname : isName tag.toList = true)
    (attributes : List (String × String)) :
    (tagBody tag attributes).takeWhile Char.isAlphanum = tag.toList ∧
      (tagBody tag attributes).dropWhile Char.isAlphanum = attributes.flatMap writeAttribute := by
  have hall := isAlphanum_of_isName hname
  -- attributes begin with a blank
  have hstop : (attributes.flatMap writeAttribute).takeWhile Char.isAlphanum = [] ∧
      (attributes.flatMap writeAttribute).dropWhile Char.isAlphanum =
        attributes.flatMap writeAttribute := by
    cases attributes <;> exact ⟨rfl, rfl⟩
  rw [tagBody, List.takeWhile_append_of_pos hall, List.dropWhile_append_of_pos hall, hstop.1,
    hstop.2, List.append_nil]
  exact ⟨rfl, rfl⟩

theorem append_ne_slash (hname : isName name = true) (back rest : List Char) :
    name ++ back ≠ '/' :: rest := by
  intro heq
  obtain ⟨first, more, hfirst⟩ := List.exists_cons_of_ne_nil (ne_nil_of_isName hname)
  refine absurd ?_ (notMem_of_isName hname (c := '/') (by decide))
  rw [hfirst, List.cons_append] at heq
  rw [hfirst, (List.cons.inj heq).1]
  exact List.mem_cons_self

end Tag

namespace Vocabulary.Sound

variable {v : Vocabulary} {t : String × List (String × String)}

theorem read?_opening (hv : v.Sound) (ht : t ∈ v) :
    Tag.read? (tagBody t.1 t.2) = some (.opening t.1 t.2) := by
  have hname := hv.tags t ht
  obtain ⟨htake, hdrop⟩ := takeWhile_tagBody hname t.2
  have hlast := getLast?_tagBody_ne hname t.2
  unfold Tag.read?
  split
  · next rest heq => exact absurd heq (append_ne_slash hname _ rest)
  · simp only [hlast, if_false, htake, hdrop,
      attributes?_write (hv.attributes t ht) (hv.values t ht), hname, hv.distinct t ht, decide_true,
      Bool.and_self, if_true, String.ofList_toList]

theorem read?_closing (hv : v.Sound) (ht : t ∈ v) :
    Tag.read? ('/' :: t.1.toList) = some (.closing t.1) := by
  rw [Tag.read?, if_pos (hv.tags t ht), String.ofList_toList]

theorem read?_empty (hv : v.Sound) (ht : t ∈ v) :
    Tag.read? (t.1.toList ++ ['/']) = some (.empty t.1 []) := by
  have hname := hv.tags t ht
  have hbody : tagBody t.1 [] = t.1.toList := by simp [tagBody]
  obtain ⟨htake, hdrop⟩ := takeWhile_tagBody hname []
  rw [hbody] at htake hdrop
  unfold Tag.read?
  split
  · next rest heq => exact absurd heq (append_ne_slash hname _ rest)
  · simp [htake, hdrop, hname, attributes?]

/-- Tags have no angle brackets in them and no character that XML does not know. -/
theorem forall_tagBody (hv : v.Sound) (ht : t ∈ v) :
    ∀ c ∈ tagBody t.1 t.2, Alphabet.isBodyChar c = true ∧ c ≠ '<' ∧ c ≠ '>' := by
  have hbare : ∀ {text : String}, Bare text →
      ∀ c ∈ text.toList, Alphabet.isBodyChar c = true ∧ c ≠ '<' ∧ c ≠ '>' := by
    intro text h c hc
    obtain ⟨hlegal, hmarkup⟩ := h c hc
    simp only [List.mem_cons, List.not_mem_nil, or_false, not_or] at hmarkup
    exact ⟨hlegal, hmarkup.2⟩
  have hname : ∀ {text : String}, isName text.toList = true → Bare text := fun h =>
    bare_of_forall fun c hc => isBareChar_of_isAlphanum (isAlphanum_of_isName h c hc)
  intro c hc
  rw [tagBody, List.mem_append, List.mem_flatMap] at hc
  rcases hc with hc | ⟨a, ha, hc⟩
  · exact hbare (hname (hv.tags t ht)) c hc
  · simp only [writeAttribute, List.cons_append, List.append_assoc, List.mem_cons, List.mem_append,
      List.not_mem_nil, or_false] at hc
    rcases hc with rfl | hc | rfl | rfl | hc | rfl
    · decide
    · exact hbare (hname (hv.attributes t ht a ha)) c hc
    · decide
    · decide
    · exact hbare (hv.values t ht a ha).2 c hc
    · decide

theorem brackets_tagBody (hv : v.Sound) (ht : t ∈ v) :
    '<' ∉ tagBody t.1 t.2 ∧ '>' ∉ tagBody t.1 t.2 :=
  ⟨fun h => (hv.forall_tagBody ht '<' h).2.1 rfl, fun h => (hv.forall_tagBody ht '>' h).2.2 rfl⟩

theorem brackets_tag (hv : v.Sound) (ht : t ∈ v) : '<' ∉ t.1.toList ∧ '>' ∉ t.1.toList := by
  have hname := hv.tags t ht
  exact ⟨notMem_of_isName hname (by decide), notMem_of_isName hname (by decide)⟩

theorem spells_opening (hv : v.Sound) (ht : t ∈ v) :
    (Tag.opening t.1 t.2).Spells (tagBody t.1 t.2) :=
  ⟨hv.read?_opening ht, hv.brackets_tagBody ht⟩

theorem spells_closing (hv : v.Sound) (ht : t ∈ v) :
    (Tag.closing t.1).Spells ('/' :: t.1.toList) := by
  refine ⟨hv.read?_closing ht, ?_⟩
  simp [hv.brackets_tag ht]

theorem spells_empty (hv : v.Sound) (ht : t ∈ v) :
    (Tag.empty t.1 []).Spells (t.1.toList ++ ['/']) := by
  refine ⟨hv.read?_empty ht, ?_⟩
  simp [hv.brackets_tag ht]

end Vocabulary.Sound

/-! ## What is written is balanced -/

/-- A character is written as itself or as a reference to it. -/
theorem balanced_escapeChar (c : Char) : Balanced (escapeChar c) [.char c] := by
  unfold escapeChar
  split
  · next h => rw [h]; exact Balanced.nil.reference (rfl : entity? ['a', 'm', 'p'] = _)
  split
  · next h => rw [h]; exact Balanced.nil.reference (rfl : entity? ['l', 't'] = _)
  split
  · next h => rw [h]; exact Balanced.nil.reference (rfl : entity? ['g', 't'] = _)
  split
  · next h => rw [h]; exact Balanced.nil.reference (rfl : entity? ['q', 'u', 'o', 't'] = _)
  split
  · next h => rw [h]; exact Balanced.nil.reference (rfl : entity? ['a', 'p', 'o', 's'] = _)
  · next hand hless hgreater _ _ => exact Balanced.nil.char (by simp [hand, hless, hgreater])

/-- **Texts come back as characters,** whatever they are. -/
theorem balanced_escape (cs : List Char) : Balanced (escape cs) (cs.map .char) := by
  induction cs with
  | nil => exact .nil
  | cons c rest ih =>
      rw [escape, List.flatMap_cons]
      exact (balanced_escapeChar c).append ih

theorem balanced_writeAll {content : List Xml} (h : ∀ x ∈ content, Balanced x.write x.nodes) :
    Balanced (writeAll content) (nodesAll content) := by
  induction content with
  | nil => exact .nil
  | cons x rest ih =>
      rw [List.forall_mem_cons] at h
      exact h.1.append (ih h.2)

/-- **A piece is written as it is to be read.** -/
theorem balanced_write {v : Vocabulary} (hv : v.Sound) {x : Xml} (h : x.Over v) :
    Balanced x.write x.nodes := by
  induction h with
  | text content => exact balanced_escape _
  | verbatim bare => exact balanced_map_char fun c hc => (bare c hc).2
  | @element tag attributes content known inner ih =>
      have hwrite : (element tag attributes content).write =
          ('<' :: tagBody tag attributes ++ ['>']) ++
            (writeAll content ++ ('<' :: ('/' :: tag.toList) ++ ['>'])) := by
        simp [write, tagBody]
      rw [hwrite, nodes]
      exact Balanced.nil.element (hv.spells_opening known) (balanced_writeAll ih)
        (hv.spells_closing known)
  | @empty tag known =>
      have hwrite : (empty tag).write = '<' :: (tag.toList ++ ['/']) ++ ['>'] := by simp [write]
      rw [hwrite, nodes]
      exact Balanced.nil.empty (hv.spells_empty known)

section Document

variable {v : Vocabulary} {tag : String} {attributes : List (String × String)} {content : List Xml}

theorem toList_document (root : Xml) :
    root.document.toList = declaration.toList ++ root.write := by
  rw [document, String.toList_append, String.toList_ofList]

/-- **The document of an element is read as that element.** -/
theorem read?_document (hv : v.Sound) (h : (element tag attributes content).Over v) :
    read? (element tag attributes content).document.toList =
      some (.element tag attributes (nodesAll content)) := by
  refine read?_eq_some_iff.mpr ⟨tag, attributes, nodesAll content, _, rfl, toList_document _, ?_⟩
  have hbalanced := balanced_write hv h
  rwa [nodes] at hbalanced

/-! ## The tags of a document -/

theorem mem_tagsAll_nodesAll {t : String × List (String × String)} :
    t ∈ Node.tagsAll (nodesAll content) ↔ ∃ x ∈ content, t ∈ Node.tagsAll x.nodes := by
  induction content with
  | nil => simp [nodesAll, Node.tagsAll]
  | cons x rest ih => simp [nodesAll, Node.tagsAll_append, ih]

/-- No tag of a piece is one that its texts have brought in. -/
theorem Over.tags_subset {x : Xml} (h : x.Over v) : Node.tagsAll x.nodes ⊆ v := by
  induction h with
  | text | verbatim =>
      rw [nodes, Node.tagsAll_map_char]
      exact List.nil_subset _
  | element known inner ih =>
      intro t ht
      rw [nodes, Node.tagsAll, Node.tags, Node.tagsAll, List.append_nil, List.mem_cons] at ht
      rcases ht with rfl | ht
      · exact known
      · obtain ⟨x, hx, ht⟩ := mem_tagsAll_nodesAll.mp ht
        exact ih x hx ht
  | empty known =>
      intro t ht
      have htag : t = (_, []) := List.mem_singleton.mp ht
      rw [htag]
      exact known

/-! ## The characters of a document -/

theorem forall_escapeChar_iff (c : Char) :
    (∀ d ∈ escapeChar c, Alphabet.isBodyChar d = true) ↔ Alphabet.isBodyChar c = true := by
  unfold escapeChar
  split
  · next h =>
    subst h
    exact iff_of_true (List.all_eq_true.mp rfl) rfl
  split
  · next h =>
    subst h
    exact iff_of_true (List.all_eq_true.mp rfl) rfl
  split
  · next h =>
    subst h
    exact iff_of_true (List.all_eq_true.mp rfl) rfl
  split
  · next h =>
    subst h
    exact iff_of_true (List.all_eq_true.mp rfl) rfl
  split
  · next h =>
    subst h
    exact iff_of_true (List.all_eq_true.mp rfl) rfl
  · simp

/-- Escapes neither hide a character that XML does not know nor bring one in. -/
theorem forall_escape_iff (cs : List Char) :
    (∀ c ∈ escape cs, Alphabet.isBodyChar c = true) ↔ ∀ c ∈ cs, Alphabet.isBodyChar c = true := by
  induction cs with
  | nil => rfl
  | cons c rest ih =>
      rw [escape, List.flatMap_cons, List.forall_mem_append, forall_escapeChar_iff,
        List.forall_mem_cons]
      exact and_congr_right fun _ => ih

theorem mem_textsAll {s : String} : s ∈ textsAll content ↔ ∃ x ∈ content, s ∈ x.texts := by
  induction content with
  | nil => simp [textsAll]
  | cons x rest ih => simp [textsAll, ih]

theorem mem_writeAll {c : Char} : c ∈ writeAll content ↔ ∃ x ∈ content, c ∈ x.write := by
  induction content with
  | nil => simp [writeAll]
  | cons x rest ih => simp [writeAll, ih]

/-- The tags of a sound vocabulary bring in no character that XML does not know. -/
theorem forall_write_iff (hv : v.Sound) {x : Xml} (h : x.Over v) :
    (∀ c ∈ x.write, Alphabet.isBodyChar c = true) ↔ ∀ s ∈ x.texts, Legal s := by
  induction h with
  | text content =>
      rw [write, forall_escape_iff, texts, List.forall_mem_singleton]
      rfl
  | verbatim bare =>
      constructor
      · intro _ s hs
        cases hs
      · intro _ c hc
        exact (bare c hc).1
  | @element tag attributes content known inner ih =>
      -- the tags are legal, so that all is up to what stands between them
      have hbody : ∀ c ∈ _, Alphabet.isBodyChar c = true := fun c hc => (hv.forall_tagBody known c hc).1
      rw [tagBody, List.forall_mem_append] at hbody
      constructor
      · intro hall s hs
        obtain ⟨x, hx, hs⟩ := mem_textsAll.mp hs
        refine (ih x hx).mp ?_ s hs
        intro c hc
        apply hall
        rw [write]
        simp [mem_writeAll.mpr ⟨x, hx, hc⟩]
      · intro hall c hc
        simp only [write, List.cons_append, List.append_assoc, List.mem_cons, List.mem_append,
          List.not_mem_nil, or_false] at hc
        rcases hc with rfl | hc | hc | rfl | hc | rfl | rfl | hc | rfl
        · rfl
        · exact hbody.1 c hc
        · exact hbody.2 c hc
        · rfl
        · obtain ⟨x, hx, hc⟩ := mem_writeAll.mp hc
          refine (ih x hx).mpr ?_ c hc
          intro s hs
          exact hall s (mem_textsAll.mpr ⟨x, hx, hs⟩)
        · rfl
        · rfl
        · exact hbody.1 c hc
        · rfl
  | @empty tag known =>
      have hbody : ∀ c ∈ _, Alphabet.isBodyChar c = true := fun c hc => (hv.forall_tagBody known c hc).1
      rw [tagBody, List.flatMap_nil, List.append_nil] at hbody
      constructor
      · intro _ s hs
        cases hs
      · intro _ c hc
        simp only [write, List.cons_append, List.mem_cons, List.mem_append, List.not_mem_nil,
          or_false] at hc
        rcases hc with rfl | hc | rfl | rfl
        · rfl
        · exact hbody c hc
        · rfl
        · rfl

theorem legal_document_iff (hv : v.Sound) {x : Xml} (h : x.Over v) :
    Legal x.document ↔ ∀ s ∈ x.texts, Legal s := by
  have hdeclaration : Legal declaration := by decide
  rw [Legal, toList_document, List.forall_mem_append, forall_write_iff hv h]
  exact and_iff_right hdeclaration

/-- **A document is well formed if its texts are legal,** and only then. -/
theorem wellFormed_document_iff (hv : v.Sound) (h : (element tag attributes content).Over v) :
    WellFormed (element tag attributes content).document ↔
      ∀ s ∈ (element tag attributes content).texts, Legal s := by
  have hlegal := legal_document_iff hv h
  have hread := read?_document hv h
  constructor
  · intro hformed
    exact hlegal.mp hformed.legal
  · intro htexts
    refine ⟨hlegal.mpr htexts, ?_⟩
    rw [hread]
    rfl

end Document

end QueueService.Xml
