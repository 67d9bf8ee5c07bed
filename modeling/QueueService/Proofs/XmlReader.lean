import QueueService.Proofs.LegalText
import QueueService.Xml

/-!
# A reader of documents

A reader of documents such as answers are: a declaration and one element, with elements, characters and
references to the predefined entities in it. It goes through the document once, with the elements that are
open on a stack, so that what it finds is the only way to read the document. Of what XML allows it takes no
comments, no instructions and no numbered references.

* `Xml.WellFormed` — a document that can be read and consists of characters that XML knows.
* `Xml.read?_eq_some_iff` — what can be read is balanced: behind the declaration there is one element, and
  in each element elements, characters and references stand one behind the other.
-/

namespace QueueService.Xml

/-! ## What a reader finds -/

/-- A piece of a document as it is read: a character between tags, or an element. -/
inductive Node
  | char (c : Char)
  | element (tag : String) (attributes : List (String × String)) (content : List Node)

mutual

/-- The tags of a piece, with their attributes. -/
def Node.tags : Node → List (String × List (String × String))
  | char _ => []
  | element tag attributes content => (tag, attributes) :: Node.tagsAll content

/-- The tags of pieces. -/
def Node.tagsAll : List Node → List (String × List (String × String))
  | [] => []
  | node :: rest => node.tags ++ Node.tagsAll rest

end

/-! ## Tags -/

/-- Whether characters are a name. Of the names of XML this takes those of ASCII letters and digits. -/
def isName : List Char → Bool
  | [] => false
  | c :: rest => c.isAlpha && rest.all Char.isAlphanum

/-- What stands between a pair of angle brackets. -/
inductive Tag
  | opening (name : String) (attributes : List (String × String))
  | closing (name : String)
  | empty (name : String) (attributes : List (String × String))
  deriving DecidableEq

/-- Read attributes that have been cut at their quotation marks. -/
def attributes? : List (List Char) → Option (List (String × String))
  | [[]] => some []
  | (' ' :: named) :: value :: rest =>
    if named.getLast? = some '=' && isName named.dropLast && !value.contains '&' then
      (attributes? rest).map ((String.ofList named.dropLast, String.ofList value) :: ·)
    else none
  | _ => none

/-- Read what stands between a pair of angle brackets. No attribute may be there twice. -/
def Tag.read? : List Char → Option Tag
  | '/' :: name => if isName name then some (.closing (String.ofList name)) else none
  | body =>
    let isEmpty := body.getLast? = some '/'
    let body := if isEmpty then body.dropLast else body
    let name := body.takeWhile Char.isAlphanum
    match attributes? ((body.dropWhile Char.isAlphanum).splitOn '"') with
    | none => none
    | some attributes =>
      if isName name && decide (attributes.map (·.1)).Nodup then
        if isEmpty then some (.empty (String.ofList name) attributes)
        else some (.opening (String.ofList name) attributes)
      else none

/-! ## The reader -/

/-- The character that a reference stands for. -/
def entity? (name : List Char) : Option Char :=
  if name = ['a', 'm', 'p'] then some '&'
  else if name = ['l', 't'] then some '<'
  else if name = ['g', 't'] then some '>'
  else if name = ['q', 'u', 'o', 't'] then some '"'
  else if name = ['a', 'p', 'o', 's'] then some '\''
  else none

/-- Where a reader stands, with what it has read of the reference or the tag that it stands in. -/
inductive Place
  | text
  | reference (name : List Char)
  | tag (body : List Char)

/-- An element that is open, with what stands in front of it. -/
structure Frame where
  before : List Node
  tag : String
  attributes : List (String × String)

/-- A reader on its way: where it stands, what it has read of the innermost open element, and the open
    elements from there outwards. -/
structure Reader where
  place : Place
  content : List Node
  outer : List Frame

namespace Reader

/-- Go on behind a tag. -/
def enter (r : Reader) : Tag → Option Reader
  | .opening name attributes =>
    some { place := .text, content := [], outer := ⟨r.content, name, attributes⟩ :: r.outer }
  | .empty name attributes =>
    some { r with place := .text, content := r.content ++ [.element name attributes []] }
  | .closing name =>
    match r.outer with
    | [] => none
    | frame :: outer =>
      if frame.tag = name then
        some
          { place := .text, outer
            content := frame.before ++ [.element name frame.attributes r.content] }
      else none

/-- Go on behind a character. -/
def step (r : Reader) (c : Char) : Option Reader :=
  match r.place with
  | .text =>
    if c = '<' then some { r with place := .tag [] }
    else if c = '&' then some { r with place := .reference [] }
    else if c = '>' then none
    else some { r with content := r.content ++ [.char c] }
  | .reference name =>
    if c = ';' then
      (entity? name).map fun c => { r with place := .text, content := r.content ++ [.char c] }
    else some { r with place := .reference (name ++ [c]) }
  | .tag body =>
    if c = '>' then (Tag.read? body).bind r.enter
    else if c = '<' then none
    else some { r with place := .tag (body ++ [c]) }

/-- Go on behind characters. -/
def run (r : Reader) (cs : List Char) : Option Reader := cs.foldlM step r

end Reader

/-- Read a document: the declaration, and one element. -/
def read? (cs : List Char) : Option Node :=
  if declaration.toList.isPrefixOf cs then
    match Reader.run ⟨.text, [], []⟩ (cs.drop declaration.toList.length) with
    | some ⟨.text, [.element tag attributes content], []⟩ => some (.element tag attributes content)
    | _ => none
  else none

/-- **Well formed.** A document that can be read and consists of characters that XML knows. -/
structure WellFormed (document : String) : Prop where
  legal : Legal document
  readable : (read? document.toList).isSome

/-! ## Balanced pieces -/

/-- What stands in the angle brackets of a tag. There are no other angle brackets in it. -/
structure Tag.Spells (tag : Tag) (body : List Char) : Prop where
  read : Tag.read? body = some tag
  closed : '<' ∉ body ∧ '>' ∉ body

/-- **Balanced.** Pieces one behind the other: characters, references, and elements whose content stands
    between an opening tag and a closing tag of the same name. -/
inductive Balanced : List Char → List Node → Prop
  | nil : Balanced [] []
  | char {cs : List Char} {nodes : List Node} {c : Char} (front : Balanced cs nodes)
      (plain : c ∉ ['&', '<', '>']) : Balanced (cs ++ [c]) (nodes ++ [.char c])
  | reference {cs name : List Char} {nodes : List Node} {c : Char} (front : Balanced cs nodes)
      (known : entity? name = some c) :
      Balanced (cs ++ ('&' :: name ++ [';'])) (nodes ++ [.char c])
  | empty {cs body : List Char} {nodes : List Node} {tag : String}
      {attributes : List (String × String)} (front : Balanced cs nodes)
      (spells : (Tag.empty tag attributes).Spells body) :
      Balanced (cs ++ ('<' :: body ++ ['>'])) (nodes ++ [.element tag attributes []])
  | element {cs first inside last : List Char} {nodes content : List Node} {tag : String}
      {attributes : List (String × String)} (front : Balanced cs nodes)
      (opening : (Tag.opening tag attributes).Spells first) (inner : Balanced inside content)
      (closing : (Tag.closing tag).Spells last) :
      Balanced (cs ++ (('<' :: first ++ ['>']) ++ (inside ++ ('<' :: last ++ ['>']))))
        (nodes ++ [.element tag attributes content])

theorem Balanced.append {cs ds : List Char} {nodes more : List Node} (h : Balanced cs nodes)
    (h' : Balanced ds more) : Balanced (cs ++ ds) (nodes ++ more) := by
  induction h' with
  | nil =>
      rw [List.append_nil, List.append_nil]
      exact h
  | char front plain ih =>
      rw [← List.append_assoc, ← List.append_assoc]
      exact ih.char plain
  | reference front known ih =>
      rw [← List.append_assoc, ← List.append_assoc nodes]
      exact ih.reference known
  | empty front spells ih =>
      rw [← List.append_assoc, ← List.append_assoc nodes]
      exact ih.empty spells
  | element front opening inner closing ih =>
      rw [← List.append_assoc, ← List.append_assoc nodes]
      exact ih.element opening inner closing

/-- Characters that are no markup stand for themselves. -/
theorem balanced_map_char {cs : List Char} (h : ∀ c ∈ cs, c ∉ ['&', '<', '>']) :
    Balanced cs (cs.map .char) := by
  induction cs with
  | nil => exact .nil
  | cons c rest ih =>
      rw [List.forall_mem_cons] at h
      exact (Balanced.nil.char h.1).append (ih h.2)

/-! ## Names -/

section Name

variable {name : List Char}

theorem isAlphanum_of_isName (h : isName name = true) : ∀ c ∈ name, c.isAlphanum = true := by
  cases name with
  | nil => cases h
  | cons first rest =>
      simp only [isName, Bool.and_eq_true, List.all_eq_true] at h
      intro c hc
      rcases List.mem_cons.mp hc with rfl | hc
      · simp [Char.isAlphanum, h.1]
      · exact h.2 c hc

/-- A name has none of the characters that stand around names. -/
theorem notMem_of_isName (h : isName name = true) {c : Char} (hc : c.isAlphanum = false) :
    c ∉ name := by
  intro hmem
  rw [isAlphanum_of_isName h c hmem] at hc
  cases hc

theorem ne_nil_of_isName (h : isName name = true) : name ≠ [] := by
  rintro rfl
  cases h

/-- A text is cut at its first quotation mark. -/
theorem splitOn_quote {front : List Char} (h : '"' ∉ front) (rest : List Char) :
    (front ++ '"' :: rest).splitOn '"' = front :: rest.splitOn '"' := by
  refine List.splitOnP_append_cons_of_forall_mem ?_ '"' (by decide) rest
  intro c hc
  rw [beq_eq_false_iff_ne]
  rintro rfl
  exact h hc

end Name

/-! ## Pieces in a row -/

namespace Node

theorem tagsAll_append (front back : List Node) :
    tagsAll (front ++ back) = tagsAll front ++ tagsAll back := by
  induction front with
  | nil => rfl
  | cons node rest ih => rw [List.cons_append, tagsAll, ih, tagsAll, List.append_assoc]

theorem tagsAll_map_char (cs : List Char) : tagsAll (cs.map .char) = [] := by
  induction cs with
  | nil => rfl
  | cons c rest ih => rw [List.map_cons, tagsAll, ih, Node.tags, List.append_nil]

end Node

/-! ## Going on -/

namespace Reader

variable {before : List Node} {outer : List Frame}

theorem run_cons (r : Reader) (c : Char) (cs : List Char) :
    r.run (c :: cs) = (r.step c).bind fun r' => r'.run cs := rfl

theorem run_append (r : Reader) (front back : List Char) :
    r.run (front ++ back) = (r.run front).bind fun r' => r'.run back := by
  unfold run
  rw [List.foldlM_append]
  rfl

/-- A character that is no markup is read as it is. -/
theorem step_text {c : Char} (h : c ∉ ['&', '<', '>']) :
    step ⟨.text, before, outer⟩ c = some ⟨.text, before ++ [.char c], outer⟩ := by
  simp only [List.mem_cons, List.not_mem_nil, or_false, not_or] at h
  obtain ⟨hand, hless, hgreater⟩ := h
  simp only [step, if_neg hand, if_neg hless, if_neg hgreater]

/-- Up to its closing bracket, a tag is collected. -/
theorem run_tagBody {body cs : List Char} (h : '<' ∉ cs ∧ '>' ∉ cs) :
    run ⟨.tag body, before, outer⟩ cs = some ⟨.tag (body ++ cs), before, outer⟩ := by
  induction cs generalizing body with
  | nil => rw [List.append_nil]; rfl
  | cons c rest ih =>
      obtain ⟨hless, hgreater⟩ := h
      rw [List.mem_cons, not_or] at hless hgreater
      have hstep : step ⟨.tag body, before, outer⟩ c = some ⟨.tag (body ++ [c]), before, outer⟩ := by
        simp only [step, if_neg (Ne.symm hless.1), if_neg (Ne.symm hgreater.1)]
      rw [run_cons, hstep, Option.bind_some, ih ⟨hless.2, hgreater.2⟩, List.append_assoc,
        List.singleton_append]

/-- A tag is read when its closing bracket is reached. -/
theorem run_tag (before : List Node) (outer : List Frame) {body : List Char} {tag : Tag}
    (h : tag.Spells body) :
    run ⟨.text, before, outer⟩ ('<' :: body ++ ['>']) = enter ⟨.tag body, before, outer⟩ tag := by
  have hopen : step ⟨.text, before, outer⟩ '<' = some ⟨.tag [], before, outer⟩ := rfl
  rw [List.cons_append, run_cons, hopen, Option.bind_some, run_append, run_tagBody h.closed,
    Option.bind_some, List.nil_append, run_cons]
  have hclose : step ⟨.tag body, before, outer⟩ '>' = enter ⟨.tag body, before, outer⟩ tag := by
    simp only [step, if_true, h.read, Option.bind_some]
  rw [hclose]
  cases enter ⟨.tag body, before, outer⟩ tag <;> rfl

theorem run_reference (before : List Node) (outer : List Frame) {name : List Char} {c : Char}
    (h : entity? name = some c) :
    run ⟨.text, before, outer⟩ ('&' :: name ++ [';']) =
      some ⟨.text, before ++ [.char c], outer⟩ := by
  unfold entity? at h
  repeat' split at h
  · next hname => cases h; rw [hname]; rfl
  · next hname => cases h; rw [hname]; rfl
  · next hname => cases h; rw [hname]; rfl
  · next hname => cases h; rw [hname]; rfl
  · next hname => cases h; rw [hname]; rfl
  · cases h

/-- **Balanced pieces are read,** wherever they stand. -/
theorem run_of_balanced {cs : List Char} {nodes : List Node} (h : Balanced cs nodes) :
    run ⟨.text, before, outer⟩ cs = some ⟨.text, before ++ nodes, outer⟩ := by
  induction h generalizing before outer with
  | nil =>
      rw [List.append_nil]
      rfl
  | char front plain ih =>
      rw [run_append, ih, Option.bind_some, run_cons, step_text plain, List.append_assoc]
      rfl
  | reference front known ih =>
      rw [run_append, ih, Option.bind_some, run_reference _ _ known, List.append_assoc]
  | empty front spells ih =>
      rw [run_append, ih, Option.bind_some, run_tag _ _ spells, enter, List.append_assoc]
  | @element cs first inside last nodes content tag attributes front opening inner closing ih ih' =>
      rw [run_append, ih, Option.bind_some, run_append, run_tag _ _ opening, enter, Option.bind_some,
        run_append, ih', Option.bind_some, run_tag _ _ closing, List.nil_append]
      show (if tag = tag then _ else _) = _
      rw [if_pos rfl, List.append_assoc]

/-! ## Only balanced pieces are read -/

/-- What stands in front of the open elements, their opening tags included. -/
inductive Held : List Frame → List Char → Prop
  | nil : Held [] []
  | cons {outer : List Frame} {far near body : List Char} {before : List Node} {tag : String}
      {attributes : List (String × String)} (held : Held outer far)
      (balanced : Balanced near before) (spells : (Tag.opening tag attributes).Spells body) :
      Held (⟨before, tag, attributes⟩ :: outer) (far ++ near ++ ('<' :: body ++ ['>']))

/-- What a reader has read that has come to where it stands. -/
inductive Has : Reader → List Char → Prop
  | text {outer : List Frame} {far near : List Char} {content : List Node} (held : Held outer far)
      (balanced : Balanced near content) : Has ⟨.text, content, outer⟩ (far ++ near)
  | reference {outer : List Frame} {far near : List Char} {content : List Node}
      (held : Held outer far) (balanced : Balanced near content) (name : List Char) :
      Has ⟨.reference name, content, outer⟩ (far ++ near ++ '&' :: name)
  | tag {outer : List Frame} {far near body : List Char} {content : List Node}
      (held : Held outer far) (balanced : Balanced near content) (closed : '<' ∉ body ∧ '>' ∉ body) :
      Has ⟨.tag body, content, outer⟩ (far ++ near ++ '<' :: body)

section Sound

variable {r r' : Reader} {far near body : List Char} {content : List Node} {tag : Tag}

/-- A closing tag is taken only behind the content of the element that it closes. -/
theorem Has.enter (held : Held outer far) (balanced : Balanced near content)
    (spells : tag.Spells body) (h : enter ⟨.tag body, content, outer⟩ tag = some r') :
    Has r' (far ++ near ++ ('<' :: body ++ ['>'])) := by
  cases tag with
  | opening name attributes =>
      cases h
      have htext := Has.text (held.cons balanced spells) .nil
      rwa [List.append_nil] at htext
  | empty name attributes =>
      cases h
      rw [List.append_assoc]
      exact .text held (balanced.empty spells)
  | closing name =>
      -- the innermost open element goes from the stack into what stands behind the one around it
      cases held with
      | nil => cases h
      | cons held before opening =>
          simp only [Reader.enter] at h
          split at h
          · next hname =>
            cases h
            subst hname
            have htext := Has.text held (before.element opening balanced spells)
            simpa only [List.append_assoc] using htext
          · cases h

theorem Has.step {cs : List Char} {c : Char} (h : Has r cs) (hstep : r.step c = some r') :
    Has r' (cs ++ [c]) := by
  cases h with
  | text held balanced =>
      simp only [Reader.step] at hstep
      split at hstep
      · next hless =>
        cases hstep
        rw [hless]
        exact .tag held balanced ⟨List.not_mem_nil, List.not_mem_nil⟩
      split at hstep
      · next hand =>
        cases hstep
        rw [hand]
        exact .reference held balanced []
      split at hstep
      · cases hstep
      · next hless hand hgreater =>
        cases hstep
        rw [List.append_assoc]
        exact .text held (balanced.char (by simp [hless, hand, hgreater]))
  | reference held balanced name =>
      simp only [Reader.step] at hstep
      split at hstep
      · next hend =>
        obtain ⟨d, hknown, rfl⟩ := Option.map_eq_some_iff.mp hstep
        rw [hend, List.append_assoc, List.append_assoc]
        exact .text held (balanced.reference hknown)
      · cases hstep
        rw [List.append_assoc]
        exact .reference held balanced (name ++ [c])
  | @tag _ _ _ body _ held balanced closed =>
      simp only [Reader.step] at hstep
      split at hstep
      · next hend =>
        obtain ⟨tag, hread, henter⟩ := Option.bind_eq_some_iff.mp hstep
        rw [hend, List.append_assoc]
        exact Has.enter held balanced ⟨hread, closed⟩ henter
      split at hstep
      · cases hstep
      · next hgreater hless =>
        cases hstep
        rw [List.append_assoc]
        exact .tag held balanced (by simp [closed, Ne.symm hgreater, Ne.symm hless])

theorem Has.run {cs ds : List Char} (h : Has r cs) (hrun : r.run ds = some r') :
    Has r' (cs ++ ds) := by
  induction ds generalizing r cs with
  | nil =>
      cases hrun
      rwa [List.append_nil]
  | cons d rest ih =>
      rw [run_cons] at hrun
      obtain ⟨between, hstep, hrest⟩ := Option.bind_eq_some_iff.mp hrun
      have hhas := ih (h.step hstep) hrest
      rwa [List.append_assoc, List.singleton_append] at hhas

/-- Between tags and with no element open, all that has been read is balanced. -/
theorem Has.balanced {cs : List Char} (h : Has ⟨.text, content, []⟩ cs) : Balanced cs content := by
  cases h with
  | text held balanced =>
      cases held
      exact balanced

end Sound

end Reader

/-- **What can be read.** Behind the declaration there is one element, and it is balanced. -/
theorem read?_eq_some_iff {cs : List Char} {node : Node} :
    read? cs = some node ↔ ∃ tag attributes content body, node = .element tag attributes content ∧
      cs = declaration.toList ++ body ∧ Balanced body [node] := by
  unfold read?
  constructor
  · intro h
    split at h
    · next hprefix =>
      obtain ⟨body, rfl⟩ := List.isPrefixOf_iff_prefix.mp hprefix
      rw [List.drop_left] at h
      split at h
      · next tag attributes content hrun =>
        cases h
        have hhas := (Reader.Has.text .nil .nil).run hrun
        rw [List.append_nil, List.nil_append] at hhas
        exact ⟨tag, attributes, content, body, rfl, rfl, hhas.balanced⟩
      · cases h
    · cases h
  · rintro ⟨tag, attributes, content, body, rfl, rfl, hbalanced⟩
    have hprefix : declaration.toList.isPrefixOf (declaration.toList ++ body) = true :=
      List.isPrefixOf_iff_prefix.mpr (List.prefix_append _ _)
    rw [if_pos hprefix, List.drop_left, Reader.run_of_balanced hbalanced]
    rfl

end QueueService.Xml
