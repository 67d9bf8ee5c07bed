import Mathlib
import QueueService.Proofs.PlainPath
import QueueService.Service.Basic

/-!
# Locators

A locator is a bare path or an address, and its path is found in two ways: a bare path is cut at its query
or fragment, an address is read as a whole. What a path says is in its segments, however many slashes stand
around them, and only two layouts of segments name a queue.

* `AddressBook.segments_eq_iff` — the segments are the words between the slashes.
* `AddressBook.resolve?_eq_some_iff` — which paths name which queues.
* `AddressBook.resolve?_locator` — a plain path is read the same on its own and behind an origin.
-/

namespace QueueService

namespace AddressBook

/-! ## Segments -/

/-- A word that can stand between two slashes. -/
def IsSegment (word : String) : Prop := word ≠ "" ∧ '/' ∉ word.toList

theorem slash_notMem_of_isPlain {text : String} (h : Alphabet.IsPlain text) : '/' ∉ text.toList := by
  intro hmem
  exact absurd (h.2 '/' hmem) (by decide)

theorem IsSegment.of_isPlain {word : String} (h : Alphabet.IsPlain word) : IsSegment word :=
  ⟨h.1, slash_notMem_of_isPlain h⟩

/-- **The words of a path.** They are kept apart by slashes, and more slashes than that make no
    difference, wherever they stand. -/
inductive Segmented : List Char → List String → Prop
  | nil : Segmented [] []
  | slash {path : List Char} {words : List String} (rest : Segmented path words) :
      Segmented ('/' :: path) words
  | word {word : String} {path : List Char} {words : List String} (segment : IsSegment word)
      (starts : Url.StartsPath path) (rest : Segmented path words) :
      Segmented (word.toList ++ path) (word :: words)

section Segments

variable {path : List Char} {word : String} {words : List String}

theorem segments_slash (path : List Char) : segments ('/' :: path) = segments path := by
  simp [segments, List.splitOn_eq_splitOnP, List.splitOnP_cons_eq_if_modifyHead]

theorem segments_word (hword : IsSegment word) (hpath : Url.StartsPath path) :
    segments (word.toList ++ path) = word :: segments path := by
  have hfree : ∀ c ∈ word.toList, (c == '/') = false := by
    intro c hc
    rw [beq_eq_false_iff_ne]
    rintro rfl
    exact hword.2 hc
  have hfull : word.toList.isEmpty = false := by
    rw [List.isEmpty_eq_false_iff]
    exact fun hnil => hword.1 (String.toList_eq_nil_iff.mp hnil)
  cases path with
  | nil =>
      simp [segments, List.splitOn_eq_splitOnP, List.splitOnP_eq_singleton hfree, hfull]
  | cons c path =>
      obtain rfl : c = '/' := hpath c rfl
      rw [segments_slash]
      simp [segments, List.splitOn_eq_splitOnP,
        List.splitOnP_append_cons_of_forall_mem hfree '/' rfl, hfull]

theorem Segmented.segments_eq (h : Segmented path words) : segments path = words := by
  induction h with
  | nil => rfl
  | slash rest ih => rw [segments_slash, ih]
  | word segment starts rest ih => rw [segments_word segment starts, ih]

theorem Segmented.ofList {c : Char} {cs : List Char} (hc : c ≠ '/') (hcs : '/' ∉ cs)
    (starts : Url.StartsPath path) (rest : Segmented path words) :
    Segmented (c :: (cs ++ path)) (String.ofList (c :: cs) :: words) := by
  have hsegment : IsSegment (String.ofList (c :: cs)) := by
    refine ⟨by simp, ?_⟩
    rw [String.toList_ofList, List.mem_cons, not_or]
    exact ⟨hc.symm, hcs⟩
  have hword := Segmented.word hsegment starts rest
  rwa [String.toList_ofList] at hword

/-- A character in front of a path begins a word, or it is put in front of the first one. -/
theorem Segmented.exists_cons (h : Segmented path words) {c : Char} (hc : c ≠ '/') :
    ∃ words', Segmented (c :: path) words' := by
  cases h with
  | nil => exact ⟨_, .ofList hc List.not_mem_nil Url.startsPath_nil .nil⟩
  | slash rest =>
      exact ⟨_, .ofList hc List.not_mem_nil (fun d hd => (Option.some.inj hd).symm) (.slash rest)⟩
  | word segment starts rest => exact ⟨_, .ofList hc segment.2 starts rest⟩

/-- Every path has words. -/
theorem exists_segmented (path : List Char) : ∃ words, Segmented path words := by
  induction path with
  | nil => exact ⟨[], .nil⟩
  | cons c path ih =>
      obtain ⟨words, hwords⟩ := ih
      by_cases hc : c = '/'
      · subst hc
        exact ⟨words, .slash hwords⟩
      · exact hwords.exists_cons hc

/-- The path that words are written as, with a slash in front of each. -/
def pathOf (words : List String) : List Char := words.flatMap fun word => '/' :: word.toList

theorem segmented_pathOf (h : ∀ word ∈ words, IsSegment word) : Segmented (pathOf words) words := by
  induction words with
  | nil => exact .nil
  | cons word words ih =>
      have hrest := ih fun w hw => h w (List.mem_cons_of_mem _ hw)
      refine .slash (.word (h word List.mem_cons_self) ?_ hrest)
      cases words with
      | nil => exact Url.startsPath_nil
      | cons w words => exact fun c hc => (Option.some.inj hc).symm

theorem isPlain_of_mem_pathOf (h : ∀ word ∈ words, Alphabet.IsPlain word) :
    ∀ c ∈ pathOf words, Url.isPlain c = true := by
  intro c hc
  obtain ⟨word, hword, hc⟩ := List.mem_flatMap.mp hc
  rcases List.mem_cons.mp hc with rfl | hc
  · rfl
  · simp [Url.isPlain, (h word hword).2 c hc]

/-- **The segments of a path are its words.** -/
theorem segments_eq_iff : segments path = words ↔ Segmented path words := by
  refine ⟨?_, Segmented.segments_eq⟩
  rintro rfl
  obtain ⟨words, hwords⟩ := exists_segmented path
  rw [hwords.segments_eq]
  exact hwords

end Segments

/-! ## Layouts -/

/-- The layouts of a path that names a queue: with the service path in front, or without it. -/
inductive Layout
  | direct
  | service
  deriving DecidableEq

namespace Layout

/-- What stands in front of the account and the name. -/
def front : Layout → List String
  | direct => []
  | service => ["services", "simplequeue"]

/-- The words of a queue's path. -/
def words (layout : Layout) (id : QueueId) : List String := layout.front ++ [id.account, id.name]

/-- The path of a queue. -/
def path (layout : Layout) (id : QueueId) : List Char := pathOf (layout.words id)

variable {layout layout' : Layout} {id id' : QueueId}

/-- The words tell the layout and the queue. No word is given away by what it says: the account and the name
    may themselves be the words of the service path. -/
theorem words_inj (h : layout.words id = layout'.words id') : layout = layout' ∧ id = id' := by
  obtain ⟨account, name⟩ := id
  obtain ⟨account', name'⟩ := id'
  cases layout <;> cases layout' <;> simp_all [words, front]

theorem slash_path (layout : Layout) (id : QueueId) : '/' :: (layout.path id).tail = layout.path id := by
  cases layout <;> rfl

theorem isPlain_words (haccount : Alphabet.IsPlain id.account) (hname : Alphabet.IsPlain id.name) :
    ∀ word ∈ layout.words id, Alphabet.IsPlain word := by
  have hfront : ∀ word ∈ layout.front, Alphabet.IsPlain word := by cases layout <;> decide
  intro word hword
  simp only [words, List.mem_append, List.mem_cons, List.not_mem_nil, or_false] at hword
  rcases hword with hword | rfl | rfl
  · exact hfront word hword
  · exact haccount
  · exact hname

theorem segmented_path (haccount : Alphabet.IsPlain id.account) (hname : Alphabet.IsPlain id.name) :
    Segmented (layout.path id) (layout.words id) :=
  segmented_pathOf fun word hword => .of_isPlain (isPlain_words haccount hname word hword)

end Layout

/-- **Segments that name a queue** are the words of one of the layouts. -/
theorem idOfSegments?_eq_some_iff {words : List String} {id : QueueId} :
    idOfSegments? words = some id ↔ ∃ layout : Layout, words = layout.words id := by
  constructor
  · intro h
    unfold idOfSegments? at h
    split at h
    · cases h
      exact ⟨.direct, rfl⟩
    · split at h
      · next hfront =>
        cases h
        obtain ⟨rfl, rfl⟩ := hfront
        exact ⟨.service, rfl⟩
      · cases h
    · cases h
  · rintro ⟨layout, rfl⟩
    cases layout <;> rfl

/-- **Locators that name a queue.** Their path has the words of one of the layouts, and the account
    exists. -/
theorem resolve?_eq_some_iff {book : AddressBook} {text : String} {id : QueueId} :
    book.resolve? text = some id ↔ id.account ∈ book.accounts ∧
      ∃ path, locatorPath? text = some path ∧ ∃ layout : Layout, Segmented path (layout.words id) := by
  have hnamed : ((locatorPath? text).bind fun path => idOfSegments? (segments path)) = some id ↔
      ∃ path, locatorPath? text = some path ∧ ∃ layout : Layout, Segmented path (layout.words id) := by
    simp only [Option.bind_eq_some_iff, idOfSegments?_eq_some_iff, segments_eq_iff]
  rw [← hnamed]
  unfold resolve?
  split
  · next id' hid' =>
    rw [hid', Option.ite_none_right_eq_some, List.contains_iff_mem]
    constructor
    · rintro ⟨haccount, hid⟩
      cases hid
      exact ⟨haccount, rfl⟩
    · rintro ⟨haccount, hid⟩
      cases hid
      exact ⟨haccount, rfl⟩
  · next hnone => simp [hnone]

/-! ## Plain locators -/

/-- **A plain locator.** A path of plain characters, and perhaps a query or a fragment behind it. -/
structure Locator where
  /-- What stands behind the first slash. -/
  path : List Char
  behind : List Char
  plain : ∀ c ∈ path, Url.isPlain c = true
  graphic : ∀ c ∈ behind, 0x20 < c.toNat
  ends : ∀ c ∈ behind.head?, Url.endsPath c = true

namespace Locator

/-- The locator on its own. -/
def bare (locator : Locator) : String := String.ofList ('/' :: locator.path ++ locator.behind)

/-- The locator behind an origin. -/
def under (locator : Locator) (origin : Url.Origin) : String :=
  String.ofList (origin.text ++ ('/' :: locator.path ++ locator.behind))

variable (locator : Locator) {origin : Url.Origin}

theorem locatorPath?_bare : locatorPath? locator.bare = some ('/' :: locator.path) := by
  have hopen : ∀ c ∈ locator.path, (!Url.endsPath c) = true := by
    intro c hc
    have hq : c ≠ '?' := Url.ne_of_isPlain (locator.plain c hc) (by decide)
    have hf : c ≠ '#' := Url.ne_of_isPlain (locator.plain c hc) (by decide)
    simp [Url.endsPath, hq, hf]
  have hend : locator.behind.takeWhile (fun c => !Url.endsPath c) = [] := by
    cases hbehind : locator.behind with
    | nil => rfl
    | cons c rest =>
        apply List.takeWhile_cons_of_neg
        rw [locator.ends c (by rw [hbehind]; rfl)]
        decide
  unfold locatorPath? bare
  simp only [String.toList_ofList, List.cons_append]
  rw [List.takeWhile_append_of_pos hopen, hend, List.append_nil]

/-- An address does not begin with a slash, so it is not taken for a bare path. -/
theorem head?_under (origin : Url.Origin) : (locator.under origin).toList.head? ≠ some '/' := by
  obtain ⟨first, rest, hscheme⟩ := origin.exists_scheme
  have hletter := origin.letters first (by rw [hscheme]; exact List.mem_cons_self)
  rw [under, String.toList_ofList, Url.Origin.text, hscheme]
  rintro hslash
  cases Option.some.inj hslash
  exact absurd hletter (by decide)

theorem locatorPath?_under (hread : (Url.path? (String.ofList origin.text)).isSome = true) :
    locatorPath? (locator.under origin) = some ('/' :: locator.path) := by
  have hpath := origin.path?_append hread locator.plain locator.graphic locator.ends
  unfold locatorPath?
  split
  · next hslash => exact absurd (by rw [hslash]; rfl) (locator.head?_under origin)
  · rw [under, hpath, Option.map_some, String.toList_ofList]

theorem resolve?_bare_eq_some_iff {book : AddressBook} {id : QueueId} :
    book.resolve? locator.bare = some id ↔ id.account ∈ book.accounts ∧
      ∃ layout : Layout, Segmented ('/' :: locator.path) (layout.words id) := by
  rw [resolve?_eq_some_iff, locator.locatorPath?_bare]
  simp

/-- The two ways of reading a locator come to the same. -/
theorem resolve?_under (hread : (Url.path? (String.ofList origin.text)).isSome = true) (book : AddressBook) :
    book.resolve? (locator.under origin) = book.resolve? locator.bare := by
  unfold resolve?
  rw [locator.locatorPath?_under hread, locator.locatorPath?_bare]

end Locator

/-! ## Locators of queues -/

section OfQueue

variable {book : AddressBook} {origin : Url.Origin} {id : QueueId} (layout : Layout)

/-- The locator of a queue in a layout. -/
def Layout.locator (haccount : Alphabet.IsPlain id.account) (hname : Alphabet.IsPlain id.name) :
    Locator where
  path := (layout.path id).tail
  behind := []
  plain := fun c hc =>
    isPlain_of_mem_pathOf (Layout.isPlain_words haccount hname) c (List.mem_of_mem_tail hc)
  graphic := List.forall_mem_nil _
  ends := fun _ hc => nomatch hc

theorem Layout.bare_locator (haccount : Alphabet.IsPlain id.account)
    (hname : Alphabet.IsPlain id.name) :
    (layout.locator haccount hname).bare = String.ofList (layout.path id) := by
  rw [Locator.bare, Layout.locator, List.append_nil, layout.slash_path]

theorem Layout.under_locator (haccount : Alphabet.IsPlain id.account)
    (hname : Alphabet.IsPlain id.name) :
    (layout.locator haccount hname).under origin = String.ofList (origin.text ++ layout.path id) := by
  rw [Locator.under, Layout.locator, List.append_nil, layout.slash_path]

/-- The locators of a queue lead to it, if its account exists. -/
theorem resolve?_path (haccount : Alphabet.IsPlain id.account) (hname : Alphabet.IsPlain id.name)
    (hknown : id.account ∈ book.accounts) :
    book.resolve? (String.ofList (layout.path id)) = some id := by
  rw [← layout.bare_locator haccount hname, Locator.resolve?_bare_eq_some_iff]
  refine ⟨hknown, layout, ?_⟩
  rw [show (layout.locator haccount hname).path = (layout.path id).tail from rfl, layout.slash_path]
  exact Layout.segmented_path haccount hname

theorem resolve?_path_under (hread : (Url.path? (String.ofList origin.text)).isSome = true)
    (haccount : Alphabet.IsPlain id.account) (hname : Alphabet.IsPlain id.name)
    (hknown : id.account ∈ book.accounts) :
    book.resolve? (String.ofList (origin.text ++ layout.path id)) = some id := by
  rw [← layout.under_locator haccount hname, Locator.resolve?_under _ hread, layout.bare_locator]
  exact resolve?_path layout haccount hname hknown

end OfQueue

theorem ownedQueue_of_resolve?_none {desk : Desk} {text : String} (h : desk.addresses.resolve? text = none)
    (caller : Caller) (b : Backend) :
    (Service.ownedQueue desk caller text).runOn b = (.error (.addressInvalid text), b) := by
  unfold Service.ownedQueue
  rw [h]
  rfl

/-- **Plain locators.** A locator of plain characters is read the same on its own and behind an origin of the
    web. It names a queue if and only if its words are those of the queue in one of the layouts and the
    account exists; they are never those of both layouts, or of two queues. A queue of an account that exists
    is named in either layout, if its account and its name are plain. What names no queue is refused as an
    address, in one form as in the other. -/
theorem resolve?_locator (book : AddressBook) {origin : Url.Origin}
    (hread : (Url.path? (String.ofList origin.text)).isSome = true) (locator : Locator) :
    book.resolve? (locator.under origin) = book.resolve? locator.bare ∧
    (∀ id, book.resolve? locator.bare = some id ↔ id.account ∈ book.accounts ∧
      ∃ layout : Layout, Segmented ('/' :: locator.path) (layout.words id)) ∧
    (∀ (layout layout' : Layout) (id id' : QueueId), Segmented ('/' :: locator.path) (layout.words id) →
      Segmented ('/' :: locator.path) (layout'.words id') → layout = layout' ∧ id = id') ∧
    (∀ (layout : Layout) (id : QueueId), id.account ∈ book.accounts → Alphabet.IsPlain id.account →
      Alphabet.IsPlain id.name → book.resolve? (String.ofList (layout.path id)) = some id ∧
        book.resolve? (String.ofList (origin.text ++ layout.path id)) = some id) ∧
    ∀ (desk : Desk) (caller : Caller) (b : Backend), desk.addresses = book →
      book.resolve? locator.bare = none → ∀ text ∈ [locator.bare, locator.under origin],
        (Service.ownedQueue desk caller text).runOn b = (.error (.addressInvalid text), b) := by
  have hsame := locator.resolve?_under hread book
  refine ⟨hsame, fun id => locator.resolve?_bare_eq_some_iff, ?_, ?_, ?_⟩
  · intro layout layout' id id' hwords hwords'
    exact Layout.words_inj (hwords.segments_eq.symm.trans hwords'.segments_eq)
  · intro layout id hknown haccount hname
    exact ⟨resolve?_path layout haccount hname hknown,
      resolve?_path_under layout hread haccount hname hknown⟩
  · rintro desk caller b rfl hnone text htext
    apply ownedQueue_of_resolve?_none
    simp only [List.mem_cons, List.not_mem_nil, or_false] at htext
    rcases htext with rfl | rfl
    · exact hnone
    · exact hsame.trans hnone

end AddressBook

namespace Sample

/-- The origin of a service on the local host. -/
def origin : Url.Origin :=
  { scheme := "http".toList
    authority := "localhost:4566".toList
    letters := List.all_eq_true.mp rfl
    web := by decide
    present := by decide
    graphic := List.all_iff_forall_prop.mp (by decide)
    closed := List.all_iff_forall_prop.mp (by decide) }

theorem path?_origin : Url.path? (String.ofList origin.text) = some "/" := by
  have hdomain : Url.domain? "localhost".toList = some "localhost".toList := by
    have htext : Utf8.decode? (Percent.decode (Utf8.encode (String.ofList "localhost".toList))) =
        some "localhost" := by cbv
    have hfold : Url.foldName? "localhost".toList = some "localhost".toList :=
      Url.foldName?_of_ascii (List.all_iff_forall_prop.mp (by decide))
    have hnormal : Unicode.normalForm "localhost".toList = "localhost".toList :=
      Unicode.normalForm_of_below (by decide)
    have hname : Url.isFoldedName "localhost".toList = true := by decide
    unfold Url.domain?
    simp only [htext, hfold, hnormal, hname, Option.bind_eq_bind, Option.bind_some, if_true]
  have hhost : Url.isHost true "localhost".toList = true := by
    show (Url.domain? "localhost".toList).isSome = true
    rw [hdomain]
    rfl
  have hauthority : Url.afterAuthority? true origin.authority = some [] := by
    have huser : Url.splitUser true origin.authority = (none, "localhost:4566".toList) := by decide
    have hsplit : Url.splitHost true false [] "localhost:4566".toList =
        ("localhost".toList, ":4566".toList) := by decide
    unfold Url.afterAuthority?
    rw [huser]
    simp only [hsplit, hhost]
    decide
  rw [origin.path?_alone, hauthority]
  rfl

/-- An account and a name that are the words of the service path, behind the service path. -/
def crossingLocator : AddressBook.Locator where
  path := "services//simplequeue/services/simplequeue/".toList
  behind := "?x-1".toList
  plain := List.all_iff_forall_prop.mp (by decide)
  graphic := List.all_iff_forall_prop.mp (by decide)
  ends := fun c hc => by
    cases Option.some.inj hc
    rfl

end Sample

/-- They are found, and found again where the service path is left out. -/
theorem AddressBook.resolve?_locator_crossing :
    ∃ book : AddressBook,
      book.resolve? "/services//simplequeue/services/simplequeue/?x-1" =
        some ⟨"services", "simplequeue"⟩ ∧
      book.resolve? "http://localhost:4566/services//simplequeue/services/simplequeue/?x-1" =
        some ⟨"services", "simplequeue"⟩ ∧
      book.resolve? "http://localhost:4566/services/simplequeue" = some ⟨"services", "simplequeue"⟩ := by
  let book : AddressBook := { endpoint := "", accounts := ["services"] }
  have hread : (Url.path? (String.ofList Sample.origin.text)).isSome = true := by
    rw [Sample.path?_origin]
    rfl
  have hbare : Sample.crossingLocator.bare = "/services//simplequeue/services/simplequeue/?x-1" := by
    decide +kernel
  have hunder : Sample.crossingLocator.under Sample.origin =
      "http://localhost:4566/services//simplequeue/services/simplequeue/?x-1" := by decide +kernel
  have hdirect : String.ofList (Sample.origin.text ++ Layout.direct.path ⟨"services", "simplequeue"⟩) =
      "http://localhost:4566/services/simplequeue" := by decide +kernel
  have hwords : segments ('/' :: Sample.crossingLocator.path) =
      Layout.service.words ⟨"services", "simplequeue"⟩ := by decide +kernel
  obtain ⟨hsame, hfound, -, hpath, -⟩ := resolve?_locator book hread Sample.crossingLocator
  have hmatch := (hfound ⟨"services", "simplequeue"⟩).mpr
    ⟨List.mem_singleton_self _, .service, segments_eq_iff.mp hwords⟩
  obtain ⟨-, hagain⟩ := hpath .direct ⟨"services", "simplequeue"⟩ (List.mem_singleton_self _)
    (by decide) (by decide)
  rw [hmatch, hunder] at hsame
  rw [hbare] at hmatch
  rw [hdirect] at hagain
  exact ⟨book, hmatch, hsame, hagain⟩

end QueueService
