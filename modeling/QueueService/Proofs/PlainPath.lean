import Mathlib
import QueueService.AddressBook
import QueueService.Text.Alphabet

/-!
# Addresses with plain paths

What is read from an address that consists of an origin of the web and a path without anything to encode
or to walk through. The parts of such an address are read one behind the other: the scheme, the authority,
which ends at the first slash (`afterAuthority?_append`), and the path, which is kept as it is
(`pathOf_plain`).

* `Origin.path?_append` — the path behind an origin is read as it is written.
-/

namespace QueueService

/-! ## Plain characters -/

/-- A text of the characters that names of queues are made of, which is not empty. -/
def Alphabet.IsPlain (text : String) : Prop :=
  text ≠ "" ∧ ∀ c ∈ text.toList, Alphabet.isQueueNameChar c = true

instance (text : String) : Decidable (Alphabet.IsPlain text) :=
  @instDecidableAnd _ _ _ (List.decidableBAll _ _)

theorem Alphabet.isPlain_of_isQueueName {maxLength : Nat} {name : String}
    (h : isQueueName maxLength name = true) : IsPlain name :=
  ⟨(isQueueName_iff.mp h).1, (isQueueName_iff.mp h).2.2⟩

namespace Url

/-- The characters of plain paths: those of names, and slashes. -/
def isPlain (c : Char) : Bool := Alphabet.isQueueNameChar c || c == '/'

section Plain

variable {c : Char}

/-- A plain character is none that is not plain. -/
theorem ne_of_isPlain (h : isPlain c = true) {d : Char} (hd : isPlain d = false) : c ≠ d := by
  rintro rfl
  rw [h] at hd
  cases hd

theorem toNat_of_isPlain (h : isPlain c = true) : 0x2D ≤ c.toNat ∧ c.toNat ≤ 0x7A := by
  simp only [isPlain, Alphabet.isQueueNameChar, Alphabet.isAsciiAlphanumeric, Bool.or_eq_true,
    Bool.and_eq_true, beq_iff_eq, decide_eq_true_eq] at h
  rcases h with ((rfl | rfl) | h) | rfl
  · decide
  · decide
  · omega
  · decide

theorem isEncodedInPath_of_isPlain (h : isPlain c = true) : isEncodedInPath c = false := by
  obtain ⟨hleast, hmost⟩ := toNat_of_isPlain h
  have hcontrol : isControl c = false := by
    unfold isControl
    rw [Bool.or_eq_false_iff, decide_eq_false_iff_not, decide_eq_false_iff_not]
    omega
  have hne : ∀ d ∈ [' ', '"', '#', '<', '>', '?', '\x60', '\x7b', '\x7d'], c ≠ d := by
    intro d hd
    refine ne_of_isPlain h ?_
    revert d
    exact List.all_iff_forall_prop.mp (by decide)
  unfold isEncodedInPath
  simp only [hcontrol, Bool.false_or, Bool.or_eq_false_iff, beq_eq_false_iff_ne]
  simpa [and_assoc] using hne

theorem slash_of_isPlain (h : isPlain c = true) (hslash : isSlash true c = true) : c = '/' := by
  simp only [isSlash, Bool.true_and, Bool.or_eq_true, beq_iff_eq] at hslash
  rcases hslash with hslash | hslash
  · exact hslash
  · exact absurd hslash (ne_of_isPlain h (by decide))

end Plain

/-! ## Paths -/

theorem encode_eq_self {p : Char → Bool} {cs : List Char} (h : ∀ c ∈ cs, p c = false) :
    encode p cs = cs := by
  induction cs with
  | nil => rfl
  | cons c cs ih =>
      have hc : p c = false := h c List.mem_cons_self
      have hrest := ih fun d hd => h d (List.mem_cons_of_mem _ hd)
      unfold encode at hrest ⊢
      rw [List.flatMap_cons, hrest, if_neg (by rw [hc]; decide)]
      rfl

theorem mem_of_mem_splitOnP {p : Char → Bool} {cs segment : List Char}
    (hsegment : segment ∈ cs.splitOnP p) {c : Char} (hc : c ∈ segment) : c ∈ cs := by
  induction cs generalizing segment with
  | nil =>
      rw [List.splitOnP_nil, List.mem_singleton] at hsegment
      rw [hsegment] at hc
      cases hc
  | cons d cs ih =>
      rw [List.splitOnP_cons_eq_if_modifyHead] at hsegment
      split at hsegment
      · rcases List.mem_cons.mp hsegment with rfl | hrest
        · cases hc
        · exact List.mem_cons_of_mem _ (ih hrest hc)
      · rcases hsplit : cs.splitOnP p with _ | ⟨first, others⟩
        · exact absurd hsplit (List.splitOnP_ne_nil p cs)
        · rw [hsplit, List.modifyHead_cons] at hsegment
          rw [hsplit] at ih
          rcases List.mem_cons.mp hsegment with rfl | hrest
          · rcases List.mem_cons.mp hc with rfl | hc
            · exact List.mem_cons_self
            · exact List.mem_cons_of_mem _ (ih List.mem_cons_self hc)
          · exact List.mem_cons_of_mem _ (ih (List.mem_cons_of_mem _ hrest) hc)

/-- Cutting a text at its slashes and putting the slashes back yields the text behind a slash. -/
theorem textOf_splitOnP {p : Char → Bool} {cs : List Char} (h : ∀ c ∈ cs, p c = true → c = '/') :
    textOf (cs.splitOnP p) = '/' :: cs := by
  induction cs with
  | nil => rfl
  | cons c cs ih =>
      have hrest := ih fun d hd => h d (List.mem_cons_of_mem _ hd)
      rw [List.splitOnP_cons_eq_if_modifyHead]
      split
      · next hslash =>
        rw [h c List.mem_cons_self hslash]
        exact congrArg ('/' :: ·) hrest
      · rcases hsplit : cs.splitOnP p with _ | ⟨first, others⟩
        · exact absurd hsplit (List.splitOnP_ne_nil p cs)
        · rw [hsplit] at hrest
          have htail : first ++ textOf others = cs := (List.cons.inj hrest).2
          show '/' :: c :: (first ++ textOf others) = _
          rw [htail]

/-- A segment without dots is passed as it is. -/
theorem walk_eq_append {passed segments : List (List Char)}
    (h : ∀ segment ∈ segments, dropDot? segment = none) :
    walk passed segments = passed.reverse ++ segments := by
  induction segments generalizing passed with
  | nil => rw [walk, List.append_nil]
  | cons segment ahead ih =>
      have hpass : pass passed segment ahead = segment :: passed := by
        have hdot := h segment List.mem_cons_self
        unfold pass
        rw [isDoubleDot, isSingleDot, hdot]
        rfl
      rw [walk, hpass, ih fun s hs => h s (List.mem_cons_of_mem _ hs), List.reverse_cons,
        List.append_assoc]
      rfl

theorem dropDot?_of_plain {segment : List Char} (h : ∀ c ∈ segment, isPlain c = true) :
    dropDot? segment = none := by
  unfold dropDot?
  split
  · exact absurd rfl (ne_of_isPlain (h '.' List.mem_cons_self) (by decide))
  · exact absurd rfl (ne_of_isPlain (h '%' List.mem_cons_self) (by decide))
  · rfl

/-- **A plain path is kept as it is.** -/
theorem pathOf_plain {cs : List Char} (h : ∀ c ∈ cs, isPlain c = true) :
    pathOf true cs = '/' :: cs := by
  have hplain : ∀ segment ∈ cs.splitOnP (isSlash true), ∀ c ∈ segment, isPlain c = true :=
    fun segment hsegment c hc => h c (mem_of_mem_splitOnP hsegment hc)
  have hencode : (cs.splitOnP (isSlash true)).map (encode isEncodedInPath) =
      cs.splitOnP (isSlash true) := by
    refine (List.map_congr_left ?_).trans (List.map_id _)
    intro segment hsegment
    exact encode_eq_self fun c hc => isEncodedInPath_of_isPlain (hplain segment hsegment c hc)
  unfold pathOf
  rw [hencode, walk_eq_append fun segment hsegment => dropDot?_of_plain (hplain segment hsegment)]
  exact textOf_splitOnP fun c hc => slash_of_isPlain (h c hc)

/-! ## Authorities -/

/-- What stands behind an authority: nothing, or a slash and more. -/
def StartsPath (beyond : List Char) : Prop := ∀ c ∈ beyond.head?, c = '/'

theorem startsPath_nil : StartsPath [] := fun _ hc => nomatch hc

section Authority

variable {authority beyond : List Char}

theorem takeWhile_eq_nil_of_startsPath {p : Char → Bool} (hp : p '/' = false)
    (h : StartsPath beyond) : beyond.takeWhile p = [] := by
  cases beyond with
  | nil => rfl
  | cons c rest =>
      obtain rfl := h c rfl
      exact List.takeWhile_cons_of_neg (by rw [hp]; decide)

theorem dropWhile_eq_self_of_startsPath {p : Char → Bool} (hp : p '/' = false)
    (h : StartsPath beyond) : beyond.dropWhile p = beyond := by
  cases beyond with
  | nil => rfl
  | cons c rest =>
      obtain rfl := h c rfl
      exact List.dropWhile_cons_of_neg (by rw [hp]; decide)

/-- The user and the host of an authority do not depend on what stands behind it. -/
theorem splitUser_append (hauthority : ∀ c ∈ authority, isSlash true c = false) :
    ∃ user host, (∀ c ∈ host, isSlash true c = false) ∧ ∀ beyond, StartsPath beyond →
      splitUser true (authority ++ beyond) = (user, host ++ beyond) := by
  have hall : ∀ c ∈ authority, (!isSlash true c) = true := by
    intro c hc
    rw [hauthority c hc]
    rfl
  have hsplit : ∀ beyond, StartsPath beyond →
      (authority ++ beyond).takeWhile (fun c => !isSlash true c) = authority ∧
        (authority ++ beyond).dropWhile (fun c => !isSlash true c) = beyond := by
    intro beyond hbeyond
    constructor
    · rw [List.takeWhile_append_of_pos hall, takeWhile_eq_nil_of_startsPath (by decide) hbeyond,
        List.append_nil]
    · rw [List.dropWhile_append_of_pos hall, dropWhile_eq_self_of_startsPath (by decide) hbeyond]
  -- a user ends at the last at-sign of the authority, which is looked for from the end
  cases hat : authority.reverse.dropWhile (· != '@') with
  | nil =>
      refine ⟨none, authority, hauthority, ?_⟩
      intro beyond hbeyond
      obtain ⟨htake, hdrop⟩ := hsplit beyond hbeyond
      unfold splitUser
      simp only [htake, hat]
  | cons at' user =>
      refine ⟨some user.reverse, (authority.reverse.takeWhile (· != '@')).reverse, ?_, ?_⟩
      · intro c hc
        apply hauthority
        exact List.mem_reverse.mp ((List.takeWhile_prefix _).mem (List.mem_reverse.mp hc))
      · intro beyond hbeyond
        obtain ⟨htake, hdrop⟩ := hsplit beyond hbeyond
        unfold splitUser
        simp only [htake, hdrop, hat]

/-- The name of a host does not depend on what stands behind the authority. What is left of the authority
    behind the name is empty or starts with a colon. -/
theorem splitHost_append {host : List Char} (hhost : ∀ c ∈ host, isSlash true c = false)
    (bracketed : Bool) (gathered : List Char) :
    ∃ name port, (port = [] ∨ ∃ digits, port = ':' :: digits ∧ ∀ c ∈ digits, isSlash true c = false) ∧
      ∀ beyond, StartsPath beyond →
        splitHost true bracketed gathered (host ++ beyond) = (name, port ++ beyond) := by
  induction host generalizing bracketed gathered with
  | nil =>
      refine ⟨gathered.reverse, [], Or.inl rfl, ?_⟩
      intro beyond hbeyond
      cases beyond with
      | nil => rfl
      | cons c rest =>
          obtain rfl := hbeyond c rfl
          have hslash : isSlash true '/' = true := rfl
          rw [List.nil_append, splitHost, hslash, Bool.or_true, if_pos rfl]
  | cons c rest ih =>
      have hc : isSlash true c = false := hhost c List.mem_cons_self
      have hrest : ∀ d ∈ rest, isSlash true d = false :=
        fun d hd => hhost d (List.mem_cons_of_mem _ hd)
      by_cases hend : (c == ':' && !bracketed) = true
      · -- the name ends at a colon
        have hcolon : c = ':' := by simpa using (Bool.and_eq_true_iff.mp hend).1
        refine ⟨gathered.reverse, c :: rest, Or.inr ⟨rest, by rw [hcolon], hrest⟩, ?_⟩
        intro beyond _
        rw [List.cons_append, splitHost, hend, Bool.true_or, if_pos rfl]
      · obtain ⟨name, port, hport, happend⟩ :=
          ih hrest (c == '[' || (bracketed && c != ']')) (c :: gathered)
        refine ⟨name, port, hport, ?_⟩
        intro beyond hbeyond
        rw [List.cons_append, splitHost, hc, Bool.or_false, if_neg hend]
        exact happend beyond hbeyond

/-- A port ends where the path starts. -/
theorem afterPort?_append {digits : List Char} (hdigits : ∀ c ∈ digits, isSlash true c = false)
    (hbeyond : StartsPath beyond) :
    afterPort? (':' :: (digits ++ beyond)) = (afterPort? (':' :: digits)).map fun _ => beyond := by
  have hsplit := List.takeWhile_append_dropWhile (p := Char.isDigit) (l := digits)
  have htake : ∀ c ∈ digits.takeWhile Char.isDigit, c.isDigit = true :=
    List.all_eq_true.mp List.all_takeWhile
  have hends : beyond.head?.all (fun c => c == '/' || c == '\\') = true := by
    cases beyond with
    | nil => rfl
    | cons c rest =>
        obtain rfl := hbeyond c rfl
        rfl
  cases hdrop : digits.dropWhile Char.isDigit with
  | nil =>
      -- all digits, and the path behind them
      rw [hdrop, List.append_nil] at hsplit
      rw [hsplit] at htake
      have htake' : (digits ++ beyond).takeWhile Char.isDigit = digits := by
        rw [List.takeWhile_append_of_pos htake, takeWhile_eq_nil_of_startsPath (by decide) hbeyond,
          List.append_nil]
      have hdrop' : (digits ++ beyond).dropWhile Char.isDigit = beyond := by
        rw [List.dropWhile_append_of_pos htake, dropWhile_eq_self_of_startsPath (by decide) hbeyond]
      have hnil : ([] : List Char).head?.all (fun c => c == '/' || c == '\\') = true := rfl
      unfold afterPort?
      simp only [htake', hdrop', hsplit, hdrop, hends, hnil, Bool.true_and]
      split <;> rfl
  | cons c rest =>
      -- a character that is neither a digit nor a slash, whatever stands behind it
      have hmem : c ∈ digits := by
        rw [← hsplit, hdrop]
        exact List.mem_append_right _ List.mem_cons_self
      have hslash : (c == '/' || c == '\\') = false := by
        simpa [isSlash] using hdigits c hmem
      have hdigit : c.isDigit = false := by
        have hhead := List.head?_dropWhile_not Char.isDigit digits
        rw [hdrop] at hhead
        simpa using hhead
      have hdrop' : (digits ++ beyond).dropWhile Char.isDigit = c :: (rest ++ beyond) := by
        rw [← hsplit, hdrop, List.append_assoc, List.dropWhile_append_of_pos htake, List.cons_append,
          List.dropWhile_cons_of_neg (by rw [hdigit]; decide)]
      unfold afterPort?
      simp only [hdrop, hdrop', List.head?_cons, Option.all_some, hslash, Bool.false_and,
        Bool.false_eq_true, if_false]
      rfl

/-- **An authority ends where the path starts,** and whether it is one does not depend on the path. -/
theorem afterAuthority?_append (hauthority : ∀ c ∈ authority, isSlash true c = false)
    (hbeyond : StartsPath beyond) :
    afterAuthority? true (authority ++ beyond) =
      (afterAuthority? true authority).map fun _ => beyond := by
  obtain ⟨user, host, hhost, huser⟩ := splitUser_append hauthority
  obtain ⟨name, port, hport, hname⟩ := splitHost_append hhost false []
  have hnil : StartsPath [] := startsPath_nil
  have huser' := huser [] hnil
  have hname' := hname [] hnil
  rw [List.append_nil, List.append_nil] at huser' hname'
  unfold afterAuthority?
  simp only [huser beyond hbeyond, hname beyond hbeyond, huser', hname', Bool.true_or, if_true]
  split
  · rfl
  · split
    · rcases hport with rfl | ⟨digits, rfl, hdigits⟩
      · -- no port
        cases beyond with
        | nil => rfl
        | cons c rest =>
            obtain rfl := hbeyond c rfl
            rfl
      · -- a port, which ends in front of a slash
        rw [List.cons_append]
        exact afterPort?_append hdigits hbeyond
    · rfl

end Authority

/-! ## Whole addresses -/

/-- **An origin of the web,** as it is written: a scheme and an authority. Whether it is read as an
    address is up to the authority. -/
structure Origin where
  scheme : List Char
  authority : List Char
  letters : ∀ c ∈ scheme, c.isAlpha = true
  web : scheme.map Char.toLower = "http".toList ∨ scheme.map Char.toLower = "https".toList
  present : authority ≠ []
  graphic : ∀ c ∈ authority, 0x20 < c.toNat
  closed : ∀ c ∈ authority, isSlash true c = false ∧ endsPath c = false

namespace Origin

/-- The text of an origin. -/
def text (origin : Origin) : List Char := origin.scheme ++ ':' :: '/' :: '/' :: origin.authority

variable (origin : Origin)

theorem toNat_of_isAlpha {c : Char} (h : c.isAlpha = true) : 0x41 ≤ c.toNat ∧ c.toNat ≤ 0x7A := by
  simp only [Char.isAlpha, Char.isUpper, Char.isLower, Bool.or_eq_true, Bool.and_eq_true,
    decide_eq_true_eq, UInt32.le_iff_toNat_le] at h
  change (65 ≤ c.toNat ∧ c.toNat ≤ 90) ∨ (97 ≤ c.toNat ∧ c.toNat ≤ 122) at h
  omega

theorem graphic_text : ∀ c ∈ origin.text, 0x20 < c.toNat := by
  intro c hc
  simp only [text, List.mem_append, List.mem_cons] at hc
  rcases hc with hc | rfl | rfl | rfl | hc
  · have hletter := toNat_of_isAlpha (origin.letters c hc)
    omega
  · decide
  · decide
  · decide
  · exact origin.graphic c hc

theorem exists_scheme : ∃ first rest, origin.scheme = first :: rest := by
  cases hempty : origin.scheme with
  | nil =>
      have hweb := origin.web
      rw [hempty] at hweb
      rcases hweb with hweb | hweb <;> cases hweb
  | cons first rest => exact ⟨first, rest, rfl⟩

theorem splitScheme?_text (behind : List Char) :
    splitScheme? (origin.text ++ behind) =
      some (.web, '/' :: '/' :: (origin.authority ++ behind)) := by
  have htext : origin.text ++ behind =
      origin.scheme ++ ':' :: '/' :: '/' :: (origin.authority ++ behind) := by
    rw [text, List.append_assoc]
    rfl
  have hscheme : ∀ c ∈ origin.scheme, isSchemeChar c = true := by
    intro c hc
    simp [isSchemeChar, Char.isAlphanum, origin.letters c hc]
  have hcolon : ¬ isSchemeChar ':' = true := by decide
  have htake : (origin.text ++ behind).takeWhile isSchemeChar = origin.scheme := by
    rw [htext, List.takeWhile_append_of_pos hscheme, List.takeWhile_cons_of_neg hcolon,
      List.append_nil]
  have hdrop : (origin.text ++ behind).dropWhile isSchemeChar =
      ':' :: '/' :: '/' :: (origin.authority ++ behind) := by
    rw [htext, List.dropWhile_append_of_pos hscheme, List.dropWhile_cons_of_neg hcolon]
  have hname : Scheme.ofName (origin.scheme.map Char.toLower) = .web := by
    rcases origin.web with hweb | hweb <;> rw [hweb] <;> rfl
  obtain ⟨first, rest, hfirst⟩ := origin.exists_scheme
  have hletter : first.isAlpha = true := by
    apply origin.letters
    rw [hfirst]
    exact List.mem_cons_self
  unfold splitScheme?
  simp only [htake, hdrop, hname]
  rw [hfirst]
  simp [hletter]

/-- Where there are no blanks and no line ends, none are dropped. -/
theorem bare_eq_self {cs : List Char} (h : ∀ c ∈ cs, 0x20 < c.toNat) :
    Blank.strip (fun c => c.toNat ≤ 0x20) cs = cs ∧ dropBreaks cs = cs := by
  constructor
  · have hkeep : ∀ ds : List Char, (∀ c ∈ ds, 0x20 < c.toNat) →
        ds.dropWhile (fun c => decide (c.toNat ≤ 0x20)) = ds := by
      intro ds hds
      cases ds with
      | nil => rfl
      | cons c rest =>
          have hc := hds c List.mem_cons_self
          apply List.dropWhile_cons_of_neg
          rw [decide_eq_true_eq]
          omega
    have hreverse : ∀ c ∈ cs.reverse, 0x20 < c.toNat := fun c hc => h c (List.mem_reverse.mp hc)
    rw [Blank.strip, hkeep cs h, hkeep _ hreverse, List.reverse_reverse]
  · apply List.filter_eq_self.mpr
    intro c hc
    have hgraphic := h c hc
    have hne : c ≠ '\t' ∧ c ≠ '\n' ∧ c ≠ '\r' := by
      refine ⟨?_, ?_, ?_⟩ <;> rintro rfl <;> exact absurd hgraphic (by decide)
    simp [isBreak, hne]

/-- What stands behind the scheme goes up to the query or the fragment. -/
theorem takeWhile_web {path behind : List Char} (hplain : ∀ c ∈ path, isPlain c = true)
    (hbehind : ∀ c ∈ behind.head?, endsPath c = true) :
    ('/' :: '/' :: (origin.authority ++ (path ++ behind))).takeWhile (fun c => !endsPath c) =
      '/' :: '/' :: (origin.authority ++ path) := by
  have hopen : ∀ c ∈ '/' :: '/' :: (origin.authority ++ path), (!endsPath c) = true := by
    intro c hc
    rw [List.mem_cons, List.mem_cons, List.mem_append] at hc
    rcases hc with rfl | rfl | hc | hc
    · decide
    · decide
    · rw [(origin.closed c hc).2]
      rfl
    · have hq : c ≠ '?' := ne_of_isPlain (hplain c hc) (by decide)
      have hf : c ≠ '#' := ne_of_isPlain (hplain c hc) (by decide)
      simp [endsPath, hq, hf]
  have hend : behind.takeWhile (fun c => !endsPath c) = [] := by
    cases behind with
    | nil => rfl
    | cons c rest =>
        apply List.takeWhile_cons_of_neg
        rw [hbehind c rfl]
        decide
  rw [← List.append_assoc, ← List.cons_append, ← List.cons_append,
    List.takeWhile_append_of_pos hopen, hend, List.append_nil]

/-- The authority begins behind the slashes. -/
theorem dropWhile_web (path : List Char) :
    ('/' :: '/' :: (origin.authority ++ path)).dropWhile (isSlash true) =
      origin.authority ++ path := by
  rw [List.dropWhile_cons_of_pos rfl, List.dropWhile_cons_of_pos rfl]
  cases hauthority : origin.authority with
  | nil => exact absurd hauthority origin.present
  | cons c rest =>
      have hc := (origin.closed c (by rw [hauthority]; exact List.mem_cons_self)).1
      exact List.dropWhile_cons_of_neg (by rw [hc]; decide)

/-- What an address comes to that consists of an origin, a plain path and perhaps a query. -/
theorem path?_text {path behind : List Char} (hstarts : StartsPath path)
    (hplain : ∀ c ∈ path, isPlain c = true) (hgraphic : ∀ c ∈ behind, 0x20 < c.toNat)
    (hbehind : ∀ c ∈ behind.head?, endsPath c = true) :
    path? (String.ofList (origin.text ++ (path ++ behind))) =
      (afterAuthority? true origin.authority).map fun _ =>
        String.ofList (pathOf true (dropSlash true path)) := by
  have hall : ∀ c ∈ origin.text ++ (path ++ behind), 0x20 < c.toNat := by
    intro c hc
    rcases List.mem_append.mp hc with hc | hc
    · exact origin.graphic_text c hc
    · rcases List.mem_append.mp hc with hc | hc
      · have hbounds := toNat_of_isPlain (hplain c hc)
        omega
      · exact hgraphic c hc
  obtain ⟨hstrip, hbreaks⟩ := bare_eq_self hall
  have htake := origin.takeWhile_web hplain hbehind
  unfold path?
  simp only [String.toList_ofList, hstrip, hbreaks, origin.splitScheme?_text, htake]
  unfold webPath?
  rw [origin.dropWhile_web, afterAuthority?_append (fun c hc => (origin.closed c hc).1) hstarts]
  rw [Option.map_map, Option.map_map]
  rfl

/-- Where nothing stands behind an origin, the path is a slash. -/
theorem path?_alone : path? (String.ofList origin.text) =
    (afterAuthority? true origin.authority).map fun _ => "/" := by
  have htext := origin.path?_text startsPath_nil (List.forall_mem_nil _) (List.forall_mem_nil _)
    (by simp : ∀ c ∈ ([] : List Char).head?, endsPath c = true)
  rw [List.append_nil, List.append_nil] at htext
  exact htext

/-- **What stands behind an origin is the path,** up to the query or the fragment. -/
theorem path?_append (hread : (path? (String.ofList origin.text)).isSome = true)
    {path behind : List Char} (hplain : ∀ c ∈ path, isPlain c = true)
    (hgraphic : ∀ c ∈ behind, 0x20 < c.toNat) (hbehind : ∀ c ∈ behind.head?, endsPath c = true) :
    path? (String.ofList (origin.text ++ ('/' :: path ++ behind))) =
      some (String.ofList ('/' :: path)) := by
  rw [origin.path?_alone, Option.isSome_map] at hread
  obtain ⟨rest, hauthority⟩ := Option.isSome_iff_exists.mp hread
  have hslash : ∀ c ∈ '/' :: path, isPlain c = true := by
    intro c hc
    rcases List.mem_cons.mp hc with rfl | hc
    · rfl
    · exact hplain c hc
  have hstarts : StartsPath ('/' :: path) := by
    intro c hc
    exact (Option.some.inj hc).symm
  rw [origin.path?_text hstarts hslash hgraphic hbehind, hauthority, Option.map_some]
  have hdrop : dropSlash true ('/' :: path) = path := rfl
  rw [hdrop, pathOf_plain hplain]

end Origin

end Url

end QueueService
