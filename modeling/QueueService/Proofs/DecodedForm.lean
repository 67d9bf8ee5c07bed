import Mathlib
import QueueService.Dict.Lemmas
import QueueService.Http.Basic
import QueueService.Proofs.DecodedText
import QueueService.Proofs.Operation

/-!
# Forms as they are decoded

What the parameters of a request are, said in terms of its bytes alone. A form is cut at its ampersands, and
each piece at its first equals sign; the bytes of either part are unescaped and have to be those of a text.
The check of a form unescapes whole pieces, while names and values are unescaped one by one. The two agree
because no escape reaches over an equals sign, which is no hexadecimal digit, and no character does either.

* `Percent.Unescapes` — unescaping as a relation; `Percent.unescapes_iff` says that it is what is computed.
* `Percent.Unescapes.append_cons` — a byte that no escape reaches over stays where it is.
* `Form.Says` — the name and the value that a piece stands for; `Form.isText_iff` says that they exist where
  the piece passes the check.
* `Params.read_decoded` — which requests have parameters, which parameters these are, and what becomes of
  the other requests.
-/

namespace QueueService

/-! ## Escapes -/

namespace Percent

/-- **Unescaping.** A `%` and two hexadecimal digits stand for the byte that they spell, and every other byte
    stands for itself. -/
inductive Unescapes : List UInt8 → List UInt8 → Prop
  | nil : Unescapes [] []
  | escape {high low b : UInt8} {written bytes : List UInt8} (spelled : byte? high low = some b)
      (rest : Unescapes written bytes) : Unescapes (0x25 :: high :: low :: written) (b :: bytes)
  | plain {b : UInt8} {written bytes : List UInt8}
      (unescaped : ∀ high low more, b :: written = 0x25 :: high :: low :: more → byte? high low = none)
      (rest : Unescapes written bytes) : Unescapes (b :: written) (b :: bytes)

section Unescapes

variable {written front back bytes f g : List UInt8} {b : UInt8}

theorem scan_of_unescapes (h : Unescapes written bytes) (acc : List UInt8) :
    scan acc written = bytes.reverse ++ acc := by
  induction h generalizing acc with
  | nil => rfl
  | escape spelled rest ih => simp [scan, spelled, ih]
  | @plain b written bytes unescaped rest ih =>
      have hstep : scan acc (b :: written) = scan (b :: acc) written := by
        by_cases hb : b = 0x25
        · subst hb
          cases written with
          | nil => rfl
          | cons high written =>
              cases written with
              | nil => rfl
              | cons low more => simp [scan, unescaped high low more rfl]
        · exact Form.scan_of_ne hb acc written
      rw [hstep, ih]
      simp

theorem exists_unescapes (written : List UInt8) : ∃ bytes, Unescapes written bytes := by
  induction hlength : written.length using Nat.strongRecOn generalizing written with
  | ind n ih =>
      subst hlength
      cases written with
      | nil => exact ⟨[], .nil⟩
      | cons b rest =>
          by_cases hescape : ∃ high low more decoded, b :: rest = 0x25 :: high :: low :: more ∧
              byte? high low = some decoded
          · obtain ⟨high, low, more, decoded, heq, hspelled⟩ := hescape
            cases heq
            obtain ⟨bytes, hmore⟩ := ih more.length (by simp; omega) more rfl
            exact ⟨decoded :: bytes, .escape hspelled hmore⟩
          · obtain ⟨bytes, hrest⟩ := ih rest.length (by simp) rest rfl
            refine ⟨b :: bytes, .plain ?_ hrest⟩
            intro high low more heq
            cases hspelled : byte? high low with
            | none => rfl
            | some decoded => exact absurd ⟨high, low, more, decoded, heq, hspelled⟩ hescape

/-- **Unescaped bytes** are those that are computed. -/
theorem unescapes_iff : Unescapes written bytes ↔ decode written = bytes := by
  have hdecode : ∀ {bytes}, Unescapes written bytes → decode written = bytes := by
    intro bytes h
    rw [decode, scan_of_unescapes h]
    simp
  refine ⟨hdecode, ?_⟩
  rintro rfl
  obtain ⟨bytes, h⟩ := exists_unescapes written
  rwa [hdecode h]

/-- A byte that begins no escape and is no digit of one. -/
structure Parts (b : UInt8) : Prop where
  percent : b ≠ 0x25
  digit : Hex.digit? (Char.ofNat b.toNat) = none

theorem Parts.byte?_high (h : Parts b) (low : UInt8) : byte? b low = none := by
  rw [byte?, h.digit]
  rfl

theorem Parts.byte?_low (h : Parts b) (high : UInt8) : byte? high b = none := by
  rw [byte?, h.digit]
  cases Hex.digit? (Char.ofNat high.toNat) <;> rfl

/-- **No escape reaches over** such a byte: what stands on either side of it is unescaped by itself. -/
theorem Unescapes.append_cons (hb : Parts b) (hfront : Unescapes front f) (hback : Unescapes back g) :
    Unescapes (front ++ b :: back) (f ++ b :: g) := by
  induction hfront with
  | nil =>
      refine .plain ?_ hback
      intro high low more heq
      exact absurd (List.cons.inj heq).1 hb.percent
  | escape spelled rest ih => exact .escape spelled ih
  | @plain b' written bytes unescaped rest ih =>
      refine .plain ?_ ih
      intro high low more heq
      -- the digits of an escape may not have the byte among them
      match written with
      | [] =>
          cases heq
          exact hb.byte?_high low
      | [_] =>
          cases heq
          exact hb.byte?_low high
      | high' :: low' :: more' =>
          cases heq
          exact unescaped high low more' rfl

end Unescapes

end Percent

/-! ## Pieces of a form -/

namespace Form

/-- A written name or value with its pluses as spaces. -/
def spaced (written : List UInt8) : List UInt8 := written.map fun b => if b = 0x2B then 0x20 else b

/-- **What a written name or value stands for:** the text whose bytes it comes to, once its pluses are spaces
    and it is unescaped. -/
def Denotes (written : List UInt8) (text : String) : Prop :=
  Percent.Unescapes (spaced written) (Utf8.encode text)

/-- **Cutting a piece** at its first equals sign. A piece without one is a name with an empty value. -/
inductive Cut : List UInt8 → List UInt8 → List UInt8 → Prop
  | named {name value : List UInt8} (first : 0x3D ∉ name) : Cut (name ++ 0x3D :: value) name value
  | bare {name : List UInt8} (missing : 0x3D ∉ name) : Cut name name []

/-- **The pair of a piece.** A piece that is not empty says a name and a value, where both parts of it stand
    for texts. -/
inductive Says (piece : List UInt8) (name value : String) : Prop
  | intro {n v : List UInt8} (nonempty : piece ≠ []) (cut : Cut piece n v) (named : Denotes n name)
      (valued : Denotes v value) : Says piece name value

/-- Whether a piece is no pair at all, or one that is said. -/
def Textual (piece : List UInt8) : Prop := piece = [] ∨ ∃ name value, Says piece name value

/-- **The last pair of a name.** It is said by a piece, and no piece behind that one says the name again. -/
def LastSays (pieces : List (List UInt8)) (name value : String) : Prop :=
  ∃ front piece back, pieces = front ++ piece :: back ∧ Says piece name value ∧
    ∀ later ∈ back, ∀ other, ¬ Says later name other

section Piece

variable {piece written n v : List UInt8} {name value name' value' text : String}

theorem denotes_iff : Denotes written text ↔ decode written = Utf8.encode text :=
  Percent.unescapes_iff

theorem denotes_empty : Denotes [] "" := .nil

/-- The text that is read is the one that is stood for, with nothing put in place of any byte. -/
theorem Denotes.text_eq (h : Denotes written text) : Form.text written = text := by
  rw [Form.text, denotes_iff.mp h, Utf8.decodeLossy_encode]

theorem cut_written (piece : List UInt8) : Cut piece (writtenName piece) (writtenValue piece) := by
  have hname : 0x3D ∉ writtenName piece := Separator.notMem_takeWhile 0x3D piece
  have hsplit : writtenName piece ++ piece.dropWhile (· != 0x3D) = piece :=
    List.takeWhile_append_dropWhile
  cases hrest : piece.dropWhile (· != 0x3D) with
  | nil =>
      have hvalue : writtenValue piece = [] := by simp [writtenValue, hrest]
      rw [hrest, List.append_nil] at hsplit
      rw [hsplit] at hname ⊢
      rw [hvalue]
      exact .bare hname
  | cons b rest =>
      have hvalue : writtenValue piece = rest := by simp [writtenValue, hrest]
      have hb : b = 0x3D := Separator.eq_of_dropWhile hrest
      have hcut : Cut (writtenName piece ++ 0x3D :: rest) (writtenName piece) rest := .named hname
      rwa [← hb, ← hrest, hsplit, ← hvalue] at hcut

theorem Cut.parts (h : Cut piece n v) : writtenName piece = n ∧ writtenValue piece = v := by
  cases h with
  | named first =>
      refine ⟨Separator.takeWhile_append_cons first, ?_⟩
      rw [writtenValue, Separator.dropWhile_append_cons first]
      simp
  | bare missing =>
      have hall := Separator.bne_of_notMem missing
      refine ⟨List.takeWhile_eq_self_iff.mpr hall, ?_⟩
      rw [writtenValue, List.dropWhile_eq_nil_iff.mpr hall]
      rfl

theorem Says.texts (h : Says piece name value) :
    Form.text (writtenName piece) = name ∧ Form.text (writtenValue piece) = value := by
  cases h with
  | intro nonempty cut named valued =>
      obtain ⟨rfl, rfl⟩ := cut.parts
      exact ⟨named.text_eq, valued.text_eq⟩

theorem Says.unique (h : Says piece name value) (h' : Says piece name' value') :
    name = name' ∧ value = value' :=
  ⟨h.texts.1.symm.trans h'.texts.1, h.texts.2.symm.trans h'.texts.2⟩

theorem parts_equals : Percent.Parts 0x3D := ⟨by decide, by decide⟩

/-- A piece is unescaped part by part. -/
theorem decode_named (n v : List UInt8) : decode (n ++ 0x3D :: v) = decode n ++ 0x3D :: decode v := by
  have hname : Percent.Unescapes (spaced n) (decode n) := Percent.unescapes_iff.mpr rfl
  have hvalue : Percent.Unescapes (spaced v) (decode v) := Percent.unescapes_iff.mpr rfl
  have hpiece : spaced (n ++ 0x3D :: v) = spaced n ++ 0x3D :: spaced v := by simp [spaced]
  have hall := hname.append_cons parts_equals hvalue
  rw [← hpiece] at hall
  exact Percent.unescapes_iff.mp hall

/-- **The check of a piece** passes where the name and the value are texts. -/
theorem isText_iff : isText piece = true ↔ Textual piece := by
  constructor
  · intro h
    by_cases hempty : piece = []
    · exact .inl hempty
    obtain ⟨whole, hwhole⟩ := Utf8.exists_encode h
    have hcut := cut_written piece
    generalize writtenName piece = n, writtenValue piece = v at hcut
    cases hcut with
    | named first =>
        rw [decode_named] at hwhole
        obtain ⟨name, value, hname, hvalue⟩ := Utf8.encode_eq_append_cons (by decide) hwhole.symm
        exact .inr ⟨name, value, .intro hempty (.named first) (denotes_iff.mpr hname)
          (denotes_iff.mpr hvalue)⟩
    | bare missing =>
        exact .inr ⟨whole, "", .intro hempty (.bare missing) (denotes_iff.mpr hwhole) denotes_empty⟩
  · intro h
    have hwhole : ∃ whole, decode piece = Utf8.encode whole := by
      rcases h with rfl | ⟨name, value, -, cut, named, valued⟩
      · exact ⟨"", rfl⟩
      cases cut with
      | named first =>
          refine ⟨name ++ "=" ++ value, ?_⟩
          rw [decode_named, denotes_iff.mp named, denotes_iff.mp valued, Utf8.encode_append,
            Utf8.encode_append, List.append_assoc]
          rfl
      | bare missing => exact ⟨name, denotes_iff.mp named⟩
    obtain ⟨whole, hwhole⟩ := hwhole
    rw [isText, hwhole, Utf8.decode?_encode]
    rfl

end Piece

/-! ## Whole forms -/

/-- The pair that is read from a piece. -/
def pair? (piece : List UInt8) : Option (String × String) :=
  if piece.isEmpty then none else some (text (writtenName piece), text (writtenValue piece))

section Pairs

variable {pieces : List (List UInt8)} {piece : List UInt8} {name value : String}

theorem pairs_eq (form : List UInt8) : pairs form = (Form.pieces form).filterMap pair? := by
  rw [pairs]
  induction Form.pieces form with
  | nil => rfl
  | cons piece rest ih =>
      by_cases hempty : piece.isEmpty = true
      · simp [pair?, hempty, ih]
      · simp [pair?, hempty, ih]

theorem Says.pair?_eq (h : Says piece name value) : pair? piece = some (name, value) := by
  have hnonempty : piece.isEmpty = false := by
    cases h with
    | intro nonempty cut named valued => simpa using nonempty
  obtain ⟨rfl, rfl⟩ := h.texts
  simp [pair?, hnonempty]

theorem not_said_nil : ¬ Says [] name value := by
  rintro ⟨nonempty, -, -, -⟩
  exact nonempty rfl

/-- The last piece says a name, or else it is said as before. -/
theorem lastSays_append_singleton_iff : LastSays (pieces ++ [piece]) name value ↔
    Says piece name value ∨ (∀ other, ¬ Says piece name other) ∧ LastSays pieces name value := by
  constructor
  · rintro ⟨front, said, back, heq, hsaid, hback⟩
    rcases List.eq_nil_or_concat back with rfl | ⟨back, last, rfl⟩
    · obtain ⟨-, hlast⟩ := List.append_inj' heq rfl
      cases hlast
      exact .inl hsaid
    · rw [List.concat_eq_append, ← List.cons_append, ← List.append_assoc] at heq
      obtain ⟨rfl, hlast⟩ := List.append_inj' heq rfl
      cases hlast
      simp only [List.concat_eq_append, List.mem_append, List.mem_singleton] at hback
      exact .inr ⟨hback piece (.inr rfl), front, said, back, rfl, hsaid,
        fun later hlater => hback later (.inl hlater)⟩
  · rintro (hsaid | ⟨hnot, front, said, back, rfl, hsaid, hback⟩)
    · exact ⟨pieces, piece, [], rfl, hsaid, fun _ h => absurd h List.not_mem_nil⟩
    · refine ⟨front, said, back ++ [piece], by simp, hsaid, ?_⟩
      intro later hlater
      rcases List.mem_append.mp hlater with hlater | hlater
      · exact hback later hlater
      · rw [List.mem_singleton.mp hlater]
        exact hnot

/-- **The pairs of pieces** as a map have the last value of each name. -/
theorem find?_pairs (h : ∀ piece ∈ pieces, Textual piece) :
    (Dict.ofList (pieces.filterMap pair?)).find? name = some value ↔ LastSays pieces name value := by
  induction pieces using List.reverseRecOn with
  | nil =>
      constructor
      · intro hfind
        cases hfind
      · rintro ⟨front, said, back, heq, -⟩
        simp at heq
  | append_singleton pieces piece ih =>
      have ih := ih fun earlier hearlier => h earlier (List.mem_append_left _ hearlier)
      rw [lastSays_append_singleton_iff, ← ih, List.filterMap_append]
      rcases h piece (by simp) with rfl | ⟨name', value', hsaid⟩
      · have hnone : [[]].filterMap pair? = [] := rfl
        rw [hnone, List.append_nil]
        simp [not_said_nil]
      · have hone : [piece].filterMap pair? = [(name', value')] := by simp [hsaid.pair?_eq]
        have hinsert : Dict.ofList (pieces.filterMap pair? ++ [(name', value')]) =
            (Dict.ofList (pieces.filterMap pair?)).insert name' value' := by
          simp [Dict.ofList]
        rw [hone, hinsert, Dict.find?_insert]
        by_cases heq : name = name'
        · subst heq
          have honly : ∀ other, Says piece name other ↔ value' = other := fun other =>
            ⟨fun hother => (hsaid.unique hother).2, fun hother => hother ▸ hsaid⟩
          simp [honly]
        · have hnot : ∀ other, ¬ Says piece name other := fun other hother =>
            heq (hsaid.unique hother).1.symm
          simp [heq, hnot]

end Pairs

end Form

/-! ## Parameters -/

namespace Params

open Form

/-- The pieces of a request, those of the query string first. -/
def pieces (query body : List UInt8) : List (List UInt8) := Form.pieces query ++ Form.pieces body

section Read

variable {query body : List UInt8} {path : String} {p : Params} {e : ServiceError}

/-- Query string and body are read as one list of pieces. -/
theorem read_eq (query body : List UInt8) (path : String) : read query body path =
    match (pieces query body).find? fun piece => !isText piece with
    | some piece => .error (.parameterNotText (reportedName piece))
    | none => .ok { values := Dict.ofList ((pieces query body).filterMap pair?), path } := by
  have hmisfit : (misfit? query).or (misfit? body) =
      ((pieces query body).find? fun piece => !isText piece).map reportedName := by
    rw [pieces, List.find?_append, misfit?, misfit?]
    cases (Form.pieces query).find? fun piece => !isText piece <;> simp
  have hpairs : pairs query ++ pairs body = (pieces query body).filterMap pair? := by
    rw [pairs_eq, pairs_eq, pieces, List.filterMap_append]
  rw [read, hmisfit, hpairs]
  cases (pieces query body).find? fun piece => !isText piece <;> rfl

theorem find?_eq_none_iff : ((pieces query body).find? fun piece => !isText piece) = none ↔
    ∀ piece ∈ pieces query body, Textual piece := by
  rw [List.find?_eq_none]
  refine forall₂_congr fun piece _ => ?_
  rw [← isText_iff]
  simp

/-- **Requests that are read,** and as what. -/
theorem read_eq_ok_iff : read query body path = .ok p ↔
    (∀ piece ∈ pieces query body, Textual piece) ∧ p.path = path ∧
      ∀ name value, p.get? name = some value ↔ LastSays (pieces query body) name value := by
  rw [read_eq, ← find?_eq_none_iff]
  cases hfind : (pieces query body).find? fun piece => !isText piece with
  | some piece => simp
  | none =>
      have hlast : ∀ {name value}, (Dict.ofList ((pieces query body).filterMap pair?)).find? name =
          some value ↔ LastSays (pieces query body) name value :=
        find?_pairs (find?_eq_none_iff.mp hfind)
      constructor
      · rintro ⟨⟩
        exact ⟨rfl, rfl, fun name value => hlast⟩
      · rintro ⟨-, rfl, hget⟩
        obtain ⟨values, path⟩ := p
        simp only [Except.ok.injEq, Params.mk.injEq, and_true]
        apply Dict.ext_find?
        intro name
        apply Option.ext
        intro value
        rw [hlast]
        exact (hget name value).symm

/-- **Requests that are not read,** and what is reported of them. -/
theorem read_eq_error_iff : read query body path = .error e ↔
    ∃ front piece back, pieces query body = front ++ piece :: back ∧
      (∀ earlier ∈ front, Textual earlier) ∧ ¬ Textual piece ∧
        e = .parameterNotText (reportedName piece) := by
  rw [read_eq]
  constructor
  · intro h
    cases hfind : (pieces query body).find? fun piece => !isText piece with
    | none => simp [hfind] at h
    | some piece =>
        obtain ⟨hpiece, front, back, heq, hfront⟩ := List.find?_eq_some_iff_append.mp hfind
        simp only [hfind, Except.error.injEq] at h
        refine ⟨front, piece, back, heq, ?_, ?_, h.symm⟩
        · intro earlier hearlier
          exact isText_iff.mp (by simpa using hfront earlier hearlier)
        · rw [← isText_iff]
          simpa using hpiece
  · rintro ⟨front, piece, back, heq, hfront, hpiece, rfl⟩
    have hfind : ((pieces query body).find? fun piece => !isText piece) = some piece := by
      rw [List.find?_eq_some_iff_append]
      refine ⟨by simpa using mt isText_iff.mp hpiece, front, back, heq, ?_⟩
      intro earlier hearlier
      simpa using isText_iff.mpr (hfront earlier hearlier)
    simp [hfind]

end Read

/-- **Parameters are what was sent.** A request has parameters if and only if every pair of its query string
    and of its body stands for a name and a value, both of them texts. Each parameter has the value of the
    last pair of its name, where the pairs of the body stand behind those of the query string. Otherwise the
    first pair that is no text is reported as an invalid value, and the request is answered with that error
    and does nothing. -/
theorem read_decoded (query : String) (body : List UInt8) (path : String) :
    ((∃ p, read (Utf8.encode query) body path = .ok p) ↔
        ∀ piece ∈ pieces (Utf8.encode query) body, piece ≠ [] → ∃ name value, Says piece name value) ∧
      (∀ p, read (Utf8.encode query) body path = .ok p → p.path = path ∧
        ∀ name value, p.get? name = some value ↔
          LastSays (pieces (Utf8.encode query) body) name value) ∧
      (∀ e, read (Utf8.encode query) body path = .error e ↔
        ∃ front piece back, pieces (Utf8.encode query) body = front ++ piece :: back ∧
          (∀ earlier ∈ front, Textual earlier) ∧ ¬ Textual piece ∧
            e = .parameterNotText (reportedName piece)) ∧
      ∀ e, read (Utf8.encode query) body path = .error e →
        e.code = .invalidParameterValue ∧
          ∀ method desk caller occasion requestId b,
            (Http.Exchange.serve desk caller occasion requestId ⟨method, ⟨path, query⟩, body⟩).run b =
              (.ofError caller requestId e, b) := by
  refine ⟨?_, fun p hp => (read_eq_ok_iff.mp hp).2, fun e => read_eq_error_iff, ?_⟩
  · have htextual : (∀ piece ∈ pieces (Utf8.encode query) body, piece ≠ [] →
        ∃ name value, Says piece name value) ↔ ∀ piece ∈ pieces (Utf8.encode query) body, Textual piece :=
      forall₂_congr fun piece _ => or_iff_not_imp_left.symm
    rw [htextual]
    constructor
    · rintro ⟨p, hp⟩
      exact (read_eq_ok_iff.mp hp).1
    · intro h
      rw [read_eq, find?_eq_none_iff.mpr h]
      exact ⟨_, rfl⟩
  · intro e he
    obtain ⟨front, piece, back, -, -, -, rfl⟩ := read_eq_error_iff.mp he
    refine ⟨rfl, fun method desk caller occasion requestId b => ?_⟩
    have hrequest : Http.Exchange.request ⟨method, ⟨path, query⟩, body⟩ =
        .error (.parameterNotText (reportedName piece)) := by
      rw [Http.Exchange.request, he]
      rfl
    rw [Http.Exchange.serve, hrequest]
    rfl

/-- An escaped equals sign is part of the value, and the body has the last word; a byte that is no text in one
    pair keeps all of the request from being read. -/
theorem read_decoded_oneMalformed :
    (∃ p, read (Utf8.encode "a=1&b=%E2%82%AC") (Utf8.encode "&a=%2B=%3D+&c") "/q" = .ok p ∧
      p.path = "/q" ∧ LastSays (pieces (Utf8.encode "a=1&b=%E2%82%AC") (Utf8.encode "&a=%2B=%3D+&c"))
        "a" "+== ") ∧
    read (Utf8.encode "a=1") (Utf8.encode "b=+&c=%FF+d&c=e") "/q" = .error (.parameterNotText "c") ∧
      (Http.Exchange.serve Sample.desk Sample.caller Sample.occasion "r"
        ⟨.get, ⟨"/q", "a=1"⟩, Utf8.encode "b=+&c=%FF+d&c=e"⟩).run (.reliable .empty) =
          (.ofError Sample.caller "r" (.parameterNotText "c"), .reliable .empty) := by
  have hread : read (Utf8.encode "a=1&b=%E2%82%AC") (Utf8.encode "&a=%2B=%3D+&c") "/q" =
      .ok ⟨Dict.ofList [("a", "+== "), ("b", "€"), ("c", "")], "/q"⟩ := by cbv
  have hfail : read (Utf8.encode "a=1") (Utf8.encode "b=+&c=%FF+d&c=e") "/q" =
      .error (.parameterNotText "c") := by cbv
  obtain ⟨-, hread', -, -⟩ := read_decoded "a=1&b=%E2%82%AC" (Utf8.encode "&a=%2B=%3D+&c") "/q"
  obtain ⟨hpath, hget⟩ := hread' _ hread
  obtain ⟨-, -, -, hfail'⟩ := read_decoded "a=1" (Utf8.encode "b=+&c=%FF+d&c=e") "/q"
  obtain ⟨-, hserve⟩ := hfail' _ hfail
  exact ⟨⟨_, hread, hpath, (hget "a" "+== ").mp rfl⟩, hfail, hserve ..⟩

end Params

end QueueService
