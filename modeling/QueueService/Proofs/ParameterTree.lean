import QueueService.Proofs.FormText
import QueueService.Dict.Lemmas

/-!
# Trees of parameters

Names of parameters are segments between dots, so parameters form a tree: the items of a list stand below
the list's name, each below its number. Since no segment contains a dot, a name has one list of segments
only (`joined_inj`), and what is read below one name is independent of everything else. In particular an
item is told from all others whose numbers begin with the same digits (`prefix_iff`).

* `Tree.record` — a tree that is put together from fields, and what it has at each of them.
* `Has` — parameters of which just a given tree stands below a name.
* `Has.get?_eq`, `Has.mem_indices_iff`, `Has.hasBelow_iff` — what the ways of reading come to.
-/

namespace QueueService.Params

/-! ## Names -/

/-- The name that segments make. -/
def joined (segments : List String) : String := ".".intercalate segments

/-- What stands in front of a name's last segment. -/
def lead (segments : List String) : String := String.join (segments.map (· ++ "."))

/-- A segment is free of dots. -/
def Dotless (segment : String) : Prop := '.' ∉ segment.toList

instance (segment : String) : Decidable (Dotless segment) := inferInstanceAs (Decidable (¬ _))

/-- **A name's segments.** There is one at least, and none contains a dot. -/
structure IsName (path : List String) : Prop where
  ne_nil : path ≠ []
  dotless : ∀ s ∈ path, Dotless s

section Name

variable {segment : String} {path path' more : List String}

theorem toList_joined (path : List String) :
    (joined path).toList = ['.'].intercalate (path.map String.toList) :=
  String.toList_intercalate

theorem toList_joined_cons (segment : String) (more : List String) :
    (joined (segment :: more)).toList =
      segment.toList ++ more.flatMap fun s => '.' :: s.toList := by
  rw [toList_joined, List.map_cons]
  induction more generalizing segment with
  | nil => simp [List.intercalate]
  | cons next more ih =>
      rw [List.map_cons, List.intercalate_cons_cons, ih next]
      simp

/-- A name is cut at its dots into its segments. -/
theorem splitOn_joined (h : IsName path) :
    (joined path).toList.splitOn '.' = path.map String.toList := by
  rw [toList_joined]
  apply List.splitOn_intercalate
  · intro cs hcs
    obtain ⟨s, hs, rfl⟩ := List.mem_map.mp hcs
    exact h.dotless s hs
  · exact fun hnil => h.ne_nil (List.map_eq_nil_iff.mp hnil)

/-- Cutting at a dot that is there anyway. -/
theorem splitOn_append_cons (front back : List Char) :
    (front ++ '.' :: back).splitOn '.' = front.splitOn '.' ++ back.splitOn '.' := by
  induction front with
  | nil => simp [List.splitOn, List.splitOnP_cons_eq_if_modifyHead]
  | cons c front ih =>
      unfold List.splitOn at ih ⊢
      rw [List.cons_append, List.splitOnP_cons_eq_if_modifyHead, List.splitOnP_cons_eq_if_modifyHead,
        ih]
      split
      · rfl
      · rcases hsplit : front.splitOnP (· == '.') with _ | ⟨first, others⟩
        · exact absurd hsplit (List.splitOnP_ne_nil _ front)
        · rfl

theorem eq_of_map_toList (h : path.map String.toList = path'.map String.toList) : path = path' :=
  List.map_injective_iff.mpr (fun _ _ => String.toList_inj.mp) h

/-- **A name has its segments in one way only.** -/
theorem joined_inj (hpath : IsName path) (hpath' : IsName path') (h : joined path = joined path') :
    path = path' := by
  apply eq_of_map_toList
  rw [← splitOn_joined hpath, ← splitOn_joined hpath', h]

theorem joined_singleton (segment : String) : joined [segment] = segment := by
  apply String.toList_inj.mp
  rw [toList_joined_cons, List.flatMap_nil, List.append_nil]

theorem joined_append (hpath : path ≠ []) (segment : String) (more : List String) :
    joined (path ++ segment :: more) = joined path ++ "." ++ joined (segment :: more) := by
  obtain ⟨first, rest, rfl⟩ := List.exists_cons_of_ne_nil hpath
  apply String.toList_inj.mp
  rw [List.cons_append, toList_joined_cons, String.toList_append, String.toList_append,
    toList_joined_cons, toList_joined_cons]
  simp

theorem lead_eq (hpath : path ≠ []) : lead path = joined path ++ "." := by
  obtain ⟨first, rest, rfl⟩ := List.exists_cons_of_ne_nil hpath
  apply String.toList_inj.mp
  rw [String.toList_append, toList_joined_cons]
  unfold lead
  induction rest generalizing first with
  | nil => simp
  | cons next rest ih =>
      have hnext := ih next (List.cons_ne_nil _ _)
      rw [List.map_cons, String.join_cons, String.toList_append, hnext]
      simp

theorem lead_append (path : List String) (segment : String) :
    lead path ++ segment = joined (path ++ [segment]) := by
  by_cases hpath : path = []
  · subst hpath
    apply String.toList_inj.mp
    simp [lead, joined]
  · rw [lead_eq hpath, joined_append hpath]
    apply String.toList_inj.mp
    simp [joined]

end Name

/-! ## Trees -/

/-- Values under lists of segments. -/
abbrev Tree := List (List String × String)

namespace Tree

/-- One value, under the name itself. -/
def leaf (value : String) : Tree := [([], value)]

/-- One value or none. -/
def leaf? (value? : Option String) : Tree := value?.toList.map fun value => ([], value)

/-- Fields, each of which stands below its name. -/
def record (fields : List (String × Tree)) : Tree :=
  fields.flatMap fun field => field.2.map fun e => (field.1 :: e.1, e.2)

/-- Names that fields may have together. -/
def FieldNames (names : List String) : Prop := names.Nodup ∧ ∀ name ∈ names, Dotless name

instance (names : List String) : Decidable (FieldNames names) := inferInstanceAs (Decidable (_ ∧ _))

/-- The parameters of a tree. -/
def parameters (tree : Tree) : List (String × String) := tree.map fun e => (joined e.1, e.2)

/-- **Sound.** No segment contains a dot, and nothing has two values. -/
structure Sound (tree : Tree) : Prop where
  dotless : ∀ e ∈ tree, ∀ s ∈ e.1, Dotless s
  nodup : (tree.map Prod.fst).Nodup

/-- The part of a tree that stands below a name. -/
def At (tree : Tree) (path : List String) (part : Tree) : Prop :=
  ∀ sub value, (path ++ sub, value) ∈ tree ↔ (sub, value) ∈ part

section Record

variable {fields : List (String × Tree)} {tree part : Tree} {name value : String}
  {path sub : List String}

theorem mem_record_iff : (path, value) ∈ record fields ↔
    ∃ name part sub, (name, part) ∈ fields ∧ path = name :: sub ∧ (sub, value) ∈ part := by
  unfold record
  constructor
  · intro h
    obtain ⟨⟨name, part⟩, hfield, he⟩ := List.mem_flatMap.mp h
    obtain ⟨⟨sub, value'⟩, he', heq⟩ := List.mem_map.mp he
    cases heq
    exact ⟨name, part, sub, hfield, rfl, he'⟩
  · rintro ⟨name, part, sub, hfield, rfl, he⟩
    exact List.mem_flatMap.mpr ⟨(name, part), hfield, List.mem_map.mpr ⟨(sub, value), he, rfl⟩⟩

/-- Fields of different names do not get in each other's way. -/
theorem mem_record_cons_iff (hnames : FieldNames (fields.map Prod.fst)) (hfield : (name, part) ∈ fields) :
    (name :: sub, value) ∈ record fields ↔ (sub, value) ∈ part := by
  rw [mem_record_iff]
  constructor
  · rintro ⟨name', part', sub', hfield', heq, he⟩
    cases heq
    have hsame := List.inj_on_of_nodup_map hnames.1 hfield hfield' rfl
    cases hsame
    exact he
  · exact fun he => ⟨name, part, sub, hfield, rfl, he⟩

theorem At.root (tree : Tree) : tree.At [] tree := fun _ _ => Iff.rfl

/-- Below a record stands, below each field's name, the field. -/
theorem At.field (h : tree.At path (record fields)) (hnames : FieldNames (fields.map Prod.fst))
    (hfield : (name, part) ∈ fields) : tree.At (path ++ [name]) part := by
  intro sub value
  rw [List.append_assoc, h]
  exact mem_record_cons_iff hnames hfield

theorem sound_leaf (value : String) : Sound (leaf value) := by
  constructor
  · intro e he s hs
    rw [List.mem_singleton.mp he] at hs
    cases hs
  · exact List.nodup_singleton _

theorem sound_leaf? (value? : Option String) : Sound (leaf? value?) := by
  cases value? with
  | none =>
      constructor
      · exact List.forall_mem_nil _
      · exact List.nodup_nil
  | some value => exact sound_leaf value

/-- A record is sound if its fields are. -/
theorem sound_record (hnames : FieldNames (fields.map Prod.fst))
    (hsound : ∀ field ∈ fields, Sound field.2) : Sound (record fields) := by
  obtain ⟨hnodup, hdotless⟩ := hnames
  constructor
  · rintro ⟨path, value⟩ he s hs
    obtain ⟨name, part, sub, hfield, rfl, he'⟩ := mem_record_iff.mp he
    rcases List.mem_cons.mp hs with rfl | hs
    · exact hdotless _ (List.mem_map_of_mem hfield)
    · exact (hsound _ hfield).dotless _ he' s hs
  · induction fields with
    | nil => exact List.nodup_nil
    | cons field rest ih =>
        obtain ⟨hfirst, hrest⟩ := List.nodup_cons.mp hnodup
        have hih := ih (fun f hf => hsound f (List.mem_cons_of_mem _ hf)) hrest
          fun name hname => hdotless name (List.mem_cons_of_mem _ hname)
        have hfield : (field.2.map fun e => field.1 :: e.1).Nodup := by
          have hpaths := (hsound field List.mem_cons_self).nodup.map
            (f := fun sub => field.1 :: sub) fun _ _ heq => (List.cons.inj heq).2
          rwa [List.map_map] at hpaths
        show ((field.2.map fun e => (field.1 :: e.1, e.2)) ++ record rest |>.map Prod.fst).Nodup
        rw [List.map_append, List.map_map, List.nodup_append]
        refine ⟨hfield, hih, ?_⟩
        -- what stands below the first name does not stand below one of the others
        rintro _ hleft _ hright rfl
        obtain ⟨e, -, rfl⟩ := List.mem_map.mp hleft
        obtain ⟨⟨path, value⟩, he, heq⟩ := List.mem_map.mp hright
        obtain ⟨name, part, sub, hfield', hpath, -⟩ := mem_record_iff.mp he
        rw [hpath] at heq
        have hname : name = field.1 := (List.cons.inj heq).1
        subst hname
        exact hfirst (List.mem_map.mpr ⟨(field.1, part), hfield', rfl⟩)

theorem ne_nil_of_mem_record {e : List String × String} (h : e ∈ record fields) : e.1 ≠ [] := by
  obtain ⟨path, value⟩ := e
  obtain ⟨name, part, sub, -, rfl, -⟩ := mem_record_iff.mp h
  exact List.cons_ne_nil _ _

end Record

end Tree

/-! ## Lists -/

section Index

variable {path : List String}

/-- **What stands below a name.** The names that begin with it and a dot. -/
theorem prefix_iff {names : List String} (hpath : IsName path) (hnames : IsName names) :
    (joined path).toList ++ ['.'] <+: (joined names).toList ↔
      ∃ segment more, names = path ++ segment :: more := by
  constructor
  · rintro ⟨rest, hrest⟩
    rw [List.append_assoc] at hrest
    have hsplit : names.map String.toList = path.map String.toList ++ rest.splitOn '.' := by
      rw [← splitOn_joined hnames, ← hrest, List.singleton_append, splitOn_append_cons,
        splitOn_joined hpath]
    obtain ⟨front, back, rfl, hfront, hback⟩ := List.map_eq_append_iff.mp hsplit
    obtain rfl := eq_of_map_toList hfront
    cases back with
    | nil => exact absurd hback.symm (List.splitOnP_ne_nil _ rest)
    | cons segment more => exact ⟨segment, more, rfl⟩
  · rintro ⟨segment, more, rfl⟩
    rw [joined_append hpath.ne_nil, String.toList_append, String.toList_append]
    exact List.prefix_append _ _

/-- The index of a name below a list's name is its next segment, whatever that begins with. -/
theorem index?_joined {segment : String} {more : List String} (hpath : path ≠ [])
    (hdotless : Dotless segment) :
    index? (joined path) (joined (path ++ segment :: more)) = Integer.unsigned? 32 segment := by
  have hname : (joined (path ++ segment :: more)).toList =
      ((joined path).toList ++ ['.']) ++ (joined (segment :: more)).toList := by
    rw [joined_append hpath, String.toList_append, String.toList_append]
    rfl
  have hsegment : (joined (segment :: more)).toList.takeWhile (· != '.') = segment.toList := by
    rw [toList_joined_cons, List.takeWhile_append_of_pos (Separator.bne_of_notMem hdotless)]
    cases more with
    | nil => simp
    | cons next more => simp
  unfold index?
  simp only [hname, List.isPrefixOf_iff_prefix, List.prefix_append, if_true, List.drop_left,
    hsegment, String.ofList_toList]

theorem index?_eq_none {list name : String} (h : ¬ list.toList ++ ['.'] <+: name.toList) :
    index? list name = none := by
  unfold index?
  simp only [List.isPrefixOf_iff_prefix, if_neg h]

theorem mem_indices_iff {p : Params} {list : String} {n : Nat} : n ∈ p.indices list ↔
    ∃ name value, p.get? name = some value ∧ index? list name = some n := by
  unfold indices
  rw [Dict.mem_keys_ofList_iff, List.map_map, List.mem_map]
  constructor
  · rintro ⟨n', hn', rfl⟩
    obtain ⟨name, hname, hindex⟩ := List.mem_filterMap.mp hn'
    obtain ⟨value, hvalue⟩ := Dict.mem_keys_iff.mp hname
    exact ⟨name, value, hvalue, hindex⟩
  · rintro ⟨name, value, hvalue, hindex⟩
    exact ⟨n, List.mem_filterMap.mpr ⟨name, Dict.mem_keys_iff.mpr ⟨value, hvalue⟩, hindex⟩, rfl⟩

theorem pairwise_indices (p : Params) (list : String) : (p.indices list).Pairwise (· < ·) := by
  unfold indices Dict.keys
  rw [List.pairwise_map]
  refine (Dict.ascending _).imp ?_
  intro a b h
  exact Nat.compare_eq_lt.mp h

/-- Ascending numbers are known by which of them there are. -/
theorem eq_of_pairwise_lt {l l' : List Nat} (h : l.Pairwise (· < ·)) (h' : l'.Pairwise (· < ·))
    (hmem : ∀ n, n ∈ l ↔ n ∈ l') : l = l' := by
  have hperm : l.Perm l' :=
    (List.perm_ext_iff_of_nodup (h.imp Nat.ne_of_lt) (h'.imp Nat.ne_of_lt)).mpr hmem
  exact hperm.eq_of_pairwise (fun _ _ _ _ hlt hgt => absurd hlt (Nat.lt_asymm hgt)) h h'

end Index

/-! ## Parameters of a tree -/

/-- **Holding.** The parameters are those of the tree, whose names are names. -/
structure Holds (p : Params) (tree : Tree) : Prop where
  get? : ∀ name value, p.get? name = some value ↔ ∃ path, (path, value) ∈ tree ∧ joined path = name
  isName : ∀ e ∈ tree, IsName e.1

/-- Below a name stands just the given part of the parameters. -/
def Has (p : Params) (path : List String) (part : Tree) : Prop :=
  ∃ tree, p.Holds tree ∧ (∀ s ∈ path, Dotless s) ∧ tree.At path part

/-- Parameters that are given in any order are those of their tree. -/
theorem has_of_perm {fields : List (String × Tree)} {pairs : List (String × String)}
    (hsound : (Tree.record fields).Sound) (hperm : pairs.Perm (Tree.record fields).parameters)
    (path : String) : Has { values := Dict.ofList pairs, path } [] (Tree.record fields) := by
  have hisName : ∀ e ∈ Tree.record fields, IsName e.1 := fun e he =>
    ⟨Tree.ne_nil_of_mem_record he, hsound.dotless e he⟩
  -- different names are written differently, so that no pair replaces another one, in whatever order
  have hkeys : (pairs.map Prod.fst).Nodup := by
    rw [(hperm.map Prod.fst).nodup_iff, Tree.parameters, List.map_map]
    have hnames : (((Tree.record fields).map Prod.fst).map joined).Nodup := by
      apply List.Nodup.map_on _ hsound.nodup
      intro segments hsegments segments' hsegments' heq
      obtain ⟨e, he, rfl⟩ := List.mem_map.mp hsegments
      obtain ⟨e', he', rfl⟩ := List.mem_map.mp hsegments'
      exact joined_inj (hisName e he) (hisName e' he') heq
    rwa [List.map_map] at hnames
  refine ⟨Tree.record fields, ⟨?_, hisName⟩, fun _ hs => (nomatch hs), .root _⟩
  intro name value
  have hentries : (name, value) ∈ (Dict.ofList pairs).entries ↔ (name, value) ∈ pairs :=
    (Dict.entries_ofList_perm hkeys).mem_iff
  show (Dict.ofList pairs).find? name = some value ↔ _
  rw [← Dict.mem_entries_iff, hentries, hperm.mem_iff, Tree.parameters, List.mem_map]
  constructor
  · rintro ⟨⟨segments, value'⟩, he, heq⟩
    cases heq
    exact ⟨segments, he, rfl⟩
  · rintro ⟨segments, he, rfl⟩
    exact ⟨(segments, value), he, rfl⟩

namespace Has

variable {p : Params} {part : Tree} {path : List String}

theorem isName (h : p.Has path part) (hpath : path ≠ []) : IsName path := by
  obtain ⟨tree, -, hdotless, -⟩ := h
  exact ⟨hpath, hdotless⟩

/-- Below a record stands, below each field's name, the field. -/
theorem field {fields : List (String × Tree)} {name : String} (h : p.Has path (.record fields))
    (hnames : Tree.FieldNames (fields.map Prod.fst)) (hfield : (name, part) ∈ fields) :
    p.Has (path ++ [name]) part := by
  obtain ⟨tree, hholds, hdotless, hat⟩ := h
  refine ⟨tree, hholds, ?_, hat.field hnames hfield⟩
  intro s hs
  rcases List.mem_append.mp hs with hs | hs
  · exact hdotless s hs
  · rw [List.mem_singleton.mp hs]
    exact hnames.2 name (List.mem_map_of_mem hfield)

/-- What stands below a name, read by its whole name. -/
theorem get?_joined (h : p.Has path part) {sub : List String} (hsub : IsName (path ++ sub))
    {value : String} : p.get? (joined (path ++ sub)) = some value ↔ (sub, value) ∈ part := by
  obtain ⟨tree, hholds, -, hat⟩ := h
  rw [hholds.get?, ← hat]
  constructor
  · rintro ⟨path', he, heq⟩
    rwa [joined_inj hsub (hholds.isName _ he) heq.symm]
  · exact fun he => ⟨_, he, rfl⟩

/-- A name under which at most one value stands has just that. -/
theorem get?_eq {value? : Option String} (h : p.Has path (.leaf? value?)) (hpath : path ≠ []) :
    p.get? (joined path) = value? := by
  have hname : IsName (path ++ []) := by
    rw [List.append_nil]
    exact h.isName hpath
  apply Option.ext
  intro value
  have hget : p.get? (joined (path ++ [])) = some value ↔ ([], value) ∈ Tree.leaf? value? :=
    h.get?_joined hname
  rw [List.append_nil] at hget
  rw [hget]
  cases value? with
  | none => simp [Tree.leaf?]
  | some value' => simp [Tree.leaf?, eq_comm]

theorem getText_eq {value : String} (h : p.Has path (.leaf value)) (hpath : path ≠ []) :
    p.getText (joined path) = value := by
  have hget : p.get? (joined path) = some value := get?_eq h hpath
  rw [getText, hget, Option.getD_some]

/-- The indices of a list are read off the segments that stand below it. -/
theorem mem_indices_iff (h : p.Has path part) (hpath : path ≠ []) {n : Nat} :
    n ∈ p.indices (joined path) ↔ ∃ segment more value,
      (segment :: more, value) ∈ part ∧ Integer.unsigned? 32 segment = some n := by
  have hname := h.isName hpath
  obtain ⟨tree, hholds, -, hat⟩ := h
  rw [Params.mem_indices_iff]
  constructor
  · rintro ⟨name, value, hvalue, hindex⟩
    obtain ⟨names, he, rfl⟩ := (hholds.get? name value).mp hvalue
    have hnames := hholds.isName _ he
    -- only names behind the list and a dot have a number in the list
    by_cases hbelow : (joined path).toList ++ ['.'] <+: (joined names).toList
    · obtain ⟨segment, more, rfl⟩ := (prefix_iff hname hnames).mp hbelow
      rw [index?_joined hpath (hnames.dotless segment (by simp))] at hindex
      exact ⟨segment, more, value, (hat _ _).mp he, hindex⟩
    · rw [index?_eq_none hbelow] at hindex
      cases hindex
  · rintro ⟨segment, more, value, hpart, hindex⟩
    have he := (hat _ _).mpr hpart
    have hsegment := (hholds.isName _ he).dotless segment (by simp)
    refine ⟨joined (path ++ segment :: more), value, (hholds.get? _ _).mpr ⟨_, he, rfl⟩, ?_⟩
    rw [index?_joined hpath hsegment, hindex]

theorem hasBelow_iff (h : p.Has path part) (hpath : path ≠ []) :
    p.hasBelow (joined path ++ ".") = true ↔
      ∃ segment more value, (segment :: more, value) ∈ part := by
  have hname := h.isName hpath
  obtain ⟨tree, hholds, -, hat⟩ := h
  unfold hasBelow
  rw [List.any_eq_true]
  simp only [List.isPrefixOf_iff_prefix, String.toList_append]
  constructor
  · rintro ⟨name, hmem, hbelow⟩
    obtain ⟨value, hvalue⟩ := Dict.mem_keys_iff.mp hmem
    obtain ⟨names, he, rfl⟩ := (hholds.get? name value).mp hvalue
    obtain ⟨segment, more, rfl⟩ := (prefix_iff hname (hholds.isName _ he)).mp hbelow
    exact ⟨segment, more, value, (hat _ _).mp he⟩
  · rintro ⟨segment, more, value, hpart⟩
    have he := (hat _ _).mpr hpart
    refine ⟨_, Dict.mem_keys_iff.mpr ⟨value, (hholds.get? _ _).mpr ⟨_, he, rfl⟩⟩, ?_⟩
    exact (prefix_iff hname (hholds.isName _ he)).mpr ⟨segment, more, rfl⟩

end Has

end QueueService.Params
