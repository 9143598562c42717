import SchemaJournal.Proofs.Files.Growth

/-!
# Where directories are made

Whatever is in a tree, a path can lead to one place only: the one that its names say (`aim`, `eq_aim_of_locate`). So
what is made on the way to a directory stands where its path or one of the paths above it aims
(`lookup?_of_createDirectories`). If the path has no `..`, these places are the directory and those above it
(`aim_ancestor_suffix`), nothing is made in the directory (`aim_ancestor_ne`), and where the directory was there before,
the path led to it (`walk_of_lookup?`).
-/

namespace SchemaJournal

namespace Path

variable {names : List String} {name : String} {absolute : Bool} {p q : Path}

/-! ## Paths of names -/

/-- Whether these can be the names of a path. -/
def AreNames (names : List String) : Prop := ∀ name ∈ names, name.toList ≠ [] ∧ '/' ∉ name.toList

theorem areNames_names (p : Path) : AreNames p.names := fun _ hmem =>
  ⟨ne_nil_of_mem_names hmem, not_mem_of_mem_names hmem⟩

theorem AreNames.splitSlashes (h : AreNames (name :: names)) :
    splitSlashes ("/".intercalate (name :: names)).toList = (name :: names).map String.toList := by
  induction names generalizing name with
  | nil => simpa using splitSlashes_of_not_mem (h name List.mem_cons_self).2
  | cons second names ih =>
    have hrest : AreNames (second :: names) := fun n hn => h n (List.mem_cons_of_mem _ hn)
    have htext : ("/".intercalate (name :: second :: names)).toList =
        name.toList ++ '/' :: ("/".intercalate (second :: names)).toList := by
      rw [String.intercalate_cons_cons]
      simp
    rw [htext, splitSlashes_append, splitSlashes_of_not_mem (h name List.mem_cons_self).2, ih hrest]
    rfl

/-- A path that is made of names has these names. -/
theorem AreNames.names_ofNames (h : AreNames names) (absolute : Bool) : (ofNames absolute names).names = names := by
  have hrelative : (ofNames false names).names = names := by
    cases names with
    | nil => rfl
    | cons name names =>
      have htext : (ofNames false (name :: names)).text = "/".intercalate (name :: names) := String.empty_append
      have hfilter : ((name :: names).map String.toList).filter (!·.isEmpty) = (name :: names).map String.toList := by
        refine List.filter_eq_self.mpr fun part hpart => ?_
        obtain ⟨n, hn, rfl⟩ := List.mem_map.mp hpart
        simpa using (h n hn).1
      rw [Path.names, htext, h.splitSlashes, hfilter, List.map_map]
      simp
  cases absolute with
  | false => exact hrelative
  | true =>
    have hnames : (ofNames true names).names = Path.names ⟨""⟩ ++ (ofNames false names).names :=
      names_split (by simp [ofNames])
    rw [hnames, hrelative]
    rfl

theorem AreNames.isAbsolute_ofNames (h : AreNames names) (absolute : Bool) :
    (ofNames absolute names).isAbsolute = absolute := by
  cases absolute with
  | true => simp [isAbsolute, ofNames]
  | false =>
    refine Bool.eq_false_iff.mpr fun hhead => ?_
    cases names with
    | nil => cases hhead
    | cons name names =>
      obtain ⟨hne, hslash⟩ := h name List.mem_cons_self
      obtain ⟨c, rest, hname⟩ := List.exists_cons_of_ne_nil hne
      have hfirst : (ofNames false (name :: names)).text.toList.head? = some c := by
        cases names with
        | nil => simp [ofNames, hname]
        | cons second names =>
          rw [ofNames, String.intercalate_cons_cons]
          simp [hname]
      rw [isAbsolute, hfirst] at hhead
      obtain rfl : c = '/' := Option.some.inj (beq_iff_eq.mp hhead)
      exact hslash (hname ▸ List.mem_cons_self)

/-- The paths above some names are those of their beginnings. -/
theorem mem_upwards (h : q ∈ upwards absolute names) :
    ∃ above, above <:+ names ∧ q = ofNames absolute above.reverse := by
  induction names with
  | nil => cases h
  | cons name names ih =>
    rcases List.mem_cons.mp h with rfl | h
    · exact ⟨name :: names, List.suffix_refl _, rfl⟩
    · obtain ⟨above, hsuffix, rfl⟩ := ih h
      exact ⟨above, hsuffix.trans (List.suffix_cons name names), rfl⟩

/-- A path among those above another one starts where it does, and its names are the first ones that lead somewhere. -/
theorem names_of_mem_ancestors (h : q ∈ p.ancestors) :
    q.isAbsolute = p.isAbsolute ∧ (q = p ∨ q.names <+: p.components) := by
  unfold ancestors at h
  split at h
  · cases h
  rcases List.mem_cons.mp h with rfl | h
  · exact ⟨rfl, .inl rfl⟩
  · obtain ⟨above, hsuffix, rfl⟩ := mem_upwards h
    have hbegins : above.reverse <+: p.components :=
      (List.reverse_prefix.mpr hsuffix).trans (by simpa using List.dropLast_prefix p.components)
    have hnames : AreNames above.reverse := fun name hmem =>
      areNames_names p name (List.mem_of_mem_filter (hbegins.mem hmem))
    rw [hnames.names_ofNames]
    exact ⟨hnames.isAbsolute_ofNames p.isAbsolute, .inr hbegins⟩

end Path

namespace FileTree

variable {t t' : FileTree} {p q directory : Path} {name : String} {names : List String} {here l parent : Location}
  {e : Entry}

/-! ## Where a path aims -/

/-- Where a path leads, if anything stands there and on the way. -/
def aim (t : FileTree) (p : Path) : Location := p.names.foldl onward (t.start p)

theorem eq_onward_of_step (h : t.step here name = .ok l) : l = onward here name := by
  unfold onward
  split
  next hdot =>
    rw [step, if_pos hdot] at h
    exact (Except.ok.inj h).symm
  next hdot =>
    split
    next hdots =>
      rw [step, if_neg hdot, if_pos hdots] at h
      exact (Except.ok.inj h).symm
    next hdots => exact (step_ok hdot hdots h).1

theorem eq_foldl_of_walk (h : t.walk here names = .ok l) : l = names.foldl onward here := by
  induction names generalizing here with
  | nil => exact (Except.ok.inj h).symm
  | cons name names ih =>
    rw [walk_cons] at h
    obtain ⟨next, hstep, hrest⟩ := bind_eq_ok h
    rw [List.foldl_cons, ← eq_onward_of_step hstep]
    exact ih hrest

/-- A path that leads to a name in a directory aims there. -/
theorem aim_of_named (h : t.destination p = .ok (.named parent name)) : t.aim p = name :: parent := by
  obtain ⟨above, hn, hwalk, hdot, hdots⟩ := walk_of_named (reach_of_destination h)
  rw [aim, hn, List.foldl_append, ← eq_foldl_of_walk hwalk, List.foldl_cons, List.foldl_nil, onward, if_neg hdot,
    if_neg hdots]

/-- A path leads to where it aims. -/
theorem eq_aim_of_locate (h : t.locate p = .ok (l, e)) : l = t.aim p := by
  rcases locate_ok h with ⟨-, rfl⟩ | ⟨parent, name, hd, rfl, -⟩
  · exact eq_foldl_of_walk (walk_of_locate h)
  · exact (aim_of_named hd).symm

/-- Where a path aims depends on the working directory only. -/
theorem aim_congr (h : t'.workingDirectory = t.workingDirectory) (p : Path) : t'.aim p = t.aim p := by
  rw [aim, aim, start, start, h]

/-- A name below a directory aims into it. -/
theorem aim_join (t : FileTree) (directory : Path) (hname : Path.IsName name) :
    t.aim (directory.join name) = name :: t.aim directory := by
  have hstart : t.start (directory.join name) = t.start directory := by
    rw [start, start, Path.isAbsolute_join directory hname]
  rw [aim, Path.names_join directory hname, List.foldl_append, hstart, List.foldl_cons, List.foldl_nil, onward,
    if_neg hname.dot, if_neg hname.dots]
  rfl

/-- What the path of a name below a directory leads to is what stands where it aims. -/
theorem lookup?_of_locate_join (hname : Path.IsName name) (h : t.locate (directory.join name) = .ok (l, e)) :
    l = name :: t.aim directory ∧ t.lookup? l = some e := by
  refine ⟨(eq_aim_of_locate h).trans (aim_join t directory hname), ?_⟩
  rcases locate_ok h with ⟨hd, -⟩ | ⟨parent, name', -, rfl, hf⟩
  · have hreach := reach_of_destination hd
    rw [reach_of_snoc (Path.names_join directory hname)] at hreach
    obtain ⟨here, -, hlast⟩ := bind_eq_ok hreach
    rw [if_neg (by simp [hname.dot, hname.dots])] at hlast
    cases hlast
  · exact (find_ok hf).2

/-- Names that stay in place do not matter. -/
theorem foldl_onward_filter (here : Location) (names : List String) :
    (names.filter (· != ".")).foldl onward here = names.foldl onward here := by
  induction names generalizing here with
  | nil => rfl
  | cons name names ih =>
    by_cases hdot : name = "."
    · rw [List.filter_cons_of_neg (by simp [hdot]), List.foldl_cons, onward, if_pos hdot]
      exact ih here
    · rw [List.filter_cons_of_pos (by simp [hdot]), List.foldl_cons, List.foldl_cons]
      exact ih _

theorem suffix_foldl_onward (hdots : ".." ∉ names) (here : Location) : here <:+ names.foldl onward here := by
  induction names generalizing here with
  | nil => exact List.suffix_refl _
  | cons name names ih =>
    obtain ⟨hname, hnames⟩ := not_or.mp (List.mem_cons.not.mp hdots)
    refine List.IsSuffix.trans ?_ (ih hnames _)
    unfold onward
    rw [if_neg (Ne.symm hname)]
    split
    · exact List.suffix_refl _
    · exact List.suffix_cons name here

/-- Names that do not lead upwards lead to the same place in every well-formed tree that has this directory. -/
theorem walk_of_lookup? (ht : t.WellFormed) {names : List String} (hdots : ".." ∉ names)
    (hl : t.lookup? l = some .directory) (h : t'.walk here names = .ok l) : t.walk here names = .ok l := by
  induction names generalizing here with
  | nil => exact h
  | cons name names ih =>
    obtain ⟨hname, hnames⟩ := not_or.mp (List.mem_cons.not.mp hdots)
    rw [walk_cons] at h ⊢
    obtain ⟨next, hstep, hrest⟩ := bind_eq_ok h
    -- What is above a directory that is there is there, too.
    have hbelow : next <:+ l := eq_foldl_of_walk hrest ▸ suffix_foldl_onward hnames next
    have hnext : t.lookup? next = some .directory := ht.above hl hbelow
    have hstep' : t.step here name = .ok next := by
      by_cases hdot : name = "."
      · rwa [FileTree.step, if_pos hdot] at hstep ⊢
      · obtain ⟨rfl, hf⟩ := step_ok hdot (Ne.symm hname) hstep
        exact step_directory hdot (Ne.symm hname) (by rw [find, if_neg (find_ok hf).1, hnext])
    rw [hstep']
    exact ih hnames hrest

/-- If a path does not lead upwards, the paths above it aim at what is above the place where it aims. -/
theorem aim_ancestor_suffix (hdots : ".." ∉ p.names) (h : q ∈ p.ancestors) : t.aim q <:+ t.aim p := by
  obtain ⟨habsolute, rfl | ⟨rest, hrest⟩⟩ := Path.names_of_mem_ancestors h
  · exact List.suffix_refl _
  · have hstart : t.start q = t.start p := by rw [start, start, habsolute]
    have haim : t.aim p = rest.foldl onward (t.aim q) := by
      rw [aim, aim, hstart, ← foldl_onward_filter _ p.names, ← List.foldl_append, hrest]
      rfl
    have hmem : ∀ name ∈ rest, name ∈ p.names := fun name hname =>
      List.mem_of_mem_filter (hrest ▸ List.mem_append_right q.names hname)
    rw [haim]
    exact suffix_foldl_onward (fun hmem' => hdots (hmem _ hmem')) _

/-- If a path does not lead upwards, no path above it aims into its directory. -/
theorem aim_ancestor_ne (hdots : ".." ∉ p.names) (h : q ∈ p.ancestors) : name :: t.aim p ≠ t.aim q := by
  intro haim
  have hlength := (aim_ancestor_suffix (t := t) hdots h).length_le
  rw [← haim, List.length_cons] at hlength
  omega

/-! ## Made directories -/

theorem lookup?_of_createDirectory (h : t.createDirectory p = .ok t') (hl : t'.lookup? l = some e) :
    t.lookup? l = some e ∨ e = .directory ∧ l = t.aim p := by
  obtain ⟨parent, name, hd, -, rfl⟩ := createDirectory_ok h
  rw [lookup?_put t (List.cons_ne_nil _ _)] at hl
  split at hl
  next heq =>
    cases hl
    exact .inr ⟨rfl, heq.trans (aim_of_named hd).symm⟩
  · exact .inl hl

/-- What is made stands where one of the paths aims. -/
theorem lookup?_of_createAll {paths : List Path} (hl : (t.createAll paths).2.lookup? l = some e) :
    t.lookup? l = some e ∨ e = .directory ∧ ∃ q ∈ paths, l = t.aim q := by
  induction paths with
  | nil => exact .inl hl
  | cons p above ih =>
    have hfirst : ∀ {made}, t.createDirectory p = .ok made → made.lookup? l = some e →
        t.lookup? l = some e ∨ e = .directory ∧ ∃ q ∈ p :: above, l = t.aim q := fun hp hl =>
      (lookup?_of_createDirectory hp hl).imp_right fun ⟨he, haim⟩ => ⟨he, p, List.mem_cons_self, haim⟩
    have habove : (t.createAll above).2.lookup? l = some e →
        t.lookup? l = some e ∨ e = .directory ∧ ∃ q ∈ p :: above, l = t.aim q := fun hl =>
      (ih hl).imp_right fun ⟨he, q, hq, haim⟩ => ⟨he, q, List.mem_cons_of_mem p hq, haim⟩
    unfold createAll at hl
    dsimp only at hl
    split at hl
    next made hp => exact hfirst hp hl
    next hp =>
      have hworking := (createAll_prepares t above).workingDirectory_eq
      split at hl
      next error made heq =>
        rw [heq] at habove
        exact habove hl
      next made heq =>
        rw [heq] at habove hworking
        split at hl
        next made' hp' =>
          rcases lookup?_of_createDirectory hp' hl with hmade | ⟨rfl, rfl⟩
          · exact habove hmade
          · exact .inr ⟨rfl, p, List.mem_cons_self, aim_congr hworking p⟩
        · exact habove hl
    · exact .inl hl

/-- What is made with a directory stands where its path or a path above it aims. -/
theorem lookup?_of_createDirectories {result : Except FileError Unit} (h : createDirectories p t = (result, t'))
    (hl : t'.lookup? l = some e) : t.lookup? l = some e ∨ e = .directory ∧ ∃ q ∈ p.ancestors, l = t.aim q := by
  unfold createDirectories at h
  refine lookup?_of_createAll ?_
  rwa [h]

end FileTree

end SchemaJournal
