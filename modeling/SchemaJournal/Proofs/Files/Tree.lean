import SchemaJournal.Files.Tree
import SchemaJournal.Proofs.Files.Path

/-!
# What paths lead to

A path leads from name to name (`walk_of_locate`, `locate_of_walk`), so what is below a directory is among the names
that are listed (`mem_list_of_isFile`). Where more is in the tree, it leads to the same place (`destination_mono`). A
file that was created or written is read back (`readText_create`, `readText_write`).
-/

namespace SchemaJournal.FileTree

variable {t : FileTree} {p directory : Path} {name : String} {here l l' : Location} {content : ByteArray}

/-! ## Following a path -/

/-- The directory at which a path starts. -/
def start (t : FileTree) (p : Path) : Location := if p.isAbsolute then [] else t.workingDirectory

theorem walk_nil (t : FileTree) (here : Location) : t.walk here [] = .ok here := rfl

theorem walk_cons (t : FileTree) (here : Location) (name : String) (names : List String) :
    t.walk here (name :: names) = (t.step here name).bind fun l => t.walk l names := rfl

theorem walk_snoc (t : FileTree) (here : Location) (names : List String) (name : String) :
    t.walk here (names ++ [name]) = (t.walk here names).bind fun l => t.step l name := by
  induction names generalizing here with
  | nil =>
    rw [List.nil_append, walk_cons, walk_nil]
    cases h : t.step here name with
    | error e => exact h.symm
    | ok l => exact h.symm
  | cons first names ih =>
    rw [List.cons_append, walk_cons, walk_cons]
    cases t.step here first with
    | error e => rfl
    | ok l => exact ih l

/-- Where the names of a path lead; no more is needed to follow it. -/
def reach (t : FileTree) (p : Path) : Except FileError Destination :=
  match p.names.getLast? with
  | none => .ok (.directory (t.start p))
  | some last => (t.walk (t.start p) p.names.dropLast).bind fun here =>
    if last = "." ∨ last = ".." then (t.step here last).map .directory else .ok (.named here last)

/-- Whether a system follows a path at all. -/
structure Usable (p : Path) : Prop where
  null : '\x00' ∉ p.text.toList
  length : p.text.utf8ByteSize ≤ longestPath
  nonempty : p.text ≠ ""

theorem destination_of_usable (h : Usable p) (t : FileTree) : t.destination p = t.reach p := by
  unfold destination reach
  rw [if_neg (by simpa using h.null), if_neg (Nat.not_lt.mpr h.length), if_neg (by simpa using h.nonempty)]
  cases p.names.getLast? with
  | none => rfl
  | some last =>
    simp only [start, bind, Except.bind]
    cases t.walk (if p.isAbsolute then [] else t.workingDirectory) p.names.dropLast with
    | error e => rfl
    | ok here =>
      by_cases hdots : last = "." ∨ last = ".."
      · simp only [hdots, if_true]
        cases t.step here last with
        | error e => rfl
        | ok l => rfl
      · simp only [hdots, if_false]
        rfl

/-- A path is usable, or following it fails. -/
theorem destination_cases (p : Path) : (∃ e, ∀ t : FileTree, t.destination p = .error e) ∨ Usable p := by
  by_cases hnull : p.text.toList.contains '\x00' = true
  · refine .inl ⟨.nullCharacter, fun t => ?_⟩
    unfold destination
    rw [if_pos hnull]
    rfl
  by_cases hlong : longestPath < p.text.utf8ByteSize
  · refine .inl ⟨.nameTooLong, fun t => ?_⟩
    unfold destination
    rw [if_neg hnull, if_pos hlong]
    rfl
  by_cases hempty : p.text.isEmpty = true
  · refine .inl ⟨.notFound, fun t => ?_⟩
    unfold destination
    rw [if_neg hnull, if_neg hlong, if_pos hempty]
    rfl
  exact .inr ⟨by simpa using hnull, Nat.not_lt.mp hlong, by simpa using hempty⟩

theorem usable_of_destination {d : Destination} (h : t.destination p = .ok d) : Usable p := by
  refine (destination_cases p).resolve_left fun ⟨e, he⟩ => ?_
  cases (he t).symm.trans h

theorem reach_of_destination {d : Destination} (h : t.destination p = .ok d) : t.reach p = .ok d :=
  (destination_of_usable (usable_of_destination h) t).symm.trans h

theorem reach_of_nil (hn : p.names = []) : t.reach p = .ok (.directory (t.start p)) := by
  rw [reach, hn]
  rfl

theorem reach_of_snoc {above : List String} (hn : p.names = above ++ [name]) :
    t.reach p = (t.walk (t.start p) above).bind fun here =>
      if name = "." ∨ name = ".." then (t.step here name).map .directory else .ok (.named here name) := by
  rw [reach, hn, List.getLast?_concat, List.dropLast_concat]

theorem bind_eq_ok {ε α β : Type} {x : Except ε α} {f : α → Except ε β} {b : β} (h : x.bind f = .ok b) :
    ∃ a, x = .ok a ∧ f a = .ok b := by
  cases x with
  | error e => cases h
  | ok a => exact ⟨a, rfl, h⟩

/-- A path that leads to a name leads through the directory that this name is in. -/
theorem walk_of_named (h : t.reach p = .ok (.named here name)) : ∃ above, p.names = above ++ [name] ∧
    t.walk (t.start p) above = .ok here ∧ name ≠ "." ∧ name ≠ ".." := by
  rcases List.eq_nil_or_concat p.names with hn | ⟨above, last, hn⟩
  · cases (reach_of_nil hn).symm.trans h
  · rw [List.concat_eq_append] at hn
    obtain ⟨here', hwalk, hlast⟩ := bind_eq_ok ((reach_of_snoc hn).symm.trans h)
    split at hlast
    · cases hstep : t.step here' last with
      | error e => rw [hstep] at hlast; cases hlast
      | ok l => rw [hstep] at hlast; cases hlast
    next hdots =>
      cases hlast
      exact ⟨above, hn, hwalk, fun e => hdots (.inl e), fun e => hdots (.inr e)⟩

theorem locate_ok {e : Entry} (h : t.locate p = .ok (l, e)) : (t.destination p = .ok (.directory l) ∧ e = .directory) ∨
    ∃ parent name, t.destination p = .ok (.named parent name) ∧ l = name :: parent ∧
      t.find parent name = .ok (some e) := by
  unfold locate at h
  cases hd : t.destination p with
  | error e =>
    rw [hd] at h
    cases h
  | ok d =>
    rw [hd] at h
    cases d with
    | directory l' =>
      cases h
      exact .inl ⟨rfl, rfl⟩
    | named parent name =>
      refine .inr ⟨parent, name, rfl, ?_⟩
      simp only [bind, Except.bind] at h
      cases hf : t.find parent name with
      | error e =>
        rw [hf] at h
        cases h
      | ok found =>
        rw [hf] at h
        match found, h with
        | some .directory, h =>
          cases h
          exact ⟨rfl, rfl⟩
        | some (.file content), h =>
          replace h : (if p.endsInSlash then throw .notDirectory else return (name :: parent, Entry.file content)) =
            (.ok (l, e) : Except FileError (Location × Entry)) := h
          split at h
          · cases h
          · cases h
            exact ⟨rfl, rfl⟩

theorem exists_destination {e : Entry} (h : t.locate p = .ok (l, e)) : ∃ d, t.destination p = .ok d := by
  rcases locate_ok h with ⟨hd, -⟩ | ⟨parent, name, hd, -⟩
  · exact ⟨_, hd⟩
  · exact ⟨_, hd⟩

theorem find_ok {e : Option Entry} (h : t.find here name = .ok e) :
    ¬longestName < name.utf8ByteSize ∧ t.lookup? (name :: here) = e := by
  unfold find at h
  split at h
  · cases h
  next hlong => exact ⟨hlong, Except.ok.inj h⟩

theorem locate_of_named {e : Entry} (hd : t.destination p = .ok (.named here name))
    (hf : t.find here name = .ok (some e)) (hslash : p.endsInSlash = false ∨ e = .directory) :
    t.locate p = .ok (name :: here, e) := by
  unfold locate
  simp only [hd, hf, bind, Except.bind]
  cases e with
  | directory => rfl
  | file content => rw [hslash.resolve_right (by simp)]; rfl

theorem step_directory (hdot : name ≠ ".") (hdots : name ≠ "..") (h : t.find here name = .ok (some .directory)) :
    t.step here name = .ok (name :: here) := by
  obtain ⟨hlong, hl⟩ := find_ok h
  rw [step, if_neg hdot, if_neg hdots, if_neg hlong, hl]

/-- Following all names of a path to a directory leads to it. -/
theorem walk_of_locate (h : t.locate p = .ok (l, .directory)) : t.walk (t.start p) p.names = .ok l := by
  rcases locate_ok h with ⟨hd, -⟩ | ⟨parent, name, hd, rfl, hf⟩
  · have hr := reach_of_destination hd
    rcases List.eq_nil_or_concat p.names with hn | ⟨above, last, hn⟩
    · cases (reach_of_nil hn).symm.trans hr
      rw [hn]
      rfl
    · rw [List.concat_eq_append] at hn
      obtain ⟨here, hwalk, hlast⟩ := bind_eq_ok ((reach_of_snoc hn).symm.trans hr)
      rw [hn, walk_snoc, hwalk]
      show t.step here last = .ok l
      split at hlast
      · cases hstep : t.step here last with
        | error e => rw [hstep] at hlast; cases hlast
        | ok l' => rw [hstep] at hlast; cases hlast; rfl
      · cases hlast
  · obtain ⟨above, hn, hwalk, hdot, hdots⟩ := walk_of_named (reach_of_destination hd)
    rw [hn, walk_snoc, hwalk]
    exact step_directory hdot hdots hf

theorem step_ok (hdot : name ≠ ".") (hdots : name ≠ "..") (h : t.step here name = .ok l) :
    l = name :: here ∧ t.find here name = .ok (some .directory) := by
  rw [step, if_neg hdot, if_neg hdots] at h
  split at h
  · cases h
  next hlong =>
    split at h
    · cases h
    · cases h
    next hdirectory =>
      cases h
      exact ⟨rfl, by rw [find, if_neg hlong, hdirectory]⟩

/-- A path of which all names can be followed leads to a directory. -/
theorem locate_of_walk (hp : Usable p) (h : t.walk (t.start p) p.names = .ok l) : t.locate p = .ok (l, .directory) := by
  have hdestination := destination_of_usable hp t
  rcases List.eq_nil_or_concat p.names with hn | ⟨above, last, hn⟩
  · rw [hn, walk_nil] at h
    cases h
    rw [locate, hdestination, reach_of_nil hn]
    rfl
  · rw [List.concat_eq_append] at hn
    rw [hn, walk_snoc] at h
    obtain ⟨here, hwalk, hstep⟩ := bind_eq_ok h
    rw [reach_of_snoc hn, hwalk] at hdestination
    replace hdestination : t.destination p =
      if last = "." ∨ last = ".." then (t.step here last).map .directory else .ok (.named here last) := hdestination
    split at hdestination
    · rw [locate, hdestination, hstep]
      rfl
    next hdots =>
      obtain ⟨hdot, hdots⟩ := not_or.mp hdots
      obtain ⟨rfl, hf⟩ := step_ok hdot hdots hstep
      exact locate_of_named hdestination hf (.inr rfl)

/-! ## Trees with the same directories -/

section Kept

variable {t' : FileTree} (hkept : ∀ {k}, t.lookup? k = some .directory → t'.lookup? k = some .directory)
include hkept

/-- A step leads to the same place in any tree that has the directories. -/
theorem step_mono (h : t.step here name = .ok l) : t'.step here name = .ok l := by
  unfold step at h ⊢
  by_cases hdot : name = "."
  · rwa [if_pos hdot] at h ⊢
  by_cases hdots : name = ".."
  · rwa [if_neg hdot, if_pos hdots] at h ⊢
  rw [if_neg hdot, if_neg hdots] at h ⊢
  split at h
  · cases h
  next hlong =>
    rw [if_neg hlong]
    split at h
    · cases h
    · cases h
    next hdirectory =>
      rw [hkept hdirectory]
      exact h

theorem walk_mono {names : List String} (h : t.walk here names = .ok l) : t'.walk here names = .ok l := by
  induction names generalizing here with
  | nil => exact h
  | cons name names ih =>
    rw [walk_cons] at h ⊢
    obtain ⟨next, hstep, hrest⟩ := bind_eq_ok h
    rw [step_mono hkept hstep]
    exact ih hrest

theorem destination_mono {d : Destination} (hstart : t'.workingDirectory = t.workingDirectory)
    (h : t.destination p = .ok d) : t'.destination p = .ok d := by
  have hreach := reach_of_destination h
  have hstart' : t'.start p = t.start p := by rw [start, start, hstart]
  rw [destination_of_usable (usable_of_destination h)]
  rcases List.eq_nil_or_concat p.names with hn | ⟨above, last, hn⟩
  · rwa [reach_of_nil hn, hstart', ← reach_of_nil hn]
  · rw [List.concat_eq_append] at hn
    obtain ⟨parent, hwalk, hlast⟩ := bind_eq_ok ((reach_of_snoc hn).symm.trans hreach)
    rw [reach_of_snoc hn, hstart', walk_mono hkept hwalk]
    show (if last = "." ∨ last = ".." then _ else _) = _
    split at hlast
    next hdots =>
      rw [if_pos hdots]
      cases hstep : t.step parent last with
      | error e =>
        rw [hstep] at hlast
        cases hlast
      | ok k =>
        rw [hstep] at hlast
        rw [step_mono hkept hstep]
        exact hlast
    next hdots =>
      rw [if_neg hdots]
      exact hlast

end Kept

/-- What is put where no directory was leaves all directories. -/
theorem lookup?_put_directory {e : Entry} {k : Location} (hl : t.lookup? l ≠ some .directory)
    (hk : t.lookup? k = some .directory) : (t.put l e).lookup? k = some .directory := by
  have hne : l ≠ [] := by
    rintro rfl
    exact hl rfl
  rwa [lookup?_put t hne, if_neg]
  rintro rfl
  exact hl hk

/-! ## What is in a directory -/

/-- The name of a location in a directory. -/
def nameIn? (here : Location) : Location → Option String
  | name :: parent => if parent = here then some name else none
  | [] => none

theorem nameIn?_eq_some_iff : nameIn? here l = some name ↔ l = name :: here := by
  cases l with
  | nil => simp [nameIn?]
  | cons first parent =>
    rw [nameIn?]
    split
    next hparent => simp [hparent]
    next hparent => simp [hparent]

theorem children_eq (t : FileTree) (here : Location) :
    t.children here = (t.entries.map (·.1)).filterMap (nameIn? here) := by
  rw [children, List.filterMap_map]
  refine congrArg (List.filterMap · t.entries) (funext fun entry => ?_)
  obtain ⟨_ | ⟨first, parent⟩, e⟩ := entry <;> rfl

theorem mem_locations_iff : name :: here ∈ t.entries.map (·.1) ↔ ∃ e, t.lookup? (name :: here) = some e := by
  rw [← Option.isSome_iff_exists]
  show _ ↔ (t.entries.lookup (name :: here)).isSome = true
  rw [List.lookup_isSome_iff, List.mem_map]
  exact exists_congr fun entry => and_congr_right fun _ => eq_comm.trans beq_iff_eq.symm

/-- The names in a directory are those under which something stands. -/
theorem mem_children_iff : name ∈ t.children here ↔ ∃ e, t.lookup? (name :: here) = some e := by
  rw [children_eq, ← mem_locations_iff, List.mem_filterMap]
  simp [nameIn?_eq_some_iff]

theorem lookup_eq_some_iff_mem {entries : List (Location × Entry)} (hunique : (entries.map (·.1)).Nodup) {e : Entry} :
    entries.lookup l = some e ↔ (l, e) ∈ entries := by
  induction entries with
  | nil => simp
  | cons first rest ih =>
    obtain ⟨k, e'⟩ := first
    obtain ⟨hk, hrest⟩ := List.nodup_cons.mp hunique
    rw [lookup_entry, List.mem_cons]
    split
    next heq =>
      subst heq
      have hnone : (l, e) ∉ rest := fun hmem => hk (List.mem_map.mpr ⟨_, hmem, rfl⟩)
      simp [hnone, eq_comm]
    next hne => simp [hne, ih hrest]

/-- Trees with the same entries show the same, in whichever order these are. -/
theorem lookup?_of_perm {t' : FileTree} (h : t'.entries.Perm t.entries) (l : Location) :
    t'.lookup? l = t.lookup? l := by
  cases l with
  | nil => rfl
  | cons name above =>
    refine Option.ext fun e => ?_
    show t'.entries.lookup _ = some e ↔ t.entries.lookup _ = some e
    rw [lookup_eq_some_iff_mem t'.unique, lookup_eq_some_iff_mem t.unique]
    exact h.mem_iff

theorem isFile_iff : t.isFile p = true ↔ ∃ l content, t.locate p = .ok (l, .file content) := by
  unfold isFile
  split
  next h => exact ⟨fun _ => ⟨_, _, h⟩, fun _ => rfl⟩
  next h => exact ⟨nofun, fun ⟨l, content, hl⟩ => absurd hl (h l content)⟩

theorem contains_iff : t.contains p = true ↔ ∃ l e, t.locate p = .ok (l, e) := by
  unfold contains
  split
  next h => exact ⟨fun _ => ⟨_, _, h⟩, fun _ => rfl⟩
  next h => exact ⟨nofun, fun ⟨l, e, hl⟩ => nomatch h.symm.trans hl⟩

theorem isFile_of_readText {text : String} (h : t.readText p = .ok text) : t.isFile p = true := by
  unfold readText at h
  obtain ⟨content, hread, -⟩ := bind_eq_ok h
  unfold read at hread
  obtain ⟨⟨l, _ | content⟩, hlocate, hread⟩ := bind_eq_ok hread
  · cases hread
  · exact isFile_iff.mpr ⟨l, content, hlocate⟩

theorem list_ok {names : List String} (h : t.list directory = .ok names) :
    ∃ here, t.locate directory = .ok (here, .directory) ∧ names = t.children here := by
  unfold list at h
  cases hd : t.locate directory with
  | error e => rw [hd] at h; cases h
  | ok found =>
    rw [hd] at h
    obtain ⟨here, _ | content⟩ := found
    · exact ⟨here, rfl, (Except.ok.inj h).symm⟩
    · cases h

theorem list_of_locate (h : t.locate directory = .ok (here, .directory)) : t.list directory = .ok (t.children here) := by
  rw [list, h]
  rfl

/-- A usable path of a name below a directory leads to the name in it. -/
theorem destination_join_of_usable (hdirectory : t.locate directory = .ok (here, .directory)) (hname : Path.IsName name)
    (husable : Usable (directory.join name)) : t.destination (directory.join name) = .ok (.named here name) := by
  -- The directory and the path below it start at the same place.
  have hstart : t.start (directory.join name) = t.start directory := by
    rw [start, start, Path.isAbsolute_join directory hname]
  rw [destination_of_usable husable, reach_of_snoc (Path.names_join directory hname), hstart,
    walk_of_locate hdirectory]
  exact if_neg (by simp [hname.dot, hname.dots])

/-- The path of a name below a directory leads to the name in it, unless the path cannot be followed in any tree. -/
theorem destination_join (hdirectory : t.locate directory = .ok (here, .directory)) (hname : Path.IsName name) :
    (∃ e, ∀ t' : FileTree, t'.destination (directory.join name) = .error e) ∨
      t.destination (directory.join name) = .ok (.named here name) :=
  (destination_cases _).imp_right (destination_join_of_usable hdirectory hname)

/-- What the path of a name below a directory leads to is what stands in the directory. -/
theorem locate_join_ok {e : Entry} (hdirectory : t.locate directory = .ok (here, .directory)) (hname : Path.IsName name)
    (h : t.locate (directory.join name) = .ok (l, e)) : l = name :: here ∧ t.lookup? (name :: here) = some e := by
  rcases destination_join hdirectory hname with ⟨error, he⟩ | hd
  · unfold locate at h
    rw [he] at h
    cases h
  · rcases locate_ok h with ⟨hd', -⟩ | ⟨parent, name', hd', rfl, hf⟩
    · cases hd.symm.trans hd'
    · cases hd.symm.trans hd'
      exact ⟨rfl, (find_ok hf).2⟩

/-- The path of a name below a directory leads to what stands there if and only if a system follows the path. -/
theorem locate_join_iff {e : Entry} (hdirectory : t.locate directory = .ok (here, .directory))
    (hname : Path.IsName name) (hthere : t.lookup? (name :: here) = some e) :
    t.locate (directory.join name) = .ok (name :: here, e) ↔
      Usable (directory.join name) ∧ name.utf8ByteSize ≤ longestName := by
  constructor
  · intro h
    obtain ⟨d, hd⟩ := exists_destination h
    have husable := usable_of_destination hd
    have hnamed := destination_join_of_usable hdirectory hname husable
    rcases locate_ok h with ⟨hd', -⟩ | ⟨parent, other, hd', -, hf⟩
    · cases hnamed.symm.trans hd'
    · cases hnamed.symm.trans hd'
      exact ⟨husable, Nat.not_lt.mp (find_ok hf).1⟩
  · rintro ⟨husable, hlong⟩
    have hf : t.find here name = .ok (some e) := by rw [find, if_neg (Nat.not_lt.mpr hlong), hthere]
    exact locate_of_named (destination_join_of_usable hdirectory hname husable) hf
      (.inl (Path.endsInSlash_join directory hname))

/-- What can be followed to a name below a directory can be followed to the directory. -/
theorem locate_of_join {e : Entry} (hne : directory.text ≠ "") (hname : Path.IsName name)
    (h : t.locate (directory.join name) = .ok (l, e)) : ∃ here, t.locate directory = .ok (here, .directory) := by
  obtain ⟨d, hd⟩ := exists_destination h
  have husable := usable_of_destination hd
  obtain ⟨ending, htext⟩ := Path.text_join hne hname
  have hdirectory : Usable directory := by
    refine ⟨fun hnull => husable.null ?_, ?_, hne⟩
    · rw [htext, String.toList_append]
      exact List.mem_append_left _ hnull
    · have hlength := husable.length
      rw [htext, String.utf8ByteSize_append] at hlength
      omega
  have hreach := reach_of_destination hd
  rw [reach_of_snoc (Path.names_join directory hname)] at hreach
  obtain ⟨here, hwalk, -⟩ := bind_eq_ok hreach
  have hstart : t.start (directory.join name) = t.start directory := by
    rw [start, start, Path.isAbsolute_join directory hname]
  exact ⟨here, locate_of_walk hdirectory (hstart ▸ hwalk)⟩

/-- Trees with the same in a directory have the same at the path below it. -/
theorem locate_join_congr {t' : FileTree} (hdirectory : t.locate directory = .ok (here, .directory))
    (hdirectory' : t'.locate directory = .ok (here, .directory)) (hname : Path.IsName name)
    (hsame : t'.lookup? (name :: here) = t.lookup? (name :: here)) :
    t'.locate (directory.join name) = t.locate (directory.join name) := by
  have hfind : t'.find here name = t.find here name := by rw [find, find, hsame]
  unfold locate
  rcases destination_join hdirectory hname with ⟨e, he⟩ | hd
  · rw [he t, he t']
    rfl
  · rcases destination_join hdirectory' hname with ⟨e, he⟩ | hd'
    · cases (he t).symm.trans hd
    · simp only [hd, hd', hfind, bind, Except.bind]

/-- A file below a directory is listed there. -/
theorem mem_list_of_isFile {names : List String} (hlist : t.list directory = .ok names) (hname : Path.IsName name)
    (hfile : t.isFile (directory.join name) = true) : name ∈ names := by
  obtain ⟨l, content, hlocate⟩ := isFile_iff.mp hfile
  obtain ⟨here, hdirectory, rfl⟩ := list_ok hlist
  exact mem_children_iff.mpr ⟨_, (locate_join_ok hdirectory hname hlocate).2⟩

/-! ## Files where something stands -/

theorem ne_alreadyExists_of_step {e : FileError} (h : t.step here name = .error e) : e ≠ .alreadyExists := by
  rintro rfl
  unfold step at h
  split at h
  · cases h
  split at h
  · cases h
  split at h
  · cases h
  split at h <;> cases h

theorem ne_alreadyExists_of_walk {names : List String} {e : FileError} (h : t.walk here names = .error e) :
    e ≠ .alreadyExists := by
  induction names generalizing here with
  | nil => cases h
  | cons name names ih =>
    rw [walk_cons] at h
    cases hstep : t.step here name with
    | error e' =>
      rw [hstep] at h
      cases h
      exact ne_alreadyExists_of_step hstep
    | ok next =>
      rw [hstep] at h
      exact ih h

theorem ne_alreadyExists_of_reach {e : FileError} (h : t.reach p = .error e) : e ≠ .alreadyExists := by
  rcases List.eq_nil_or_concat p.names with hn | ⟨above, last, hn⟩
  · cases (reach_of_nil hn).symm.trans h
  · rw [List.concat_eq_append] at hn
    rw [reach_of_snoc hn] at h
    cases hwalk : t.walk (t.start p) above with
    | error e' =>
      rw [hwalk] at h
      cases h
      exact ne_alreadyExists_of_walk hwalk
    | ok here =>
      rw [hwalk] at h
      replace h : (if last = "." ∨ last = ".." then (t.step here last).map .directory else .ok (.named here last) :
        Except FileError Destination) = .error e := h
      split at h
      · cases hstep : t.step here last with
        | error e' =>
          rw [hstep] at h
          cases h
          exact ne_alreadyExists_of_step hstep
        | ok l =>
          rw [hstep] at h
          cases h
      · cases h

/-- That a path cannot be followed does not mean that something is there. -/
theorem ne_alreadyExists_of_destination {e : FileError} (h : t.destination p = .error e) : e ≠ .alreadyExists := by
  by_cases husable : Usable p
  · exact ne_alreadyExists_of_reach ((destination_of_usable husable t).symm.trans h)
  · rintro rfl
    unfold destination at h
    by_cases hnull : p.text.toList.contains '\x00' = true
    · rw [if_pos hnull] at h
      cases h
    by_cases hlong : longestPath < p.text.utf8ByteSize
    · rw [if_neg hnull, if_pos hlong] at h
      cases h
    by_cases hempty : p.text.isEmpty = true
    · rw [if_neg hnull, if_neg hlong, if_pos hempty] at h
      cases h
    exact husable ⟨by simpa using hnull, Nat.not_lt.mp hlong, by simpa using hempty⟩

/-- Creating a file fails because something is there if and only if the path leads to something. -/
theorem create_alreadyExists_iff (hslash : p.endsInSlash = false) :
    t.create p content = .error .alreadyExists ↔ t.contains p = true := by
  rw [contains_iff]
  constructor
  · intro h
    unfold create at h
    cases hd : t.destination p with
    | error e =>
      rw [hd] at h
      cases h
      exact absurd rfl (ne_alreadyExists_of_destination hd)
    | ok d =>
      cases d with
      | directory l => exact ⟨l, .directory, by rw [locate, hd]; rfl⟩
      | named parent name =>
        simp only [hd, hslash, bind, Except.bind] at h
        cases hf : t.find parent name with
        | error e =>
          rw [hf] at h
          cases h
          unfold find at hf
          split at hf <;> cases hf
        | ok found =>
          rw [hf] at h
          cases found with
          | none => cases h
          | some e => exact ⟨_, e, locate_of_named hd hf (.inl hslash)⟩
  · rintro ⟨l, e, h⟩
    unfold create
    rcases locate_ok h with ⟨hd, -⟩ | ⟨parent, name, hd, -, hf⟩
    · rw [hd]
      rfl
    · simp only [hd, hf, hslash, bind, Except.bind]
      rfl
/-! ## Written files -/

theorem fromUTF8?_toUTF8 (text : String) : String.fromUTF8? text.toUTF8 = some text := dif_pos text.isValidUTF8

/-- A text that was put where a path leads is read back through the path. -/
theorem readText_put {found : Option Entry} (hd : t.destination p = .ok (.named here name))
    (hslash : p.endsInSlash = false) (hfind : t.find here name = .ok found) (hfile : found ≠ some .directory)
    (text : String) : (t.put (name :: here) (.file text.toUTF8)).readText p = .ok text := by
  obtain ⟨hlong, hl⟩ := find_ok hfind
  have hd' : (t.put (name :: here) (.file text.toUTF8)).destination p = .ok (.named here name) :=
    destination_mono (lookup?_put_directory (hl ▸ hfile)) rfl hd
  have hf' : (t.put (name :: here) (.file text.toUTF8)).find here name = .ok (some (.file text.toUTF8)) := by
    rw [find, if_neg hlong, lookup?_put t (List.cons_ne_nil _ _), if_pos rfl]
  have hread : (t.put (name :: here) (.file text.toUTF8)).read p = .ok text.toUTF8 := by
    rw [read, locate_of_named hd' hf' (.inl hslash)]
    rfl
  simp only [readText, hread, bind, Except.bind, fromUTF8?_toUTF8]
  rfl

theorem create_ok {t' : FileTree} (h : t.create p content = .ok t') : ∃ parent name,
    t.destination p = .ok (.named parent name) ∧ p.endsInSlash = false ∧ t.find parent name = .ok none ∧
      t' = t.put (name :: parent) (.file content) := by
  unfold create at h
  obtain ⟨d, hd, h⟩ := bind_eq_ok h
  match d, h with
  | .named parent name, h =>
    refine ⟨parent, name, hd, ?_⟩
    cases hslash : p.endsInSlash with
    | true =>
      rw [hslash] at h
      cases h
    | false =>
      rw [hslash] at h
      obtain ⟨found, hf, h⟩ := bind_eq_ok (f := fun found => if Option.isSome found then _ else _) h
      cases found with
      | none =>
        cases h
        exact ⟨rfl, hf, rfl⟩
      | some e => cases h

/-- A file that was created is read back. -/
theorem readText_create {t' : FileTree} {text : String} (h : t.create p text.toUTF8 = .ok t') :
    t'.readText p = .ok text := by
  obtain ⟨parent, name, hd, hslash, hfind, rfl⟩ := create_ok h
  exact readText_put hd hslash hfind nofun text

theorem write_ok {t' : FileTree} (h : t.write p content = .ok t') : ∃ parent name found,
    t.destination p = .ok (.named parent name) ∧ p.endsInSlash = false ∧ t.find parent name = .ok found ∧
      found ≠ some .directory ∧ t' = t.put (name :: parent) (.file content) := by
  unfold write at h
  obtain ⟨d, hd, h⟩ := bind_eq_ok h
  match d, h with
  | .named parent name, h =>
    cases hslash : p.endsInSlash with
    | true =>
      rw [hslash] at h
      cases h
    | false =>
      rw [hslash] at h
      replace h : (t.find parent name).bind (fun found => if found = some Entry.directory then
        .error .isDirectory else .ok (t.put (name :: parent) (.file content))) = .ok t' := h
      obtain ⟨found, hf, h⟩ := bind_eq_ok h
      by_cases hfile : found = some .directory
      · rw [if_pos hfile] at h
        cases h
      · rw [if_neg hfile] at h
        cases h
        exact ⟨parent, name, found, hd, rfl, hf, hfile, rfl⟩

/-- A file that was written is read back. -/
theorem readText_write {t' : FileTree} {text : String} (h : t.write p text.toUTF8 = .ok t') :
    t'.readText p = .ok text := by
  obtain ⟨parent, name, found, hd, hslash, hfind, hfile, rfl⟩ := write_ok h
  exact readText_put hd hslash hfind hfile text

end SchemaJournal.FileTree
