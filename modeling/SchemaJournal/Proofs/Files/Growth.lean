import Mathlib.Data.List.Nodup
import SchemaJournal.Proofs.Files.Tree

/-!
# Growing trees

What is made in a tree is added to it, and all that was there stays (`Grows`). Making directories adds directories only,
whether it succeeds or not (`Prepares`, `createDirectories_prepares`). A new file is the last name that is listed in its
directory (`children_put`). Trees stay well-formed (`WellFormed`): a name stands in a directory, and it is a proper one.
-/

namespace SchemaJournal.FileTree

/-! ## Well-formed trees -/

/-- A tree as a system has it: paths start at a directory, and every name is a proper one and stands in a directory. -/
structure WellFormed (t : FileTree) : Prop where
  workingDirectory : t.lookup? t.workingDirectory = some .directory
  isName : ∀ {name above e}, t.lookup? (name :: above) = some e → Path.IsName name
  parent : ∀ {name above e}, t.lookup? (name :: above) = some e → t.lookup? above = some .directory

variable {t t' t'' : FileTree} {p : Path} {name : String} {here l : Location} {e : Entry}

/-- Whether a location has a proper name in a directory. -/
def IsProper (t : FileTree) : Location → Prop
  | [] => True
  | name :: above => Path.IsName name ∧ t.lookup? above = some .directory

instance (t : FileTree) : DecidablePred t.IsProper
  | [] => inferInstanceAs (Decidable True)
  | name :: above => inferInstanceAs (Decidable (Path.IsName name ∧ t.lookup? above = some .directory))

theorem wellFormed_iff : t.WellFormed ↔
    t.lookup? t.workingDirectory = some .directory ∧ ∀ l ∈ t.entries.map (·.1), t.IsProper l := by
  constructor
  · refine fun ht => ⟨ht.workingDirectory, fun l hl => ?_⟩
    cases l with
    | nil => trivial
    | cons name above =>
      obtain ⟨e, he⟩ := mem_locations_iff.mp hl
      exact ⟨ht.isName he, ht.parent he⟩
  · rintro ⟨hstart, hproper⟩
    exact ⟨hstart, fun he => (hproper _ (mem_locations_iff.mpr ⟨_, he⟩)).1,
      fun he => (hproper _ (mem_locations_iff.mpr ⟨_, he⟩)).2⟩

instance (t : FileTree) : Decidable t.WellFormed := decidable_of_iff _ wellFormed_iff.symm

namespace WellFormed

/-- In a well-formed tree all steps from a directory lead to directories. -/
theorem step (ht : t.WellFormed) (hhere : t.lookup? here = some .directory) (h : t.step here name = .ok l) :
    t.lookup? l = some .directory := by
  unfold FileTree.step at h
  split at h
  · cases h
    exact hhere
  split at h
  · cases h
    cases here with
    | nil => rfl
    | cons first above => exact ht.parent hhere
  split at h
  · cases h
  split at h
  · cases h
  · cases h
  next hdirectory =>
    cases h
    exact hdirectory

theorem walk (ht : t.WellFormed) {names : List String} (hhere : t.lookup? here = some .directory)
    (h : t.walk here names = .ok l) : t.lookup? l = some .directory := by
  induction names generalizing here with
  | nil =>
    cases h
    exact hhere
  | cons name names ih =>
    rw [walk_cons] at h
    obtain ⟨next, hstep, hrest⟩ := bind_eq_ok h
    exact ih (ht.step hhere hstep) hrest

theorem start (ht : t.WellFormed) (p : Path) : t.lookup? (t.start p) = some .directory := by
  unfold FileTree.start
  split
  · rfl
  · exact ht.workingDirectory

theorem directory (ht : t.WellFormed) (h : t.locate p = .ok (l, .directory)) : t.lookup? l = some .directory :=
  ht.walk (ht.start p) (walk_of_locate h)

/-- A path that leads to a name leads to a proper one in a directory. -/
theorem named (ht : t.WellFormed) (h : t.destination p = .ok (.named here name)) :
    t.lookup? here = some .directory ∧ Path.IsName name := by
  obtain ⟨above, hn, hwalk, hdot, hdots⟩ := walk_of_named (reach_of_destination h)
  exact ⟨ht.walk (ht.start p) hwalk,
    Path.isName_of_mem_names (hn ▸ List.mem_append_right above List.mem_cons_self) hdot hdots⟩

/-- What stands above a directory is a directory. -/
theorem above (ht : t.WellFormed) {k : Location} (hl : t.lookup? l = some .directory) (h : k <:+ l) :
    t.lookup? k = some .directory := by
  induction l with
  | nil =>
    rw [List.suffix_nil.mp h]
    rfl
  | cons name above ih =>
    rcases List.suffix_cons_iff.mp h with rfl | h
    · exact hl
    · exact ih (ht.parent hl) h

/-- A tree stays well-formed when something is put where nothing stands. -/
theorem put (ht : t.WellFormed) (hhere : t.lookup? here = some .directory) (hname : Path.IsName name)
    (hfree : t.lookup? (name :: here) = none) (e : Entry) : (t.put (name :: here) e).WellFormed := by
  have hkept : ∀ {k}, t.lookup? k = some .directory → (t.put (name :: here) e).lookup? k = some .directory :=
    lookup?_put_directory (by simp [hfree])
  refine ⟨hkept ht.workingDirectory, fun {other above e'} h => ?_, fun {other above e'} h => hkept ?_⟩
  · rw [lookup?_put t (List.cons_ne_nil _ _)] at h
    split at h
    next heq =>
      cases heq
      exact hname
    · exact ht.isName h
  · rw [lookup?_put t (List.cons_ne_nil _ _)] at h
    split at h
    next heq =>
      cases heq
      exact hhere
    · exact ht.parent h

end WellFormed

/-! ## Growth -/

/-- All that is in a tree is in another one, in which paths start alike. -/
structure Grows (t t' : FileTree) : Prop where
  workingDirectory_eq : t'.workingDirectory = t.workingDirectory
  kept : ∀ {l e}, t.lookup? l = some e → t'.lookup? l = some e

namespace Grows

theorem refl (t : FileTree) : Grows t t := ⟨rfl, id⟩

theorem trans (h : Grows t t') (h' : Grows t' t'') : Grows t t'' :=
  ⟨h'.workingDirectory_eq.trans h.workingDirectory_eq, fun hl => h'.kept (h.kept hl)⟩

theorem put (hfree : t.lookup? l = none) (e : Entry) : Grows t (t.put l e) := by
  refine ⟨rfl, fun {k found} hk => ?_⟩
  have hne : l ≠ [] := by
    rintro rfl
    cases hfree
  rw [lookup?_put t hne, if_neg, hk]
  rintro rfl
  cases hk.symm.trans hfree

/-- What a path leads to stays what it leads to. -/
theorem locate (h : Grows t t') (hlocate : t.locate p = .ok (l, e)) : t'.locate p = .ok (l, e) := by
  have hkept : ∀ {d}, t.destination p = .ok d → t'.destination p = .ok d := destination_mono h.kept h.workingDirectory_eq
  rcases locate_ok hlocate with ⟨hd, rfl⟩ | ⟨parent, name, hd, rfl, hf⟩
  · unfold FileTree.locate
    rw [hkept hd]
    rfl
  · obtain ⟨hlong, hl⟩ := find_ok hf
    have hfind : t'.find parent name = t.find parent name := by rw [hf, find, if_neg hlong, h.kept hl]
    unfold FileTree.locate at hlocate ⊢
    rw [hkept hd]
    rw [hd] at hlocate
    simpa only [bind, Except.bind, hfind] using hlocate

theorem contains (h : Grows t t') (hcontains : t.contains p = true) : t'.contains p = true := by
  obtain ⟨l, e, hlocate⟩ := contains_iff.mp hcontains
  exact contains_iff.mpr ⟨l, e, h.locate hlocate⟩

theorem read (h : Grows t t') {content : ByteArray} (hread : t.read p = .ok content) : t'.read p = .ok content := by
  unfold FileTree.read at hread ⊢
  obtain ⟨found, hlocate, hcontent⟩ := bind_eq_ok hread
  rw [h.locate hlocate]
  exact hcontent

end Grows

/-- Only directories are added to a tree. -/
structure Prepares (t t' : FileTree) : Prop extends Grows t t' where
  files : ∀ {l content}, t'.lookup? l = some (.file content) → t.lookup? l = some (.file content)
  wellFormed : t.WellFormed → t'.WellFormed

theorem Prepares.refl (t : FileTree) : Prepares t t := ⟨.refl t, id, id⟩

theorem Prepares.trans (h : Prepares t t') (h' : Prepares t' t'') : Prepares t t'' where
  toGrows := h.toGrows.trans h'.toGrows
  files hl := h.files (h'.files hl)
  wellFormed ht := h'.wellFormed (h.wellFormed ht)

/-! ## Making directories -/

theorem createDirectory_ok (h : t.createDirectory p = .ok t') : ∃ parent name,
    t.destination p = .ok (.named parent name) ∧ t.find parent name = .ok none ∧
      t' = t.put (name :: parent) .directory := by
  unfold createDirectory at h
  obtain ⟨d, hd, h⟩ := bind_eq_ok h
  match d, h with
  | .named parent name, h =>
    obtain ⟨found, hf, h⟩ := bind_eq_ok (f := fun found => if Option.isSome found then _ else _) h
    cases found with
    | none =>
      cases h
      exact ⟨parent, name, hd, hf, rfl⟩
    | some e => cases h

/-- A directory that was made is the only change. -/
theorem createDirectory_prepares (h : t.createDirectory p = .ok t') : Prepares t t' ∧ t'.isDirectory p = true := by
  obtain ⟨parent, name, hd, hf, rfl⟩ := createDirectory_ok h
  obtain ⟨hlong, hfree⟩ := find_ok hf
  have hgrows : Grows t (t.put (name :: parent) .directory) := .put hfree _
  refine ⟨⟨hgrows, fun {k content} hk => ?_, fun ht => ?_⟩, ?_⟩
  · rw [lookup?_put t (List.cons_ne_nil _ _)] at hk
    split at hk
    · cases hk
    · exact hk
  · obtain ⟨hparent, hname⟩ := ht.named hd
    exact ht.put hparent hname hfree _
  · have hd' := destination_mono hgrows.kept hgrows.workingDirectory_eq hd
    have hf' : (t.put (name :: parent) .directory).find parent name = .ok (some .directory) := by
      rw [find, if_neg hlong, lookup?_put t (List.cons_ne_nil _ _), if_pos rfl]
    rw [isDirectory, locate_of_named hd' hf' (.inr rfl)]

/-- Making directories adds directories only, also if it fails. -/
theorem createAll_prepares (t : FileTree) (paths : List Path) : Prepares t (t.createAll paths).2 := by
  induction paths generalizing t with
  | nil => exact .refl t
  | cons p above ih =>
    unfold createAll
    dsimp only
    split
    next t' hp => exact (createDirectory_prepares hp).1
    next hp =>
      have habove := ih t
      split
      next e t' heq =>
        rw [heq] at habove
        exact habove
      next t' heq =>
        rw [heq] at habove
        split
        next t'' hp' => exact habove.trans (createDirectory_prepares hp').1
        · exact habove
    · exact .refl t

theorem createDirectories_prepares {result : Except FileError Unit} (h : createDirectories p t = (result, t')) :
    Prepares t t' := by
  have hprepares := createAll_prepares t p.ancestors
  rw [createDirectories] at h
  rwa [h] at hprepares

/-- If making directories succeeds, the path leads to one. -/
theorem isDirectory_of_createAll {above : List Path} (h : t.createAll (p :: above) = (.ok (), t')) :
    t'.isDirectory p = true := by
  have hsettle : ∀ {s : FileTree} {error : FileError},
      ((if s.isDirectory p then .ok () else .error error, s) : Except FileError Unit × FileTree) = (.ok (), t') →
        t'.isDirectory p = true := by
    intro s error hs
    obtain ⟨hresult, rfl⟩ := Prod.mk.inj hs
    by_contra hnot
    rw [if_neg hnot] at hresult
    cases hresult
  unfold createAll at h
  dsimp only at h
  split at h
  next hp =>
    cases h
    exact (createDirectory_prepares hp).2
  · split at h
    · cases h
    · split at h
      next hp =>
        cases h
        exact (createDirectory_prepares hp).2
      · exact hsettle h
  · exact hsettle h

theorem isDirectory_iff : t.isDirectory p = true ↔ ∃ l, t.locate p = .ok (l, .directory) := by
  unfold isDirectory
  split
  next h => exact ⟨fun _ => ⟨_, h⟩, fun _ => rfl⟩
  next h => exact ⟨nofun, fun ⟨l, hl⟩ => absurd hl (h l)⟩

theorem createDirectories_ok (hne : p.text ≠ "") (h : createDirectories p t = (.ok (), t')) :
    ∃ here, t'.locate p = .ok (here, .directory) := by
  have hancestors : p.ancestors = p :: Path.upwards p.isAbsolute p.components.dropLast.reverse := by
    rw [Path.ancestors, if_neg (by simpa using hne)]
  unfold createDirectories at h
  rw [hancestors] at h
  exact isDirectory_iff.mp (isDirectory_of_createAll h)

/-- No directory is made if the path leads to one. -/
theorem createDirectories_of_locate (h : t.locate p = .ok (here, .directory)) :
    createDirectories p t = (.ok (), t) := by
  have hexists : t.createDirectory p = .error .alreadyExists := by
    unfold createDirectory
    rcases locate_ok h with ⟨hd, -⟩ | ⟨parent, name, hd, -, hf⟩
    · rw [hd]
      rfl
    · simp only [hd, hf, bind, Except.bind]
      rfl
  unfold createDirectories Path.ancestors
  split
  · rfl
  · unfold createAll
    simp only [hexists, isDirectory_iff.mpr ⟨here, h⟩]
    rfl

/-! ## What is in a directory -/

theorem nodup_children (t : FileTree) (here : Location) : (t.children here).Nodup := by
  rw [children_eq]
  refine List.Nodup.filterMap (fun k k' name hk hk' => ?_) t.unique
  rw [nameIn?_eq_some_iff.mp hk, nameIn?_eq_some_iff.mp hk']

/-- What is put where nothing stands is the last one in its directory. -/
theorem children_put (hfree : t.lookup? (name :: here) = none) (e : Entry) :
    (t.put (name :: here) e).children here = t.children here ++ [name] := by
  have hlocations : name :: here ∉ t.entries.map (·.1) := by simp [mem_locations_iff, hfree]
  have hname : nameIn? here (name :: here) = some name := nameIn?_eq_some_iff.mpr rfl
  rw [children_eq, children_eq]
  show ((putEntry (name :: here) e t.entries).map (·.1)).filterMap _ = _
  rw [putEntry_locations, if_neg hlocations, List.filterMap_append, List.filterMap_cons_some hname]
  rfl

end SchemaJournal.FileTree
