import SchemaJournal.Files.Path

/-!
# Names in paths

A path is parted at its slashes (`splitSlashes_append`), so a name below a directory is the last name of its path
(`names_join`), and a document has the stem that it is named by (`stem_join`).
-/

namespace SchemaJournal

namespace Path

/-! ## Parts between slashes -/

variable {a b part : List Char}

theorem splitSlashes_eq_cons (s : List Char) : ∃ part parts, splitSlashes s = part :: parts := by
  cases s with
  | nil => exact ⟨[], [], rfl⟩
  | cons c rest =>
    unfold splitSlashes
    cases splitSlashes rest with
    | nil => exact ⟨[c], [], rfl⟩
    | cons part parts =>
      by_cases hc : c = '/'
      · exact ⟨[], part :: parts, if_pos hc⟩
      · exact ⟨c :: part, parts, if_neg hc⟩

theorem splitSlashes_slash (s : List Char) : splitSlashes ('/' :: s) = [] :: splitSlashes s := by
  obtain ⟨part, parts, h⟩ := splitSlashes_eq_cons s
  rw [splitSlashes, h]
  rfl

theorem splitSlashes_cons {c : Char} {parts : List (List Char)} (hc : c ≠ '/') (h : splitSlashes a = part :: parts) :
    splitSlashes (c :: a) = (c :: part) :: parts := by
  rw [splitSlashes, h]
  exact if_neg hc

/-- The parts before a slash and the parts after it. -/
theorem splitSlashes_append (a b : List Char) : splitSlashes (a ++ '/' :: b) = splitSlashes a ++ splitSlashes b := by
  induction a with
  | nil => exact splitSlashes_slash b
  | cons c a ih =>
    obtain ⟨part, parts, h⟩ := splitSlashes_eq_cons a
    by_cases hc : c = '/'
    · rw [hc, List.cons_append, splitSlashes_slash, splitSlashes_slash, ih]
      rfl
    · rw [h] at ih
      rw [List.cons_append, splitSlashes_cons hc ih, splitSlashes_cons hc h]
      rfl

/-- A text without slashes is one part. -/
theorem splitSlashes_of_not_mem (h : '/' ∉ a) : splitSlashes a = [a] := by
  induction a with
  | nil => rfl
  | cons c a ih =>
    have hc : c ≠ '/' := fun e => h (by simp [e])
    exact splitSlashes_cons hc (ih fun ha => h (List.mem_cons_of_mem _ ha))

theorem not_mem_of_mem_splitSlashes (h : part ∈ splitSlashes a) : '/' ∉ part := by
  induction a generalizing part with
  | nil =>
    rw [splitSlashes, List.mem_singleton] at h
    simp [h]
  | cons c a ih =>
    obtain ⟨first, parts, hs⟩ := splitSlashes_eq_cons a
    by_cases hc : c = '/'
    · rw [hc, splitSlashes_slash] at h
      rcases List.mem_cons.mp h with rfl | h
      · simp
      · exact ih h
    · rw [hs] at ih
      rw [splitSlashes_cons hc hs] at h
      rcases List.mem_cons.mp h with rfl | h
      · have hfirst := ih List.mem_cons_self
        simp [Ne.symm hc, hfirst]
      · exact ih (List.mem_cons_of_mem _ h)

/-! ## Stems -/

/-- A text that can be the stem of a name with an extension. -/
def IsStem (s : String) : Prop := s.toList ≠ [] ∧ '/' ∉ s.toList

theorem not_mem_of_mem_names {p : Path} {name : String} (h : name ∈ p.names) : '/' ∉ name.toList := by
  obtain ⟨part, hpart, rfl⟩ := List.mem_map.mp h
  rw [String.toList_ofList]
  exact not_mem_of_mem_splitSlashes (List.mem_filter.mp hpart).1

theorem ne_nil_of_mem_names {p : Path} {name : String} (h : name ∈ p.names) : name.toList ≠ [] := by
  obtain ⟨part, hpart, rfl⟩ := List.mem_map.mp h
  simpa using (List.mem_filter.mp hpart).2

theorem partName_some {name stem ext : String} (h : partName name = (stem, some ext)) :
    stem.toList ≠ [] ∧ ∀ c ∈ stem.toList, c ∈ name.toList := by
  unfold partName at h
  simp only at h
  split at h
  · cases h
  next hne =>
    obtain ⟨hs, -⟩ := Prod.mk.inj h
    rw [← hs, String.toList_ofList]
    refine ⟨by simpa using hne, fun c hc => ?_⟩
    exact List.mem_reverse.mp (List.mem_of_mem_drop (List.mem_reverse.mp hc))

/-- A stem with an extension is parted again. -/
theorem partName_append {stem ext : String} (hs : stem.toList ≠ []) (he : '.' ∉ ext.toList) :
    partName (stem ++ "." ++ ext) = (stem, some ext) := by
  have hrev : (stem ++ "." ++ ext).toList.reverse = ext.toList.reverse ++ '.' :: stem.toList.reverse := by
    simp [String.toList_append]
  have hending : (ext.toList.reverse ++ '.' :: stem.toList.reverse).takeWhile (· != '.') = ext.toList.reverse := by
    rw [List.takeWhile_append_of_pos fun c hc => ?_]
    · simp
    · have hc' : c ≠ '.' := fun e => he (e ▸ List.mem_reverse.mp hc)
      simpa using hc'
  have hstart : (ext.toList.reverse ++ '.' :: stem.toList.reverse).drop (ext.toList.reverse.length + 1) =
      stem.toList.reverse := by
    rw [List.drop_append]
    simp
  unfold partName
  simp only [hrev, hending, hstart, List.reverse_reverse, String.ofList_toList]
  rw [if_neg (by simpa using hs)]

/-- A name that was parted is its stem, a dot and its extension. -/
theorem eq_of_partName {name stem ext : String} (h : partName name = (stem, some ext)) : name = stem ++ "." ++ ext := by
  unfold partName at h
  simp only at h
  split at h
  · cases h
  next hne =>
    obtain ⟨hstem, hext⟩ := Prod.mk.inj h
    have hsplit := List.takeWhile_append_dropWhile (p := (· != '.')) (l := name.toList.reverse)
    have hdot := List.head?_dropWhile_not (· != '.') name.toList.reverse
    generalize name.toList.reverse.takeWhile (· != '.') = ending at hsplit hne hstem hext
    -- What is left begins with the last dot, because the stem is not empty.
    cases hrest : name.toList.reverse.dropWhile (· != '.') with
    | nil =>
      rw [hrest, List.append_nil] at hsplit
      exact absurd (by simp [← hsplit]) hne
    | cons c start =>
      rw [hrest] at hsplit hdot
      have hc : c = '.' := by simpa using hdot
      have hdrop : name.toList.reverse.drop (ending.length + 1) = start := by rw [← hsplit]; simp
      rw [hdrop] at hstem
      refine String.toList_inj.mp (List.reverse_inj.mp ?_)
      rw [← hsplit, hc, ← hstem, ← Option.some.inj hext]
      simp

theorem isStem_stem {p : Path} {ext : String} (h : p.extension? = some ext) : IsStem p.stem := by
  obtain ⟨name, hname, hext⟩ := Option.bind_eq_some_iff.mp h
  have hmem : name ∈ p.names := by
    obtain ⟨hlast, -⟩ := Option.filter_eq_some_iff.mp hname
    exact (List.mem_filter.mp (List.mem_of_getLast? hlast)).1
  obtain ⟨hne, hsub⟩ := partName_some (Prod.ext rfl hext : partName name = ((partName name).1, some ext))
  have hstem : p.stem = (partName name).1 := by rw [stem, hname]; rfl
  rw [hstem]
  exact ⟨hne, fun hslash => not_mem_of_mem_names hmem (hsub _ hslash)⟩

/-! ## Names below a directory -/

/-- Whether a name leads from a directory to something that is in it. -/
structure IsName (name : String) : Prop where
  nonempty : name.toList ≠ []
  slash : '/' ∉ name.toList
  dot : name ≠ "."
  dots : name ≠ ".."

instance : DecidablePred IsName := fun name =>
  decidable_of_iff (name.toList ≠ [] ∧ '/' ∉ name.toList ∧ name ≠ "." ∧ name ≠ "..")
    ⟨fun ⟨h, hslash, hdot, hdots⟩ => ⟨h, hslash, hdot, hdots⟩, fun ⟨h, hslash, hdot, hdots⟩ => ⟨h, hslash, hdot, hdots⟩⟩

variable {name : String}

theorem isName_of_mem_names {p : Path} (h : name ∈ p.names) (hdot : name ≠ ".") (hdots : name ≠ "..") : IsName name :=
  ⟨ne_nil_of_mem_names h, not_mem_of_mem_names h, hdot, hdots⟩

/-- The names before a slash and the names after it. -/
theorem names_split {p q r : Path} (h : p.text.toList = q.text.toList ++ '/' :: r.text.toList) :
    p.names = q.names ++ r.names := by
  simp only [names, h, splitSlashes_append, List.filter_append, List.map_append]

theorem IsName.names (h : IsName name) : Path.names ⟨name⟩ = [name] := by
  unfold Path.names
  rw [splitSlashes_of_not_mem h.slash]
  simp [h.nonempty]

theorem IsName.not_isAbsolute (h : IsName name) : Path.isAbsolute ⟨name⟩ = false := by
  refine Bool.eq_false_iff.mpr fun hhead => h.slash ?_
  exact List.mem_of_head? (beq_iff_eq.mp hhead)

/-- What stands before a name in a path below a directory. -/
theorem toList_join (directory : Path) (h : IsName name) : ∃ start, (directory.join name).text.toList =
    start ++ name.toList ∧ ((start = [] ∧ directory.text.toList = []) ∨
      ∃ before, start = before ++ ['/'] ∧ (directory.text.toList = before ∨ directory.text.toList = before ++ ['/']) ∧
        directory.text.toList ≠ []) := by
  unfold join
  rw [h.not_isAbsolute, Bool.false_or]
  split
  next hempty => exact ⟨[], rfl, .inl ⟨rfl, by simpa using hempty⟩⟩
  next hempty =>
    have hne : directory.text.toList ≠ [] := by simpa using hempty
    split
    next hslash =>
      obtain ⟨before, hbefore⟩ := List.getLast?_eq_some_iff.mp (beq_iff_eq.mp hslash)
      exact ⟨directory.text.toList, String.toList_append, .inr ⟨before, hbefore, .inr hbefore, hne⟩⟩
    · refine ⟨directory.text.toList ++ ['/'], ?_, .inr ⟨directory.text.toList, rfl, .inl rfl, hne⟩⟩
      simp [String.toList_append]

/-- The path of a name below a directory starts with the path of the directory. -/
theorem text_join {directory : Path} (hne : directory.text ≠ "") (h : IsName name) :
    ∃ ending, (directory.join name).text = directory.text ++ ending := by
  unfold join
  rw [h.not_isAbsolute, Bool.false_or, if_neg (by simpa using hne)]
  split
  · exact ⟨name, rfl⟩
  · exact ⟨"/" ++ name, String.append_assoc ..⟩

theorem endsInSlash_join (directory : Path) (h : IsName name) : (directory.join name).endsInSlash = false := by
  obtain ⟨start, hstart, -⟩ := toList_join directory h
  refine Bool.eq_false_iff.mpr fun hslash => h.slash (List.mem_of_getLast? ?_)
  rw [endsInSlash, hstart, List.getLast?_append, List.getLast?_eq_some_getLast h.nonempty] at hslash
  rw [List.getLast?_eq_some_getLast h.nonempty]
  exact beq_iff_eq.mp hslash

/-- A name below a directory is the last one. -/
theorem names_join (directory : Path) (h : IsName name) : (directory.join name).names = directory.names ++ [name] := by
  rw [← h.names]
  obtain ⟨start, hstart, ⟨rfl, hempty⟩ | ⟨before, rfl, hdirectory, -⟩⟩ := toList_join directory h
  · simp [names, hstart, hempty, splitSlashes]
  · have hbefore : (directory.join name).names = names ⟨String.ofList before⟩ ++ names ⟨name⟩ :=
      names_split (by simp [hstart])
    rw [hbefore]
    rcases hdirectory with hdirectory | hdirectory
    · rw [← hdirectory, String.ofList_toList]
    · have hempty : directory.names = names ⟨String.ofList before⟩ ++ names ⟨""⟩ :=
        names_split (by simp [hdirectory])
      rw [hempty, show names ⟨""⟩ = [] from rfl, List.append_nil]

/-- Slashes at the end of a path add no names. -/
theorem names_slashes (p : Path) (n : Nat) : names ⟨p.text ++ String.ofList (List.replicate n '/')⟩ = p.names := by
  induction n with
  | zero => simp
  | succ n ih =>
    have hlast : names ⟨p.text ++ String.ofList (List.replicate (n + 1) '/')⟩ =
        names ⟨p.text ++ String.ofList (List.replicate n '/')⟩ ++ names ⟨""⟩ :=
      names_split (by simp [List.replicate_succ'])
    rw [hlast, ih]
    exact List.append_nil _

theorem utf8ByteSize_slashes (n : Nat) : (String.ofList (List.replicate n '/')).utf8ByteSize = n := by
  induction n with
  | zero => rfl
  | succ n ih =>
    rw [List.replicate_succ, String.ofList_cons, String.utf8ByteSize_append, String.utf8ByteSize_singleton, ih]
    exact Nat.add_comm 1 n

theorem isAbsolute_join (directory : Path) (h : IsName name) :
    (directory.join name).isAbsolute = directory.isAbsolute := by
  obtain ⟨start, hstart, ⟨rfl, hempty⟩ | ⟨before, rfl, hdirectory, hne⟩⟩ := toList_join directory h
  · have hname := h.not_isAbsolute
    unfold isAbsolute at hname ⊢
    rw [hstart, hempty]
    exact hname
  · unfold isAbsolute
    rw [hstart]
    rcases hdirectory with hdirectory | hdirectory
    · rw [hdirectory] at hne ⊢
      obtain ⟨c, before, rfl⟩ := List.exists_cons_of_ne_nil hne
      rfl
    · rw [hdirectory]
      cases before with
      | nil => rfl
      | cons c before => rfl

theorem fileName?_join (directory : Path) (h : IsName name) : (directory.join name).fileName? = some name := by
  unfold fileName? components
  rw [names_join directory h]
  simp [h.dot, h.dots]

/-- The name of a document. -/
theorem isName_document {id : String} (h : IsStem id) : IsName (id ++ ".json") := by
  have hlist : (id ++ ".json").toList = id.toList ++ ['.', 'j', 's', 'o', 'n'] := by
    rw [String.toList_append]
    rfl
  have hlength : 5 < (id ++ ".json").toList.length := by
    have := List.length_pos_iff.mpr h.1
    rw [hlist, List.length_append]
    simp only [List.length_cons, List.length_nil]
    omega
  have hne : ∀ s : String, s.toList.length ≤ 5 → id ++ ".json" ≠ s := by
    intro s hs he
    rw [he] at hlength
    omega
  refine ⟨?_, ?_, hne "." (by decide), hne ".." (by decide)⟩
  · rw [hlist]
    simp
  · rw [hlist]
    simp [h.2]

theorem partName_document {id : String} (h : IsStem id) : partName (id ++ ".json") = (id, some "json") := by
  have hpart : partName (id ++ "." ++ "json") = (id, some "json") := partName_append h.1 (by decide)
  rwa [String.append_assoc] at hpart

/-- A document under a stem has it. -/
theorem stem_join (directory : Path) {id : String} (h : IsStem id) : (directory.join (id ++ ".json")).stem = id := by
  unfold stem
  rw [fileName?_join directory (isName_document h), Option.map_some, partName_document h]
  rfl

/-- A document is named by its stem. -/
theorem eq_of_extension? {directory : Path} (h : IsName name) (hext : (directory.join name).extension? = some "json") :
    name = (directory.join name).stem ++ ".json" := by
  unfold extension? at hext
  unfold stem
  rw [fileName?_join directory h, Option.bind_some] at hext
  rw [fileName?_join directory h]
  exact (eq_of_partName (Prod.ext rfl hext)).trans (String.append_assoc ..)

theorem not_mem_stem (p : Path) : '/' ∉ p.stem.toList := by
  unfold stem
  cases hname : p.fileName? with
  | none => exact List.not_mem_nil
  | some name =>
    have hmem : name ∈ p.names := (List.mem_filter.mp (List.mem_of_getLast? (Option.filter_eq_some_iff.mp hname).1)).1
    show '/' ∉ (partName name).1.toList
    cases hpart : partName name with
    | mk start ext? =>
      cases ext? with
      | some ext => exact fun hslash => not_mem_of_mem_names hmem ((partName_some hpart).2 _ hslash)
      | none =>
        obtain rfl : start = name := by
          unfold partName at hpart
          simp only at hpart
          split at hpart
          · exact (congrArg Prod.fst hpart).symm
          · cases congrArg Prod.snd hpart
        exact not_mem_of_mem_names hmem

/-- A document has the stem that it is named by if and only if this can be a stem. -/
theorem stem_join_iff (directory : Path) {id : String} : (directory.join (id ++ ".json")).stem = id ↔ IsStem id := by
  refine ⟨fun h => ⟨fun hempty => ?_, h ▸ not_mem_stem _⟩, stem_join directory⟩
  have hname : id ++ ".json" = ".json" := String.toList_inj.mp (by rw [String.toList_append, hempty, List.nil_append])
  have hstem : (directory.join ".json").stem = ".json" := by
    unfold stem
    rw [fileName?_join directory ⟨by decide, by decide, by decide, by decide⟩]
    rfl
  rw [hname, hstem] at h
  rw [← h] at hempty
  exact absurd hempty (by decide)

theorem extension?_join (directory : Path) {id : String} (h : IsStem id) :
    (directory.join (id ++ ".json")).extension? = some "json" := by
  unfold extension?
  rw [fileName?_join directory (isName_document h), Option.bind_some, partName_document h]

end Path

end SchemaJournal
