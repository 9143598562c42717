import SchemaJournal.Proofs.Journal.Durability
import SchemaJournal.Proofs.Runner.Prefix

/-!
# Complete listings

A journal lists its directory as a whole: the migrations of all documents in it, or nothing because one of them is not
the document of a migration with its name (`FailClosed`). The order in which the system gives the names does not matter,
nor does what else is in the directory; and while it cannot be listed, no transaction is started (`list_canonical`).

There is one gap: a file is passed over if the system does not follow its path. So a listing is complete if and only if
the paths of all documents are followed (`failClosed_iff`). Where they are too long, a document that cannot be read does
no harm (`not_failClosed`).
-/

namespace SchemaJournal.Journal

open Database FileTree

variable {j : Journal} {files files' : FileTree} {here here' : Location} {l : Location} {stem : String}
  {content : ByteArray} {m : Migration} {path : Path} {migrations : List Migration}

/-- A file of a directory has the name of a document. -/
def HasDocument (files : FileTree) (here : Location) (stem : String) (content : ByteArray) : Prop :=
  Path.IsStem stem ∧ files.lookup? ((stem ++ ".json") :: here) = some (.file content)

/-- The content of a file is the text of a migration. -/
def Describes (content : ByteArray) (m : Migration) : Prop :=
  ∃ text, String.fromUTF8? content = some text ∧ Json.readDocument Migration.read text = .ok m

/-- The path of a document is one that a system follows. -/
def Admits (j : Journal) (stem : String) : Prop :=
  Usable (j.path stem) ∧ (stem ++ ".json").utf8ByteSize ≤ longestName

/-- A journal lists the migrations of all documents, or it fails. -/
structure FailClosed (j : Journal) (files : FileTree) (here : Location) : Prop where
  succeeds : (∃ migrations, j.list files = .ok migrations) ↔
    ∀ stem content, HasDocument files here stem content → ∃ m, Describes content m ∧ m.id = stem
  lists : ∀ migrations, j.list files = .ok migrations →
    ∀ m, m ∈ migrations ↔ ∃ content, HasDocument files here m.id content ∧ Describes content m

/-! ## Reading documents -/

/-- What is read from a file is the migration that it describes, if this is named as the file is. -/
theorem load_iff (h : files.locate path = .ok (l, .file content)) :
    load files path = .ok m ↔ Describes content m ∧ m.id = path.stem := by
  have hread : files.read path = .ok content := by
    rw [FileTree.read, h]
    rfl
  unfold load Describes
  cases htext : String.fromUTF8? content with
  | none =>
    have hnot : files.readText path = .error .notText := by
      simp only [readText, hread, bind, Except.bind, htext]
      rfl
    rw [hnot]
    simp
  | some text =>
    have hok : files.readText path = .ok text := by
      simp only [readText, hread, bind, Except.bind, htext]
      rfl
    rw [hok]
    cases hdocument : Json.readDocument Migration.read text with
    | error problem => simp [hdocument]
    | ok m' =>
      by_cases hid : m'.id = path.stem
      · simp only [hid, if_true, Option.some.injEq, exists_eq_left', hdocument, Except.ok.injEq]
        exact ⟨fun heq => ⟨heq, heq ▸ hid⟩, And.left⟩
      · simp only [hid, if_false, Option.some.injEq, exists_eq_left', hdocument, Except.ok.injEq, reduceCtorEq,
          false_iff, not_and]
        exact fun heq => heq ▸ hid

/-- What is read from a document. -/
theorem load_document_iff (hdirectory : files.locate j.directory = .ok (here, .directory))
    (hdocument : HasDocument files here stem content) (hadmits : j.Admits stem) :
    load files (j.path stem) = .ok m ↔ Describes content m ∧ m.id = stem := by
  obtain ⟨hstem, hthere⟩ := hdocument
  have hlocate : files.locate (j.path stem) = .ok ((stem ++ ".json") :: here, .file content) :=
    (locate_join_iff hdirectory (Path.isName_document hstem) hthere).mpr hadmits
  have hsame : (j.path stem).stem = stem := Path.stem_join j.directory hstem
  rw [load_iff hlocate, hsame]

section Located

variable (hfiles : files.WellFormed) (hdirectory : files.locate j.directory = .ok (here, .directory))
include hfiles hdirectory

/-- The documents of a directory are its files with such names, as far as a system follows their paths. -/
theorem mem_documents_iff : path ∈ j.documents files (files.children here) ↔
    ∃ stem content, HasDocument files here stem content ∧ j.Admits stem ∧ path = j.path stem := by
  unfold documents
  rw [List.mem_filter, List.mem_map]
  constructor
  · rintro ⟨⟨name, hmem, rfl⟩, hdocument⟩
    obtain ⟨hfile, hextension⟩ := Bool.and_eq_true_iff.mp hdocument
    obtain ⟨e, he⟩ := mem_children_iff.mp hmem
    have hname := hfiles.isName he
    obtain ⟨l, content, hlocate⟩ := isFile_iff.mp hfile
    obtain ⟨rfl, hthere⟩ := locate_join_ok hdirectory hname hlocate
    have hstem := Path.eq_of_extension? hname (beq_iff_eq.mp hextension)
    have hadmits := (locate_join_iff hdirectory hname hthere).mp hlocate
    refine ⟨(j.directory.join name).stem, content, ⟨Path.isStem_stem (beq_iff_eq.mp hextension), hstem ▸ hthere⟩,
      ?_, ?_⟩
    · unfold Admits path
      rwa [← hstem]
    · exact congrArg j.directory.join hstem
  · rintro ⟨stem, content, ⟨hstem, hthere⟩, hadmits, rfl⟩
    have hlocate := (locate_join_iff hdirectory (Path.isName_document hstem) hthere).mpr hadmits
    refine ⟨⟨stem ++ ".json", mem_children_iff.mpr ⟨_, hthere⟩, rfl⟩, ?_⟩
    have hextension : (j.path stem).extension? = some "json" := Path.extension?_join j.directory hstem
    rw [isDocument, Bool.and_eq_true]
    exact ⟨isFile_iff.mpr ⟨_, _, hlocate⟩, beq_iff_eq.mpr hextension⟩

/-- A listing succeeds if all documents do whose paths are followed. -/
theorem exists_list_iff : (∃ migrations, j.list files = .ok migrations) ↔
    ∀ stem content, HasDocument files here stem content → j.Admits stem → ∃ m, Describes content m ∧ m.id = stem := by
  have hnames := list_of_locate hdirectory
  constructor
  · rintro ⟨migrations, hlist⟩ stem content hdocument hadmits
    rcases list_cases hlist with ⟨hmissing, -⟩ | ⟨names, read, hnames', hread, -⟩
    · cases hnames.symm.trans hmissing
    · cases hnames.symm.trans hnames'
      obtain ⟨m, -, hload⟩ := exists_of_mapM_ok hread
        ((mem_documents_iff hfiles hdirectory).mpr ⟨stem, content, hdocument, hadmits, rfl⟩)
      exact ⟨m, (load_document_iff hdirectory hdocument hadmits).mp hload⟩
  · intro h
    have hloads : ∀ path ∈ j.documents files (files.children here), ∃ m, load files path = .ok m := by
      intro path hpath
      obtain ⟨stem, content, hdocument, hadmits, rfl⟩ := (mem_documents_iff hfiles hdirectory).mp hpath
      obtain ⟨m, hm⟩ := h stem content hdocument hadmits
      exact ⟨m, (load_document_iff hdirectory hdocument hadmits).mpr hm⟩
    obtain ⟨read, hread⟩ := exists_mapM_ok hloads
    exact ⟨_, list_of_documents hnames hread⟩

/-- What is listed is what is described by the documents whose paths are followed. -/
theorem mem_list_iff (hlist : j.list files = .ok migrations) : m ∈ migrations ↔
    ∃ content, HasDocument files here m.id content ∧ j.Admits m.id ∧ Describes content m := by
  rcases list_cases hlist with ⟨hmissing, -⟩ | ⟨names, read, hnames, hread, rfl⟩
  · cases (list_of_locate hdirectory).symm.trans hmissing
  cases (list_of_locate hdirectory).symm.trans hnames
  rw [(List.mergeSort_perm _ _).mem_iff]
  constructor
  · intro hm
    obtain ⟨path, hpath, hload⟩ := mem_of_mapM_ok hread hm
    obtain ⟨stem, content, hdocument, hadmits, rfl⟩ := (mem_documents_iff hfiles hdirectory).mp hpath
    obtain ⟨hdescribes, rfl⟩ := (load_document_iff hdirectory hdocument hadmits).mp hload
    exact ⟨content, hdocument, hadmits, hdescribes⟩
  · rintro ⟨content, hdocument, hadmits, hdescribes⟩
    have hload := (load_document_iff hdirectory hdocument hadmits).mpr ⟨hdescribes, rfl⟩
    obtain ⟨m', hm', hload'⟩ := exists_of_mapM_ok hread
      ((mem_documents_iff hfiles hdirectory).mpr ⟨_, content, hdocument, hadmits, rfl⟩)
    cases hload.symm.trans hload'
    exact hm'

/-! ## What a listing shows -/

/-- What is listed has different ids, and each is later than the one before it. -/
theorem strict_of_list (hlist : j.list files = .ok migrations) :
    (migrations.map (·.id)).Nodup ∧ migrations.Pairwise fun a b => a.stamp.Lt b.stamp := by
  have hnodup : (migrations.map (·.id)).Nodup := by
    rcases list_cases hlist with ⟨-, rfl⟩ | ⟨names, read, hnames, hread, rfl⟩
    · exact List.nodup_nil
    · cases (list_of_locate hdirectory).symm.trans hnames
      refine ((List.mergeSort_perm _ _).map _).nodup_iff.mpr (nodup_ids (fun name hmem => ?_)
        (nodup_children files here) hread)
      obtain ⟨e, he⟩ := mem_children_iff.mp hmem
      exact hfiles.isName he
  refine ⟨hnodup, ((pairwise_list hlist).and (List.pairwise_map.mp hnodup)).imp fun ⟨hle, hne⟩ => ?_⟩
  exact hle.lt_of_ne fun heq => hne (congrArg Prod.snd heq)

/-- **Completeness.** A listing is complete or fails if and only if it passes over no document. -/
theorem failClosed_iff : FailClosed j files here ↔ ∀ migrations, j.list files = .ok migrations →
    ∀ stem content, HasDocument files here stem content → j.Admits stem := by
  constructor
  · intro h migrations hlist stem content hdocument
    obtain ⟨m, hdescribes, rfl⟩ := h.succeeds.mp ⟨migrations, hlist⟩ stem content hdocument
    have hm := (h.lists migrations hlist m).mpr ⟨content, hdocument, hdescribes⟩
    obtain ⟨-, -, hadmits, -⟩ := (mem_list_iff hfiles hdirectory hlist).mp hm
    exact hadmits
  · intro h
    refine ⟨⟨?_, fun hall => ?_⟩, fun migrations hlist m => ?_⟩
    · rintro ⟨migrations, hlist⟩ stem content hdocument
      exact (exists_list_iff hfiles hdirectory).mp ⟨migrations, hlist⟩ stem content hdocument
        (h migrations hlist stem content hdocument)
    · exact (exists_list_iff hfiles hdirectory).mpr fun stem content hdocument _ => hall stem content hdocument
    · rw [mem_list_iff hfiles hdirectory hlist]
      exact exists_congr fun content => ⟨fun ⟨hdocument, _, hdescribes⟩ => ⟨hdocument, hdescribes⟩,
        fun ⟨hdocument, hdescribes⟩ => ⟨hdocument, h migrations hlist _ _ hdocument, hdescribes⟩⟩

/-- A directory with the same documents is listed in the same way. -/
theorem list_of_same (hfiles' : files'.WellFormed) (hdirectory' : files'.locate j.directory = .ok (here', .directory))
    (hsame : ∀ stem content, HasDocument files' here' stem content ↔ HasDocument files here stem content)
    (hlist : j.list files = .ok migrations) : j.list files' = .ok migrations := by
  have hdocuments := (exists_list_iff hfiles hdirectory).mp ⟨migrations, hlist⟩
  obtain ⟨migrations', hlist'⟩ := (exists_list_iff hfiles' hdirectory').mpr fun stem content hdocument hadmits =>
    hdocuments stem content ((hsame stem content).mp hdocument) hadmits
  have hmem : ∀ m, m ∈ migrations' ↔ m ∈ migrations := by
    intro m
    rw [mem_list_iff hfiles hdirectory hlist, mem_list_iff hfiles' hdirectory' hlist']
    exact exists_congr fun content => and_congr_left fun _ => hsame m.id content
  rw [hlist']
  exact congrArg Except.ok (Migration.eq_of_mem_iff (strict_of_list hfiles' hdirectory' hlist').2
    (strict_of_list hfiles hdirectory hlist).2 hmem)

end Located

/-- A directory is listed in the same way in whichever order its names are given. -/
theorem list_of_perm (hfiles : files.WellFormed) (hdirectory : files.locate j.directory = .ok (here, .directory))
    (hperm : files'.entries.Perm files.entries) (hworking : files'.workingDirectory = files.workingDirectory) :
    j.list files' = .ok migrations ↔ j.list files = .ok migrations := by
  have hlookup := lookup?_of_perm hperm
  have hfiles' : files'.WellFormed := by
    refine wellFormed_iff.mpr ⟨?_, fun l hl => ?_⟩
    · rw [hworking, hlookup]
      exact hfiles.workingDirectory
    · have hproper := (wellFormed_iff.mp hfiles).2 l ((hperm.map _).mem_iff.mp hl)
      cases l with
      | nil => trivial
      | cons name above => exact ⟨hproper.1, (hlookup above).trans hproper.2⟩
  have hgrows : Grows files files' := ⟨hworking, fun h => (hlookup _).trans h⟩
  have hdirectory' := hgrows.locate hdirectory
  have hsame : ∀ stem content, HasDocument files' here stem content ↔ HasDocument files here stem content := by
    intro stem content
    unfold HasDocument
    rw [hlookup]
  exact ⟨list_of_same hfiles' hdirectory' hfiles hdirectory fun stem content => (hsame stem content).symm,
    list_of_same hfiles hdirectory hfiles' hdirectory' hsame⟩

/-- **Listings.** A listing is complete or fails if and only if it passes over no document. What is listed is in the
strict order of times; it depends neither on the order of the names nor on anything but the documents, and if there is
no listing, no transaction is started. -/
theorem list_canonical (hfiles : files.WellFormed) (hdirectory : files.locate j.directory = .ok (here, .directory)) :
    (FailClosed j files here ↔ ∀ migrations, j.list files = .ok migrations →
      ∀ stem content, HasDocument files here stem content → j.Admits stem) ∧
    (∀ migrations, j.list files = .ok migrations →
      (migrations.map (·.id)).Nodup ∧ migrations.Pairwise fun a b => a.stamp.Lt b.stamp) ∧
    (∀ files', files'.entries.Perm files.entries → files'.workingDirectory = files.workingDirectory →
      ∀ migrations, j.list files' = .ok migrations ↔ j.list files = .ok migrations) ∧
    (∀ files' here', files'.WellFormed → files'.locate j.directory = .ok (here', .directory) →
      (∀ stem content, HasDocument files' here' stem content ↔ HasDocument files here stem content) →
      ∀ migrations, j.list files' = .ok migrations ↔ j.list files = .ok migrations) ∧
    ∀ e, j.list files = .error e → ∀ (σ : Type) (pool : Pool σ) (w : World σ), w.files = files →
      (∃ e', (Runner.up ⟨j, pool⟩ w).1 = .error e') ∧ Unopened (Runner.exchanges Runner.up ⟨j, pool⟩ w) := by
  refine ⟨failClosed_iff hfiles hdirectory, fun migrations => strict_of_list hfiles hdirectory,
    fun files' hperm hworking migrations => list_of_perm hfiles hdirectory hperm hworking,
    fun files' here' hfiles' hdirectory' hsame migrations => ⟨?_, ?_⟩, fun e hlist σ pool w hw => ?_⟩
  · exact list_of_same hfiles' hdirectory' hfiles hdirectory fun stem content => (hsame stem content).symm
  · exact list_of_same hfiles hdirectory hfiles' hdirectory' hsame
  · exact Runner.up_of_list_error ⟨j, pool⟩ hlist w hw

/-- A directory with two documents, a text and a directory that has the name of a document. -/
def mixed : FileTree := ⟨[(["migrations"], .directory), (["notes.txt", "migrations"], .file "later".toUTF8),
  (["2_b.json", "migrations"], .file "[\"2_b\",\"b\",2,[],[]]".toUTF8), (["0_z.json", "migrations"], .directory),
  (["1_a.json", "migrations"], .file "[\"1_a\",\"a\",1,[],[]]".toUTF8)], by decide, []⟩

theorem list_mixed : standard.list mixed = .ok [.new "a" 1 [] [], .new "b" 2 [] []] := by
  have hread : (standard.documents mixed ["notes.txt", "2_b.json", "0_z.json", "1_a.json"]).mapM (load mixed) =
      .ok [.new "b" 2 [] [], .new "a" 1 [] []] := Attempt.eq_ok_of_toOption (by decide +kernel)
  have hsort : [Migration.new "b" 2 [] [], .new "a" 1 [] []].mergeSort Migration.before =
      [.new "a" 1 [] [], .new "b" 2 [] []] := by cbv
  rw [list_of_documents (Attempt.eq_ok_of_toOption (by decide +kernel)) hread, hsort]

/-- Both documents are seen, so the listing is complete, and it is the same from the last entry on. -/
theorem mixed_canonical : mixed.WellFormed ∧ mixed.locate standard.directory = .ok (["migrations"], .directory) ∧
    FailClosed standard mixed ["migrations"] ∧
    standard.list ⟨mixed.entries.reverse, by decide, []⟩ = .ok [.new "a" 1 [] [], .new "b" 2 [] []] := by
  have hmixed : mixed.WellFormed := by decide +kernel
  have hdirectory : mixed.locate standard.directory = .ok (["migrations"], .directory) :=
    Attempt.eq_ok_of_toOption (by decide +kernel)
  have hchildren : mixed.children ["migrations"] = ["notes.txt", "2_b.json", "0_z.json", "1_a.json"] := by
    decide +kernel
  obtain ⟨hclosed, -, hperm, -, -⟩ := list_canonical hmixed hdirectory
  refine ⟨hmixed, hdirectory, hclosed.mpr fun _ _ stem content hdocument => ?_,
    (hperm ⟨mixed.entries.reverse, by decide, []⟩ (List.reverse_perm _) rfl _).mpr list_mixed⟩
  have hname : stem ++ ".json" ∈ mixed.children ["migrations"] := mem_children_iff.mpr ⟨_, hdocument.2⟩
  have hadmits : ∀ name ∈ mixed.children ["migrations"], '\x00' ∉ (standard.directory.join name).text.toList ∧
      (standard.directory.join name).text.utf8ByteSize ≤ longestPath ∧ (standard.directory.join name).text ≠ "" ∧
      name.utf8ByteSize ≤ longestName := by
    rw [hchildren]
    decide +kernel
  obtain ⟨hnull, hlength, hnonempty, hlong⟩ := hadmits _ hname
  exact ⟨⟨hnull, hlength, hnonempty⟩, hlong⟩

/-- A directory with a document that cannot be read. -/
def spoiled : FileTree := ⟨[(["b"], .directory), (["1_x.json", "b"], .file "\x7b".toUTF8)], by decide, []⟩

/-- A document that cannot be read does no harm where its path is too long. -/
theorem list_spoiled {n : Nat} (hlong : 4086 < n) (hshort : n < 4095) : (distant n).list spoiled = .ok [] := by
  have hthere : spoiled.lookup? ["b"] = some .directory := by decide +kernel
  obtain ⟨hlocate, hdestination⟩ := locate_distant hthere rfl hlong hshort
  have hchildren : spoiled.children ["b"] = ["1_x.json"] := by decide +kernel
  have hnone : (distant n).documents spoiled ["1_x.json"] = [] := by
    have hpath : (distant n).directory.join "1_x.json" = (distant n).path "1_x" := rfl
    have hfile : spoiled.isFile ((distant n).path "1_x") = false := by
      rw [isFile, locate, hdestination]
      rfl
    rw [documents, List.map_singleton, hpath, List.filter_cons_of_neg (by simp [isDocument, hfile])]
    rfl
  have hread : ((distant n).documents spoiled ["1_x.json"]).mapM (load spoiled) = .ok [] := by
    rw [hnone]
    rfl
  rw [list_of_documents (hchildren ▸ list_of_locate hlocate) hread, List.mergeSort_nil]

/-- A journal may be listed although it has a document that cannot be read. -/
theorem not_failClosed : spoiled.WellFormed ∧
    spoiled.locate (distant 4088).directory = .ok (["b"], .directory) ∧
    HasDocument spoiled ["b"] "1_x" "\x7b".toUTF8 ∧ (∀ m, ¬Describes "\x7b".toUTF8 m) ∧
    (distant 4088).list spoiled = .ok [] ∧ ¬FailClosed (distant 4088) spoiled ["b"] := by
  have hthere : spoiled.lookup? ["b"] = some .directory := by decide +kernel
  have hdocument : HasDocument spoiled ["b"] "1_x" "\x7b".toUTF8 :=
    ⟨by unfold Path.IsStem; decide +kernel, by decide +kernel⟩
  have hnot : ∀ m, ¬Describes "\x7b".toUTF8 m := by
    rintro m ⟨text, htext, hread⟩
    rw [fromUTF8?_toUTF8] at htext
    cases htext
    have hnone : (Json.readDocument Migration.read "\x7b").toOption = none := by decide +kernel
    rw [hread] at hnone
    cases hnone
  have hlist := list_spoiled (n := 4088) (by decide) (by decide)
  refine ⟨by decide +kernel, (locate_distant hthere rfl (by decide) (by decide)).1, hdocument, hnot, hlist, fun h => ?_⟩
  obtain ⟨m, hdescribes, -⟩ := h.succeeds.mp ⟨[], hlist⟩ "1_x" _ hdocument
  exact hnot m hdescribes

end SchemaJournal.Journal
