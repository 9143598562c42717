import SchemaJournal.Proofs.Connection.Credentials

/-!
# Hosts in a connection URL

The host of settings is put into a URL as it is, with the port after it. If it has no mark of another part of a URL, it
ends where the port starts (`splitHost_port`): a host that goes on behind a colon, or up to the port, is refused. Then
the URL leads to the server of the settings. A host with a mark is no host by itself, but the URL may be accepted, and
then it leads to another server (`connectionUrl_namesServer`, `not_namesServer`).
-/

namespace SchemaJournal.Connection

variable {cs rest : List Char} {port : Nat}

/-! ## Marks in a host -/

/-- Marks that end an authority or its credentials, and characters that are dropped from URLs. -/
def isDelimiter (c : Char) : Bool := ['/', '\\', '?', '#', '@', '\t', '\n', '\r'].contains c

theorem isDelimiter_iff {c : Char} : isDelimiter c = true ↔
    c = '/' ∨ c = '\\' ∨ c = '?' ∨ c = '#' ∨ c = '@' ∨ c = '\t' ∨ c = '\n' ∨ c = '\r' := by
  simp [isDelimiter]

theorem isForbiddenInHost_of_isDelimiter {c : Char} (h : isDelimiter c = true) : isForbiddenInHost c = true := by
  rcases isDelimiter_iff.mp h with rfl | rfl | rfl | rfl | rfl | rfl | rfl | rfl <;> rfl

theorem not_isDelimiter_of_isSpelling {c : Char} (h : Ipv6.IsSpelling c) : isDelimiter c = false := by
  refine Bool.eq_false_iff.mpr fun hc => ?_
  rcases isDelimiter_iff.mp hc with rfl | rfl | rfl | rfl | rfl | rfl | rfl | rfl <;>
    exact absurd h (by unfold Ipv6.IsSpelling; decide)

/-- A host in brackets is an address between them. -/
theorem exists_of_readBracketed {host : String} (hopen : cs.head? = some '[') (h : readBracketed cs = .ok host) :
    ∃ inner a, cs = '[' :: (inner ++ [']']) ∧ Ipv6.ofText? inner = some a := by
  unfold readBracketed at h
  split at h
  next hclose =>
    split at h
    next a haddress =>
      obtain ⟨before, rfl⟩ := List.getLast?_eq_some_iff.mp hclose
      cases before with
      | nil => cases hopen
      | cons first inner =>
        obtain rfl : first = '[' := Option.some.inj hopen
        have hinner : ((('[' :: inner) ++ [']']).drop 1).dropLast = inner := by simp
        exact ⟨inner, a, rfl, hinner ▸ haddress⟩
    · cases h
  · cases h

/-- What is a host by itself has no marks. -/
theorem not_isDelimiter_of_readOpaqueHost {host : String} (h : readOpaqueHost cs = .ok host) :
    ∀ c ∈ cs, isDelimiter c = false := by
  unfold readOpaqueHost at h
  split at h
  next hopen =>
    obtain ⟨inner, a, rfl, haddress⟩ := exists_of_readBracketed hopen h
    intro c hc
    rw [List.mem_cons, List.mem_append, List.mem_singleton] at hc
    rcases hc with rfl | hc | rfl
    · rfl
    · exact not_isDelimiter_of_isSpelling (Ipv6.isSpelling_of_ofText? haddress c hc)
    · rfl
  · split at h
    · cases h
    next hforbidden =>
      refine fun c hc => Bool.eq_false_iff.mpr fun hmark => hforbidden ?_
      exact List.any_eq_true.mpr ⟨c, hc, isForbiddenInHost_of_isDelimiter hmark⟩

/-! ## A host before a port -/

theorem splitHost_append (kind : SchemeKind) (bracketed : Bool) (cs : List Char) :
    (splitHost kind bracketed cs).1 ++ (splitHost kind bracketed cs).2 = cs ∧
      ∀ c ∈ (splitHost kind bracketed cs).2.head?, c = ':' ∨ kind.endsAuthority c = true := by
  induction cs generalizing bracketed with
  | nil => exact ⟨rfl, nofun⟩
  | cons c cs ih =>
    unfold splitHost
    split
    next hends =>
      refine ⟨rfl, fun d hd => ?_⟩
      cases hd
      rw [Bool.or_eq_true, Bool.and_eq_true] at hends
      exact hends.imp_left fun hcolon => beq_iff_eq.mp hcolon.1
    · obtain ⟨happend, hstop⟩ := ih (if c = '[' then true else if c = ']' then false else bracketed)
      exact ⟨congrArg (c :: ·) happend, hstop⟩

/-- What goes on up to a port is no host. -/
theorem readOpaqueHost_port (cs : List Char) {digits : List Char} (hdigits : ∀ c ∈ digits, c.isDigit = true)
    (host : String) : readOpaqueHost (cs ++ ':' :: digits) ≠ .ok host := by
  intro h
  unfold readOpaqueHost at h
  split at h
  next hopen =>
    obtain ⟨inner, a, hbrackets, -⟩ := exists_of_readBracketed hopen h
    have hlast : (cs ++ ':' :: digits).getLast? = some ']' := by
      rw [hbrackets, ← List.cons_append, List.getLast?_concat]
    have hmem : ']' ∈ ':' :: digits := by
      rw [List.getLast?_append_of_ne_nil _ (List.cons_ne_nil _ _)] at hlast
      exact List.mem_of_getLast? hlast
    rcases List.mem_cons.mp hmem with hcolon | hdigit
    · exact absurd hcolon (by decide)
    · exact absurd (hdigits _ hdigit) (by decide)
  · rw [if_pos] at h
    · cases h
    · exact List.any_eq_true.mpr ⟨':', List.mem_append_right _ List.mem_cons_self, rfl⟩

/-- What goes on behind a colon up to another one is no port. -/
theorem readPort_colon {scheme : String} {digits : List Char} (hcs : ∀ c ∈ cs, isDelimiter c = false)
    (hdigits : ∀ c ∈ digits, c.isDigit = true) (found : Option Nat × List Char) :
    readPort scheme (':' :: (cs ++ ':' :: digits)) ≠ .ok found := by
  intro h
  have hmark : ∀ c ∈ cs ++ ':' :: digits, ['/', '\\', '?', '#'].contains c = false := by
    intro c hc
    refine Bool.eq_false_iff.mpr fun hend => ?_
    have hdelimiter : isDelimiter c = true := by
      simp only [List.contains_eq_mem, List.mem_cons, List.not_mem_nil, or_false, decide_eq_true_eq] at hend
      rcases hend with rfl | rfl | rfl | rfl <;> rfl
    rcases List.mem_append.mp hc with hc | hc
    · cases hdelimiter.symm.trans (hcs c hc)
    rcases List.mem_cons.mp hc with rfl | hc
    · cases hdelimiter
    · rcases isDelimiter_iff.mp hdelimiter with rfl | rfl | rfl | rfl | rfl | rfl | rfl | rfl <;> cases hdigits _ hc
  -- The digits end before the second colon, so something else follows them.
  have hrest : ((cs ++ ':' :: digits).dropWhile Char.isDigit).head?.all (['/', '\\', '?', '#'].contains ·) = false := by
    cases hdrop : (cs ++ ':' :: digits).dropWhile Char.isDigit with
    | nil => exact absurd (List.dropWhile_eq_nil_iff.mp hdrop ':' (by simp)) (by decide)
    | cons c rest =>
      exact hmark c ((List.dropWhile_suffix _).subset (hdrop ▸ List.mem_cons_self))
  simp only [readPort, hrest, Bool.not_false, Bool.or_true, if_true, reduceCtorEq] at h

theorem endsAuthority_of_not_isDelimiter {c : Char} (h : isDelimiter c = false) :
    SchemeKind.plain.endsAuthority c = false := by
  refine Bool.eq_false_iff.mpr fun hends => ?_
  rcases endsAuthority_iff.mp hends with rfl | rfl | rfl <;> cases h

/-- If what is read for the host and for the port are accepted, the host ended where the port starts. -/
theorem splitHost_port {scheme host : String} {digits : List Char} {found : Option Nat × List Char}
    (hcs : ∀ c ∈ cs, isDelimiter c = false) (hdigits : ∀ c ∈ digits, c.isDigit = true)
    (hhost : readOpaqueHost (splitHost .plain false (cs ++ ':' :: digits)).1 = .ok host)
    (hport : readPort scheme (splitHost .plain false (cs ++ ':' :: digits)).2 = .ok found) :
    splitHost .plain false (cs ++ ':' :: digits) = (cs, ':' :: digits) := by
  obtain ⟨happend, hstop⟩ := splitHost_append .plain false (cs ++ ':' :: digits)
  rcases List.append_eq_append_iff.mp happend with ⟨more, hmore, hafter⟩ | ⟨more, hbefore, hmore⟩
  · cases more with
    | nil => exact Prod.ext (by simpa using hmore.symm) (by simpa using hafter)
    | cons c more =>
      -- The host ended at a colon of its own.
      rw [hafter] at hstop hport
      have hrest : ∀ d ∈ c :: more, isDelimiter d = false := fun d hd => hcs d (hmore ▸ List.mem_append_right _ hd)
      obtain ⟨hc, hothers⟩ := List.forall_mem_cons.mp hrest
      rcases hstop c rfl with rfl | hends
      · exact absurd hport (readPort_colon hothers hdigits found)
      · cases hends.symm.trans (endsAuthority_of_not_isDelimiter hc)
  · cases more with
    | nil => exact Prod.ext (by simpa using hbefore) (by simpa using hmore.symm)
    | cons c more =>
      -- The host went on after the colon of the port.
      obtain ⟨rfl, hrest⟩ := List.cons.inj hmore
      rw [hbefore] at hhost
      exact absurd hhost (readOpaqueHost_port cs (fun d hd => hdigits d (hrest ▸ List.mem_append_left _ hd)) host)

/-- A host without marks is read as it is by itself, and then the port. -/
theorem readAuthority_host {authority : Authority} (hcs : ∀ c ∈ cs, isDelimiter c = false) (hport : port ≤ 65535)
    (h : readAuthority "postgres" .plain (cs ++ portChars (some port)) = .ok (authority, rest)) :
    readOpaqueHost cs = .ok authority.host ∧ authority.port = some port ∧ rest = [] := by
  have hends : ∀ c ∈ cs ++ portChars (some port), SchemeKind.plain.endsAuthority c = false := by
    intro c hc
    rcases List.mem_append.mp hc with hc | hc
    · exact endsAuthority_of_not_isDelimiter (hcs c hc)
    · exact (endsAuthority_portChars hc).1
  have hsign : '@' ∉ cs ++ portChars (some port) := by
    intro hc
    rcases List.mem_append.mp hc with hc | hc
    · cases hcs _ hc
    · exact (endsAuthority_portChars hc).2 rfl
  have hempty : IsUserinfo [] := List.forall_mem_nil _
  have hnone : readCredentials .plain (cs ++ portChars (some port)) = .ok (⟨"", ""⟩, cs ++ portChars (some port)) := by
    simpa [credentialsChars] using readCredentials_credentialsChars hempty hempty hends hsign followsAuthority_nil
  obtain ⟨credentials, after, hcredentials, hhost, hafter⟩ := readAuthority_stages h
  cases hnone.symm.trans hcredentials
  have hdigits : ∀ c ∈ Nat.toDigits 10 port, c.isDigit = true := fun c hc =>
    Nat.isDigit_of_mem_toDigits (by decide) (by decide) hc
  have hsplit : splitHost .plain false (cs ++ portChars (some port)) = (cs, portChars (some port)) :=
    splitHost_port hcs hdigits hhost hafter
  rw [hsplit] at hhost hafter
  have hread : readPort "postgres" (portChars (some port) ++ []) = .ok (some port, []) :=
    readPort_portChars rfl (fun n hn => Option.some.inj hn ▸ hport) followsAuthority_nil
  rw [List.append_nil] at hread
  obtain ⟨hport', hrest⟩ := Prod.mk.inj (Except.ok.inj (hread.symm.trans hafter))
  exact ⟨hhost, hport'.symm, hrest.symm⟩

theorem significant_eq_self (h : ∀ c ∈ cs, 32 < c.toNat ∨ isDelimiter c = false) : significant cs = cs := by
  refine List.filter_eq_self.mpr fun c hc => ?_
  have hne : ∀ d : Char, d.toNat ≤ 32 → isDelimiter d = true → c ≠ d := by
    rintro d hblank hmark rfl
    rcases h c hc with hlt | hnone
    · exact absurd hblank (Nat.not_le.mpr hlt)
    · cases hmark.symm.trans hnone
  simp [hne '\t' (by decide) rfl, hne '\n' (by decide) rfl, hne '\r' (by decide) rfl]

/-- Nothing is dropped from a URL that is put together from a host without marks and a port. -/
theorem significant_host {host : String} (hhost : ∀ c ∈ host.toList, isDelimiter c = false) (port : Nat) :
    significant (trimmed ("postgres://" ++ host ++ ":" ++ toString port).toList) =
      postgresPrefix ++ (host.toList ++ portChars (some port)) := by
  have htext : ("postgres://" ++ host ++ ":" ++ toString port).toList =
      postgresPrefix ++ (host.toList ++ portChars (some port)) := by
    have hchars : (":" ++ toString port).toList = portChars (some port) := Url.toList_portText (some port)
    rw [String.append_assoc, String.toList_append, String.toList_append, hchars, List.append_assoc]
    rfl
  have htrimmed : trimmed (postgresPrefix ++ (host.toList ++ portChars (some port))) =
      postgresPrefix ++ (host.toList ++ portChars (some port)) := by
    refine trimmed_eq_self (fun c hc => not_blank_postgresPrefix c (List.mem_of_head? hc)) fun c hc => ?_
    have hne : portChars (some port) ≠ [] := List.cons_ne_nil _ _
    rw [← List.append_assoc, List.getLast?_append_of_ne_nil _ hne] at hc
    exact not_blank_portChars (List.mem_of_getLast? hc)
  rw [htext, htrimmed]
  refine significant_eq_self fun c hc => ?_
  simp only [List.mem_append] at hc
  rcases hc with hc | hc | hc
  · exact .inl (not_blank_postgresPrefix c hc)
  · exact .inr (hhost c hc)
  · exact .inl (not_blank_portChars hc)

/-- A URL that is put together from a host without marks and a port has the two, and nothing after them. -/
theorem Url.ofText_host {host : String} {u : Url} (hhost : ∀ c ∈ host.toList, isDelimiter c = false)
    (hport : port ≤ 65535) (h : ofText ("postgres://" ++ host ++ ":" ++ toString port) = .ok u) :
    ∃ authority, u = finish "postgres" .plain (some authority) [] ∧
      readOpaqueHost host.toList = .ok authority.host ∧ authority.port = some port := by
  rw [ofText_postgres (significant_host hhost port)] at h
  cases hauthority : readAuthority "postgres" .plain (host.toList ++ portChars (some port)) with
  | error e =>
    rw [hauthority] at h
    cases h
  | ok found =>
    obtain ⟨authority, rest⟩ := found
    rw [hauthority] at h
    obtain ⟨hhost', hport', rfl⟩ := readAuthority_host hhost hport hauthority
    exact ⟨authority, (Except.ok.inj h).symm, hhost', hport'⟩

/-! ## Paths that are set -/

theorem sparesEscapes_inPathSet : Text.SparesEscapes Text.inPathSet := Text.sparesEscapes_of_ascii (by decide)

theorem mem_of_mem_ascend {segment : List Char} {done : List (List Char)} (h : segment ∈ ascend done) :
    segment ∈ done := by
  cases done with
  | nil => exact h
  | cons last above =>
    rw [ascend] at h
    split at h
    · exact h
    · exact List.mem_cons_of_mem _ h

/-- Following segments makes no others, but for an empty one at the end. -/
theorem mem_resolve {segment : List Char} {done segments : List (List Char)} (h : segment ∈ resolve done segments) :
    segment = [] ∨ segment ∈ done ∨ segment ∈ segments := by
  fun_induction resolve done segments with
  | case1 done => exact .inr (.inl (List.mem_reverse.mp h))
  | case2 done last =>
    rw [List.mem_reverse] at h
    split at h
    · exact (List.mem_cons.mp h).imp_right fun h => .inl (mem_of_mem_ascend h)
    split at h
    · exact (List.mem_cons.mp h).imp_right .inl
    · rcases List.mem_cons.mp h with rfl | h
      · exact .inr (.inr List.mem_cons_self)
      · exact .inr (.inl h)
  | case3 done first rest _ ih =>
    rcases ih h with hnil | hdone | hrest
    · exact .inl hnil
    · right
      split at hdone
      · exact .inl (mem_of_mem_ascend hdone)
      split at hdone
      · exact .inl hdone
      · rcases List.mem_cons.mp hdone with rfl | hdone
        · exact .inr List.mem_cons_self
        · exact .inl hdone
    · exact .inr (.inr (List.mem_cons_of_mem _ hrest))

/-- A written path has no mark of a query or a fragment. -/
theorem not_isTailMark_pathText (kind : SchemeKind) (cs : List Char) :
    ∀ c ∈ (pathText kind cs).toList, isTailMark c = false := by
  intro c hc
  unfold pathText at hc
  split at hc
  · exact absurd hc List.not_mem_nil
  dsimp only at hc
  rw [String.toList_append, String.toList_intercalate, List.map_map, List.mem_append] at hc
  rcases hc with hc | hc
  · rw [List.mem_singleton.mp hc]
    rfl
  rcases mem_intercalate hc with rfl | ⟨segment, hsegment, hc⟩
  · rfl
  obtain ⟨resolved, hresolved, rfl⟩ := List.mem_map.mp hsegment
  rw [Function.comp_apply, String.toList_ofList] at hc
  rcases mem_resolve hresolved with rfl | hdone | hwritten
  · exact absurd hc List.not_mem_nil
  · exact absurd hdone List.not_mem_nil
  · obtain ⟨plain, -, rfl⟩ := List.mem_map.mp hwritten
    have hset := (Text.kept_of_mem_percentEncode sparesEscapes_inPathSet hc).2
    refine Bool.eq_false_iff.mpr fun hmark => ?_
    rcases (Bool.or_eq_true_iff.mp hmark).imp beq_iff_eq.mp beq_iff_eq.mp with rfl | rfl <;> cases hset

theorem Url.not_isTailMark_withPath (u : Url) (path : String) :
    ∀ c ∈ (u.withPath path).path.toList, isTailMark c = false := by
  unfold withPath
  dsimp only
  split
  · exact List.forall_mem_nil _
  · exact not_isTailMark_pathText _ _

/-! ## The server of a connection URL -/

namespace Settings

variable {s : Settings}

/-- A URL leads to the server of settings: it has the host that theirs is by itself, their port, and nothing else that
settings do not name. -/
structure NamesServer (s : Settings) (u : Url) : Prop where
  host : ∃ host, readOpaqueHost s.host.toList = .ok host ∧ u.host = some host
  port : u.port = some s.port.toNat
  query : u.query = none
  fragment : u.fragment = none

theorem connectionUrl_of_validate (h : s.validate = .ok ()) : ∃ text, s.connectionUrl = .ok text := by
  unfold validate at h
  cases htext : s.connectionUrl with
  | error e =>
    rw [htext] at h
    cases h
  | ok text => exact ⟨text, rfl⟩

/-- The URL that is put together from a host without marks names the server, and so does the one that is read again. -/
theorem namesServer_of_assembled {u v : Url} (hmarks : ∀ c ∈ s.host.toList, isDelimiter c = false)
    (hu : s.assembled = .ok u) (hv : Url.ofText u.text = .ok v) : s.NamesServer v := by
  obtain ⟨hsettled, -⟩ := settled_of_assembled hu
  obtain ⟨v', hv', -, -, -, hhost, hport, htail⟩ := Url.ofText_text hsettled
  cases hv.symm.trans hv'
  obtain ⟨base, hbase, -, rfl⟩ := assembled_eq_ok hu
  obtain ⟨authority, rfl, hread, hnumber⟩ := Url.ofText_host hmarks (Nat.le_of_lt_succ s.port.toNat_lt) hbase
  have hpath := Url.not_isTailMark_withPath { finish "postgres" .plain (some authority) [] with
    username := encodeUserinfo s.username, password := encodeUserinfo s.password } s.database
  rw [Url.withPath_eq] at hhost hport htail
  -- There is nothing after the path, and it has no marks.
  have hnone := htail fun c hc => hpath c (by simpa [Url.tailChars, finish, readTail] using hc)
  exact ⟨⟨authority.host, hread, hhost⟩, hport.trans hnumber, hnone.1, hnone.2⟩

/-- **Servers.** The connection URL of settings that are accepted is a URL, and it leads to their server if and only if
the host has no mark of another part of a URL. -/
theorem connectionUrl_namesServer (hparts : s.url = none) (hvalid : s.validate = .ok ()) : ∃ text u,
    s.connectionUrl = .ok text ∧ Url.ofText text = .ok u ∧
      (s.NamesServer u ↔ ∀ c ∈ s.host.toList, isDelimiter c = false) := by
  obtain ⟨text, htext⟩ := connectionUrl_of_validate hvalid
  obtain ⟨u, hu, rfl⟩ := connectionUrl_eq_ok hparts htext
  obtain ⟨v, hv, -⟩ := Url.ofText_text (settled_of_assembled hu).1
  refine ⟨u.text, v, htext, hv, fun h => ?_, fun hmarks => namesServer_of_assembled hmarks hu hv⟩
  obtain ⟨host, hhost, -⟩ := h.host
  exact not_isDelimiter_of_readOpaqueHost hhost

/-- Settings with an address for a host, and marks in the name of the database. -/
def addressed : Settings := { standard with host := "[0:0:AB:0::1]", port := 6543, database := "app?stage#1" }

/-- The address is the host, and no mark of the name counts. -/
theorem addressed_namesServer : addressed.url = none ∧ addressed.validate = .ok () ∧ ∃ text u,
    addressed.connectionUrl = .ok text ∧ Url.ofText text = .ok u ∧ addressed.NamesServer u ∧
      u.host = some "[0:0:ab::1]" := by
  have hvalid : addressed.validate = .ok () := Attempt.eq_ok_of_toOption (by decide +kernel)
  have hread : readOpaqueHost addressed.host.toList = .ok "[0:0:ab::1]" := Attempt.eq_ok_of_toOption (by decide +kernel)
  obtain ⟨text, u, htext, hu, hiff⟩ := connectionUrl_namesServer rfl hvalid
  have hmarks : addressed.host.toList.all (!isDelimiter ·) = true := by decide +kernel
  have hnames : addressed.NamesServer u := hiff.mpr fun c hc => by simpa using List.all_eq_true.mp hmarks c hc
  obtain ⟨host, hhost, husome⟩ := hnames.host
  cases hread.symm.trans hhost
  exact ⟨rfl, hvalid, text, u, htext, hu, hnames, husome⟩

/-- Settings with a slash in the host. -/
def slashed : Settings := { standard with host := "db/main", port := 6543 }

/-- A host with a slash is accepted, and its URL leads to the part before the slash at no particular port. -/
theorem not_namesServer : slashed.url = none ∧ slashed.validate = .ok () ∧ ∃ text u,
    slashed.connectionUrl = .ok text ∧ Url.ofText text = .ok u ∧ u.host = some "db" ∧ u.port = none ∧
      ¬slashed.NamesServer u := by
  have htext : slashed.connectionUrl = .ok "postgres://postgres:postgres@db/postgres" :=
    Attempt.eq_ok_of_toOption (by decide +kernel)
  have hurl : Url.ofText "postgres://postgres:postgres@db/postgres" =
      .ok ⟨"postgres", "postgres", "postgres", some "db", none, "/postgres", none, none⟩ :=
    Attempt.eq_ok_of_toOption (by decide +kernel)
  exact ⟨rfl, Attempt.eq_ok_of_toOption (by decide +kernel), _, _, htext, hurl, rfl, rfl, fun h => nomatch h.port⟩

end Settings

end SchemaJournal.Connection
