import Mathlib.Data.List.TakeWhile
import SchemaJournal.Connection.Url
import SchemaJournal.Proofs.Connection.Address

/-!
# Written URLs

A URL of a scheme that is not special is read from its text with the same scheme, credentials, host and port
(`ofText_text`). It is enough that these parts are as they are written (`Url.Settled`): then the credentials end at the
last `@` of the authority, the host at the first colon outside of brackets, and the authority where the path starts.
-/

namespace SchemaJournal.Connection

variable {cs rest : List Char}

/-! ## Where a part ends -/

/-- A row of characters ends where the first one stands that does not belong to it. -/
theorem takeWhile_append_stop {p : Char → Bool} (hcs : ∀ c ∈ cs, p c = true)
    (hrest : ∀ c ∈ rest.head?, p c = false) :
    (cs ++ rest).takeWhile p = cs ∧ (cs ++ rest).dropWhile p = rest := by
  rw [List.takeWhile_append_of_pos hcs, List.dropWhile_append_of_pos hcs]
  cases rest with
  | nil => exact ⟨List.append_nil cs, rfl⟩
  | cons c rest =>
    have hc : ¬p c = true := by simpa using hrest c rfl
    rw [List.takeWhile_cons_of_neg hc, List.dropWhile_cons_of_neg hc]
    exact ⟨List.append_nil cs, rfl⟩

/-- What is read up to a mark ends at the first one. -/
theorem takeWhile_ne_append {mark : Char} (hcs : mark ∉ cs) (hrest : ∀ c ∈ rest.head?, c = mark) :
    (cs ++ rest).takeWhile (· != mark) = cs := by
  have hall : ∀ c ∈ cs, (c != mark) = true := fun c hc => by simpa using ne_of_mem_of_not_mem hc hcs
  have hstop : ∀ c ∈ rest.head?, (c != mark) = false := fun c hc => by simpa using hrest c hc
  exact (takeWhile_append_stop hall hstop).1

/-- What follows an authority: nothing, or a path, a query or a fragment. -/
def FollowsAuthority (rest : List Char) : Prop := ∀ c ∈ rest.head?, SchemeKind.plain.endsAuthority c = true

theorem followsAuthority_nil : FollowsAuthority [] := by simp [FollowsAuthority]

theorem endsAuthority_iff {c : Char} : SchemeKind.plain.endsAuthority c = true ↔ c = '/' ∨ c = '?' ∨ c = '#' := by
  simp [SchemeKind.endsAuthority, SchemeKind.isSlash, SchemeKind.isSpecial, or_assoc]

/-! ## Hosts -/

/-- A host as it is written: an address in brackets, or characters that need no escape. -/
def IsHost (cs : List Char) : Prop :=
  (∃ a : Ipv6, a.WellFormed ∧ cs = '[' :: (a.text.toList ++ [']'])) ∨
    ∀ c ∈ cs, c.toNat < 128 ∧ Text.isControl c = false ∧ isForbiddenInHost c = false

theorem toList_readBracketed {host : String} (h : readBracketed cs = .ok host) : IsHost host.toList := by
  unfold readBracketed at h
  split at h
  · split at h
    next a haddress =>
      cases h
      refine .inl ⟨a, Ipv6.wellFormed_of_ofText? haddress, ?_⟩
      simp [String.toList_append]
    · cases h
  · cases h

theorem sparesEscapes_isForbiddenInHost : Text.SparesEscapes isForbiddenInHost := Text.sparesEscapes_of_ascii (by decide)

/-- A host that was read is as it is written. -/
theorem isHost_of_readOpaqueHost {host : String} (h : readOpaqueHost cs = .ok host) : IsHost host.toList := by
  unfold readOpaqueHost at h
  split at h
  · exact toList_readBracketed h
  split at h
  · cases h
  next hforbidden =>
    cases h
    rw [String.toList_ofList]
    refine .inr fun c hc => ?_
    obtain ⟨hascii, hcontrol⟩ := Text.kept_of_mem_percentEncode Text.sparesEscapes_isControl hc
    refine ⟨hascii, hcontrol, ?_⟩
    rcases Text.mem_percentEncode hc with ⟨hmem, -⟩ | hescape
    · simpa using List.any_eq_false.mp (Bool.eq_false_iff.mpr hforbidden) c hmem
    · exact sparesEscapes_isForbiddenInHost c hescape

namespace IsHost

/-- A written host has no marks of other parts. -/
theorem not_mem (h : IsHost cs) {c : Char} (hc : c ∈ ['/', '?', '#', '@']) : c ∉ cs := by
  intro hmem
  have hc : c = '/' ∨ c = '?' ∨ c = '#' ∨ c = '@' := by simpa using hc
  rcases h with ⟨a, -, rfl⟩ | h
  · rw [List.mem_cons, List.mem_append, List.mem_singleton] at hmem
    rcases hmem with rfl | hmem | rfl
    · simp at hc
    · rcases Ipv6.mem_text hmem with hdigit | rfl
      · rcases hc with rfl | rfl | rfl | rfl <;> cases hdigit
      · simp at hc
    · simp at hc
  · have hforbidden : isForbiddenInHost c = true := by rcases hc with rfl | rfl | rfl | rfl <;> rfl
    cases (h c hmem).2.2.symm.trans hforbidden

theorem endsAuthority (h : IsHost cs) {c : Char} (hc : c ∈ cs) : SchemeKind.plain.endsAuthority c = false := by
  refine Bool.eq_false_iff.mpr fun hends => h.not_mem ?_ hc
  rcases endsAuthority_iff.mp hends with rfl | rfl | rfl
  · simp
  · simp
  · simp

theorem not_blank (h : IsHost cs) {c : Char} (hc : c ∈ cs) : 32 < c.toNat := by
  rcases h with ⟨a, -, rfl⟩ | h
  · rw [List.mem_cons, List.mem_append, List.mem_singleton] at hc
    rcases hc with rfl | hc | rfl
    · decide
    · rcases Ipv6.mem_text hc with hc | rfl
      · exact Text.not_blank_of_isHexDigit hc
      · decide
    · decide
  · have hnone : ∀ n ≤ 32, Text.isControl (Char.ofNat n) = true ∨ isForbiddenInHost (Char.ofNat n) = true := by decide
    obtain ⟨-, hcontrol, hforbidden⟩ := h c hc
    refine Nat.not_le.mp fun hle => ?_
    have hsome := hnone c.toNat hle
    rw [Char.ofNat_toNat, hcontrol, hforbidden] at hsome
    simp at hsome

/-- A written host is read as it is. -/
theorem readOpaqueHost (h : IsHost cs) : readOpaqueHost cs = .ok (String.ofList cs) := by
  unfold Connection.readOpaqueHost
  rcases h with ⟨a, ha, rfl⟩ | h
  · have hlast : ('[' :: (a.text.toList ++ [']'])).getLast? = some ']' := by simp [List.getLast?_cons]
    have hinner : (('[' :: (a.text.toList ++ [']'])).drop 1).dropLast = a.text.toList := by simp
    rw [List.head?_cons, if_pos rfl, readBracketed, if_pos hlast, hinner, Ipv6.ofText?_text ha]
    refine congrArg Except.ok (String.toList_inj.mp ?_)
    simp [String.toList_append]
  · have hbracket : ¬cs.head? = some '[' := fun hhead => by
      cases (h '[' (List.mem_of_head? hhead)).2.2
    have hallowed : ¬cs.any isForbiddenInHost = true := by
      simpa using fun c hc => (h c hc).2.2
    rw [if_neg hbracket, if_neg hallowed, Text.percentEncode_eq_self fun c hc => ⟨(h c hc).1, (h c hc).2.1⟩]

end IsHost

/-- Inside of brackets a host goes on up to the closing one. -/
theorem splitHost_bracketed (hcs : ∀ c ∈ cs, SchemeKind.plain.endsAuthority c = false ∧ c ≠ ']') (rest : List Char) :
    splitHost .plain true (cs ++ ']' :: rest) =
      (cs ++ ']' :: (splitHost .plain false rest).1, (splitHost .plain false rest).2) := by
  induction cs with
  | nil => rfl
  | cons c cs ih =>
    obtain ⟨⟨hends, hclose⟩, hcs⟩ := List.forall_mem_cons.mp hcs
    have hstate : (if c = '[' then true else if c = ']' then false else true) = true := by simp [hclose]
    rw [List.cons_append, splitHost, if_neg (by simp [hends])]
    dsimp only
    rw [hstate, ih hcs]
    rfl

/-- A host without brackets goes on up to a colon or to the end of the authority. -/
theorem splitHost_open (hcs : ∀ c ∈ cs, SchemeKind.plain.endsAuthority c = false ∧ c ≠ ':' ∧ c ≠ '[')
    (hrest : ∀ c ∈ rest.head?, c = ':' ∨ SchemeKind.plain.endsAuthority c = true) :
    splitHost .plain false (cs ++ rest) = (cs, rest) := by
  induction cs with
  | nil =>
    cases rest with
    | nil => rfl
    | cons c rest =>
      rw [List.nil_append, splitHost, if_pos]
      simpa using hrest c rfl
  | cons c cs ih =>
    obtain ⟨⟨hends, hcolon, hopen⟩, hcs⟩ := List.forall_mem_cons.mp hcs
    have hstate : (if c = '[' then true else if c = ']' then false else false) = false := by simp [hopen]
    rw [List.cons_append, splitHost, if_neg (by simp [hends, hcolon])]
    dsimp only
    rw [hstate, ih hcs]

/-- A written host ends before the port or with the authority. -/
theorem IsHost.splitHost (h : IsHost cs) (hrest : ∀ c ∈ rest.head?, c = ':' ∨ SchemeKind.plain.endsAuthority c = true) :
    splitHost .plain false (cs ++ rest) = (cs, rest) := by
  have hends : ∀ c ∈ cs, SchemeKind.plain.endsAuthority c = false := fun c => h.endsAuthority
  rcases h with ⟨a, -, rfl⟩ | h
  · have hinner : ∀ c ∈ a.text.toList, SchemeKind.plain.endsAuthority c = false ∧ c ≠ ']' := by
      refine fun c hc => ⟨hends c (by simp [hc]), ?_⟩
      rintro rfl
      rcases Ipv6.mem_text hc with hc | hc
      · cases hc
      · cases hc
    have hafter : Connection.splitHost .plain false rest = ([], rest) :=
      splitHost_open (List.forall_mem_nil _) hrest
    have hstate : (if '[' = '[' then true else if '[' = ']' then false else false) = true := if_pos rfl
    rw [List.cons_append, List.append_assoc, Connection.splitHost, if_neg (by decide)]
    dsimp only
    rw [hstate, List.singleton_append, splitHost_bracketed hinner, hafter]
  · refine splitHost_open (fun c hc => ⟨hends c hc, ?_, ?_⟩) hrest
    · rintro rfl
      cases (h ':' hc).2.2
    · rintro rfl
      cases (h '[' hc).2.2

/-! ## Ports -/

/-- A port as it is written. -/
def portChars (port : Option Nat) : List Char := (port.map fun port => ':' :: Nat.toDigits 10 port).getD []

theorem mem_portChars {port : Option Nat} {c : Char} (hc : c ∈ portChars port) : c = ':' ∨ c.isDigit = true := by
  cases port with
  | none => exact absurd hc List.not_mem_nil
  | some n =>
    exact (List.mem_cons.mp hc).imp_right fun hc => Nat.isDigit_of_mem_toDigits (by decide) (by decide) hc

theorem not_blank_of_isDigit {c : Char} (h : c.isDigit = true) : 32 < c.toNat :=
  Nat.lt_of_lt_of_le (by decide) (Char.isDigit_iff_toNat.mp h).1

theorem not_blank_portChars {port : Option Nat} {c : Char} (hc : c ∈ portChars port) : 32 < c.toNat := by
  rcases mem_portChars hc with rfl | hdigit
  · decide
  · exact not_blank_of_isDigit hdigit

theorem readPort_portChars {scheme : String} {port : Option Nat} (hscheme : defaultPort? scheme = none)
    (hport : ∀ n ∈ port, n ≤ 65535) (hrest : FollowsAuthority rest) :
    readPort scheme (portChars port ++ rest) = .ok (port, rest) := by
  cases port with
  | none =>
    show readPort scheme rest = _
    unfold readPort
    split
    · cases endsAuthority_iff.mp (hrest ':' rfl) <;> simp_all
    · rfl
  | some n =>
    have hdigits : ∀ c ∈ Nat.toDigits 10 n, c.isDigit = true := fun c hc =>
      Nat.isDigit_of_mem_toDigits (by decide) (by decide) hc
    have hstop : ∀ c ∈ rest.head?, c.isDigit = false := by
      intro c hc
      rcases endsAuthority_iff.mp (hrest c hc) with rfl | rfl | rfl <;> rfl
    obtain ⟨htake, hdrop⟩ := takeWhile_append_stop hdigits hstop
    have hvalue : (Nat.toDigits 10 n).foldl (fun n c => 10 * n + (c.toNat - 48)) 0 = n :=
      Nat.ofDigitChars_eq_foldl.symm.trans Nat.ofDigitChars_ten_toDigits
    have hfollows : rest.head?.all (fun c => ['/', '\\', '?', '#'].contains c) = true := by
      rw [Option.all_eq_true]
      intro c hc
      rcases endsAuthority_iff.mp (hrest c hc) with rfl | rfl | rfl <;> rfl
    show readPort scheme (':' :: (Nat.toDigits 10 n ++ rest)) = _
    simp only [readPort, htake, hdrop, hvalue, hfollows, hscheme]
    have hle : ¬65535 < n := Nat.not_lt.mpr (hport n rfl)
    simp [hle, Nat.toDigits_ne_nil]

theorem readPort_le {scheme : String} {port : Option Nat} (h : readPort scheme cs = .ok (port, rest)) :
    ∀ n ∈ port, n ≤ 65535 := by
  unfold readPort at h
  split at h
  · dsimp only at h
    split at h
    · cases h
    next hle =>
      split at h
      · cases h
        exact nofun
      · cases h
        rintro n ⟨rfl⟩
        rw [Bool.or_eq_true, not_or, decide_eq_true_eq, Nat.not_lt] at hle
        exact hle.1
  · cases h
    exact nofun

/-! ## Credentials -/

theorem partAtLastSign_of_not_mem (h : '@' ∉ cs) : partAtLastSign cs = none := by
  have hreverse : (cs.reverse ++ []).takeWhile (· != '@') = cs.reverse :=
    takeWhile_ne_append (List.mem_reverse.not.mpr h) nofun
  have hhost : (cs.reverse.takeWhile (· != '@')).reverse = cs := by
    rw [← List.append_nil cs.reverse, hreverse, List.reverse_reverse]
  unfold partAtLastSign
  dsimp only
  rw [hhost, if_pos rfl]

/-- After the last `@` there is no other one. -/
theorem partAtLastSign_append {host : List Char} (h : '@' ∉ host) (userinfo : List Char) :
    partAtLastSign (userinfo ++ '@' :: host) = some (userinfo, host) := by
  have hhost : ((userinfo ++ '@' :: host).reverse.takeWhile (· != '@')).reverse = host := by
    rw [List.reverse_append, List.reverse_cons, List.append_assoc,
      takeWhile_ne_append (List.mem_reverse.not.mpr h) (by simp), List.reverse_reverse]
  have hlength : (userinfo ++ '@' :: host).length - host.length - 1 = userinfo.length := by
    rw [List.length_append, List.length_cons]
    omega
  unfold partAtLastSign
  dsimp only
  rw [hhost, if_neg, hlength, List.take_left]
  rw [List.length_append, List.length_cons]
  omega

/-- A user name or a password as it is written. -/
def IsUserinfo (cs : List Char) : Prop := ∀ c ∈ cs, c.toNat < 128 ∧ Text.inUserinfoSet c = false

theorem isUserinfo_encodeUserinfo (s : String) : IsUserinfo (encodeUserinfo s).toList := by
  intro c hc
  rw [encodeUserinfo, String.toList_ofList] at hc
  exact Text.kept_of_mem_percentEncode Text.sparesEscapes_inUserinfoSet hc

namespace IsUserinfo

theorem encodeUserinfo (h : IsUserinfo cs) : encodeUserinfo (String.ofList cs) = String.ofList cs := by
  rw [Connection.encodeUserinfo, String.toList_ofList, Text.percentEncode_eq_self h]

theorem not_mem (h : IsUserinfo cs) {c : Char} (hc : Text.inUserinfoSet c = true) : c ∉ cs := fun hmem => by
  cases hc.symm.trans (h c hmem).2

theorem endsAuthority (h : IsUserinfo cs) {c : Char} (hc : c ∈ cs) : SchemeKind.plain.endsAuthority c = false := by
  refine Bool.eq_false_iff.mpr fun hends => ?_
  rcases endsAuthority_iff.mp hends with rfl | rfl | rfl
  · exact h.not_mem rfl hc
  · exact h.not_mem rfl hc
  · exact h.not_mem rfl hc

theorem not_blank (h : IsUserinfo cs) {c : Char} (hc : c ∈ cs) : 32 < c.toNat := by
  have hall : ∀ n ≤ 32, Text.inUserinfoSet (Char.ofNat n) = true := by decide
  refine Nat.not_le.mp fun hle => ?_
  have hset := hall c.toNat hle
  rw [Char.ofNat_toNat, (h c hc).2] at hset
  cases hset

end IsUserinfo

/-- A user name and a password as they are written together. -/
def userinfoChars (username password : List Char) : List Char :=
  username ++ if password.isEmpty then [] else ':' :: password

/-- Credentials as they are written before a host. -/
def credentialsChars (username password : List Char) : List Char :=
  if username.isEmpty && password.isEmpty then [] else userinfoChars username password ++ ['@']

theorem mem_credentialsChars {username password : List Char} {c : Char} (hc : c ∈ credentialsChars username password) :
    c ∈ username ∨ c ∈ password ∨ c = ':' ∨ c = '@' := by
  unfold credentialsChars userinfoChars at hc
  split at hc
  · exact absurd hc List.not_mem_nil
  split at hc
  · rw [List.append_nil, List.mem_append, List.mem_singleton] at hc
    exact hc.imp_right fun hc => .inr (.inr hc)
  · rw [List.mem_append, List.mem_append, List.mem_cons, List.mem_singleton] at hc
    rcases hc with (hc | hc | hc) | hc
    · exact .inl hc
    · exact .inr (.inr (.inl hc))
    · exact .inr (.inl hc)
    · exact .inr (.inr (.inr hc))

section Credentials

variable {username password : List Char} (husername : IsUserinfo username) (hpassword : IsUserinfo password)
include husername

/-- A user name ends at the first colon, and the password follows it. -/
theorem userinfoChars_parts : (userinfoChars username password).takeWhile (· != ':') = username ∧
    (userinfoChars username password).drop (username.length + 1) = password := by
  unfold userinfoChars
  constructor
  · refine takeWhile_ne_append (husername.not_mem rfl) ?_
    cases password with
    | nil => simp
    | cons c password => simp
  · cases password with
    | nil => simp
    | cons c password => simp [List.drop_append]

include hpassword

theorem endsAuthority_credentialsChars {c : Char} (hc : c ∈ credentialsChars username password) :
    SchemeKind.plain.endsAuthority c = false := by
  rcases mem_credentialsChars hc with hc | hc | rfl | rfl
  · exact husername.endsAuthority hc
  · exact hpassword.endsAuthority hc
  · rfl
  · rfl

theorem not_blank_credentialsChars {c : Char} (hc : c ∈ credentialsChars username password) : 32 < c.toNat := by
  rcases mem_credentialsChars hc with hc | hc | rfl | rfl
  · exact husername.not_blank hc
  · exact hpassword.not_blank hc
  · decide
  · decide

/-- Written credentials are read as they are, if no other `@` follows in the authority. -/
theorem readCredentials_credentialsChars (hcs : ∀ c ∈ cs, SchemeKind.plain.endsAuthority c = false) (hsign : '@' ∉ cs)
    (hrest : FollowsAuthority rest) : readCredentials .plain (credentialsChars username password ++ (cs ++ rest)) =
      .ok (⟨String.ofList username, String.ofList password⟩, cs ++ rest) := by
  have hall : ∀ c ∈ credentialsChars username password ++ cs, (!SchemeKind.plain.endsAuthority c) = true := by
    intro c hc
    rcases List.mem_append.mp hc with hc | hc
    · simp [endsAuthority_credentialsChars husername hpassword hc]
    · simp [hcs c hc]
  have hstop : ∀ c ∈ rest.head?, (!SchemeKind.plain.endsAuthority c) = false := fun c hc => by simp [hrest c hc]
  obtain ⟨htake, hdrop⟩ := takeWhile_append_stop hall hstop
  rw [List.append_assoc] at htake hdrop
  unfold readCredentials
  simp only [htake, hdrop]
  by_cases hempty : (username.isEmpty && password.isEmpty) = true
  · obtain ⟨rfl, rfl⟩ : username = [] ∧ password = [] := by simpa using hempty
    rw [credentialsChars, if_pos hempty, List.nil_append, partAtLastSign_of_not_mem hsign]
    rfl
  · have hsplit : credentialsChars username password ++ cs = userinfoChars username password ++ '@' :: cs := by
      rw [credentialsChars, if_neg hempty, List.append_assoc]
      rfl
    have hne : userinfoChars username password ≠ [] := by
      intro hnil
      obtain ⟨rfl, hpw⟩ := List.append_eq_nil_iff.mp hnil
      split at hpw
      next hnone => exact hempty (by simpa using hnone)
      · cases hpw
    obtain ⟨husername', hpassword'⟩ : (userinfoChars username password).takeWhile (· != ':') = username ∧
        (userinfoChars username password).drop (username.length + 1) = password := userinfoChars_parts husername
    rw [hsplit, partAtLastSign_append hsign]
    split
    next heq => cases heq
    next heq => exact absurd (congrArg Prod.fst (Option.some.inj heq)) hne
    next heq =>
      cases heq
      rw [husername', hpassword', husername.encodeUserinfo, hpassword.encodeUserinfo]

end Credentials

/-! ## Authorities -/

theorem endsAuthority_portChars {port : Option Nat} {c : Char} (hc : c ∈ portChars port) :
    SchemeKind.plain.endsAuthority c = false ∧ c ≠ '@' := by
  rcases mem_portChars hc with rfl | hdigit
  · exact ⟨rfl, by decide⟩
  · refine ⟨Bool.eq_false_iff.mpr fun hends => ?_, ?_⟩
    · rcases endsAuthority_iff.mp hends with rfl | rfl | rfl <;> cases hdigit
    · rintro rfl
      cases hdigit

/-- A written authority is read as it is. -/
theorem readAuthority_written {scheme : String} {username password host : List Char} {port : Option Nat}
    (hscheme : defaultPort? scheme = none) (husername : IsUserinfo username) (hpassword : IsUserinfo password)
    (hhost : IsHost host) (hne : host ≠ []) (hport : ∀ n ∈ port, n ≤ 65535) (hrest : FollowsAuthority rest) :
    readAuthority scheme .plain (credentialsChars username password ++ (host ++ portChars port ++ rest)) =
      .ok (⟨⟨String.ofList username, String.ofList password⟩, String.ofList host, port⟩, rest) := by
  have hends : ∀ c ∈ host ++ portChars port, SchemeKind.plain.endsAuthority c = false := by
    intro c hc
    rcases List.mem_append.mp hc with hc | hc
    · exact hhost.endsAuthority hc
    · exact (endsAuthority_portChars hc).1
  have hsign : '@' ∉ host ++ portChars port := by
    intro hc
    rcases List.mem_append.mp hc with hc | hc
    · exact hhost.not_mem (by simp) hc
    · exact (endsAuthority_portChars hc).2 rfl
  have hafter : ∀ c ∈ (portChars port ++ rest).head?, c = ':' ∨ SchemeKind.plain.endsAuthority c = true := by
    intro c hc
    cases port with
    | none => exact .inr (hrest c hc)
    | some n => exact .inl (Option.some.inj hc).symm
  have hcredentials := readCredentials_credentialsChars husername hpassword hends hsign hrest
  have hempty : (String.ofList host).isEmpty = false := by simpa using hne
  unfold readAuthority
  rw [hcredentials, List.append_assoc]
  simp [bind, Except.bind, hhost.splitHost hafter, hhost.readOpaqueHost, readPort_portChars hscheme hport hrest, hne,
    hempty, SchemeKind.isSpecial]
  rfl

/-- The stages in which an authority is read. -/
theorem readAuthority_stages {scheme : String} {authority : Authority}
    (h : readAuthority scheme .plain cs = .ok (authority, rest)) : ∃ credentials after,
      readCredentials .plain cs = .ok (credentials, after) ∧
      readOpaqueHost (splitHost .plain false after).1 = .ok authority.host ∧
      readPort scheme (splitHost .plain false after).2 = .ok (authority.port, rest) := by
  unfold readAuthority at h
  cases hcredentials : readCredentials .plain cs with
  | error e =>
    rw [hcredentials] at h
    cases h
  | ok found =>
    rw [hcredentials] at h
    simp only [bind, Except.bind] at h
    split at h
    · cases h
    rw [if_neg (by decide)] at h
    cases hhost : readOpaqueHost (splitHost .plain false found.2).1 with
    | error e =>
      rw [hhost] at h
      cases h
    | ok host =>
      rw [hhost] at h
      cases hport : readPort scheme (splitHost .plain false found.2).2 with
      | error e =>
        rw [hport] at h
        cases h
      | ok found' =>
        simp only [hport] at h
        split at h
        · cases h
        · cases h
          exact ⟨found.1, found.2, rfl, hhost, hport⟩

/-- An authority that is read has a written host and a port of 16 bits. -/
theorem readAuthority_eq_ok {scheme : String} {authority : Authority}
    (h : readAuthority scheme .plain cs = .ok (authority, rest)) :
    IsHost authority.host.toList ∧ ∀ n ∈ authority.port, n ≤ 65535 := by
  obtain ⟨credentials, after, -, hhost, hport⟩ := readAuthority_stages h
  exact ⟨isHost_of_readOpaqueHost hhost, readPort_le hport⟩

/-! ## Texts of URLs -/

/-- What a text starts with stays if it has no blanks; something may be taken off its end. -/
theorem trimmed_append (hne : cs ≠ []) (hcs : ∀ c ∈ cs, 32 < c.toNat) (rest : List Char) :
    ∃ rest', rest' <+: rest ∧ trimmed (cs ++ rest) = cs ++ rest' := by
  have hfront : (cs ++ rest).dropWhile (fun c => decide (c.toNat ≤ 32)) = cs ++ rest := by
    obtain ⟨c, cs, rfl⟩ := List.exists_cons_of_ne_nil hne
    exact List.dropWhile_cons_of_neg (by simpa using hcs c List.mem_cons_self)
  have hback : cs.reverse.dropWhile (fun c => decide (c.toNat ≤ 32)) = cs.reverse := by
    obtain ⟨c, cs', hreverse⟩ := List.exists_cons_of_ne_nil (List.reverse_ne_nil_iff.mpr hne)
    have hmem : c ∈ cs := List.mem_reverse.mp (hreverse ▸ List.mem_cons_self)
    rw [hreverse]
    exact List.dropWhile_cons_of_neg (by simpa using hcs c hmem)
  refine ⟨(rest.reverse.dropWhile fun c => decide (c.toNat ≤ 32)).reverse, ?_, ?_⟩
  · rw [← List.reverse_suffix, List.reverse_reverse]
    exact List.dropWhile_suffix _
  · unfold trimmed
    dsimp only
    rw [hfront, List.reverse_append, List.dropWhile_append]
    split
    next hblank =>
      rw [hback, List.isEmpty_iff.mp hblank, List.reverse_reverse, List.reverse_nil, List.append_nil]
    · rw [List.reverse_append, List.reverse_reverse]

/-- Nothing is taken off the ends of a text that has no blanks there. -/
theorem trimmed_eq_self (hfirst : ∀ c ∈ cs.head?, 32 < c.toNat) (hlast : ∀ c ∈ cs.getLast?, 32 < c.toNat) :
    trimmed cs = cs := by
  have hkept : ∀ {cs : List Char}, (∀ c ∈ cs.head?, 32 < c.toNat) →
      cs.dropWhile (fun c => decide (c.toNat ≤ 32)) = cs := by
    intro cs h
    cases cs with
    | nil => rfl
    | cons c cs => exact List.dropWhile_cons_of_neg (by simpa using h c rfl)
  unfold trimmed
  dsimp only
  rw [hkept hfirst, hkept (by rwa [List.head?_reverse]), List.reverse_reverse]

theorem significant_append (hcs : ∀ c ∈ cs, 32 < c.toNat) (rest : List Char) :
    significant (cs ++ rest) = cs ++ significant rest := by
  unfold significant
  rw [List.filter_append, List.filter_eq_self.mpr]
  intro c hc
  have hlt := hcs c hc
  simp only [Bool.not_eq_eq_eq_not, Bool.not_true, Bool.or_eq_false_iff, beq_eq_false_iff_ne]
  refine ⟨⟨?_, ?_⟩, ?_⟩
  · rintro rfl
    exact absurd hlt (by decide)
  · rintro rfl
    exact absurd hlt (by decide)
  · rintro rfl
    exact absurd hlt (by decide)

/-- What is read of a text that starts without blanks starts with the same characters. Of the others some may be left
out, and then what follows an authority still does. -/
theorem exists_significant (hne : cs ≠ []) (hcs : ∀ c ∈ cs, 32 < c.toNat) (rest : List Char) :
    ∃ rest', significant (trimmed (cs ++ rest)) = cs ++ rest' ∧ rest' ⊆ rest ∧
      (FollowsAuthority rest → FollowsAuthority rest') := by
  obtain ⟨kept, hkept, htrimmed⟩ := trimmed_append hne hcs rest
  refine ⟨significant kept, by rw [htrimmed, significant_append hcs],
    List.Subset.trans (List.filter_subset_self _) hkept.subset, fun hrest => ?_⟩
  cases kept with
  | nil => exact nofun
  | cons c kept =>
    obtain ⟨after, rfl⟩ := hkept
    have hc := hrest c rfl
    have hstays : significant (c :: kept) = c :: significant kept := by
      rcases endsAuthority_iff.mp hc with rfl | rfl | rfl <;> rfl
    rw [hstays]
    rintro d ⟨rfl⟩
    exact hc

/-- What a URL of a database starts with. -/
def postgresPrefix : List Char := ['p', 'o', 's', 't', 'g', 'r', 'e', 's', ':', '/', '/']

theorem not_blank_postgresPrefix : ∀ c ∈ postgresPrefix, 32 < c.toNat := by simp [postgresPrefix]

/-- A URL of a database is read as its authority and what follows. -/
theorem ofText_postgres {s : String} (h : significant (trimmed s.toList) = postgresPrefix ++ cs) :
    Url.ofText s = (readAuthority "postgres" .plain cs).map fun (authority, rest) =>
      finish "postgres" .plain (some authority) rest := by
  have hscheme : readScheme? (postgresPrefix ++ cs) = some ("postgres", '/' :: '/' :: cs) := by rfl
  have hkind : SchemeKind.of "postgres" = .plain := by decide
  unfold Url.ofText
  rw [h, hscheme]
  dsimp only
  rw [hkind]
  show (readAuthority "postgres" .plain cs >>= fun found => pure (finish "postgres" .plain (some found.1) found.2)) = _
  cases readAuthority "postgres" .plain cs with
  | error e => rfl
  | ok found => rfl

/-- A mark by which a query or a fragment starts. -/
def isTailMark (c : Char) : Bool := c == '?' || c == '#'

/-- Without a mark there is neither a query nor a fragment. -/
theorem finish_of_no_mark {scheme : String} {kind : SchemeKind} {authority : Option Authority}
    (h : ∀ c ∈ cs, isTailMark c = false) :
    (finish scheme kind authority cs).query = none ∧ (finish scheme kind authority cs).fragment = none := by
  have hdrop : cs.dropWhile (fun c => !isTailMark c) = [] :=
    List.dropWhile_eq_nil_iff.mpr fun c hc => by rw [h c hc]; rfl
  have htail : readTail kind (cs.dropWhile fun c => !isTailMark c) = (none, none) := by
    rw [hdrop]
    rfl
  exact ⟨congrArg Prod.fst htail, congrArg Prod.snd htail⟩

namespace Url

/-- The parts of a URL of a database up to its path are as they are written. -/
structure Settled (u : Url) : Prop where
  scheme : u.scheme = "postgres"
  username : IsUserinfo u.username.toList
  password : IsUserinfo u.password.toList
  host : ∃ host, u.host = some host ∧ host.toList ≠ [] ∧ IsHost host.toList
  port : ∀ n ∈ u.port, n ≤ 65535
  path : ∀ c ∈ u.path.toList.head?, c = '/'

/-- What is written after the authority. -/
def tailChars (u : Url) : List Char :=
  u.path.toList ++ (((u.query.map ("?" ++ ·)).getD "").toList ++ ((u.fragment.map ("#" ++ ·)).getD "").toList)

theorem followsAuthority_tailChars {u : Url} (h : ∀ c ∈ u.path.toList.head?, c = '/') :
    FollowsAuthority u.tailChars := by
  intro c hc
  unfold tailChars at hc
  rw [endsAuthority_iff]
  cases hpath : u.path.toList with
  | cons d path =>
    rw [hpath] at h hc
    exact .inl (h c hc)
  | nil =>
    rw [hpath] at hc
    cases hquery : u.query with
    | some query =>
      have hmark : '?' = c := by simpa [hquery, String.toList_append] using hc
      exact .inr (.inl hmark.symm)
    | none =>
      cases hfragment : u.fragment with
      | some fragment =>
        have hmark : '#' = c := by simpa [hquery, hfragment, String.toList_append] using hc
        exact .inr (.inr hmark.symm)
      | none => simp [hquery, hfragment] at hc

theorem toList_credentialsText (u : Url) :
    u.credentialsText.toList = credentialsChars u.username.toList u.password.toList := by
  have hempty : ∀ s : String, s.toList.isEmpty = s.isEmpty := fun s => by
    rw [Bool.eq_iff_iff]
    simp
  unfold credentialsText credentialsChars userinfoChars
  rw [hempty, hempty]
  by_cases hnone : (u.username.isEmpty && u.password.isEmpty) = true
  · rw [if_pos hnone, if_pos hnone]
    rfl
  · rw [if_neg hnone, if_neg hnone, String.toList_append, String.toList_append]
    split
    · rfl
    · rw [String.toList_append]
      rfl

theorem toList_portText (port : Option Nat) :
    ((port.map fun port => ":" ++ toString port).getD "").toList = portChars port := by
  cases port with
  | none => rfl
  | some n =>
    have hdigits : (toString n).toList = Nat.toDigits 10 n := by
      rw [Nat.toString_eq_ofList_toDigits, String.toList_ofList]
    show (":" ++ toString n).toList = ':' :: Nat.toDigits 10 n
    rw [String.toList_append, hdigits]
    rfl

theorem toList_text {u : Url} (h : u.Settled) {host : String} (hhost : u.host = some host) :
    u.text.toList = postgresPrefix ++
      (credentialsChars u.username.toList u.password.toList ++ (host.toList ++ portChars u.port ++ u.tailChars)) := by
  unfold text authorityText tailChars
  rw [h.scheme, hhost]
  simp only [String.toList_append, toList_credentialsText, toList_portText, List.append_assoc]
  rfl

/-- The text of a URL is read with the same scheme, credentials, host and port, and without a query and a fragment if
there are none. -/
theorem ofText_text {u : Url} (h : u.Settled) : ∃ v, ofText u.text = .ok v ∧ v.scheme = u.scheme ∧
    v.username = u.username ∧ v.password = u.password ∧ v.host = u.host ∧ v.port = u.port ∧
    ((∀ c ∈ u.tailChars, isTailMark c = false) → v.query = none ∧ v.fragment = none) := by
  obtain ⟨host, hhost, hne, hishost⟩ := h.host
  have hblank : ∀ c ∈ postgresPrefix ++ (credentialsChars u.username.toList u.password.toList ++ (host.toList ++
      portChars u.port)), 32 < c.toNat := by
    intro c hc
    simp only [List.mem_append] at hc
    rcases hc with hc | hc | hc | hc
    · exact not_blank_postgresPrefix c hc
    · exact not_blank_credentialsChars h.username h.password hc
    · exact hishost.not_blank hc
    · exact not_blank_portChars hc
  obtain ⟨rest, hrest, hsub, hfollows⟩ := exists_significant (by simp [postgresPrefix]) hblank u.tailChars
  have hread : significant (trimmed u.text.toList) = postgresPrefix ++
      (credentialsChars u.username.toList u.password.toList ++ (host.toList ++ portChars u.port ++ rest)) := by
    rw [toList_text h hhost]
    simpa only [List.append_assoc] using hrest
  rw [ofText_postgres hread, readAuthority_written rfl h.username h.password hishost hne h.port
    (hfollows (followsAuthority_tailChars h.path))]
  refine ⟨_, rfl, h.scheme.symm, ?_, ?_, ?_, rfl, fun htail => finish_of_no_mark fun c hc => htail c (hsub hc)⟩
  · exact String.ofList_toList
  · exact String.ofList_toList
  · rw [hhost]
    exact congrArg some String.ofList_toList

end Url

end SchemaJournal.Connection
