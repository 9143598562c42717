import Mathlib.Data.List.Induction
import SchemaJournal.Connection.Address
import SchemaJournal.Proofs.Text.Percent

/-!
# Addresses and their texts

An address that was read is spelt with digits, colons and dots (`isSpelling_of_ofText?`) and has eight pieces of 16 bits
(`wellFormed_of_ofText?`), and then its text is read as the address (`ofText?_text`): a gap in the text stands for zero
pieces that are left out (`drop_longestRun`), and all other pieces are written in digits (`piecesOfText?_colonChars`),
between which there is no gap (`partAtGap_colonChars`).
-/

namespace SchemaJournal.Connection

/-! ## Parts between separators -/

theorem splitOn_ne_nil (separator : Char) (cs : List Char) : splitOn separator cs ≠ [] := by
  cases cs with
  | nil => exact List.cons_ne_nil _ _
  | cons c cs =>
    unfold splitOn
    split
    · exact List.cons_ne_nil _ _
    · split
      · exact List.cons_ne_nil _ _
      · exact List.cons_ne_nil _ _

theorem splitOn_of_not_mem {separator : Char} {part : List Char} (h : separator ∉ part) :
    splitOn separator part = [part] := by
  induction part with
  | nil => rfl
  | cons c part ih =>
    obtain ⟨hne, hpart⟩ := not_or.mp (List.mem_cons.not.mp h)
    simp only [splitOn, ih hpart, if_neg (Ne.symm hne)]

/-- Up to the first separator is the first part. -/
theorem splitOn_append {separator : Char} {part : List Char} (h : separator ∉ part) (cs : List Char) :
    splitOn separator (part ++ separator :: cs) = part :: splitOn separator cs := by
  induction part with
  | nil =>
    obtain ⟨first, parts, hsplit⟩ := List.exists_cons_of_ne_nil (splitOn_ne_nil separator cs)
    rw [List.nil_append, splitOn, hsplit]
    exact if_pos rfl
  | cons c part ih =>
    obtain ⟨hne, hpart⟩ := not_or.mp (List.mem_cons.not.mp h)
    simp only [List.cons_append, splitOn, ih hpart, if_neg (Ne.symm hne)]

/-- The separators apart, all characters of a text are in its parts. -/
theorem mem_splitOn {separator c : Char} {cs : List Char} (h : c ∈ cs) :
    c = separator ∨ ∃ part ∈ splitOn separator cs, c ∈ part := by
  induction cs with
  | nil => exact absurd h List.not_mem_nil
  | cons d cs ih =>
    obtain ⟨first, parts, hsplit⟩ := List.exists_cons_of_ne_nil (splitOn_ne_nil separator cs)
    rw [hsplit] at ih
    rw [splitOn, hsplit]
    dsimp only
    split
    next hd =>
      rcases List.mem_cons.mp h with rfl | h
      · exact .inl hd
      · exact (ih h).imp_right fun ⟨part, hpart, hc⟩ => ⟨part, List.mem_cons_of_mem _ hpart, hc⟩
    · rcases List.mem_cons.mp h with rfl | h
      · exact .inr ⟨c :: first, List.mem_cons_self, List.mem_cons_self⟩
      · refine (ih h).imp_right fun ⟨part, hpart, hc⟩ => ?_
        rcases List.mem_cons.mp hpart with rfl | hpart
        · exact ⟨d :: part, List.mem_cons_self, List.mem_cons_of_mem _ hc⟩
        · exact ⟨part, List.mem_cons_of_mem _ hpart, hc⟩

theorem mem_intercalate {separator c : Char} {parts : List (List Char)} (h : c ∈ [separator].intercalate parts) :
    c = separator ∨ ∃ part ∈ parts, c ∈ part := by
  induction parts with
  | nil => exact absurd h List.not_mem_nil
  | cons part parts ih =>
    cases parts with
    | nil => exact .inr ⟨part, List.mem_cons_self, by simpa [List.intercalate] using h⟩
    | cons next parts =>
      have hsplit : [separator].intercalate (part :: next :: parts) =
          part ++ separator :: [separator].intercalate (next :: parts) := by simp [List.intercalate]
      rw [hsplit, List.mem_append, List.mem_cons] at h
      rcases h with h | h | h
      · exact .inr ⟨part, List.mem_cons_self, h⟩
      · exact .inl h
      · exact (ih h).imp_right fun ⟨other, hother, hc⟩ => ⟨other, List.mem_cons_of_mem _ hother, hc⟩

/-- Where a list is read, each of its members is. -/
theorem exists_of_mapM_eq_some {α β : Type} {f : α → Option β} {xs : List α} {ys : List β} (h : xs.mapM f = some ys) :
    ∀ x ∈ xs, ∃ y, f x = some y := by
  induction xs generalizing ys with
  | nil => exact fun x hx => absurd hx List.not_mem_nil
  | cons x xs ih =>
    rw [List.mapM_cons] at h
    obtain ⟨y, hy, h⟩ := Option.bind_eq_some_iff.mp h
    obtain ⟨ys', hys, -⟩ := Option.bind_eq_some_iff.mp h
    exact List.forall_mem_cons.mpr ⟨⟨y, hy⟩, ih hys⟩

/-- What holds of all that is read holds of what is read from a list. -/
theorem forall_of_mapM_eq_some {α β : Type} {f : α → Option β} {P : β → Prop} (hf : ∀ x y, f x = some y → P y)
    {xs : List α} {ys : List β} (h : xs.mapM f = some ys) : ∀ y ∈ ys, P y := by
  induction xs generalizing ys with
  | nil =>
    cases h
    exact fun y hy => absurd hy List.not_mem_nil
  | cons x xs ih =>
    rw [List.mapM_cons] at h
    obtain ⟨y, hy, h⟩ := Option.bind_eq_some_iff.mp h
    obtain ⟨ys', hys, h⟩ := Option.bind_eq_some_iff.mp h
    cases h
    exact List.forall_mem_cons.mpr ⟨hf x y hy, ih hys⟩

/-! ## Digits -/

theorem digitsValue?_concat (base : Nat) (cs : List Char) (c : Char) : digitsValue? base (cs ++ [c]) =
    (digitsValue? base cs).bind fun n => (Text.hexValue? c).bind fun d =>
      if d < base then some (base * n + d) else none := by
  rw [digitsValue?, List.foldl_append]
  rfl

theorem digitsValue?_lt {base n : Nat} {cs : List Char} (h : digitsValue? base cs = some n) :
    n < Nat.pow base cs.length := by
  induction cs using List.reverseRecOn generalizing n with
  | nil =>
    cases h
    exact Nat.one_pos
  | append_singleton cs c ih =>
    rw [digitsValue?_concat] at h
    obtain ⟨high, hhigh, h⟩ := Option.bind_eq_some_iff.mp h
    obtain ⟨d, -, h⟩ := Option.bind_eq_some_iff.mp h
    split at h
    next hd =>
      cases h
      have hstep : base * (high + 1) ≤ base * Nat.pow base cs.length := Nat.mul_le_mul_left base (ih hhigh)
      rw [List.length_append, List.length_singleton]
      show base * high + d < Nat.pow base cs.length * base
      rw [Nat.mul_comm (Nat.pow base cs.length)]
      rw [Nat.mul_add] at hstep
      omega
    · cases h

/-- What has a value is spelt with digits. -/
theorem isHexDigit_of_digitsValue? {base n : Nat} {cs : List Char} (h : digitsValue? base cs = some n) :
    ∀ c ∈ cs, Text.isHexDigit c = true := by
  induction cs using List.reverseRecOn generalizing n with
  | nil => exact fun c hc => absurd hc List.not_mem_nil
  | append_singleton cs d ih =>
    rw [digitsValue?_concat] at h
    obtain ⟨m, hm, h⟩ := Option.bind_eq_some_iff.mp h
    obtain ⟨value, hvalue, -⟩ := Option.bind_eq_some_iff.mp h
    intro c hc
    rcases List.mem_append.mp hc with hc | hc
    · exact ih hm c hc
    · rw [List.mem_singleton.mp hc, Text.isHexDigit, hvalue]
      rfl

theorem hexValue?_digitChar : ∀ d < 16, Text.hexValue? d.digitChar = some d := by decide

theorem digitsValue?_toDigits (n : Nat) : digitsValue? 16 (Nat.toDigits 16 n) = some n := by
  have hdigit : ∀ d < 16, digitsValue? 16 [d.digitChar] = some d := by decide
  induction n using Nat.strongRecOn with
  | ind n ih =>
    rw [Nat.toDigits_eq_if (by decide)]
    split
    next hlt => exact hdigit n hlt
    next hge =>
      have hlt : n % 16 < 16 := Nat.mod_lt n (by decide)
      rw [digitsValue?_concat, ih (n / 16) (by omega), Option.bind_some, hexValue?_digitChar _ hlt, Option.bind_some,
        if_pos hlt, Nat.div_add_mod]

theorem isHexDigit_of_mem_toDigits {n : Nat} {c : Char} (h : c ∈ Nat.toDigits 16 n) : Text.isHexDigit c = true := by
  have hdigit : ∀ d < 16, Text.isHexDigit d.digitChar = true := by decide
  induction n using Nat.strongRecOn with
  | ind n ih =>
    rw [Nat.toDigits_eq_if (by decide)] at h
    split at h
    next hlt =>
      rw [List.mem_singleton.mp h]
      exact hdigit n hlt
    next hge =>
      rcases List.mem_append.mp h with h | h
      · exact ih (n / 16) (by omega) h
      · rw [List.mem_singleton.mp h]
        exact hdigit _ (Nat.mod_lt n (by decide))

theorem not_mem_toDigits {c : Char} (hc : Text.isHexDigit c = false) (n : Nat) : c ∉ Nat.toDigits 16 n := fun h => by
  cases hc.symm.trans (isHexDigit_of_mem_toDigits h)

namespace Ipv6

variable {a : Ipv6} {pieces : List Nat} {cs : List Char}

/-- Eight pieces of 16 bits. -/
structure WellFormed (a : Ipv6) : Prop where
  length : a.pieces.length = 8
  lt : ∀ n ∈ a.pieces, n < 65536

/-! ## What is read -/

theorem piece?_lt {n : Nat} (h : piece? cs = some n) : n < 65536 := by
  unfold piece? at h
  split at h
  · cases h
  next hlength =>
    have hle : cs.length ≤ 4 := by
      rw [Bool.or_eq_true, not_or, decide_eq_true_eq, Nat.not_lt] at hlength
      exact hlength.2
    exact Nat.lt_of_lt_of_le (digitsValue?_lt h) (Nat.pow_le_pow_right (by decide) hle)

theorem decimalPart?_le {n : Nat} (h : decimalPart? cs = some n) : n ≤ 255 := by
  unfold decimalPart? at h
  split at h
  · cases h
  · simpa using (Option.filter_eq_some_iff.mp h).2

theorem lastPieces?_lt (h : lastPieces? cs = some pieces) : ∀ n ∈ pieces, n < 65536 := by
  unfold lastPieces? at h
  split at h
  · split at h
    next a b c d hparts =>
      cases h
      have hle := forall_of_mapM_eq_some (P := (· ≤ 255)) (fun _ _ => decimalPart?_le) hparts
      simp only [List.mem_cons, List.not_mem_nil, or_false, forall_eq_or_imp, forall_eq] at hle ⊢
      omega
    · cases h
  · obtain ⟨n, hn, rfl⟩ := Option.map_eq_some_iff.mp h
    exact List.forall_mem_singleton.mpr (piece?_lt hn)

theorem piecesOf?_lt {parts : List (List Char)} (h : piecesOf? parts = some pieces) : ∀ n ∈ pieces, n < 65536 := by
  induction parts generalizing pieces with
  | nil =>
    cases h
    exact fun n hn => absurd hn List.not_mem_nil
  | cons part parts ih =>
    cases parts with
    | nil => exact lastPieces?_lt h
    | cons next parts =>
      obtain ⟨n, hn, h⟩ := Option.bind_eq_some_iff.mp h
      obtain ⟨rest, hrest, h⟩ := Option.bind_eq_some_iff.mp h
      cases h
      exact List.forall_mem_cons.mpr ⟨piece?_lt hn, ih hrest⟩

theorem piecesOfText?_lt (h : piecesOfText? cs = some pieces) : ∀ n ∈ pieces, n < 65536 := by
  unfold piecesOfText? at h
  split at h
  · cases h
    exact fun n hn => absurd hn List.not_mem_nil
  · exact piecesOf?_lt h

/-- An address that was read has eight pieces of 16 bits. -/
theorem wellFormed_of_ofText? (h : ofText? cs = some a) : a.WellFormed := by
  unfold ofText? at h
  split at h
  next hgap =>
    obtain ⟨pieces, hpieces, rfl⟩ := Option.map_eq_some_iff.mp h
    obtain ⟨hpieces, hlength⟩ := Option.filter_eq_some_iff.mp hpieces
    exact ⟨beq_iff_eq.mp hlength, piecesOfText?_lt hpieces⟩
  next before after hgap =>
    split at h
    · cases h
    · obtain ⟨first, hfirst, h⟩ := Option.bind_eq_some_iff.mp h
      obtain ⟨last, hlast, h⟩ := Option.bind_eq_some_iff.mp h
      split at h
      next hshort =>
        cases h
        refine ⟨?_, fun n hn => ?_⟩
        · simp only [List.length_append, List.length_replicate]
          omega
        · rcases List.mem_append.mp hn with hn | hn
          · rcases List.mem_append.mp hn with hn | hn
            · exact piecesOfText?_lt hfirst n hn
            · rw [List.eq_of_mem_replicate hn]
              decide
          · exact piecesOfText?_lt hlast n hn
      · cases h

/-! ## What addresses are spelt with -/

/-- A character of an address: a digit, a colon or a dot. -/
def IsSpelling (c : Char) : Prop := Text.isHexDigit c = true ∨ c = ':' ∨ c = '.'

theorem isSpelling_of_piece? {n : Nat} (h : piece? cs = some n) : ∀ c ∈ cs, IsSpelling c := by
  unfold piece? at h
  split at h
  · cases h
  · exact fun c hc => .inl (isHexDigit_of_digitsValue? h c hc)

theorem isHexDigit_of_decimalPart? {n : Nat} (h : decimalPart? cs = some n) : ∀ c ∈ cs, Text.isHexDigit c = true := by
  unfold decimalPart? at h
  split at h
  · cases h
  · exact isHexDigit_of_digitsValue? (Option.filter_eq_some_iff.mp h).1

theorem isSpelling_of_lastPieces? (h : lastPieces? cs = some pieces) : ∀ c ∈ cs, IsSpelling c := by
  unfold lastPieces? at h
  split at h
  · split at h
    next hparts =>
      intro c hc
      rcases mem_splitOn hc with hdot | ⟨part, hpart, hc⟩
      · exact .inr (.inr hdot)
      · obtain ⟨n, hn⟩ := exists_of_mapM_eq_some hparts part hpart
        exact .inl (isHexDigit_of_decimalPart? hn c hc)
    · cases h
  · obtain ⟨n, hn, -⟩ := Option.map_eq_some_iff.mp h
    exact isSpelling_of_piece? hn

theorem isSpelling_of_piecesOf? {parts : List (List Char)} (h : piecesOf? parts = some pieces) :
    ∀ part ∈ parts, ∀ c ∈ part, IsSpelling c := by
  induction parts generalizing pieces with
  | nil => exact fun part hpart => absurd hpart List.not_mem_nil
  | cons part parts ih =>
    cases parts with
    | nil => exact List.forall_mem_singleton.mpr (isSpelling_of_lastPieces? h)
    | cons next parts =>
      obtain ⟨n, hn, h⟩ := Option.bind_eq_some_iff.mp h
      obtain ⟨rest, hrest, -⟩ := Option.bind_eq_some_iff.mp h
      exact List.forall_mem_cons.mpr ⟨isSpelling_of_piece? hn, ih hrest⟩

theorem isSpelling_of_piecesOfText? (h : piecesOfText? cs = some pieces) : ∀ c ∈ cs, IsSpelling c := by
  unfold piecesOfText? at h
  split at h
  next hempty =>
    rw [List.isEmpty_iff.mp hempty]
    exact fun c hc => absurd hc List.not_mem_nil
  · intro c hc
    rcases mem_splitOn hc with hcolon | ⟨part, hpart, hc⟩
    · exact .inr (.inl hcolon)
    · exact isSpelling_of_piecesOf? h part hpart c hc

/-- A text with a gap is what is before it, two colons, and what is after it. -/
theorem eq_of_partAtGap {before after : List Char} (h : partAtGap cs = some (before, after)) :
    cs = before ++ ':' :: ':' :: after := by
  fun_induction partAtGap cs generalizing before with
  | case1 rest =>
    cases h
    rfl
  | case2 c rest _ ih =>
    obtain ⟨⟨before', after'⟩, hrest, hsplit⟩ := Option.map_eq_some_iff.mp h
    cases hsplit
    rw [List.cons_append, ← ih hrest]
  | case3 => cases h

theorem isSpelling_of_ofText? (h : ofText? cs = some a) : ∀ c ∈ cs, IsSpelling c := by
  unfold ofText? at h
  split at h
  · obtain ⟨pieces, hpieces, -⟩ := Option.map_eq_some_iff.mp h
    exact isSpelling_of_piecesOfText? (Option.filter_eq_some_iff.mp hpieces).1
  next before after hgap =>
    split at h
    · cases h
    · obtain ⟨first, hfirst, h⟩ := Option.bind_eq_some_iff.mp h
      obtain ⟨last, hlast, -⟩ := Option.bind_eq_some_iff.mp h
      rw [eq_of_partAtGap hgap]
      intro c hc
      rcases List.mem_append.mp hc with hc | hc
      · exact isSpelling_of_piecesOfText? hfirst c hc
      rcases List.mem_cons.mp hc with hcolon | hc
      · exact .inr (.inl hcolon)
      rcases List.mem_cons.mp hc with hcolon | hc
      · exact .inr (.inl hcolon)
      · exact isSpelling_of_piecesOfText? hlast c hc

/-! ## What is written -/

/-- The characters of pieces with colons between them. -/
def colonChars (pieces : List Nat) : List Char := [':'].intercalate (pieces.map (Nat.toDigits 16))

theorem toList_colonText (pieces : List Nat) : (colonText pieces).toList = colonChars pieces := by
  rw [colonText, String.toList_intercalate, List.map_map, colonChars]
  simp [Function.comp_def]

theorem colonChars_cons_cons (n m : Nat) (pieces : List Nat) :
    colonChars (n :: m :: pieces) = Nat.toDigits 16 n ++ ':' :: colonChars (m :: pieces) := by
  simp [colonChars, List.intercalate]

theorem colonChars_singleton (n : Nat) : colonChars [n] = Nat.toDigits 16 n := by simp [colonChars, List.intercalate]

/-- Written pieces start with a digit. -/
theorem exists_colonChars (n : Nat) (pieces : List Nat) :
    ∃ c cs, Text.isHexDigit c = true ∧ colonChars (n :: pieces) = c :: cs := by
  obtain ⟨c, cs, hdigits⟩ := List.exists_cons_of_ne_nil (Nat.toDigits_ne_nil (n := n) (b := 16))
  have hc : Text.isHexDigit c = true := isHexDigit_of_mem_toDigits (hdigits ▸ List.mem_cons_self)
  cases pieces with
  | nil => exact ⟨c, cs, hc, by rw [colonChars_singleton, hdigits]⟩
  | cons m pieces => exact ⟨c, _, hc, by rw [colonChars_cons_cons, hdigits]; rfl⟩

theorem mem_colonChars {c : Char} (h : c ∈ colonChars pieces) : Text.isHexDigit c = true ∨ c = ':' := by
  rcases mem_intercalate h with hcolon | ⟨digits, hdigits, hc⟩
  · exact .inr hcolon
  · obtain ⟨n, -, rfl⟩ := List.mem_map.mp hdigits
    exact .inl (isHexDigit_of_mem_toDigits hc)

theorem piece?_toDigits {n : Nat} (h : n < 65536) : piece? (Nat.toDigits 16 n) = some n := by
  have hlength : (Nat.toDigits 16 n).length ≤ 4 := (Nat.length_toDigits_le_iff (by decide) (by decide)).mpr h
  rw [piece?, if_neg, digitsValue?_toDigits]
  simp [Nat.toDigits_ne_nil, hlength]

/-- Written pieces are read again. -/
theorem piecesOf?_colonChars (hlt : ∀ n ∈ pieces, n < 65536) (hne : pieces ≠ []) :
    piecesOf? (splitOn ':' (colonChars pieces)) = some pieces := by
  induction pieces with
  | nil => exact absurd rfl hne
  | cons n pieces ih =>
    obtain ⟨hn, hpieces⟩ := List.forall_mem_cons.mp hlt
    cases pieces with
    | nil =>
      have hdot : ¬(Nat.toDigits 16 n).contains '.' = true := by simpa using not_mem_toDigits (by decide) n
      rw [colonChars_singleton, splitOn_of_not_mem (not_mem_toDigits (by decide) n)]
      show lastPieces? _ = _
      rw [lastPieces?, if_neg hdot, piece?_toDigits hn]
      rfl
    | cons m pieces =>
      obtain ⟨part, parts, hparts⟩ := List.exists_cons_of_ne_nil (splitOn_ne_nil ':' (colonChars (m :: pieces)))
      have hrest := ih hpieces (List.cons_ne_nil _ _)
      rw [colonChars_cons_cons, splitOn_append (not_mem_toDigits (by decide) n)]
      rw [hparts] at hrest ⊢
      rw [piecesOf?, piece?_toDigits hn, hrest]
      · rfl
      · exact List.cons_ne_nil _ _

theorem piecesOfText?_colonChars (hlt : ∀ n ∈ pieces, n < 65536) : piecesOfText? (colonChars pieces) = some pieces := by
  cases pieces with
  | nil => rfl
  | cons n pieces =>
    obtain ⟨c, cs, -, hcs⟩ := exists_colonChars n pieces
    rw [piecesOfText?, if_neg (by simp [hcs])]
    exact piecesOf?_colonChars hlt (List.cons_ne_nil _ _)

/-! ## Gaps -/

theorem partAtGap_cons {c : Char} (h : c = ':' → cs.head? ≠ some ':') :
    partAtGap (c :: cs) = (partAtGap cs).map fun (before, after) => (c :: before, after) := by
  rw [partAtGap]
  rintro rest ⟨rfl⟩
  rintro rfl
  exact h rfl rfl

/-- Where there is no colon there is no gap. -/
theorem partAtGap_append {part : List Char} (h : ':' ∉ part) (cs : List Char) :
    partAtGap (part ++ cs) = (partAtGap cs).map fun (before, after) => (part ++ before, after) := by
  induction part with
  | nil => simp
  | cons c part ih =>
    obtain ⟨hne, hpart⟩ := not_or.mp (List.mem_cons.not.mp h)
    rw [List.cons_append, partAtGap_cons fun hc => absurd hc.symm hne, ih hpart, Option.map_map]
    rfl

/-- There is no gap between written pieces. -/
theorem partAtGap_colonChars (pieces : List Nat) (cs : List Char) : partAtGap (colonChars pieces ++ cs) =
    (partAtGap cs).map fun (before, after) => (colonChars pieces ++ before, after) := by
  induction pieces with
  | nil => simp [colonChars]
  | cons n pieces ih =>
    cases pieces with
    | nil =>
      rw [colonChars_singleton]
      exact partAtGap_append (not_mem_toDigits (by decide) n) cs
    | cons m pieces =>
      obtain ⟨c, rest, hc, hrest⟩ := exists_colonChars m pieces
      have hhead : (colonChars (m :: pieces) ++ cs).head? ≠ some ':' := by
        rw [hrest]
        rintro ⟨rfl⟩
        cases hc
      rw [colonChars_cons_cons, List.append_assoc, partAtGap_append (not_mem_toDigits (by decide) n), List.cons_append,
        partAtGap_cons fun _ => hhead, ih, Option.map_map, Option.map_map]
      simp [Function.comp_def]

/-! ## Zeros that are left out -/

theorem eq_replicate_append {length : Nat} (h : length ≤ leadingZeros pieces) :
    pieces = List.replicate length 0 ++ pieces.drop length := by
  induction length generalizing pieces with
  | zero => rfl
  | succ length ih =>
    cases pieces with
    | nil => cases h
    | cons n pieces =>
      by_cases hn : n = 0
      · subst hn
        rw [leadingZeros, List.takeWhile_cons_of_pos rfl, List.length_cons] at h
        rw [List.replicate_succ, List.cons_append, List.drop_succ_cons, ← ih (Nat.le_of_succ_le_succ h)]
      · rw [leadingZeros, List.takeWhile_cons_of_neg (by simpa using hn)] at h
        cases h

/-- The run that is found is one of zeros. -/
theorem longestRun_le (pieces : List Nat) :
    (longestRun pieces).2 ≤ leadingZeros (pieces.drop (longestRun pieces).1) := by
  refine List.foldlRecOn (motive := fun best : Nat × Nat => best.2 ≤ leadingZeros (pieces.drop best.1)) _ _
    (Nat.zero_le _) ?_
  intro best h start _
  dsimp only
  split
  · exact Nat.le_refl _
  · exact h

/-- A run of zeros stands between the other pieces. -/
theorem split_longestRun {start length : Nat} (h : longestRun pieces = (start, length)) :
    pieces = pieces.take start ++ List.replicate length 0 ++ pieces.drop (start + length) := by
  have hrun := longestRun_le pieces
  rw [h] at hrun
  rw [List.append_assoc, ← List.drop_drop, ← eq_replicate_append hrun, List.take_append_drop]

/-! ## Written addresses -/

theorem ofText?_colonChars (hlt : ∀ n ∈ pieces, n < 65536) (hlength : pieces.length = 8) :
    ofText? (colonChars pieces) = some ⟨pieces⟩ := by
  have hgap : partAtGap (colonChars pieces) = none := by
    have hempty := partAtGap_colonChars pieces []
    rwa [List.append_nil] at hempty
  rw [ofText?, hgap]
  simp [piecesOfText?_colonChars hlt, hlength]

/-- A gap is read as the zeros that are missing. -/
theorem ofText?_gap {first last : List Nat} (hfirst : ∀ n ∈ first, n < 65536) (hlast : ∀ n ∈ last, n < 65536)
    (hlength : first.length + last.length ≤ 7) : ofText? (colonChars first ++ ':' :: ':' :: colonChars last) =
      some ⟨first ++ List.replicate (8 - first.length - last.length) 0 ++ last⟩ := by
  have hgap : partAtGap (colonChars first ++ ':' :: ':' :: colonChars last) =
      some (colonChars first, colonChars last) := by
    simp [partAtGap_colonChars, partAtGap]
  have hdot : ¬(colonChars first).contains '.' = true := by
    rw [List.contains_iff_mem]
    intro hmem
    rcases mem_colonChars hmem with hmem | hmem
    · cases hmem
    · cases hmem
  rw [ofText?, hgap]
  simp only [if_neg hdot, piecesOfText?_colonChars hfirst, piecesOfText?_colonChars hlast, bind, Option.bind_some,
    if_pos hlength]

/-- The text of an address is read as this address. -/
theorem ofText?_text (h : a.WellFormed) : ofText? a.text.toList = some a := by
  obtain ⟨pieces⟩ := a
  obtain ⟨hlength, hlt⟩ := h
  unfold text
  rcases hlongest : longestRun pieces with ⟨start, length⟩
  dsimp only at hlength hlt ⊢
  split
  next hshort =>
    rw [toList_colonText]
    exact ofText?_colonChars hlt hlength
  next hlong =>
    have hsplit := split_longestRun hlongest
    have hsize := congrArg List.length hsplit
    rw [List.length_append, List.length_append, List.length_replicate, hlength] at hsize
    have hzeros : 8 - (pieces.take start).length - (pieces.drop (start + length)).length = length := by omega
    rw [String.toList_append, String.toList_append, toList_colonText, toList_colonText, List.append_assoc]
    show ofText? (colonChars (pieces.take start) ++ ':' :: ':' :: colonChars (pieces.drop (start + length))) = _
    rw [ofText?_gap (fun n hn => hlt n (List.mem_of_mem_take hn)) (fun n hn => hlt n (List.mem_of_mem_drop hn))
      (by omega), hzeros, ← hsplit]

/-- The text of an address has digits and colons only. -/
theorem mem_text {c : Char} (h : c ∈ a.text.toList) : Text.isHexDigit c = true ∨ c = ':' := by
  unfold text at h
  dsimp only at h
  split at h
  · rw [toList_colonText] at h
    exact mem_colonChars h
  · rw [String.toList_append, String.toList_append, toList_colonText, toList_colonText] at h
    rcases List.mem_append.mp h with h | h
    · rcases List.mem_append.mp h with h | h
      · exact mem_colonChars h
      · simp only [String.reduceToList, List.mem_cons, List.not_mem_nil, or_false, or_self] at h
        exact .inr h
    · exact mem_colonChars h

end Ipv6

end SchemaJournal.Connection
