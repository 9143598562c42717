import Mathlib.Data.List.Basic
import SchemaJournal.Text.Percent

/-!
# Escapes in texts

What is escaped has only characters of ASCII that need no escape (`kept_of_mem_percentEncode`). Undoing the escapes
gives the text back if and only if it had none before (`decodes_percentEncode_iff`): the escapes that are written are
undone, but so are those that were there, since their characters are kept (`percentDecode_percentEncode`).
-/

namespace SchemaJournal.Text

variable {set : Char → Bool} {c d : Char} {cs rest : List Char}

/-! ## Characters of ASCII -/

/-- What holds of all codes of ASCII holds of its characters. -/
theorem forall_ascii {P : Char → Prop} (h : ∀ n < 128, P (Char.ofNat n)) (hc : c.toNat < 128) : P c := by
  rw [← Char.ofNat_toNat c]
  exact h c.toNat hc

/-- Whether a character is a hexadecimal digit. -/
def isHexDigit (c : Char) : Bool := (hexValue? c).isSome

theorem toNat_lt_of_isHexDigit (h : isHexDigit c = true) : c.toNat < 128 := by
  have hle : ∀ {a : Char}, c ≤ a → c.toNat ≤ a.toNat := fun hca => UInt32.le_iff_toNat_le.mp hca
  unfold isHexDigit hexValue? at h
  split at h
  next hc => exact Nat.lt_of_le_of_lt (hle hc.2) (by decide)
  split at h
  next hc => exact Nat.lt_of_le_of_lt (hle hc.2) (by decide)
  split at h
  next hc => exact Nat.lt_of_le_of_lt (hle hc.2) (by decide)
  · cases h

theorem not_blank_of_isHexDigit (h : isHexDigit c = true) : 32 < c.toNat :=
  forall_ascii (P := fun c => isHexDigit c = true → 32 < c.toNat) (by decide) (toNat_lt_of_isHexDigit h) h

theorem hexValue?_hexDigit : ∀ n < 16, hexValue? (hexDigit n) = some n := by decide

theorem isHexDigit_hexDigit {n : Nat} (h : n < 16) : isHexDigit (hexDigit n) = true := by
  rw [isHexDigit, hexValue?_hexDigit n h]
  rfl

/-- The characters of an escape are not in the set. -/
def SparesEscapes (set : Char → Bool) : Prop := ∀ c, c = '%' ∨ isHexDigit c = true → set c = false

theorem sparesEscapes_of_ascii (h : ∀ n < 128, Char.ofNat n = '%' ∨ isHexDigit (Char.ofNat n) = true →
    set (Char.ofNat n) = false) : SparesEscapes set := by
  intro c hc
  have hascii : c.toNat < 128 := by
    rcases hc with rfl | hc
    · decide
    · exact toNat_lt_of_isHexDigit hc
  exact forall_ascii (P := fun c => c = '%' ∨ isHexDigit c = true → set c = false) h hascii hc

theorem sparesEscapes_inUserinfoSet : SparesEscapes inUserinfoSet := sparesEscapes_of_ascii (by decide)

theorem sparesEscapes_isControl : SparesEscapes isControl := sparesEscapes_of_ascii (by decide)

/-! ## What is escaped -/

theorem escapeChar_of_kept (hascii : c.toNat < 128) (hset : set c = false) : escapeChar set c = [c] := by
  rw [escapeChar, if_neg]
  simp [hset, hascii]

theorem escapeChar_digit (hset : SparesEscapes set) (hc : isHexDigit c = true) : escapeChar set c = [c] :=
  escapeChar_of_kept (toNat_lt_of_isHexDigit hc) (hset c (.inr hc))

theorem escapeChar_cases (set : Char → Bool) (c : Char) : (c.toNat < 128 ∧ set c = false ∧ escapeChar set c = [c]) ∨
    escapeChar set c = (String.utf8EncodeChar c).flatMap escapeByte := by
  by_cases h : (128 ≤ c.toNat || set c) = true
  · exact .inr (if_pos h)
  · rw [Bool.or_eq_true, not_or, decide_eq_true_eq, Bool.not_eq_true] at h
    exact .inl ⟨Nat.not_le.mp h.1, h.2, escapeChar_of_kept (Nat.not_le.mp h.1) h.2⟩

theorem mem_escapeByte {b : UInt8} (h : d ∈ escapeByte b) : d = '%' ∨ isHexDigit d = true := by
  have hb : b.toNat < 256 := UInt8.toNat_lt b
  simp only [escapeByte, List.mem_cons, List.not_mem_nil, or_false] at h
  rcases h with rfl | rfl | rfl
  · exact .inl rfl
  · exact .inr (isHexDigit_hexDigit (by omega))
  · exact .inr (isHexDigit_hexDigit (by omega))

/-- What is written for a text are its characters that need no escape, and escapes. -/
theorem mem_percentEncode (h : d ∈ percentEncode set cs) : (d ∈ cs ∧ d.toNat < 128 ∧ set d = false) ∨
    d = '%' ∨ isHexDigit d = true := by
  obtain ⟨c, hc, hd⟩ := List.mem_flatMap.mp h
  rcases escapeChar_cases set c with ⟨hascii, hset, hkept⟩ | hescaped
  · rw [hkept, List.mem_singleton] at hd
    subst hd
    exact .inl ⟨hc, hascii, hset⟩
  · rw [hescaped] at hd
    obtain ⟨b, -, hd⟩ := List.mem_flatMap.mp hd
    exact .inr (mem_escapeByte hd)

theorem percentEncode_eq_self (h : ∀ c ∈ cs, c.toNat < 128 ∧ set c = false) : percentEncode set cs = cs := by
  induction cs with
  | nil => rfl
  | cons c cs ih =>
    obtain ⟨hascii, hset⟩ := h c List.mem_cons_self
    show escapeChar set c ++ percentEncode set cs = _
    rw [escapeChar_of_kept hascii hset, ih fun d hd => h d (List.mem_cons_of_mem _ hd), List.singleton_append]

/-- What is escaped needs no more escapes. -/
theorem kept_of_mem_percentEncode (hset : SparesEscapes set) (h : d ∈ percentEncode set cs) :
    d.toNat < 128 ∧ set d = false := by
  rcases mem_percentEncode h with ⟨-, hd⟩ | hd
  · exact hd
  · refine ⟨?_, hset d hd⟩
    rcases hd with rfl | hd
    · decide
    · exact toNat_lt_of_isHexDigit hd

/-! ## Undoing escapes -/

/-- Whether two hexadecimal digits come first. -/
def startsHex : List Char → Bool
  | a :: b :: _ => isHexDigit a && isHexDigit b
  | _ => false

theorem startsHex_cons (hc : isHexDigit c = false) : startsHex (c :: rest) = false := by
  cases rest with
  | nil => rfl
  | cons d rest => simp [startsHex, hc]

theorem percentDecode_escape {a b : Char} {high low : Nat} (ha : hexValue? a = some high)
    (hb : hexValue? b = some low) :
    percentDecode ('%' :: a :: b :: cs) = UInt8.ofNat (16 * high + low) :: percentDecode cs := by
  rw [percentDecode, ha, hb]

/-- What is no escape stands for itself. -/
theorem percentDecode_literal (h : ¬(c = '%' ∧ startsHex cs = true)) :
    percentDecode (c :: cs) = String.utf8EncodeChar c ++ percentDecode cs := by
  by_cases hc : c = '%'
  · subst hc
    match cs, h with
    | [], _ => rfl
    | [a], _ => rfl
    | a :: b :: rest, h =>
      rw [percentDecode.eq_2]
      cases ha : hexValue? a with
      | none => rfl
      | some high =>
        cases hb : hexValue? b with
        | none => rfl
        | some low => simp [startsHex, isHexDigit, ha, hb] at h
  · rw [percentDecode]
    rintro a b rest ⟨rfl⟩
    exact fun _ => hc rfl

/-- A text is empty, or it starts with an escape or with a character that stands for itself. -/
theorem percent_induction {motive : List Char → Prop} (nil : motive [])
    (escape : ∀ a b high low rest, hexValue? a = some high → hexValue? b = some low → motive rest →
      motive ('%' :: a :: b :: rest))
    (literal : ∀ c rest, ¬(c = '%' ∧ startsHex rest = true) → motive rest → motive (c :: rest)) (cs : List Char) :
    motive cs := by
  induction cs using percentDecode.induct with
  | case1 => exact nil
  | case2 a b rest high low hb ha ih => exact escape a b high low rest ha hb ih
  | case3 a b rest hnot ih =>
    refine literal '%' (a :: b :: rest) (fun ⟨_, hhex⟩ => ?_) ih
    obtain ⟨ha, hb⟩ := Bool.and_eq_true_iff.mp hhex
    obtain ⟨high, ha⟩ := Option.isSome_iff_exists.mp ha
    obtain ⟨low, hb⟩ := Option.isSome_iff_exists.mp hb
    exact hnot high low ha hb
  | case4 c rest hnot ih =>
    refine literal c rest ?_ ih
    rintro ⟨rfl, hhex⟩
    match rest, hhex with
    | a :: b :: rest, _ => exact hnot a b rest rfl rfl

theorem percentDecode_escapeByte (b : UInt8) (cs : List Char) :
    percentDecode (escapeByte b ++ cs) = b :: percentDecode cs := by
  have hb : b.toNat < 256 := UInt8.toNat_lt b
  show percentDecode ('%' :: hexDigit (b.toNat / 16) :: hexDigit (b.toNat % 16) :: cs) = _
  rw [percentDecode, hexValue?_hexDigit _ (by omega), hexValue?_hexDigit _ (by omega)]
  show UInt8.ofNat (16 * (b.toNat / 16) + b.toNat % 16) :: percentDecode cs = _
  rw [Nat.div_add_mod, UInt8.ofNat_toNat]

theorem percentDecode_escapeBytes (bytes : List UInt8) (cs : List Char) :
    percentDecode (bytes.flatMap escapeByte ++ cs) = bytes ++ percentDecode cs := by
  induction bytes with
  | nil => rfl
  | cons b bytes ih => rw [List.flatMap_cons, List.append_assoc, percentDecode_escapeByte, ih, List.cons_append]

theorem percentEncode_cons (set : Char → Bool) (c : Char) (cs : List Char) :
    percentEncode set (c :: cs) = escapeChar set c ++ percentEncode set cs := rfl

/-- What is written for a character starts with a digit only if the character is one, and then it is the digit. -/
theorem escapeChar_head (hset : SparesEscapes set) (c : Char) : (isHexDigit c = true ∧ escapeChar set c = [c]) ∨
    ∃ d written, isHexDigit c = false ∧ isHexDigit d = false ∧ escapeChar set c = d :: written := by
  cases hc : isHexDigit c with
  | true => exact .inl ⟨rfl, escapeChar_digit hset hc⟩
  | false =>
    rcases escapeChar_cases set c with ⟨-, -, hkept⟩ | hescaped
    · exact .inr ⟨c, [], rfl, hc, hkept⟩
    · obtain ⟨b, bytes, hbytes⟩ := List.exists_cons_of_ne_nil (String.utf8EncodeChar_ne_nil (c := c))
      rw [hescaped, hbytes]
      exact .inr ⟨'%', _, rfl, rfl, rfl⟩

/-- Escaping makes no two digits come first. -/
theorem startsHex_percentEncode (hset : SparesEscapes set) (cs : List Char) :
    startsHex (percentEncode set cs) = startsHex cs := by
  cases cs with
  | nil => rfl
  | cons a cs =>
    rw [percentEncode_cons]
    rcases escapeChar_head hset a with ⟨ha, hkept⟩ | ⟨d, written, ha, hd, hwritten⟩
    · rw [hkept]
      cases cs with
      | nil => rfl
      | cons b cs =>
        rw [percentEncode_cons]
        rcases escapeChar_head hset b with ⟨hb, hkept⟩ | ⟨d, written, hb, hd, hwritten⟩
        · rw [hkept]
          rfl
        · rw [hwritten]
          simp [startsHex, hb, hd]
    · rw [hwritten, startsHex_cons ha]
      exact startsHex_cons hd

/-- Escapes that are written are undone, and escapes that were there are undone as they would be without writing. -/
theorem percentDecode_percentEncode (hset : SparesEscapes set) (cs : List Char) :
    percentDecode (percentEncode set cs) = percentDecode cs := by
  induction cs using percent_induction with
  | nil => rfl
  | escape a b high low rest ha hb ih =>
    have hmark : escapeChar set '%' = ['%'] := escapeChar_of_kept (by decide) (hset '%' (.inl rfl))
    have hfirst : escapeChar set a = [a] := escapeChar_digit hset (by simp [isHexDigit, ha])
    have hsecond : escapeChar set b = [b] := escapeChar_digit hset (by simp [isHexDigit, hb])
    rw [percentEncode_cons, percentEncode_cons, percentEncode_cons, hmark, hfirst, hsecond]
    show percentDecode ('%' :: a :: b :: percentEncode set rest) = _
    rw [percentDecode_escape ha hb, percentDecode_escape ha hb, ih]
  | literal c rest h ih =>
    rw [percentEncode_cons, percentDecode_literal h]
    rcases escapeChar_cases set c with ⟨-, -, hkept⟩ | hescaped
    · rw [hkept]
      show percentDecode (c :: percentEncode set rest) = _
      rw [← startsHex_percentEncode hset] at h
      rw [percentDecode_literal h, ih]
    · rw [hescaped, percentDecode_escapeBytes, ih]

/-! ## Texts without escapes -/

/-- Whether there is an escape in a text. -/
def HasEscape (cs : List Char) : Prop := ∃ before after, cs = before ++ '%' :: after ∧ startsHex after = true

theorem hasEscape_cons_iff : HasEscape (c :: cs) ↔ (c = '%' ∧ startsHex cs = true) ∨ HasEscape cs := by
  constructor
  · rintro ⟨before, after, hsplit, hhex⟩
    rcases List.cons_eq_append_iff.mp hsplit with ⟨rfl, heq⟩ | ⟨before', rfl, hcs⟩
    · cases heq
      exact .inl ⟨rfl, hhex⟩
    · exact .inr ⟨before', after, hcs, hhex⟩
  · rintro (⟨rfl, hhex⟩ | ⟨before, after, rfl, hhex⟩)
    · exact ⟨[], cs, rfl, hhex⟩
    · exact ⟨c :: before, after, rfl, hhex⟩

instance decidableHasEscape : DecidablePred HasEscape
  | [] => .isFalse fun ⟨before, after, h, _⟩ => by simp at h
  | c :: cs =>
    have := decidableHasEscape cs
    decidable_of_iff ((c = '%' ∧ startsHex cs = true) ∨ HasEscape cs) hasEscape_cons_iff.symm

/-- A text without escapes is its bytes. One with escapes has fewer bytes when they are undone. -/
theorem percentDecode_cases (cs : List Char) : (percentDecode cs).length ≤ (cs.flatMap String.utf8EncodeChar).length ∧
    (HasEscape cs → (percentDecode cs).length < (cs.flatMap String.utf8EncodeChar).length) ∧
    (¬HasEscape cs → percentDecode cs = cs.flatMap String.utf8EncodeChar) := by
  have hpos : ∀ c : Char, 0 < (String.utf8EncodeChar c).length := fun c =>
    List.length_pos_iff.mpr String.utf8EncodeChar_ne_nil
  induction cs using percent_induction with
  | nil => exact ⟨Nat.le_refl _, fun ⟨before, after, h, _⟩ => by simp at h, fun _ => rfl⟩
  | escape a b high low rest ha hb ih =>
    have hlt : (percentDecode ('%' :: a :: b :: rest)).length <
        (('%' :: a :: b :: rest).flatMap String.utf8EncodeChar).length := by
      have hmark := hpos '%'
      have hdigit := hpos a
      rw [percentDecode_escape ha hb]
      simp only [List.flatMap_cons, List.length_append, List.length_cons]
      omega
    refine ⟨Nat.le_of_lt hlt, fun _ => hlt, fun h => absurd ?_ h⟩
    exact hasEscape_cons_iff.mpr (.inl ⟨rfl, by simp [startsHex, isHexDigit, ha, hb]⟩)
  | literal c rest h ih =>
    obtain ⟨hle, hlt, heq⟩ := ih
    rw [percentDecode_literal h, hasEscape_cons_iff, or_iff_right h, List.flatMap_cons, List.length_append,
      List.length_append]
    exact ⟨Nat.add_le_add_left hle _, fun hescape => Nat.add_lt_add_left (hlt hescape) _,
      fun hescape => by rw [heq hescape]⟩

/-- Undoing escapes gives the bytes of a text if and only if it has none. -/
theorem percentDecode_eq_iff : percentDecode cs = cs.flatMap String.utf8EncodeChar ↔ ¬HasEscape cs := by
  obtain ⟨-, hlt, heq⟩ := percentDecode_cases cs
  refine ⟨fun h hescape => ?_, heq⟩
  have := hlt hescape
  rw [h] at this
  exact Nat.lt_irrefl _ this

/-- A written text is read as this one when its escapes are undone. -/
def Decodes (written text : String) : Prop :=
  String.fromUTF8? ⟨(percentDecode written.toList).toArray⟩ = some text

theorem fromUTF8?_eq_some_iff {bytes : ByteArray} {text : String} :
    String.fromUTF8? bytes = some text ↔ bytes = text.toByteArray := by
  unfold String.fromUTF8?
  split
  next hvalid =>
    rw [Option.some_inj]
    constructor
    · rintro rfl
      rfl
    · rintro rfl
      rfl
  next hinvalid =>
    refine ⟨nofun, ?_⟩
    rintro rfl
    exact (hinvalid text.isValidUTF8).elim

theorem decodes_iff {written text : String} :
    Decodes written text ↔ percentDecode written.toList = text.toList.flatMap String.utf8EncodeChar := by
  rw [Decodes, fromUTF8?_eq_some_iff, ← String.utf8Encode_toList]
  constructor
  · intro h
    have hbytes := congrArg (·.data.toList) h
    rwa [List.utf8Encode, List.data_toByteArray, List.toList_toArray] at hbytes
  · intro h
    rw [h]
    exact ByteArray.ext List.data_toByteArray.symm

/-- A text is read again as it was before it was escaped if and only if there was no escape in it. -/
theorem decodes_percentEncode_iff (hset : SparesEscapes set) (text : String) :
    Decodes (String.ofList (percentEncode set text.toList)) text ↔ ¬HasEscape text.toList := by
  rw [decodes_iff, String.toList_ofList, percentDecode_percentEncode hset, percentDecode_eq_iff]

end SchemaJournal.Text
