import Mathlib.Data.List.Basic
import SchemaJournal.Text.Quoted

/-!
# The structure of statements

A statement is read as characters of code and whole string literals; inside a literal two quotes stand for one
(`pieces?`). Only code makes structure: parentheses (`depth?`), the commas of a list (`list?`) and the semicolon that
ends a statement (`IsStatement`). Text is inert if its literals are closed, its parentheses match, and it has no
semicolon and, outside its parentheses, no comma (`Inert`): it is read alike wherever it stands, and belongs to one item
of the list around it.
-/

namespace SchemaJournal.Text

/-- A piece of a statement: a character of code, or a literal with the text that it means. -/
inductive Piece where
  | code (c : Char)
  | literal (content : List Char)
deriving DecidableEq

/-- Reads a literal from behind its opening quote: the text that it means, and what follows its closing quote. -/
def readLiteral : List Char → Option (List Char × List Char)
  | [] => none
  | '\'' :: '\'' :: rest => (readLiteral rest).map fun (content, after) => ('\'' :: content, after)
  | '\'' :: rest => some ([], rest)
  | c :: rest => (readLiteral rest).map fun (content, after) => (c :: content, after)

theorem readLiteral_length {s content rest : List Char} (h : readLiteral s = some (content, rest)) :
    rest.length < s.length := by
  fun_induction readLiteral s generalizing content rest with
  | case1 => cases h
  | case2 s ih =>
    obtain ⟨⟨read, after⟩, hread, hpair⟩ := Option.map_eq_some_iff.mp h
    cases hpair
    have := ih hread
    simp only [List.length_cons]
    omega
  | case3 s => cases h; simp
  | case4 c s _ _ ih =>
    obtain ⟨⟨read, after⟩, hread, hpair⟩ := Option.map_eq_some_iff.mp h
    cases hpair
    have := ih hread
    simp only [List.length_cons]
    omega

/-- The pieces of a statement; there are none if a literal is not closed. -/
def pieces? : List Char → Option (List Piece)
  | [] => some []
  | '\'' :: rest =>
    match _h : readLiteral rest with
    | none => none
    | some (content, after) => (pieces? after).map (.literal content :: ·)
  | c :: rest => (pieces? rest).map (.code c :: ·)
termination_by s => s.length
decreasing_by
  · have := readLiteral_length _h
    simp only [List.length_cons]
    omega
  · simp

/-- How many parentheses are open at the end, if every closing one had an opening one. -/
def depth? : Nat → List Piece → Option Nat
  | depth, [] => some depth
  | depth, .code '(' :: rest => depth? (depth + 1) rest
  | 0, .code ')' :: _ => none
  | depth + 1, .code ')' :: rest => depth? depth rest
  | depth, _ :: rest => depth? depth rest

/-- Reads the items of a list up to the parenthesis that closes it, inside a number of further parentheses. -/
def items? : Nat → List Piece → Option (List (List Piece))
  | _, [] => none
  | depth, .code '(' :: rest => (items? (depth + 1) rest).map (List.modifyHead (.code '(' :: ·))
  | 0, .code ')' :: _ => some [[]]
  | depth + 1, .code ')' :: rest => (items? depth rest).map (List.modifyHead (.code ')' :: ·))
  | 0, .code ',' :: rest => (items? 0 rest).map ([] :: ·)
  | depth, p :: rest => (items? depth rest).map (List.modifyHead (p :: ·))

/-- The items of the first list in parentheses. -/
def list? : List Piece → Option (List (List Piece))
  | [] => none
  | .code '(' :: rest => items? 0 rest
  | _ :: rest => list? rest

/-- Whether a piece is white space. -/
def Piece.isBlank : Piece → Bool
  | .code c => c.isWhitespace
  | .literal _ => false

/-- The code up to white space or a literal. -/
def word : List Piece → List Char
  | .code c :: rest => if c.isWhitespace then [] else c :: word rest
  | _ => []

/-- The first word of an item, after white space. -/
def firstWord (item : List Piece) : String := String.ofList (word (item.dropWhile Piece.isBlank))

/-- Text that is one statement: its literals are closed, its parentheses match, and it has a semicolon at its end and no
other one. -/
def IsStatement (text : String) : Prop :=
  ∃ ps, pieces? text.toList = some (ps ++ [.code ';']) ∧ .code ';' ∉ ps ∧ depth? 0 (ps ++ [.code ';']) = some 0

/-! ## Inert text -/

/-- The characters that make structure. -/
def isMark (c : Char) : Bool := c == '\'' || c == '(' || c == ')' || c == ',' || c == ';'

/-- Text without effect on the structure around it, and its pieces; with commas, or with commas in parentheses only. -/
inductive Inert : Bool → List Char → List Piece → Prop
  | nil {commas : Bool} : Inert commas [] []
  | code {commas : Bool} {c : Char} {text : List Char} {ps : List Piece} (hc : isMark c = false)
      (h : Inert commas text ps) : Inert commas (c :: text) (.code c :: ps)
  | comma {text : List Char} {ps : List Piece} (h : Inert true text ps) : Inert true (',' :: text) (.code ',' :: ps)
  | literal {commas : Bool} (content : List Char) {text : List Char} {ps : List Piece} (hnext : text.head? ≠ some '\'')
      (h : Inert commas text ps) : Inert commas ('\'' :: (doubleQuotes content ++ '\'' :: text)) (.literal content :: ps)
  | parens {commas : Bool} {inner text : List Char} {ps qs : List Piece} (hinner : Inert true inner ps)
      (h : Inert commas text qs) :
      Inert commas ('(' :: (inner ++ ')' :: text)) (.code '(' :: (ps ++ .code ')' :: qs))

variable {commas : Bool} {text other rest content : List Char} {ps qs : List Piece}

/-! ### Reading -/

theorem readLiteral_close (hnext : rest.head? ≠ some '\'') : readLiteral ('\'' :: rest) = some ([], rest) := by
  rw [readLiteral]
  rintro after rfl
  exact hnext rfl

theorem readLiteral_cons {c : Char} (hc : c ≠ '\'') :
    readLiteral (c :: rest) = (readLiteral rest).map fun (content, after) => (c :: content, after) := by
  rw [readLiteral]
  · exact fun _ h _ => hc h
  · exact hc

/-- A literal is read as the text that it means, up to its own closing quote. -/
theorem readLiteral_doubleQuotes (hnext : rest.head? ≠ some '\'') :
    readLiteral (doubleQuotes content ++ '\'' :: rest) = some (content, rest) := by
  induction content with
  | nil => exact readLiteral_close hnext
  | cons c content ih =>
    by_cases hc : c = '\''
    · subst hc
      rw [doubleQuotes, if_pos rfl, List.cons_append, List.cons_append, readLiteral, ih]
      rfl
    · rw [doubleQuotes, if_neg hc, List.cons_append, readLiteral_cons hc, ih]
      rfl

theorem pieces?_code {c : Char} (hc : c ≠ '\'') : pieces? (c :: rest) = (pieces? rest).map (.code c :: ·) := by
  rw [pieces?]
  exact hc

theorem pieces?_literal (hnext : rest.head? ≠ some '\'') :
    pieces? ('\'' :: (doubleQuotes content ++ '\'' :: rest)) = (pieces? rest).map (.literal content :: ·) := by
  rw [pieces?, readLiteral_doubleQuotes hnext]

/-! ### Structure -/

/-- Only parentheses change the depth. -/
theorem depth?_of_ne {p : Piece} (hopen : p ≠ .code '(') (hclose : p ≠ .code ')') (depth : Nat) (qs : List Piece) :
    depth? depth (p :: qs) = depth? depth qs := by
  rw [depth?]
  · exact hopen
  · exact fun _ => hclose
  · exact fun _ _ => hclose

/-- Parentheses, and commas outside of them, are all that ends an item. -/
theorem items?_of_ne {p : Piece} {depth : Nat} (hopen : p ≠ .code '(') (hclose : p ≠ .code ')')
    (hcomma : p = .code ',' → 0 < depth) (qs : List Piece) :
    items? depth (p :: qs) = (items? depth qs).map (List.modifyHead (p :: ·)) := by
  rw [items?]
  · exact hopen
  · exact fun _ => hclose
  · exact fun _ _ => hclose
  · rintro rfl rfl
    exact absurd (hcomma rfl) (Nat.lt_irrefl 0)

theorem map_modifyHead (f g : List Piece → List Piece) (items : Option (List (List Piece))) :
    (items.map (List.modifyHead f)).map (List.modifyHead g) = items.map (List.modifyHead (g ∘ f)) := by
  rw [Option.map_map]
  exact congrArg (items.map ·) (funext fun _ => List.modifyHead_modifyHead ..)

theorem head?_append_ne {c : Char} (htext : text.head? ≠ some c) (hrest : rest.head? ≠ some c) :
    (text ++ rest).head? ≠ some c := by
  cases text with
  | nil => exact hrest
  | cons d text => exact htext

theorem code_ne {c d : Char} (hc : isMark c = false) (hd : isMark d = true) : Piece.code c ≠ .code d := by
  rintro h
  cases h
  exact absurd hd (by simp [hc])

namespace Inert

/-- Inert text is read alike wherever no quote follows it. -/
theorem pieces? (h : Inert commas text ps) (hrest : rest.head? ≠ some '\'') :
    Text.pieces? (text ++ rest) = (Text.pieces? rest).map (ps ++ ·) := by
  induction h generalizing rest with
  | nil => simp
  | code hc h ih =>
    rw [List.cons_append, pieces?_code (by rintro rfl; cases hc), ih hrest, Option.map_map]
    rfl
  | comma h ih =>
    rw [List.cons_append, pieces?_code (by decide), ih hrest, Option.map_map]
    rfl
  | literal content hnext h ih =>
    rw [List.cons_append, List.append_assoc, List.cons_append, pieces?_literal (head?_append_ne hnext hrest), ih hrest,
      Option.map_map]
    rfl
  | parens hinner h ihinner ih =>
    rw [List.cons_append, List.append_assoc, List.cons_append, pieces?_code (by decide), ihinner (by simp),
      pieces?_code (by decide), ih hrest, Option.map_map, Option.map_map, Option.map_map]
    exact congrArg (Option.map · _) (funext fun qs => by simp)

/-- The parentheses of inert text match. -/
theorem depth? (h : Inert commas text ps) (depth : Nat) (qs : List Piece) :
    Text.depth? depth (ps ++ qs) = Text.depth? depth qs := by
  induction h generalizing depth qs with
  | nil => rfl
  | code hc h ih => rw [List.cons_append, depth?_of_ne (code_ne hc rfl) (code_ne hc rfl), ih]
  | comma h ih => rw [List.cons_append, depth?_of_ne (by decide) (by decide), ih]
  | literal content hnext h ih => rw [List.cons_append, depth?_of_ne (by simp) (by simp), ih]
  | parens hinner h ihinner ih =>
    rw [List.cons_append, List.append_assoc, List.cons_append, Text.depth?, ihinner, Text.depth?, ih]

/-- Inert text belongs to one item of the list around it. -/
theorem items? (h : Inert commas text ps) (depth : Nat) (hdepth : commas = true → 0 < depth) (qs : List Piece) :
    Text.items? depth (ps ++ qs) = (Text.items? depth qs).map (List.modifyHead (ps ++ ·)) := by
  induction h generalizing depth qs with
  | nil => exact (Option.map_id_apply.symm.trans (by rw [← List.modifyHead_id]; rfl))
  | code hc h ih =>
    rw [List.cons_append, items?_of_ne (code_ne hc rfl) (code_ne hc rfl) (absurd · (code_ne hc rfl)), ih depth hdepth,
      map_modifyHead]
    rfl
  | comma h ih =>
    rw [List.cons_append, items?_of_ne (by decide) (by decide) fun _ => hdepth rfl, ih depth hdepth, map_modifyHead]
    rfl
  | literal content hnext h ih =>
    rw [List.cons_append, items?_of_ne (by simp) (by simp) (by simp), ih depth hdepth, map_modifyHead]
    rfl
  | parens hinner h ihinner ih =>
    rw [List.cons_append, List.append_assoc, List.cons_append, Text.items?, ihinner _ fun _ => depth.succ_pos,
      Text.items?, ih depth hdepth, map_modifyHead, map_modifyHead, map_modifyHead]
    refine congrArg (Option.map · _) (congrArg List.modifyHead (funext fun items => ?_))
    simp

/-- Inert text ends no statement. -/
theorem semicolon_not_mem (h : Inert commas text ps) : .code ';' ∉ ps := by
  induction h with
  | nil => simp
  | code hc h ih => exact List.not_mem_cons_of_ne_of_not_mem (code_ne hc rfl).symm ih
  | comma h ih => simpa using ih
  | literal content hnext h ih => simpa using ih
  | parens hinner h ihinner ih => simp [ihinner, ih]

/-- Up to a comma, inert text is an item of the list around it. -/
theorem items?_comma (h : Inert false text ps) (qs : List Piece) :
    Text.items? 0 (ps ++ .code ',' :: qs) = (Text.items? 0 qs).map (ps :: ·) := by
  rw [h.items? 0 (by simp), Text.items?, Option.map_map]
  exact congrArg (Option.map · _) (funext fun items => by simp)

/-- Up to the parenthesis that closes a list, inert text is the last item. -/
theorem items?_close (h : Inert false text ps) (qs : List Piece) :
    Text.items? 0 (ps ++ .code ')' :: qs) = some [ps] := by
  rw [h.items? 0 (by simp), Text.items?]
  simp

/-- The pieces of inert text with a semicolon behind it. -/
theorem pieces?_semicolon {s : String} (h : Inert commas s.toList ps) :
    Text.pieces? (s ++ ";").toList = some (ps ++ [.code ';']) := by
  have hend : Text.pieces? ";".toList = some [.code ';'] := by simp [Text.pieces?]
  rw [String.toList_append, h.pieces? (by decide), hend, Option.map_some]

/-! ### Composition -/

/-- Text without marks may stand before any inert text. -/
theorem bare_append (htext : ∀ c ∈ text, isMark c = false) (h : Inert commas other qs) :
    Inert commas (text ++ other) (text.map .code ++ qs) := by
  induction text with
  | nil => exact h
  | cons c text ih =>
    obtain ⟨hc, htext⟩ := List.forall_mem_cons.mp htext
    exact .code hc (ih htext)

/-- Inert texts may stand together, unless the second one opens with a literal. -/
theorem append (h : Inert commas text ps) (hother : Inert commas other qs) (hnext : other.head? ≠ some '\'') :
    Inert commas (text ++ other) (ps ++ qs) := by
  induction h with
  | nil => exact hother
  | code hc h ih => exact .code hc (ih hother)
  | comma h ih => exact .comma (ih hother)
  | literal content hliteral h ih => simpa using Inert.literal content (head?_append_ne hliteral hnext) (ih hother)
  | parens hinner h ihinner ih => simpa using Inert.parens hinner (ih hother)

/-- In parentheses commas are allowed. -/
theorem inner (h : Inert commas text ps) : Inert true text ps := by
  induction h with
  | nil => exact .nil
  | code hc h ih => exact .code hc ih
  | comma h ih => exact .comma ih
  | literal content hnext h ih => exact .literal content hnext ih
  | parens hinner h ihinner ih => exact .parens hinner ih

end Inert

/-! ## Inert strings -/

/-- A string without marks. -/
def IsBare (s : String) : Prop := ∀ c ∈ s.toList, isMark c = false

instance : DecidablePred IsBare := fun s => decidable_of_iff (s.toList.all (!isMark ·) = true) (by simp [IsBare])

/-- A string that can be an item of a list. -/
def IsInert (s : String) : Prop := ∃ ps, Inert false s.toList ps

variable {s t : String}

theorem IsBare.append (hs : IsBare s) (ht : IsBare t) : IsBare (s ++ t) := by
  unfold IsBare
  rw [String.toList_append]
  exact List.forall_mem_append.mpr ⟨hs, ht⟩

theorem IsBare.isInert_append (hs : IsBare s) (ht : IsInert t) : IsInert (s ++ t) := by
  obtain ⟨ps, hps⟩ := ht
  exact ⟨_, String.toList_append ▸ hps.bare_append hs⟩

theorem IsBare.isInert (hs : IsBare s) : IsInert s := by
  have hempty : IsInert "" := ⟨[], .nil⟩
  simpa using hs.isInert_append hempty

theorem IsInert.append (hs : IsInert s) (ht : IsInert t) (hnext : t.toList.head? ≠ some '\'') : IsInert (s ++ t) := by
  obtain ⟨ps, hps⟩ := hs
  obtain ⟨qs, hqs⟩ := ht
  exact ⟨_, String.toList_append ▸ hps.append hqs hnext⟩

theorem IsInert.append_bare (hs : IsInert s) (ht : IsBare t) : IsInert (s ++ t) := by
  refine hs.append ht.isInert fun hquote => ?_
  exact absurd (ht _ (List.mem_of_head? hquote)) (by decide)

theorem IsInert.parens (hs : IsInert s) : IsInert ("(" ++ s ++ ")") := by
  obtain ⟨ps, hps⟩ := hs
  exact ⟨_, by simpa using Inert.parens hps.inner .nil⟩

theorem isInert_sqlLiteral (s : String) : IsInert (sqlLiteral s) :=
  ⟨_, by simpa [sqlLiteral] using Inert.literal s.toList (by simp) .nil⟩

/-- An inert string with a semicolon is a statement. -/
theorem IsInert.isStatement (hs : IsInert s) : IsStatement (s ++ ";") := by
  obtain ⟨ps, hps⟩ := hs
  exact ⟨ps, hps.pieces?_semicolon, hps.semicolon_not_mem, hps.depth? 0 _⟩

/-! ## Words -/

/-- The first list is what stands behind text without marks. -/
theorem list?_bare_append (htext : ∀ c ∈ text, isMark c = false) (qs : List Piece) :
    list? (text.map .code ++ qs) = list? qs := by
  induction text with
  | nil => rfl
  | cons c text ih =>
    obtain ⟨hc, htext⟩ := List.forall_mem_cons.mp htext
    rw [List.map_cons, List.cons_append, list?, ih htext]
    exact code_ne hc rfl

theorem word_append {c : Char} (htext : ∀ c ∈ text, c.isWhitespace = false) (hc : c.isWhitespace = true)
    (qs : List Piece) : word (text.map .code ++ .code c :: qs) = text := by
  induction text with
  | nil => rw [List.map_nil, List.nil_append, word, if_pos hc]
  | cons d text ih =>
    obtain ⟨hd, htext⟩ := List.forall_mem_cons.mp htext
    rw [List.map_cons, List.cons_append, word, if_neg (by simp [hd]), ih htext]

/-- The first word is the one between two pieces of white space. -/
theorem firstWord_append {c : Char} (hblank : ∀ p ∈ ps, p.isBlank = true) (hne : s.toList ≠ [])
    (hs : ∀ c ∈ s.toList, c.isWhitespace = false) (hc : c.isWhitespace = true) (qs : List Piece) :
    firstWord (ps ++ (s.toList.map .code ++ .code c :: qs)) = s := by
  obtain ⟨d, text, hcons⟩ := List.exists_cons_of_ne_nil hne
  have hd : (Piece.code d).isBlank = false := hs d (hcons ▸ List.mem_cons_self)
  have hdrop : (s.toList.map Piece.code ++ .code c :: qs).dropWhile Piece.isBlank =
      s.toList.map Piece.code ++ .code c :: qs := by
    rw [hcons, List.map_cons, List.cons_append, List.dropWhile_cons_of_neg (by simp [hd])]
  rw [firstWord, List.dropWhile_append_of_pos hblank, hdrop, word_append hs hc, String.ofList_toList]

end SchemaJournal.Text
