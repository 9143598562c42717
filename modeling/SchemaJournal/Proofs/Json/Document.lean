import SchemaJournal.Json.Reader
import SchemaJournal.Proofs.Json.Layout
import SchemaJournal.Proofs.Json.Numeral
import SchemaJournal.Proofs.Json.Spelling

/-!
# Written documents are read back

The text of a value, whatever its layout, is cut into the tokens of the value (`Token.ofChars_laidOut`), and these build
its outline (`Outline.build_tokens`). So what reads a document that was written reads the outline of the value
(`readDocument_compact`, `readDocument_pretty`).
-/

namespace SchemaJournal.Json

/-! ## Tokens and outlines of values -/

namespace Value

mutual

/-- Whether all numbers of a value are legible. -/
def IsLegible : Value → Prop
  | .number n => n.IsLegible
  | .array items => AreLegible items
  | .object members => MembersLegible members
  | _ => True

def AreLegible : List Value → Prop
  | [] => True
  | item :: rest => item.IsLegible ∧ AreLegible rest

def MembersLegible : List (String × Value) → Prop
  | [] => True
  | (_, value) :: rest => value.IsLegible ∧ MembersLegible rest

end

theorem membersLegible_iff {members : List (String × Value)} :
    MembersLegible members ↔ ∀ m ∈ members, m.2.IsLegible := by
  induction members with
  | nil => simp [MembersLegible]
  | cons m rest ih => rw [MembersLegible, ih, List.forall_mem_cons]

mutual

/-- The tokens of a value. -/
def tokens : Value → List Token
  | .null => [.null]
  | .bool b => [.bool b]
  | .number n => [.number n.numeral]
  | .string s => [.string (.written s)]
  | .array items => .openArray :: (itemTokens items ++ [.closeArray])
  | .object members => .openObject :: (memberTokens members ++ [.closeObject])

/-- The tokens of items with commas between them. -/
def itemTokens : List Value → List Token
  | [] => []
  | [item] => item.tokens
  | item :: rest => item.tokens ++ .comma :: itemTokens rest

/-- The tokens of members with commas between them. -/
def memberTokens : List (String × Value) → List Token
  | [] => []
  | [(key, value)] => .string (.written key) :: .colon :: value.tokens
  | (key, value) :: rest => .string (.written key) :: .colon :: (value.tokens ++ .comma :: memberTokens rest)

end

mutual

/-- The outline of a value. -/
def outline : Value → Outline
  | .null => .null
  | .bool b => .bool b
  | .number n => .number n.numeral
  | .string s => .string (.written s)
  | .array items => .array (itemsOutline items)
  | .object members => .object (membersOutline members)

/-- The outline of the items of an array. -/
def itemsOutline : List Value → Items
  | [] => .closed
  | item :: rest => .item item.outline (itemsOutline rest)

/-- The outline of the members of an object. -/
def membersOutline : List (String × Value) → Members
  | [] => .closed
  | (key, value) :: rest => .member (.written key) value.outline (membersOutline rest)

end

end Value

/-! ## Reading tokens -/

namespace Token

variable {c : Char} {rest r : List Char} {t : Token}

theorem ofChars_space (h : isSpace c = true) : ofChars (c :: rest) = ofChars rest := by
  rw [ofChars, if_pos h]

theorem ofChars_token (hs : isSpace c = false) (h : read? c rest = some (t, r)) :
    ofChars (c :: rest) = t :: ofChars r := by
  rw [ofChars, if_neg (by simp [hs])]
  split
  next h' => cases h'.symm.trans h
  next h' =>
    cases h'.symm.trans h
    rfl

theorem ofChars_mark (h : mark? c = some t) : ofChars (c :: rest) = t :: ofChars rest := by
  have hs : isSpace c = false := by
    unfold mark? at h
    split at h <;> first | rfl | cases h
  exact ofChars_token hs (by rw [read?, h])

theorem ofChars_blank {blank : List Char} (h : ∀ c ∈ blank, isSpace c = true) (rest : List Char) :
    ofChars (blank ++ rest) = ofChars rest := by
  induction blank with
  | nil => rfl
  | cons c blank ih =>
    rw [List.cons_append, ofChars_space (h c List.mem_cons_self)]
    exact ih fun d hd => h d (List.mem_cons_of_mem _ hd)

theorem ofChars_string (s : String) (rest : List Char) :
    ofChars ((stringText s).toList ++ rest) = .string (.written s) :: ofChars rest := by
  have htext : (stringText s).toList ++ rest = '"' :: (s.toList.flatMap escapeChar ++ '"' :: rest) := by
    simp [stringText]
  rw [htext]
  refine ofChars_token (by decide) ?_
  show (readSpelling _).map _ = _
  rw [readSpelling_written]
  rfl

/-- What starts like a number is read as one. -/
theorem read?_number (h : c.isDigit = true ∨ c = '-') (rest : List Char) :
    isSpace c = false ∧ read? c rest = (readNumeral (c :: rest)).map fun (n, rest) => (.number n, rest) := by
  have hne : ∀ d, d.isDigit = false → d ≠ '-' → c ≠ d := by
    rintro d hd hminus rfl
    rcases h with h | h
    · exact absurd (hd.symm.trans h) (by decide)
    · exact hminus h
  have hmark : mark? c = none := by
    unfold mark?
    split <;> first | rfl | exact absurd rfl (hne _ (by decide) (by decide))
  have hword : word? c = none := by
    unfold word?
    split <;> first | rfl | exact absurd rfl (hne _ (by decide) (by decide))
  refine ⟨?_, ?_⟩
  · simp [isSpace, hne ' ' (by decide) (by decide), hne '\t' (by decide) (by decide),
      hne '\n' (by decide) (by decide), hne '\r' (by decide) (by decide)]
  · unfold read?
    rw [hmark, hword]
    exact if_neg (hne '"' (by decide) (by decide))

theorem ofChars_number {n : Number} (h : n.IsLegible) (hr : Delimits rest) :
    ofChars (n.text.toList ++ rest) = .number n.numeral :: ofChars rest := by
  obtain ⟨c, s, hc, hstart⟩ := exists_of_readNumeral h.read
  have hread := readNumeral_append h.read hr
  rw [hc, List.cons_append] at hread ⊢
  obtain ⟨hspace, hnumber⟩ := read?_number hstart (s ++ rest)
  exact ofChars_token hspace (by rw [hnumber, hread]; rfl)

/-! ## The tokens of a written value -/

theorem delimits_blank {blank : List Char} (h : ∀ c ∈ blank, isSpace c = true) (hr : Delimits rest) :
    Delimits (blank ++ rest) := by
  cases blank with
  | nil => exact hr
  | cons c blank =>
    have hc : ((c = ' ' ∨ c = '\t') ∨ c = '\n') ∨ c = '\r' := by simpa [isSpace] using h c List.mem_cons_self
    rcases hc with ((rfl | rfl) | rfl) | rfl <;> exact delimits_cons (by decide)

section Layout

variable (l : Layout)

mutual

/-- The text of a value is cut into its tokens. -/
theorem ofChars_laidOut : ∀ (v : Value), v.IsLegible → ∀ (level : Nat) (rest : List Char), Delimits rest →
    ofChars ((v.laidOut l level).toList ++ rest) = v.tokens ++ ofChars rest
  | .null, _, level, rest, _ => by
    have htext : (Value.null.laidOut l level).toList ++ rest = 'n' :: 'u' :: 'l' :: 'l' :: rest := by
      simp [Value.laidOut]
    rw [htext]
    exact ofChars_token rfl rfl
  | .bool true, _, level, rest, _ => by
    have htext : ((Value.bool true).laidOut l level).toList ++ rest = 't' :: 'r' :: 'u' :: 'e' :: rest := by
      simp [Value.laidOut]
    rw [htext]
    exact ofChars_token rfl rfl
  | .bool false, _, level, rest, _ => by
    have htext : ((Value.bool false).laidOut l level).toList ++ rest = 'f' :: 'a' :: 'l' :: 's' :: 'e' :: rest := by
      simp [Value.laidOut]
    rw [htext]
    exact ofChars_token rfl rfl
  | .number n, hv, level, rest, hr => by
    rw [Value.laidOut, Value.tokens, ofChars_number hv hr]
    rfl
  | .string s, _, level, rest, _ => by
    rw [Value.laidOut, Value.tokens, ofChars_string]
    rfl
  | .array [], _, level, rest, _ => by
    have htext : ((Value.array []).laidOut l level).toList ++ rest = '[' :: ']' :: rest := by
      simp [Value.laidOut]
    rw [htext, ofChars_mark rfl, ofChars_mark rfl]
    rfl
  | .array (item :: items), hv, level, rest, _ => by
    have hitems := ofChars_laidOutItems (item :: items) hv (level + 1) ((l.gap level).toList ++ ']' :: rest)
      (delimits_blank (l.gap_blank level) (delimits_cons (by decide)))
    rw [ofChars_blank (l.gap_blank level), ofChars_mark rfl] at hitems
    have htext : ((Value.array (item :: items)).laidOut l level).toList ++ rest = '[' ::
        ((Value.laidOutItems l (level + 1) (item :: items)).toList ++ ((l.gap level).toList ++ ']' :: rest)) := by
      simp [Value.laidOut]
    rw [htext, ofChars_mark rfl, hitems]
    simp [Value.tokens]
  | .object [], _, level, rest, _ => by
    have htext : ((Value.object []).laidOut l level).toList ++ rest = '\x7b' :: '\x7d' :: rest := by
      simp [Value.laidOut]
    rw [htext, ofChars_mark rfl, ofChars_mark rfl]
    rfl
  | .object (member :: members), hv, level, rest, _ => by
    have hmembers := ofChars_laidOutMembers (member :: members) hv (level + 1)
      ((l.gap level).toList ++ '\x7d' :: rest) (delimits_blank (l.gap_blank level) (delimits_cons (by decide)))
    rw [ofChars_blank (l.gap_blank level), ofChars_mark rfl] at hmembers
    have htext : ((Value.object (member :: members)).laidOut l level).toList ++ rest = '\x7b' ::
        ((Value.laidOutMembers l (level + 1) (member :: members)).toList ++
          ((l.gap level).toList ++ '\x7d' :: rest)) := by
      simp [Value.laidOut]
    rw [htext, ofChars_mark rfl, hmembers]
    simp [Value.tokens]

theorem ofChars_laidOutItems : ∀ (items : List Value), Value.AreLegible items → ∀ (level : Nat) (rest : List Char),
    Delimits rest → ofChars ((Value.laidOutItems l level items).toList ++ rest) = Value.itemTokens items ++ ofChars rest
  | [], _, _, _, _ => rfl
  | [item], hv, level, rest, hr => by
    rw [Value.laidOutItems, Value.itemTokens, String.toList_append, List.append_assoc,
      ofChars_blank (l.gap_blank level), ofChars_laidOut item hv.1 level rest hr]
  | item :: next :: items, hv, level, rest, hr => by
    have htext : (Value.laidOutItems l level (item :: next :: items)).toList ++ rest = (l.gap level).toList ++
        ((item.laidOut l level).toList ++ ',' :: ((Value.laidOutItems l level (next :: items)).toList ++ rest)) := by
      simp [Value.laidOutItems]
    rw [htext, ofChars_blank (l.gap_blank level), ofChars_laidOut item hv.1 level _ (delimits_cons (by decide)),
      ofChars_mark rfl, ofChars_laidOutItems (next :: items) hv.2 level rest hr]
    simp [Value.itemTokens]

theorem ofChars_laidOutMembers : ∀ (members : List (String × Value)), Value.MembersLegible members →
    ∀ (level : Nat) (rest : List Char), Delimits rest →
    ofChars ((Value.laidOutMembers l level members).toList ++ rest) = Value.memberTokens members ++ ofChars rest
  | [], _, _, _, _ => rfl
  | [(key, value)], hv, level, rest, hr => by
    have htext : (Value.laidOutMembers l level [(key, value)]).toList ++ rest = (l.gap level).toList ++
        ((stringText key).toList ++ ':' :: (l.space.toList ++ ((value.laidOut l level).toList ++ rest))) := by
      simp [Value.laidOutMembers]
    rw [htext, ofChars_blank (l.gap_blank level), ofChars_string, ofChars_mark rfl, ofChars_blank l.space_blank,
      ofChars_laidOut value hv.1 level rest hr]
    rfl
  | (key, value) :: next :: members, hv, level, rest, hr => by
    have htext : (Value.laidOutMembers l level ((key, value) :: next :: members)).toList ++ rest =
        (l.gap level).toList ++ ((stringText key).toList ++ ':' :: (l.space.toList ++
          ((value.laidOut l level).toList ++
            ',' :: ((Value.laidOutMembers l level (next :: members)).toList ++ rest)))) := by
      simp [Value.laidOutMembers]
    rw [htext, ofChars_blank (l.gap_blank level), ofChars_string, ofChars_mark rfl, ofChars_blank l.space_blank,
      ofChars_laidOut value hv.1 level _ (delimits_cons (by decide)),
      ofChars_mark rfl, ofChars_laidOutMembers (next :: members) hv.2 level rest hr]
    simp [Value.memberTokens]

end

end Layout

end Token

/-! ## The outline of tokens -/

namespace Outline

variable {parents : List Parent} {rest : List Token}

/-- How building goes on after a complete value. -/
def resume (value : Outline) (rest : List Token) : List Parent → Outline × List Token
  | [] => (value, rest)
  | .array done :: parents => build parents (.afterItem (value :: done)) rest
  | .object done key :: parents => build parents (.afterMember ((key, value) :: done)) rest

theorem build_settle {position : Position} {token : Token} {value : Outline} {parents' : List Parent}
    (h : step parents position token = settle value parents') :
    build parents position (token :: rest) = resume value rest parents' := by
  rw [build, h]
  cases parents' with
  | nil => rfl
  | cons parent parents' =>
    cases parent with
    | array done => rfl
    | object done key => rfl

/-- The first item of an array is built like the next ones. -/
theorem build_firstItem (v : Value) (parents : List Parent) (rest : List Token) :
    build parents .firstItem (v.tokens ++ rest) = build (.array [] :: parents) .value (v.tokens ++ rest) := by
  cases v with
  | null => rfl
  | bool b => rfl
  | number n => rfl
  | string s => rfl
  | array items => rfl
  | object members => rfl

theorem itemTokens_cons (item : Value) (items : List Value) :
    ∃ tail, Value.itemTokens (item :: items) = item.tokens ++ tail := by
  cases items with
  | nil => exact ⟨[], (List.append_nil _).symm⟩
  | cons next items => exact ⟨_, rfl⟩

mutual

/-- The tokens of a value build its outline. -/
theorem build_tokens : ∀ (v : Value) (parents : List Parent) (rest : List Token),
    build parents .value (v.tokens ++ rest) = resume v.outline rest parents
  | .null, _, _ => build_settle rfl
  | .bool _, _, _ => build_settle rfl
  | .number _, _, _ => build_settle rfl
  | .string _, _, _ => build_settle rfl
  | .array [], parents, rest => by
    show build parents .firstItem (.closeArray :: rest) = _
    exact build_settle rfl
  | .array (item :: items), parents, rest => by
    have htokens : (Value.array (item :: items)).tokens ++ rest =
        .openArray :: (Value.itemTokens (item :: items) ++ .closeArray :: rest) := by
      simp [Value.tokens]
    have hitems := build_itemTokens (item :: items) (List.cons_ne_nil _ _) [] parents rest
    obtain ⟨tail, htail⟩ := itemTokens_cons item items
    rw [htail, List.append_assoc, ← build_firstItem] at hitems
    rw [htokens, htail, List.append_assoc]
    exact hitems
  | .object [], parents, rest => by
    show build parents .firstKey (.closeObject :: rest) = _
    exact build_settle rfl
  | .object ((key, value) :: members), parents, rest => by
    have htokens : (Value.object ((key, value) :: members)).tokens ++ rest =
        .openObject :: (Value.memberTokens ((key, value) :: members) ++ .closeObject :: rest) := by
      simp [Value.tokens]
    have hmembers := build_memberTokens ((key, value) :: members) (List.cons_ne_nil _ _) [] parents rest
    rw [htokens]
    cases members with
    | nil => exact hmembers
    | cons next members => exact hmembers

theorem build_itemTokens : ∀ (items : List Value), items ≠ [] → ∀ (done : List Outline) (parents : List Parent)
    (rest : List Token), build (.array done :: parents) .value (Value.itemTokens items ++ .closeArray :: rest) =
      resume (.array (Items.prepend done (Value.itemsOutline items))) rest parents
  | [item], _, done, parents, rest => by
    rw [Value.itemTokens, build_tokens item]
    exact build_settle rfl
  | item :: next :: items, _, done, parents, rest => by
    have htokens : Value.itemTokens (item :: next :: items) ++ .closeArray :: rest =
        item.tokens ++ .comma :: (Value.itemTokens (next :: items) ++ .closeArray :: rest) := by
      simp [Value.itemTokens]
    rw [htokens, build_tokens item]
    exact build_itemTokens (next :: items) (List.cons_ne_nil _ _) (item.outline :: done) parents rest

theorem build_memberTokens : ∀ (members : List (String × Value)), members ≠ [] →
    ∀ (done : List (Spelling × Outline)) (parents : List Parent) (rest : List Token),
    build parents (.key done) (Value.memberTokens members ++ .closeObject :: rest) =
      resume (.object (Members.prepend done (Value.membersOutline members))) rest parents
  | [(key, value)], _, done, parents, rest => by
    show build (.object done (.written key) :: parents) .value (value.tokens ++ .closeObject :: rest) = _
    rw [build_tokens value]
    exact build_settle rfl
  | (key, value) :: next :: members, _, done, parents, rest => by
    have htokens : Value.memberTokens ((key, value) :: next :: members) ++ .closeObject :: rest =
        .string (.written key) :: .colon ::
          (value.tokens ++ .comma :: (Value.memberTokens (next :: members) ++ .closeObject :: rest)) := by
      simp [Value.memberTokens]
    rw [htokens]
    show build (.object done (.written key) :: parents) .value _ = _
    rw [build_tokens value]
    exact build_memberTokens (next :: members) (List.cons_ne_nil _ _) ((.written key, value.outline) :: done) parents
      rest

end

end Outline

/-! ## Whole documents -/

/-- To read a text that is cut into the tokens of a value is to read the outline of the value. -/
theorem readDocument_of_tokens {α : Type} (read : Reader α) {v : Value} {text : String}
    (h : Token.ofChars text.toList = v.tokens) : readDocument read text = read nestingLimit v.outline := by
  have houtline : Outline.ofTokens v.tokens = (v.outline, []) := by
    have h := Outline.build_tokens v [] []
    rwa [List.append_nil] at h
  unfold readDocument
  rw [h, houtline]
  cases h : read nestingLimit v.outline with
  | error e => simp [h, bind, Except.bind]
  | ok a => simp [h, bind, Except.bind]; rfl

variable {α : Type} (read : Reader α) {v : Value}

/-- To read a value that was laid out, with blanks after it, is to read its outline. -/
theorem readDocument_laidOut (l : Layout) (hv : v.IsLegible) {blank : String}
    (hblank : ∀ c ∈ blank.toList, isSpace c = true) :
    readDocument read (v.laidOut l 0 ++ blank) = read nestingLimit v.outline := by
  refine readDocument_of_tokens read ?_
  have hnone : Delimits [] := nofun
  have hend : Token.ofChars (blank.toList ++ []) = [] := (Token.ofChars_blank hblank []).trans (by rw [Token.ofChars])
  rw [List.append_nil] at hend
  have hdelimits : Delimits blank.toList := by
    rw [← List.append_nil blank.toList]
    exact Token.delimits_blank hblank hnone
  rw [String.toList_append, Token.ofChars_laidOut l v hv 0 _ hdelimits, hend, List.append_nil]

theorem readDocument_compact (hv : v.IsLegible) : readDocument read v.compact = read nestingLimit v.outline := by
  have h := readDocument_laidOut read .tight hv isSpace_empty
  rwa [String.append_empty, Value.laidOut_tight] at h

theorem readDocument_pretty (hv : v.IsLegible) : readDocument read v.pretty = read nestingLimit v.outline := by
  have h := readDocument_laidOut read .indented hv isSpace_empty
  rwa [String.append_empty, Value.laidOut_pretty] at h

/-- A document may end with a new line. -/
theorem readDocument_line (hv : v.IsLegible) :
    readDocument read (v.pretty ++ "\n") = read nestingLimit v.outline := by
  rw [← Value.laidOut_pretty]
  exact readDocument_laidOut read .indented hv (by simp [isSpace])

/-! ## Reading outlines of values -/

theorem readSpelled_written (s : String) : readSpelled (.written s) = .ok s := by
  rw [readSpelled, Spelling.string?_written]

/-- A list is read if its items are. -/
theorem readItems_map {α : Type} (write : α → Value) {read : Outline → Except Problem α}
    (h : ∀ a, read (write a).outline = .ok a) (xs : List α) :
    readItems read (Value.itemsOutline (xs.map write)) = .ok xs := by
  induction xs with
  | nil => rfl
  | cons a xs ih =>
    show (do return (← read (write a).outline) :: (← readItems read (Value.itemsOutline (xs.map write)))) = _
    rw [h, ih]
    rfl

/-- The next member of an object, whose key was written. -/
theorem foldMembers_written {δ : Type} (step : δ → String → Outline → Except Problem δ) (draft : δ) (key : String)
    (value : Outline) (tail : Members) : foldMembers step draft (.member (.written key) value tail) =
      (step draft key value).bind fun draft => foldMembers step draft tail := by
  rw [foldMembers, readSpelled_written]
  rfl

end SchemaJournal.Json
