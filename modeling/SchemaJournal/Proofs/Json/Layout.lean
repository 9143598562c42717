import SchemaJournal.Json.Token
import SchemaJournal.Json.Value

/-!
# Layouts of written values

The two forms of a value differ in their blanks only: one text, `Value.laidOut`, with a `Layout` that says where blanks
stand and which ones, is the compact form (`laidOut_tight`) or the one on several lines (`laidOut_indented`). What is
shown of all layouts thus holds of both forms.
-/

namespace SchemaJournal.Json

/-- The blanks of a written value: those before every part of a container and before its end, by the level of nesting,
and those between a key and its value. -/
structure Layout where
  gap : Nat → String
  space : String
  gap_blank : ∀ level, ∀ c ∈ (gap level).toList, isSpace c = true
  space_blank : ∀ c ∈ space.toList, isSpace c = true

theorem toList_newLine (level : Nat) : (Value.newLine level).toList = '\n' :: List.replicate (2 * level) ' ' := by
  simp [Value.newLine]

theorem isSpace_empty : ∀ c ∈ "".toList, isSpace c = true := by simp

namespace Layout

/-- No blanks at all. -/
def tight : Layout := ⟨fun _ => "", "", fun _ => isSpace_empty, isSpace_empty⟩

/-- A line for each part, and a space after each key. -/
def indented : Layout where
  gap := Value.newLine
  space := " "
  gap_blank level c hc := by
    rw [toList_newLine, List.mem_cons, List.mem_replicate] at hc
    rcases hc with rfl | ⟨-, rfl⟩ <;> rfl
  space_blank := by simp [isSpace]

end Layout

namespace Value

variable (l : Layout)

mutual

/-- The text of a value that stands at a level of nesting. -/
def laidOut (level : Nat) : Value → String
  | .null => "null"
  | .bool b => if b then "true" else "false"
  | .number n => n.text
  | .string s => stringText s
  | .array [] => "[]"
  | .array items => "[" ++ laidOutItems (level + 1) items ++ l.gap level ++ "]"
  | .object [] => "\x7b\x7d"
  | .object members => "\x7b" ++ laidOutMembers (level + 1) members ++ l.gap level ++ "\x7d"

/-- Items with commas between them. -/
def laidOutItems (level : Nat) : List Value → String
  | [] => ""
  | [item] => l.gap level ++ item.laidOut level
  | item :: rest => l.gap level ++ item.laidOut level ++ "," ++ laidOutItems level rest

/-- Members with commas between them. -/
def laidOutMembers (level : Nat) : List (String × Value) → String
  | [] => ""
  | [(key, value)] => l.gap level ++ stringText key ++ ":" ++ l.space ++ value.laidOut level
  | (key, value) :: rest =>
    l.gap level ++ stringText key ++ ":" ++ l.space ++ value.laidOut level ++ "," ++ laidOutMembers level rest

end

/-! ## The compact form -/

mutual

theorem laidOut_tight (level : Nat) : ∀ v : Value, laidOut .tight level v = v.compact
  | .null => rfl
  | .bool _ => rfl
  | .number _ => rfl
  | .string _ => rfl
  | .array [] => rfl
  | .array (item :: items) => by
    show "[" ++ laidOutItems .tight (level + 1) (item :: items) ++ "" ++ "]" =
      "[" ++ compactItems (item :: items) ++ "]"
    rw [laidOutItems_tight (level + 1) (item :: items), String.append_empty]
  | .object [] => rfl
  | .object (member :: members) => by
    show "\x7b" ++ laidOutMembers .tight (level + 1) (member :: members) ++ "" ++ "\x7d" =
      "\x7b" ++ compactMembers (member :: members) ++ "\x7d"
    rw [laidOutMembers_tight (level + 1) (member :: members), String.append_empty]

theorem laidOutItems_tight (level : Nat) : ∀ items : List Value, laidOutItems .tight level items = compactItems items
  | [] => rfl
  | [item] => by
    show "" ++ laidOut .tight level item = item.compact
    rw [laidOut_tight level item, String.empty_append]
  | item :: next :: items => by
    show "" ++ laidOut .tight level item ++ "," ++ laidOutItems .tight level (next :: items) =
      item.compact ++ "," ++ compactItems (next :: items)
    rw [laidOut_tight level item, laidOutItems_tight level (next :: items), String.empty_append]

theorem laidOutMembers_tight (level : Nat) :
    ∀ members : List (String × Value), laidOutMembers .tight level members = compactMembers members
  | [] => rfl
  | [(key, value)] => by
    show "" ++ stringText key ++ ":" ++ "" ++ laidOut .tight level value = stringText key ++ ":" ++ value.compact
    rw [laidOut_tight level value, String.empty_append, String.append_empty]
  | (key, value) :: next :: members => by
    show "" ++ stringText key ++ ":" ++ "" ++ laidOut .tight level value ++ "," ++
      laidOutMembers .tight level (next :: members) =
      stringText key ++ ":" ++ value.compact ++ "," ++ compactMembers (next :: members)
    rw [laidOut_tight level value, laidOutMembers_tight level (next :: members), String.empty_append,
      String.append_empty]

end

/-! ## The form on several lines -/

mutual

theorem laidOut_indented (level : Nat) : ∀ v : Value, laidOut .indented level v = v.prettyAt level
  | .null => rfl
  | .bool _ => rfl
  | .number _ => rfl
  | .string _ => rfl
  | .array [] => rfl
  | .array (item :: items) => by
    show "[" ++ laidOutItems .indented (level + 1) (item :: items) ++ newLine level ++ "]" =
      "[" ++ prettyItems (level + 1) (item :: items) ++ newLine level ++ "]"
    rw [laidOutItems_indented (level + 1) (item :: items)]
  | .object [] => rfl
  | .object (member :: members) => by
    show "\x7b" ++ laidOutMembers .indented (level + 1) (member :: members) ++ newLine level ++ "\x7d" =
      "\x7b" ++ prettyMembers (level + 1) (member :: members) ++ newLine level ++ "\x7d"
    rw [laidOutMembers_indented (level + 1) (member :: members)]

theorem laidOutItems_indented (level : Nat) :
    ∀ items : List Value, laidOutItems .indented level items = prettyItems level items
  | [] => rfl
  | [item] => by
    show newLine level ++ laidOut .indented level item = newLine level ++ item.prettyAt level
    rw [laidOut_indented level item]
  | item :: next :: items => by
    show newLine level ++ laidOut .indented level item ++ "," ++ laidOutItems .indented level (next :: items) =
      newLine level ++ item.prettyAt level ++ "," ++ prettyItems level (next :: items)
    rw [laidOut_indented level item, laidOutItems_indented level (next :: items)]

theorem laidOutMembers_indented (level : Nat) :
    ∀ members : List (String × Value), laidOutMembers .indented level members = prettyMembers level members
  | [] => rfl
  | [(key, value)] => by
    show newLine level ++ stringText key ++ ":" ++ " " ++ laidOut .indented level value =
      newLine level ++ stringText key ++ (":" ++ " ") ++ value.prettyAt level
    rw [laidOut_indented level value, ← String.append_assoc]
  | (key, value) :: next :: members => by
    show newLine level ++ stringText key ++ ":" ++ " " ++ laidOut .indented level value ++ "," ++
      laidOutMembers .indented level (next :: members) =
      newLine level ++ stringText key ++ (":" ++ " ") ++ value.prettyAt level ++ "," ++
        prettyMembers level (next :: members)
    rw [laidOut_indented level value, laidOutMembers_indented level (next :: members), ← String.append_assoc]

end

theorem laidOut_pretty (v : Value) : laidOut .indented 0 v = v.pretty := laidOut_indented 0 v

end Value

end SchemaJournal.Json
