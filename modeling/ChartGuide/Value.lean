/-
**Values that a guide carries without looking into them.**

Titles, metadata and annotations may be any data; a guide passes them through, asks whether they
are blank, and prints them.

* `Value.isBlank`: absent, false, zero and empty values are blank.
* `Value.orElse`: the first of two values that is not blank.
* `Value.plain`: the text of a value; a text is printed bare.
* `Value.quotedForm`: the text of a value inside another one; texts are quoted.
-/

import ChartGuide.Text.Quoted

namespace ChartGuide

/-- Data of any kind. The decimal `mantissa`, `exponent` is `mantissa / 10 ^ exponent`. -/
inductive Value where
  | null
  | bool (value : Bool)
  | integer (value : Int)
  | decimal (mantissa : Int) (exponent : Nat)
  | text (value : String)
  | list (items : List Value)
  | dict (entries : List (String × Value))
  deriving Repr, Inhabited

namespace Value

/-! ### Equality -/

mutual

def same : Value → Value → Bool
  | null, null => true
  | bool first, bool second => first == second
  | integer first, integer second => first == second
  | decimal first scale, decimal second other => first == second && scale == other
  | text first, text second => first == second
  | list first, list second => sameItems first second
  | dict first, dict second => sameEntries first second
  | _, _ => false

def sameItems : List Value → List Value → Bool
  | [], [] => true
  | first :: others, second :: rest => same first second && sameItems others rest
  | _, _ => false

def sameEntries : List (String × Value) → List (String × Value) → Bool
  | [], [] => true
  | (key, first) :: others, (name, second) :: rest =>
    key == name && (same first second && sameEntries others rest)
  | _, _ => false

end

mutual

/-- The comparison decides equality. -/
theorem same_iff : ∀ first second : Value, same first second = true ↔ first = second
  | null, second => by cases second <;> simp [same]
  | bool _, second => by cases second <;> simp [same]
  | integer _, second => by cases second <;> simp [same]
  | decimal _ _, second => by cases second <;> simp [same]
  | text _, second => by cases second <;> simp [same]
  | list items, second => by cases second <;> simp [same, sameItems_iff items]
  | dict entries, second => by cases second <;> simp [same, sameEntries_iff entries]

theorem sameItems_iff : ∀ first second : List Value, sameItems first second = true ↔ first = second
  | [], second => by cases second <;> simp [sameItems]
  | item :: rest, second => by
    cases second <;> simp [sameItems, same_iff item, sameItems_iff rest]

theorem sameEntries_iff : ∀ first second : List (String × Value),
    sameEntries first second = true ↔ first = second
  | [], second => by cases second <;> simp [sameEntries]
  | (key, value) :: rest, second => by
    cases second <;>
      simp [sameEntries, same_iff value, sameEntries_iff rest, Prod.ext_iff, and_assoc]

end

instance : DecidableEq Value := fun first second =>
  decidable_of_iff (same first second = true) (same_iff first second)

/-! ### Blank values -/

/-- Whether a value says nothing: absent, false, zero or empty. -/
def isBlank : Value → Bool
  | null => true
  | bool value => !value
  | integer value => value == 0
  | decimal mantissa _ => mantissa == 0
  | text value => value.isEmpty
  | list items => items.isEmpty
  | dict entries => entries.isEmpty

/-- The first value unless it is blank, and else the second. -/
def orElse (first second : Value) : Value := if first.isBlank then second else first

/-- The text of an optional text, or nothing. -/
def ofText? : Option String → Value
  | some value => text value
  | none => null

/-- The value of a key of a dictionary; nothing for other keys and other values. -/
def field (value : Value) (key : String) : Value :=
  match value with
  | dict entries => (entries.lookup key).getD null
  | _ => null

/-- Whether something can be looked up under the value: not under a list or a dictionary. -/
def canBeKey : Value → Bool
  | list _ | dict _ => false
  | _ => true

def kindName : Value → String
  | null => "NoneType"
  | bool _ => "bool"
  | integer _ => "int"
  | decimal _ _ => "float"
  | text _ => "str"
  | list _ => "list"
  | dict _ => "dict"

/-! ### Text -/

/-- A decimal number with a point. -/
def decimalText (mantissa : Int) (exponent : Nat) : String :=
  let digits := toString mantissa.natAbs
  let padded := "".pushn '0' (exponent + 1 - digits.length) ++ digits
  let whole := padded.toList.take (padded.length - exponent)
  let fraction := padded.toList.drop (padded.length - exponent)
  (if mantissa < 0 then "-" else "") ++ String.ofList whole ++ "." ++ String.ofList fraction

mutual

/-- The text of a value inside another one. -/
def quotedForm : Value → String
  | null => "None"
  | bool value => if value then "True" else "False"
  | integer value => toString value
  | decimal mantissa exponent => decimalText mantissa exponent
  | text value => Text.quoted value
  | list items => "[" ++ ", ".intercalate (quotedItems items) ++ "]"
  | dict entries => "\x7b" ++ ", ".intercalate (quotedEntries entries) ++ "\x7d"

def quotedItems : List Value → List String
  | [] => []
  | item :: rest => quotedForm item :: quotedItems rest

def quotedEntries : List (String × Value) → List String
  | [] => []
  | (key, value) :: rest => (Text.quoted key ++ ": " ++ quotedForm value) :: quotedEntries rest

end

/-- The text of a value on its own: a text is printed as it is. -/
def plain : Value → String
  | text value => value
  | value => quotedForm value

end Value

end ChartGuide
