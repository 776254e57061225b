import TypedSql.Query.Slice
import TypedSql.Text.Search

/-!
What a generated function does with list parameters when it is called: it binds one value for every
parameter, and then replaces the marker of each list by placeholders and binds the rest of the list.
The first placeholder of a list keeps the number of the marker, the others count on from the values
bound so far.
-/

namespace TypedSql.Slice

/-- The arguments of a call: for every property its value, or its elements if it is a list. -/
structure Arguments (Value : Type) where
  value : String → Value
  elements : String → List Value

/-- The value that is bound. A list without elements has no first one. -/
def Bound.value? {Value : Type} (arguments : Arguments Value) : Bound → Option Value
  | .whole property => some (arguments.value property)
  | .first property => (arguments.elements property).head?

/-- The numbers of the placeholders of a list with `count` elements. The first is given; the others
follow after `last`. -/
def ordinals (number count last : Nat) : List Nat :=
  number :: (List.range (count - 1)).map fun i => last + i + 1

def placeholder (ordinal : Nat) : List Char :=
  '?' :: Nat.toDigits 10 ordinal

def placeholders (number count last : Nat) : List Char :=
  '(' :: ([',', ' '].intercalate ((ordinals number count last).map placeholder) ++ [')'])

structure Statement (Value : Type) where
  text : List Char
  values : List Value
deriving DecidableEq

/-- Expands one list. A text without the marker stays as it is. -/
def Expansion.apply {Value : Type} (arguments : Arguments Value) (statement : Statement Value)
    (expansion : Expansion) : Statement Value :=
  let elements := arguments.elements expansion.property
  let list := placeholders expansion.number.toNat elements.length statement.values.length
  ⟨(Text.replaceFirst? expansion.marker.toList list statement.text).getD statement.text,
    statement.values ++ elements.drop 1⟩

/-- The statement that a call prepares, unless a list has no element to bind. -/
def Plan.call? {Value : Type} (plan : Plan) (arguments : Arguments Value) (text : List Char) :
    Option (Statement Value) :=
  (plan.seed.mapM (Bound.value? arguments)).map fun values =>
    plan.expansions.foldl (Expansion.apply arguments) ⟨text, values⟩

example :
    (Plan.mk [.whole "a", .first "ids"] [⟨marker "ids", 2, "ids"⟩]).call?
      ⟨fun _ => 0, fun _ => [7, 8, 9]⟩ "a = ?1 AND b IN (/*SLICE:ids*/?)".toList =
      some ⟨"a = ?1 AND b IN (?2, ?3, ?4)".toList, [0, 7, 8, 9]⟩ := by decide +kernel

end TypedSql.Slice
