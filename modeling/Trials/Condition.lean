/-!
# Conditions

The experimental condition that a page is tagged with: a number or a name.  A number and a name are
never equal, and numbers come before names.
-/

namespace Trials

/-- The condition of a page. -/
inductive Condition where
  /-- A condition known by number. -/
  | number (n : Int)
  /-- A condition known by name. -/
  | name (s : String)
deriving DecidableEq

namespace Condition

/-- The least number that a condition may be known by. -/
def least : Int := -0x8000000000000000

/-- The greatest number that a condition may be known by. -/
def greatest : Int := 0x7FFFFFFFFFFFFFFF

/-- The condition as it is displayed. -/
def text : Condition → String
  | number n => toString n
  | name s => s

/-- The order of conditions: numbers by value, then names by their characters. -/
def order : Condition → Condition → Ordering
  | number m, number n => compare m n
  | number _, name _ => .lt
  | name _, number _ => .gt
  | name s, name t => compare s t

end Condition

end Trials
