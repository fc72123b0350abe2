import LocaleMessage.Plural.Category
import LocaleMessage.Plural.Operands

/-!
The language of plural rules. Rules give conditions for categories; a condition is a
disjunction of conjunctions of relations between an operand and lists of ranges.
-/

namespace LocaleMessage.Plural

/-- What a relation looks at. -/
inductive Operand where
  /-- The absolute value. -/
  | n
  /-- The integer part. -/
  | i
  /-- The number of digits of the fraction. -/
  | v
  /-- The digits of the fraction. -/
  | f
  /-- The digits of the fraction without zeros at its end. -/
  | t
deriving DecidableEq, Repr

/-- Takes the zeros off the end of a number, at most `k` of them. -/
def dropZeros : Nat → Nat → Nat
  | 0, n => n
  | k + 1, n => if n % 10 = 0 then dropZeros k (n / 10) else n

/-- The value of an operand. The absolute value has none if it is not an integer. -/
def Operands.get? (x : Operands) : Operand → Option Nat
  | .n => if x.fraction = 0 then some x.integer else none
  | .i => some x.integer
  | .v => some x.fractionLength
  | .f => some x.fraction
  | .t => some (dropZeros x.fractionLength x.fraction)

/-- Whether an operand, or its rest modulo a number, lies in one of the ranges, or in none. -/
structure Relation where
  operand : Operand
  modulus : Option Nat
  negated : Bool
  ranges : List (Nat × Nat)
deriving DecidableEq, Repr

namespace Relation

def is (operand : Operand) (ranges : List (Nat × Nat)) : Relation :=
  ⟨operand, none, false, ranges⟩

def isNot (operand : Operand) (ranges : List (Nat × Nat)) : Relation :=
  ⟨operand, none, true, ranges⟩

def mod (operand : Operand) (modulus : Nat) (ranges : List (Nat × Nat)) : Relation :=
  ⟨operand, some modulus, false, ranges⟩

def modNot (operand : Operand) (modulus : Nat) (ranges : List (Nat × Nat)) : Relation :=
  ⟨operand, some modulus, true, ranges⟩

/-- Whether a number lies in one of the ranges, both ends included. -/
def inRanges (ranges : List (Nat × Nat)) (n : Nat) : Bool :=
  ranges.any fun (first, last) => first ≤ n && n ≤ last

/-- What has no value lies in no range. -/
def holds (relation : Relation) (x : Operands) : Bool :=
  let found := match x.get? relation.operand with
    | some n => inRanges relation.ranges (relation.modulus.elim n (n % ·))
    | none => false
  found != relation.negated

end Relation

/-- Some conjunction has to hold. -/
abbrev Condition := List (List Relation)

def Condition.holds (condition : Condition) (x : Operands) : Bool :=
  condition.any fun relations => relations.all (·.holds x)

/-- Conditions for categories. No rules at all leave every number to the last category. -/
abbrev Rules := List (PluralCategory × Condition)

/-- The first category whose condition holds. -/
def Rules.category (rules : Rules) (x : Operands) : PluralCategory :=
  ((rules.find? fun rule => rule.2.holds x).map (·.1)).getD .other

end LocaleMessage.Plural
