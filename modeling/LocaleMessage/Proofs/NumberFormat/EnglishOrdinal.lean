import LocaleMessage.Proofs.Compiled.Interpretation
import LocaleMessage.Template

/-! English positions. The style for positions tells the ending behind the digits from the last two
of them, and a message that chooses among positions gets there by the plural rules. -/
namespace LocaleMessage

namespace Plural

/-- The category of an English position that is written with these digits. Eleventh, twelfth and
thirteenth are exceptions in every hundred. -/
def englishPosition (n : Nat) : PluralCategory :=
  if n % 10 = 1 ∧ n % 100 ≠ 11 then .one
  else if n % 10 = 2 ∧ n % 100 ≠ 12 then .two
  else if n % 10 = 3 ∧ n % 100 ≠ 13 then .few
  else .other

theorem holds_lastDigits (n last lastTwo : Nat) :
    Condition.holds [[.mod .n 10 [(last, last)], .modNot .n 100 [(lastTwo, lastTwo)]]] ⟨n, 0, 0⟩ =
      decide (n % 10 = last ∧ n % 100 ≠ lastTwo) := by
  have hRange (first k : Nat) : Relation.inRanges [(first, first)] k = decide (k = first) := by
    simp only [Relation.inRanges, List.any_cons, List.any_nil, Bool.or_false]
    rw [← Bool.decide_and, decide_eq_decide]
    omega
  simp [Condition.holds, Relation.holds, Relation.mod, Relation.modNot, Operands.get?, hRange]

/-- The plural rules put an English position into the category that its last two digits say. The
sign plays no part. -/
theorem category_english (i : Int64) :
    category (.integer i) "en" .ordinal = englishPosition i.toInt.natAbs := by
  have hRules : rulesOf .ordinal (Locale.languageTag "en") =
      [(.one, [[.mod .n 10 [(1, 1)], .modNot .n 100 [(11, 11)]]]),
        (.two, [[.mod .n 10 [(2, 2)], .modNot .n 100 [(12, 12)]]]),
        (.few, [[.mod .n 10 [(3, 3)], .modNot .n 100 [(13, 13)]]])] := by
    decide +kernel
  simp only [category, Operands.ofNumber?, hRules, Rules.category, List.find?, holds_lastDigits]
  unfold englishPosition
  split_ifs with hOne hTwo hFew <;> simp [*]

end Plural

/-- The ending of a position by its category. -/
def positionEnding : PluralCategory → String
  | .one => "st"
  | .two => "nd"
  | .few => "rd"
  | _ => "th"

/-- The ending that the style writes is that of the category, although it is found without any
rules. -/
theorem ordinalSuffix_eq (n : Nat) :
    NumberFormat.English.ordinalSuffix n = positionEnding (Plural.englishPosition n) := by
  grind [NumberFormat.English.ordinalSuffix, Plural.englishPosition, positionEnding]

/-- The style for positions writes the number as usual, and behind it the ending for
its category. -/
theorem format_ordinal (i : Int64) :
    NumberFormat.format (.integer i) "en" .ordinal =
      NumberFormat.format (.integer i) "en" .default ++
        positionEnding (Plural.category (.integer i) "en" .ordinal) := by
  have hEnglish : Locale.language "en" = "en" := by decide
  simp [NumberFormat.format, hEnglish, NumberFormat.ordinal, Number.toInteger?, ordinalSuffix_eq,
    Plural.category_english, String.ofList_append]

variable {m : Type → Type}

theorem build_of_parse {pattern : String} {message : Message}
    (h : Pattern.parse pattern = .ok message) (options : CompileOptions m) :
    Template.build pattern options =
      .ok ⟨pattern, message, CompiledMessage.ofMessage message options⟩ := by
  rw [Template.build, h]
  rfl

variable [Monad m]

/-- A message of one element is written as that element is. With nothing missing it makes no
difference whether the message is strict. -/
theorem format_singleton [LawfulMonad m] {element : Element} {options : CompileOptions m}
    {bindings : Bindings} {text : String}
    (h : interpretElement ⟨bindings, options.locale, options.formatters⟩ none element =
      return text) :
    (CompiledMessage.ofMessage [element] options).format bindings = return .ok text := by
  simp [CompiledMessage.format, CompiledMessage.ofMessage, evaluate_ofMessage, interpretMessage, h]

/-- The branches of a choice among English positions: the number with the ending of
each category. -/
def positionBranches : List (Branch Message) :=
  [⟨"one", [.pound, .literal "st"]⟩, ⟨"two", [.pound, .literal "nd"]⟩,
    ⟨"few", [.pound, .literal "rd"]⟩, ⟨"other", [.pound, .literal "th"]⟩]

theorem interpretBranch_exact (env : Environment m) (pound : Option (String × UInt32))
    (text : String) : interpretBranch env pound ("=" ++ text) positionBranches = none := by
  have hNe (selector : String) (h : selector.toList.head? ≠ some '=') :
      selector ≠ "=" ++ text := by
    rintro rfl
    simp at h
  simp only [positionBranches, interpretBranch, hNe "one" (by decide), hNe "two" (by decide),
    hNe "few" (by decide), hNe "other" (by decide), if_false, Option.or_none]

/-- The branch that runs for a category writes the number and the ending of the category. Categories
without a branch of their own get the ending of the others. -/
theorem interpretBranch_category (env : Environment m) (pound : Option (String × UInt32))
    (category : PluralCategory) :
    (interpretBranch env pound category.text positionBranches).getD
        ((interpretBranch env pound "other" positionBranches).getD (return "")) =
      interpretMessage env pound [.pound, .literal (positionEnding category)] := by
  cases category <;>
    simp [positionBranches, interpretBranch, PluralCategory.text, positionEnding]

variable {bindings : Bindings} {i : Int64}

theorem interpretElement_position (hBound : bindings "n" = some (.number i)) :
    interpretElement ⟨bindings, "en", (.standard : Formatters m)⟩ none
        (.typed "n" .number (some "ordinal")) =
      return NumberFormat.format (.integer i) "en" .ordinal := by
  have hStyle : NumberStyle.ofText (some "ordinal") = .ordinal := by decide
  simp [interpretElement, interpretArgument, withArgument, hBound, formattedOr, Value.number?,
    hStyle, Formatters.standard]

/-- The choice writes the number and the ending of its category. The number is written in the usual
style, as a number sign writes it. -/
theorem interpretElement_choice [LawfulMonad m] (hBound : bindings "n" = some (.number i)) :
    interpretElement ⟨bindings, "en", (.standard : Formatters m)⟩ none
        (.plural "n" true 0 positionBranches) =
      return NumberFormat.format (.integer i) "en" .default ++
        positionEnding (Plural.category (.integer i) "en" .ordinal) := by
  simp only [interpretElement, withArgument, hBound, interpretBranch_exact, Value.number?,
    Number.minus_zero, if_true, interpretBranch_category]
  simp [Formatters.standard, interpretMessage, interpretElement, interpretArgument, withArgument,
    hBound, formattedOr, Value.number?]

/-- An English position reads the same whether it is written in the style for positions or chosen
by its plural category: both patterns are read, and both give the text of the style. -/
theorem position_eq_choice [LawfulMonad m] (i : Int64) (bindings : Bindings) (strict : Bool) :
    ∃ position choice : Template m,
      Template.build "\x7bn, ordinal\x7d" ⟨"en", strict, .standard⟩ = .ok position ∧
      Template.build ("\x7bn, selectordinal, one \x7b#st\x7d two \x7b#nd\x7d few \x7b#rd\x7d " ++
        "other \x7b#th\x7d\x7d") ⟨"en", strict, .standard⟩ = .ok choice ∧
      position.format (bindings.insert "n" (.number i)) =
        pure (.ok (NumberFormat.format (.integer i) "en" .ordinal)) ∧
      choice.format (bindings.insert "n" (.number i)) =
        pure (.ok (NumberFormat.format (.integer i) "en" .ordinal)) := by
  have hPosition : Pattern.parse "\x7bn, ordinal\x7d" =
      .ok [.typed "n" .number (some "ordinal")] := by
    unfold Pattern.parse
    simp only [String.reduceToList]
    rfl
  have hChoice : Pattern.parse ("\x7bn, selectordinal, one \x7b#st\x7d two \x7b#nd\x7d " ++
      "few \x7b#rd\x7d other \x7b#th\x7d\x7d") = .ok [.plural "n" true 0 positionBranches] := by
    unfold Pattern.parse
    simp only [String.toList_append, String.reduceToList]
    rfl
  have hBound : (bindings.insert "n" (.number i)) "n" = some (.number i) := by
    simp [Bindings.insert]
  refine ⟨_, _, build_of_parse hPosition _, build_of_parse hChoice _, ?_, ?_⟩
  · exact format_singleton (interpretElement_position hBound)
  · rw [format_ordinal]
    exact format_singleton (interpretElement_choice hBound)

/-- The least integer, whose position has no special ending. -/
theorem position_eq_choice_least :
    ∃ position choice : Template Id,
      Template.build "\x7bn, ordinal\x7d" ⟨"en", true, .standard⟩ = .ok position ∧
      Template.build ("\x7bn, selectordinal, one \x7b#st\x7d two \x7b#nd\x7d few \x7b#rd\x7d " ++
        "other \x7b#th\x7d\x7d") ⟨"en", true, .standard⟩ = .ok choice ∧
      position.format (Bindings.empty.insert "n" (.number Int64.minValue)) =
        .ok "-9,223,372,036,854,775,808th" ∧
      choice.format (Bindings.empty.insert "n" (.number Int64.minValue)) =
        .ok "-9,223,372,036,854,775,808th" := by
  have hText : NumberFormat.format (.integer Int64.minValue) "en" .ordinal =
      "-9,223,372,036,854,775,808th" := by
    decide +kernel
  rw [← hText]
  exact position_eq_choice (m := Id) Int64.minValue .empty true

end LocaleMessage
