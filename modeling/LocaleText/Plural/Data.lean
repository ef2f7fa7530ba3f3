import LocaleText.Plural.Rule

/-!
# Plural rules by language

The cardinal plural rules of the Unicode common locale data, by language; one of them belongs to a
language of a region. Numbers are written without exponent, so the alternatives of the data that
ask for an exponent are left out, and the operand for the fraction without trailing zeros is the
fraction itself. Languages that are not listed have no rules: every number of theirs is in the
category other.
-/

namespace LocaleText.Plural

open Operand

/-- The operand lies in one of the ranges. -/
def isIn (operand : Operand) (ranges : List (Nat × Nat)) : Relation :=
  ⟨operand, none, true, ranges⟩

/-- The operand lies in none of the ranges. -/
def notIn (operand : Operand) (ranges : List (Nat × Nat)) : Relation :=
  ⟨operand, none, false, ranges⟩

/-- The operand's remainder lies in one of the ranges. -/
def rest (operand : Operand) (modulus : Nat) (ranges : List (Nat × Nat)) : Relation :=
  ⟨operand, some modulus, true, ranges⟩

/-- The operand's remainder lies in none of the ranges. -/
def restNot (operand : Operand) (modulus : Nat) (ranges : List (Nat × Nat)) : Relation :=
  ⟨operand, some modulus, false, ranges⟩

/-- The number one. -/
def exactlyOne : Condition := [[isIn n [(1, 1)]]]

/-- The number one, as the rules say that speak of digits. -/
def plainOne : Condition := [[isIn i [(1, 1)], isIn v [(0, 0)]]]

/-- The multiples of a million, zero apart. -/
def wholeMillions : Condition :=
  [[notIn i [(0, 0)], rest i 1000000 [(0, 0)], isIn v [(0, 0)]]]

/-- Languages with the same rules. -/
def group (languages : String) (rules : Rules) : List Text × Rules :=
  (Text.pieces ' ' languages.toList, rules)

/-- The languages with rules, by their rules. -/
def languageRules : List (List Text × Rules) :=
  [ group ("af az bg brx chr ee el eo eu fo ha hu ka kk ks ku ky lb ml mn mr ne no om or ps "
        ++ "rm sd so sq st syr ta te tk tn tr ug uz xh") {
        one := exactlyOne },
    group "ak bho csw nso pa ti" {
        one := [[isIn n [(0, 1)]]] },
    group "am as bn doi fa gu hi kn pcm zu" {
        one := [[isIn i [(0, 0)]], [isIn n [(1, 1)]]] },
    group "ar" {
        zero := [[isIn n [(0, 0)]]]
        one := exactlyOne
        two := [[isIn n [(2, 2)]]]
        few := [[rest n 100 [(3, 10)]]]
        many := [[rest n 100 [(11, 99)]]] },
    group "ast de en et fi fy gl ia lij nl sc sv sw ur" {
        one := plainOne },
    group "be" {
        one := [[rest n 10 [(1, 1)], restNot n 100 [(11, 11)]]]
        few := [[rest n 10 [(2, 4)], restNot n 100 [(12, 14)]]]
        many := [[rest n 10 [(0, 0)]], [rest n 10 [(5, 9)]], [rest n 100 [(11, 14)]]] },
    group "blo" {
        zero := [[isIn n [(0, 0)]]]
        one := exactlyOne },
    group "br" {
        one := [[rest n 10 [(1, 1)], restNot n 100 [(11, 11), (71, 71), (91, 91)]]]
        two := [[rest n 10 [(2, 2)], restNot n 100 [(12, 12), (72, 72), (92, 92)]]]
        few := [[rest n 10 [(3, 4), (9, 9)], restNot n 100 [(10, 19), (70, 79), (90, 99)]]]
        many := [[notIn n [(0, 0)], rest n 1000000 [(0, 0)]]] },
    group "bs hr sr" {
        one :=
          [[isIn v [(0, 0)], rest i 10 [(1, 1)], restNot i 100 [(11, 11)]],
           [rest f 10 [(1, 1)], restNot f 100 [(11, 11)]]]
        few :=
          [[isIn v [(0, 0)], rest i 10 [(2, 4)], restNot i 100 [(12, 14)]],
           [rest f 10 [(2, 4)], restNot f 100 [(12, 14)]]] },
    group "ca it pt-PT vec" {
        one := plainOne
        many := wholeMillions },
    group "ceb fil" {
        one :=
          [[isIn v [(0, 0)], isIn i [(1, 1), (2, 2), (3, 3)]],
           [isIn v [(0, 0)], restNot i 10 [(4, 4), (6, 6), (9, 9)]],
           [notIn v [(0, 0)], restNot f 10 [(4, 4), (6, 6), (9, 9)]]] },
    group "cs sk" {
        one := plainOne
        few := [[isIn i [(2, 4)], isIn v [(0, 0)]]]
        many := [[notIn v [(0, 0)]]] },
    group "cy" {
        zero := [[isIn n [(0, 0)]]]
        one := exactlyOne
        two := [[isIn n [(2, 2)]]]
        few := [[isIn n [(3, 3)]]]
        many := [[isIn n [(6, 6)]]] },
    group "da" {
        one := [[isIn n [(1, 1)]], [notIn f [(0, 0)], isIn i [(0, 0), (1, 1)]]] },
    group "dsb hsb" {
        one := [[isIn v [(0, 0)], rest i 100 [(1, 1)]], [rest f 100 [(1, 1)]]]
        two := [[isIn v [(0, 0)], rest i 100 [(2, 2)]], [rest f 100 [(2, 2)]]]
        few := [[isIn v [(0, 0)], rest i 100 [(3, 4)]], [rest f 100 [(3, 4)]]] },
    group "es" {
        one := exactlyOne
        many := wholeMillions },
    group "fr" {
        one := [[isIn i [(0, 0), (1, 1)]]]
        many := wholeMillions },
    group "ga" {
        one := exactlyOne
        two := [[isIn n [(2, 2)]]]
        few := [[isIn n [(3, 6)]]]
        many := [[isIn n [(7, 10)]]] },
    group "gd" {
        one := [[isIn n [(1, 1), (11, 11)]]]
        two := [[isIn n [(2, 2), (12, 12)]]]
        few := [[isIn n [(3, 10), (13, 19)]]] },
    group "he" {
        one :=
          [[isIn i [(1, 1)], isIn v [(0, 0)]],
           [isIn i [(0, 0)], notIn v [(0, 0)]]]
        two := [[isIn i [(2, 2)], isIn v [(0, 0)]]] },
    group "hy" {
        one := [[isIn i [(0, 0), (1, 1)]]] },
    group "is" {
        one :=
          [[isIn f [(0, 0)], rest i 10 [(1, 1)], restNot i 100 [(11, 11)]],
           [rest f 10 [(1, 1)], restNot f 100 [(11, 11)]]] },
    group "lt" {
        one := [[rest n 10 [(1, 1)], restNot n 100 [(11, 19)]]]
        few := [[rest n 10 [(2, 9)], restNot n 100 [(11, 19)]]]
        many := [[notIn f [(0, 0)]]] },
    group "lv prg" {
        zero :=
          [[rest n 10 [(0, 0)]],
           [rest n 100 [(11, 19)]],
           [isIn v [(2, 2)], rest f 100 [(11, 19)]]]
        one :=
          [[rest n 10 [(1, 1)], restNot n 100 [(11, 11)]],
           [isIn v [(2, 2)], rest f 10 [(1, 1)], restNot f 100 [(11, 11)]],
           [notIn v [(2, 2)], rest f 10 [(1, 1)]]] },
    group "mk" {
        one :=
          [[isIn v [(0, 0)], rest i 10 [(1, 1)], restNot i 100 [(11, 11)]],
           [rest f 10 [(1, 1)], restNot f 100 [(11, 11)]]] },
    group "mt" {
        one := exactlyOne
        two := [[isIn n [(2, 2)]]]
        few := [[isIn n [(0, 0)]], [rest n 100 [(3, 10)]]]
        many := [[rest n 100 [(11, 19)]]] },
    group "pl" {
        one := plainOne
        few := [[isIn v [(0, 0)], rest i 10 [(2, 4)], restNot i 100 [(12, 14)]]]
        many :=
          [[isIn v [(0, 0)], notIn i [(1, 1)], rest i 10 [(0, 1)]],
           [isIn v [(0, 0)], rest i 10 [(5, 9)]],
           [isIn v [(0, 0)], rest i 100 [(12, 14)]]] },
    group "pt" {
        one := [[isIn i [(0, 1)]]]
        many := wholeMillions },
    group "ro" {
        one := plainOne
        few :=
          [[notIn v [(0, 0)]],
           [isIn n [(0, 0)]],
           [notIn n [(1, 1)], rest n 100 [(1, 19)]]] },
    group "ru uk" {
        one := [[isIn v [(0, 0)], rest i 10 [(1, 1)], restNot i 100 [(11, 11)]]]
        few := [[isIn v [(0, 0)], rest i 10 [(2, 4)], restNot i 100 [(12, 14)]]]
        many :=
          [[isIn v [(0, 0)], rest i 10 [(0, 0)]],
           [isIn v [(0, 0)], rest i 10 [(5, 9)]],
           [isIn v [(0, 0)], rest i 100 [(11, 14)]]] },
    group "sat" {
        one := exactlyOne
        two := [[isIn n [(2, 2)]]] },
    group "si" {
        one := [[isIn n [(0, 0), (1, 1)]], [isIn i [(0, 0)], isIn f [(1, 1)]]] },
    group "sl" {
        one := [[isIn v [(0, 0)], rest i 100 [(1, 1)]]]
        two := [[isIn v [(0, 0)], rest i 100 [(2, 2)]]]
        few := [[isIn v [(0, 0)], rest i 100 [(3, 4)]], [notIn v [(0, 0)]]] } ]

/-- The rules of a language; none if it is not listed. -/
def Rules.ofLanguage (language : Text) : Rules :=
  match languageRules.find? fun entry => entry.1.contains language with
  | some entry => entry.2
  | none => {}

end LocaleText.Plural
