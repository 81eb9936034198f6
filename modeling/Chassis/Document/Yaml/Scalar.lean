-- What a scalar without quotes stands for in YAML.
import Chassis.Decimal.Reading
import Chassis.Document.Value
import Chassis.Text.Digits

namespace Chassis.Document.Yaml

/-- The whole number of a word: in base ten with a sign, or in a marked base. -/
def whole? (word : List Char) : Option Int :=
  let marked := match word with
    | '0' :: 'x' :: digits => Text.readSigned? 16 digits
    | '0' :: 'o' :: digits => Text.readSigned? 8 digits
    | '+' :: number => Text.readSigned? 10 number
    | _ => none
  match marked with
  | some n => some n
  | none => Text.readSigned? 10 word

/-- The words for what is infinite or no number at all. They have no value here. -/
def unboundWords : List String := [
  ".inf", ".Inf", ".INF", "+.inf", "+.Inf", "+.INF", "-.inf", "-.Inf", "-.INF", ".nan",
  ".NaN", ".NAN"]

/-- The words for nothing. -/
def nilWords : List String := ["", "~", "null"]

/-- What a word stands for. -/
def resolve? (word : String) : Option Scalar :=
  if nilWords.contains word then some .nil
  else if word = "true" then some (.boolean true)
  else if word = "false" then some (.boolean false)
  else if unboundWords.contains word then none
  else match whole? word.toList with
    | some n => some (.integer n)
    | none =>
      if word.toList.any Char.isDigit then
        match Decimal.number? word.toList with
        | some x => some (.number x)
        | none => some (.text word)
      else some (.text word)

/-- The key that a word is; nothing is no key. -/
def keyOf? (word : String) : Option String :=
  match resolve? word with
  | some .nil => none
  | some (.integer n) => some (toString n)
  | _ => some word

end Chassis.Document.Yaml
