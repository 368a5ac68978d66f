import Wayfinder.Regex.Term
import Wayfinder.Unicode.Age
import Wayfinder.Unicode.Script
import Wayfinder.Unicode.Segmentation
/-!
# Properties in expressions

What `\p` asks for: a property, a category or a script by one name, or one of the values of a property.
-/

namespace Wayfinder.Regex.PropertyQuery

open Unicode

/-- Names are compared in lower case and without blanks, hyphens, underscores and anything that is not
ASCII. An `is` in front does not count, but for the name `isc`. -/
def normalize (name : String) : String :=
  let squeeze (cs : List Char) : List Char :=
    (cs.filter fun c => c != ' ' && c != '_' && c != '-' && c.toNat < 0x80).map Char.toLower
  match name.toList with
  | i :: s :: rest =>
    if i.toLower == 'i' && s.toLower == 's' then
      let rest := squeeze rest
      if rest = ['c'] then "isc" else String.ofList rest
    else String.ofList (squeeze (i :: s :: rest))
  | cs => String.ofList (squeeze cs)

/-- The characters that a name alone asks for. -/
def named? (name : String) : Option CharSet :=
  Property.ofName? name <|> Category.ofName? name <|> (Script.ofName? name).map Script.own

/-- The characters for which a property has a value. -/
def valued? (property value : String) : Option CharSet :=
  match property with
  | "gc" | "generalcategory" => Category.ofName? value
  | "sc" | "script" => (Script.ofName? value).map Script.own
  | "scx" | "scriptextensions" => (Script.ofName? value).map Script.extended
  | "age" => Age.ofName? value
  | "gcb" | "graphemeclusterbreak" => Segmentation.ofName? Segmentation.graphemeClasses value
  | "wb" | "wordbreak" => Segmentation.ofName? Segmentation.wordClasses value
  | "sb" | "sentencebreak" => Segmentation.ofName? Segmentation.sentenceClasses value
  | _ => none

/-- The characters that a query asks for. -/
def resolve? : PropertyQuery → Option CharSet
  | .named name => named? (normalize name)
  | .valued property value => valued? (normalize property) (normalize value)

end Wayfinder.Regex.PropertyQuery
