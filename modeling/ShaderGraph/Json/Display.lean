import ShaderGraph.Json.Basic
import ShaderGraph.Number.Shortest
import ShaderGraph.Text.Quoted

/-!
# JSON values in messages

A message that shows a value writes it out on one line: null and the truth
values as a word with a capital, text in quotes, numbers with their shortest
digits, lists and objects with their parts separated by a comma and a blank.
-/

namespace ShaderGraph.Json

mutual

/-- A value in a message. -/
def display : Json → String
  | .null => "None"
  | .bool b => if b then "True" else "False"
  | .int n => toString n
  | .float x => x.display
  | .text s => Text.quoted s
  | .illFormedText points => Text.quoted (.illFormed points)
  | .list items => "[" ++ String.intercalate ", " (displayItems items) ++ "]"
  | .object fields => "\x7b" ++ String.intercalate ", " (displayFields fields) ++ "\x7d"

/-- The items of a list, each in a message. -/
def displayItems : List Json → List String
  | [] => []
  | item :: rest => item.display :: displayItems rest

/-- The fields of an object, each in a message. -/
def displayFields : List (GivenText × Json) → List String
  | [] => []
  | (name, value) :: rest =>
    (Text.quoted name ++ ": " ++ value.display) :: displayFields rest

end

/-- A value in a message that brings its own quotes: text stands as it is. -/
def displayBare : Json → String
  | .text s => s
  | .illFormedText points => GivenText.shown (.illFormed points)
  | value => value.display

end ShaderGraph.Json
