import SelectorRouter.Json.Value
import SelectorRouter.Number.Shortest
import SelectorRouter.Text.Quoted

/-!
# Literals in messages

How messages show a JSON value: numbers by their shortest text, strings in
quotes, lists in brackets and objects in braces. A string that is itself a name
is shown without quotes.

Integers are those that a JSON text can hold, of at most `Number.digitLimit` digits; of
longer ones `Number.writeInteger` makes no text.
-/

namespace SelectorRouter

namespace Json

mutual
def literal : Json → String
  | null => "None"
  | bool b => if b then "True" else "False"
  | int n => toString n
  | float x => x.format
  | str s => Text.quoted s
  | arr items => "[" ++ ", ".intercalate (literals items) ++ "]"
  | obj members => "\x7b" ++ ", ".intercalate (memberLiterals members) ++ "\x7d"

def literals : List Json → List String
  | [] => []
  | v :: rest => literal v :: literals rest

def memberLiterals : List (String × Json) → List String
  | [] => []
  | (name, v) :: rest => (Text.quoted name ++ ": " ++ literal v) :: memberLiterals rest
end

/-- A string as it is, any other value as its literal. -/
def display : Json → String
  | str s => s
  | v => v.literal

end Json

end SelectorRouter
