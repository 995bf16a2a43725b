/-!
# Reports

What the router generator tells its users: a text, an optional hint how to mend
the cause, and a category. Categories are ordered from the particular to the
general. Reports of the internal category ask the reader to pass them on.
-/

namespace SelectorRouter

inductive Category where
  | general
  | router
  | validation
  | emptyModuleList
  | noRoutableFunctions
  | duplicateModuleName
  | invalidAddress
  | invalidFragment
  | selectorCollision
  | moduleLoad
  | internal
  | dispatchPanic
  | warning
  | unreachableModule
  deriving Repr, DecidableEq

/-- A category and the more general ones that contain it, itself first. -/
def Category.lineage : Category → List Category
  | .general => [.general]
  | .router => [.router, .general]
  | .validation => [.validation, .router, .general]
  | .moduleLoad => [.moduleLoad, .router, .general]
  | .internal => [.internal, .general]
  | .dispatchPanic => [.dispatchPanic, .internal, .general]
  | .warning => [.warning, .general]
  | .unreachableModule => [.unreachableModule, .warning, .general]
  | particular => [particular, .validation, .router, .general]

structure Report where
  category : Category
  text : String
  hint : Option String
  deriving Repr, DecidableEq

namespace Report

def defaultText : String := "Error Message not found."

/-- The text with its hint; an empty hint is left out. -/
def message (r : Report) : String :=
  match r.hint with
  | none => r.text
  | some hint => if hint.isEmpty then r.text else r.text ++ "\n\n  (hint: " ++ hint ++ ")"

/-- The message as users see it. -/
def display (r : Report) : String :=
  if r.category.lineage.contains .internal then
    r.message ++ "\n\nThis is an unhandled internal router generator error. "
      ++ "Please create an issue to notify the developers!"
  else r.message

end Report

end SelectorRouter
