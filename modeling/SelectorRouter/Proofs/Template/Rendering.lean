import SelectorRouter.Proofs.Fallible
import SelectorRouter.Template.Node

/-!
# Faults of templates

Rendering ends in a text or in one of four faults: the template is malformed, its branches
are nested too deeply, a slot has a name that templates keep for themselves, or a name that
is needed has no value.
-/

namespace SelectorRouter.Template

inductive RenderFault : Fault → Prop where
  | malformed : RenderFault .malformedTemplate
  | deep : RenderFault .deepTemplate
  | reserved : RenderFault .reservedSlot
  | undefined (name : String) : RenderFault (.undefinedName name)

open Fallible (bind_eq_error)

variable {slots : Slots} {fault : Fault}

theorem Expr.eval_eq_error : ∀ {e : Expr}, e.eval slots = .error fault → RenderFault fault
  | .name s, h => by
      rw [eval] at h
      split at h
      case h_1 => cases h
      case h_2 =>
          obtain rfl := Except.error.inj h
          exact .undefined s
  | .constant v, h => by cases h
  | .negation e, h => by
      rw [eval] at h
      rcases bind_eq_error.mp h with inner | ⟨v, -, ⟨⟩⟩
      exact eval_eq_error inner
  | .both a b, h => by
      rw [eval] at h
      rcases bind_eq_error.mp h with left | ⟨v, -, right⟩
      · exact eval_eq_error left
      · split at right
        case isTrue => exact eval_eq_error right
        case isFalse => cases right
  | .either a b, h => by
      rw [eval] at h
      rcases bind_eq_error.mp h with left | ⟨v, -, right⟩
      · exact eval_eq_error left
      · split at right
        case isTrue => cases right
        case isFalse => exact eval_eq_error right

mutual
theorem Node.render_eq_error : ∀ {node : Node}, node.render slots = .error fault →
    RenderFault fault
  | .text s, h => by
      rw [Node.render] at h
      cases h
  | .output e, h => by
      rw [Node.render] at h
      rcases bind_eq_error.mp h with inner | ⟨v, -, ⟨⟩⟩
      exact Expr.eval_eq_error inner
  | .branch condition yes no, h => by
      rw [Node.render] at h
      rcases bind_eq_error.mp h with tested | ⟨v, -, taken⟩
      · exact Expr.eval_eq_error tested
      · split at taken
        case isTrue => exact renderNodes_eq_error taken
        case isFalse => exact renderNodes_eq_error taken

theorem renderNodes_eq_error : ∀ {nodes : List Node}, renderNodes slots nodes = .error fault →
    RenderFault fault
  | [], h => by
      rw [renderNodes] at h
      cases h
  | node :: rest, h => by
      rw [renderNodes] at h
      rcases bind_eq_error.mp h with first | ⟨text, -, later⟩
      · exact Node.render_eq_error first
      · rcases bind_eq_error.mp later with others | ⟨texts, -, ⟨⟩⟩
        exact renderNodes_eq_error others
end

theorem parse_eq_error {template : String} (h : parse template = .error fault) :
    RenderFault fault := by
  rw [parse] at h
  split at h
  case h_1 =>
      obtain rfl := Except.error.inj h
      exact .malformed
  case h_2 =>
      split at h
      case h_1 =>
          obtain rfl := Except.error.inj h
          exact .malformed
      case h_2 =>
          split at h
          case isTrue => cases h
          case isFalse =>
              obtain rfl := Except.error.inj h
              exact .deep

/-- **Rendering fails in no other way**, whatever the template and the slots are. -/
theorem render_eq_error {template : String} (h : render template slots = .error fault) :
    RenderFault fault := by
  rw [render] at h
  split at h
  case isTrue =>
      obtain rfl := Except.error.inj h
      exact .reserved
  case isFalse =>
      rcases bind_eq_error.mp h with unread | ⟨nodes, -, later⟩
      · exact parse_eq_error unread
      · split at later
        case isTrue =>
            obtain rfl := Except.error.inj later
            exact .reserved
        case isFalse => exact renderNodes_eq_error later

end SelectorRouter.Template
