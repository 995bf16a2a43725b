import SelectorRouter.Proofs.Template.Contract

/-!
# The contract as a form

The built-in template is a form with six places. With its tags at the places it is the
template, and with texts there it is what the template renders to: the fixed text of the
template stands in every contract, each text stands at its place as it is, whatever
characters it holds, and nothing else depends on it. A section stands there when its slot
is not empty.
-/

namespace SelectorRouter.Template

/-- The contract around what stands at its places. -/
def layout (moduleName modules construction receive selectors compat : String) : String :=
  Text.joinLines headPart ++ moduleName ++ Text.joinLines errorPart ++ modules
    ++ Text.joinLines lineEnd ++ construction ++ Text.joinLines fallbackPart ++ receive
    ++ Text.joinLines forwardPart ++ selectors ++ Text.joinLines deliveryPart ++ compat
    ++ Text.joinLines contractTail

/-- The constructor around its statements. -/
def constructorSection (statements : String) : String :=
  Text.joinLines constructorHead ++ statements ++ Text.joinLines constructorTail

/-- The diamond layer, on lines of its own. -/
def compatSection (declarations : String) : String :=
  declarations ++ Text.joinLines lineEnd

/-- How the template marks the place of a slot. -/
def slotTag (name : String) : String :=
  "\x7b\x7b " ++ name ++ " \x7d\x7d"

/-- How the template marks a section that depends on a slot. -/
def marked (name content : String) : String :=
  "\x7b% if " ++ name ++ " %\x7d\n" ++ content ++ "\x7b% endif %\x7d\n"

set_option maxRecDepth 20000 in
theorem router_eq_layout : router = layout (slotTag "moduleName") (slotTag "modules")
    (marked "diamondConstructor" (constructorSection (slotTag "diamondConstructor")))
    (slotTag "receive") (slotTag "selectors")
    (marked "diamondCompat" (compatSection (slotTag "diamondCompat"))) := by
  simp only [router, layout, constructorSection, compatSection, slotTag, marked,
    Text.joinLines_eq_ofList, routerLines, headPart, errorPart, constructorHead, constructorTail,
    fallbackPart, forwardPart, deliveryPart, lineEnd, contractTail, List.map_cons, List.map_nil]
  rw [← String.toList_inj]
  simp only [String.toList_append, String.toList_ofList]
  repeat rw [String.toList_ofList]
  rfl

theorem optionalPart_eq (slot text : String) :
    optionalPart slot text = if slot = "" then "" else text := by
  simp only [optionalPart, String.isEmpty_iff]

/-- The contract of any sections is the layout of their texts. -/
theorem Sections.contract_eq_layout (s : Sections) :
    s.contract = layout s.moduleName.display s.modules
      (if s.diamondConstructor = "" then "" else constructorSection s.diamondConstructor)
      s.receive s.selectors
      (if s.diamondCompat = "" then "" else compatSection s.diamondCompat) := by
  rw [Sections.contract, optionalPart_eq, optionalPart_eq]
  rfl

/-- **The built-in template inserts texts as they are.** Around its tags stands a fixed text,
and whatever the six slots hold, the contract is this fixed text around their values. -/
theorem render_router_layout :
    router = layout (slotTag "moduleName") (slotTag "modules")
      (marked "diamondConstructor" (constructorSection (slotTag "diamondConstructor")))
      (slotTag "receive") (slotTag "selectors")
      (marked "diamondCompat" (compatSection (slotTag "diamondCompat"))) ∧
    ∀ moduleName modules selectors receive diamondConstructor diamondCompat : String,
      render router (Sections.slots ⟨.str moduleName, modules, selectors, receive,
          diamondConstructor, diamondCompat⟩) =
        .ok (layout moduleName modules
          (if diamondConstructor = "" then "" else constructorSection diamondConstructor)
          receive selectors
          (if diamondCompat = "" then "" else compatSection diamondCompat)) := by
  refine ⟨router_eq_layout, ?_⟩
  intro moduleName modules selectors receive diamondConstructor diamondCompat
  rw [render_router, Sections.contract_eq_layout]
  rfl

end SelectorRouter.Template
