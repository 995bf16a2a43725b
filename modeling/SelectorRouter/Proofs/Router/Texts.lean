import SelectorRouter.Proofs.Router.Generation

/-!
# The texts of a request

A request that is not refused has texts, one for each slot of the template, and they are all
that its run is rendered from. The texts of two requests can be compared without running
either of them: `renders_of_texts` says that every run ends in the texts, rendered, unless a
warning is raised on the way.
-/

namespace SelectorRouter.Router

open Constant (Named)
open Fallible (bind_eq_ok)
open SelectorRouter.Module (Accepted Emittable StringNames)

variable {r : Request} {ss : List Selector} {t : Template.Sections}

/-- The texts that the contract of a request is rendered from. -/
def texts (r : Request) : Except Fault Template.Sections := do
  let selectors ← selection r
  let tree ← Dispatch.Tree.build Dispatch.defaultLeafSize selectors
  sections r tree

/-- The texts of a request, in which all its runs end but those that raise a warning. -/
structure Renders (r : Request) (t : Template.Sections) : Prop where
  texts : texts r = .ok t
  run (session : Session) :
    (generate r session).1 = Template.render (templateOf r.template) t.slots ∨
      session.policy = .raise ∧
        ∃ m ∈ r.modules, (generate r session).1 = .error (.warning (unreachable m))

theorem renders_of_texts (h : texts r = .ok t) : Renders r t := by
  refine ⟨h, fun session => ?_⟩
  obtain ⟨ss, selected, later⟩ := bind_eq_ok.mp h
  obtain ⟨tree, built, written⟩ := bind_eq_ok.mp later
  obtain ⟨accepted, nonempty⟩ := selection_eq_ok_iff.mp selected
  -- the tree that was built is the sound one
  obtain ⟨sound, same, -, -, checked⟩ := exists_sound_tree accepted nonempty
  obtain rfl := Except.ok.inj (built.symm.trans same)
  exact generate_of_accepted accepted nonempty built checked written session

/-- The texts of a request together with what they were made of. -/
structure Drafted (r : Request) (ss : List Selector) (ids : Constant.Identifiers)
    (tree : Dispatch.Tree) (t : Template.Sections) : Prop where
  identifiers : Constant.identifiers (r.modules.map (·.name)) = .ok ids
  named : Named ids r.modules
  built : Dispatch.Tree.build Dispatch.defaultLeafSize ss = .ok tree
  shaped : tree.Shaped Dispatch.defaultLeafSize
  inOrder : tree.inOrder = ss
  declared : Constant.declarations ids r.modules = .ok t.modules
  switched : t.selectors =
    Dispatch.Switch.render (Dispatch.layout ids Dispatch.Switch.baseLevel tree)
  renders : Renders r t

/-- **Accepted modules with string names have texts**, if there is a function to route. -/
theorem exists_drafted (h : Accepted r.shownName r.filter r.modules ss) (nonempty : ss ≠ [])
    (names : StringNames r.modules) : ∃ ids tree t, Drafted r ss ids tree t := by
  obtain ⟨ids, identifiers, named⟩ := h.exists_named names
  obtain ⟨tree, built, shaped, inOrder, -⟩ := exists_sound_tree h nonempty
  obtain ⟨declarations, declared, -⟩ :=
    Constant.constants_declarations h.modules_ne_nil named.declarable
  have resolved : ∀ s ∈ tree.inOrder, Dispatch.Resolved ids s := by
    rw [inOrder]
    exact h.resolved named
  have switched := Dispatch.switchText_eq_layout shaped resolved
  obtain ⟨t, written, modulesText, selectorsText⟩ :=
    exists_sections h identifiers named declared switched
  have whole : texts r = .ok t :=
    bind_eq_ok.mpr ⟨ss, selection_eq_ok_iff.mpr ⟨h, nonempty⟩,
      bind_eq_ok.mpr ⟨tree, built, written⟩⟩
  exact ⟨ids, tree, t, identifiers, named, built, shaped, inOrder, modulesText ▸ declared,
    selectorsText, renders_of_texts whole⟩

/-- The constants of a request are those of its modules, in their order. -/
theorem Drafted.constants {ids : Constant.Identifiers} {tree : Dispatch.Tree}
    (h : Drafted r ss ids tree t) (accepted : Accepted r.shownName r.filter r.modules ss) :
    Solidity.constants t.modules =
      some (r.modules.map fun m => (Constant.identifierOf ids m.name, m.shownAddress)) := by
  obtain ⟨text, declared, constants⟩ :=
    Constant.constants_declarations accepted.modules_ne_nil h.named.declarable
  obtain rfl := Except.ok.inj (h.declared.symm.trans declared)
  exact constants

/-- Running the switch of emittable modules is a search among their selectors. -/
theorem Drafted.execute {ids : Constant.Identifiers} {tree : Dispatch.Tree}
    (h : Drafted r ss ids tree t) (emittable : Emittable r.shownName r.filter r.modules ss)
    (sig : Nat) : ∃ run, Yul.execute t.selectors sig = some run ∧ run.left = true ∧
      run.result = (ss.find? fun s => s.methodId == (sig : Int)).map
        fun s => Constant.identifierOf ids s.module := by
  have ascending : Dispatch.Tree.Ascending tree.inOrder :=
    h.inOrder.symm ▸ emittable.accepted.ascending
  have writable : ∀ s ∈ tree.inOrder, Dispatch.Writable ids s :=
    h.inOrder.symm ▸ emittable.writable h.named
  obtain ⟨text, events, same, -, -, run⟩ :=
    Dispatch.execute_of_writable h.shaped ascending writable sig
  rw [Dispatch.switchText_eq h.shaped writable, ← h.switched] at same
  obtain rfl := Except.ok.inj same
  exact ⟨_, run, rfl, by rw [Dispatch.Tree.find?, h.inOrder]⟩

end SelectorRouter.Router
