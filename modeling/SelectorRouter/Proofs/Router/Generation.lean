import SelectorRouter.Proofs.Diamond.Registry
import SelectorRouter.Proofs.Router.Selection
import SelectorRouter.Proofs.Session

/-!
# Runs of the generator

A run ends as the selection decides: in its fault when the request is refused, and else in
the rendered texts of the contract, which exist for modules with string names. In between
nothing but a warning can stop it, about a module that is not reachable, when the policy
raises warnings. The tree that debug mode checks is always sound, so a run does not depend
on the debug flag.
-/

namespace SelectorRouter.Router

open Constant (Named identifierOf)
open Fallible (bind_eq_ok mapM_eq_ok_map)
open SelectorRouter.Module (Accepted routed shownAddress)
open Diamond (FacetTable)

variable {r : Request} {ss : List Selector} {ids : Constant.Identifiers} {fault : Fault}

/-! ## The texts of the contract -/

theorem compatText_eq_ok (router : String) (named : Named ids r.modules) : ∃ text,
    Diamond.compatText router ids (r.modules.map (FacetTable.facet r.filter)) = .ok text :=
  ⟨_, by rw [Diamond.compatText, Diamond.mapM_require_facets named]; rfl⟩

theorem constructorText_eq_ok (h : Accepted r.shownName r.filter r.modules ss)
    (named : Named ids r.modules) : ∃ text,
    Diamond.constructorText ids (r.modules.map (FacetTable.facet r.filter)) = .ok text :=
  ⟨_, by rw [Diamond.constructorText, Diamond.ofTable_eq_ok named h.selectors]; rfl⟩

/-- The texts of a router for accepted modules exist, with or without the diamond. -/
theorem exists_sections {tree : Dispatch.Tree} {declarations switch : String}
    (h : Accepted r.shownName r.filter r.modules ss)
    (identifiers : Constant.identifiers (r.modules.map (·.name)) = .ok ids)
    (named : Named ids r.modules)
    (declared : Constant.declarations ids r.modules = .ok declarations)
    (switched : Dispatch.switchText ids tree = .ok switch) :
    ∃ texts, sections r tree = .ok texts ∧ texts.modules = declarations ∧
      texts.selectors = switch := by
  obtain ⟨compat, compatible⟩ := compatText_eq_ok r.shownName named
  obtain ⟨construction, constructed⟩ := constructorText_eq_ok h named
  have table := FacetTable.ofModules_eq_ok h
  cases diamond : r.diamond with
  | false =>
      refine ⟨⟨r.routerName, declarations, switch, receiveText r.receivesEther, "", ""⟩, ?_, rfl,
        rfl⟩
      rw [sections, diamond]
      exact bind_eq_ok.mpr ⟨_, identifiers, bind_eq_ok.mpr ⟨_, declared,
        bind_eq_ok.mpr ⟨_, switched, rfl⟩⟩⟩
  | true =>
      refine ⟨⟨r.routerName, declarations, switch, receiveText r.receivesEther, construction,
        compat⟩, ?_, rfl, rfl⟩
      rw [sections, diamond]
      exact bind_eq_ok.mpr ⟨_, identifiers, bind_eq_ok.mpr ⟨_, declared,
        bind_eq_ok.mpr ⟨_, switched, bind_eq_ok.mpr ⟨_, table, bind_eq_ok.mpr ⟨_, constructed,
          bind_eq_ok.mpr ⟨_, compatible, rfl⟩⟩⟩⟩⟩⟩

/-- The tree of a selection is sound. -/
theorem exists_sound_tree (h : Accepted r.shownName r.filter r.modules ss) (nonempty : ss ≠ []) :
    ∃ tree, Dispatch.Tree.build Dispatch.defaultLeafSize ss = .ok tree ∧
      tree.Shaped Dispatch.defaultLeafSize ∧ tree.inOrder = ss ∧
      tree.check Dispatch.defaultLeafSize = .ok () := by
  have positive : 0 < (Dispatch.defaultLeafSize : Int) := by decide
  obtain ⟨tree, built, shaped, inOrder⟩ := Dispatch.Tree.exists_build positive nonempty
  refine ⟨tree, built, shaped, inOrder, Dispatch.Tree.check_eq_ok_iff.mpr ⟨shaped, ?_⟩⟩
  rw [inOrder]
  exact h.ascending

/-! ## Messages on the way -/

theorem quiet_logAddress {allowed : Report → Prop} {m : Module}
    (h : m.checksumAddress = .ok m.shownAddress) (s : Session) :
    Action.Quiet allowed (logAddress m) s := by
  have run : logAddress m s = Action.log (addressLine m m.shownAddress) s := by
    rw [logAddress, h]
    rfl
  unfold Action.Quiet
  rw [run]
  exact Action.quiet_log _ s

theorem quiet_warnIfUnreachable {allowed : Report → Prop} {m : Module} {filter : FunctionFilter}
    (h : m.selectors filter = .ok (m.routed filter)) (allows : allowed (unreachable m))
    (s : Session) : Action.Quiet allowed (warnIfUnreachable filter m) s := by
  have run : warnIfUnreachable filter m s =
      (if (m.routed filter).isEmpty then Action.warn .generator (unreachable m)
        else pure ()) s := by
    rw [warnIfUnreachable, h]
    rfl
  unfold Action.Quiet
  rw [run]
  split
  · exact Action.quiet_warn _ allows s
  · exact ⟨s, rfl, Or.inl rfl⟩

/-- The addresses of modules that pass the check can all be logged. -/
theorem forM_logAddress (checked : Module.check r.shownName r.modules = .ok ())
    (session : Session) : ∃ logged, logged.policy = session.policy ∧
      r.modules.forM logAddress session = (.ok (), logged) := by
  have addresses := (Module.check_eq_ok checked).2
  -- logging raises no warning at all
  have quiet : ∀ m ∈ r.modules, ∀ s, Action.Quiet (fun _ => False) (logAddress m) s :=
    fun m hm => quiet_logAddress (addresses m hm)
  obtain ⟨logged, same, run | ⟨-, report, impossible, -⟩⟩ := Action.quiet_forM quiet session
  · exact ⟨logged, same, run⟩
  · exact impossible.elim

/-! ## How a run ends -/

/-- **A refused request ends in the fault of its selection**, in any session. -/
theorem generate_of_refused (refused : selection r = .error fault) (session : Session) :
    (generate r session).1 = .error fault := by
  rcases selection_eq_error_iff_stages.mp refused with unchecked | ⟨checked, later⟩
  · rw [generate, unchecked]
    rfl
  · obtain ⟨logged, -, logs⟩ := forM_logAddress checked session
    rw [generate, checked, Action.ofResult_bind, Action.bind_of_ok logs]
    rcases later with refused | ⟨routed, rfl⟩
    · rw [refused]
      rfl
    · rw [routed]
      rfl

/-- **A selected request ends in the rendered texts**, in any session, unless warnings are
raised and a module is not reachable. -/
theorem generate_of_accepted {tree : Dispatch.Tree} {texts : Template.Sections}
    (h : Accepted r.shownName r.filter r.modules ss) (nonempty : ss ≠ [])
    (built : Dispatch.Tree.build Dispatch.defaultLeafSize ss = .ok tree)
    (sound : tree.check Dispatch.defaultLeafSize = .ok ())
    (written : sections r tree = .ok texts) (session : Session) :
    (generate r session).1 = Template.render (templateOf r.template) texts.slots ∨
      session.policy = .raise ∧
        ∃ m ∈ r.modules, (generate r session).1 = .error (.warning (unreachable m)) := by
  have selectors := routedSelectors_eq_ok_iff.mpr ⟨h.collected, h.valid⟩
  have nonempty : ss.isEmpty = false := by
    rw [List.isEmpty_eq_false_iff]
    exact nonempty
  obtain ⟨logged, sameLogged, logs⟩ := forM_logAddress h.checked session
  have quiet : ∀ m ∈ r.modules, ∀ s,
      Action.Quiet (fun report => ∃ m ∈ r.modules, report = unreachable m)
        (warnIfUnreachable r.filter m) s :=
    fun m hm => quiet_warnIfUnreachable (h.selectors m hm) ⟨m, hm, rfl⟩
  obtain ⟨warned, -, warnings⟩ := Action.quiet_forM quiet logged
  rw [generate, h.checked, selectors, Action.ofResult_bind, Action.bind_of_ok logs,
    Action.ofResult_bind, nonempty, if_neg Bool.false_ne_true]
  beta_reduce
  -- a raised warning ends the run where it is raised
  rcases warnings with warnings | ⟨raising, report, ⟨m, hm, rfl⟩, warnings⟩
  · rw [Action.bind_of_ok warnings, built, Action.ofResult_bind, Action.isDebug_check_bind sound,
      written]
    exact Or.inl rfl
  · rw [Action.bind_of_error warnings]
    exact Or.inr ⟨sameLogged.symm.trans raising, m, hm, rfl⟩

/-! ## Debug mode -/

theorem blind_logAddress (m : Module) : Action.Blind (logAddress m) :=
  (Action.blind_ofResult _).bind fun _ => Action.blind_log _

theorem blind_warnIfUnreachable (filter : FunctionFilter) (m : Module) :
    Action.Blind (warnIfUnreachable filter m) := by
  refine (Action.blind_ofResult _).bind fun selectors => ?_
  split
  · exact Action.blind_warn _ _
  · exact Action.blind_pure ()

/-- **A run does not depend on the debug flag.** The tree that is checked in debug mode is
sound whenever the run gets there. -/
theorem blind_generate (r : Request) : Action.Blind (generate r) := by
  rw [generate]
  refine Action.blind_ofResult_bind fun _ checked => ?_
  refine (Action.blind_forM blind_logAddress _).bind fun _ => ?_
  refine Action.blind_ofResult_bind fun selectors routed => ?_
  obtain ⟨collected, valid⟩ := routedSelectors_eq_ok_iff.mp routed
  have accepted : Accepted r.shownName r.filter r.modules selectors := ⟨checked, collected, valid⟩
  cases selectors with
  | nil => exact Action.blind_ofResult_bind fun _ refused => by cases refused
  | cons s rest =>
      obtain ⟨tree, built, -, -, sound⟩ := exists_sound_tree accepted (List.cons_ne_nil s rest)
      rw [List.isEmpty_cons, if_neg Bool.false_ne_true]
      refine (Action.blind_forM (blind_warnIfUnreachable r.filter) _).bind fun _ => ?_
      refine Action.blind_ofResult_bind fun grown same => ?_
      obtain rfl := Except.ok.inj (built.symm.trans same)
      -- here alone the flag is looked at
      rw [Action.isDebug_check_bind sound]
      refine (Action.blind_log _).bind fun _ => ?_
      exact (Action.blind_ofResult _).bind fun _ => Action.blind_ofResult _

end SelectorRouter.Router
