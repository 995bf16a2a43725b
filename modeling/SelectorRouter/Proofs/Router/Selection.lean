import SelectorRouter.Proofs.Module.Check
import SelectorRouter.Proofs.Module.Collect
import SelectorRouter.Router

/-!
# Why a request is refused

Before any text is written, a request must have modules that pass the check, functions
that all have a signature, method ids that differ, and something to route. `Defect` lists
what can be wrong, each kind only when none of the earlier kinds is; a request has one
defect at most. A function whose inputs cannot be listed is no defect: it ends the
selection in a fault that is not a report, and such a request is stuck.
-/

namespace SelectorRouter.Router

open Fallible (bind_eq_ok bind_eq_error)
open SelectorRouter.Module (Sound StringNames)

variable {r : Request} {fault : Fault}

/-- The functions that a request asks to route, in the order of its modules. -/
def Request.functions (r : Request) : List Function :=
  Module.functions r.filter r.modules

/-- The selectors that a request routes, or why it is refused. -/
def selection (r : Request) : Except Fault (List Selector) := do
  Module.check r.shownName r.modules
  let selectors ← routedSelectors r
  if selectors.isEmpty then .error (.noRoutableFunctions r.shownName) else return selectors

/-- What is wrong with a request, with the report it is worth. -/
inductive Defect (r : Request) : Fault → Prop where
  | noModules : r.modules = [] → Defect r (.emptyModuleList r.shownName)
  | module {before after : List Module} {m : Module} {fault : Fault} :
      r.modules = before ++ m :: after → Sound before →
      Module.Defect r.shownName before m fault → Defect r fault
  | parameter {before after : List Function} {f : Function} {accepted rest : List Json}
      {param : Json} {defect : ParameterDefect} :
      Sound r.modules → r.functions = before ++ f :: after → (∀ g ∈ before, g.Readable) →
      Function.inputItems f.inputs = .ok (accepted ++ param :: rest) →
      (∀ p ∈ accepted, ∃ t, Parameter.ofJson p = .ok t) → Parameter.ofJson param = .error defect →
      Defect r (.invalidParameter defect (some (.str f.name)))
  | collision {ss : List Selector} :
      Sound r.modules → (∀ f ∈ r.functions, f.Readable) →
      ¬ (r.functions.map Function.methodId?).Nodup →
      Module.collect r.shownName r.filter r.modules = .ok ss →
      Defect r (.selectorCollision (Selector.collisions ss) (some Selector.renameHint))
  | nothingRouted : r.modules ≠ [] → Sound r.modules → r.functions = [] →
      Defect r (.noRoutableFunctions r.shownName)

/-- A request whose first function without a signature has inputs that cannot be listed. -/
def Stuck (r : Request) : Prop :=
  Sound r.modules ∧ ∃ before f after, r.functions = before ++ f :: after ∧
    (∀ g ∈ before, g.Readable) ∧ f.Unlistable

/-! ## The stages of the selection -/

theorem selection_eq_error_iff_stages : selection r = .error fault ↔
    Module.check r.shownName r.modules = .error fault ∨
      Module.check r.shownName r.modules = .ok () ∧
        (routedSelectors r = .error fault ∨
          routedSelectors r = .ok [] ∧ fault = .noRoutableFunctions r.shownName) := by
  rw [selection, bind_eq_error]
  refine or_congr_right ?_
  constructor
  · rintro ⟨⟨⟩, passed, later⟩
    refine ⟨passed, ?_⟩
    rcases bind_eq_error.mp later with refused | ⟨ss, routed, last⟩
    · exact Or.inl refused
    · cases ss with
      | nil => exact Or.inr ⟨routed, (Except.error.inj last).symm⟩
      | cons s ss => cases last
  · rintro ⟨passed, refused | ⟨routed, rfl⟩⟩
    · exact ⟨(), passed, bind_eq_error.mpr (Or.inl refused)⟩
    · exact ⟨(), passed, bind_eq_error.mpr (Or.inr ⟨[], routed, rfl⟩)⟩

theorem routedSelectors_eq_ok_iff {ss : List Selector} : routedSelectors r = .ok ss ↔
    Module.collect r.shownName r.filter r.modules = .ok ss ∧ Selector.validate ss = .ok () := by
  rw [routedSelectors, bind_eq_ok]
  constructor
  · rintro ⟨collected, eq, later⟩
    obtain ⟨⟨⟩, valid, same⟩ := bind_eq_ok.mp later
    obtain rfl := Except.ok.inj same
    exact ⟨eq, valid⟩
  · rintro ⟨collected, valid⟩
    exact ⟨ss, collected, bind_eq_ok.mpr ⟨(), valid, rfl⟩⟩

theorem selection_eq_ok_iff {ss : List Selector} : selection r = .ok ss ↔
    Module.Accepted r.shownName r.filter r.modules ss ∧ ss ≠ [] := by
  rw [selection, bind_eq_ok]
  constructor
  · rintro ⟨⟨⟩, checked, later⟩
    obtain ⟨selectors, routed, last⟩ := bind_eq_ok.mp later
    obtain ⟨collected, valid⟩ := routedSelectors_eq_ok_iff.mp routed
    cases selectors with
    | nil => cases last
    | cons s rest =>
        obtain rfl := Except.ok.inj last
        exact ⟨⟨checked, collected, valid⟩, List.cons_ne_nil _ _⟩
  · rintro ⟨accepted, nonempty⟩
    have routed := routedSelectors_eq_ok_iff.mpr ⟨accepted.collected, accepted.valid⟩
    refine ⟨(), accepted.checked, bind_eq_ok.mpr ⟨ss, routed, ?_⟩⟩
    rw [if_neg (by rwa [List.isEmpty_iff])]
    rfl

theorem modules_ne_nil_of_functions (h : r.functions ≠ []) : r.modules ≠ [] := by
  intro nil
  rw [Request.functions, nil] at h
  exact h rfl

/-- The first function without a signature is at fault, else two functions that have the
same method id. -/
theorem routedSelectors_eq_error_iff (nonempty : r.modules ≠ []) :
    routedSelectors r = .error fault ↔
      Fallible.FirstFault Function.signature r.functions fault ∨
        ∃ ss, Module.collect r.shownName r.filter r.modules = .ok ss ∧
          ¬ (r.functions.map Function.methodId?).Nodup ∧
          fault = .selectorCollision (Selector.collisions ss) (some Selector.renameHint) := by
  rw [routedSelectors, bind_eq_error, Module.collect_eq_error_iff nonempty]
  refine or_congr_right ⟨?_, ?_⟩
  · rintro ⟨ss, collected, later⟩
    rw [Module.validate_eq_of_collect collected] at later
    refine ⟨ss, collected, ?_⟩
    split at later
    case isTrue => cases later
    case isFalse shared => exact ⟨shared, (Except.error.inj later).symm⟩
  · rintro ⟨ss, collected, shared, rfl⟩
    refine ⟨ss, collected, ?_⟩
    rw [Module.validate_eq_of_collect collected, if_neg (by exact shared)]
    rfl

theorem routedSelectors_eq_nil_iff (nonempty : r.modules ≠ []) :
    routedSelectors r = .ok [] ↔ r.functions = [] := by
  constructor
  · intro routed
    exact (Module.eq_nil_iff_of_collect (routedSelectors_eq_ok_iff.mp routed).1).mp rfl
  · intro nothing
    have readable : ∀ f ∈ Module.functions r.filter r.modules, f.Readable := by
      intro f hf
      rw [Request.functions] at nothing
      rw [nothing] at hf
      exact absurd hf List.not_mem_nil
    obtain ⟨ss, collected⟩ := @Module.exists_collect r.shownName _ _ nonempty readable
    obtain rfl := (Module.eq_nil_iff_of_collect collected).mpr nothing
    exact routedSelectors_eq_ok_iff.mpr ⟨collected, rfl⟩

/-- The first function without a signature has a malformed parameter, or inputs that cannot
be listed. -/
theorem defect_or_stuck (sound : Sound r.modules)
    (first : Fallible.FirstFault Function.signature r.functions fault) :
    Defect r fault ∨ Stuck r ∧ fault = .wrongKind .items := by
  obtain ⟨before, f, after, split, signed, unsigned⟩ := first
  have readable : ∀ g ∈ before, g.Readable := fun g hg =>
    Function.exists_signature_iff.mp (signed g hg)
  rcases Function.signature_eq_error_iff.mp unsigned with
    ⟨items, defect, listed, ⟨accepted, param, rest, rfl, reads, malformed⟩, rfl⟩ |
      ⟨unlistable, rfl⟩
  · exact Or.inl (.parameter sound split readable listed reads malformed)
  · exact Or.inr ⟨⟨sound, before, f, after, split, readable, unlistable⟩, rfl⟩

/-- The function that stops the selection is the first without a signature. -/
theorem firstFault_of_split {before after : List Function} {f : Function}
    (split : r.functions = before ++ f :: after) (readable : ∀ g ∈ before, g.Readable)
    (unsigned : f.signature = .error fault) :
    r.modules ≠ [] ∧ routedSelectors r = .error fault := by
  have nonempty : r.modules ≠ [] := by
    apply modules_ne_nil_of_functions
    rw [split]
    exact List.append_ne_nil_of_right_ne_nil _ (List.cons_ne_nil _ _)
  refine ⟨nonempty, (routedSelectors_eq_error_iff nonempty).mpr (Or.inl ?_)⟩
  exact ⟨before, f, after, split, fun g hg => Function.exists_signature_iff.mpr (readable g hg),
    unsigned⟩

/-- **A refused request has a defect or is stuck.** -/
theorem selection_eq_error_iff (names : StringNames r.modules) :
    selection r = .error fault ↔ Defect r fault ∨ Stuck r ∧ fault = .wrongKind .items := by
  rw [selection_eq_error_iff_stages, Module.check_eq_error_iff names,
    Module.check_eq_ok_iff names]
  constructor
  · rintro ((⟨nil, rfl⟩ | ⟨before, m, after, split, sound, defect⟩) | ⟨⟨nonempty, sound⟩, later⟩)
    · exact Or.inl (.noModules nil)
    · exact Or.inl (.module split sound defect)
    · rcases later with refused | ⟨routed, rfl⟩
      · rcases (routedSelectors_eq_error_iff nonempty).mp refused with
          first | ⟨ss, collected, shared, rfl⟩
        · exact defect_or_stuck sound first
        · exact Or.inl (.collision sound (Module.readable_of_collect collected) shared collected)
      · exact Or.inl
          (.nothingRouted nonempty sound ((routedSelectors_eq_nil_iff nonempty).mp routed))
  · rintro (defect | ⟨⟨sound, before, f, after, split, readable, unlistable⟩, rfl⟩)
    -- a defect of one stage says that all earlier stages passed
    · cases defect with
      | noModules nil => exact Or.inl (Or.inl ⟨nil, rfl⟩)
      | module split sound defect => exact Or.inl (Or.inr ⟨_, _, _, split, sound, defect⟩)
      | parameter sound split readable listed reads malformed =>
          have unsigned := Function.signature_eq_error_iff.mpr
            (Or.inl ⟨_, _, listed, ⟨_, _, _, rfl, reads, malformed⟩, rfl⟩)
          obtain ⟨nonempty, refused⟩ := firstFault_of_split split readable unsigned
          exact Or.inr ⟨⟨nonempty, sound⟩, Or.inl refused⟩
      | collision sound readable shared collected =>
          have nonempty : r.modules ≠ [] := by
            apply modules_ne_nil_of_functions
            intro nil
            rw [nil] at shared
            exact shared List.nodup_nil
          refine Or.inr ⟨⟨nonempty, sound⟩, Or.inl ?_⟩
          exact (routedSelectors_eq_error_iff nonempty).mpr (Or.inr ⟨_, collected, shared, rfl⟩)
      | nothingRouted nonempty sound nothing =>
          refine Or.inr ⟨⟨nonempty, sound⟩, Or.inr ⟨?_, rfl⟩⟩
          exact (routedSelectors_eq_nil_iff nonempty).mpr nothing
    · obtain ⟨nonempty, refused⟩ :=
        firstFault_of_split split readable (Function.signature_of_unlistable unlistable)
      exact Or.inr ⟨⟨nonempty, sound⟩, Or.inl refused⟩

end SelectorRouter.Router
