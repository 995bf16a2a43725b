import SelectorRouter.Proofs.Router.Texts
import SelectorRouter.Proofs.Template.Contract
import SelectorRouter.Proofs.Template.Rendering

/-!
# Outcomes of the generator

For modules with string names a run ends in one of four ways: a text, the report on the
defect of the request, a fault of the template, or a raised warning. The only other way is
the fault of a request that is stuck. So reports on the input say exactly what is wrong
with it, no fault of the generator itself is ever seen, and debug mode changes nothing.

Names, addresses and ABIs are JSON values whose strings are texts of Unicode characters.
Nothing is said of strings that hold half of a surrogate pair.
-/

namespace SelectorRouter

/-- Is the fault a report on invalid input? -/
def Fault.isValidation (fault : Fault) : Bool :=
  fault.report?.any fun report => report.category.lineage.contains .validation

/-- Is the fault one of the generator itself: a broken invariant, a look-up that fails or an
assertion that does not hold? -/
def Fault.isInternal : Fault → Bool
  | missingKey _ => true
  | missingItem => true
  | methodIdOutOfRange => true
  | leafSizeNotPositive => true
  | notAddressSized _ => true
  | settingOfWrongKind => true
  | unknownWarningControl => true
  | fault => fault.report?.any fun report => report.category.lineage.contains .internal

namespace Router

open SelectorRouter.Module (Accepted StringNames)

variable {r : Request} {fault : Fault} {session : Session}

/-! ## Kinds of faults -/

/-- A defect is reported as one of the input. -/
theorem Defect.kind (h : Defect r fault) :
    fault.isValidation = true ∧ fault.isInternal = false := by
  cases h with
  | noModules => exact ⟨rfl, rfl⟩
  | module _ _ defect =>
      cases defect with
      | repeated => exact ⟨rfl, rfl⟩
      | unaddressed => exact ⟨rfl, rfl⟩
  | parameter => exact ⟨rfl, rfl⟩
  | collision => exact ⟨rfl, rfl⟩
  | nothingRouted => exact ⟨rfl, rfl⟩

theorem kind_of_renderFault (h : Template.RenderFault fault) :
    fault.isValidation = false ∧ fault.isInternal = false := by
  cases h with
  | malformed => exact ⟨rfl, rfl⟩
  | deep => exact ⟨rfl, rfl⟩
  | reserved => exact ⟨rfl, rfl⟩
  | undefined => exact ⟨rfl, rfl⟩

theorem kind_unreachable (m : Module) :
    (Fault.warning (unreachable m)).isValidation = false ∧
      (Fault.warning (unreachable m)).isInternal = false :=
  ⟨rfl, rfl⟩

/-! ## How a run ends -/

/-- A run ends in the fault of its selection, in a rendering, or in a raised warning. -/
theorem generate_cases (names : StringNames r.modules) (session : Session) :
    (∃ fault, selection r = .error fault ∧ (generate r session).1 = .error fault) ∨
      (∃ texts : Template.Sections,
        (generate r session).1 = Template.render (templateOf r.template) texts.slots) ∨
      session.policy = .raise ∧
        ∃ m ∈ r.modules, (generate r session).1 = .error (.warning (unreachable m)) := by
  cases selected : selection r with
  | error fault => exact Or.inl ⟨fault, rfl, generate_of_refused selected session⟩
  | ok ss =>
      obtain ⟨accepted, nonempty⟩ := selection_eq_ok_iff.mp selected
      obtain ⟨ids, tree, texts, draft⟩ := exists_drafted accepted nonempty names
      rcases draft.renders.run session with rendered | warned
      · exact Or.inr (Or.inl ⟨texts, rendered⟩)
      · exact Or.inr (Or.inr warned)

/-- The faults of a run, by their causes. -/
theorem generate_faults (names : StringNames r.modules)
    (h : (generate r session).1 = .error fault) :
    Defect r fault ∨ Stuck r ∧ fault = .wrongKind .items ∨ Template.RenderFault fault ∨
      ∃ m, fault = .warning (unreachable m) := by
  rcases generate_cases names session with
    ⟨refusal, refused, ended⟩ | ⟨texts, ended⟩ | ⟨-, m, -, ended⟩
  · obtain rfl := Except.error.inj (h.symm.trans ended)
    rcases (selection_eq_error_iff names).mp refused with defect | stuck
    · exact Or.inl defect
    · exact Or.inr (Or.inl stuck)
  · rw [h] at ended
    exact Or.inr (Or.inr (Or.inl (Template.render_eq_error ended.symm)))
  · obtain rfl := Except.error.inj (h.symm.trans ended)
    exact Or.inr (Or.inr (Or.inr ⟨m, rfl⟩))

theorem generate_of_defect (names : StringNames r.modules) (defect : Defect r fault)
    (session : Session) : (generate r session).1 = .error fault :=
  generate_of_refused ((selection_eq_error_iff names).mpr (Or.inl defect)) session

/-- A stuck request ends in a fault that is no report. -/
theorem generate_of_stuck (names : StringNames r.modules) (stuck : Stuck r) (session : Session) :
    (generate r session).1 = .error (.wrongKind .items) :=
  generate_of_refused ((selection_eq_error_iff names).mpr (Or.inr ⟨stuck, rfl⟩)) session

/-! ## Reports on the input -/

/-- **The report on invalid input is the one on the defect of the request.** For modules
with string names, any filter and any template, well formed or not, a run in any session
ends in a report on invalid input exactly when the request has a defect, and the report is
the one on this defect. All strings are texts of Unicode characters. -/
theorem generate_refuses_iff (r : Request) (session : Session) (fault : Fault)
    (names : StringNames r.modules) :
    ((generate r session).1 = .error fault ∧ fault.isValidation = true) ↔ Defect r fault := by
  constructor
  · rintro ⟨ended, validation⟩
    rcases generate_faults names ended with defect | ⟨-, rfl⟩ | rendering | ⟨m, rfl⟩
    · exact defect
    · cases validation
    · rw [(kind_of_renderFault rendering).1] at validation
      cases validation
    · rw [(kind_unreachable m).1] at validation
      cases validation
  · intro defect
    exact ⟨generate_of_defect names defect session, defect.kind.1⟩

/-- A token, and another module of its name without an address. -/
def repeatedRequest : Request :=
  ⟨[Module.tokenAt Module.sampleAddress, Module.tokenAt ""], .str "Router", none, false, false,
    .all⟩

/-- Of a repeated name and a malformed address, the name is reported. -/
theorem generate_refuses_repeated : StringNames repeatedRequest.modules ∧
    (generate repeatedRequest .initial).1 = .error (.duplicateModule (.str "Token") "Router") := by
  have names : StringNames repeatedRequest.modules :=
    List.forall_mem_cons.mpr ⟨⟨"Token", rfl⟩, List.forall_mem_singleton.mpr ⟨"Token", rfl⟩⟩
  have first : Module.Sound [Module.tokenAt Module.sampleAddress] :=
    ⟨List.nodup_singleton _, List.forall_mem_singleton.mpr rfl⟩
  have defect : Defect repeatedRequest (.duplicateModule (.str "Token") "Router") :=
    @Defect.module repeatedRequest [Module.tokenAt Module.sampleAddress] [] (Module.tokenAt "") _
      rfl first (.repeated (List.mem_singleton_self _))
  exact ⟨names, ((generate_refuses_iff repeatedRequest .initial _ names).mpr defect).1⟩

/-! ## Faults of the generator -/

/-- **No run ends in a fault of the generator itself, and debug mode changes nothing.** For
modules with string names, whatever their addresses and ABIs are, no run shows a broken
invariant, a failed look-up or a failed assertion. With the debug flag set either way, the
run ends in the same text or fault and shows the same warnings. -/
theorem generate_never_internal (r : Request) (session : Session)
    (names : StringNames r.modules) :
    (∀ fault, (generate r session).1 = .error fault → fault.isInternal = false) ∧
      ∀ debug, generate r { session with debug := debug } =
        ((generate r session).1, { (generate r session).2 with debug := debug }) := by
  constructor
  · intro fault ended
    rcases generate_faults names ended with defect | ⟨-, rfl⟩ | rendering | ⟨m, rfl⟩
    · exact defect.kind.2
    · rfl
    · exact (kind_of_renderFault rendering).2
    · exact (kind_unreachable m).2
  · exact blind_generate r session

/-- A token whose function has the given inputs. -/
def tokenWith (inputs : Json) : Request :=
  ⟨[⟨.str "Token", .str Module.sampleAddress,
      [.obj [("type", .str "function"), ("name", .str "name"), ("inputs", inputs)]]⟩],
    .str "Router", none, false, false, .all⟩

theorem stringNames_tokenWith (inputs : Json) : StringNames (tokenWith inputs).modules :=
  List.forall_mem_singleton.mpr ⟨"Token", rfl⟩

/-- Debug mode changes nothing for the token. -/
theorem generate_never_internal_token : StringNames (tokenWith .null).modules ∧
    (∀ fault, (generate (tokenWith .null) .initial).1 = .error fault → fault.isInternal = false) ∧
      ∀ debug, generate (tokenWith .null) { Session.initial with debug := debug } =
        ((generate (tokenWith .null) .initial).1,
          { (generate (tokenWith .null) .initial).2 with debug := debug }) :=
  ⟨stringNames_tokenWith .null,
    generate_never_internal (tokenWith .null) .initial (stringNames_tokenWith .null)⟩

/-! ## What is not reported -/

/-- A text, or a report on invalid input. -/
def Reported (result : Except Fault String) : Prop :=
  ∀ fault, result = .error fault → fault.isValidation = true

/-- **With the built-in template, bad input is reported unless the request is stuck.** When
warnings are not raised, a run ends in a text or in a report on invalid input, whatever the
addresses and the ABIs are, except that the first function without a signature may have
inputs that are `true` or a number other than zero. All strings are texts of Unicode
characters, so every signature has bytes. -/
theorem generate_reported_iff (r : Request) (session : Session) (names : StringNames r.modules)
    (builtin : templateOf r.template = Template.router) (lenient : session.policy ≠ .raise) :
    Reported (generate r session).1 ↔ ¬ Stuck r := by
  constructor
  · intro reported stuck
    have unreported := reported _ (generate_of_stuck names stuck session)
    cases unreported
  · intro free fault ended
    rcases generate_cases names session with
      ⟨refusal, refused, same⟩ | ⟨texts, rendered⟩ | ⟨raising, -⟩
    · obtain rfl := Except.error.inj (ended.symm.trans same)
      rcases (selection_eq_error_iff names).mp refused with defect | ⟨stuck, -⟩
      · exact defect.kind.1
      · exact absurd stuck free
    · rw [builtin, Template.render_router, ended] at rendered
      cases rendered
    · exact absurd raising lenient

theorem stuck_tokenWith_iff (inputs : Json) :
    Stuck (tokenWith inputs) ↔ Function.Unlistable ⟨"name", inputs⟩ := by
  have functions : (tokenWith inputs).functions = [⟨"name", inputs⟩] := rfl
  constructor
  · rintro ⟨-, before, f, after, split, -, unlistable⟩
    rw [functions] at split
    rcases List.append_eq_singleton_iff.mp split.symm with ⟨-, single⟩ | ⟨-, nothing⟩
    · obtain ⟨rfl, -⟩ := List.cons.inj single
      exact unlistable
    · cases nothing
  · intro unlistable
    have sound : Module.Sound (tokenWith inputs).modules :=
      ⟨List.nodup_singleton _, List.forall_mem_singleton.mpr rfl⟩
    exact ⟨sound, [], _, [], functions, List.forall_mem_nil _, unlistable⟩

/-- Inputs that are a text are read character by character, and what is wrong is reported. -/
theorem generate_reported_text : StringNames (tokenWith (.str "uint")).modules ∧
    templateOf (tokenWith (.str "uint")).template = Template.router ∧
    Session.initial.policy ≠ .raise ∧ Reported (generate (tokenWith (.str "uint")) .initial).1 := by
  have names := stringNames_tokenWith (.str "uint")
  have lenient : Session.initial.policy ≠ .raise := by decide
  have free : ¬ Stuck (tokenWith (.str "uint")) := by
    rw [stuck_tokenWith_iff]
    rintro (h | ⟨n, -, h⟩ | ⟨x, -, h⟩)
    · cases h
    · cases h
    · cases h
  exact ⟨names, rfl, lenient,
    (generate_reported_iff (tokenWith (.str "uint")) .initial names rfl lenient).mpr free⟩

/-- Inputs that are the number 1 end the run in a fault that is no report. -/
theorem generate_unreported_number : StringNames (tokenWith (.int 1)).modules ∧
    templateOf (tokenWith (.int 1)).template = Template.router ∧
    Session.initial.policy ≠ .raise ∧
    (generate (tokenWith (.int 1)) .initial).1 = .error (.wrongKind .items) ∧
    ¬ Reported (generate (tokenWith (.int 1)) .initial).1 := by
  have names := stringNames_tokenWith (.int 1)
  have stuck : Stuck (tokenWith (.int 1)) :=
    (stuck_tokenWith_iff _).mpr (Or.inr (Or.inl ⟨1, by decide, rfl⟩))
  have ended := generate_of_stuck names stuck .initial
  refine ⟨names, rfl, by decide, ended, fun reported => ?_⟩
  have unreported := reported _ ended
  cases unreported

end Router

end SelectorRouter
