import SelectorRouter.Abi.Function
import SelectorRouter.Proofs.Abi.Parameter

/-!
# Signatures of functions

A function has a signature when its inputs can be listed and each of them can be read as
a parameter. There are two ways to have none: the first malformed parameter is reported
with the name of the function, and inputs that cannot be listed at all, `true` or a number
other than zero, are not reported but end in a fault of their own.
-/

namespace SelectorRouter.Function

/-- The parameters that a value of inputs stands for: the items of a list, else none. -/
def parameters (inputs : Json) : List Json :=
  match inputs with
  | .arr items => items
  | _ => []

/-- Inputs that are missing, count as false or are a list. -/
def Listed (f : Function) : Prop :=
  f.inputs.truthy = false ∨ ∃ items, f.inputs = .arr items

/-- Inputs that are `true` or a number other than zero. -/
def Unlistable (f : Function) : Prop :=
  f.inputs = .bool true ∨ (∃ n, n ≠ 0 ∧ f.inputs = .int n) ∨
    ∃ x : Number.Binary64, x.isZero = false ∧ f.inputs = .float x

variable {f : Function}

/-! ## Listing the inputs -/

theorem inputItems_of_listed (h : f.Listed) :
    inputItems f.inputs = .ok (parameters f.inputs) := by
  rcases h with empty | ⟨items, eq⟩
  · have none : parameters f.inputs = [] := by
      cases eq : f.inputs with
      | arr items =>
          rw [eq, Json.truthy, Bool.not_eq_false', List.isEmpty_iff] at empty
          exact empty
      | _ => rfl
    rw [inputItems, empty, if_neg Bool.false_ne_true, none]
  · rw [eq, inputItems]
    cases items with
    | nil => rfl
    | cons item items => rfl

theorem unlistable_iff :
    f.Unlistable ↔ f.inputs.truthy = true ∧ f.inputs.items? = none := by
  rw [Unlistable]
  cases f.inputs with
  | null => simp [Json.truthy]
  | bool b => cases b <;> simp [Json.truthy, Json.items?]
  | int n => simp [Json.truthy, Json.items?]
  | float x => simp [Json.truthy, Json.items?]
  | str s => simp [Json.items?]
  | arr items => simp [Json.items?]
  | obj members => simp [Json.items?]

theorem inputItems_of_unlistable (h : f.Unlistable) :
    inputItems f.inputs = .error (.wrongKind .items) := by
  obtain ⟨given, none⟩ := unlistable_iff.mp h
  rw [inputItems, if_pos given, none]

theorem exists_inputItems (h : ¬ f.Unlistable) : ∃ items, inputItems f.inputs = .ok items := by
  rw [inputItems]
  split
  case isFalse => exact ⟨[], rfl⟩
  case isTrue given =>
      split
      case h_1 items _ => exact ⟨items, rfl⟩
      case h_2 none => exact absurd (unlistable_iff.mpr ⟨given, none⟩) h

/-- Characters and member names are no parameters. -/
theorem mapM_ofJson_str {α : Type} {g : α → String} {l : List α} {ts : List Parameter}
    (h : (l.map fun a => Json.str (g a)).mapM Parameter.ofJson = .ok ts) : l = [] := by
  cases l with
  | nil => rfl
  | cons a l =>
      have refused : Parameter.ofJson (.str (g a)) = .error (.noType (.str (g a))) := by
        rw [Parameter.ofJson.eq_def]
      rw [List.map_cons, List.mapM_cons, refused] at h
      cases h

/-- Inputs that can be read are a list, or there are none. -/
theorem eq_parameters_of_read {items : List Json} {ts : List Parameter}
    (listed : inputItems f.inputs = .ok items) (read : items.mapM Parameter.ofJson = .ok ts) :
    items = parameters f.inputs := by
  by_cases given : f.inputs.truthy = true
  · rw [inputItems, if_pos given] at listed
    cases eq : f.inputs with
    | arr members =>
        rw [eq] at listed
        exact (Except.ok.inj listed).symm
    | str s =>
        rw [eq] at listed
        obtain rfl := Except.ok.inj listed
        rw [mapM_ofJson_str read]
        rfl
    | obj members =>
        rw [eq] at listed
        obtain rfl := Except.ok.inj listed
        rw [mapM_ofJson_str read]
        rfl
    | null => rw [eq] at listed; cases listed
    | bool b => rw [eq] at listed; cases listed
    | int n => rw [eq] at listed; cases listed
    | float x => rw [eq] at listed; cases listed
  · have missing : f.Listed := Or.inl (Bool.not_eq_true _ ▸ given)
    rw [inputItems_of_listed missing] at listed
    exact (Except.ok.inj listed).symm

/-! ## Signatures -/

/-- The text of a signature. -/
def signatureText (name : String) (ts : List Parameter) : String :=
  name ++ "(" ++ ",".intercalate (Parameter.canonicals ts) ++ ")"

/-- What the items of the inputs make of a function. -/
theorem signature_of_items {items : List Json} (h : inputItems f.inputs = .ok items) :
    f.signature = match items.mapM Parameter.ofJson with
      | .ok ts => .ok (signatureText f.name ts)
      | .error defect => .error (.invalidParameter defect (some (.str f.name))) := by
  rw [signature, signatureOf, h, ← Parameter.ofJsons_eq_mapM]
  rfl

theorem signature_of_unlistable (h : f.Unlistable) :
    f.signature = .error (.wrongKind .items) := by
  rw [signature, signatureOf, inputItems_of_unlistable h]
  rfl

/-- Inputs that can be listed, each of them a parameter. -/
def Readable (f : Function) : Prop :=
  ∃ items ts, inputItems f.inputs = .ok items ∧ items.mapM Parameter.ofJson = .ok ts

theorem exists_signature_iff : (∃ signature, f.signature = .ok signature) ↔ f.Readable := by
  constructor
  · rintro ⟨signature, eq⟩
    have listable : ¬ f.Unlistable := fun h => by
      rw [signature_of_unlistable h] at eq
      cases eq
    obtain ⟨items, listed⟩ := exists_inputItems listable
    rw [signature_of_items listed] at eq
    cases read : items.mapM Parameter.ofJson with
    | ok ts => exact ⟨items, ts, listed, read⟩
    | error defect =>
        rw [read] at eq
        cases eq
  · rintro ⟨items, ts, listed, read⟩
    rw [signature_of_items listed, read]
    exact ⟨_, rfl⟩

/-- A function without a signature reports the first of its inputs that is no parameter,
unless the inputs cannot be listed. -/
theorem signature_eq_error_iff {fault : Fault} : f.signature = .error fault ↔
    (∃ items defect, inputItems f.inputs = .ok items ∧
      Fallible.FirstFault Parameter.ofJson items defect ∧
      fault = .invalidParameter defect (some (.str f.name))) ∨
    f.Unlistable ∧ fault = .wrongKind .items := by
  by_cases unlistable : f.Unlistable
  · rw [signature_of_unlistable unlistable]
    constructor
    · rintro ⟨⟩
      exact Or.inr ⟨unlistable, rfl⟩
    · rintro (⟨items, -, listed, -⟩ | ⟨-, rfl⟩)
      · rw [inputItems_of_unlistable unlistable] at listed
        cases listed
      · rfl
  · obtain ⟨items, listed⟩ := exists_inputItems unlistable
    rw [signature_of_items listed]
    constructor
    · intro refused
      cases read : items.mapM Parameter.ofJson with
      | ok ts =>
          rw [read] at refused
          cases refused
      | error defect =>
          rw [read] at refused
          obtain rfl := Except.error.inj refused
          exact Or.inl ⟨items, defect, listed, Fallible.mapM_eq_error_iff.mp read, rfl⟩
    · rintro (⟨others, defect, same, first, rfl⟩ | ⟨h, -⟩)
      · obtain rfl := Except.ok.inj (listed.symm.trans same)
        rw [Fallible.mapM_eq_error_iff.mpr first]
      · exact absurd h unlistable

/-- The signature of a fragment with a name is that of the function it describes. -/
theorem fragmentSignature_eq {fragment : Json} {name : String}
    (named : fragment.get? "name" = some (.str name)) :
    fragmentSignature fragment = signature ⟨name, fragment.getD "inputs"⟩ := by
  cases fragment with
  | obj members =>
      have found : members.lookup "name" = some (.str name) := named
      rw [fragmentSignature, found, signature]
  | null => cases named
  | bool b => cases named
  | int n => cases named
  | float x => cases named
  | str s => cases named
  | arr items => cases named

end SelectorRouter.Function
