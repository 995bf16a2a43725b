import SelectorRouter.Proofs.Address
import SelectorRouter.Proofs.Module

/-!
# The check of a module list

Modules with string names pass the check when there is one, their names differ and all
addresses are well formed. Otherwise the check names the first module that repeats a name
or has a malformed address; if it does both, the name is reported.
-/

namespace SelectorRouter.Module

variable {router : String} {before modules : List Module} {m : Module} {fault : Fault}

def StringNames (modules : List Module) : Prop :=
  ∀ m ∈ modules, ∃ name, m.name = .str name

/-- Modules that differ in name, each with a well-formed address. -/
structure Sound (modules : List Module) : Prop where
  distinct : (modules.map (·.name)).Nodup
  addressed : ∀ m ∈ modules, Address.isHexValue m.address = true

/-- What is wrong with a module after the modules before it. -/
inductive Defect (router : String) (before : List Module) (m : Module) : Fault → Prop where
  | repeated : m.name ∈ before.map (·.name) →
      Defect router before m (.duplicateModule m.name router)
  | unaddressed : m.name ∉ before.map (·.name) → Address.isHexValue m.address = false →
      Defect router before m (.invalidAddress m.name m.address)

theorem sound_nil : Sound [] :=
  ⟨List.nodup_nil, List.forall_mem_nil _⟩

theorem sound_append_singleton : Sound (before ++ [m]) ↔
    Sound before ∧ m.name ∉ before.map (·.name) ∧ Address.isHexValue m.address = true := by
  constructor
  · rintro ⟨distinct, addressed⟩
    rw [List.map_append, List.map_singleton, List.nodup_append] at distinct
    obtain ⟨first, -, apart⟩ := distinct
    refine ⟨⟨first, fun n hn => addressed n (List.mem_append_left _ hn)⟩, fun known => ?_,
      addressed m List.mem_concat_self⟩
    exact apart _ known _ (List.mem_singleton_self _) rfl
  · rintro ⟨sound, fresh, hex⟩
    constructor
    · rw [List.map_append, List.map_singleton, List.nodup_append]
      refine ⟨sound.distinct, List.nodup_singleton _, fun a ha b hb => ?_⟩
      rintro rfl
      exact fresh (List.mem_singleton.mp hb ▸ ha)
    · intro n hn
      rcases List.mem_append.mp hn with hn | hn
      · exact sound.addressed n hn
      · rw [List.mem_singleton.mp hn]
        exact hex

theorem Sound.left {after : List Module} (h : Sound (before ++ after)) : Sound before where
  distinct := by
    have distinct := h.distinct
    rw [List.map_append] at distinct
    exact distinct.of_append_left
  addressed := fun m hm => h.addressed m (List.mem_append_left _ hm)

/-- A sound list has no defect anywhere. -/
theorem Sound.not_defect {after : List Module} (h : Sound (before ++ m :: after)) :
    ¬ Defect router before m fault := by
  rw [← List.singleton_append, ← List.append_assoc] at h
  obtain ⟨-, fresh, hex⟩ := sound_append_singleton.mp h.left
  rintro (known | ⟨-, malformed⟩)
  · exact fresh known
  · rw [hex] at malformed
    cases malformed

/-! ## Addresses -/

theorem checksumAddress_of_isHexValue (h : Address.isHexValue m.address = true) :
    ∃ address, m.checksumAddress = .ok address := by
  unfold Address.isHexValue at h
  split at h
  case h_1 s eq => exact exists_checksumAddress eq h
  case h_2 => cases h

theorem checksumAddress_of_malformed (h : Address.isHexValue m.address = false) :
    m.checksumAddress = .error (.invalidAddress m.name m.address) := by
  rw [checksumAddress]
  split
  case h_1 s eq =>
      rw [eq] at h
      have malformed : Address.isHex s = false := h
      rw [malformed, if_neg Bool.false_ne_true]
  case h_2 => rfl

/-! ## The check from the front -/

/-- The keys of the names before, as the check remembers them. -/
def Remembers (seen : List Json.Key) (before : List Module) : Prop :=
  ∀ name, seen.contains (.text name) = true ↔ .str name ∈ before.map (·.name)

/-- What the check does with one module. -/
theorem checkFrom_cons {seen : List Json.Key} {name : String} (eq : m.name = .str name)
    (remembers : Remembers seen before) (modules : List Module) :
    (∃ fault, Defect router before m fault ∧ checkFrom router seen (m :: modules) = .error fault) ∨
      m.name ∉ before.map (·.name) ∧ Address.isHexValue m.address = true ∧
        Remembers (.text name :: seen) (before ++ [m]) ∧
        checkFrom router seen (m :: modules) = checkFrom router (.text name :: seen) modules := by
  have key : m.name.key? = some (.text name) := by rw [eq]; rfl
  rw [checkFrom, key]
  -- the name is looked at first, so the address of a repeated module does not matter
  by_cases known : m.name ∈ before.map (·.name)
  · have seen := (remembers name).mpr (eq ▸ known)
    exact Or.inl ⟨_, .repeated known, if_pos seen⟩
  · have fresh : ¬ seen.contains (.text name) = true := fun h => known (eq ▸ (remembers name).mp h)
    simp only [if_neg fresh]
    cases hex : Address.isHexValue m.address with
    | false =>
        rw [checksumAddress_of_malformed hex]
        exact Or.inl ⟨_, .unaddressed known hex, rfl⟩
    | true =>
        obtain ⟨address, ok⟩ := checksumAddress_of_isHexValue hex
        rw [ok]
        refine Or.inr ⟨known, rfl, fun other => ?_, rfl⟩
        rw [List.contains_cons, Bool.or_eq_true, remembers other, beq_iff_eq, List.map_append,
          List.mem_append, List.map_singleton, List.mem_singleton, eq, Json.Key.text.injEq,
          Json.str.injEq, or_comm]

/-- The check from any point on, after sound modules whose names it remembers. -/
theorem checkFrom_eq : ∀ {modules before : List Module} {seen : List Json.Key},
    StringNames modules → Sound before → Remembers seen before →
      (checkFrom router seen modules = .ok () ∧ Sound (before ++ modules)) ∨
        ∃ done m rest fault, modules = done ++ m :: rest ∧ Sound (before ++ done) ∧
          Defect router (before ++ done) m fault ∧ checkFrom router seen modules = .error fault
  | [], before, _, _, sound, _ => Or.inl ⟨rfl, by rwa [List.append_nil]⟩
  | m :: modules, before, seen, names, sound, remembers => by
      -- a module that passes extends the sound front by one
      obtain ⟨name, eq⟩ := names m List.mem_cons_self
      rcases checkFrom_cons eq remembers modules with
        ⟨fault, defect, refused⟩ | ⟨fresh, hex, grown, step⟩
      · refine Or.inr ⟨[], m, modules, fault, rfl, ?_, ?_, refused⟩
        · rwa [List.append_nil]
        · rwa [List.append_nil]
      · have extended := sound_append_singleton.mpr ⟨sound, fresh, hex⟩
        have later : StringNames modules := fun n hn => names n (List.mem_cons_of_mem m hn)
        rw [step]
        rcases checkFrom_eq later extended grown with
          ⟨passed, whole⟩ | ⟨done, n, rest, fault, rfl, first, defect, refused⟩
        · refine Or.inl ⟨passed, ?_⟩
          rwa [List.append_assoc, List.singleton_append] at whole
        · rw [List.append_assoc, List.singleton_append] at first defect
          exact Or.inr ⟨m :: done, n, rest, fault, rfl, first, defect, refused⟩

/-! ## The whole check -/

theorem check_eq (names : StringNames modules) (nonempty : modules ≠ []) :
    (check router modules = .ok () ∧ Sound modules) ∨
      ∃ before m after fault, modules = before ++ m :: after ∧ Sound before ∧
        Defect router before m fault ∧ check router modules = .error fault := by
  rw [check, if_neg (by rwa [List.isEmpty_iff])]
  exact checkFrom_eq names sound_nil fun name => by simp

theorem check_eq_ok_iff (names : StringNames modules) :
    check router modules = .ok () ↔ modules ≠ [] ∧ Sound modules := by
  by_cases empty : modules = []
  · subst empty
    simp [check]
  · rcases @check_eq router modules names empty with
      ⟨passed, sound⟩ | ⟨before, m, after, fault, rfl, sound, defect, refused⟩
    · simp [passed, sound, empty]
    · rw [refused]
      constructor
      · rintro ⟨⟩
      · rintro ⟨-, sound⟩
        exact absurd defect sound.not_defect

/-- A module has one defect at most. -/
theorem Defect.unique {other : Fault} (h : Defect router before m fault)
    (h' : Defect router before m other) : fault = other := by
  cases h with
  | repeated known =>
      cases h' with
      | repeated => rfl
      | unaddressed fresh => exact absurd known fresh
  | unaddressed fresh =>
      cases h' with
      | repeated known => exact absurd known fresh
      | unaddressed => rfl

/-- The first defect of a list is where its sound front ends. -/
theorem defect_position_unique {before' after after' : List Module} {m' : Module}
    {other : Fault} (split : before ++ m :: after = before' ++ m' :: after')
    (sound : Sound before) (sound' : Sound before') (defect : Defect router before m fault)
    (defect' : Defect router before' m' other) : before = before' ∧ m = m' := by
  -- of two fronts the longer one would hold the defect of the other
  rw [List.append_eq_append_iff] at split
  rcases split with ⟨middle, rfl, rest⟩ | ⟨middle, rfl, rest⟩
  · cases middle with
    | nil =>
        obtain ⟨rfl, rfl⟩ := List.cons.inj rest
        exact ⟨(List.append_nil _).symm, rfl⟩
    | cons n middle =>
        obtain ⟨rfl, rfl⟩ := List.cons.inj rest
        exact absurd defect sound'.not_defect
  · cases middle with
    | nil =>
        obtain ⟨rfl, rfl⟩ := List.cons.inj rest
        exact ⟨List.append_nil _, rfl⟩
    | cons n middle =>
        obtain ⟨rfl, rfl⟩ := List.cons.inj rest
        exact absurd defect' sound.not_defect

/-- **The check reports the first module that is wrong**, and what is wrong with it. -/
theorem check_eq_error_iff (names : StringNames modules) :
    check router modules = .error fault ↔
      modules = [] ∧ fault = .emptyModuleList router ∨
        ∃ before m after, modules = before ++ m :: after ∧ Sound before ∧
          Defect router before m fault := by
  by_cases empty : modules = []
  · subst empty
    simp [check, eq_comm]
  · rcases @check_eq router modules names empty with
      ⟨passed, sound⟩ | ⟨before, m, after, found, rfl, sound, defect, refused⟩
    · rw [passed]
      constructor
      · rintro ⟨⟩
      · rintro (⟨nil, -⟩ | ⟨before, m, after, rfl, -, defect⟩)
        · exact absurd nil empty
        · exact absurd defect sound.not_defect
    · rw [refused]
      constructor
      · rintro ⟨⟩
        exact Or.inr ⟨before, m, after, rfl, sound, defect⟩
      · rintro (⟨nil, -⟩ | ⟨before', m', after', split, sound', defect'⟩)
        · exact absurd nil empty
        · obtain ⟨rfl, rfl⟩ := defect_position_unique split sound sound' defect defect'
          rw [defect.unique defect']

end SelectorRouter.Module
