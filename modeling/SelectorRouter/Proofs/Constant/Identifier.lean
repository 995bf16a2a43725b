import Mathlib.Data.List.Nodup
import Mathlib.Data.Nat.Find
import SelectorRouter.Proofs.Code.Literal
import SelectorRouter.Proofs.Fallible

/-!
# Identifiers of constants

Every identifier is a word that does not start with a digit, and no two names of a list
have the same one. Names whose words agree differ by their numbers: `EndsAt` says where the
search among the numbered candidates ends, and it passes no more of them than there are taken
identifiers. What adding a name preserves is `Apart`, so all identifiers of a list have it.
-/

namespace SelectorRouter.Constant

open Fallible (valueOr mapM_map_eq_ok)
open Code (IsWord IsIdentifier)

/-- The identifier of the constant of a module, if it has one. -/
def identifierOf (ids : Identifiers) (module : Json) : String :=
  (valueOr none (lookup ids module)).getD ""

/-- Identifiers that tell names apart. -/
structure Apart (ids : Identifiers) : Prop where
  nodup : (ids.map (·.2)).Nodup
  identifier : ∀ p ∈ ids, IsIdentifier p.2

/-- The search for a free candidate passes `k` candidates that are taken. -/
structure EndsAt (taken : List String) (base : String) (k : Nat) : Prop where
  passed : ∀ j < k, numbered base j ∈ taken
  free : numbered base k ∉ taken

variable {ids : Identifiers} {name id base : String} {taken : List String} {k : Nat}

/-! ## Identifiers are words -/

theorem isIdentifierChar_of_mem_sanitize {cs : List Char} {c : Char} (h : c ∈ sanitize cs) :
    isIdentifierChar c = true := by
  rw [sanitize, List.mem_map] at h
  obtain ⟨d, -, rfl⟩ := h
  split
  · assumption
  · rfl

/-- An identifier holds underscores and the characters of its name in capitals. -/
theorem mem_screaming : ∀ {cs : List Char} {previous : Option Char} {c : Char},
    c ∈ screaming previous cs → c = '_' ∨ ∃ d ∈ cs, c = d.toUpper
  | [], _, _, h => absurd h List.not_mem_nil
  | d :: cs, previous, c, h => by
      have capital : c = d.toUpper → c = '_' ∨ ∃ e ∈ d :: cs, c = e.toUpper :=
        fun same => Or.inr ⟨d, List.mem_cons_self, same⟩
      rw [screaming, List.mem_append] at h
      rcases h with h | h
      · split at h
        · exact Or.inl (by simpa using h)
        · split at h
          · rcases List.mem_cons.mp h with mark | h
            · exact Or.inl mark
            · exact capital (List.mem_singleton.mp h)
          · exact capital (List.mem_singleton.mp h)
      · rcases mem_screaming h with mark | ⟨e, he, same⟩
        · exact Or.inl mark
        · exact Or.inr ⟨e, List.mem_cons_of_mem d he, same⟩

theorem isIdentifierChar_of_mem_screaming {cs : List Char} {previous : Option Char}
    (all : ∀ c ∈ cs, isIdentifierChar c = true) :
    ∀ c ∈ screaming previous cs, isIdentifierChar c = true := by
  intro c hc
  rcases mem_screaming hc with rfl | ⟨d, hd, rfl⟩
  · rfl
  · exact Code.isIdentifierChar_toUpper d (all d hd)

theorem isIdentifier_baseIdentifier (name : String) : IsIdentifier (baseIdentifier name) := by
  rw [baseIdentifier]
  refine ⟨⟨?_, ?_⟩, ?_⟩
  · rw [Ne, ← String.toList_inj, String.toList_ofList]
    exact List.cons_ne_nil _ _
  · intro c hc
    rw [String.toList_ofList, List.mem_cons] at hc
    rcases hc with rfl | hc
    · rfl
    · exact isIdentifierChar_of_mem_screaming (fun d hd => isIdentifierChar_of_mem_sanitize hd) c hc
  · rw [String.toList_ofList]
    rfl

theorem isIdentifier_append {suffix : String} (h : IsIdentifier base)
    (hs : ∀ c ∈ suffix.toList, isIdentifierChar c = true) : IsIdentifier (base ++ suffix) := by
  obtain ⟨⟨nonempty, chars⟩, first⟩ := h
  have nonempty : base.toList ≠ [] := fun e => nonempty (String.toList_inj.mp e)
  refine ⟨⟨?_, ?_⟩, ?_⟩
  · rw [Ne, ← String.toList_inj, String.toList_append]
    exact fun e => nonempty (List.append_eq_nil_iff.mp e).1
  · intro c hc
    rw [String.toList_append, List.mem_append] at hc
    exact hc.elim (chars c) (hs c)
  · rwa [String.toList_append, List.head?_append_of_ne_nil _ nonempty]

theorem isIdentifier_numbered (h : IsIdentifier base) : ∀ k, IsIdentifier (numbered base k)
  | 0 => h
  | k + 1 => by
      rw [numbered, String.append_assoc]
      refine isIdentifier_append h fun c hc => ?_
      rw [String.toList_append, List.mem_append] at hc
      rcases hc with hc | hc
      · rw [List.mem_singleton.mp hc]
        rfl
      · exact (Code.isWord_toString (k + 2)).2 c hc

/-! ## Numbers keep identifiers apart -/

theorem numbered_ne_base (base : String) (k : Nat) : numbered base (k + 1) ≠ base := by
  intro e
  have length := congrArg (fun s : String => s.toList.length) e
  simp only [numbered, String.toList_append, List.length_append] at length
  have : "_".toList.length = 1 := rfl
  omega

theorem numbered_injective (base : String) : Function.Injective (numbered base)
  | 0, 0, _ => rfl
  | 0, k + 1, h => absurd h.symm (numbered_ne_base base k)
  | j + 1, 0, h => absurd h (numbered_ne_base base j)
  | j + 1, k + 1, h => by
      have digits := congrArg String.toList h
      simp only [numbered, String.toList_append, List.append_cancel_left_eq] at digits
      have same := Code.toString_injective (String.toList_inj.mp digits)
      omega

/-! ## The search for a free candidate -/

/-- No more candidates are taken than there are taken identifiers. -/
theorem le_length_of_passed (passed : ∀ j < k, numbered base j ∈ taken) : k ≤ taken.length := by
  have candidates : ((List.range k).map (numbered base)).Nodup :=
    List.nodup_range.map (numbered_injective base)
  have subset : (List.range k).map (numbered base) ⊆ taken := by
    intro c hc
    obtain ⟨j, hj, rfl⟩ := List.mem_map.mp hc
    exact passed j (List.mem_range.mp hj)
  simpa using candidates.length_le_of_subset subset

theorem EndsAt.le_length (h : EndsAt taken base k) : k ≤ taken.length :=
  le_length_of_passed h.passed

theorem EndsAt.firstFree_eq (h : EndsAt taken base k) :
    firstFree taken base = numbered base k := by
  have found : (List.range (taken.length + 1)).find?
      ((fun c => !taken.contains c) ∘ numbered base) = some k := by
    rw [List.find?_range_eq_some]
    refine ⟨by simpa using h.free, List.mem_range.mpr ?_, fun j hj => ?_⟩
    · have := h.le_length
      omega
    · simpa using h.passed j hj
  rw [firstFree, List.find?_map, found]
  rfl

theorem exists_endsAt (taken : List String) (base : String) : ∃ k, EndsAt taken base k := by
  have some_free : ∃ k, numbered base k ∉ taken := by
    by_contra none
    simp only [not_exists, not_not] at none
    -- then one candidate more would be taken than there are taken identifiers
    have := le_length_of_passed fun j (_ : j < taken.length + 1) => none j
    omega
  exact ⟨Nat.find some_free, fun j hj => Decidable.not_not.mp (Nat.find_min some_free hj),
    Nat.find_spec some_free⟩

/-- A free identifier is one of the candidates, and one that is not taken. -/
theorem firstFree_spec (taken : List String) (base : String) :
    (∃ k, firstFree taken base = numbered base k) ∧ firstFree taken base ∉ taken := by
  obtain ⟨k, ends⟩ := exists_endsAt taken base
  rw [ends.firstFree_eq]
  exact ⟨⟨k, rfl⟩, ends.free⟩

/-! ## The identifiers of a list -/

theorem Apart.addIdentifier (h : Apart ids) (name : String) : Apart (addIdentifier ids name) := by
  rw [Constant.addIdentifier]
  split
  · exact h
  · obtain ⟨⟨k, candidate⟩, free⟩ := firstFree_spec (ids.map (·.2)) (baseIdentifier name)
    constructor
    · rw [List.map_append, List.nodup_append]
      refine ⟨h.nodup, List.nodup_singleton _, ?_⟩
      rintro a ha b hb rfl
      rw [List.map_singleton, List.mem_singleton] at hb
      rw [hb] at ha
      exact free ha
    · intro p hp
      rcases List.mem_append.mp hp with hp | hp
      · exact h.identifier p hp
      · rw [List.mem_singleton.mp hp, candidate]
        exact isIdentifier_numbered (isIdentifier_baseIdentifier name) k

/-- **Identifiers tell names apart**, in whatever order the names are given. -/
theorem apart_identifiersOf (names : List String) : Apart (identifiersOf names) := by
  have run : ∀ (names : List String) (ids : Identifiers), Apart ids →
      Apart (names.foldl Constant.addIdentifier ids) := by
    intro names
    induction names with
    | nil => exact fun ids h => h
    | cons name names ih => exact fun ids h => ih _ (h.addIdentifier name)
  exact run names [] ⟨List.nodup_nil, by rintro p ⟨⟩⟩

/-- The names that have an identifier once another is added. -/
theorem mem_keys_addIdentifier {other : String} :
    other ∈ (addIdentifier ids name).map (·.1) ↔ other ∈ ids.map (·.1) ∨ other = name := by
  rw [addIdentifier]
  split
  case isTrue known =>
      have known : name ∈ ids.map (·.1) := by simpa using known
      constructor
      · exact Or.inl
      · rintro (h | rfl)
        · exact h
        · exact known
  case isFalse => simp

theorem mem_keys_identifiersOf {names : List String} :
    name ∈ (identifiersOf names).map (·.1) ↔ name ∈ names := by
  have run : ∀ (names : List String) (ids : Identifiers),
      name ∈ (names.foldl addIdentifier ids).map (·.1) ↔
        name ∈ ids.map (·.1) ∨ name ∈ names := by
    intro names
    induction names with
    | nil => simp
    | cons other names ih =>
        intro ids
        rw [List.foldl_cons, ih, mem_keys_addIdentifier, List.mem_cons, or_assoc]
  rw [identifiersOf, run]
  simp

/-! ## Looking identifiers up -/

theorem mem_of_lookup (h : ids.lookup name = some id) : (name, id) ∈ ids := by
  obtain ⟨before, after, rfl, -⟩ := List.lookup_eq_some_iff.mp h
  exact List.mem_append_right _ List.mem_cons_self

/-- Names with the same identifier are the same name. -/
theorem Apart.name_eq (h : Apart ids) {other : String} (hn : ids.lookup name = some id)
    (ho : ids.lookup other = some id) : name = other :=
  congrArg Prod.fst
    (List.inj_on_of_nodup_map h.nodup (mem_of_lookup hn) (mem_of_lookup ho) rfl)

theorem identifierOf_of_lookup {module : Json} (h : lookup ids module = .ok (some id)) :
    identifierOf ids module = id := by
  rw [identifierOf, h]
  rfl

/-- Every name of a list has an identifier. -/
theorem lookup_identifiersOf {names : List String} (h : name ∈ names) :
    lookup (identifiersOf names) (.str name) =
      .ok (some (identifierOf (identifiersOf names) (.str name))) := by
  have known := mem_keys_identifiersOf.mpr h
  have found : ((identifiersOf names).lookup name).isSome = true := by
    rw [List.lookup_isSome_iff]
    simpa using known
  obtain ⟨id, found⟩ := Option.isSome_iff_exists.mp found
  have lookup : Constant.lookup (identifiersOf names) (.str name) = .ok (some id) := by
    rw [Constant.lookup, found]
  rw [lookup, identifierOf_of_lookup lookup]

theorem isIdentifier_identifierOf {names : List String} (h : name ∈ names) :
    IsIdentifier (identifierOf (identifiersOf names) (.str name)) := by
  have found := Except.ok.inj (lookup_identifiersOf h)
  exact (apart_identifiersOf names).identifier _ (mem_of_lookup found)

/-- **Different names have different identifiers.** -/
theorem identifierOf_inj {names : List String} {other : String} (hn : name ∈ names)
    (ho : other ∈ names)
    (h : identifierOf (identifiersOf names) (.str name) =
      identifierOf (identifiersOf names) (.str other)) : name = other := by
  have first := Except.ok.inj (lookup_identifiersOf hn)
  have second := Except.ok.inj (lookup_identifiersOf ho)
  exact (apart_identifiersOf names).name_eq first (h ▸ second)

/-- Names that are strings all have identifiers. -/
theorem identifiers_eq_ok {names : List Json} {strings : List String}
    (h : names = strings.map Json.str) : identifiers names = .ok (identifiersOf strings) := by
  rw [h, identifiers, mapM_map_eq_ok]
  · rfl
  · exact fun _ => rfl

/-! ## Names with different words -/

theorem firstFree_of_not_mem (h : base ∉ taken) : firstFree taken base = base :=
  EndsAt.firstFree_eq ⟨fun _ less => absurd less (Nat.not_lt_zero _), h⟩

/-- Names whose words differ get no numbers, so their order does not matter. -/
theorem identifiersOf_of_nodup {names : List String} (h : (names.map baseIdentifier).Nodup) :
    identifiersOf names = names.map fun n => (n, baseIdentifier n) := by
  have run : ∀ (after before : List String), ((before ++ after).map baseIdentifier).Nodup →
      after.foldl addIdentifier (before.map fun n => (n, baseIdentifier n)) =
        (before ++ after).map fun n => (n, baseIdentifier n) := by
    intro after
    induction after with
    | nil => simp
    | cons name after ih =>
        intro before nodup
        have fresh : baseIdentifier name ∉ before.map baseIdentifier := by
          rw [List.map_append, List.map_cons, List.nodup_append] at nodup
          exact fun known => nodup.2.2 _ known _ List.mem_cons_self rfl
        have unknown : name ∉ before := fun known => fresh (List.mem_map_of_mem known)
        have added : addIdentifier (before.map fun n => (n, baseIdentifier n)) name =
            (before ++ [name]).map fun n => (n, baseIdentifier n) := by
          have absent :
              ¬ ((before.map fun n => (n, baseIdentifier n)).any (·.1 == name)) = true := by
            simpa using unknown
          have taken : (before.map fun n => (n, baseIdentifier n)).map (·.2) =
              before.map baseIdentifier := List.map_map
          rw [addIdentifier, if_neg absent, taken, firstFree_of_not_mem fresh, List.map_append,
            List.map_singleton]
        rw [List.append_cons] at nodup ⊢
        rw [List.foldl_cons, added, ih _ nodup]
  exact run names [] h

/-- The identifier of a name whose word no other name has. -/
theorem identifierOf_of_nodup {names : List String} (h : (names.map baseIdentifier).Nodup)
    (known : name ∈ names) :
    identifierOf (identifiersOf names) (.str name) = baseIdentifier name := by
  have found := mem_of_lookup (Except.ok.inj (lookup_identifiersOf known))
  generalize identifierOf (identifiersOf names) (.str name) = id at found
  rw [identifiersOf_of_nodup h, List.mem_map] at found
  obtain ⟨other, -, same⟩ := found
  obtain ⟨rfl, rfl⟩ := Prod.mk.inj same
  rfl

end SelectorRouter.Constant
