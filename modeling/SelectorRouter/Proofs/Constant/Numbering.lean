import SelectorRouter.Proofs.Constant.Assignment

/-!
# Numbers of constants

The constants of the names with one base are its candidates, in the order of the names and
with none left out: this is `InSequence`. A new name keeps it, because no other base has a
candidate of this one, so the search stops right behind the names with the same base. The
number of a name is therefore a count of earlier names, and names with other bases do not
matter to it.
-/

namespace SelectorRouter.Constant

/-- Have two names the same base? -/
def sameBase (name other : String) : Bool :=
  baseIdentifier other == baseIdentifier name

/-- The names before the first occurrence of `name` that have its base, each once. -/
def rivals (names : List String) (name : String) : List String :=
  ((names.takeWhile (· != name)).eraseDups).filter (sameBase name)

/-- The assigned constants of the names with a base. -/
def ofBase (ids : Identifiers) (base : String) : Identifiers :=
  ids.filter fun p => baseIdentifier p.1 == base

/-- The constants of each base are its first candidates. -/
def InSequence (ids : Identifiers) : Prop :=
  ∀ base, (ofBase ids base).map (·.2) = (List.range (ofBase ids base).length).map (numbered base)

variable {ids : Identifiers} {names before after : List String} {name base : String}

/-! ## Constants in sequence -/

/-- A constant in sequence is a candidate of its name's base. -/
theorem InSequence.numbered_of_mem (h : InSequence ids) {p : String × String} (mem : p ∈ ids) :
    ∃ k < (ofBase ids (baseIdentifier p.1)).length, numbered (baseIdentifier p.1) k = p.2 := by
  have same : p ∈ ofBase ids (baseIdentifier p.1) := List.mem_filter.mpr ⟨mem, beq_self_eq_true _⟩
  have value := List.mem_map_of_mem (f := Prod.snd) same
  rw [h, List.mem_map] at value
  obtain ⟨k, range, candidate⟩ := value
  exact ⟨k, List.mem_range.mp range, candidate⟩

/-- The search for a new name passes the names with its base, and nothing else. -/
theorem InSequence.endsAt (h : InSequence ids) (name : String) :
    EndsAt (ids.map (·.2)) (baseIdentifier name)
      (ofBase ids (baseIdentifier name)).length := by
  constructor
  · intro j less
    have value : numbered (baseIdentifier name) j ∈
        (ofBase ids (baseIdentifier name)).map (·.2) := by
      rw [h]
      exact List.mem_map_of_mem (List.mem_range.mpr less)
    obtain ⟨p, mem, same⟩ := List.mem_map.mp value
    exact same ▸ List.mem_map_of_mem (List.mem_filter.mp mem).1
  · intro taken
    -- a name that has this candidate has this base, and so its place is among the earlier ones
    obtain ⟨p, mem, same⟩ := List.mem_map.mp taken
    obtain ⟨k, less, candidate⟩ := h.numbered_of_mem mem
    rw [same] at candidate
    have shared : baseIdentifier p.1 = baseIdentifier name :=
      baseIdentifier_eq_of_numbered candidate
    rw [shared] at candidate less
    have := numbered_injective (baseIdentifier name) candidate
    omega

theorem ofBase_append_singleton (ids : Identifiers) (name id base : String) :
    ofBase (ids ++ [(name, id)]) base =
      if baseIdentifier name = base then ofBase ids base ++ [(name, id)] else ofBase ids base := by
  rw [ofBase, List.filter_append]
  split <;> simp_all [ofBase]

theorem InSequence.addIdentifier (h : InSequence ids) (name : String) :
    InSequence (addIdentifier ids name) := by
  by_cases known : name ∈ ids.map (·.1)
  · rwa [addIdentifier_of_known known]
  · intro base
    rw [addIdentifier_of_new known, (h.endsAt name).firstFree_eq, ofBase_append_singleton]
    split
    case isTrue same =>
        subst same
        rw [List.map_append, h, List.length_append, List.length_singleton, List.range_succ,
          List.map_append]
        rfl
    case isFalse => exact h base -- the candidates of other bases stay as they were

/-- The constants of any list of names are in sequence. -/
theorem inSequence_identifiersOf (names : List String) : InSequence (identifiersOf names) := by
  induction names using List.reverseRecOn with
  | nil => exact fun base => rfl
  | append_singleton names name ih =>
      rw [identifiersOf_append_singleton]
      exact ih.addIdentifier name

/-! ## The names with a base -/

theorem eraseDups_filter {α : Type} [DecidableEq α] (p : α → Bool) (as : List α) :
    (as.filter p).eraseDups = as.eraseDups.filter p := by
  induction as using List.reverseRecOn with
  | nil => rfl
  | append_singleton as a ih =>
      by_cases kept : p a = true
      · have last : (as ++ [a]).filter p = as.filter p ++ [a] := by simp [kept]
        rw [last]
        by_cases known : a ∈ as
        · rw [eraseDups_append_of_mem known,
            eraseDups_append_of_mem (List.mem_filter.mpr ⟨known, kept⟩), ih]
        · rw [eraseDups_append_of_not_mem known,
            eraseDups_append_of_not_mem fun h => known (List.mem_filter.mp h).1, ih]
          simp [kept]
      · have last : (as ++ [a]).filter p = as.filter p := by simp [kept]
        rw [last, ih]
        by_cases known : a ∈ as
        · rw [eraseDups_append_of_mem known]
        · rw [eraseDups_append_of_not_mem known]
          simp [kept]

theorem takeWhile_ne_filter {α : Type} [DecidableEq α] {p : α → Bool} {a : α} (kept : p a = true) :
    ∀ as : List α, (as.filter p).takeWhile (· != a) = (as.takeWhile (· != a)).filter p
  | [] => rfl
  | b :: as => by
      have ih := takeWhile_ne_filter kept as
      by_cases stop : b = a
      · subst stop
        simp [kept]
      · by_cases h : p b = true
        · simp [h, stop, ih]
        · simp [h, stop, ih]

/-- The rivals of a name are found among the names with its base. -/
theorem rivals_eq (names : List String) (name : String) :
    rivals names name = ((names.filter (sameBase name)).takeWhile (· != name)).eraseDups := by
  have self : sameBase name name = true := beq_self_eq_true _
  rw [rivals, takeWhile_ne_filter self, eraseDups_filter]

theorem takeWhile_at_first (new : name ∉ before) (after : List String) :
    (before ++ name :: after).takeWhile (· != name) = before := by
  have all : ∀ other ∈ before, (other != name) = true := by
    intro other mem
    rw [bne_iff_ne]
    rintro rfl
    exact new mem
  rw [List.takeWhile_append_of_pos all]
  simp

theorem length_ofBase (before : List String) (name : String) :
    (ofBase (identifiersOf before) (baseIdentifier name)).length =
      (before.eraseDups.filter (sameBase name)).length := by
  rw [← map_fst_identifiersOf, List.filter_map, List.length_map]
  rfl

/-! ## Numbers count rivals -/

/-- The constant of a name is the candidate whose place is the number of its rivals. -/
theorem lookup_eq_numbered (mem : name ∈ names) : (identifiersOf names).lookup name =
    some (numbered (baseIdentifier name) (rivals names name).length) := by
  obtain ⟨before, after, rfl, new⟩ := List.eq_append_cons_of_mem mem
  rw [lookup_at_first new, ((inSequence_identifiersOf before).endsAt name).firstFree_eq,
    length_ofBase, rivals, takeWhile_at_first new]

theorem numbered_eq (base : String) (k : Nat) :
    numbered base k = if k = 0 then base else base ++ "_" ++ toString (k + 1) := by
  cases k with
  | zero => rfl
  | succ k => rfl

/-- **Numbers count only names with the same base.** A name has its base as constant if no
name with that base comes before it, and the base with a number otherwise, which is one more
than there are such names. No name with another base has a candidate of this one, so names with
other bases may be added, left out or moved. -/
theorem identifier_counts_rivals (names : List String) (name : String) (mem : name ∈ names) :
    ∃ ids, identifiers (names.map Json.str) = .ok ids ∧
      ids.lookup name = some (
        if (rivals names name).length = 0 then baseIdentifier name
        else baseIdentifier name ++ "_" ++ toString ((rivals names name).length + 1)) ∧
      (∀ other id, baseIdentifier other ≠ baseIdentifier name → ids.lookup other = some id →
        ∀ j, id ≠ numbered (baseIdentifier name) j) ∧
      ∀ others : List String, others.filter (sameBase name) = names.filter (sameBase name) →
        ∃ ids', identifiers (others.map Json.str) = .ok ids' ∧
          ids'.lookup name = ids.lookup name := by
  refine ⟨identifiersOf names, identifiers_eq_ok rfl, ?_, ?_, ?_⟩
  · rw [lookup_eq_numbered mem, numbered_eq]
  · rintro other id different found j rfl
    have mem := mem_of_lookup found
    obtain ⟨k, -, candidate⟩ := (inSequence_identifiersOf names).numbered_of_mem mem
    exact different (baseIdentifier_eq_of_numbered candidate)
  · intro others same
    have self : sameBase name name = true := beq_self_eq_true _
    have kept : name ∈ others.filter (sameBase name) :=
      same ▸ List.mem_filter.mpr ⟨mem, self⟩
    refine ⟨identifiersOf others, identifiers_eq_ok rfl, ?_⟩
    rw [lookup_eq_numbered mem, lookup_eq_numbered (List.mem_filter.mp kept).1, rivals_eq,
      rivals_eq, same]

theorem identifier_counts_rivals_ab :
    ∃ ids, identifiers (["AB", "x", "Ab", "ab"].map Json.str) = .ok ids ∧
      ids.lookup "ab" = some "_AB_3" ∧
      ∃ ids', identifiers (["AB", "Ab", "X_", "ab"].map Json.str) = .ok ids' ∧
        ids'.lookup "ab" = some "_AB_3" := by
  obtain ⟨ids, assigned, found, -, stable⟩ :=
    identifier_counts_rivals ["AB", "x", "Ab", "ab"] "ab" (by decide)
  have number : ids.lookup "ab" = some "_AB_3" := found.trans (by decide)
  obtain ⟨ids', assigned', same⟩ := stable ["AB", "Ab", "X_", "ab"] (by decide)
  exact ⟨ids, assigned, number, ids', assigned', same.trans number⟩

end SelectorRouter.Constant
