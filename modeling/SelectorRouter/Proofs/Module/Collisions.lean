import Mathlib.Data.List.NodupEquivFin
import SelectorRouter.Proofs.Module.Collect

/-!
# Reports of collisions

The functions behind a router have places: those of a module in the order of its ABI, and
modules in their order. Collisions are reported when two places have the same method id, and
then each place whose id is shared is reported once, by ascending ids and among equal ids by
places. The sort keeps equal ids in order, so it can be followed with the places written next to
the selectors: `exists_numbered_sort`. What is shared is counted before the sort or after it.
-/

namespace SelectorRouter

open Fallible (mapM_eq_ok_iff mapM_eq_ok_map valueOr)

/-- A function of a module, as a selector shows it. -/
structure Selector.Describes (s : Selector) (occurrence : Module × Function) : Prop where
  module : s.module = occurrence.1.name
  name : s.name = occurrence.2.name
  signed : occurrence.2.signature = .ok s.signature
  methodId : s.methodId = SelectorRouter.methodId s.signature

namespace Module

/-- The functions that pass the filter, with their modules; a place is an index of this list. -/
def occurrences (filter : FunctionFilter) (modules : List Module) : List (Module × Function) :=
  modules.flatMap fun m => (Function.ofAbi m.abi filter).map fun f => (m, f)

/-- The method id of the function at a place. -/
def idAt (os : List (Module × Function)) (place : Nat) : Option Int :=
  os[place]?.bind fun o => o.2.methodId?

/-- Does the function at another place have the same method id? -/
def SharedAt (os : List (Module × Function)) (place : Nat) : Prop :=
  ∃ id, idAt os place = some id ∧ ∃ other ≠ place, idAt os other = some id

/-- A report on the functions at some places. -/
structure Reports (os : List (Module × Function)) (places : List Nat) (ss : List Selector) :
    Prop where
  described : List.Forall₂ (fun place s => ∃ o, os[place]? = some o ∧ s.Describes o) places ss
  once : places.Nodup
  shared : ∀ place, place ∈ places ↔ SharedAt os place
  ordered : places.Pairwise fun i j => ∃ a b, idAt os i = some a ∧ idAt os j = some b ∧
    (a < b ∨ a = b ∧ i < j)

end Module

variable {filter : FunctionFilter} {modules : List Module} {os : List (Module × Function)}
  {ss all : List Selector} {s : Selector}

/-! ## Sorting with places -/

namespace Selector

/-- No two selectors have one place. -/
theorem nodup_places {numbered : List (Selector × Nat)} (perm : numbered.Perm all.zipIdx) :
    (numbered.map (·.2)).Nodup := by
  rw [(perm.map _).nodup_iff, List.zipIdx_map_snd]
  exact List.nodup_range'

/-- The sort by method id, with the place of each selector before the sort. -/
theorem exists_numbered_sort (all : List Selector) : ∃ numbered : List (Selector × Nat),
    numbered.Perm all.zipIdx ∧
      numbered.map (·.1) = (all.mergeSort fun a b => a.methodId ≤ b.methodId) ∧
      numbered.Pairwise fun p q =>
        p.1.methodId < q.1.methodId ∨ p.1.methodId = q.1.methodId ∧ p.2 < q.2 := by
  let le : Selector → Selector → Bool := fun a b => a.methodId ≤ b.methodId
  have perm := List.mergeSort_perm all.zipIdx (List.zipIdxLE le)
  refine ⟨_, perm, List.mergeSort_zipIdx, ?_⟩
  have sorted : (all.zipIdx.mergeSort (List.zipIdxLE le)).Pairwise fun p q =>
      List.zipIdxLE le p q = true :=
    List.pairwise_mergeSort (List.zipIdxLE_trans methodId_le_trans)
      (List.zipIdxLE_total methodId_le_total) all.zipIdx
  have places := List.pairwise_map.mp (nodup_places perm)
  refine (sorted.and places).imp fun {p q} ⟨before, apart⟩ => ?_
  simp only [List.zipIdxLE, le, decide_eq_true_eq] at before
  grind

theorem shared_of_perm (perm : ss.Perm all) : shared ss = shared all := by
  funext s
  rw [shared, shared, perm.countP_eq]

theorem duplicate_iff_getElem? {α : Type} {a : α} {l : List α} : l.Duplicate a ↔
    ∃ i j : Nat, i < j ∧ l[i]? = some a ∧ l[j]? = some a := by
  rw [List.duplicate_iff_exists_distinct_get]
  constructor
  · rintro ⟨⟨i, hi⟩, ⟨j, hj⟩, less, first, second⟩
    exact ⟨i, j, less, List.getElem?_eq_some_iff.mpr ⟨hi, first.symm⟩,
      List.getElem?_eq_some_iff.mpr ⟨hj, second.symm⟩⟩
  · rintro ⟨i, j, less, first, second⟩
    obtain ⟨hi, first⟩ := List.getElem?_eq_some_iff.mp first
    obtain ⟨hj, second⟩ := List.getElem?_eq_some_iff.mp second
    exact ⟨⟨i, hi⟩, ⟨j, hj⟩, less, first.symm, second.symm⟩

/-- A method id is shared when another place has it. -/
theorem shared_iff {place : Nat} (h : (all.map (·.methodId))[place]? = some s.methodId) :
    shared all s = true ↔
      ∃ other ≠ place, (all.map (·.methodId))[other]? = some s.methodId := by
  have counted : shared all s = true ↔ (all.map (·.methodId)).Duplicate s.methodId := by
    rw [shared, decide_eq_true_eq, List.duplicate_iff_two_le_count, List.count, List.countP_map]
    rfl
  rw [counted, duplicate_iff_getElem?]
  constructor
  · rintro ⟨i, j, less, first, second⟩
    by_cases same : i = place
    · exact ⟨j, by omega, second⟩
    · exact ⟨i, same, first⟩
  · rintro ⟨other, apart, found⟩
    rcases Nat.lt_or_gt_of_ne apart with less | less
    · exact ⟨other, place, less, found, h⟩
    · exact ⟨place, other, less, h, found⟩

end Selector

/-! ## Places of functions -/

namespace Module

/-- The selector of a function of a module. -/
def selectorAt (o : Module × Function) : Selector :=
  valueOr default (o.1.selectorOf o.2)

theorem describes_selectorAt (extracted : ∀ m ∈ modules, ∃ ss, m.selectors filter = .ok ss) :
    ∀ o ∈ occurrences filter modules, (selectorAt o).Describes o := by
  intro o ho
  obtain ⟨m, hm, member⟩ := List.mem_flatMap.mp ho
  obtain ⟨f, hf, rfl⟩ := List.mem_map.mp member
  obtain ⟨ss, selected⟩ := extracted m hm
  obtain ⟨s, made⟩ := Fallible.exists_ok_of_mapM selected f hf
  obtain ⟨signature, signed, rfl⟩ := selectorOf_eq_ok.mp made
  rw [selectorAt, made, Fallible.valueOr_ok]
  exact ⟨rfl, rfl, signed, rfl⟩

theorem routed_eq_map {m : Module} (h : ∃ ss, m.selectors filter = .ok ss) :
    m.routed filter = (Function.ofAbi m.abi filter).map fun f => selectorAt (m, f) := by
  obtain ⟨ss, selected⟩ := h
  obtain ⟨-, rfl⟩ := (mapM_eq_ok_iff default).mp selected
  rw [routed, selected, Fallible.valueOr_ok]
  rfl

/-- The selectors of the modules are those of their functions, place by place. -/
theorem flatMap_routed_eq (extracted : ∀ m ∈ modules, ∃ ss, m.selectors filter = .ok ss) :
    modules.flatMap (routed filter) = (occurrences filter modules).map selectorAt := by
  rw [occurrences, List.map_flatMap]
  refine List.flatMap_congr fun m hm => ?_
  rw [routed_eq_map (extracted m hm), List.map_map]
  rfl

theorem idAt_eq (described : ∀ o ∈ os, (selectorAt o).Describes o)
    (place : Nat) : idAt os place = ((os.map selectorAt).map (·.methodId))[place]? := by
  rw [idAt, List.map_map, List.getElem?_map]
  cases found : os[place]? with
  | none => rfl
  | some o =>
      obtain ⟨-, -, signed, id⟩ := described o (List.mem_of_getElem? found)
      rw [Option.bind_some, Option.map_some, Function.comp_apply, id, Function.methodId?, signed]

theorem sharedAt_iff (described : ∀ o ∈ os, (selectorAt o).Describes o) {place : Nat}
    (found : (os.map selectorAt)[place]? = some s) :
    SharedAt os place ↔ Selector.shared (os.map selectorAt) s = true := by
  have id : ((os.map selectorAt).map (·.methodId))[place]? = some s.methodId := by
    rw [List.getElem?_map, found]
    rfl
  rw [Selector.shared_iff id]
  simp only [SharedAt, idAt_eq described, id, Option.some.injEq, exists_eq_left']

/-- There is a function at a place whose method id is shared. -/
theorem exists_of_sharedAt (described : ∀ o ∈ os, (selectorAt o).Describes o) {place : Nat}
    (h : SharedAt os place) : ∃ s, (os.map selectorAt)[place]? = some s := by
  obtain ⟨id, found, -⟩ := h
  rw [idAt_eq described, List.getElem?_map, Option.map_eq_some_iff] at found
  exact ⟨found.choose, found.choose_spec.1⟩

theorem exists_sorted (router : String) (nonempty : modules ≠ [])
    (extracted : ∀ m ∈ modules, ∃ ss, m.selectors filter = .ok ss) :
    ∃ ss, collect router filter modules = .ok ss ∧
      ss = ((occurrences filter modules).map selectorAt).mergeSort
        fun a b => a.methodId ≤ b.methodId := by
  have each : ∀ m ∈ modules, m.selectors filter = .ok (m.routed filter) := by
    intro m hm
    obtain ⟨ss, selected⟩ := extracted m hm
    exact Fallible.eq_ok_valueOr [] selected
  refine ⟨_, ?_, rfl⟩
  rw [collect, if_neg (by rwa [List.isEmpty_iff]), mapM_eq_ok_map each,
    ← flatMap_routed_eq extracted, List.flatMap_def]
  rfl

/-- The collisions of sorted selectors are a report on the functions that they are of. -/
theorem exists_reports (described : ∀ o ∈ os, (selectorAt o).Describes o)
    (sorted : ss = (os.map selectorAt).mergeSort fun a b => a.methodId ≤ b.methodId) :
    ∃ places, Reports os places (Selector.collisions ss) := by
  obtain ⟨numbered, perm, values, ordered⟩ := Selector.exists_numbered_sort (os.map selectorAt)
  have at_place : ∀ p ∈ numbered, (os.map selectorAt)[p.2]? = some p.1 :=
    fun p hp => List.mem_zipIdx_iff_getElem?.mp (perm.mem_iff.mp hp)
  have id_at : ∀ p ∈ numbered, idAt os p.2 = some p.1.methodId := by
    intro p hp
    rw [idAt_eq described, List.getElem?_map, at_place p hp]
    rfl
  -- sorting does not change which ids are shared
  have counted : Selector.shared ss = Selector.shared (os.map selectorAt) := by
    rw [sorted]
    exact Selector.shared_of_perm (List.mergeSort_perm _ _)
  let reported := numbered.filter fun p => Selector.shared (os.map selectorAt) p.1
  have collisions : Selector.collisions ss = reported.map (·.1) := by
    rw [Selector.collisions, counted, sorted, ← values, List.filter_map]
    rfl
  have mem_reported : ∀ p ∈ reported,
      p ∈ numbered ∧ Selector.shared (os.map selectorAt) p.1 = true :=
    fun p hp => List.mem_filter.mp hp
  refine ⟨reported.map (·.2), ?_, ?_, fun place => ?_, ?_⟩
  · rw [collisions, List.forall₂_map_left_iff, List.forall₂_map_right_iff, List.forall₂_same]
    intro p hp
    have found := at_place p (mem_reported p hp).1
    rw [List.getElem?_map, Option.map_eq_some_iff] at found
    obtain ⟨o, at_place, selector⟩ := found
    exact ⟨o, at_place, selector ▸ described o (List.mem_of_getElem? at_place)⟩
  · exact (Selector.nodup_places perm).sublist (List.filter_sublist.map _)
  · rw [List.mem_map]
    constructor
    · rintro ⟨p, hp, rfl⟩
      obtain ⟨mem, shared⟩ := mem_reported p hp
      exact (sharedAt_iff described (at_place p mem)).mpr shared
    · intro shared
      obtain ⟨s, found⟩ := exists_of_sharedAt described shared
      refine ⟨(s, place), List.mem_filter.mpr ⟨?_, (sharedAt_iff described found).mp shared⟩, rfl⟩
      exact perm.mem_iff.mpr (List.mem_zipIdx_iff_getElem?.mpr found)
  · refine List.pairwise_map.mpr ((ordered.filter _).imp_of_mem fun {p q} hp hq before => ?_)
    exact ⟨_, _, id_at p (mem_reported p hp).1, id_at q (mem_reported q hq).1, before⟩

/-- A report is empty when no method id is shared. -/
theorem Reports.eq_nil_iff {places : List Nat}
    (h : Reports os places ss) : ss = [] ↔ ¬ ∃ place, SharedAt os place := by
  have length := h.described.length_eq
  rw [← List.length_eq_zero_iff, ← length, List.length_eq_zero_iff, List.eq_nil_iff_forall_not_mem,
    not_exists]
  exact forall_congr' fun place => not_congr (h.shared place)

/-- **Collisions are reported completely and in order.** The selectors of modules whose
functions all have signatures are collected. They are refused exactly when two places have the
same method id, and then the report lists every place whose id is shared, once, by ascending
ids and among equal ids in the order of the modules and of their ABIs. -/
theorem collisions_reported (router : String) (nonempty : modules ≠ [])
    (extracted : ∀ m ∈ modules, ∃ ss, m.selectors filter = .ok ss) :
    ∃ ss, collect router filter modules = .ok ss ∧
      ((∃ collisions hint, Selector.validate ss = .error (.selectorCollision collisions hint)) ↔
        ∃ place, SharedAt (occurrences filter modules) place) ∧
      ∀ fault, Selector.validate ss = .error fault → ∃ places collisions,
        fault = .selectorCollision collisions (some Selector.renameHint) ∧
          Reports (occurrences filter modules) places collisions := by
  obtain ⟨ss, collected, sorted⟩ := exists_sorted router nonempty extracted
  obtain ⟨places, reports⟩ := exists_reports (describes_selectorAt extracted) sorted
  have accepted : (ss.map (·.methodId)).Nodup ↔
      ¬ ∃ place, SharedAt (occurrences filter modules) place := by
    rw [← Selector.collisions_eq_nil_iff, reports.eq_nil_iff]
  refine ⟨ss, collected, ?_⟩
  rw [Selector.validate_eq (inRange_of_collect collected)]
  refine ⟨⟨?_, fun shared => ?_⟩, fun fault refused => ?_⟩
  · rintro ⟨collisions, hint, refused⟩
    by_contra unshared
    rw [if_pos (accepted.mpr unshared)] at refused
    cases refused
  · exact ⟨_, _, if_neg fun distinct => accepted.mp distinct shared⟩
  · split at refused
    case isTrue => cases refused
    case isFalse => exact ⟨places, _, (Except.error.inj refused).symm, reports⟩

/-- Two modules have a function of the same signature, and a module without functions stands
between them: both functions are reported. -/
theorem collisions_reported_tokens : ∃ ss places collisions,
    collect "Router" .all [tokenNamed "First" sampleAddress, proxyAt sampleAddress,
      tokenNamed "Second" sampleAddress] = .ok ss ∧
    Selector.validate ss = .error (.selectorCollision collisions (some Selector.renameHint)) ∧
    Reports (occurrences .all [tokenNamed "First" sampleAddress, proxyAt sampleAddress,
      tokenNamed "Second" sampleAddress]) places collisions ∧ 0 ∈ places ∧ 1 ∈ places := by
  have id : (⟨"name", .null⟩ : Function).methodId? = some (methodId "name()" : Int) := by
    rw [Function.methodId?, signature_name]
  have extracted : ∀ m ∈ [tokenNamed "First" sampleAddress, proxyAt sampleAddress,
      tokenNamed "Second" sampleAddress], ∃ ss, m.selectors FunctionFilter.all = .ok ss := by
    simp only [List.forall_mem_cons]
    exact ⟨⟨_, selectors_tokenNamed _ _⟩, ⟨_, selectors_proxyAt _⟩, ⟨_, selectors_tokenNamed _ _⟩,
      List.forall_mem_nil _⟩
  obtain ⟨ss, collected, refused_iff, report⟩ :=
    collisions_reported "Router" (List.cons_ne_nil _ _) extracted
  have first : SharedAt (occurrences .all [tokenNamed "First" sampleAddress,
      proxyAt sampleAddress, tokenNamed "Second" sampleAddress]) 0 :=
    ⟨_, id, 1, by decide, id⟩
  have second : SharedAt (occurrences .all [tokenNamed "First" sampleAddress,
      proxyAt sampleAddress, tokenNamed "Second" sampleAddress]) 1 :=
    ⟨_, id, 0, by decide, id⟩
  obtain ⟨collisions, hint, refused⟩ := refused_iff.mpr ⟨0, first⟩
  obtain ⟨places, collisions, same, reports⟩ := report _ refused
  rw [same] at refused
  exact ⟨ss, places, collisions, collected, refused, reports, (reports.shared 0).mpr first,
    (reports.shared 1).mpr second⟩

end Module

end SelectorRouter
