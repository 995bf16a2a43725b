import Mathlib.Data.List.Nodup
import SelectorRouter.Module
import SelectorRouter.Proofs.Dispatch.Shape

/-!
# Accepted modules

A list of modules is accepted when its names and addresses pass the check, its selectors
can be collected and none of them share a method id. Everything the emitted code relies on
follows here once: the names tell the modules apart, each module has an address, and the
collected selectors are those of all modules in strictly ascending order, so that a
method id has one owner at most.
-/

namespace SelectorRouter

open Fallible (valueOr bind_eq_ok mapM_eq_ok_iff)
open Dispatch.Tree (Ascending)

/-- A method id takes four bytes. -/
theorem methodId_lt (signature : String) : methodId signature < methodIdLimit := by
  rw [methodId, methodIdLimit]
  generalize methodIdBytes signature = bytes
  unfold FourBytes.toNat
  split
  case h_1 a b c d =>
      have := a.toNat_lt
      have := b.toNat_lt
      have := c.toNat_lt
      have := d.toNat_lt
      omega
  case h_2 => decide

theorem Selector.methodId_le_trans (a b c : Selector) (first : decide (a.methodId ≤ b.methodId))
    (second : decide (b.methodId ≤ c.methodId)) : decide (a.methodId ≤ c.methodId) = true := by
  rw [decide_eq_true_eq] at first second ⊢
  exact Int.le_trans first second

theorem Selector.methodId_le_total (a b : Selector) :
    (decide (a.methodId ≤ b.methodId) || decide (b.methodId ≤ a.methodId)) = true := by
  rw [Bool.or_eq_true, decide_eq_true_eq, decide_eq_true_eq]
  exact Int.le_total _ _

/-- Sorting puts method ids in order. -/
theorem Selector.sorted_mergeSort (ss : List Selector) :
    (ss.mergeSort fun a b => a.methodId ≤ b.methodId).Pairwise
      fun a b => a.methodId ≤ b.methodId :=
  (List.pairwise_mergeSort methodId_le_trans methodId_le_total ss).imp of_decide_eq_true

/-! ## Selectors of one module -/

namespace Module

/-- The selectors of a module whose functions all have a signature. -/
def routed (filter : FunctionFilter) (m : Module) : List Selector :=
  valueOr [] (m.selectors filter)

/-- The checksum address of a module that has one. -/
def shownAddress (m : Module) : String :=
  valueOr "" m.checksumAddress

/-- Does a function of the module that passes the filter have this method id? -/
def Routes (filter : FunctionFilter) (id : Int) (m : Module) : Prop :=
  ∃ f ∈ Function.ofAbi m.abi filter, ∃ signature,
    f.signature = .ok signature ∧ (methodId signature : Int) = id

variable {filter : FunctionFilter} {m : Module} {s : Selector}

theorem selectorOf_eq_ok {f : Function} : m.selectorOf f = .ok s ↔
    ∃ signature, f.signature = .ok signature ∧
      s = ⟨m.name, f.name, signature, methodId signature⟩ := by
  rw [selectorOf, bind_eq_ok]
  constructor
  · rintro ⟨signature, eq, h⟩
    exact ⟨signature, eq, (Except.ok.inj h).symm⟩
  · rintro ⟨signature, eq, rfl⟩
    exact ⟨signature, eq, rfl⟩

theorem mem_routed (h : m.selectors filter = .ok (m.routed filter)) :
    s ∈ m.routed filter ↔ ∃ f ∈ Function.ofAbi m.abi filter, ∃ signature,
      f.signature = .ok signature ∧ s = ⟨m.name, f.name, signature, methodId signature⟩ := by
  obtain ⟨each, eq⟩ := (mapM_eq_ok_iff default).mp h
  rw [eq, List.mem_map]
  constructor
  · rintro ⟨f, hf, rfl⟩
    obtain ⟨signature, sig⟩ := selectorOf_eq_ok.mp (each f hf)
    exact ⟨f, hf, signature, sig⟩
  · rintro ⟨f, hf, signature⟩
    exact ⟨f, hf, by rw [selectorOf_eq_ok.mpr signature, Fallible.valueOr_ok]⟩

theorem module_of_mem_routed (h : m.selectors filter = .ok (m.routed filter))
    (hs : s ∈ m.routed filter) : s.module = m.name := by
  obtain ⟨f, -, signature, -, rfl⟩ := (mem_routed h).mp hs
  rfl

theorem inRange_of_mem_routed (h : m.selectors filter = .ok (m.routed filter))
    (hs : s ∈ m.routed filter) : 0 ≤ s.methodId ∧ s.methodId < methodIdLimit := by
  obtain ⟨f, -, signature, -, rfl⟩ := (mem_routed h).mp hs
  have := methodId_lt signature
  exact ⟨Int.natCast_nonneg _, Int.ofNat_lt.mpr this⟩

theorem routes_iff (h : m.selectors filter = .ok (m.routed filter)) {id : Int} :
    m.Routes filter id ↔ ∃ s ∈ m.routed filter, s.methodId = id := by
  constructor
  · rintro ⟨f, hf, signature, sig, rfl⟩
    exact ⟨_, (mem_routed h).mpr ⟨f, hf, signature, sig, rfl⟩, rfl⟩
  · rintro ⟨s, hs, rfl⟩
    obtain ⟨f, hf, signature, sig, rfl⟩ := (mem_routed h).mp hs
    exact ⟨f, hf, signature, sig, rfl⟩

/-! ## Lists of modules -/

/-- Modules that pass every check, and their selectors by method id. -/
structure Accepted (router : String) (filter : FunctionFilter) (modules : List Module)
    (ss : List Selector) : Prop where
  checked : check router modules = .ok ()
  collected : collect router filter modules = .ok ss
  valid : Selector.validate ss = .ok ()

variable {router : String} {modules : List Module} {ss : List Selector}

/-- What the check of names and addresses says, from any point on. -/
theorem checkFrom_eq_ok : ∀ {modules : List Module} {seen : List Json.Key},
    checkFrom router seen modules = .ok () →
      (modules.map (·.name.key?)).Nodup ∧
        (∀ m ∈ modules, ∀ key ∈ seen, m.name.key? ≠ some key) ∧
        ∀ m ∈ modules, m.checksumAddress = .ok m.shownAddress
  | [], _, _ => by simp
  | m :: modules, seen, h => by
      rw [checkFrom] at h
      split at h
      case h_1 => cases h
      case h_2 key hkey =>
          split at h
          case isTrue => cases h
          case isFalse fresh =>
              split at h
              case h_1 => cases h
              case h_2 address haddress =>
                  obtain ⟨nodup, apart, addresses⟩ := checkFrom_eq_ok h
                  refine ⟨?_, ?_, ?_⟩
                  · rw [List.map_cons, List.nodup_cons, hkey]
                    refine ⟨fun known => ?_, nodup⟩
                    obtain ⟨n, hn, same⟩ := List.mem_map.mp known
                    exact apart n hn key List.mem_cons_self same
                  · intro n hn k hk e
                    rcases List.mem_cons.mp hn with rfl | hn
                    · obtain rfl := Option.some.inj (hkey.symm.trans e)
                      exact fresh (List.contains_iff_mem.mpr hk)
                    · exact apart n hn k (List.mem_cons_of_mem _ hk) e
                  · intro n hn
                    rcases List.mem_cons.mp hn with rfl | hn
                    · exact Fallible.eq_ok_valueOr _ haddress
                    · exact addresses n hn

theorem check_eq_ok (h : check router modules = .ok ()) :
    (modules.map (·.name.key?)).Nodup ∧ ∀ m ∈ modules, m.checksumAddress = .ok m.shownAddress := by
  rw [check] at h
  split at h
  case isTrue => cases h
  case isFalse =>
      obtain ⟨nodup, -, addresses⟩ := checkFrom_eq_ok h
      exact ⟨nodup, addresses⟩

theorem collect_eq_ok (h : collect router filter modules = .ok ss) :
    (∀ m ∈ modules, m.selectors filter = .ok (m.routed filter)) ∧
      ss = (modules.flatMap (routed filter)).mergeSort fun a b => a.methodId ≤ b.methodId := by
  rw [collect] at h
  split at h
  case isTrue => cases h
  case isFalse =>
      obtain ⟨all, each, sorted⟩ := bind_eq_ok.mp h
      obtain ⟨selectors, rfl⟩ := (mapM_eq_ok_iff []).mp each
      exact ⟨selectors, (Except.ok.inj sorted).symm⟩

/-- A sorted list ascends strictly when no method id occurs in it twice. -/
theorem ascending_of_countP : ∀ {ss : List Selector},
    ss.Pairwise (fun a b => a.methodId ≤ b.methodId) →
    (∀ s ∈ ss, ss.countP (fun t => t.methodId == s.methodId) ≤ 1) → Ascending ss
  | [], _, _ => List.Pairwise.nil
  | s :: ss, sorted, once => by
      obtain ⟨first, rest⟩ := List.pairwise_cons.mp sorted
      have once_rest : ∀ r ∈ ss, ss.countP (fun t => t.methodId == r.methodId) ≤ 1 := by
        intro r hr
        have := once r (List.mem_cons_of_mem s hr)
        rw [List.countP_cons] at this
        omega
      refine List.pairwise_cons.mpr ⟨fun r hr => ?_, ascending_of_countP rest once_rest⟩
      have le := first r hr
      have ne : s.methodId ≠ r.methodId := by
        intro e
        have counted : 0 < ss.countP fun t => t.methodId == s.methodId :=
          List.countP_pos_iff.mpr ⟨r, hr, beq_iff_eq.mpr e.symm⟩
        have := once s List.mem_cons_self
        simp only [List.countP_cons, beq_self_eq_true, if_true] at this
        omega
      omega

theorem countP_le_of_validate (h : Selector.validate ss = .ok ()) :
    ∀ s ∈ ss, ss.countP (fun t => t.methodId == s.methodId) ≤ 1 := by
  rw [Selector.validate] at h
  split at h
  case isFalse =>
      rw [Selector.collisionReport] at h
      split at h <;> cases h
  case isTrue none =>
      rw [List.isEmpty_iff, Selector.collisions, List.filter_eq_nil_iff] at none
      intro s hs
      have := none s hs
      rw [Selector.shared, decide_eq_true_eq] at this
      omega

namespace Accepted

variable (h : Accepted router filter modules ss)

include h

theorem address : ∀ m ∈ modules, m.checksumAddress = .ok m.shownAddress :=
  (check_eq_ok h.checked).2

theorem selectors : ∀ m ∈ modules, m.selectors filter = .ok (m.routed filter) :=
  (collect_eq_ok h.collected).1

theorem perm : ss.Perm (modules.flatMap (routed filter)) := by
  rw [(collect_eq_ok h.collected).2]
  exact List.mergeSort_perm _ _

/-- **The selectors of accepted modules ascend strictly.** -/
theorem ascending : Ascending ss := by
  refine ascending_of_countP ?_ (countP_le_of_validate h.valid)
  rw [(collect_eq_ok h.collected).2]
  exact Selector.sorted_mergeSort _

theorem mem_iff {s : Selector} : s ∈ ss ↔ ∃ m ∈ modules, s ∈ m.routed filter := by
  rw [h.perm.mem_iff, List.mem_flatMap]

theorem inRange : ∀ s ∈ ss, 0 ≤ s.methodId ∧ s.methodId < methodIdLimit := by
  intro s hs
  obtain ⟨m, hm, hs⟩ := h.mem_iff.mp hs
  exact inRange_of_mem_routed (h.selectors m hm) hs

/-- Names tell modules apart. -/
theorem eq_of_name {m n : Module} (hm : m ∈ modules) (hn : n ∈ modules)
    (e : m.name = n.name) : m = n :=
  List.inj_on_of_nodup_map (check_eq_ok h.checked).1 hm hn (congrArg Json.key? e)

theorem eq_of_methodId {s t : Selector} (hs : s ∈ ss) (ht : t ∈ ss)
    (e : s.methodId = t.methodId) : s = t := by
  have distinct : (ss.map (·.methodId)).Nodup :=
    List.pairwise_map.mpr (h.ascending.imp fun lt => Int.ne_of_lt lt)
  exact List.inj_on_of_nodup_map distinct hs ht e

/-- **A method id has one owner at most.** -/
theorem owner_unique {m n : Module} {id : Int} (hm : m ∈ modules) (hn : n ∈ modules)
    (routesM : m.Routes filter id) (routesN : n.Routes filter id) : m = n := by
  obtain ⟨s, hs, rfl⟩ := (routes_iff (h.selectors m hm)).mp routesM
  obtain ⟨t, ht, e⟩ := (routes_iff (h.selectors n hn)).mp routesN
  -- one selector cannot name two modules
  have same : s = t :=
    h.eq_of_methodId (h.mem_iff.mpr ⟨m, hm, hs⟩) (h.mem_iff.mpr ⟨n, hn, ht⟩) e.symm
  refine h.eq_of_name hm hn ?_
  rw [← module_of_mem_routed (h.selectors m hm) hs, same,
    module_of_mem_routed (h.selectors n hn) ht]

end Accepted

/-! ## Lists with a single function -/

/-- A single function collides with no other one. -/
theorem accepted_of_single {s : Selector} {lists : List (List Selector)}
    (checked : check router modules = .ok ())
    (selectors : modules.mapM (·.selectors filter) = .ok lists) (single : lists.flatten = [s]) :
    Accepted router filter modules [s] where
  checked := checked
  collected := by
    have nonempty : modules.isEmpty = false := by
      cases modules with
      | nil => cases checked
      | cons m modules => rfl
    rw [collect, nonempty, selectors]
    show (Except.ok (lists.flatten.mergeSort _) : Except Fault (List Selector)) = _
    rw [single, List.mergeSort_singleton]
  valid := by
    have alone : Selector.shared [s] s = false := by
      simp [Selector.shared]
    have none : Selector.collisions [s] = [] := by
      rw [Selector.collisions, List.filter_cons, alone, List.filter_nil, if_neg Bool.false_ne_true]
    rw [Selector.validate, none]
    rfl

/-! ## Functions without inputs -/

/-- A module of functions without inputs. -/
def plain (name address : String) (functions : List String) : Module :=
  ⟨.str name, .str address,
    functions.map fun f => .obj [("type", .str "function"), ("name", .str f)]⟩

/-- The selector of a function without inputs. -/
def plainSelector (name function : String) : Selector :=
  ⟨.str name, function, function ++ "()", methodId (function ++ "()")⟩

theorem signature_plain (function : String) :
    (⟨function, .null⟩ : Function).signature = .ok (function ++ "()") := by
  have items : Function.inputItems .null = .ok [] := rfl
  have params : Parameter.ofJsons [] = .ok [] := by rw [Parameter.ofJsons]
  rw [Function.signature, Function.signatureOf, items]
  simp only [bind, Except.bind, params]
  show Except.ok (function ++ "(" ++ "" ++ ")") = _
  rw [String.append_empty, String.append_assoc]
  rfl

theorem ofAbi_plain (name address : String) : ∀ functions : List String,
    Function.ofAbi (plain name address functions).abi FunctionFilter.all =
      functions.map fun f => ⟨f, .null⟩
  | [] => rfl
  | f :: functions =>
      congrArg (List.cons (⟨f, .null⟩ : Function)) (ofAbi_plain name address functions)

theorem selectors_plain (name address : String) (functions : List String) :
    (plain name address functions).selectors FunctionFilter.all =
      .ok (functions.map (plainSelector name)) := by
  have each : ∀ f ∈ functions.map fun f => (⟨f, .null⟩ : Function),
      (plain name address functions).selectorOf f = .ok (plainSelector name f.name) := by
    refine List.forall_mem_map.mpr fun f _ => ?_
    rw [selectorOf, signature_plain]
    rfl
  rw [selectors, ofAbi_plain, Fallible.mapM_eq_ok_map each, List.map_map]
  rfl

theorem routed_plain (name address : String) (functions : List String) :
    (plain name address functions).routed FunctionFilter.all =
      functions.map (plainSelector name) := by
  rw [routed, selectors_plain, Fallible.valueOr_ok]

theorem mem_ofAbi_plain {name address function : String} {functions : List String}
    (h : function ∈ functions) :
    ⟨function, .null⟩ ∈ Function.ofAbi (plain name address functions).abi FunctionFilter.all := by
  rw [ofAbi_plain]
  exact List.mem_map_of_mem h

/-- Each of the functions is routed by its method id. -/
theorem routes_plain {name address function : String} {functions : List String}
    (h : function ∈ functions) :
    (plain name address functions).Routes FunctionFilter.all (methodId (function ++ "()") : Int) :=
  ⟨⟨function, .null⟩, mem_ofAbi_plain h, _, signature_plain function, rfl⟩

/-- A module without functions. -/
def proxyAt (address : String) : Module :=
  plain "Proxy" address []

/-- A token of any name with the function `name()`. -/
def tokenNamed (name address : String) : Module :=
  plain name address ["name"]

def tokenAt (address : String) : Module :=
  tokenNamed "Token" address

def sampleAddress : String :=
  "0x70997970C51812dc3A010C7d01b50e0d17dc79C8"

def nameSelector : Selector :=
  ⟨.str "Token", "name", "name()", methodId "name()"⟩

theorem selectors_proxyAt (address : String) :
    (proxyAt address).selectors FunctionFilter.all = .ok [] := rfl

theorem signature_name : (⟨"name", .null⟩ : Function).signature = .ok "name()" :=
  signature_plain "name"

theorem selectors_tokenNamed (name address : String) :
    (tokenNamed name address).selectors FunctionFilter.all =
      .ok [{ nameSelector with module := .str name }] :=
  selectors_plain name address ["name"]

/-- A single token of any name is accepted. -/
theorem accepted_tokenNamed (name : String) : Accepted "Router" FunctionFilter.all
    [tokenNamed name sampleAddress] [{ nameSelector with module := .str name }] := by
  have selectors : [tokenNamed name sampleAddress].mapM (·.selectors FunctionFilter.all) =
      .ok [[{ nameSelector with module := .str name }]] := by
    rw [List.mapM_cons, selectors_tokenNamed]
    rfl
  exact accepted_of_single rfl selectors rfl

theorem selectors_tokenAt (address : String) :
    (tokenAt address).selectors FunctionFilter.all = .ok [nameSelector] :=
  selectors_tokenNamed "Token" address

/-- The function of the token is routed by its method id. -/
theorem routes_tokenAt (address : String) :
    (tokenAt address).Routes FunctionFilter.all (methodId "name()" : Int) := by
  have signature : "name()" = "name" ++ "()" := rfl
  rw [signature]
  exact routes_plain (List.mem_singleton_self "name")

/-- Two modules may have one address. -/
theorem accepted_proxy_token : Accepted "Router" FunctionFilter.all
    [proxyAt sampleAddress, tokenAt sampleAddress] [nameSelector] := by
  have selectors : [proxyAt sampleAddress, tokenAt sampleAddress].mapM
      (·.selectors FunctionFilter.all) = .ok [[], [nameSelector]] := by
    rw [List.mapM_cons, List.mapM_cons, selectors_tokenAt, selectors_proxyAt]
    rfl
  exact accepted_of_single rfl selectors rfl

end Module

end SelectorRouter
