import SelectorRouter.Proofs.Diamond.Registry
import SelectorRouter.Proofs.Router.Contexts
import SelectorRouter.Proofs.Router.Routing
import SelectorRouter.Proofs.Router.Texts
import SelectorRouter.Proofs.Template.Contract

/-!
# Warnings about unreachable modules

What the generator says is known in advance: the address of each module, a warning for each
module without a routed function, and the size of the tree. A module without a routed function
is one whose constant stands in no case of the switch, because constants tell modules apart.
Names tell the warnings apart, so none is passed over as seen before. The control word then says
what becomes of the warnings, and nothing else: the text is the same.
-/

namespace SelectorRouter

/-! ## What is said -/

namespace Action

variable {α β : Type}

/-- A loop that says one thing for some of its items. -/
theorem forM_eq_says {f : α → Action Unit} {p : α → Bool} {message : α → Message} :
    ∀ {l : List α}, (∀ a ∈ l, f a = if p a = true then say (message a) else pure ()) →
      l.forM f = ((l.filter p).map message).forM say
  | [], _ => rfl
  | a :: l, h => by
      obtain ⟨first, others⟩ := List.forall_mem_cons.mp h
      have unrolled : (a :: l).forM f = f a >>= fun _ => l.forM f := rfl
      rw [unrolled, first, forM_eq_says others]
      by_cases said : p a = true
      · rw [if_pos said, List.filter_cons_of_pos said]
        rfl
      · rw [if_neg said, List.filter_cons_of_neg said]
        rfl

theorem ofResult_ok_bind (a : α) (f : α → Action β) : (ofResult (.ok a) >>= f) = f a := rfl

/-- Warnings are all shown when they differ from each other and from those seen before. -/
theorem fresh_eq_map : ∀ {warnings : List (Origin × Report)}
    {seen : List (Origin × String × Category)},
    (warnings.map fun w => (w.1, w.2.message, w.2.category)).Nodup →
    (∀ w ∈ warnings, (w.1, w.2.message, w.2.category) ∉ seen) →
      fresh seen warnings = warnings.map (·.2)
  | [], _, _, _ => rfl
  | (origin, report) :: warnings, seen, nodup, new => by
      obtain ⟨apart, nodup⟩ := List.nodup_cons.mp nodup
      obtain ⟨first, others⟩ := List.forall_mem_cons.mp new
      rw [fresh, if_neg first, List.map_cons, fresh_eq_map nodup]
      intro w hw seen
      rcases List.mem_cons.mp seen with same | seen
      · exact apart (List.mem_map.mpr ⟨w, hw, same⟩)
      · exact others w hw seen

end Action

namespace Router

open Constant (identifierOf)
open SelectorRouter.Module (Accepted Emittable routed shownAddress StringNames)
open Code (Literal)

/-- Does no function of the module pass the filter? -/
def idle (filter : FunctionFilter) (m : Module) : Bool :=
  (m.routed filter).isEmpty

/-- The modules whose constant stands in no case of a switch. -/
def uncased (ids : Constant.Identifiers) (cases : List (Literal × String))
    (modules : List Module) : List Module :=
  modules.filter fun m => !cases.any fun c => c.2 == identifierOf ids m.name

variable {r : Request} {ss : List Selector} {ids : Constant.Identifiers} {tree : Dispatch.Tree}
  {t : Template.Sections}

def addressMessage (m : Module) : Message :=
  .line (addressLine m m.shownAddress)

def idleMessage (m : Module) : Message :=
  .warning .generator (unreachable m)

/-- Everything that the generator says about a request that is accepted. -/
def messages (r : Request) (ss : List Selector) (tree : Dispatch.Tree) : List Message :=
  r.modules.map addressMessage ++ ((r.modules.filter (idle r.filter)).map idleMessage ++
    [.line (treeLine r.shownName ss.length tree.depth)])

theorem logAddress_eq_say {m : Module} (h : m.checksumAddress = .ok m.shownAddress) :
    logAddress m = Action.say (addressMessage m) := by
  rw [logAddress, h]
  rfl

theorem warnIfUnreachable_eq_say {m : Module} {filter : FunctionFilter}
    (h : m.selectors filter = .ok (m.routed filter)) : warnIfUnreachable filter m =
      if idle filter m = true then Action.say (idleMessage m) else pure () := by
  rw [warnIfUnreachable, h]
  rfl

/-- **What the generator says and ends in**, for an accepted request. -/
theorem generate_eq_sayThen (h : Accepted r.shownName r.filter r.modules ss) (nonempty : ss ≠ [])
    (built : Dispatch.Tree.build Dispatch.defaultLeafSize ss = .ok tree)
    (sound : tree.check Dispatch.defaultLeafSize = .ok ()) (written : sections r tree = .ok t) :
    generate r = Action.sayThen (messages r ss tree)
      (Template.render (templateOf r.template) t.slots) := by
  have selectors := routedSelectors_eq_ok_iff.mpr ⟨h.collected, h.valid⟩
  have nonempty : ss.isEmpty = false := List.isEmpty_eq_false_iff.mpr nonempty
  have logs : r.modules.forM logAddress = (r.modules.map addressMessage).forM Action.say := by
    have each : ∀ m ∈ r.modules, logAddress m =
        if true = true then Action.say (addressMessage m) else pure () :=
      fun m hm => (logAddress_eq_say (h.address m hm)).trans (if_pos rfl).symm
    rw [Action.forM_eq_says each, List.filter_true]
  have warnings : r.modules.forM (warnIfUnreachable r.filter) =
      ((r.modules.filter (idle r.filter)).map idleMessage).forM Action.say :=
    Action.forM_eq_says fun m hm => warnIfUnreachable_eq_say (h.selectors m hm)
  rw [messages, Action.sayThen_append, Action.sayThen_append, generate, h.checked, selectors,
    Action.ofResult_ok_bind, logs]
  refine congrArg _ (funext fun _ => ?_)
  rw [Action.ofResult_ok_bind, nonempty, if_neg Bool.false_ne_true, warnings]
  refine congrArg _ (funext fun _ => ?_)
  rw [built, Action.ofResult_ok_bind, Action.isDebug_check_bind sound, written,
    Action.sayThen_cons]
  rfl

theorem filterMap_messages (r : Request) (ss : List Selector) (tree : Dispatch.Tree) :
    (messages r ss tree).filterMap Message.warning? =
      (r.modules.filter (idle r.filter)).map fun m => (.generator, unreachable m) := by
  have silent : (r.modules.map addressMessage).filterMap Message.warning? = [] := by
    rw [List.filterMap_map]
    exact List.filterMap_eq_nil_iff.mpr fun m _ => rfl
  rw [messages, List.filterMap_append, List.filterMap_append, silent, List.filterMap_map]
  show [] ++ (List.filterMap (fun m => some (Origin.generator, unreachable m)) _ ++ []) = _
  rw [List.nil_append, List.append_nil, List.filterMap_eq_map']

/-! ## Names tell warnings apart -/

theorem message_unreachable_inj {m n : Module} {first second : String} (hm : m.name = .str first)
    (hn : n.name = .str second) (same : (unreachable m).message = (unreachable n).message) :
    m.name = n.name := by
  have same := congrArg String.toList same
  simp only [unreachable, Report.message, hm, hn, Json.display, String.toList_append,
    List.append_cancel_right_eq, List.append_cancel_left_eq] at same
  rw [hm, hn, String.toList_inj.mp same]

/-- The warnings of a request are all shown where none has been seen. -/
theorem fresh_warnings (h : Accepted r.shownName r.filter r.modules ss)
    (names : StringNames r.modules) :
    Action.fresh [] ((messages r ss tree).filterMap Message.warning?) =
      (r.modules.filter (idle r.filter)).map unreachable := by
  rw [filterMap_messages, Action.fresh_eq_map, List.map_map]
  · rfl
  · rw [List.map_map, List.nodup_map_iff_inj_on ((Diamond.FacetTable.nodup h).filter _)]
    intro m hm n hn same
    have hm := List.mem_of_mem_filter hm
    have hn := List.mem_of_mem_filter hn
    obtain ⟨first, first_name⟩ := names m hm
    obtain ⟨second, second_name⟩ := names n hn
    refine h.eq_of_name hm hn (message_unreachable_inj first_name second_name ?_)
    exact congrArg (fun mark => mark.2.1) same
  · exact fun _ _ => List.not_mem_nil

/-! ## Modules without a case -/

/-- A module has a case exactly when it has a routed function. -/
theorem any_case_iff (h : Accepted r.shownName r.filter r.modules ss)
    (named : Constant.Named ids r.modules) {m : Module} (hm : m ∈ r.modules) :
    ((ss.map (Dispatch.caseOf ids)).any fun c => c.2 == identifierOf ids m.name) = true ↔
      m.routed r.filter ≠ [] := by
  rw [List.any_map, List.any_eq_true]
  constructor
  · rintro ⟨s, hs, same⟩
    obtain ⟨k, hk, routed⟩ := h.mem_iff.mp hs
    have owner := Module.module_of_mem_routed (h.selectors k hk) routed
    -- the case belongs to the module of the selector, and the constant tells which one that is
    have same : identifierOf ids k.name = identifierOf ids m.name := owner ▸ beq_iff_eq.mp same
    exact named.apart k hk m hm same ▸ List.ne_nil_of_mem routed
  · intro nonempty
    obtain ⟨s, hs⟩ := List.exists_mem_of_ne_nil _ nonempty
    refine ⟨s, h.mem_iff.mpr ⟨m, hm, hs⟩, beq_iff_eq.mpr ?_⟩
    rw [← Module.module_of_mem_routed (h.selectors m hm) hs]
    rfl

theorem uncased_eq (h : Accepted r.shownName r.filter r.modules ss)
    (named : Constant.Named ids r.modules) :
    uncased ids (ss.map (Dispatch.caseOf ids)) r.modules = r.modules.filter (idle r.filter) := by
  refine List.filter_congr fun m hm => ?_
  rw [Bool.eq_iff_iff, Bool.not_eq_true', Bool.eq_false_iff, Ne, any_case_iff h named hm, not_not,
    idle, List.isEmpty_iff]

theorem mem_uncased_iff (h : Accepted r.shownName r.filter r.modules ss)
    (named : Constant.Named ids r.modules) {m : Module} (hm : m ∈ r.modules) :
    m ∈ uncased ids (ss.map (Dispatch.caseOf ids)) r.modules ↔
      Function.ofAbi m.abi r.filter = [] := by
  obtain ⟨-, routed⟩ := (Fallible.mapM_eq_ok_iff default).mp (h.selectors m hm)
  rw [uncased_eq h named, List.mem_filter, idle, routed, List.isEmpty_iff, List.map_eq_nil_iff]
  exact and_iff_right hm

/-! ## Control words -/

/-- How a request ends in a fresh context for warnings, under each of the control words, when
some modules are worth a warning. -/
structure Ends (r : Request) (warned : List Module) (text : String) (s : Session) : Prop where
  /-- The warnings are shown, one for each of the modules. -/
  shown : (Action.withWarnings .null (generate r) s).1 = .ok text ∧
    (Action.withWarnings .null (generate r) s).2.shown = s.shown ++ warned.map unreachable
  /-- Nothing is shown. -/
  dropped : (Action.withWarnings (.str "none") (generate r) s).1 = .ok text ∧
    (Action.withWarnings (.str "none") (generate r) s).2.shown = s.shown
  /-- The first warning is raised, and without one the text is the same. -/
  raised : (Action.withWarnings (.str "error") (generate r) s).2.shown = s.shown ∧
    (∀ m others, warned = m :: others →
      (Action.withWarnings (.str "error") (generate r) s).1 = .error (.warning (unreachable m))) ∧
    (warned = [] → (Action.withWarnings (.str "error") (generate r) s).1 = .ok text)

/-- A run in a fresh context obeys the policy of the context. -/
theorem obeys_withWarnings (control : Json) {policy : WarningPolicy}
    (known : WarningPolicy.ofControl control = .ok policy) {said : List Message} {text : String}
    (runs : generate r = Action.sayThen said (.ok text)) (s : Session) :
    Action.Obeys (said.filterMap Message.warning?) (.ok text) (s.insideWarnings policy)
      (Action.withWarnings control (generate r) s) := by
  have inside := Action.obeys_sayThen said (.ok text) (s.insideWarnings policy)
  rw [← runs] at inside
  have value : (Action.withWarnings control (generate r) s).1 =
      (generate r (s.insideWarnings policy)).1 := by
    rw [Action.withWarnings_of_ok known]
  have shown : (Action.withWarnings control (generate r) s).2.shown =
      (generate r (s.insideWarnings policy)).2.shown := by
    rw [withWarnings_snd (.of_impartial (impartial_generate r)) known]
  unfold Action.Obeys at inside ⊢
  rw [value, shown]
  exact inside

/-- What the messages of a request come to, when names tell its warnings apart. -/
theorem ends_of_sayThen {said : List Message} {warned : List Module} {text : String}
    (runs : generate r = Action.sayThen said (.ok text))
    (warnings : said.filterMap Message.warning? =
      warned.map fun m => (.generator, unreachable m))
    (fresh : Action.fresh [] (said.filterMap Message.warning?) = warned.map unreachable)
    (s : Session) : Ends r warned text s := by
  obtain ⟨shown, ended⟩ := obeys_withWarnings .null rfl runs s
  obtain ⟨hidden, dropped⟩ := obeys_withWarnings (.str "none") rfl runs s
  obtain ⟨quiet, raised⟩ := obeys_withWarnings (.str "error") rfl runs s
  rw [warnings] at raised
  refine ⟨⟨ended, ?_⟩, ⟨dropped, hidden⟩, quiet, ?_, ?_⟩
  · rw [← fresh]
    exact shown
  · rintro m others rfl
    exact raised
  · rintro rfl
    exact raised

/-! ## The texts -/

theorem Drafted.written (h : Drafted r ss ids tree t)
    (accepted : Accepted r.shownName r.filter r.modules ss) (nonempty : ss ≠ []) :
    sections r tree = .ok t := by
  obtain ⟨selectors, selected, later⟩ := Fallible.bind_eq_ok.mp h.renders.texts
  obtain ⟨grown, built, written⟩ := Fallible.bind_eq_ok.mp later
  obtain rfl := Except.ok.inj (selected.symm.trans (selection_eq_ok_iff.mpr ⟨accepted, nonempty⟩))
  obtain rfl := Except.ok.inj (built.symm.trans h.built)
  exact written

/-- The cases of the switch are those of the selectors. -/
theorem Drafted.cases (h : Drafted r ss ids tree t)
    (emittable : Emittable r.shownName r.filter r.modules ss) :
    (Yul.read t.selectors).map Yul.casesOf = some (ss.map (Dispatch.caseOf ids)) := by
  have writable : ∀ s ∈ tree.inOrder, Dispatch.Writable ids s :=
    h.inOrder.symm ▸ emittable.writable h.named
  rw [h.switched, Dispatch.read_render h.shaped writable, Option.map_some,
    Diamond.casesOf_program h.shaped, h.inOrder]

theorem Drafted.check (h : Drafted r ss ids tree t)
    (accepted : Accepted r.shownName r.filter r.modules ss) :
    tree.check Dispatch.defaultLeafSize = .ok () :=
  Dispatch.Tree.check_eq_ok_iff.mpr ⟨h.shaped, h.inOrder.symm ▸ accepted.ascending⟩

/-- The contract holds the declarations and after them the switch. -/
theorem exists_contract_eq (t : Template.Sections) : ∃ head middle tail,
    t.contract = head ++ t.modules ++ middle ++ t.selectors ++ tail := by
  refine ⟨Text.joinLines Template.headPart ++ t.moduleName.display
      ++ Text.joinLines Template.errorPart,
    Text.joinLines Template.lineEnd
      ++ Template.optionalPart t.diamondConstructor (Text.joinLines Template.constructorHead
        ++ t.diamondConstructor ++ Text.joinLines Template.constructorTail)
      ++ Text.joinLines Template.fallbackPart ++ t.receive ++ Text.joinLines Template.forwardPart,
    Text.joinLines Template.deliveryPart
      ++ Template.optionalPart t.diamondCompat (t.diamondCompat ++ Text.joinLines Template.lineEnd)
      ++ Text.joinLines Template.contractTail, ?_⟩
  simp only [Template.Sections.contract, String.append_assoc]

/-- **Warnings about unreachable modules are exact.** In a fresh context, the built-in contract
of emittable modules is generated with one warning for each module whose constant stands in no
case of the switch, in the order of the modules. These are the modules without a function that
passes the filter. The text does not depend on what becomes of the warnings, unless one is
raised, and it declares a constant for every module, those without a case included. -/
theorem warnings_exact (r : Request) (ss : List Selector)
    (h : Emittable r.shownName r.filter r.modules ss)
    (builtIn : templateOf r.template = Template.router) (s : Session) :
    ∃ ids t declared cases head middle tail,
      Constant.identifiers (r.modules.map (·.name)) = .ok ids ∧ texts r = .ok t ∧
      (Yul.read t.selectors).map Yul.casesOf = some cases ∧
      Solidity.constants t.modules = some declared ∧
      (∀ m ∈ r.modules, ∃ id address, Constant.lookup ids m.name = .ok (some id) ∧
        m.checksumAddress = .ok address ∧ Solidity.addressesOf declared id = [address]) ∧
      (∀ m ∈ r.modules, m ∈ uncased ids cases r.modules ↔ Function.ofAbi m.abi r.filter = []) ∧
      Ends r (uncased ids cases r.modules)
        (head ++ t.modules ++ middle ++ t.selectors ++ tail) s := by
  obtain ⟨ids, tree, t, drafted⟩ := exists_drafted h.accepted h.nonempty h.stringNames
  obtain ⟨head, middle, tail, contract⟩ := exists_contract_eq t
  have runs := generate_eq_sayThen h.accepted h.nonempty drafted.built (drafted.check h.accepted)
    (drafted.written h.accepted h.nonempty)
  rw [builtIn, Template.render_router, contract] at runs
  refine ⟨ids, t, _, _, head, middle, tail, drafted.identifiers, drafted.renders.texts,
    drafted.cases h, drafted.constants h.accepted, fun m hm => ?_,
    fun m hm => mem_uncased_iff h.accepted drafted.named hm, ?_⟩
  · have nodup := Diamond.FacetTable.nodup h.accepted
    exact ⟨_, _, (drafted.named.declarable m hm).named, h.accepted.address m hm,
      Constant.addressesOf_identifierOf nodup drafted.named.apart hm⟩
  · rw [uncased_eq h.accepted drafted.named]
    exact ends_of_sayThen runs (filterMap_messages r ss tree)
      (fresh_warnings h.accepted h.stringNames) s

/-- The proxy is warned of, and the token and the pool behind the same router are not. -/
theorem warnings_exact_exchange :
    ∃ text, Ends exchangeRequest [Module.proxyAt Module.sampleAddress] text .initial := by
  obtain ⟨ids, t, declared, cases, head, middle, tail, -, -, -, -, -, uncased_iff, ends⟩ :=
    warnings_exact exchangeRequest Module.exchangeSelectors .exchange rfl .initial
  refine ⟨head ++ t.modules ++ middle ++ t.selectors ++ tail, ?_⟩
  obtain ⟨proxy_iff, token_iff, pool_iff⟩ := Module.forall_exchange.mp uncased_iff
  obtain ⟨-, token_mem, pool_mem⟩ := Module.forall_exchange.mp fun m hm => hm
  have proxy := (List.mem_filter.mp (proxy_iff.mpr rfl)).2
  have token := mt (fun cased => token_iff.mp (List.mem_filter.mpr ⟨token_mem, cased⟩))
    (List.cons_ne_nil _ _)
  have pool := mt (fun cased => pool_iff.mp (List.mem_filter.mpr ⟨pool_mem, cased⟩))
    (List.cons_ne_nil _ _)
  have only : uncased ids cases exchangeRequest.modules =
      [Module.proxyAt Module.sampleAddress] := by
    show List.filter _ [_, _, _] = _
    rw [List.filter_cons, if_pos proxy, List.filter_cons, if_neg token, List.filter_cons,
      if_neg pool, List.filter_nil]
  rw [only] at ends
  exact ends

end Router

end SelectorRouter
