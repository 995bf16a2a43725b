import SelectorRouter.Proofs.Session.Messages
import SelectorRouter.Router

/-!
# Contexts

Routines open contexts for the debug flag and for warnings, one inside the other, and in them
set the flag, warn and call the generator. A context is left when its routine ends, in whatever
way, and then the flag or the policy is what it was before. For this the routine inside must
itself leave every context that it enters, so that the context to be left is the innermost one:
`Balanced` says so of an action, and an induction over the syntax says so of every routine.

`Occurs` follows a run to each routine in it, with the contexts that are open there. It enters
them as the session does, and a context ends and says what its routine does from the session
entered, so it is the run that is followed. Whatever has been entered and left on the way, the
innermost context for warnings alone decides what becomes of a warning. That is what a list of
filters would decide, in which each context puts its filter before the others, after it has
cleared the list unless warnings are to be shown.
-/

namespace SelectorRouter.Router

open SelectorRouter.Action (Impartial Obeys)

/-! ## Routines -/

/-- Calls of the generator, warnings and settings of the debug flag, in nested contexts. A
routine ends when a fault is raised in it; an attempt goes on after the fault. -/
inductive Routine where
  | done
  | setDebug (value : Bool)
  | warn (origin : Origin) (report : Report)
  | generate (request : Request)
  | raise (fault : Fault)
  | seq (first next : Routine)
  | attempt (body : Routine)
  | debug (value : Bool) (body : Routine)
  | warnings (control : Json) (body : Routine)

def Routine.run : Routine → Action Unit
  | done => pure ()
  | setDebug value => fun s => (.ok (), { s with debug := value })
  | warn origin report => Action.warn origin report
  | generate request => do let _ ← Router.generate request
  | raise fault => Action.ofResult (.error fault)
  | seq first next => do
    first.run
    next.run
  | attempt body => fun s => (.ok (), (body.run s).2)
  | debug value body => Action.withDebug value body.run
  | warnings control body => Action.withWarnings control body.run

/-- The control words, and what each of them asks for. -/
inductive Asks : Json → WarningPolicy → Prop
  | shown : Asks .null .showOnce
  | raised : Asks (.str "error") .raise
  | dropped : Asks (.str "none") .drop

/-- A context that is open. -/
inductive Scope where
  | debug (value : Bool)
  | warnings (policy : WarningPolicy)

/-- In the run of a routine from a session, another routine starts in a session of its own. The
contexts around it are listed, the innermost one first. -/
inductive Occurs : Routine → Session → List Scope → Routine → Session → Prop
  | here (p : Routine) (s : Session) : Occurs p s [] p s
  | first {p q r : Routine} {s t : Session} {scopes : List Scope} :
      Occurs p s scopes r t → Occurs (.seq p q) s scopes r t
  | next {p q r : Routine} {s m t : Session} {scopes : List Scope} :
      p.run s = (.ok (), m) → Occurs q m scopes r t → Occurs (.seq p q) s scopes r t
  | attempt {p r : Routine} {s t : Session} {scopes : List Scope} :
      Occurs p s scopes r t → Occurs (.attempt p) s scopes r t
  | debug {p r : Routine} {s t : Session} {scopes : List Scope} {value : Bool} :
      Occurs p (s.enterDebug value) scopes r t →
      Occurs (.debug value p) s (scopes ++ [.debug value]) r t
  | warnings {p r : Routine} {s inner t : Session} {scopes : List Scope} {control : Json}
      {policy : WarningPolicy} :
      Asks control policy → s.enterWarnings control = (.ok (), inner) →
      Occurs p inner scopes r t →
      Occurs (.warnings control p) s (scopes ++ [.warnings policy]) r t

/-! ## The policy inside -/

/-- The policy of the innermost context for warnings, or the one outside all of them. -/
def decisive (outside : WarningPolicy) : List Scope → WarningPolicy
  | [] => outside
  | .warnings policy :: _ => policy
  | .debug _ :: outer => decisive outside outer

/-- A filter says what becomes of the warnings that it covers. -/
structure Filter where
  covers : Report → Bool
  policy : WarningPolicy

/-- Is the report a warning of the router? -/
def isWarning (report : Report) : Bool :=
  report.category.lineage.contains .warning

/-- The first filter that covers a warning decides; without one the warning is shown. -/
def verdict (filters : List Filter) (report : Report) : WarningPolicy :=
  ((filters.find? fun filter => filter.covers report).map Filter.policy).getD .showOnce

/-- The filters in force in some contexts. A context puts its filter before the others, and one
that raises or drops warnings clears the others first. -/
def filtersIn (ambient : List Filter) : List Scope → List Filter
  | [] => ambient
  | .debug _ :: outer => filtersIn ambient outer
  | .warnings .showOnce :: outer => ⟨isWarning, .showOnce⟩ :: filtersIn ambient outer
  | .warnings policy :: _ => [⟨isWarning, policy⟩]

/-! ## What holds at a routine -/

/-- The run of a context from a session is the run of the routine in it from an inner session:
it ends as the routine ends, and says what the routine says after what was said before. -/
structure Encloses (body : Routine) (inner t : Session) (ran : Except Fault Unit × Session) :
    Prop where
  result : ran.1 = (body.run inner).1
  shown : inner.shown = t.shown ∧ ran.2.shown = (body.run inner).2.shown
  log : inner.log = t.log ∧ ran.2.log = (body.run inner).2.log

/-- What is true of a routine that starts in a session, inside some contexts, when the policy
outside them is given. -/
structure Orderly (outside : WarningPolicy) (scopes : List Scope) (r : Routine) (t : Session) :
    Prop where
  /-- The innermost context alone decides, as the filters in force do. -/
  decided : t.policy = decisive outside scopes
  filtered : ∀ ambient report, isWarning report = true → verdict ambient report = outside →
    verdict (filtersIn ambient scopes) report = t.policy
  /-- A warning is treated as the policy says. -/
  warned : ∀ origin report, r = .warn origin report →
    Obeys [(origin, report)] (.ok ()) t (r.run t)
  /-- So are the warnings of the generator, which are the same under every policy. -/
  generated : ∀ request, r = .generate request → ∃ warnings result,
    ∀ u : Session, u.debug = t.debug → Obeys warnings result u (r.run u)
  /-- In a context for the flag the routine runs under the flag, and under the policy around. -/
  flagInside : ∀ value body, r = .debug value body → ∃ inner,
    Occurs r t [.debug value] body inner ∧ inner.debug = value ∧ inner.policy = t.policy ∧
      Encloses body inner t (r.run t)
  /-- In a context for warnings it runs under what the control word asks for, and the flag is
  what the routine leaves it at. -/
  policyInside : ∀ control body policy, r = .warnings control body → Asks control policy →
    ∃ inner, Occurs r t [.warnings policy] body inner ∧ inner.policy = policy ∧
      inner.debug = t.debug ∧ Encloses body inner t (r.run t) ∧
      (r.run t).2.debug = (body.run inner).2.debug
  /-- Contexts restore what they change. -/
  flagRestored : ∀ value body, r = .debug value body → (r.run t).2.debug = t.debug
  policyRestored : ∀ control body, r = .warnings control body → (r.run t).2.policy = t.policy
  /-- An unknown control word is a fault that changes nothing. -/
  refused : ∀ control body, r = .warnings control body → control ≠ .null →
    control ≠ .str "error" → control ≠ .str "none" →
    (r.run t).1 = .error .unknownWarningControl ∧ (r.run t).2.debug = t.debug ∧
      (r.run t).2.policy = t.policy

/-! ## Balanced actions -/

/-- An action that leaves every context that it enters, and so leaves the policy as it was. -/
def Balanced {α : Type} (x : Action α) : Prop :=
  ∀ s : Session, (x s).2.contexts = s.contexts ∧ (x s).2.policy = s.policy

variable {α β : Type}

theorem Balanced.of_impartial {x : Action α} (h : Impartial x) : Balanced x := by
  intro s
  obtain ⟨seen, shown, log, after⟩ := h.snd s
  rw [after]
  exact ⟨rfl, rfl⟩

theorem Balanced.bind {x : Action α} {f : α → Action β} (hx : Balanced x)
    (hf : ∀ a, Balanced (f a)) : Balanced (x >>= f) := by
  intro s
  rw [Action.bind_eq]
  cases (x s).1 with
  | error fault => exact hx s
  | ok a =>
      obtain ⟨contexts, policy⟩ := hf a (x s).2
      exact ⟨contexts.trans (hx s).1, policy.trans (hx s).2⟩

theorem leave_of_debug {s : Session} {saved : Bool} {outer : List Context}
    (h : s.contexts = .debug saved :: outer) :
    s.leave.2 = { s with debug := saved, contexts := outer } := by
  rw [Session.leave, h]

theorem leave_of_warnings {s : Session} {saved : WarningPolicy} {outer : List Context}
    (h : s.contexts = .warnings saved :: outer) :
    s.leave.2 = { s with policy := saved, seen := [], contexts := outer } := by
  rw [Session.leave, h]
  rfl

/-- The context that a debug context leaves is its own, if the action inside is balanced. -/
theorem withDebug_snd {x : Action α} (h : Balanced x) (value : Bool) (s : Session) :
    (Action.withDebug value x s).2 =
      { (x (s.enterDebug value)).2 with debug := s.debug, contexts := s.contexts } :=
  leave_of_debug (h (s.enterDebug value)).1

theorem withWarnings_snd {x : Action α} (h : Balanced x) {control : Json}
    {policy : WarningPolicy} (known : WarningPolicy.ofControl control = .ok policy)
    (s : Session) : (Action.withWarnings control x s).2 =
      { (x (s.insideWarnings policy)).2 with
        policy := s.policy, seen := [], contexts := s.contexts } := by
  rw [Action.withWarnings_of_ok known]
  exact leave_of_warnings (h (s.insideWarnings policy)).1

theorem Balanced.withDebug {x : Action α} (h : Balanced x) (value : Bool) :
    Balanced (Action.withDebug value x) := by
  intro s
  rw [withDebug_snd h]
  exact ⟨rfl, (h (s.enterDebug value)).2⟩

theorem Balanced.withWarnings {x : Action α} (h : Balanced x) (control : Json) :
    Balanced (Action.withWarnings control x) := by
  intro s
  cases known : WarningPolicy.ofControl control with
  | error fault =>
      rw [Action.withWarnings_of_error known]
      exact ⟨rfl, rfl⟩
  | ok policy =>
      rw [withWarnings_snd h known]
      exact ⟨rfl, rfl⟩

/-! ## The generator -/

theorem impartial_logAddress (m : Module) : Impartial (logAddress m) :=
  (Action.impartial_ofResult _).bind fun _ => Action.impartial_log _

theorem impartial_warnIfUnreachable (filter : FunctionFilter) (m : Module) :
    Impartial (warnIfUnreachable filter m) := by
  apply (Action.impartial_ofResult _).bind
  intro selectors
  split
  · exact Action.impartial_warn _ _
  · exact Action.impartial_pure ()

/-- **The policy for warnings is nothing to the generator.** What it says and what it ends in
are the same under each, whatever the modules are. -/
theorem impartial_generate (r : Request) : Impartial (generate r) := by
  unfold generate
  refine (Action.impartial_ofResult _).bind fun _ => ?_
  refine (Action.impartial_forM impartial_logAddress _).bind fun _ => ?_
  refine (Action.impartial_ofResult _).bind fun selectors => ?_
  refine (Action.impartial_ofResult _).when_bind fun _ => ?_
  refine (Action.impartial_forM (impartial_warnIfUnreachable r.filter) _).bind fun _ => ?_
  refine (Action.impartial_ofResult _).bind fun tree => ?_
  refine Action.impartial_isDebug.bind fun debug => ?_
  refine (Action.impartial_ofResult _).when_bind fun _ => ?_
  refine (Action.impartial_log _).bind fun _ => ?_
  exact (Action.impartial_ofResult _).bind fun _ => Action.impartial_ofResult _

theorem Routine.impartial_generate (request : Request) :
    Impartial (Routine.generate request).run :=
  (Router.impartial_generate request).bind fun _ => Action.impartial_pure ()

/-! ## Runs of routines -/

/-- Every routine leaves the contexts that it enters. -/
theorem Routine.balanced (p : Routine) : Balanced p.run := by
  induction p with
  | done => exact .of_impartial (Action.impartial_pure ())
  | setDebug value => exact fun s => ⟨rfl, rfl⟩
  | warn origin report => exact .of_impartial (Action.impartial_warn origin report)
  | generate request => exact .of_impartial (impartial_generate request)
  | raise fault => exact .of_impartial (Action.impartial_ofResult (.error fault))
  | seq first next ihfirst ihnext => exact ihfirst.bind fun _ => ihnext
  | attempt body ih => exact ih
  | debug value body ih => exact ih.withDebug value
  | warnings control body ih => exact ih.withWarnings control

theorem Routine.run_debug_debug (value : Bool) (body : Routine) (s : Session) :
    ((Routine.debug value body).run s).2.debug = s.debug := by
  rw [Routine.run, withDebug_snd body.balanced]

theorem Routine.run_warnings_policy (control : Json) (body : Routine) (s : Session) :
    ((Routine.warnings control body).run s).2.policy = s.policy :=
  ((Routine.warnings control body).balanced s).2

theorem ofControl_of_asks {control : Json} {policy : WarningPolicy} (h : Asks control policy) :
    WarningPolicy.ofControl control = .ok policy := by
  cases h with
  | shown => rfl
  | raised => rfl
  | dropped => rfl

theorem inner_eq_of_asks {s inner : Session} {control : Json} {policy : WarningPolicy}
    (asks : Asks control policy) (entered : s.enterWarnings control = (.ok (), inner)) :
    inner = s.insideWarnings policy := by
  rw [s.enterWarnings_of_ok (ofControl_of_asks asks), Prod.mk.injEq] at entered
  exact entered.2.symm

/-- A context for the flag runs its routine from the session that it enters. -/
theorem encloses_debug (value : Bool) (body : Routine) (t : Session) :
    Encloses body (t.enterDebug value) t ((Routine.debug value body).run t) where
  result := rfl
  shown := ⟨rfl, by rw [Routine.run, withDebug_snd body.balanced]⟩
  log := ⟨rfl, by rw [Routine.run, withDebug_snd body.balanced]⟩

/-- So does a context for warnings. -/
theorem encloses_warnings {control : Json} {policy : WarningPolicy}
    (known : WarningPolicy.ofControl control = .ok policy) (body : Routine) (t : Session) :
    Encloses body (t.insideWarnings policy) t ((Routine.warnings control body).run t) where
  result := by rw [Routine.run, Action.withWarnings_of_ok known]
  shown := ⟨rfl, by rw [Routine.run, withWarnings_snd body.balanced known]⟩
  log := ⟨rfl, by rw [Routine.run, withWarnings_snd body.balanced known]⟩

theorem ofControl_eq_error {control : Json} (null : control ≠ .null)
    (raise : control ≠ .str "error") (drop : control ≠ .str "none") :
    WarningPolicy.ofControl control = .error .unknownWarningControl := by
  unfold WarningPolicy.ofControl
  split
  · exact absurd rfl null
  · exact absurd rfl raise
  · exact absurd rfl drop
  · rfl

/-! ## Inside contexts -/

theorem decisive_append (outside : WarningPolicy) (scopes outer : List Scope) :
    decisive outside (scopes ++ outer) = decisive (decisive outside outer) scopes := by
  induction scopes with
  | nil => rfl
  | cons scope scopes ih =>
      cases scope with
      | debug value => exact ih
      | warnings policy => rfl

/-- The policy of a session that a run gets to is the one of the innermost context. -/
theorem Occurs.policy {p r : Routine} {s t : Session} {scopes : List Scope}
    (h : Occurs p s scopes r t) : t.policy = decisive s.policy scopes := by
  induction h with
  | here p s => rfl
  | first _ ih => exact ih
  | @next p _ _ s _ _ _ ran _ ih =>
      -- what ran before has left every context that it entered
      have kept := (p.balanced s).2
      rw [ran] at kept
      rw [ih, kept]
  | attempt _ ih => exact ih
  | debug _ ih =>
      rw [ih, decisive_append]
      rfl
  | warnings asks entered _ ih =>
      rw [ih, inner_eq_of_asks asks entered, decisive_append]
      rfl

theorem verdict_filtersIn {outside : WarningPolicy} {ambient : List Filter} {report : Report}
    (warning : isWarning report = true) (agrees : verdict ambient report = outside)
    (scopes : List Scope) :
    verdict (filtersIn ambient scopes) report = decisive outside scopes := by
  induction scopes with
  | nil => exact agrees
  | cons scope scopes ih =>
      cases scope with
      | debug value => exact ih
      | warnings policy =>
          cases policy <;> simp [filtersIn, verdict, warning, decisive]

/-- **Contexts restore what they change, and the innermost one decides.** -/
theorem contexts_restore (p r : Routine) (s t : Session) (scopes : List Scope)
    (h : Occurs p s scopes r t) : Orderly s.policy scopes r t where
  decided := h.policy
  filtered := by
    intro ambient report warning agrees
    rw [h.policy]
    exact verdict_filtersIn warning agrees scopes
  warned := by
    rintro origin report rfl
    have obeys := Action.obeys_sayThen [.warning origin report] (.ok ()) t
    rw [Action.sayThen_singleton] at obeys
    exact obeys
  generated := by
    rintro request rfl
    obtain ⟨messages, result, same⟩ := Routine.impartial_generate request t.debug
    refine ⟨messages.filterMap Message.warning?, result, fun u flag => ?_⟩
    rw [same u flag]
    exact Action.obeys_sayThen messages result u
  flagInside := by
    rintro value body rfl
    exact ⟨t.enterDebug value, .debug (.here body _), rfl, rfl, encloses_debug value body t⟩
  policyInside := by
    rintro control body policy rfl asks
    have known := ofControl_of_asks asks
    refine ⟨t.insideWarnings policy, ?_, rfl, rfl, encloses_warnings known body t, ?_⟩
    · exact .warnings asks (t.enterWarnings_of_ok known) (.here body _)
    · rw [Routine.run, withWarnings_snd body.balanced known]
  flagRestored := by
    rintro value body rfl
    exact Routine.run_debug_debug value body t
  policyRestored := by
    rintro control body rfl
    exact Routine.run_warnings_policy control body t
  refused := by
    rintro control body rfl null raise drop
    have unknown := ofControl_eq_error null raise drop
    rw [Routine.run, Action.withWarnings_of_error unknown]
    exact ⟨rfl, rfl, rfl⟩

def stray : Routine :=
  .warn .caller ⟨.warning, "stray", none⟩

/-- A warning that is shown inside a context that raises warnings, after the debug flag of the
context around that one has been set back by hand. -/
def nested : Routine :=
  .debug true (.warnings (.str "error") (.seq (.setDebug false) (.warnings .null stray)))

/-- The session in which the warning is issued. -/
def nestedSession : Session :=
  ⟨false, .showOnce, [], [.warnings .raise, .warnings .showOnce, .debug false], [], []⟩

/-- The inner context alone decides: the warning is shown, and alone under `error` it is
raised. -/
theorem contexts_restore_nested :
    Occurs nested .initial [.warnings .showOnce, .warnings .raise, .debug true] stray
        nestedSession ∧
      Orderly .showOnce [.warnings .showOnce, .warnings .raise, .debug true] stray
        nestedSession ∧
      ((Routine.warnings (.str "error") stray).run .initial).1 =
        .error (.warning ⟨.warning, "stray", none⟩) ∧
      nested.run .initial =
        (.ok (), ⟨false, .showOnce, [], [], [⟨.warning, "stray", none⟩], []⟩) := by
  have shown : Occurs (.warnings .null stray)
      ⟨false, .raise, [], [.warnings .showOnce, .debug false], [], []⟩
      [.warnings .showOnce] stray nestedSession :=
    @Occurs.warnings _ _ _ _ _ [] .null .showOnce .shown rfl (.here stray nestedSession)
  have set : Occurs (.seq (.setDebug false) (.warnings .null stray))
      ⟨true, .raise, [], [.warnings .showOnce, .debug false], [], []⟩
      [.warnings .showOnce] stray nestedSession :=
    .next rfl shown
  have raised : Occurs (.warnings (.str "error") (.seq (.setDebug false) (.warnings .null stray)))
      ⟨true, .showOnce, [], [.debug false], [], []⟩
      [.warnings .showOnce, .warnings .raise] stray nestedSession :=
    @Occurs.warnings _ _ _ _ _ [.warnings .showOnce] (.str "error") .raise .raised rfl set
  have occurs : Occurs nested .initial [.warnings .showOnce, .warnings .raise, .debug true] stray
      nestedSession :=
    @Occurs.debug _ _ .initial _ [.warnings .showOnce, .warnings .raise] true raised
  refine ⟨occurs, contexts_restore nested stray .initial nestedSession _ occurs, ?_, rfl⟩
  -- the context for warnings runs its routine under the word, and the warning obeys it
  have outer := contexts_restore _ _ .initial .initial _
    (.here (.warnings (.str "error") stray) .initial)
  obtain ⟨inner, inside, policy, -, encloses, -⟩ :=
    outer.policyInside (.str "error") stray .raise rfl .raised
  have obeys := (contexts_restore _ _ _ _ _ inside).warned .caller ⟨.warning, "stray", none⟩ rfl
  simp only [Obeys, policy] at obeys
  exact encloses.result.trans obeys.2

end SelectorRouter.Router
