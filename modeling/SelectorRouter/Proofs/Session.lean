import SelectorRouter.Session

/-!
# Runs of actions

An action ends in a value or in a fault and leaves a session behind. The policy says what
becomes of a warning: it is raised, dropped, or shown when it is seen for the first time. A loop
of steps that only log and warn can be stopped by a warning alone, and only when the policy
raises warnings; whatever it does, the policy stays what it was. An action that is blind to the
debug flag does the same with the flag on and off.
-/

namespace SelectorRouter

/-- The session inside a context for warnings. -/
def Session.insideWarnings (s : Session) (policy : WarningPolicy) : Session :=
  { s.setPolicy policy with contexts := .warnings s.policy :: s.contexts }

theorem Session.enterWarnings_of_ok {control : Json} {policy : WarningPolicy}
    (known : WarningPolicy.ofControl control = .ok policy) (s : Session) :
    s.enterWarnings control = (.ok (), s.insideWarnings policy) := by
  rw [Session.enterWarnings, known]
  rfl

namespace Action

variable {α β : Type} {s s' : Session}

theorem bind_eq (x : Action α) (f : α → Action β) (s : Session) :
    (x >>= f) s = ExceptT.bindCont f (x s).1 (x s).2 := rfl

theorem bind_of_ok {x : Action α} {f : α → Action β} {a : α} (h : x s = (.ok a, s')) :
    (x >>= f) s = f a s' := by
  rw [bind_eq, h]
  rfl

theorem bind_of_error {x : Action α} {f : α → Action β} {fault : Fault}
    (h : x s = (.error fault, s')) : (x >>= f) s = (.error fault, s') := by
  rw [bind_eq, h]
  rfl

theorem ofResult_bind (a : α) (f : α → Action β) (s : Session) :
    (ofResult (.ok a) >>= f) s = f a s := rfl

theorem isDebug_bind (f : Bool → Action β) (s : Session) :
    (isDebug >>= f) s = f s.debug s := rfl

/-- A step that takes the value of a result ends well when there is one and the rest does. -/
theorem ofResult_bind_eq_ok {x : Except Fault α} {f : α → Action β} {b : β} :
    ((ofResult x >>= f) s).1 = .ok b ↔ ∃ a, x = .ok a ∧ (f a s).1 = .ok b := by
  cases x with
  | error fault =>
      constructor
      · intro failed
        cases failed
      · rintro ⟨a, impossible, -⟩
        cases impossible
  | ok a =>
      rw [ofResult_bind]
      constructor
      · intro ended
        exact ⟨a, rfl, ended⟩
      · rintro ⟨_, same, ended⟩
        cases same
        exact ended

/-! ## Contexts for warnings -/

variable {control : Json} {policy : WarningPolicy} {fault : Fault}

theorem withWarnings_of_ok (known : WarningPolicy.ofControl control = .ok policy) (x : Action α)
    (s : Session) : withWarnings control x s =
      ((x (s.insideWarnings policy)).1, (x (s.insideWarnings policy)).2.leave.2) := by
  rw [withWarnings, s.enterWarnings_of_ok known]
  rfl

/-- Under an unknown control word nothing is run. -/
theorem withWarnings_of_error (unknown : WarningPolicy.ofControl control = .error fault)
    (x : Action α) (s : Session) :
    withWarnings control x s = (.error fault, s.setPolicy s.policy) := by
  unfold withWarnings Session.enterWarnings
  rw [unknown]

/-! ## Warnings -/

theorem warn_of_raise (h : s.policy = .raise) (origin : Origin) (report : Report) :
    warn origin report s = (.error (.warning report), s) := by
  show s.warn origin report = _
  rw [Session.warn, h]

theorem warn_of_drop (h : s.policy = .drop) (origin : Origin) (report : Report) :
    warn origin report s = (.ok (), s) := by
  show s.warn origin report = _
  rw [Session.warn, h]

theorem warn_of_seen (h : s.policy = .showOnce) {origin : Origin} {report : Report}
    (old : (origin, report.message, report.category) ∈ s.seen) :
    warn origin report s = (.ok (), s) := by
  show s.warn origin report = _
  rw [Session.warn, h]
  simp [old]

theorem warn_of_fresh (h : s.policy = .showOnce) {origin : Origin} {report : Report}
    (new : (origin, report.message, report.category) ∉ s.seen) :
    warn origin report s = (.ok (),
      { s with seen := (origin, report.message, report.category) :: s.seen,
               shown := s.shown ++ [report] }) := by
  show s.warn origin report = _
  rw [Session.warn, h]
  simp [new]

/-! ## Runs that only warnings can stop -/

/-- A run that keeps the policy, and that nothing but a raised warning can stop, one that
`allowed` admits. -/
def Quiet (allowed : Report → Prop) (x : Action Unit) (s : Session) : Prop :=
  ∃ after, after.policy = s.policy ∧ (x s = (.ok (), after) ∨
    s.policy = .raise ∧ ∃ report, allowed report ∧ x s = (.error (.warning report), after))

variable {allowed : Report → Prop}

theorem quiet_log (line : String) (s : Session) : Quiet allowed (log line) s :=
  ⟨s.addLog line, rfl, Or.inl rfl⟩

theorem quiet_warn (origin : Origin) {report : Report} (h : allowed report) (s : Session) :
    Quiet allowed (warn origin report) s := by
  unfold Quiet
  cases policy : s.policy with
  | raise => exact ⟨s, policy, Or.inr ⟨rfl, report, h, warn_of_raise policy origin report⟩⟩
  | drop => exact ⟨s, policy, Or.inl (warn_of_drop policy origin report)⟩
  | showOnce =>
      by_cases old : (origin, report.message, report.category) ∈ s.seen
      · exact ⟨s, policy, Or.inl (warn_of_seen policy old)⟩
      · refine ⟨_, ?_, Or.inl (warn_of_fresh policy old)⟩
        exact policy

/-- A loop of quiet steps is quiet. -/
theorem quiet_forM {f : α → Action Unit} : ∀ {l : List α},
    (∀ a ∈ l, ∀ s, Quiet allowed (f a) s) → ∀ s, Quiet allowed (l.forM f) s
  | [], _, s => ⟨s, rfl, Or.inl rfl⟩
  | a :: l, h, s => by
      have unrolled : (a :: l).forM f = f a >>= fun _ => l.forM f := rfl
      obtain ⟨middle, same, first⟩ := h a List.mem_cons_self s
      obtain ⟨after, kept, rest⟩ :=
        quiet_forM (fun b hb => h b (List.mem_cons_of_mem a hb)) middle
      rcases first with first | ⟨raising, report, allows, first⟩
      · refine ⟨after, kept.trans same, ?_⟩
        rw [same] at rest
        rw [unrolled, bind_of_ok first]
        exact rest
      · refine ⟨middle, same, Or.inr ⟨raising, report, allows, ?_⟩⟩
        rw [unrolled, bind_of_error first]

/-! ## Runs that do not look at the debug flag -/

/-- An action that neither looks at the debug flag nor sets it. -/
def Blind (x : Action α) : Prop :=
  ∀ (s : Session) (debug : Bool),
    x { s with debug := debug } = ((x s).1, { (x s).2 with debug := debug })

theorem blind_ofResult (result : Except Fault α) : Blind (ofResult result) := by
  intro s debug
  rfl

theorem blind_pure (a : α) : Blind (pure a) := by
  intro s debug
  rfl

theorem blind_log (line : String) : Blind (log line) := by
  intro s debug
  rfl

theorem blind_warn (origin : Origin) (report : Report) : Blind (warn origin report) := by
  intro s debug
  obtain ⟨flag, policy, seen, contexts, shown, log⟩ := s
  cases policy with
  | raise => rfl
  | drop => rfl
  | showOnce =>
      show Session.warn _ origin report = _
      simp only [warn, Session.warn]
      split
      · rfl
      · rfl

theorem Blind.bind {x : Action α} {f : α → Action β} (hx : Blind x) (hf : ∀ a, Blind (f a)) :
    Blind (x >>= f) := by
  intro s debug
  rw [bind_eq, bind_eq, hx s debug]
  cases (x s).1 with
  | ok a => exact hf a (x s).2 debug
  | error fault => rfl

/-- What follows a result only runs on the value of the result. -/
theorem blind_ofResult_bind {result : Except Fault α} {f : α → Action β}
    (h : ∀ a, result = .ok a → Blind (f a)) : Blind (ofResult result >>= f) := by
  cases result with
  | ok a => exact h a rfl
  | error fault => exact fun s debug => rfl

theorem blind_forM {f : α → Action Unit} (h : ∀ a, Blind (f a)) : ∀ l : List α, Blind (l.forM f)
  | [] => blind_pure ()
  | a :: l => (h a).bind fun _ => blind_forM h l

/-- A check that succeeds can be left out, whether or not it is made in debug mode only. -/
theorem isDebug_check_bind {check : Except Fault Unit} (sound : check = .ok ())
    (rest : Unit → Action α) :
    (isDebug >>= fun debug => if debug = true then ofResult check >>= rest else rest ()) =
      rest () := by
  funext s
  rw [isDebug_bind, sound]
  cases s.debug with
  | false => rfl
  | true => rfl

end Action

end SelectorRouter
