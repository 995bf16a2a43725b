import SelectorRouter.Proofs.Session

/-!
# Messages of a run

The warnings that an action issues, the lines that it logs and what it ends in are the same
under every policy for warnings; the policy only says what becomes of each warning. Such an
action does exactly what issuing its messages one after the other and then ending does.
-/

namespace SelectorRouter

/-- What an action says on its way. -/
inductive Message where
  | line (text : String)
  | warning (origin : Origin) (report : Report)

/-- The warning that a message is. -/
def Message.warning? : Message → Option (Origin × Report)
  | line _ => none
  | warning origin report => some (origin, report)

namespace Action

variable {α β : Type}

/-- Says one thing. A warning that is raised ends the action. -/
def say : Message → Action Unit
  | .line text => log text
  | .warning origin report => warn origin report

/-- Says things one after the other and then ends in a result. -/
def sayThen (messages : List Message) (result : Except Fault α) : Action α := do
  messages.forM say
  ofResult result

/-- An action whose messages and whose end depend on nothing in the session but the debug flag.
In particular they do not depend on the policy for warnings. -/
def Impartial (x : Action α) : Prop :=
  ∀ debug, ∃ messages result, ∀ s : Session, s.debug = debug → x s = sayThen messages result s

/-! ## What messages change -/

/-- A message changes what has been shown and logged, and nothing else. -/
theorem say_snd (message : Message) (s : Session) : ∃ seen shown log,
    (say message s).2 = { s with seen := seen, shown := shown, log := log } := by
  cases message with
  | line text => exact ⟨_, _, _, rfl⟩
  | warning origin report =>
      show ∃ seen shown log, (warn origin report s).2 =
        { s with seen := seen, shown := shown, log := log }
      cases policy : s.policy with
      | raise =>
          rw [warn_of_raise policy, ← policy]
          exact ⟨_, _, _, rfl⟩
      | drop =>
          rw [warn_of_drop policy, ← policy]
          exact ⟨_, _, _, rfl⟩
      | showOnce =>
          by_cases old : (origin, report.message, report.category) ∈ s.seen
          · rw [warn_of_seen policy old, ← policy]
            exact ⟨_, _, _, rfl⟩
          · rw [warn_of_fresh policy old, ← policy]
            exact ⟨_, _, _, rfl⟩

theorem forM_say_cons (message : Message) (messages : List Message) :
    (message :: messages).forM say = say message >>= fun _ => messages.forM say := rfl

theorem forM_say_snd (messages : List Message) : ∀ s : Session, ∃ seen shown log,
    (messages.forM say s).2 = { s with seen := seen, shown := shown, log := log } := by
  induction messages with
  | nil => exact fun s => ⟨s.seen, s.shown, s.log, rfl⟩
  | cons message messages ih =>
      intro s
      obtain ⟨seen, shown, log, first⟩ := say_snd message s
      rw [forM_say_cons, bind_eq]
      cases (say message s).1 with
      | error fault => exact ⟨seen, shown, log, first⟩
      | ok _ =>
          obtain ⟨seen', shown', log', rest⟩ := ih (say message s).2
          refine ⟨seen', shown', log', ?_⟩
          show (messages.forM say (say message s).2).2 = _
          rw [rest, first]

theorem sayThen_snd (messages : List Message) (result : Except Fault α) (s : Session) :
    ∃ seen shown log,
      (sayThen messages result s).2 = { s with seen := seen, shown := shown, log := log } := by
  unfold sayThen
  rw [bind_eq]
  obtain ⟨seen, shown, log, after⟩ := forM_say_snd messages s
  refine ⟨seen, shown, log, ?_⟩
  rw [← after]
  cases (messages.forM say s).1 with
  | error fault => rfl
  | ok _ => rfl

/-- What an impartial action leaves alone: the flag, the policy and the open contexts. -/
theorem Impartial.snd {x : Action α} (h : Impartial x) (s : Session) : ∃ seen shown log,
    (x s).2 = { s with seen := seen, shown := shown, log := log } := by
  obtain ⟨messages, result, same⟩ := h s.debug
  rw [same s rfl]
  exact sayThen_snd messages result s

/-! ## What becomes of warnings -/

/-- The warnings that are shown, of some that are issued: those that were not seen before. -/
def fresh (seen : List (Origin × String × Category)) : List (Origin × Report) → List Report
  | [] => []
  | (origin, report) :: rest =>
      if (origin, report.message, report.category) ∈ seen then fresh seen rest
      else report :: fresh ((origin, report.message, report.category) :: seen) rest

/-- A run from a session obeys its policy: of the warnings that it issues the first is raised
and ends the run, or they are dropped, or each is shown when it is seen for the first time. If
no warning is raised, the run ends in the result. -/
def Obeys (warnings : List (Origin × Report)) (result : Except Fault α) (s : Session)
    (ran : Except Fault α × Session) : Prop :=
  match s.policy with
  | .raise => ran.2.shown = s.shown ∧
      ran.1 = match warnings with
        | [] => result
        | (_, report) :: _ => .error (.warning report)
  | .drop => ran.2.shown = s.shown ∧ ran.1 = result
  | .showOnce => ran.2.shown = s.shown ++ fresh s.seen warnings ∧ ran.1 = result

theorem sayThen_cons (message : Message) (messages : List Message) (result : Except Fault α) :
    sayThen (message :: messages) result = say message >>= fun _ => sayThen messages result := by
  simp only [sayThen, forM_say_cons, bind_assoc]

/-- What is said obeys the policy. -/
theorem obeys_sayThen (messages : List Message) (result : Except Fault α) : ∀ s : Session,
    Obeys (messages.filterMap Message.warning?) result s (sayThen messages result s) := by
  induction messages with
  | nil =>
      intro s
      unfold Obeys
      cases s.policy with
      | raise => exact ⟨rfl, rfl⟩
      | drop => exact ⟨rfl, rfl⟩
      | showOnce => exact ⟨(List.append_nil _).symm, rfl⟩
  | cons message messages ih =>
      intro s
      rw [sayThen_cons]
      cases message with
      | line text =>
          rw [bind_of_ok (show say (.line text) s = (.ok (), s.addLog text) from rfl)]
          exact ih (s.addLog text)
      | warning origin report =>
          show Obeys ((origin, report) :: messages.filterMap Message.warning?) result s
            ((warn origin report >>= fun _ => sayThen messages result) s)
          cases policy : s.policy with
          | raise =>
              rw [bind_of_error (warn_of_raise policy origin report), Obeys, policy]
              exact ⟨rfl, rfl⟩
          | drop =>
              have rest := ih s
              simp only [Obeys, policy] at rest
              rw [bind_of_ok (warn_of_drop policy origin report), Obeys, policy]
              exact rest
          | showOnce =>
              by_cases old : (origin, report.message, report.category) ∈ s.seen
              · have rest := ih s
                simp only [Obeys, policy] at rest
                rw [bind_of_ok (warn_of_seen policy old), Obeys, policy, fresh, if_pos old]
                exact rest
              · have rest := ih { s with
                  seen := (origin, report.message, report.category) :: s.seen,
                  shown := s.shown ++ [report] }
                simp only [Obeys, policy, List.append_assoc, List.singleton_append] at rest
                rw [bind_of_ok (warn_of_fresh policy old), Obeys, policy, fresh, if_neg old]
                exact rest

/-! ## Impartial actions -/

theorem impartial_ofResult (result : Except Fault α) : Impartial (ofResult result) := by
  intro debug
  exact ⟨[], result, fun s _ => rfl⟩

theorem impartial_pure (a : α) : Impartial (pure a) := by
  intro debug
  exact ⟨[], .ok a, fun s _ => rfl⟩

theorem impartial_isDebug : Impartial isDebug := by
  intro debug
  refine ⟨[], .ok debug, fun s same => ?_⟩
  rw [← same]
  rfl

theorem sayThen_singleton (message : Message) : sayThen [message] (.ok ()) = say message := by
  show ((say message >>= fun _ => pure ()) >>= fun _ => pure ()) = say message
  simp

theorem impartial_say (message : Message) : Impartial (say message) := by
  intro debug
  exact ⟨[message], .ok (), fun s _ => by rw [sayThen_singleton]⟩

theorem impartial_log (line : String) : Impartial (log line) :=
  impartial_say (.line line)

theorem impartial_warn (origin : Origin) (report : Report) : Impartial (warn origin report) :=
  impartial_say (.warning origin report)

theorem sayThen_append (first next : List Message) (result : Except Fault α) :
    sayThen (first ++ next) result = first.forM say >>= fun _ => sayThen next result := by
  unfold sayThen
  simp only [List.forM_eq_forM, List.forM_append, bind_assoc]

theorem Impartial.bind {x : Action α} {f : α → Action β} (hx : Impartial x)
    (hf : ∀ a, Impartial (f a)) : Impartial (x >>= f) := by
  intro debug
  obtain ⟨first, result, begins⟩ := hx debug
  cases result with
  | error fault =>
      refine ⟨first, .error fault, fun s same => ?_⟩
      rw [bind_eq, begins s same]
      unfold sayThen
      rw [bind_eq, bind_eq]
      cases (first.forM say s).1 with
      | error raised => rfl
      | ok _ => rfl
  | ok a =>
      obtain ⟨next, result, goesOn⟩ := hf a debug
      refine ⟨first ++ next, result, fun s same => ?_⟩
      obtain ⟨seen, shown, log, after⟩ := forM_say_snd first s
      rw [sayThen_append, bind_eq, bind_eq, begins s same]
      unfold sayThen
      rw [bind_eq]
      cases (first.forM say s).1 with
      | error raised => rfl
      | ok _ =>
          show f a (first.forM say s).2 = sayThen next result (first.forM say s).2
          apply goesOn
          rw [after]
          exact same

/-- A step that is only made in some case. -/
theorem Impartial.when_bind {c : Prop} [Decidable c] {x : Action Unit} {rest : Unit → Action α}
    (hx : Impartial x) (hrest : ∀ u, Impartial (rest u)) :
    Impartial (if c then x >>= rest else rest ()) := by
  split
  · exact hx.bind hrest
  · exact hrest ()

theorem impartial_forM {f : α → Action Unit} (h : ∀ a, Impartial (f a)) :
    ∀ l : List α, Impartial (l.forM f)
  | [] => impartial_pure ()
  | a :: l => (h a).bind fun _ => impartial_forM h l

end Action

end SelectorRouter
