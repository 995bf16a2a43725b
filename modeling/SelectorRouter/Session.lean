import SelectorRouter.Fault

/-!
# Sessions

What outlives a single call of the generator: the debug flag, the policy for
warnings, which warnings have been shown since the policy was last touched, and
the contexts that are open. A context changes the flag or the policy until it is
left, and then puts back what it found. A session also collects the warnings
shown and the lines logged.
-/

namespace SelectorRouter

inductive WarningPolicy where
  | showOnce
  | raise
  | drop
  deriving Repr, DecidableEq

/-- The policy that a control word asks for. -/
def WarningPolicy.ofControl (control : Json) : Except Fault WarningPolicy :=
  match control with
  | .null => .ok .showOnce
  | .str "error" => .ok .raise
  | .str "none" => .ok .drop
  | _ => .error .unknownWarningControl

/-- Where a warning comes from. -/
inductive Origin where
  | caller
  | generator
  deriving Repr, DecidableEq

/-- An open context with the value that it puts back. -/
inductive Context where
  | debug (saved : Bool)
  | warnings (saved : WarningPolicy)
  deriving Repr, DecidableEq

structure Session where
  debug : Bool
  policy : WarningPolicy
  seen : List (Origin × String × Category)
  contexts : List Context
  shown : List Report
  log : List String
  deriving Repr

namespace Session

def initial : Session :=
  ⟨false, .showOnce, [], [], [], []⟩

/-- Sets the policy. Touching the policy forgets which warnings have been shown,
even if it stays the same. -/
def setPolicy (s : Session) (policy : WarningPolicy) : Session :=
  { s with policy := policy, seen := [] }

def enterDebug (s : Session) (value : Bool) : Session :=
  { s with debug := value, contexts := .debug s.debug :: s.contexts }

/-- An unknown control word opens no context. -/
def enterWarnings (s : Session) (control : Json) : Except Fault Unit × Session :=
  match WarningPolicy.ofControl control with
  | .ok policy =>
    (.ok (), { s.setPolicy policy with contexts := .warnings s.policy :: s.contexts })
  | .error fault => (.error fault, s.setPolicy s.policy)

/-- Leaves the innermost context. -/
def leave (s : Session) : Except Fault Unit × Session :=
  match s.contexts with
  | [] => (.error .missingItem, s)
  | .debug saved :: rest => (.ok (), { s with debug := saved, contexts := rest })
  | .warnings saved :: rest => (.ok (), { s.setPolicy saved with contexts := rest })

/-- Issues a warning under the policy of the session. -/
def warn (s : Session) (origin : Origin) (r : Report) : Except Fault Unit × Session :=
  match s.policy with
  | .raise => (.error (.warning r), s)
  | .drop => (.ok (), s)
  | .showOnce =>
    let mark := (origin, r.message, r.category)
    if s.seen.contains mark then (.ok (), s)
    else (.ok (), { s with seen := mark :: s.seen, shown := s.shown ++ [r] })

def addLog (s : Session) (line : String) : Session :=
  { s with log := s.log ++ [line] }

/-- The session with nothing shown and nothing logged yet. -/
def clearOutput (s : Session) : Session :=
  { s with shown := [], log := [] }

end Session

/-- A computation that may end in a fault; what it did to the session stays. -/
abbrev Action := ExceptT Fault (StateM Session)

namespace Action

def ofResult {α : Type} (result : Except Fault α) : Action α :=
  ExceptT.mk (pure result)

def warn (origin : Origin) (r : Report) : Action Unit :=
  fun s => s.warn origin r

def log (line : String) : Action Unit :=
  fun s => (.ok (), s.addLog line)

def isDebug : Action Bool :=
  fun s => (.ok s.debug, s)

/-- Runs an action under a policy for warnings and puts the old one back. -/
def withWarnings {α : Type} (control : Json) (action : Action α) : Action α :=
  fun s =>
    match s.enterWarnings control with
    | (.error fault, s) => (.error fault, s)
    | (.ok _, inner) =>
      let (result, after) := action inner
      (result, after.leave.2)

/-- Runs an action with the debug flag set and puts the old flag back. -/
def withDebug {α : Type} (value : Bool) (action : Action α) : Action α :=
  fun s =>
    let (result, after) := action (s.enterDebug value)
    (result, after.leave.2)

end Action

end SelectorRouter
