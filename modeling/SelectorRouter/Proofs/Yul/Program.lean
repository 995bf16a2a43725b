import SelectorRouter.Proofs.Code.Literal

/-!
# Programs of the selector function

The part of Yul that the selector function is written in: a guard `if lt(sig,X)`
around a block, a `switch sig` whose cases set the result and that has no default,
and `leave`. The result starts as the literal 0.

A program is read from tokens, with one frame for each block that is open. Running it
is structural: `leave` ends the whole function, and a block that comes to its end
without it falls out of its guard into what follows. A run remembers what it went
through, so that statements about the path of control can be made.
-/

namespace SelectorRouter.Yul

open Code (Token Literal)

inductive Statement where
  | guard (bound : Literal) (body : List Statement)
  | switch (cases : List (Literal × String))
  | leave
  deriving Repr

/-! ## Reading -/

/-- An open block: its guard, and the statements before it, the last one first. -/
structure Frame where
  bound : Literal
  before : List Statement

/-- Reads statements into the innermost open block; `done` holds those it has so far,
the last one first. A switch must have a case. -/
def readFrom (frames : List Frame) (done : List Statement) :
    List Token → Option (List Statement)
  | [] => if frames.isEmpty then some done.reverse else none
  | .word "if" :: .word "lt" :: .symbol '(' :: .word "sig" :: .symbol ',' :: .word bound
      :: .symbol ')' :: .symbol '{' :: rest => do
    let bound ← Literal.read? bound
    readFrom (⟨bound, done⟩ :: frames) [] rest
  | .symbol '}' :: rest =>
    match frames with
    | [] => none
    | frame :: outer => readFrom outer (.guard frame.bound done.reverse :: frame.before) rest
  | .word "switch" :: .word "sig" :: rest =>
    if rest.head? = some (.word "case") then readFrom frames (.switch [] :: done) rest else none
  | .word "case" :: .word literal :: .symbol '{' :: .word "result" :: .assign
      :: .word identifier :: .symbol '}' :: rest =>
    match done with
    | .switch cases :: before => do
      let literal ← Literal.read? literal
      readFrom frames (.switch (cases ++ [(literal, identifier)]) :: before) rest
    | _ => none
  | .word "leave" :: rest => readFrom frames (.leave :: done) rest
  | _ => none

/-- The program that a text is, if it is one. -/
def read (text : String) : Option (List Statement) :=
  readFrom [] [] (Code.tokens text)

mutual
/-- The cases of a program in the order of its text. -/
def Statement.cases : Statement → List (Literal × String)
  | .guard _ body => casesOf body
  | .switch cases => cases
  | .leave => []

def casesOf : List Statement → List (Literal × String)
  | [] => []
  | s :: rest => s.cases ++ casesOf rest
end

/-! ## Running -/

/-- What control passes: a guard, taken or not; the end of a taken block; a switch, with
one of its cases taken or none; the end of the function. -/
inductive Event where
  | guard (taken : Bool)
  | fallOut
  | switch (cases : Nat) (taken : Bool)
  | leave
  deriving Repr, DecidableEq

/-- The result is the identifier set last, or `none` for the literal 0; `left` says
that the function has been left. -/
structure Run where
  result : Option String
  events : List Event
  left : Bool
  deriving Repr, DecidableEq

mutual
def Statement.run (sig : Nat) (result : Option String) : Statement → Run
  | .guard bound body =>
    if sig < bound.value then
      let inner := runAll sig result body
      if inner.left then { inner with events := .guard true :: inner.events }
      else { inner with events := .guard true :: inner.events ++ [.fallOut] }
    else ⟨result, [.guard false], false⟩
  | .switch cases =>
    match cases.find? fun c => c.1.value == sig with
    | some c => ⟨some c.2, [.switch cases.length true], false⟩
    | none => ⟨result, [.switch cases.length false], false⟩
  | .leave => ⟨result, [.leave], true⟩

def runAll (sig : Nat) (result : Option String) : List Statement → Run
  | [] => ⟨result, [], false⟩
  | s :: rest =>
    let first := s.run sig result
    if first.left then first
    else
      let after := runAll sig first.result rest
      { after with events := first.events ++ after.events }
end

/-- Runs a text as the body of the selector function on a method id. -/
def execute (text : String) (sig : Nat) : Option Run :=
  (read text).map (runAll sig none)

/-! ## Reading one statement -/

variable (frames : List Frame) (done : List Statement) (rest : List Token)

theorem readFrom_guard {bound : String} {literal : Literal}
    (h : Literal.read? bound = some literal) :
    readFrom frames done (.word "if" :: .word "lt" :: .symbol '(' :: .word "sig" :: .symbol ','
        :: .word bound :: .symbol ')' :: .symbol '{' :: rest) =
      readFrom (⟨literal, done⟩ :: frames) [] rest := by
  simp only [readFrom, h, Option.bind_eq_bind, Option.bind_some]

theorem readFrom_close (frame : Frame) :
    readFrom (frame :: frames) done (.symbol '}' :: rest) =
      readFrom frames (.guard frame.bound done.reverse :: frame.before) rest := by
  simp only [readFrom]

theorem readFrom_switch (h : rest.head? = some (.word "case")) :
    readFrom frames done (.word "switch" :: .word "sig" :: rest) =
      readFrom frames (.switch [] :: done) rest := by
  simp only [readFrom, h, if_true]

theorem readFrom_case {text identifier : String} {literal : Literal}
    (cases : List (Literal × String)) (h : Literal.read? text = some literal) :
    readFrom frames (.switch cases :: done) (.word "case" :: .word text :: .symbol '{'
        :: .word "result" :: .assign :: .word identifier :: .symbol '}' :: rest) =
      readFrom frames (.switch (cases ++ [(literal, identifier)]) :: done) rest := by
  simp only [readFrom, h, Option.bind_eq_bind, Option.bind_some]

theorem readFrom_leave :
    readFrom frames done (.word "leave" :: rest) = readFrom frames (.leave :: done) rest := by
  simp only [readFrom]

/-! ## Running one statement -/

variable {sig : Nat} {result : Option String}

/-- A block that leaves ends the program: what follows its guard is not run. -/
theorem runAll_guard_taken {bound : Literal} {body after : List Statement}
    {value : Option String} {events : List Event} (h : sig < bound.value)
    (inner : runAll sig result body = ⟨value, events, true⟩) :
    runAll sig result (.guard bound body :: after) = ⟨value, .guard true :: events, true⟩ := by
  rw [runAll, Statement.run, if_pos h, inner]
  rfl

theorem runAll_guard_passed {bound : Literal} {body after : List Statement}
    {value : Option String} {events : List Event} {left : Bool} (h : ¬ sig < bound.value)
    (outer : runAll sig result after = ⟨value, events, left⟩) :
    runAll sig result (.guard bound body :: after) = ⟨value, .guard false :: events, left⟩ := by
  rw [runAll, Statement.run, if_neg h, outer]
  rfl

/-- A switch and the `leave` after it set the result by the first case that matches. -/
theorem runAll_switch_leave (cases : List (Literal × String)) :
    runAll sig result [.switch cases, .leave] =
      match cases.find? fun c => c.1.value == sig with
      | some c => ⟨some c.2, [.switch cases.length true, .leave], true⟩
      | none => ⟨result, [.switch cases.length false, .leave], true⟩ := by
  simp only [runAll, Statement.run]
  cases cases.find? fun c => c.1.value == sig <;> rfl

end SelectorRouter.Yul
