import SelectorRouter.Proofs.Code.Literal

/-!
# Constants and constructors

The part of Solidity that the address constants and the body of the constructor are
written in. An array in memory is declared empty, allocated with a size, written by index
and pushed to the registry together with the name of a constant.

The store of a run is finer than memory: a cell keeps every value that is written to it,
so a run tells how often each cell was written before its array was pushed. A write out of
bounds has no outcome.
-/

namespace SelectorRouter.Solidity

open Code (Token Literal)

/-! ## Constants -/

/-- Reads declarations of private constants to the end of the text. -/
def readConstants : List Token → Option (List (String × String))
  | [] => some []
  | .word "address" :: .word "private" :: .word "constant" :: .word id :: .symbol '='
      :: .word address :: .symbol ';' :: rest => do
    let others ← readConstants rest
    return (id, address) :: others
  | _ => none

/-- The constants that a text declares, with their addresses. -/
def constants (text : String) : Option (List (String × String)) :=
  readConstants (Code.tokens text)

/-- The addresses that an identifier is declared with. -/
def addressesOf (declared : List (String × String)) (identifier : String) : List String :=
  (declared.filter fun c => c.1 == identifier).map (·.2)

/-! ## Statements -/

inductive Statement where
  | declare
  | allocate (size : Nat)
  | assign (index : Nat) (value : Literal)
  | push (identifier : String)
  | announce
  deriving Repr, DecidableEq

def readStatements : List Token → Option (List Statement)
  | [] => some []
  | .word "bytes4" :: .symbol '[' :: .symbol ']' :: .word "memory" :: .word "selectors"
      :: .symbol ';' :: rest => do
    let others ← readStatements rest
    return .declare :: others
  | .word "selectors" :: .symbol '=' :: .word "new" :: .word "bytes4" :: .symbol '['
      :: .symbol ']' :: .symbol '(' :: .word size :: .symbol ')' :: .symbol ';' :: rest => do
    let size ← Literal.read? size
    let others ← readStatements rest
    return .allocate size.value :: others
  | .word "selectors" :: .symbol '[' :: .word index :: .symbol ']' :: .symbol '='
      :: .word value :: .symbol ';' :: rest => do
    let index ← Literal.read? index
    let value ← Literal.read? value
    let others ← readStatements rest
    return .assign index.value value :: others
  | .word "_facets" :: .symbol '(' :: .symbol ')' :: .symbol '.' :: .word "push"
      :: .symbol '(' :: .word "Facet" :: .symbol '(' :: .word identifier :: .symbol ','
      :: .word "selectors" :: .symbol ')' :: .symbol ')' :: .symbol ';' :: rest => do
    let others ← readStatements rest
    return .push identifier :: others
  | .word "_emitDiamondCutEvent" :: .symbol '(' :: .symbol ')' :: .symbol ';' :: rest => do
    let others ← readStatements rest
    return .announce :: others
  | _ => none

/-! ## Running -/

/-- The array of the constructor, once it is declared, with the values written to each
cell; the facets pushed so far with the array as it was; the announcements made. -/
structure Store where
  array : Option (List (List Literal))
  facets : List (String × List (List Literal))
  announced : Nat
  deriving Repr, DecidableEq

def Store.empty : Store := ⟨none, [], 0⟩

/-- Writes to one cell, if there is one at the index. -/
def write (value : Literal) : Nat → List (List Literal) → Option (List (List Literal))
  | _, [] => none
  | 0, cell :: cells => some ((cell ++ [value]) :: cells)
  | index + 1, cell :: cells => (write value index cells).map (cell :: ·)

def Store.step (store : Store) : Statement → Option Store
  | .declare => some { store with array := some [] }
  | .allocate size => do
    let _ ← store.array
    return { store with array := some (List.replicate size []) }
  | .assign index value => do
    let cells ← store.array
    let written ← write value index cells
    return { store with array := some written }
  | .push identifier => do
    let cells ← store.array
    return { store with facets := store.facets ++ [(identifier, cells)] }
  | .announce => some { store with announced := store.announced + 1 }

def Store.run (store : Store) (statements : List Statement) : Option Store :=
  statements.foldlM step store

/-- Runs a text as the body of the constructor. -/
def execute (text : String) : Option Store := do
  let statements ← readStatements (Code.tokens text)
  Store.empty.run statements

/-- The values pushed to the registry, each with the constant of its facet. -/
def Store.pairs (store : Store) : List (Literal × String) :=
  store.facets.flatMap fun facet => facet.2.flatten.map fun value => (value, facet.1)

/-! ## Reading one statement -/

theorem readStatements_declare (rest : List Token) :
    readStatements (.word "bytes4" :: .symbol '[' :: .symbol ']' :: .word "memory"
        :: .word "selectors" :: .symbol ';' :: rest) =
      (readStatements rest).map (.declare :: ·) := by
  simp only [readStatements]
  cases readStatements rest <;> rfl

theorem readStatements_allocate {size : String} {literal : Literal}
    (h : Literal.read? size = some literal) (rest : List Token) :
    readStatements (.word "selectors" :: .symbol '=' :: .word "new" :: .word "bytes4"
        :: .symbol '[' :: .symbol ']' :: .symbol '(' :: .word size :: .symbol ')'
        :: .symbol ';' :: rest) =
      (readStatements rest).map (.allocate literal.value :: ·) := by
  simp only [readStatements, h]
  cases readStatements rest <;> rfl

theorem readStatements_assign {index value : String} {place literal : Literal}
    (hi : Literal.read? index = some place) (hv : Literal.read? value = some literal)
    (rest : List Token) :
    readStatements (.word "selectors" :: .symbol '[' :: .word index :: .symbol ']'
        :: .symbol '=' :: .word value :: .symbol ';' :: rest) =
      (readStatements rest).map (.assign place.value literal :: ·) := by
  simp only [readStatements, hi, hv]
  cases readStatements rest <;> rfl

theorem readStatements_push (identifier : String) (rest : List Token) :
    readStatements (.word "_facets" :: .symbol '(' :: .symbol ')' :: .symbol '.'
        :: .word "push" :: .symbol '(' :: .word "Facet" :: .symbol '(' :: .word identifier
        :: .symbol ',' :: .word "selectors" :: .symbol ')' :: .symbol ')' :: .symbol ';'
        :: rest) =
      (readStatements rest).map (.push identifier :: ·) := by
  simp only [readStatements]
  cases readStatements rest <;> rfl

theorem readStatements_announce (rest : List Token) :
    readStatements (.word "_emitDiamondCutEvent" :: .symbol '(' :: .symbol ')' :: .symbol ';'
        :: rest) =
      (readStatements rest).map (.announce :: ·) := by
  simp only [readStatements]
  cases readStatements rest <;> rfl

/-! ## Running a list of statements -/

theorem Store.run_append (store : Store) (first second : List Statement) :
    store.run (first ++ second) = (store.run first).bind fun middle => middle.run second := by
  rw [run, List.foldlM_append]
  rfl

theorem write_append (value : Literal) (cells : List (List Literal)) :
    ∀ done : List (List Literal),
      write value done.length (done ++ [] :: cells) = some (done ++ [value] :: cells)
  | [] => rfl
  | cell :: done => by
      rw [List.length_cons, List.cons_append, write, write_append value cells done]
      rfl

/-- Assignments by rising index fill an array, each cell once. -/
theorem Store.run_assignments (facets : List (String × List (List Literal))) (announced : Nat) :
    ∀ (values : List Literal) (done : List (List Literal)),
      run ⟨some (done ++ List.replicate values.length []), facets, announced⟩
          ((values.zipIdx done.length).map fun (value, index) => .assign index value) =
        some ⟨some (done ++ values.map fun value => [value]), facets, announced⟩
  | [], done => by simp [run]
  | value :: values, done => by
      have ih := run_assignments facets announced values (done ++ [[value]])
      rw [List.length_append, List.length_singleton, List.append_assoc] at ih
      rw [run] at ih ⊢
      rw [List.zipIdx_cons, List.map_cons, List.foldlM_cons, List.length_cons,
        List.replicate_succ, step]
      simp only [Option.bind_eq_bind, Option.bind_some, write_append, Option.pure_def]
      rw [List.map_cons]
      simpa using ih

end SelectorRouter.Solidity
