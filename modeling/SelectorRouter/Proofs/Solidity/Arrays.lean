import SelectorRouter.Proofs.Solidity.Program

/-!
# Functions that fill an array

A text is cut into functions at the keyword, and the body of a function ends at the brace that
closes it. The statements of a body are read one by one up to their semicolons: an array is
allocated, its cells are written by index, and it may be announced in an event.

Memory is as fine here as in the constructor. A cell keeps every value that is written to it, and
an array is allocated once. A write to an array that is not there, or out of its bounds, has no
outcome, and no more has a statement of any other form.
-/

namespace SelectorRouter.Solidity

open Code (Token Literal)

/-! ## Functions -/

/-- The tokens up to the brace that closes a block; `depth` blocks are open inside it. -/
def blockFrom : Nat → List Token → Option (List Token)
  | _, [] => none
  | depth, .symbol '{' :: rest => (blockFrom (depth + 1) rest).map (.symbol '{' :: ·)
  | 0, .symbol '}' :: _ => some []
  | depth + 1, .symbol '}' :: rest => (blockFrom depth rest).map (.symbol '}' :: ·)
  | depth, token :: rest => (blockFrom depth rest).map (token :: ·)

/-- The functions of a text, each with the tokens behind its name up to the next function. -/
def functions (ts : List Token) : List (String × List Token) :=
  (ts.splitOn (.word "function")).tail.filterMap fun
    | .word name :: rest => some (name, rest)
    | _ => none

/-- The body of the one function that has the name. -/
def body? (name : String) (text : String) : Option (List Token) :=
  match (functions (Code.tokens text)).filter (·.1 == name) with
  | [f] => blockFrom 0 (f.2.dropWhile (· != .symbol '{')).tail
  | _ => none

/-! ## Statements -/

/-- What is written to a cell: a constant, or a cut with the constants it is made of. -/
inductive Item where
  | constant (identifier : String)
  | cut (facet action selectorsOf : String)
  deriving Repr, DecidableEq

/-- The addresses that the constant of an entry is declared with. -/
def Item.addresses (declared : List (String × String)) : Item → List String
  | .constant identifier => addressesOf declared identifier
  | .cut facet _ _ => addressesOf declared facet

def Item.read? : List Token → Option Item
  | [.word identifier] => some (.constant identifier)
  | [.word "FacetCut", .symbol '(', .word facet, .symbol ',', .word "FacetCutAction", .symbol '.',
      .word action, .symbol ',', .word "_facetFunctionSelectors", .symbol '(', .word selectorsOf,
      .symbol ')', .symbol ')'] => some (.cut facet action selectorsOf)
  | _ => none

inductive Filling where
  | allocate (kind array : String) (size : Nat)
  | put (array : String) (index : Nat) (item : Item)
  | emit (array : String)
  | succeed
  deriving Repr, DecidableEq

/-- Reads a statement without its semicolon. The array of an allocation is declared there, or
is the one that the function returns. -/
def Filling.read? : List Token → Option Filling
  | [.word array, .symbol '=', .word "new", .word kind, .symbol '[', .symbol ']', .symbol '(',
      .word size, .symbol ')'] => do
    let size ← Literal.read? size
    return .allocate kind array size.value
  | [.word declared, .symbol '[', .symbol ']', .word "memory", .word array, .symbol '=',
      .word "new", .word kind, .symbol '[', .symbol ']', .symbol '(', .word size,
      .symbol ')'] => do
    let size ← Literal.read? size
    if declared = kind then return .allocate kind array size.value else none
  | .word array :: .symbol '[' :: .word index :: .symbol ']' :: .symbol '=' :: item => do
    let index ← Literal.read? index
    let item ← Item.read? item
    return .put array index.value item
  | [.word "emit", .word "DiamondCut", .symbol '(', .word array, .symbol ',', .word "address",
      .symbol '(', .word "0", .symbol ')', .symbol ',', .word "new", .word "bytes", .symbol '(',
      .word "0", .symbol ')', .symbol ')'] => some (.emit array)
  | [.word "return", .word "true"] => some .succeed
  | _ => none

/-- Reads a body, whose last statement must have its semicolon. -/
def readFillings (body : List Token) : Option (List Filling) :=
  let statements := body.splitOn (.symbol ';')
  if statements.getLast? = some [] then statements.dropLast.mapM Filling.read? else none

/-! ## Running -/

/-- An array with the values that were written to each of its cells. -/
structure Buffer where
  kind : String
  name : String
  cells : List (List Item)
  deriving Repr, DecidableEq

/-- The arrays that are allocated, and those that were announced as they were then. -/
structure Memory where
  arrays : List Buffer
  announced : List Buffer
  deriving Repr, DecidableEq

def Buffer.put (index : Nat) (item : Item) (buffer : Buffer) : Buffer :=
  { buffer with cells := buffer.cells.modify index (· ++ [item]) }

namespace Memory

def empty : Memory := ⟨[], []⟩

def array? (memory : Memory) (name : String) : Option Buffer :=
  memory.arrays.find? (·.name == name)

def step (memory : Memory) : Filling → Option Memory
  | .allocate kind name size =>
    if (memory.array? name).isSome then none
    else some { memory with arrays := memory.arrays ++ [⟨kind, name, List.replicate size []⟩] }
  | .put name index item => do
    let buffer ← memory.array? name
    if index < buffer.cells.length then
      return { memory with
        arrays := memory.arrays.map fun b => if b.name = name then b.put index item else b }
    else none
  | .emit name => do
    let buffer ← memory.array? name
    return { memory with announced := memory.announced ++ [buffer] }
  | .succeed => some memory

def run (memory : Memory) (statements : List Filling) : Option Memory :=
  statements.foldlM step memory

end Memory

/-- Runs the function of a text that has the name. -/
def runFunction (name text : String) : Option Memory := do
  let body ← body? name text
  let statements ← readFillings body
  Memory.empty.run statements

/-! ## Finding a body -/

/-- The tokens of a function, which is given by its name and the tokens behind the name. -/
def functionTokens (f : String × List Token) : List Token :=
  .word "function" :: .word f.1 :: f.2

/-- A function that holds no other one. -/
def IsSingle (f : String × List Token) : Prop :=
  .word "function" ∉ Token.word f.1 :: f.2

theorem functionTokens_append (name : String) (ts more : List Token) :
    functionTokens (name, ts ++ more) = functionTokens (name, ts) ++ more :=
  rfl

theorem IsSingle.append {name : String} {ts more : List Token} (h : IsSingle (name, ts))
    (others : .word "function" ∉ more) : IsSingle (name, ts ++ more) := by
  rw [IsSingle, ← List.cons_append, List.mem_append, not_or]
  exact ⟨h, others⟩

theorem splitOn_functions : ∀ {fs : List (String × List Token)} {before : List Token},
    .word "function" ∉ before → (∀ f ∈ fs, IsSingle f) →
      (before ++ fs.flatMap functionTokens).splitOn (.word "function") =
        before :: fs.map fun f => .word f.1 :: f.2
  | [], before, start, _ => by
      rw [List.flatMap_nil, List.append_nil, List.splitOn_eq_singleton start, List.map_nil]
  | f :: fs, before, start, h => by
      obtain ⟨first, others⟩ := List.forall_mem_cons.mp h
      rw [List.flatMap_cons, functionTokens, List.cons_append,
        List.splitOn_append_cons_self_of_not_mem start, splitOn_functions first others,
        List.map_cons]

/-- A text of functions is cut into these functions. -/
theorem functions_eq {before : List Token} {fs : List (String × List Token)}
    (start : .word "function" ∉ before) (h : ∀ f ∈ fs, IsSingle f) :
    functions (before ++ fs.flatMap functionTokens) = fs := by
  rw [functions, splitOn_functions start h, List.tail_cons, List.filterMap_map]
  exact List.filterMap_some

theorem blockFrom_closed (rest : List Token) : ∀ {body : List Token},
    .symbol '{' ∉ body → .symbol '}' ∉ body →
      blockFrom 0 (body ++ .symbol '}' :: rest) = some body
  | [], _, _ => rfl
  | token :: body, opens, closes => by
      rw [List.mem_cons, not_or] at opens closes
      rw [List.cons_append, blockFrom, blockFrom_closed rest opens.2 closes.2]
      · rfl
      · exact Ne.symm opens.1
      · exact fun _ same => closes.1 same.symm
      · exact fun _ _ same => closes.1 same.symm

/-- A function without blocks inside is found by its name, when no other one has it. -/
theorem body?_eq {name text : String} {before head body : List Token}
    {fs : List (String × List Token)}
    (read : Code.tokens text = before ++ fs.flatMap functionTokens)
    (start : .word "function" ∉ before) (single : ∀ f ∈ fs, IsSingle f)
    (only : fs.filter (·.1 == name) = [(name, head ++ .symbol '{' :: (body ++ [.symbol '}']))])
    (flat : .symbol '{' ∉ head) (opens : .symbol '{' ∉ body) (closes : .symbol '}' ∉ body) :
    body? name text = some body := by
  have skipped : ∀ token ∈ head, (token != .symbol '{') = true := by
    intro token among
    rw [bne_iff_ne]
    rintro rfl
    exact flat among
  have opened : ((head ++ Token.symbol '{' :: (body ++ [.symbol '}'])).dropWhile
      (· != .symbol '{')).tail = body ++ [.symbol '}'] := by
    rw [List.dropWhile_append_of_pos skipped]
    rfl
  rw [body?, read, functions_eq start single, only]
  show blockFrom 0 _ = _
  rw [opened, blockFrom_closed [] opens closes]

/-! ## Reading a statement -/

theorem read?_allocate {size : String} {literal : Literal}
    (h : Literal.read? size = some literal) (kind array : String) :
    Filling.read? [.word array, .symbol '=', .word "new", .word kind, .symbol '[', .symbol ']',
        .symbol '(', .word size, .symbol ')'] = some (.allocate kind array literal.value) := by
  rw [Filling.read?, h]
  rfl

theorem read?_declare {size : String} {literal : Literal}
    (h : Literal.read? size = some literal) (kind array : String) :
    Filling.read? [.word kind, .symbol '[', .symbol ']', .word "memory", .word array,
        .symbol '=', .word "new", .word kind, .symbol '[', .symbol ']', .symbol '(', .word size,
        .symbol ')'] = some (.allocate kind array literal.value) := by
  rw [Filling.read?, h]
  exact if_pos rfl

theorem read?_put {index : String} {literal : Literal} {ts : List Token} {item : Item}
    (hi : Literal.read? index = some literal) (ht : Item.read? ts = some item) (array : String) :
    Filling.read? (.word array :: .symbol '[' :: .word index :: .symbol ']' :: .symbol '=' :: ts) =
      some (.put array literal.value item) := by
  rw [Filling.read?, hi, ht]
  rfl

/-! ## Reading a body -/

/-- Tokens that are one statement with its semicolon, and neither open nor close anything. -/
def Spells (ts : List Token) (statement : Filling) : Prop :=
  ∃ code, ts = code ++ [.symbol ';'] ∧ Filling.read? code = some statement ∧
    ∀ token ∈ [.symbol ';', .symbol '{', .symbol '}', .word "function"], token ∉ code

section Bodies

variable {α : Type} {spelling : α → List Token} {meaning : α → Filling}

theorem exists_codes : ∀ {as : List α}, (∀ a ∈ as, Spells (spelling a) (meaning a)) →
    ∃ codes, (as.flatMap spelling).splitOn (.symbol ';') = codes ++ [[]] ∧
      codes.mapM Filling.read? = some (as.map meaning)
  | [], _ => ⟨[], rfl, rfl⟩
  | a :: as, h => by
      obtain ⟨⟨code, spelled, read, apart⟩, others⟩ := List.forall_mem_cons.mp h
      obtain ⟨codes, split, all⟩ := exists_codes others
      refine ⟨code :: codes, ?_, ?_⟩
      · rw [List.flatMap_cons, spelled, List.append_assoc, List.singleton_append,
          List.splitOn_append_cons_self_of_not_mem (apart _ List.mem_cons_self), split,
          List.cons_append]
      · rw [List.mapM_cons, read, all]
        rfl

/-- A body of such statements is read as what they mean. -/
theorem readFillings_flatMap {as : List α} (h : ∀ a ∈ as, Spells (spelling a) (meaning a)) :
    readFillings (as.flatMap spelling) = some (as.map meaning) := by
  obtain ⟨codes, split, all⟩ := exists_codes h
  rw [readFillings, split]
  simp only [List.getLast?_append, List.getLast?_singleton, Option.some_or, if_true,
    List.dropLast_concat, all]

theorem not_mem_flatMap_of_spells {as : List α} (h : ∀ a ∈ as, Spells (spelling a) (meaning a)) :
    ∀ token ∈ [.symbol '{', .symbol '}', .word "function"], token ∉ as.flatMap spelling := by
  intro token among used
  obtain ⟨a, ha, used⟩ := List.mem_flatMap.mp used
  obtain ⟨code, spelled, -, apart⟩ := h a ha
  rw [spelled, List.mem_append, List.mem_singleton] at used
  rcases used with used | rfl
  · exact apart token (List.mem_cons_of_mem _ among) used
  · simp at among

end Bodies

/-! ## Filling an array -/

namespace Memory

theorem run_append (memory : Memory) (first second : List Filling) :
    memory.run (first ++ second) = (memory.run first).bind fun middle => middle.run second := by
  rw [run, List.foldlM_append]
  rfl

theorem step_put (kind name : String) (item : Item) (done rest : List (List Item))
    (announced : List Buffer) :
    step ⟨[⟨kind, name, done ++ [] :: rest⟩], announced⟩ (.put name done.length item) =
      some ⟨[⟨kind, name, done ++ [item] :: rest⟩], announced⟩ := by
  have found : array? ⟨[⟨kind, name, done ++ [] :: rest⟩], announced⟩ name =
      some ⟨kind, name, done ++ [] :: rest⟩ := List.find?_cons_of_pos (beq_iff_eq.mpr rfl)
  have inBounds : done.length < (done ++ [] :: rest).length := by simp
  have written : (done ++ [] :: rest).modify done.length (· ++ [item]) = done ++ [item] :: rest :=
    List.modifyTailIdx_add _ 0 done ([] :: rest)
  simp only [step, found, Option.bind_eq_bind, Option.bind_some, if_pos inBounds, List.map_cons,
    List.map_nil, if_true, Buffer.put, written, Option.pure_def]

/-- Writes by rising index fill an array, each cell once. -/
theorem run_puts (kind name : String) (announced : List Buffer) :
    ∀ (items : List Item) (done : List (List Item)),
      run ⟨[⟨kind, name, done ++ List.replicate items.length []⟩], announced⟩
          ((items.zipIdx done.length).map fun (item, index) => .put name index item) =
        some ⟨[⟨kind, name, done ++ items.map fun item => [item]⟩], announced⟩
  | [], done => by simp [run]
  | item :: items, done => by
      have ih := run_puts kind name announced items (done ++ [[item]])
      rw [List.length_append, List.length_singleton, List.append_assoc] at ih
      rw [run] at ih ⊢
      rw [List.zipIdx_cons, List.map_cons, List.foldlM_cons, List.length_cons,
        List.replicate_succ, step_put, List.map_cons]
      simpa using ih

/-- **An array that is allocated and filled** has each of its cells written once. -/
theorem run_fill (kind name : String) (items : List Item) :
    run empty (.allocate kind name items.length
        :: items.zipIdx.map fun (item, index) => .put name index item) =
      some ⟨[⟨kind, name, items.map fun item => [item]⟩], []⟩ :=
  run_puts kind name [] items []

end Memory

/-! ## Running a function -/

/-- The block of a program, which is given by its lines with what each of them does. -/
def block (program : List (String × Filling)) : List Token :=
  .symbol '{' :: ((program.flatMap fun line => Code.tokens line.1) ++ [.symbol '}'])

section Programs

variable {program : List (String × Filling)}
  (spells : ∀ line ∈ program, Spells (Code.tokens line.1) line.2)

include spells

theorem function_not_mem_block : .word "function" ∉ block program := by
  have body := not_mem_flatMap_of_spells spells (.word "function") (by simp)
  simpa [block] using body

/-- **A function runs as its lines say**, when it is the only one that has its name. -/
theorem runFunction_eq {name text : String} {before head : List Token}
    {fs : List (String × List Token)}
    (read : Code.tokens text = before ++ fs.flatMap functionTokens)
    (start : .word "function" ∉ before) (single : ∀ f ∈ fs, IsSingle f)
    (only : fs.filter (·.1 == name) = [(name, head ++ block program)])
    (flat : .symbol '{' ∉ head) :
    runFunction name text = Memory.empty.run (program.map (·.2)) := by
  have opens := not_mem_flatMap_of_spells spells (.symbol '{') (by simp)
  have closes := not_mem_flatMap_of_spells spells (.symbol '}') (by simp)
  have body := body?_eq read start single only flat opens closes
  rw [runFunction, body, Option.bind_eq_bind, Option.bind_some, readFillings_flatMap spells]
  rfl

end Programs

end SelectorRouter.Solidity
