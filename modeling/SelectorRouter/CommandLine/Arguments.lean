import SelectorRouter.CommandLine.Option
import SelectorRouter.Fault

/-!
# Reading the arguments

The arguments of a run from the words of the command line. The input files are one
run of words between options; words of a second run are not recognised. Everything
after a double dash is an input file. The last value of an option counts.

A double dash never is a value: as the value of an option it is dropped, and the
option is left with an empty list of values.
-/

namespace SelectorRouter.CommandLine

/-- The value that an option was given. -/
inductive OptionValue where
  | dropped
  | text (s : String)
  deriving Repr, DecidableEq

namespace OptionValue

def ofString (s : String) : OptionValue :=
  if s = "--" then dropped else text s

/-- A dropped value counts as the empty list. -/
def toJson : OptionValue → Json
  | dropped => .arr []
  | text s => .str s

/-- The path that an option gives, unless it is empty. -/
def path? : OptionValue → Option String
  | dropped => none
  | text s => if s.isEmpty then none else some s

end OptionValue

structure Arguments where
  inputs : List String
  name : Option OptionValue
  template : Option OptionValue
  config : Option OptionValue
  output : Option OptionValue
  warnings : Option OptionValue
  limit : Option Json
  receive : Bool
  diamond : Bool
  coverage : Bool
  verbose : Bool
  debug : Bool
  deriving Repr

def Arguments.empty : Arguments :=
  ⟨[], none, none, none, none, none, none, false, false, false, false, false⟩

/-- What ends a run before it starts. -/
inductive Stop where
  | help
  | version
  | usage (message : String)
  deriving Repr, DecidableEq

/-! ## What a word is -/

/-- A word that is read as an option: which one, how it was spelled, and the value in
the same word. -/
structure Spelled where
  flag : Flag
  spelling : String
  value : Option String
  deriving Repr

inductive Word where
  | operand (s : String)
  | separator
  | option (s : Spelled)
  | unknown (s : String)
  deriving Repr

/-- The parts of a word before and after its first equals sign. -/
def splitEquals (cs : List Char) : List Char × Option (List Char) :=
  match cs.dropWhile (· ≠ '=') with
  | [] => (cs, none)
  | _ :: value => (cs.takeWhile (· ≠ '='), some value)

/-- A minus sign and digits, perhaps with a decimal point before some of them. -/
def looksNegative (cs : List Char) : Bool :=
  let isDigit (c : Char) := (Text.decimalValue? c).isSome
  let digits (cs : List Char) :=
    -- a line feed at the very end is overlooked
    let cs := if cs.getLast? = some '\n' then cs.dropLast else cs
    !cs.isEmpty && cs.all isDigit
  match cs with
  | '-' :: rest =>
    digits rest ||
      match rest.dropWhile isDigit with
      | '.' :: fraction => digits fraction
      | _ => false
  | _ => false

/-- The options that a word may stand for: those a long word is the beginning of, or
the one that a short word starts with. -/
def interpretations (s : String) : List Spelled :=
  match s.toList with
  | '-' :: '-' :: _ =>
    let (start, value) := splitEquals s.toList
    (Flag.spellings.filter fun (spelling, _) => start.isPrefixOf spelling.toList).map
      fun (spelling, flag) => ⟨flag, spelling, value.map String.ofList⟩
  | '-' :: c :: value =>
    (Flag.spellings.filter fun (spelling, _) => spelling.toList = ['-', c]).map
      fun (spelling, flag) => ⟨flag, spelling, some (String.ofList value)⟩
  | _ => []

def classify (s : String) : Except Stop Word :=
  if !s.startsWith "-" || s = "-" then .ok (.operand s)
  else match Flag.spellings.lookup s with
    | some flag => .ok (.option ⟨flag, s, none⟩)
    | none =>
      let (start, value) := splitEquals s.toList
      match Flag.spellings.lookup (String.ofList start), value with
      | some flag, some value =>
        .ok (.option ⟨flag, String.ofList start, some (String.ofList value)⟩)
      | _, _ =>
        match interpretations s with
        | [found] => .ok (.option found)
        | [] =>
          if looksNegative s.toList || s.contains ' ' then .ok (.operand s)
          else .ok (.unknown s)
        | found =>
          .error (.usage ("ambiguous option: " ++ s ++ " could match "
            ++ ", ".intercalate (found.map (·.spelling))))

/-- Every word up to a double dash is looked at before any option acts. -/
def classifyAll : List String → Except Stop (List Word)
  | [] => .ok []
  | s :: rest =>
    if s = "--" then .ok (.separator :: rest.map .operand)
    else do
      let word ← classify s
      let words ← classifyAll rest
      return word :: words

/-! ## What options do -/

def complain {α : Type} (flag : Flag) (message : String) : Except Stop α :=
  .error (.usage ("argument " ++ flag.label ++ ": " ++ message))

def warningChoices : List String := ["error", "none"]

def checkWarnings (value : OptionValue) : Except Stop Unit :=
  match value with
  | .dropped => .ok ()
  | .text s =>
    if warningChoices.contains s then .ok ()
    else complain .warnings ("invalid choice: " ++ Text.quoted s ++ " (choose from "
      ++ ", ".intercalate (warningChoices.map Text.quoted) ++ ")")

def limitOfValue (value : OptionValue) : Except Stop Json :=
  match value with
  | .dropped => .ok value.toJson
  | .text s =>
    match Number.readInteger 10 s with
    | .ok n => .ok (.int n)
    | .error _ => complain .limit ("invalid int value: " ++ Text.quoted s)

/-- The effect of an option that takes a value. -/
def applyValue (flag : Flag) (value : OptionValue) (args : Arguments) :
    Except Stop Arguments :=
  match flag with
  | .name => .ok { args with name := some value }
  | .template => .ok { args with template := some value }
  | .config => .ok { args with config := some value }
  | .output => .ok { args with output := some value }
  | .warnings => do
    checkWarnings value
    return { args with warnings := some value }
  | .limit => do
    return { args with limit := some (← limitOfValue value) }
  | _ => .ok args

/-- The effect of an option that takes no value. -/
def apply (flag : Flag) (args : Arguments) : Except Stop Arguments :=
  match flag with
  | .help => .error .help
  | .version => .error .version
  | .receive => .ok { args with receive := true }
  | .diamond => .ok { args with diamond := true }
  | .coverage => .ok { args with coverage := true }
  | .verbose => .ok { args with verbose := true }
  | .debug => .ok { args with debug := true }
  | _ => .ok args

/-- The options that one word holds. The last may take its value from the word or
still need the next one. -/
structure Bundle where
  flags : List Flag
  last : Flag
  value : Option String
  deriving Repr

/-- Takes a word of joined short options apart. `letters` is what follows the option
in its word. -/
def unbundle (flag : Flag) (letters : List Char) : Except Stop Bundle :=
  if flag.takesValue then .ok ⟨[], flag, some (String.ofList letters)⟩
  else match letters with
    | [] => .ok ⟨[], flag, none⟩
    | c :: rest =>
      match Flag.spellings.lookup (String.ofList ['-', c]) with
      | none =>
        complain flag ("ignored explicit argument " ++ Text.quoted (String.ofList letters))
      | some next =>
        if rest.isEmpty then .ok ⟨[flag], next, none⟩
        else (unbundle next rest).map fun b => { b with flags := flag :: b.flags }
termination_by letters.length

/-- An option without a value takes none from its word, unless it is a short one that
others are joined to. -/
def bundleOf (s : Spelled) : Except Stop Bundle :=
  match s.value with
  | none => .ok ⟨[], s.flag, none⟩
  | some value =>
    if !s.flag.takesValue && (value.isEmpty || s.spelling.startsWith "--") then
      complain s.flag ("ignored explicit argument " ++ Text.quoted value)
    else unbundle s.flag value.toList

def applyAll (flags : List Flag) (args : Arguments) : Except Stop Arguments :=
  flags.foldlM (fun args flag => apply flag args) args

/-! ## Runs of words -/

/-- The words before the next option, as they were written. -/
def operandRun : List Word → List String
  | .operand s :: rest => s :: operandRun rest
  | .separator :: rest => "--" :: operandRun rest
  | _ => []

def afterRun : List Word → List Word
  | .operand _ :: rest => afterRun rest
  | .separator :: rest => afterRun rest
  | words => words

/-- Does a run hold a word that can be an input file? -/
def holdsOperand : List Word → Bool
  | .operand _ :: _ => true
  | .separator :: rest => holdsOperand rest
  | _ => false

/-- Walks along the words; `taken` says that the input files have been found, and
`extras` holds the words that mean nothing. Each call takes at least one word. -/
def walk : Nat → Bool → List String → Arguments → List Word →
    Except Stop (Arguments × Bool × List String)
  | 0, taken, extras, args, _ => .ok (args, taken, extras)
  | _ + 1, taken, extras, args, [] => .ok (args, taken, extras)
  | fuel + 1, taken, extras, args, .unknown s :: rest =>
    walk fuel taken (extras ++ [s]) args rest
  | fuel + 1, taken, extras, args, .option s :: rest => do
    let bundle ← bundleOf s
    match bundle.last.takesValue, bundle.value, rest with
    | false, _, rest =>
      let args ← applyAll bundle.flags args
      walk fuel taken extras (← apply bundle.last args) rest
    | true, some value, rest =>
      let args ← applyAll bundle.flags args
      walk fuel taken extras (← applyValue bundle.last (.ofString value) args) rest
    | true, none, .operand value :: rest =>
      let args ← applyAll bundle.flags args
      walk fuel taken extras (← applyValue bundle.last (.ofString value) args) rest
    | true, none, _ => complain bundle.last "expected one argument"
  | fuel + 1, taken, extras, args, word :: rest =>
    let words := word :: rest
    if !taken && holdsOperand words then
      let inputs := (operandRun words).erase "--"
      walk fuel true extras { args with inputs := inputs } (afterRun words)
    else walk fuel taken (extras ++ operandRun words) args (afterRun words)

def parse (argv : List String) : Except Stop Arguments := do
  let words ← classifyAll argv
  let (args, taken, extras) ← walk (words.length + 1) false [] .empty words
  if !taken then .error (.usage "the following arguments are required: input_files")
  else if extras.isEmpty then return args
  else .error (.usage ("unrecognized arguments: " ++ " ".intercalate extras))

end SelectorRouter.CommandLine
