import SelectorRouter.Fault
import SelectorRouter.Text.Blank

/-!
# ABI parameters

The type of a parameter is an elementary type or a tuple of parameters, followed
by array suffixes. Reading it from an ABI removes blanks and replaces the short
names of types by their full ones, so two parameters are the same type exactly
when they read as the same `Parameter`. Its canonical text is what signatures
are made of.
-/

namespace SelectorRouter

inductive Parameter where
  | elementary (base suffix : String)
  | tuple (components : List Parameter) (suffix : String)
  deriving Repr, Inhabited

namespace Parameter

def fullNames : List (String × String) :=
  [("uint", "uint256"), ("int", "int256"), ("fixed", "fixed128x18"),
    ("ufixed", "ufixed128x18")]

def fullName (base : String) : String :=
  (fullNames.lookup base).getD base

def isLetter (c : Char) : Bool :=
  'a' ≤ c && c ≤ 'z'

/-- The characters of sizes, as in `uint8` and `fixed128x18`. -/
def isSize (c : Char) : Bool :=
  Json.isDigit c || c == 'x'

/-- Is the text a sequence of `[` digits `]`? `inside` says that a bracket is open. -/
def isArraySuffix (inside : Bool) : List Char → Bool
  | [] => !inside
  | c :: rest =>
    if inside then
      if c = ']' then isArraySuffix false rest else Json.isDigit c && isArraySuffix true rest
    else c == '[' && isArraySuffix true rest

/-- A type name, which starts with letters and goes on with sizes, and the array
suffixes after it. -/
def splitType? (type : List Char) : Option (List Char × List Char) :=
  let letters := type.takeWhile isLetter
  let rest := type.dropWhile isLetter
  let suffix := rest.dropWhile isSize
  if letters.isEmpty then none
  else if isArraySuffix false suffix then some (letters ++ rest.takeWhile isSize, suffix)
  else none

/-- The text after the word `tuple`, if a type starts with it. -/
def tupleSuffix? (type : List Char) : Option (List Char) :=
  Json.dropWord? "tuple".toList type

def readElementary (type : List Char) : Except ParameterDefect Parameter :=
  match splitType? type with
  | some (base, suffix) =>
    .ok (.elementary (fullName (String.ofList base)) (String.ofList suffix))
  | none => .error (.invalidType (String.ofList type))

theorem sizeOf_lookup {name : String} {members : List (String × Json)} {v : Json}
    (h : members.lookup name = some v) : sizeOf v < sizeOf members := by
  induction members with
  | nil => simp at h
  | cons m rest ih =>
    obtain ⟨key, value⟩ := m
    rw [List.lookup_cons] at h
    split at h
    · cases h
      simp +arith
    · have := ih h
      simp +arith at this ⊢
      omega

mutual
/-- A tuple type is one that starts with the word `tuple`; what follows the word
must complete a type name and is kept as the suffix of the tuple. -/
def ofJson (param : Json) : Except ParameterDefect Parameter :=
  match param with
  | .obj members =>
    match members.lookup "type" with
    | some (.str text) =>
      let type := Text.withoutBlanks text
      match tupleSuffix? type with
      | none => readElementary type
      | some suffix =>
        match _h : members.lookup "components" with
        | some (.arr components) =>
          if (splitType? type).isNone then .error (.invalidType (String.ofList type))
          else
            (ofJsons components).map fun inner => .tuple inner (String.ofList suffix)
        | _ => .error (.noComponents param)
    | _ => .error (.noType param)
  | _ => .error (.noType param)
termination_by sizeOf param
decreasing_by
  have := sizeOf_lookup _h
  simp +arith at this ⊢
  omega

/-- Reads a list of parameters up to the first that is malformed. -/
def ofJsons (params : List Json) : Except ParameterDefect (List Parameter) :=
  match params with
  | [] => .ok []
  | param :: rest => do
    let first ← ofJson param
    let others ← ofJsons rest
    return first :: others
termination_by sizeOf params
end

mutual
def canonical : Parameter → String
  | elementary base suffix => base ++ suffix
  | tuple components suffix => "(" ++ ",".intercalate (canonicals components) ++ ")" ++ suffix

def canonicals : List Parameter → List String
  | [] => []
  | p :: rest => canonical p :: canonicals rest
end

end Parameter

end SelectorRouter
