import SelectorRouter.Json.Value
import SelectorRouter.Number.Integer

/-!
# Reading JSON text

A reader for JSON texts that also takes `NaN`, `Infinity` and `-Infinity`. A
repeated name keeps its first place and its last value. A malformed text is
reported with the character at which reading stopped; an unterminated string is
reported at its opening quote, a missing value or name where it should start.

Strings are texts of Unicode characters. Half of a surrogate pair that stands alone in an
escape is none, and reading puts the replacement character in its place.
-/

namespace SelectorRouter.Json

inductive ReadDefect where
  | byteOrderMark
  | expectingValue
  | expectingName
  | expectingColon
  | expectingComma
  | extraData
  | unterminatedString
  | controlCharacter
  | invalidEscape
  | invalidUnicodeEscape
  | longInteger (digits : Nat)
  deriving Repr, DecidableEq

def ReadDefect.message : ReadDefect → String
  | .byteOrderMark => "Unexpected UTF-8 BOM (decode using utf-8-sig)"
  | .expectingValue => "Expecting value"
  | .expectingName => "Expecting property name enclosed in double quotes"
  | .expectingColon => "Expecting ':' delimiter"
  | .expectingComma => "Expecting ',' delimiter"
  | .extraData => "Extra data"
  | .unterminatedString => "Unterminated string starting at"
  | .controlCharacter => "Invalid control character at"
  | .invalidEscape => "Invalid \\escape"
  | .invalidUnicodeEscape => "Invalid \\uXXXX escape"
  | .longInteger digits => (Number.IntegerDefect.tooLong digits).message "" 10

/-- What is wrong and how many characters of the text are left at that place. -/
structure Stop where
  defect : ReadDefect
  left : Nat
  deriving Repr, DecidableEq

def stopAt {α : Type} (defect : ReadDefect) (rest : List Char) : Except Stop α :=
  .error ⟨defect, rest.length⟩

def isSpace (c : Char) : Bool :=
  c = ' ' || c = '\t' || c = '\n' || c = '\r'

def skipSpace (cs : List Char) : List Char :=
  cs.dropWhile isSpace

/-- The rest of the text after a word, if the text starts with it. -/
def dropWord? : List Char → List Char → Option (List Char)
  | [], cs => some cs
  | w :: word, c :: cs => if w = c then dropWord? word cs else none
  | _ :: _, [] => none

def isDigit (c : Char) : Bool :=
  '0' ≤ c && c ≤ '9'

/-! ## Strings -/

def hexQuad? : List Char → Option (Nat × List Char)
  | a :: b :: c :: d :: rest => do
    let a ← Text.hexValue? a
    let b ← Text.hexValue? b
    let c ← Text.hexValue? c
    let d ← Text.hexValue? d
    return (((a * 16 + b) * 16 + c) * 16 + d, rest)
  | _ => none

def plainEscape? (c : Char) : Option Char :=
  match c with
  | '"' => some '"'
  | '\\' => some '\\'
  | '/' => some '/'
  | 'b' => some '\x08'
  | 'f' => some '\x0c'
  | 'n' => some '\n'
  | 'r' => some '\r'
  | 't' => some '\t'
  | _ => none

/-- The character of a code unit; half of a surrogate pair that stands alone
becomes the replacement character. -/
def unitChar (n : Nat) : Char :=
  if 0xD800 ≤ n ∧ n ≤ 0xDFFF then '\uFFFD' else Char.ofNat n

/-- Four digits after `\u` and, when they are the first half of a surrogate pair,
the second half after them. A further character must follow the digits. -/
def unicodeEscape (rest : List Char) : Except Stop (Char × List Char) :=
  -- the place of the letter `u`, one character back
  let here : Stop := ⟨.invalidUnicodeEscape, rest.length + 1⟩
  match hexQuad? rest with
  | none => .error here
  | some (_, []) => .error here
  | some (high, after) =>
    if 0xD800 ≤ high ∧ high ≤ 0xDBFF then
      match after with
      | '\\' :: 'u' :: more =>
        if more.length ≤ 4 then .ok (unitChar high, after)
        else match hexQuad? more with
          | none => .error ⟨.invalidUnicodeEscape, more.length + 1⟩
          | some (low, after') =>
            if 0xDC00 ≤ low ∧ low ≤ 0xDFFF then
              .ok (Char.ofNat (0x10000 + (high - 0xD800) * 0x400 + (low - 0xDC00)), after')
            else .ok (unitChar high, after)
      | _ => .ok (unitChar high, after)
    else .ok (unitChar high, after)

/-- The characters of a string up to its closing quote. `start` is what is left of
the text at the opening quote. -/
def stringBody (start : Nat) : Nat → List Char → List Char → Except Stop (String × List Char)
  | 0, _, cs => stopAt .unterminatedString cs
  | _ + 1, _, [] => .error ⟨.unterminatedString, start⟩
  | fuel + 1, read, c :: cs =>
    if c = '"' then .ok (String.ofList read.reverse, cs)
    else if c = '\\' then
      match cs with
      | [] => .error ⟨.unterminatedString, start⟩
      | 'u' :: rest => do
        let (escaped, after) ← unicodeEscape rest
        stringBody start fuel (escaped :: read) after
      | e :: rest =>
        match plainEscape? e with
        | some escaped => stringBody start fuel (escaped :: read) rest
        | none => stopAt .invalidEscape (c :: cs)
    else if c.toNat < 32 then stopAt .controlCharacter (c :: cs)
    else stringBody start fuel (c :: read) cs

/-- Reads a string after its opening quote. -/
def readString (cs : List Char) : Except Stop (String × List Char) :=
  stringBody (cs.length + 1) (cs.length + 1) [] cs

/-! ## Numbers -/

def ofDigitChars (cs : List Char) : Nat :=
  cs.foldl (fun n c => 10 * n + (c.toNat - '0'.toNat)) 0

/-- The digits after a decimal point; the point counts only before a digit. -/
def splitFraction : List Char → Option (List Char) × List Char
  | '.' :: c :: rest =>
    if isDigit c then (some (c :: rest.takeWhile isDigit), rest.dropWhile isDigit)
    else (none, '.' :: c :: rest)
  | cs => (none, cs)

/-- The exponent; the letter counts only before a digit or a signed digit. -/
def splitExponent : List Char → Option Int × List Char
  | e :: rest =>
    if e = 'e' ∨ e = 'E' then
      let (negative, digits) := match rest with
        | '-' :: ds => (true, ds)
        | '+' :: ds => (false, ds)
        | ds => (false, ds)
      if (digits.takeWhile isDigit).isEmpty then (none, e :: rest)
      else
        let n : Int := ofDigitChars (digits.takeWhile isDigit)
        (some (if negative then -n else n), digits.dropWhile isDigit)
    else (none, e :: rest)
  | [] => (none, [])

/-- Reads a number; `start` is the text at its first character. -/
def readNumber (start : List Char) : Except Stop (Json × List Char) := do
  let (negative, unsigned) := match start with
    | '-' :: rest => (true, rest)
    | cs => (false, cs)
  let (whole, rest) ← match unsigned with
    | '0' :: rest => .ok (['0'], rest)
    | c :: rest =>
      if isDigit c then .ok (c :: rest.takeWhile isDigit, rest.dropWhile isDigit)
      else stopAt .expectingValue start
    | [] => stopAt .expectingValue start
  let (fraction, rest) := splitFraction rest
  let (exponent, rest) := splitExponent rest
  match fraction, exponent with
  | none, none =>
    if Number.digitLimit < whole.length then stopAt (.longInteger whole.length) start
    else
      let n : Int := ofDigitChars whole
      return (.int (if negative then -n else n), rest)
  | _, _ =>
    let digits := whole ++ fraction.getD []
    let scale : Int := exponent.getD 0 - (fraction.getD []).length
    return (.float (Number.Binary64.ofDecimal negative (ofDigitChars digits) scale), rest)

/-! ## Values -/

def readName : List Char → Except Stop (String × List Char)
  | '"' :: rest => readString rest
  | cs => stopAt .expectingName cs

/-- The text at the value after the colon of a member. -/
def afterColon (cs : List Char) : Except Stop (List Char) :=
  match skipSpace cs with
  | ':' :: rest => .ok (skipSpace rest)
  | rest => stopAt .expectingColon rest

/-- A word that stands for a value, with the rest of the text after it. -/
def readWord? (cs : List Char) : Option (Json × List Char) :=
  let words : List (String × Json) :=
    [("null", .null), ("true", .bool true), ("false", .bool false), ("NaN", .float .nan),
      ("Infinity", .float (.infinite false)), ("-Infinity", .float (.infinite true))]
  words.findSome? fun (word, v) => (dropWord? word.toList cs).map fun rest => (v, rest)

mutual
def readValue : Nat → List Char → Except Stop (Json × List Char)
  | 0, cs => stopAt .expectingValue cs
  | fuel + 1, cs =>
    match cs with
    | [] => stopAt .expectingValue []
    | '"' :: rest => do
      let (s, after) ← readString rest
      return (.str s, after)
    | '{' :: rest =>
      match skipSpace rest with
      | '}' :: after => return (.obj [], after)
      | rest => readMembers fuel [] rest
    | '[' :: rest =>
      match skipSpace rest with
      | ']' :: after => return (.arr [], after)
      | rest => readItems fuel [] rest
    | cs =>
      match readWord? cs with
      | some found => return found
      | none => readNumber cs

/-- Reads the items of a list; `read` holds those before, the last first. -/
def readItems : Nat → List Json → List Char → Except Stop (Json × List Char)
  | 0, _, cs => stopAt .expectingValue cs
  | fuel + 1, read, cs => do
    let (v, rest) ← readValue fuel cs
    match skipSpace rest with
    | ']' :: after => return (.arr (v :: read).reverse, after)
    | ',' :: after => readItems fuel (v :: read) (skipSpace after)
    | rest => stopAt .expectingComma rest

/-- Reads the members of an object; `read` holds those before. -/
def readMembers : Nat → List (String × Json) → List Char → Except Stop (Json × List Char)
  | 0, _, cs => stopAt .expectingValue cs
  | fuel + 1, read, cs => do
    let (name, rest) ← readName cs
    let (v, rest) ← readValue fuel (← afterColon rest)
    let read := setMember read name v
    match skipSpace rest with
    | '}' :: after => return (.obj read, after)
    | ',' :: after => readMembers fuel read (skipSpace after)
    | rest => stopAt .expectingComma rest
end

/-! ## Texts -/

/-- A malformed text: the defect, and the place as a count of characters before it,
a line and a column, both from one on. -/
structure ReadError where
  defect : ReadDefect
  position : Nat
  line : Nat
  column : Nat
  deriving Repr, DecidableEq

def ReadError.at (cs : List Char) (stop : Stop) : ReadError :=
  let position := cs.length - stop.left
  let before := cs.take position
  ⟨stop.defect, position, before.count '\n' + 1,
    (before.reverse.takeWhile (· ≠ '\n')).length + 1⟩

/-- Every recursive call of the reader but each second one reads a character, so
twice the length of the text bounds their number. -/
def readText (cs : List Char) : Except Stop Json := do
  if cs.head? = some '\uFEFF' then stopAt .byteOrderMark cs
  let (v, rest) ← readValue (2 * cs.length + 2) (skipSpace cs)
  match skipSpace rest with
  | [] => return v
  | rest => stopAt .extraData rest

def read (cs : List Char) : Except ReadError Json :=
  (readText cs).mapError (ReadError.at cs)

end SelectorRouter.Json
