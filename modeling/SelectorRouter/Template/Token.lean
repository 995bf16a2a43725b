import SelectorRouter.Text.Blank
import SelectorRouter.Text.Identifier
import SelectorRouter.Text.Lines

/-!
# Tokens of templates

A template is text with three kinds of tags: outputs in doubled braces, blocks
between a brace and a percent sign, and comments between a brace and a number
sign. Text between a raw block and its end is taken as it is.

White space around tags: blanks that alone precede a block or a comment on its
line are dropped, and so is the line feed after one. A minus sign inside a tag
drops all blanks on its side, a plus sign keeps them.
-/

namespace SelectorRouter.Template

inductive Word where
  | name (s : String)
  | colon
  deriving Repr, DecidableEq

inductive Token where
  | text (s : String)
  | output (words : List Word)
  | block (words : List Word)
  deriving Repr, DecidableEq

inductive Opener where
  | output
  | block
  | comment
  deriving Repr, DecidableEq

/-- The sign next to a delimiter. -/
inductive Margin where
  | plain
  | strip
  | keep
  deriving Repr, DecidableEq

def splitMargin : List Char → Margin × List Char
  | '-' :: rest => (.strip, rest)
  | '+' :: rest => (.keep, rest)
  | cs => (.plain, cs)

def consText (c : Char) {α : Type} : List Char × α → List Char × α
  | (text, rest) => (c :: text, rest)

/-- The text before the first tag, the kind of the tag, and what follows its opening
delimiter. -/
def splitOpener? : List Char → Option (List Char × Opener × List Char)
  | '\x7b' :: '\x7b' :: rest => some ([], .output, rest)
  | '\x7b' :: '%' :: rest => some ([], .block, rest)
  | '\x7b' :: '#' :: rest => some ([], .comment, rest)
  | c :: rest => (splitOpener? rest).map (consText c)
  | [] => none

/-- What follows a tag: the text after it, and whether a new line starts there. -/
structure After where
  rest : List Char
  lineStart : Bool

/-- Drops all blanks; a new line starts when the last of them is a line feed. -/
def dropBlanks (cs : List Char) : After :=
  ⟨cs.dropWhile Text.isBlank, (cs.takeWhile Text.isBlank).getLast? == some '\n'⟩

/-- Drops one line feed. -/
def dropNewline : List Char → After
  | '\n' :: rest => ⟨rest, true⟩
  | cs => ⟨cs, false⟩

/-- The text after the end of an output, if it ends here. -/
def endOutput? : List Char → Option After
  | '-' :: '\x7d' :: '\x7d' :: rest => some (dropBlanks rest)
  | '\x7d' :: '\x7d' :: rest => some ⟨rest, false⟩
  | _ => none

/-- The text after the end of a block or comment whose delimiter starts with
`mark`, if it ends here. -/
def endTag? (mark : Char) : List Char → Option After
  | '+' :: m :: '\x7d' :: rest => if m = mark then some ⟨rest, false⟩ else none
  | '-' :: m :: '\x7d' :: rest => if m = mark then some (dropBlanks rest) else none
  | m :: '\x7d' :: rest => if m = mark then some (dropNewline rest) else none
  | _ => none

/-- The text after a comment, if the comment ends. -/
def endComment? : List Char → Option After
  | [] => none
  | c :: rest =>
    match endTag? '#' (c :: rest) with
    | some after => some after
    | none => endComment? rest

/-- The name that ends here, in front of the words after it. A name is an identifier;
no name ends between other words. -/
def endName (read : List Char) (words : List Word) : Option (List Word) :=
  match read.reverse with
  | [] => some words
  | c :: cs =>
    if Text.isIdentifierStart c then some (.name (String.ofList (c :: cs)) :: words) else none

/-- The words of a tag up to its end. `read` holds the characters of the name that is
being read, the last first. -/
def readWords (end? : List Char → Option After) (read : List Char) :
    List Char → Option (List Word × After)
  | [] => none
  | c :: rest =>
    match end? (c :: rest) with
    | some after => (endName read []).map fun words => (words, after)
    | none =>
      if Text.isIdentifierPart c then readWords end? (c :: read) rest
      else do
        let (words, after) ← readWords end? [] rest
        if Text.isBlank c then (endName read words).map fun words => (words, after)
        else if c = ':' then (endName read (.colon :: words)).map fun words => (words, after)
        else none

/-- The rest of the text after blanks, a word and blanks. -/
def dropTagWord? (word : String) (cs : List Char) : Option (List Char) :=
  go word.toList (cs.dropWhile Text.isBlank)
where
  go : List Char → List Char → Option (List Char)
    | [], cs => some (cs.dropWhile Text.isBlank)
    | w :: word, c :: cs => if w = c then go word cs else none
    | _ :: _, [] => none

/-- The text after the tag that opens raw text, if this is one. The line feed after
it is kept. -/
def openRaw? (cs : List Char) : Option After :=
  match dropTagWord? "raw" (splitMargin cs).2 with
  | some ('-' :: '%' :: '\x7d' :: rest) => some (dropBlanks rest)
  | some ('%' :: '\x7d' :: rest) => some ⟨rest, false⟩
  | _ => none

/-- Raw text up to the tag that ends it, the margin of the tag and what follows. -/
def splitRaw? : List Char → Option (List Char × Margin × After)
  | '\x7b' :: '%' :: rest =>
    match (dropTagWord? "endraw" (splitMargin rest).2).bind (endTag? '%') with
    | some after => some ([], (splitMargin rest).1, after)
    | none => (splitRaw? ('%' :: rest)).map (consText '\x7b')
  | c :: rest => (splitRaw? rest).map (consText c)
  | [] => none

/-- The text in front of a tag without the blanks that its margin drops. -/
def trimBefore (margin : Margin) (opener : Opener) (lineStart : Bool) (text : List Char) :
    List Char :=
  match margin with
  | .strip => Text.trimRight text
  | .keep => text
  | .plain =>
    let tail := text.reverse.takeWhile (· ≠ '\n')
    if opener ≠ .output ∧ (text.contains '\n' ∨ lineStart) ∧ tail.all Text.isBlank then
      (text.reverse.dropWhile (· ≠ '\n')).reverse
    else text

def consToken (text : List Char) (tokens : List Token) : List Token :=
  if text.isEmpty then tokens else .text (String.ofList text) :: tokens

/-- The tokens of a template; `none` when a tag has no end or holds anything but
names. A comment or raw text that is opened at the very end needs no end. Each call
reads at least two characters. -/
def tokensFrom (fuel : Nat) (lineStart : Bool) (cs : List Char) : Option (List Token) :=
  match fuel with
  | 0 => none
  | fuel + 1 =>
    match splitOpener? cs with
    | none => some (consToken cs [])
    | some (text, opener, rest) =>
      let (margin, body) := splitMargin rest
      let text := trimBefore margin opener lineStart text
      let continueWith (after : After) := tokensFrom fuel after.lineStart after.rest
      let tokens : Option (List Token) := match opener with
        | .comment =>
          if body.isEmpty then some []
          else (endComment? body).bind continueWith
        | .output => do
          let (words, after) ← readWords endOutput? [] body
          return .output words :: (← continueWith after)
        | .block =>
          match openRaw? rest with
          | some raw =>
            if raw.rest.isEmpty then some []
            else do
              let (inner, margin, after) ← splitRaw? raw.rest
              let inner := trimBefore margin .block raw.lineStart inner
              return consToken inner (← continueWith after)
          | none => do
            let (words, after) ← readWords (endTag? '%') [] body
            return .block words :: (← continueWith after)
      tokens.map (consToken text)

/-- The tokens of a template, whose line ends count as line feeds. -/
def tokens? (template : String) : Option (List Token) :=
  let cs := Text.normalizeNewlines template.toList
  tokensFrom (cs.length + 1) true cs

end SelectorRouter.Template
