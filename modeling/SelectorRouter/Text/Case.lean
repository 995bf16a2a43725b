import SelectorRouter.Text.CaseTable
import SelectorRouter.Text.Printable

/-!
# Letter case

Capital and small forms of characters and of text, by the full case mapping of
Unicode: one character may become several (`ß` becomes `SS`), and the small form
of a capital sigma is the final one at the end of a word.
-/

namespace SelectorRouter.Text

def CaseSpan.holds (span : CaseSpan) (n : Nat) : Bool :=
  span.first ≤ n && n ≤ span.last && (n - span.first) % span.step == 0

def shiftBy (spans : List CaseSpan) (c : Char) : Char :=
  match spans.find? (·.holds c.toNat) with
  | some span => Char.ofNat (c.toNat + span.shift).toNat
  | none => c

/-- The capital form of a character. -/
def upperChar (c : Char) : List Char :=
  if c.toNat < 128 then [c.toUpper]
  else match upperExpansions.lookup c.toNat with
    | some form => form.map Char.ofNat
    | none => [shiftBy upperSpans c]

/-- The small form of a character that stands alone. The dotted capital I is the
only one whose small form is two characters. -/
def lowerChar (c : Char) : List Char :=
  if c.toNat < 128 then [c.toLower]
  else if c = 'İ' then ['i', '\u0307']
  else [shiftBy lowerSpans c]

private def startsCased (cs : List Char) : Bool :=
  match cs.dropWhile fun c => inRanges passedOverRange c.toNat with
  | c :: _ => inRanges casedRange c.toNat
  | [] => false

/-- The small form of text. `before` holds the characters already passed, the
nearest first: a capital sigma is final when a cased letter comes before it and
none comes after it. -/
def lowerAfter (before : List Char) : List Char → List Char
  | [] => []
  | c :: rest =>
    (if c = 'Σ' ∧ startsCased before ∧ ¬ startsCased rest then ['ς'] else lowerChar c)
      ++ lowerAfter (c :: before) rest

def lower (s : String) : String :=
  String.ofList (lowerAfter [] s.toList)

end SelectorRouter.Text
