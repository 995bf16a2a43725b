import SelectorRouter.Constant
import SelectorRouter.Proofs.Text.Stripped

/-!
# Tokens of emitted code

The router is Solidity with a block of Yul in it, and both are read from the same
words and symbols. A comment runs from `//` to the end of its line; the characters
that end a line are those of the language, so a name that holds one of them would
leave its comment. Words are runs of letters, digits, `_` and `$`, and are read by
their place: the word after `:=` names a constant, whatever it is.

The reader knows nothing of how the code was written. `tokens_joinLines` reads a
text line by line, `tokens_commented` drops the comment of a line, and
`tokens_append_word` reads a line in which a word is put.
-/

namespace SelectorRouter.Code

inductive Token where
  | word (text : String)
  | symbol (c : Char)
  | assign
  deriving Repr, DecidableEq

/-- The characters that end a line, and a comment with it. -/
def endsLine (c : Char) : Bool :=
  let n := c.toNat
  (10 ≤ n && n ≤ 13) || n == 0x2028 || n == 0x2029

def isSpace (c : Char) : Bool :=
  c == ' ' || c == '\t' || c == '\n' || c == '\r'

/-- The text with every comment removed up to the end of its line. `inside` says that
a comment is open. -/
def withoutComments (inside : Bool) : List Char → List Char
  | [] => []
  | c :: rest =>
    if inside then
      if endsLine c then c :: withoutComments false rest else withoutComments true rest
    else if c = '/' ∧ rest.head? = some '/' then withoutComments true rest
    else c :: withoutComments false rest

def wordOf (pending : List Char) : List Token :=
  if pending = [] then [] else [.word (String.ofList pending)]

/-- The tokens of a text without comments; `pending` holds the characters of the word
that is being read. -/
def scan (pending : List Char) : List Char → List Token
  | [] => wordOf pending
  | ':' :: '=' :: rest => wordOf pending ++ .assign :: scan [] rest
  | c :: rest =>
    if Constant.isIdentifierChar c then scan (pending ++ [c]) rest
    else if isSpace c then wordOf pending ++ scan [] rest
    else wordOf pending ++ .symbol c :: scan [] rest

def tokens (s : String) : List Token :=
  scan [] (withoutComments false s.toList)

/-- The runs of word characters of a text, with empty ones between other characters. -/
def runs (cs : List Char) : List (List Char) :=
  cs.splitOnP fun c => !Constant.isIdentifierChar c

/-- A text that stays on one line. -/
def Plain (s : String) : Prop :=
  ∀ c ∈ s.toList, endsLine c = false

instance (s : String) : Decidable (Plain s) :=
  List.decidableBAll (fun c => endsLine c = false) s.toList

/-- A text that is a single word. -/
def IsWord (s : String) : Prop :=
  s ≠ "" ∧ ∀ c ∈ s.toList, Constant.isIdentifierChar c = true

instance (s : String) : Decidable (IsWord s) :=
  @instDecidableAnd (s ≠ "") _ inferInstance
    (List.decidableBAll (fun c => Constant.isIdentifierChar c = true) s.toList)

/-- A word that does not start with a digit. -/
def IsIdentifier (s : String) : Prop :=
  IsWord s ∧ s.toList.head?.any Char.isDigit = false

instance (s : String) : Decidable (IsIdentifier s) :=
  inferInstanceAs (Decidable (IsWord s ∧ s.toList.head?.any Char.isDigit = false))

/-- A character at which a word ends, and every token before it. -/
def isDelimiter (c : Char) : Bool :=
  !Constant.isIdentifierChar c && c != ':'

/-! ## Characters -/

theorem char_le_iff {a b : Char} : a ≤ b ↔ a.toNat ≤ b.toNat := by
  rw [Char.le_def, UInt32.le_iff_toNat_le]
  rfl

theorem isIdentifierChar_iff {c : Char} : Constant.isIdentifierChar c = true ↔
    (65 ≤ c.toNat ∧ c.toNat ≤ 90) ∨ (97 ≤ c.toNat ∧ c.toNat ≤ 122) ∨
      (48 ≤ c.toNat ∧ c.toNat ≤ 57) ∨ c.toNat = 95 ∨ c.toNat = 36 := by
  simp only [Constant.isIdentifierChar, Bool.or_eq_true, Bool.and_eq_true, decide_eq_true_eq,
    beq_iff_eq, char_le_iff, ← Char.toNat_inj, or_assoc]
  exact Iff.rfl

/-- A fact about the characters of words needs to be looked at for 128 of them. -/
theorem forall_isIdentifierChar {p : Char → Prop}
    (h : ∀ n : Fin 128, Constant.isIdentifierChar (Char.ofNat n) = true → p (Char.ofNat n))
    (c : Char) (hc : Constant.isIdentifierChar c = true) : p c := by
  have small : c.toNat < 128 := by
    rw [isIdentifierChar_iff] at hc
    omega
  have := h ⟨c.toNat, small⟩
  simp only [Char.ofNat_toNat] at this
  exact this hc

theorem isIdentifierChar_toUpper : ∀ c, Constant.isIdentifierChar c = true →
    Constant.isIdentifierChar c.toUpper = true :=
  forall_isIdentifierChar (by decide)

theorem isIdentifierChar_toLower : ∀ c, Constant.isIdentifierChar c = true →
    Constant.isIdentifierChar c.toLower = true :=
  forall_isIdentifierChar (by decide)

theorem endsLine_of_isIdentifierChar {c : Char} (h : Constant.isIdentifierChar c = true) :
    endsLine c = false := by
  rw [isIdentifierChar_iff] at h
  simp only [endsLine, Bool.or_eq_false_iff, Bool.and_eq_false_iff, decide_eq_false_iff_not,
    beq_eq_false_iff_ne]
  omega

theorem not_isIdentifierChar_of_isDelimiter {c : Char} (h : isDelimiter c = true) :
    Constant.isIdentifierChar c = false := by
  rw [isDelimiter, Bool.and_eq_true, Bool.not_eq_true'] at h
  exact h.1

theorem isDelimiter_of_isLineBreak {c : Char} (h : Text.isLineBreak c = true) :
    isDelimiter c = true := by
  rw [isDelimiter, Bool.and_eq_true, Bool.not_eq_true', bne_iff_ne, ← Bool.not_eq_true,
    isIdentifierChar_iff]
  constructor
  · intro word
    simp only [Text.isLineBreak, Bool.or_eq_true, Bool.and_eq_true, decide_eq_true_eq,
      beq_iff_eq] at h
    omega
  · rintro rfl
    exact absurd h (by decide)

theorem isLineBreak_of_endsLine {c : Char} (h : endsLine c = true) :
    Text.isLineBreak c = true := by
  simp only [endsLine, Text.isLineBreak, Bool.or_eq_true, Bool.and_eq_true, decide_eq_true_eq,
    beq_iff_eq] at h ⊢
  omega

theorem ne_slash_of_isIdentifierChar {c : Char} (h : Constant.isIdentifierChar c = true) :
    c ≠ '/' := by
  rintro rfl
  exact absurd h (by decide)

theorem IsWord.slash_not_mem {s : String} (h : IsWord s) : '/' ∉ s.toList :=
  fun hs => ne_slash_of_isIdentifierChar (h.2 '/' hs) rfl

theorem Plain.append {s t : String} (hs : Plain s) (ht : Plain t) : Plain (s ++ t) := by
  intro c hc
  rw [String.toList_append] at hc
  rcases List.mem_append.mp hc with h | h
  · exact hs c h
  · exact ht c h

theorem IsWord.plain {s : String} (h : IsWord s) : Plain s :=
  fun c hc => endsLine_of_isIdentifierChar (h.2 c hc)

theorem plain_indent (n : Nat) : Plain (Text.indent n) := by
  intro c hc
  rw [Text.indent, String.toList_ofList] at hc
  rw [List.eq_of_mem_replicate hc]
  rfl

/-! ## Comments -/

/-- A line feed ends any comment that is open, and nothing else crosses it. -/
theorem withoutComments_line (rest : List Char) : ∀ (line : List Char) (inside : Bool),
    withoutComments inside (line ++ '\n' :: rest) =
      withoutComments inside line ++ '\n' :: withoutComments false rest
  | [], inside => by cases inside <;> rfl
  | c :: line, true => by
      rw [List.cons_append, withoutComments, withoutComments, if_pos rfl, if_pos rfl,
        withoutComments_line rest line, withoutComments_line rest line]
      split <;> rfl
  | c :: line, false => by
      have head : (line ++ '\n' :: rest).head? = some '/' ↔ line.head? = some '/' := by
        cases line <;> simp
      rw [List.cons_append, withoutComments, withoutComments, if_neg Bool.false_ne_true,
        if_neg Bool.false_ne_true, withoutComments_line rest line, withoutComments_line rest line]
      simp only [head]
      split <;> rfl

theorem withoutComments_inside {line : List Char} (h : ∀ c ∈ line, endsLine c = false) :
    withoutComments true line = [] := by
  induction line with
  | nil => rfl
  | cons c line ih =>
      rw [withoutComments, if_pos rfl, h c List.mem_cons_self]
      exact ih fun d hd => h d (List.mem_cons_of_mem c hd)

/-- Up to the first slash, a text is read as it stands. -/
theorem withoutComments_append {code : List Char} (h : '/' ∉ code) (rest : List Char) :
    withoutComments false (code ++ rest) = code ++ withoutComments false rest := by
  induction code with
  | nil => rfl
  | cons c code ih =>
      have hc : ¬ (c = '/' ∧ (code ++ rest).head? = some '/') :=
        fun hc => h (hc.1 ▸ List.mem_cons_self)
      rw [List.cons_append, withoutComments, if_neg Bool.false_ne_true, if_neg hc,
        ih fun hd => h (List.mem_cons_of_mem c hd), List.cons_append]

theorem withoutComments_code {code : List Char} (h : '/' ∉ code) :
    withoutComments false code = code := by
  have whole := withoutComments_append h []
  rwa [withoutComments, List.append_nil] at whole

theorem withoutComments_commented {code comment : List Char} (h : '/' ∉ code)
    (hc : ∀ c ∈ comment, endsLine c = false) :
    withoutComments false (code ++ '/' :: '/' :: comment) = code := by
  have nothing : withoutComments true ('/' :: comment) = [] :=
    withoutComments_inside (List.forall_mem_cons.mpr ⟨rfl, hc⟩)
  rw [withoutComments_append h, withoutComments, if_neg Bool.false_ne_true, if_pos ⟨rfl, rfl⟩,
    nothing, List.append_nil]

theorem withoutComments_indent (n : Nat) (s : String) :
    withoutComments false (Text.indent n ++ s).toList =
      (Text.indent n).toList ++ withoutComments false s.toList := by
  rw [String.toList_append, withoutComments_append]
  rw [Text.indent, String.toList_ofList, List.mem_replicate]
  rintro ⟨-, slash⟩
  exact absurd slash (by decide)

/-- A comment is followed by the end of its line. -/
theorem head?_withoutComments_inside : ∀ cs : List Char,
    (withoutComments true cs).head?.all isDelimiter = true
  | [] => rfl
  | c :: cs => by
      rw [withoutComments, if_pos rfl]
      split
      case isTrue ends => exact isDelimiter_of_isLineBreak (isLineBreak_of_endsLine ends)
      case isFalse => exact head?_withoutComments_inside cs

theorem head?_withoutComments {cs : List Char} (h : cs.head?.all isDelimiter = true) :
    (withoutComments false cs).head?.all isDelimiter = true := by
  cases cs with
  | nil => rfl
  | cons c cs =>
      rw [withoutComments, if_neg Bool.false_ne_true]
      split
      · exact head?_withoutComments_inside cs
      · exact h

/-! ## Words and symbols -/

theorem scan_cons {c : Char} {rest : List Char} (h : ¬ (c = ':' ∧ rest.head? = some '='))
    (pending : List Char) : scan pending (c :: rest) =
      if Constant.isIdentifierChar c then scan (pending ++ [c]) rest
      else if isSpace c then wordOf pending ++ scan [] rest
      else wordOf pending ++ .symbol c :: scan [] rest := by
  rw [scan]
  rintro rest' rfl rfl
  exact h ⟨rfl, rfl⟩

theorem scan_identifierChars {cs : List Char} (rest : List Char)
    (h : ∀ c ∈ cs, Constant.isIdentifierChar c = true) : ∀ pending,
    scan pending (cs ++ rest) = scan (pending ++ cs) rest := by
  induction cs with
  | nil => simp
  | cons c cs ih =>
      intro pending
      have hc : Constant.isIdentifierChar c = true := h c List.mem_cons_self
      have hne : ¬ (c = ':' ∧ (cs ++ rest).head? = some '=') := by
        rintro ⟨rfl, -⟩
        exact absurd hc (by decide)
      rw [List.cons_append, scan_cons hne, if_pos hc,
        ih fun d hd => h d (List.mem_cons_of_mem c hd), List.append_assoc, List.singleton_append]

theorem scan_stop {c : Char} (hc : Constant.isIdentifierChar c = false) (rest : List Char)
    (pending : List Char) :
    scan pending (c :: rest) = wordOf pending ++ scan [] (c :: rest) := by
  by_cases h : c = ':' ∧ rest.head? = some '='
  · obtain ⟨rfl, h⟩ := h
    obtain ⟨rest, rfl⟩ := List.head?_eq_some_iff.mp h
    simp only [scan, wordOf, if_true, List.nil_append]
  · rw [scan_cons h, scan_cons h, hc, if_neg Bool.false_ne_true, if_neg Bool.false_ne_true]
    split <;> simp only [wordOf, if_true, List.nil_append]

/-- A word is read up to the first character that does not belong to it. -/
theorem scan_word {s : String} (h : IsWord s) {c : Char} (hc : Constant.isIdentifierChar c = false)
    (rest : List Char) : scan [] (s.toList ++ c :: rest) = .word s :: scan [] (c :: rest) := by
  have nonempty : s.toList ≠ [] := fun e => h.1 (String.toList_inj.mp e)
  rw [scan_identifierChars _ h.2, List.nil_append, scan_stop hc, wordOf, if_neg nonempty,
    String.ofList_toList, List.singleton_append]

theorem scan_spaces (rest : List Char) : ∀ n,
    scan [] (List.replicate n ' ' ++ rest) = scan [] rest
  | 0 => rfl
  | n + 1 => by
      rw [List.replicate_succ, List.cons_append, scan_cons fun h => absurd h.1 (by decide)]
      exact scan_spaces rest n

theorem scan_append_delimiter {c : Char} (hc : isDelimiter c = true) (rest : List Char) :
    ∀ (cs pending : List Char),
      scan pending (cs ++ c :: rest) = scan pending (cs ++ [c]) ++ scan [] rest
  | [], pending => by
      rw [isDelimiter, Bool.and_eq_true, Bool.not_eq_true', bne_iff_ne] at hc
      have alone : ∀ rest : List Char, ¬ (c = ':' ∧ rest.head? = some '=') := fun _ h => hc.2 h.1
      rw [List.nil_append, List.nil_append, scan_cons (alone rest), scan_cons (alone []), hc.1,
        if_neg Bool.false_ne_true, if_neg Bool.false_ne_true]
      split
      · rw [List.append_assoc]
        rfl
      · rw [List.append_assoc]
        rfl
  | d :: cs, pending => by
      have head : (cs ++ c :: rest).head? = (cs ++ [c]).head? := by cases cs <;> rfl
      by_cases h : d = ':' ∧ (cs ++ [c]).head? = some '='
      · obtain ⟨rfl, h⟩ := h
        cases cs with
        | nil =>
            obtain rfl : c = '=' := Option.some.inj h
            simp [scan, wordOf]
        | cons e cs =>
            obtain rfl : e = '=' := Option.some.inj h
            simp only [List.cons_append, scan, scan_append_delimiter hc rest cs, List.append_assoc]
      · rw [List.cons_append, List.cons_append, scan_cons (by rwa [head]), scan_cons h]
        simp only [scan_append_delimiter hc rest cs]
        split
        · rfl
        · split <;> simp only [List.append_assoc, List.cons_append]

/-! ## Runs -/

theorem runs_cons (c : Char) (cs : List Char) :
    runs (c :: cs) =
      if Constant.isIdentifierChar c then (runs cs).modifyHead (c :: ·) else [] :: runs cs := by
  rw [runs, List.splitOnP_cons_eq_if_modifyHead]
  cases Constant.isIdentifierChar c <;> rfl

theorem toList_of_mem_wordOf {w : String} {pending : List Char}
    (h : .word w ∈ wordOf pending) : w.toList = pending := by
  rw [wordOf] at h
  split at h
  · exact absurd h List.not_mem_nil
  · obtain rfl := Token.word.inj (List.mem_singleton.mp h)
    exact String.toList_ofList

theorem runs_cons_of_not {c : Char} (hc : Constant.isIdentifierChar c = false)
    (cs pending : List Char) :
    (runs (c :: cs)).modifyHead (pending ++ ·) = pending :: (runs cs).modifyHead ([] ++ ·) := by
  rw [runs_cons, hc, if_neg Bool.false_ne_true, List.modifyHead_cons, List.append_nil]
  simp only [List.nil_append]
  exact congrArg _ (congrFun List.modifyHead_id (runs cs)).symm

/-- A word of a text is one of its runs; the first run goes on with the word that is pending. -/
theorem toList_mem_runs_of_mem_scan {w : String} {cs pending : List Char}
    (h : .word w ∈ scan pending cs) : w.toList ∈ (runs cs).modifyHead (pending ++ ·) := by
  induction pending, cs using scan.induct with
  | case1 pending => simp [runs, toList_of_mem_wordOf h]
  | case2 pending rest ih =>
      rw [runs_cons_of_not (by decide), runs_cons_of_not (by decide)]
      simp only [scan, List.mem_append, List.mem_cons, reduceCtorEq, false_or] at h
      rcases h with h | h
      · exact List.mem_cons.mpr (Or.inl (toList_of_mem_wordOf h))
      · exact List.mem_cons_of_mem _ (List.mem_cons_of_mem _ (ih h))
  | case3 pending c rest hne hc ih =>
      rw [scan, if_pos hc] at h
      · have rest := ih h
        rw [runs_cons, if_pos hc, List.modifyHead_modifyHead]
        simpa [Function.comp_def] using rest
      · exact hne
  | case4 pending c rest hne hc hs ih =>
      rw [runs_cons_of_not (by simpa using hc)]
      rw [scan, if_neg hc, if_pos hs, List.mem_append] at h
      · rcases h with h | h
        · exact List.mem_cons.mpr (Or.inl (toList_of_mem_wordOf h))
        · exact List.mem_cons_of_mem _ (ih h)
      · exact hne
  | case5 pending c rest hne hc hs ih =>
      rw [runs_cons_of_not (by simpa using hc)]
      rw [scan, if_neg hc, if_neg hs, List.mem_append, List.mem_cons] at h
      · rcases h with h | h | h
        · exact List.mem_cons.mpr (Or.inl (toList_of_mem_wordOf h))
        · exact absurd h (by simp)
        · exact List.mem_cons_of_mem _ (ih h)
      · exact hne

theorem toList_mem_runs {w s : String} (h : .word w ∈ tokens s) :
    w.toList ∈ runs (withoutComments false s.toList) := by
  have run := toList_mem_runs_of_mem_scan h
  simp only [List.nil_append] at run
  rwa [show List.modifyHead (fun cs : List Char => cs) = id from List.modifyHead_id] at run

/-! ## Lines -/

theorem scan_line (rest : List Char) : ∀ (line pending : List Char),
    scan pending (line ++ '\n' :: rest) = scan pending line ++ scan [] rest
  | [], pending => by
      rw [List.nil_append, scan_stop (by decide)]
      rfl
  | c :: line, pending => by
      by_cases h : c = ':' ∧ line.head? = some '='
      · obtain ⟨rfl, h⟩ := h
        obtain ⟨line, rfl⟩ := List.head?_eq_some_iff.mp h
        simp only [List.cons_append, scan, scan_line rest line, List.append_assoc]
      · have head : (line ++ '\n' :: rest).head? = some '=' ↔ line.head? = some '=' := by
          cases line <;> simp
        rw [List.cons_append, scan_cons (by rwa [head]), scan_cons h]
        simp only [scan_line rest line]
        split
        · rfl
        · split <;> simp only [List.append_assoc, List.cons_append]

theorem tokens_line (line rest : List Char) :
    scan [] (withoutComments false (line ++ '\n' :: rest)) =
      scan [] (withoutComments false line) ++ scan [] (withoutComments false rest) := by
  rw [withoutComments_line, scan_line]

/-- **Reading is line by line**: the tokens of joined lines are those of each line in turn. -/
theorem tokens_joinLines : ∀ ls : List String, tokens (Text.joinLines ls) = ls.flatMap tokens
  | [] => rfl
  | [l] => by simp [Text.joinLines]
  | l :: m :: ls => by
      have ih := tokens_joinLines (m :: ls)
      rw [Text.joinLines] at ih ⊢
      rw [List.flatMap_cons, ← ih, tokens, String.intercalate_cons_cons, String.toList_append,
        String.toList_append, List.append_assoc]
      exact tokens_line _ _

theorem tokens_indent (n : Nat) (s : String) : tokens (Text.indent n ++ s) = tokens s := by
  rw [tokens, withoutComments_indent, Text.indent, String.toList_ofList, scan_spaces, tokens]

theorem tokens_ofList (cs : List Char) :
    tokens (String.ofList cs) = scan [] (withoutComments false cs) := by
  rw [tokens, String.toList_ofList]

/-- A line without comment is read as it stands. -/
theorem tokens_code {s : String} (h : '/' ∉ s.toList) : tokens s = scan [] s.toList := by
  rw [tokens, withoutComments_code h]

/-- **A word between delimiters** is a token of its own. -/
theorem tokens_append_word {before word after : String} (code : '/' ∉ before.toList)
    (ends : before.toList.getLast?.all isDelimiter = true) (h : IsWord word)
    (stops : after.toList.head?.all isDelimiter = true) :
    tokens (before ++ (word ++ after)) = tokens before ++ .word word :: tokens after := by
  have first : ∀ rest, scan [] (before.toList ++ rest) = scan [] before.toList ++ scan [] rest := by
    intro rest
    cases last : before.toList.getLast? with
    | none =>
        rw [List.getLast?_eq_none_iff] at last
        rw [last]
        rfl
    | some c =>
        rw [last] at ends
        obtain ⟨cs, eq⟩ := List.getLast?_eq_some_iff.mp last
        rw [eq, List.append_assoc, List.singleton_append, scan_append_delimiter ends]
  have second : scan [] (word.toList ++ withoutComments false after.toList) =
      .word word :: tokens after := by
    have stops := head?_withoutComments stops
    rw [tokens]
    cases eq : withoutComments false after.toList with
    | nil =>
        have nonempty : word.toList ≠ [] := fun e => h.1 (String.toList_inj.mp e)
        rw [scan_identifierChars _ h.2, List.nil_append, scan, wordOf, if_neg nonempty,
          String.ofList_toList]
        rfl
    | cons c rest =>
        rw [eq] at stops
        exact scan_word h (not_isIdentifierChar_of_isDelimiter stops) rest
  rw [tokens, String.toList_append, String.toList_append, withoutComments_append code,
    withoutComments_append h.slash_not_mem, first, second, tokens_code code]

/-- What stands before a variable part decides what the word before it is followed by. -/
theorem stops_append {s : String} (h : s.toList.head?.any isDelimiter = true) (t : String) :
    (s ++ t).toList.head?.all isDelimiter = true := by
  rw [String.toList_append]
  cases eq : s.toList with
  | nil =>
      rw [eq] at h
      cases h
  | cons c cs =>
      rw [eq] at h
      exact h

/-- The comment of a line is not read. -/
theorem tokens_commented {code comment : String} (h : '/' ∉ code.toList) (hc : Plain comment) :
    tokens (code ++ "//" ++ comment) = scan [] code.toList := by
  rw [tokens, String.toList_append, String.toList_append, List.append_assoc]
  exact congrArg (scan []) (withoutComments_commented h hc)

/-- **A stripped text of indented lines** reads as the lines without indentation, when its
first line starts and its last line ends with a character that is no blank. -/
theorem tokens_strip_joinLines {α : Type} {level : α → Nat} {code : α → String} {first last : α}
    {rest : List α} {c d : Char} (head : (code first).toList.head? = some c)
    (hc : Text.isBlank c = false) (ends : (first :: rest).getLast? = some last)
    (tail : (code last).toList.getLast? = some d) (hd : Text.isBlank d = false) :
    tokens (Text.strip (Text.joinLines
        ((first :: rest).map fun a => Text.indent (level a) ++ code a))) =
      (first :: rest).flatMap fun a => tokens (code a) := by
  rw [Text.strip_indented level code head hc ends tail hd, tokens_joinLines, List.flatMap_cons,
    List.flatMap_cons, List.flatMap_map]
  simp only [tokens_indent]

end SelectorRouter.Code
