import Mathlib.Data.List.TakeWhile
import Mathlib.Tactic.Choose
import SelectorRouter.Proofs.Abi.Signature

/-!
# The grammar of parameters

The type of a parameter is a name with array suffixes after it, once the blanks are removed. A
type that starts with the word `tuple` needs components, which are parameters themselves. The
grammar is given by relations that know nothing of how a type is cut into its parts, and
`ofJson_outcomes` says that reading follows it: a parameter is read when the grammar derives it,
and the defect that is reported otherwise is the first one in it.

The word `tuple` is expected to be followed by array suffixes at once. It is not: a name that
only starts with the word, as `tuple2` does, is taken for a tuple too, and what follows the word
is kept behind the closing parenthesis of the canonical text. `tail` stands for what may be
there, so that both grammars are the same relation.
-/

namespace SelectorRouter.Parameter

/-! ## The grammar -/

/-- Letters and then the characters of sizes, as a name may go on. -/
def IsTail (cs : List Char) : Prop :=
  ∃ letters sizes, cs = letters ++ sizes ∧ (∀ c ∈ letters, isLetter c = true) ∧
    ∀ c ∈ sizes, isSize c = true

/-- One letter or more and then the characters of sizes. -/
def IsName (cs : List Char) : Prop :=
  ∃ letters sizes, cs = letters ++ sizes ∧ letters ≠ [] ∧ (∀ c ∈ letters, isLetter c = true) ∧
    ∀ c ∈ sizes, isSize c = true

/-- Nothing at all. -/
def IsBare (cs : List Char) : Prop :=
  cs = []

/-- Any number of `[` digits `]`; the digits may be missing. -/
inductive ArraySuffixes : List Char → Prop
  | none : ArraySuffixes []
  | more {digits rest : List Char} : (∀ c ∈ digits, Json.isDigit c = true) →
      ArraySuffixes rest → ArraySuffixes ('[' :: (digits ++ ']' :: rest))

/-- The word that tuple types start with. -/
def tupleWord : List Char := "tuple".toList

/-- The parameters of the grammar: elementary types, and tuples of parameters. `tail` says what
may stand between the word `tuple` and the array suffixes. -/
inductive Derives (tail : List Char → Prop) : Json → Prop
  | elementary {members : List (String × Json)} {text : String} {name suffixes : List Char} :
      members.lookup "type" = some (.str text) → Text.withoutBlanks text = name ++ suffixes →
      ¬ tupleWord <+: name ++ suffixes → IsName name → ArraySuffixes suffixes →
      Derives tail (.obj members)
  | tuple {members : List (String × Json)} {text : String} {rest suffixes : List Char}
      {components : List Json} :
      members.lookup "type" = some (.str text) →
      Text.withoutBlanks text = tupleWord ++ (rest ++ suffixes) → tail rest →
      ArraySuffixes suffixes → members.lookup "components" = some (.arr components) →
      (∀ c ∈ components, Derives tail c) → Derives tail (.obj members)

/-- The canonical texts: the name of a type, none of the short ones, or types in parentheses, and
array suffixes after it. -/
inductive Canonical (tail : List Char → Prop) : List Char → Prop
  | elementary {name suffixes : List Char} : IsName name → ¬ tupleWord <+: name →
      fullNames.lookup (String.ofList name) = none → ArraySuffixes suffixes →
      Canonical tail (name ++ suffixes)
  | tuple {components : List (List Char)} {rest suffixes : List Char} :
      (∀ c ∈ components, Canonical tail c) → tail rest → ArraySuffixes suffixes →
      Canonical tail ('(' :: (commaSeparated components ++ ')' :: (rest ++ suffixes)))

/-- The first defect of a parameter. The components of a tuple are looked at once its own type
is found to be in order, from the first one on. -/
inductive Blames : Json → ParameterDefect → Prop
  | noType {param : Json} :
      (∀ members text, param = .obj members → members.lookup "type" ≠ some (.str text)) →
      Blames param (.noType param)
  | noComponents {members : List (String × Json)} {text : String} :
      members.lookup "type" = some (.str text) → tupleWord <+: Text.withoutBlanks text →
      (∀ components, members.lookup "components" ≠ some (.arr components)) →
      Blames (.obj members) (.noComponents (.obj members))
  | invalidType {members : List (String × Json)} {text : String} :
      members.lookup "type" = some (.str text) →
      (tupleWord <+: Text.withoutBlanks text →
        ∃ components, members.lookup "components" = some (.arr components)) →
      (∀ name suffixes, Text.withoutBlanks text = name ++ suffixes → IsName name →
        ¬ ArraySuffixes suffixes) →
      Blames (.obj members) (.invalidType (String.ofList (Text.withoutBlanks text)))
  | component {members : List (String × Json)} {text : String} {rest suffixes : List Char}
      {before after : List Json} {c : Json} {defect : ParameterDefect} :
      members.lookup "type" = some (.str text) →
      Text.withoutBlanks text = tupleWord ++ (rest ++ suffixes) → IsTail rest →
      ArraySuffixes suffixes → members.lookup "components" = some (.arr (before ++ c :: after)) →
      (∀ b ∈ before, Derives IsTail b) → Blames c defect → Blames (.obj members) defect

variable {members : List (String × Json)} {text : String} {type cs name suffixes : List Char}

/-! ## Array suffixes -/

/-- Inside a bracket the digits come first, and then the bracket that closes it. -/
theorem isArraySuffix_iff : ∀ cs : List Char,
    (isArraySuffix false cs = true ↔ ArraySuffixes cs) ∧
      (isArraySuffix true cs = true ↔ ∃ digits rest, cs = digits ++ ']' :: rest ∧
        (∀ c ∈ digits, Json.isDigit c = true) ∧ ArraySuffixes rest) := by
  intro cs
  induction cs with
  | nil =>
      constructor
      · simp [isArraySuffix, ArraySuffixes.none]
      · simp [isArraySuffix]
  | cons c cs ih =>
      obtain ⟨outside, inside⟩ := ih
      constructor
      · rw [isArraySuffix, if_neg Bool.false_ne_true, Bool.and_eq_true, beq_iff_eq, inside]
        constructor
        · rintro ⟨rfl, digits, rest, rfl, isDigit, others⟩
          exact .more isDigit others
        · intro h
          cases h with
          | more isDigit others => exact ⟨rfl, _, _, rfl, isDigit, others⟩
      · rw [isArraySuffix, if_pos rfl]
        by_cases closes : c = ']'
        · subst closes
          rw [if_pos rfl, outside]
          constructor
          · intro others
            exact ⟨[], cs, rfl, List.forall_mem_nil _, others⟩
          · rintro ⟨digits, rest, eq, isDigit, others⟩
            cases digits with
            | nil =>
                obtain ⟨-, rfl⟩ := List.cons.inj eq
                exact others
            | cons d digits =>
                obtain ⟨rfl, -⟩ := List.cons.inj eq
                exact absurd (isDigit ']' List.mem_cons_self) (by decide)
        · rw [if_neg closes, Bool.and_eq_true, inside]
          constructor
          · rintro ⟨first, digits, rest, rfl, isDigit, others⟩
            exact ⟨c :: digits, rest, rfl, List.forall_mem_cons.mpr ⟨first, isDigit⟩, others⟩
          · rintro ⟨digits, rest, eq, isDigit, others⟩
            cases digits with
            | nil => exact absurd (List.cons.inj eq).1 closes
            | cons d digits =>
                obtain ⟨rfl, rfl⟩ := List.cons.inj eq
                obtain ⟨first, isDigit⟩ := List.forall_mem_cons.mp isDigit
                exact ⟨first, digits, rest, rfl, isDigit, others⟩

theorem isArraySuffix_false_iff : isArraySuffix false cs = true ↔ ArraySuffixes cs :=
  (isArraySuffix_iff cs).1

theorem ArraySuffixes.head (h : ArraySuffixes cs) : ∀ c ∈ cs.head?, c = '[' := by
  cases h with
  | none => simp
  | more => simp

/-! ## Names -/

/-- The part of a text that is a name or the end of one. -/
def nameOf (cs : List Char) : List Char :=
  cs.takeWhile isLetter ++ (cs.dropWhile isLetter).takeWhile isSize

def afterName (cs : List Char) : List Char :=
  (cs.dropWhile isLetter).dropWhile isSize

theorem nameOf_append_afterName (cs : List Char) : nameOf cs ++ afterName cs = cs := by
  rw [nameOf, afterName, List.append_assoc, List.takeWhile_append_dropWhile,
    List.takeWhile_append_dropWhile]

theorem isTail_nameOf (cs : List Char) : IsTail (nameOf cs) :=
  ⟨_, _, rfl, List.all_eq_true.mp List.all_takeWhile, List.all_eq_true.mp List.all_takeWhile⟩

theorem IsName.isTail (h : IsName name) : IsTail name := by
  obtain ⟨letters, sizes, rfl, -, isLetter, isSize⟩ := h
  exact ⟨letters, sizes, rfl, isLetter, isSize⟩

theorem isLetter_of_mem_tupleWord : ∀ c ∈ tupleWord, isLetter c = true :=
  List.all_eq_true.mp rfl

/-- The letters of the word `tuple` make a name of whatever may end one. -/
theorem isName_tuple {rest : List Char} (h : IsTail rest) : IsName (tupleWord ++ rest) := by
  obtain ⟨letters, sizes, rfl, areLetters, areSizes⟩ := h
  refine ⟨tupleWord ++ letters, sizes, by rw [List.append_assoc], ?_,
    List.forall_mem_append.mpr ⟨isLetter_of_mem_tupleWord, areLetters⟩, areSizes⟩
  exact List.append_ne_nil_of_left_ne_nil (by decide) _

/-- A run of characters ends before a text that starts with none of them. -/
theorem takeWhile_append_stop {p : Char → Bool} {after : List Char}
    (stop : ∀ c ∈ after.head?, p c = false) (cs : List Char) :
    (cs ++ after).takeWhile p = cs.takeWhile p ∧
      (cs ++ after).dropWhile p = cs.dropWhile p ++ after := by
  induction cs with
  | nil =>
      cases after with
      | nil => exact ⟨rfl, rfl⟩
      | cons c after => simp [stop c rfl]
  | cons c cs ih => by_cases h : p c = true <;> simp [h, ih]

/-- **The end of a name is where the first bracket is**, so a text is cut in one way only. -/
theorem nameOf_append (tail : IsTail name) (bracket : ∀ c ∈ suffixes.head?, c = '[') :
    nameOf (name ++ suffixes) = name ∧ afterName (name ++ suffixes) = suffixes := by
  obtain ⟨letters, sizes, rfl, areLetters, areSizes⟩ := tail
  have noLetter : ∀ c ∈ suffixes.head?, isLetter c = false := by
    intro c hc
    rw [bracket c hc]
    decide
  have noSize : ∀ c ∈ suffixes.head?, isSize c = false := by
    intro c hc
    rw [bracket c hc]
    decide
  -- the sizes may start with an x, which is a letter as well
  obtain ⟨takeLetters, dropLetters⟩ := takeWhile_append_stop noLetter sizes
  obtain ⟨takeSizes, dropSizes⟩ := takeWhile_append_stop noSize (sizes.dropWhile isLetter)
  have allSizes : ∀ c ∈ sizes.dropWhile isLetter, isSize c = true :=
    fun c hc => areSizes c (List.dropWhile_suffix isLetter |>.mem hc)
  constructor
  · rw [nameOf, List.append_assoc, List.takeWhile_append_of_pos areLetters,
      List.dropWhile_append_of_pos areLetters, takeLetters, dropLetters, takeSizes,
      List.takeWhile_eq_self_iff.mpr allSizes, List.append_assoc,
      List.takeWhile_append_dropWhile]
  · rw [afterName, List.append_assoc, List.dropWhile_append_of_pos areLetters, dropLetters,
      dropSizes, List.dropWhile_eq_nil_iff.mpr allSizes, List.nil_append]

/-- **A type is cut into a name and array suffixes**, if it is made of these. -/
theorem splitType?_eq_some_iff : splitType? type = some (name, suffixes) ↔
    type = name ++ suffixes ∧ IsName name ∧ ArraySuffixes suffixes := by
  have cut : splitType? type =
      if (type.takeWhile isLetter).isEmpty then none
      else if isArraySuffix false (afterName type) then some (nameOf type, afterName type)
      else none := rfl
  rw [cut]
  constructor
  · intro h
    split at h
    case isTrue => cases h
    case isFalse letters =>
        split at h
        case isFalse => cases h
        case isTrue brackets =>
            cases h
            refine ⟨(nameOf_append_afterName type).symm, ?_, isArraySuffix_false_iff.mp brackets⟩
            obtain ⟨_, _, -, areLetters, areSizes⟩ := isTail_nameOf type
            exact ⟨_, _, rfl, by rwa [List.isEmpty_iff] at letters,
              List.all_eq_true.mp List.all_takeWhile, List.all_eq_true.mp List.all_takeWhile⟩
  · rintro ⟨rfl, isName, brackets⟩
    obtain ⟨same, after⟩ := nameOf_append isName.isTail brackets.head
    obtain ⟨letters, sizes, rfl, nonempty, areLetters, -⟩ := isName
    have starts : ¬ ((letters ++ sizes ++ suffixes).takeWhile isLetter).isEmpty = true := by
      rw [List.append_assoc, List.takeWhile_append_of_pos areLetters, List.isEmpty_iff]
      exact List.append_ne_nil_of_left_ne_nil nonempty _
    rw [if_neg starts, same, after, if_pos (isArraySuffix_false_iff.mpr brackets)]

theorem splitType?_eq_none_iff : splitType? type = none ↔
    ∀ name suffixes, type = name ++ suffixes → IsName name → ¬ ArraySuffixes suffixes := by
  rw [Option.eq_none_iff_forall_ne_some]
  constructor
  · intro h name suffixes eq isName brackets
    exact h _ (splitType?_eq_some_iff.mpr ⟨eq, isName, brackets⟩)
  · rintro h ⟨name, suffixes⟩ split
    obtain ⟨eq, isName, brackets⟩ := splitType?_eq_some_iff.mp split
    exact h name suffixes eq isName brackets

/-! ## Tuples -/

theorem tupleSuffix?_eq_some_iff {suffix : List Char} :
    tupleSuffix? type = some suffix ↔ type = tupleWord ++ suffix := by
  have drop : ∀ word rest : List Char, Json.dropWord? word (word ++ rest) = some rest := by
    intro word rest
    induction word with
    | nil => cases rest <;> rfl
    | cons c word ih => rw [List.cons_append, Json.dropWord?, if_pos rfl, ih]
  constructor
  · exact dropWord?_eq_some
  · rintro rfl
    exact drop _ _

theorem tupleSuffix?_eq_none_iff : tupleSuffix? type = none ↔ ¬ tupleWord <+: type := by
  rw [Option.eq_none_iff_forall_ne_some, List.IsPrefix, not_exists]
  constructor
  · rintro h suffix eq
    exact h suffix (tupleSuffix?_eq_some_iff.mpr eq.symm)
  · intro h suffix isTuple
    exact h suffix (tupleSuffix?_eq_some_iff.mp isTuple).symm

/-- What follows the word `tuple` in a type that can be cut. -/
theorem exists_tail_of_split {suffix : List Char}
    (h : splitType? (tupleWord ++ suffix) ≠ none) :
    ∃ rest suffixes, suffix = rest ++ suffixes ∧ IsTail rest ∧ ArraySuffixes suffixes := by
  obtain ⟨⟨name, suffixes⟩, split⟩ := Option.ne_none_iff_exists'.mp h
  obtain ⟨eq, isName, brackets⟩ := splitType?_eq_some_iff.mp split
  obtain ⟨-, after⟩ := nameOf_append isName.isTail brackets.head
  rw [← eq, afterName, List.dropWhile_append_of_pos isLetter_of_mem_tupleWord, ← afterName]
    at after
  exact ⟨nameOf suffix, afterName suffix, (nameOf_append_afterName suffix).symm,
    isTail_nameOf suffix, after ▸ brackets⟩

theorem split_of_tail {rest : List Char} (tail : IsTail rest) (brackets : ArraySuffixes suffixes) :
    splitType? (tupleWord ++ (rest ++ suffixes)) = some (tupleWord ++ rest, suffixes) :=
  splitType?_eq_some_iff.mpr ⟨by rw [List.append_assoc], isName_tuple tail, brackets⟩

/-! ## Reading by cases -/

theorem ofJson_of_noType {param : Json} (h : ∀ members text, param = .obj members →
    members.lookup "type" ≠ some (.str text)) : ofJson param = .error (.noType param) := by
  rw [ofJson.eq_def]
  split
  case h_2 => rfl
  case h_1 members =>
      split
      case h_2 => rfl
      case h_1 text hasType => exact absurd hasType (h members text rfl)

theorem ofJson_elementary (hasType : members.lookup "type" = some (.str text))
    (notTuple : ¬ tupleWord <+: Text.withoutBlanks text) :
    ofJson (.obj members) = readElementary (Text.withoutBlanks text) := by
  rw [ofJson, hasType]
  simp only [tupleSuffix?_eq_none_iff.mpr notTuple]

theorem ofJson_noComponents (hasType : members.lookup "type" = some (.str text))
    (isTuple : tupleWord <+: Text.withoutBlanks text)
    (missing : ∀ components, members.lookup "components" ≠ some (.arr components)) :
    ofJson (.obj members) = .error (.noComponents (.obj members)) := by
  obtain ⟨suffix, eq⟩ := isTuple
  rw [ofJson, hasType]
  simp only [tupleSuffix?_eq_some_iff.mpr eq.symm]

theorem ofJson_malformed {components : List Json}
    (hasType : members.lookup "type" = some (.str text))
    (isTuple : tupleWord <+: Text.withoutBlanks text)
    (found : members.lookup "components" = some (.arr components))
    (malformed : splitType? (Text.withoutBlanks text) = none) :
    ofJson (.obj members) =
      .error (.invalidType (String.ofList (Text.withoutBlanks text))) := by
  obtain ⟨suffix, eq⟩ := isTuple
  rw [ofJson, hasType]
  simp only [tupleSuffix?_eq_some_iff.mpr eq.symm]
  split
  case h_1 => rw [if_pos (by rw [malformed]; rfl)]
  case h_2 other => exact absurd found (other components)

theorem ofJson_tuple {rest : List Char} {components : List Json}
    (hasType : members.lookup "type" = some (.str text))
    (isTuple : Text.withoutBlanks text = tupleWord ++ (rest ++ suffixes)) (tail : IsTail rest)
    (brackets : ArraySuffixes suffixes)
    (found : members.lookup "components" = some (.arr components)) :
    ofJson (.obj members) = (components.mapM ofJson).map fun inner =>
      .tuple inner (String.ofList (rest ++ suffixes)) := by
  have formed : ¬ (splitType? (tupleWord ++ (rest ++ suffixes))).isNone = true := by
    rw [split_of_tail tail brackets]
    exact Bool.false_ne_true
  rw [ofJson, hasType]
  simp only [isTuple, tupleSuffix?_eq_some_iff.mpr rfl]
  split
  case h_1 others also =>
      obtain rfl := Json.arr.inj (Option.some.inj (found.symm.trans also))
      rw [if_neg formed, ofJsons_eq_mapM]
  case h_2 other => exact absurd found (other components)

/-! ## What is read -/

theorem exists_ofJson_of_derives {param : Json} (h : Derives IsTail param) :
    ∃ t, ofJson param = .ok t := by
  induction h with
  | elementary hasType eq notTuple isName brackets =>
      have split := splitType?_eq_some_iff.mpr ⟨eq, isName, brackets⟩
      rw [ofJson_elementary hasType (eq ▸ notTuple), readElementary, split]
      exact ⟨_, rfl⟩
  | tuple hasType eq tail brackets found _ ih =>
      rw [ofJson_tuple hasType eq tail brackets found,
        Fallible.mapM_eq_ok_map fun c hc => Fallible.eq_ok_valueOr default (ih c hc).choose_spec]
      exact ⟨_, rfl⟩

theorem ofJson_of_blames {param : Json} {defect : ParameterDefect} (h : Blames param defect) :
    ofJson param = .error defect := by
  induction h with
  | noType missing => exact ofJson_of_noType missing
  | noComponents hasType isTuple missing => exact ofJson_noComponents hasType isTuple missing
  | @invalidType members text hasType components noCut =>
      have malformed := splitType?_eq_none_iff.mpr noCut
      by_cases isTuple : tupleWord <+: Text.withoutBlanks text
      · obtain ⟨found, hasComponents⟩ := components isTuple
        exact ofJson_malformed hasType isTuple hasComponents malformed
      · rw [ofJson_elementary hasType isTuple, readElementary, malformed]
  | @component members text rest suffixes before after c defect hasType eq tail brackets found
      derived _ ih =>
      have fails : (before ++ c :: after).mapM ofJson = .error defect :=
        Fallible.mapM_eq_error_iff.mpr ⟨before, c, after, rfl,
          fun b hb => exists_ofJson_of_derives (derived b hb), ih⟩
      rw [ofJson_tuple hasType eq tail brackets found, fails]
      rfl

/-- **Every parameter is derived, or something in it is to blame.** -/
theorem derives_or_blames (param : Json) :
    Derives IsTail param ∨ ∃ defect, Blames param defect := by
  induction param using componentInduction with
  | step param ih =>
  by_cases typed : ∃ members text, param = .obj members ∧ members.lookup "type" = some (.str text)
  case neg =>
    refine Or.inr ⟨_, .noType ?_⟩
    intro members text eq hasType
    exact typed ⟨members, text, eq, hasType⟩
  obtain ⟨members, text, rfl, hasType⟩ := typed
  by_cases isTuple : tupleWord <+: Text.withoutBlanks text
  · by_cases listed : ∃ components, members.lookup "components" = some (.arr components)
    case neg =>
      refine Or.inr ⟨_, .noComponents hasType isTuple ?_⟩
      intro components found
      exact listed ⟨components, found⟩
    obtain ⟨components, found⟩ := listed
    by_cases cut : splitType? (Text.withoutBlanks text) = none
    · exact Or.inr ⟨_, .invalidType hasType (fun _ => ⟨components, found⟩)
        (splitType?_eq_none_iff.mp cut)⟩
    obtain ⟨suffix, eq⟩ := isTuple
    rw [← eq] at cut
    obtain ⟨rest, suffixes, rfl, tail, brackets⟩ := exists_tail_of_split cut
    -- a component that is read is derived, for one that is to blame is not read
    have derived : ∀ c ∈ components, (∃ t, ofJson c = .ok t) → Derives IsTail c := by
      rintro c hc ⟨t, read⟩
      rcases ih members components rfl found c hc with derived | ⟨defect, blames⟩
      · exact derived
      · rw [ofJson_of_blames blames] at read
        cases read
    cases inner : components.mapM ofJson with
    | ok ts =>
        exact Or.inl (.tuple hasType eq.symm tail brackets found
          fun c hc => derived c hc (Fallible.exists_ok_of_mapM inner c hc))
    | error defect =>
        obtain ⟨before, c, after, rfl, succeed, fails⟩ := Fallible.mapM_eq_error_iff.mp inner
        rcases ih members _ rfl found c (by simp) with derives | ⟨other, blames⟩
        · obtain ⟨t, read⟩ := exists_ofJson_of_derives derives
          rw [fails] at read
          cases read
        · refine Or.inr ⟨other, .component hasType eq.symm tail brackets found ?_ blames⟩
          exact fun b hb => derived b (by simp [hb]) (succeed b hb)
  · cases cut : splitType? (Text.withoutBlanks text) with
    | none =>
        exact Or.inr ⟨_, .invalidType hasType (fun isTuple' => absurd isTuple' isTuple)
          (splitType?_eq_none_iff.mp cut)⟩
    | some parts =>
        obtain ⟨eq, isName, brackets⟩ := splitType?_eq_some_iff.mp cut
        exact Or.inl (.elementary hasType eq (eq ▸ isTuple) isName brackets)

theorem ofJson_eq_ok_iff {param : Json} : (∃ t, ofJson param = .ok t) ↔ Derives IsTail param := by
  constructor
  · rintro ⟨t, read⟩
    rcases derives_or_blames param with derives | ⟨defect, blames⟩
    · exact derives
    · rw [ofJson_of_blames blames] at read
      cases read
  · exact exists_ofJson_of_derives

theorem ofJson_eq_error_iff {param : Json} {defect : ParameterDefect} :
    ofJson param = .error defect ↔ Blames param defect := by
  constructor
  · intro fails
    rcases derives_or_blames param with derives | ⟨other, blames⟩
    · obtain ⟨t, read⟩ := exists_ofJson_of_derives derives
      rw [fails] at read
      cases read
    · rw [ofJson_of_blames blames] at fails
      cases fails
      exact blames
  · exact ofJson_of_blames

/-! ## Canonical texts -/

/-- A full name is a name, none of the short ones and not the start of a tuple. -/
theorem fullName_isName (isName : IsName name) (notTuple : ¬ tupleWord <+: name) :
    IsName (fullName (String.ofList name)).toList ∧
      ¬ tupleWord <+: (fullName (String.ofList name)).toList ∧
      fullNames.lookup (fullName (String.ofList name)) = none := by
  have full : ∀ entry ∈ fullNames, splitType? entry.2.toList = some (entry.2.toList, []) ∧
      ¬ tupleWord <+: entry.2.toList ∧ fullNames.lookup entry.2 = none := by decide
  rw [fullName]
  cases found : fullNames.lookup (String.ofList name) with
  | none =>
      rw [Option.getD_none, String.toList_ofList]
      exact ⟨isName, notTuple, found⟩
  | some long =>
      obtain ⟨before, after, eq, -⟩ := List.lookup_eq_some_iff.mp found
      have entry : (String.ofList name, long) ∈ fullNames :=
        eq ▸ List.mem_append_right _ List.mem_cons_self
      obtain ⟨split, noTuple, notShort⟩ := full _ entry
      exact ⟨(splitType?_eq_some_iff.mp split).2.1, noTuple, notShort⟩

/-- **The text of a parameter of the grammar is canonical**, with the same tails. -/
theorem canonical_of_derives {tail : List Char → Prop} (within : ∀ cs, tail cs → IsTail cs)
    {param : Json} (h : Derives tail param) :
    ∀ t, ofJson param = .ok t → Canonical tail t.canonical.toList := by
  induction h with
  | @elementary members text name suffixes hasType eq notTuple isName brackets =>
      intro t read
      have split := splitType?_eq_some_iff.mpr ⟨eq, isName, brackets⟩
      rw [ofJson_elementary hasType (eq ▸ notTuple), readElementary, split] at read
      cases read
      have nameOnly : ¬ tupleWord <+: name :=
        fun word => notTuple (word.trans (List.prefix_append _ _))
      obtain ⟨full, noTuple, notShort⟩ := fullName_isName isName nameOnly
      rw [canonical, String.toList_append, String.toList_ofList]
      exact .elementary full noTuple (by rwa [String.ofList_toList]) brackets
  | @tuple members text rest suffixes components hasType eq rest_tail brackets found _ ih =>
      intro t read
      rw [ofJson_tuple hasType eq (within _ rest_tail) brackets found, Fallible.map_eq_ok] at read
      obtain ⟨inner, parts, rfl⟩ := read
      have shape : (canonical (.tuple inner (String.ofList (rest ++ suffixes)))).toList =
          '(' :: (commaSeparated ((canonicals inner).map String.toList) ++
            ')' :: (rest ++ suffixes)) := by
        rw [canonical, ← toList_commaSeparated]
        simp only [String.toList_append, String.toList_ofList, List.append_assoc]
        rfl
      rw [shape]
      refine .tuple ?_ rest_tail brackets
      obtain ⟨items, rfl⟩ := (Fallible.mapM_eq_ok_iff default).mp parts
      rw [canonicals_eq_map, List.map_map, List.map_map, List.forall_mem_map]
      exact fun c hc => ih c hc _ (items c hc)

/-! ## Bare tuples -/

theorem isTail_nil : IsTail [] :=
  ⟨[], [], rfl, List.forall_mem_nil _, List.forall_mem_nil _⟩

/-- A normal form of which every tuple has nothing but array suffixes. -/
inductive Norm.IsBare : Norm → Prop
  | plain (type : List Char) : IsBare (.plain type)
  | tuple {components : List Norm} {suffix : List Char} : (∀ n ∈ components, IsBare n) →
      ArraySuffixes suffix → IsBare (.tuple components suffix)

theorem ArraySuffixes.atoms (h : ArraySuffixes cs) : ∀ c ∈ cs, IsAtom c :=
  isAtom_of_isArraySuffix (isArraySuffix_false_iff.mpr h)

theorem IsName.atoms (h : IsName name) : name ≠ [] ∧ ∀ c ∈ name, IsAtom c := by
  obtain ⟨letters, sizes, rfl, nonempty, areLetters, areSizes⟩ := h
  refine ⟨List.append_ne_nil_of_left_ne_nil nonempty _, List.forall_mem_append.mpr ⟨?_, ?_⟩⟩
  · exact fun c hc => (isAtom_of_isLetter (areLetters c hc)).1
  · exact fun c hc => (isAtom_of_isSize (areSizes c hc)).1

/-- A canonical text with bare tuples is the text of a normal form with bare tuples. -/
theorem exists_norm_of_canonical (h : Canonical IsBare cs) :
    ∃ n : Norm, n.text = cs ∧ n.Formed ∧ n.IsBare := by
  induction h with
  | @elementary name suffixes isName _ _ brackets =>
      obtain ⟨nonempty, atoms⟩ := isName.atoms
      refine ⟨.plain (name ++ suffixes), rfl, .plain ?_ ?_, .plain _⟩
      · exact List.append_ne_nil_of_left_ne_nil nonempty _
      · exact List.forall_mem_append.mpr ⟨atoms, brackets.atoms⟩
  | @tuple components rest suffixes _ bare brackets ih =>
      obtain rfl : rest = [] := bare
      have inhabited : Nonempty Norm := ⟨.plain []⟩
      choose! normal text formed bareNorm using ih
      refine ⟨.tuple (components.map normal) suffixes, ?_, ?_, ?_⟩
      · have same : Norm.texts (components.map normal) = components := by
          rw [Norm.texts_eq_map, List.map_map]
          exact (List.map_congr_left text).trans (List.map_id _)
        rw [Norm.text, same, List.nil_append]
      · exact .tuple (List.forall_mem_map.mpr formed) brackets.atoms
      · exact .tuple (List.forall_mem_map.mpr bareNorm) brackets

/-- A parameter of the grammar with tails is one without them, if its normal form has none. -/
theorem derives_of_bare {param : Json} (h : Derives IsTail param) :
    (norm param).IsBare → Derives IsBare param := by
  induction h with
  | elementary hasType eq notTuple isName brackets =>
      intro _
      exact .elementary hasType eq notTuple isName brackets
  | @tuple members text rest suffixes components hasType eq tail brackets found _ ih =>
      intro bare
      have chars : typeChars members = tupleWord ++ (rest ++ suffixes) := by
        rw [typeChars, hasType]
        exact eq
      rw [norm_tuple (tupleSuffix?_eq_some_iff.mpr chars) found] at bare
      cases bare with
      | tuple parts only =>
          -- array suffixes start with a bracket, so there is nothing before them
          have same := (nameOf_append tail brackets.head).1
          have none := (nameOf_append isTail_nil only.head).1
          rw [List.nil_append, same] at none
          exact .tuple hasType eq none brackets found
            fun c hc => ih c hc (List.forall_mem_map.mp parts c hc)

/-- **A canonical text without tails is that of a parameter without tails**: the text shows what
stands behind each tuple. -/
theorem canonical_bare_iff {param : Json} {t : Parameter} (read : ofJson param = .ok t) :
    Canonical IsBare t.canonical.toList ↔ Derives IsBare param := by
  constructor
  · intro bare
    obtain ⟨n, text, formed, bareNorm⟩ := exists_norm_of_canonical bare
    obtain ⟨same, formed'⟩ := canonical_eq_text param read
    have nothing : Stops [] := fun c hc => by cases hc
    obtain ⟨rfl, -⟩ := formed.text_append_inj (norm param) [] [] formed' nothing nothing
      (by rw [text, same])
    exact derives_of_bare (ofJson_eq_ok_iff.mp ⟨t, read⟩) bareNorm
  · intro derives
    refine canonical_of_derives ?_ derives t read
    rintro cs rfl
    exact isTail_nil

/-- **Reading follows the grammar.** A parameter is read exactly when the grammar derives it with
tails behind the word `tuple`, and its text is canonical with such tails. The texts without them,
in which array suffixes alone follow a tuple, are those of the parameters without them. A
parameter that is not derived is reported as an invalid fragment, with the first defect in it. -/
theorem ofJson_outcomes (param : Json) :
    ((∃ t, ofJson param = .ok t) ↔ Derives IsTail param) ∧
    (∀ t, ofJson param = .ok t → Canonical IsTail t.canonical.toList ∧
      (Canonical IsBare t.canonical.toList ↔ Derives IsBare param)) ∧
    (¬ Derives IsTail param → ∃ defect, Blames param defect ∧ ofJson param = .error defect ∧
      (Fault.invalidParameter defect none).report? =
        some ⟨.invalidFragment, defect.message, none⟩) := by
  refine ⟨ofJson_eq_ok_iff, ?_, ?_⟩
  · intro t read
    exact ⟨canonical_of_derives (fun _ tail => tail) (ofJson_eq_ok_iff.mp ⟨t, read⟩) t read,
      canonical_bare_iff read⟩
  · intro notDerived
    rcases derives_or_blames param with derives | ⟨defect, blames⟩
    · exact absurd derives notDerived
    · exact ⟨defect, blames, ofJson_of_blames blames, rfl⟩

/-- A type whose name starts with the word `tuple` and goes on. -/
def tuple2 : Json :=
  .obj [("type", .str "tuple2"), ("components", .arr [.obj [("type", .str "uint")]])]

/-- The tail of the name is not refused but comes out behind the parentheses. -/
theorem ofJson_tuple2 : (ofJson tuple2).map canonical = .ok "(uint256)2" ∧
    ¬ Derives IsBare tuple2 ∧ ¬ Canonical IsBare "(uint256)2".toList := by
  have read : (ofJson tuple2).map canonical = .ok "(uint256)2" :=
    Fallible.eq_ok_of_toOption (by decide +kernel)
  obtain ⟨t, parameter, text⟩ := Fallible.map_eq_ok.mp read
  have type : Text.withoutBlanks "tuple2" = tupleWord ++ ['2'] := by decide
  have notDerived : ¬ Derives IsBare tuple2 := by
    intro h
    cases h with
    | elementary hasType eq notTuple _ _ =>
        obtain rfl := Json.str.inj (Option.some.inj hasType)
        exact notTuple (by rw [← eq, type]; exact List.prefix_append _ _)
    | tuple hasType eq bare brackets _ _ =>
        obtain rfl := Json.str.inj (Option.some.inj hasType)
        obtain rfl := bare
        rw [type, List.nil_append, List.append_cancel_left_eq] at eq
        rw [← eq] at brackets
        exact absurd (brackets.head '2' rfl) (by decide)
  refine ⟨read, notDerived, ?_⟩
  rw [← text, canonical_bare_iff parameter]
  exact notDerived

end SelectorRouter.Parameter
