import SelectorRouter.Abi.Parameter
import SelectorRouter.Proofs.Fallible

/-!
# Normal forms of parameters

What a parameter means apart from how it is written: the text of an elementary type
without blanks and short names, or the normal forms of the components of a tuple with its
suffix. The normal form is defined on the JSON value itself and says nothing about what
is malformed. The canonical text of a parameter that can be read is the text of its
normal form.
-/

namespace SelectorRouter.Parameter

open Fallible (mapM_eq_ok_iff)

/-! ## Reading -/

theorem ofJsons_eq_mapM : ∀ params, ofJsons params = params.mapM ofJson
  | [] => by rw [ofJsons]; rfl
  | param :: rest => by rw [ofJsons, List.mapM_cons, ofJsons_eq_mapM rest]

theorem canonicals_eq_map : ∀ ts : List Parameter, canonicals ts = ts.map canonical
  | [] => rfl
  | t :: ts => by rw [canonicals, canonicals_eq_map ts, List.map_cons]

/-- What holds of a parameter when it holds of its components holds of all parameters. -/
theorem componentInduction {motive : Json → Prop}
    (step : ∀ param, (∀ members components, param = .obj members →
      members.lookup "components" = some (.arr components) → ∀ c ∈ components, motive c) →
      motive param) (param : Json) : motive param := by
  refine step param fun members components eq found c hc => ?_
  have smaller : sizeOf c < sizeOf param := by
    have inner := List.sizeOf_lt_of_mem hc
    have outer := sizeOf_lookup found
    rw [eq]
    simp +arith at outer ⊢
    omega
  exact componentInduction step c
termination_by sizeOf param

/-- The two kinds of parameters that can be read. -/
theorem ofJson_eq_ok {param : Json} {t : Parameter} (h : ofJson param = .ok t) :
    ∃ members text, param = .obj members ∧ members.lookup "type" = some (.str text) ∧
      ((tupleSuffix? (Text.withoutBlanks text) = none ∧
          ∃ base suffix, splitType? (Text.withoutBlanks text) = some (base, suffix) ∧
            t = .elementary (fullName (String.ofList base)) (String.ofList suffix)) ∨
        ∃ suffix components inner, tupleSuffix? (Text.withoutBlanks text) = some suffix ∧
          (splitType? (Text.withoutBlanks text)).isSome ∧
          members.lookup "components" = some (.arr components) ∧
          components.mapM ofJson = .ok inner ∧ t = .tuple inner (String.ofList suffix)) := by
  rw [ofJson.eq_def] at h
  split at h
  case h_2 => cases h
  case h_1 members =>
      split at h
      case h_2 => cases h
      case h_1 text hasType =>
          refine ⟨members, text, rfl, hasType, ?_⟩
          simp only at h
          split at h
          case h_1 notTuple =>
              rw [readElementary] at h
              split at h
              case h_1 base suffix split =>
                  exact Or.inl ⟨notTuple, base, suffix, split, (Except.ok.inj h).symm⟩
              case h_2 => cases h
          case h_2 suffix isTuple =>
              split at h
              case h_2 => cases h
              case h_1 components found =>
                  split at h
                  case isTrue => cases h
                  case isFalse formed =>
                      rw [ofJsons_eq_mapM] at h
                      cases inner : components.mapM ofJson with
                      | error defect => rw [inner] at h; cases h
                      | ok ts =>
                          rw [inner] at h
                          refine Or.inr ⟨suffix, components, ts, isTuple, ?_, found, inner,
                            (Except.ok.inj h).symm⟩
                          rwa [Option.isNone_iff_eq_none, ← ne_eq,
                            Option.ne_none_iff_isSome] at formed

/-! ## Characters of types -/

/-- A character that neither separates types nor encloses them. -/
def IsAtom (c : Char) : Prop :=
  c ≠ '(' ∧ c ≠ ')' ∧ c ≠ ','

instance (c : Char) : Decidable (IsAtom c) :=
  inferInstanceAs (Decidable (_ ∧ _ ∧ _))

theorem isAtom_of_isLetter {c : Char} (h : isLetter c = true) : IsAtom c ∧ c ≠ '[' := by
  refine ⟨⟨?_, ?_, ?_⟩, ?_⟩ <;> (rintro rfl; exact absurd h (by decide))

theorem isAtom_of_isSize {c : Char} (h : isSize c = true) : IsAtom c ∧ c ≠ '[' := by
  refine ⟨⟨?_, ?_, ?_⟩, ?_⟩ <;> (rintro rfl; exact absurd h (by decide))

theorem isAtom_of_isDigit {c : Char} (h : Json.isDigit c = true) : IsAtom c := by
  refine ⟨?_, ?_, ?_⟩ <;> (rintro rfl; exact absurd h (by decide))

theorem isAtom_of_isArraySuffix : ∀ {cs : List Char} {inside : Bool},
    isArraySuffix inside cs = true → ∀ c ∈ cs, IsAtom c
  | [], _, _, c, hc => absurd hc List.not_mem_nil
  | d :: cs, true, h, c, hc => by
      rw [isArraySuffix, if_pos rfl] at h
      split at h
      case isTrue closes =>
          rcases List.mem_cons.mp hc with rfl | hc
          · rw [closes]
            decide
          · exact isAtom_of_isArraySuffix h c hc
      case isFalse =>
          rw [Bool.and_eq_true] at h
          rcases List.mem_cons.mp hc with rfl | hc
          · exact isAtom_of_isDigit h.1
          · exact isAtom_of_isArraySuffix h.2 c hc
  | d :: cs, false, h, c, hc => by
      rw [isArraySuffix, if_neg Bool.false_ne_true, Bool.and_eq_true, beq_iff_eq] at h
      rcases List.mem_cons.mp hc with rfl | hc
      · rw [h.1]
        decide
      · exact isAtom_of_isArraySuffix h.2 c hc

/-- The parts of a type name: the base is not empty, and a suffix starts with a bracket. -/
theorem splitType?_spec {type base suffix : List Char} (h : splitType? type = some (base, suffix)) :
    type = base ++ suffix ∧ base ≠ [] ∧ (∀ c ∈ base, IsAtom c ∧ c ≠ '[') ∧
      (∀ c ∈ suffix, IsAtom c) ∧ ∀ c ∈ suffix.head?, c = '[' := by
  rw [splitType?] at h
  split at h
  case isTrue => cases h
  case isFalse nonempty =>
      split at h
      case isFalse => cases h
      case isTrue brackets =>
          obtain ⟨rfl, rfl⟩ := Prod.mk.inj (Option.some.inj h)
          refine ⟨?_, ?_, ?_, isAtom_of_isArraySuffix brackets, ?_⟩
          · rw [List.append_assoc, List.takeWhile_append_dropWhile,
              List.takeWhile_append_dropWhile]
          · rw [List.isEmpty_iff] at nonempty
            exact fun e => nonempty (List.append_eq_nil_iff.mp e).1
          · intro c hc
            rcases List.mem_append.mp hc with hc | hc
            · exact isAtom_of_isLetter (List.all_eq_true.mp List.all_takeWhile c hc)
            · exact isAtom_of_isSize (List.all_eq_true.mp List.all_takeWhile c hc)
          · intro c hc
            obtain ⟨rest, eq⟩ := List.head?_eq_some_iff.mp hc
            rw [eq, isArraySuffix, if_neg Bool.false_ne_true, Bool.and_eq_true] at brackets
            exact beq_iff_eq.mp brackets.1

theorem dropWord?_eq_some : ∀ {word cs rest : List Char}, Json.dropWord? word cs = some rest →
    cs = word ++ rest
  | [], _, _, h => Option.some.inj h
  | _ :: _, [], _, h => by cases h
  | w :: word, c :: cs, rest, h => by
      rw [Json.dropWord?] at h
      split at h
      case isTrue same => rw [same, dropWord?_eq_some h, List.cons_append]
      case isFalse => cases h

theorem fullName_spec {base : String} (nonempty : base ≠ "") (atoms : ∀ c ∈ base.toList, IsAtom c) :
    fullName base ≠ "" ∧ ∀ c ∈ (fullName base).toList, IsAtom c := by
  have full : (fullNames.all fun entry =>
      entry.2 != "" && entry.2.toList.all fun c => decide (IsAtom c)) = true := by decide
  simp only [List.all_eq_true, Bool.and_eq_true, bne_iff_ne, decide_eq_true_eq] at full
  rw [fullName]
  cases found : fullNames.lookup base with
  | none => exact ⟨nonempty, atoms⟩
  | some name =>
      obtain ⟨before, after, eq, -⟩ := List.lookup_eq_some_iff.mp found
      exact full (base, name) (eq ▸ List.mem_append_right _ List.mem_cons_self)

/-! ## Normal forms -/

/-- What a parameter means apart from how it is written. -/
inductive Norm where
  | plain (type : List Char)
  | tuple (components : List Norm) (suffix : List Char)
  deriving Repr

/-- The text of a type with the full name in place of a short one. The name ends at the
first bracket. -/
def expand (type : List Char) : List Char :=
  (fullName (String.ofList (type.takeWhile (· ≠ '[')))).toList ++ type.dropWhile (· ≠ '[')

/-- The type of a parameter without blanks. -/
def typeChars (members : List (String × Json)) : List Char :=
  match members.lookup "type" with
  | some (.str text) => Text.withoutBlanks text
  | _ => []

mutual
/-- The normal form of a parameter. It depends on the type and, of a tuple, on the
components; all other members are dropped. -/
def norm (param : Json) : Norm :=
  match param with
  | .obj members =>
    match tupleSuffix? (typeChars members) with
    | none => .plain (expand (typeChars members))
    | some suffix =>
      match _h : members.lookup "components" with
      | some (.arr components) => .tuple (norms components) suffix
      | _ => .tuple [] suffix
  | _ => .plain []
termination_by sizeOf param
decreasing_by
  have := sizeOf_lookup _h
  simp +arith at this ⊢
  omega

def norms (params : List Json) : List Norm :=
  match params with
  | [] => []
  | param :: rest => norm param :: norms rest
termination_by sizeOf params
end

theorem norms_eq_map : ∀ params : List Json, norms params = params.map norm
  | [] => by rw [norms]; rfl
  | param :: rest => by rw [norms, norms_eq_map rest]; rfl

/-- The normal form of a tuple with components. -/
theorem norm_tuple {members : List (String × Json)} {suffix : List Char} {components : List Json}
    (isTuple : tupleSuffix? (typeChars members) = some suffix)
    (found : members.lookup "components" = some (.arr components)) :
    norm (.obj members) = .tuple (components.map norm) suffix := by
  rw [norm, isTuple]
  simp only
  split
  case h_1 others also =>
      obtain rfl := Json.arr.inj (Option.some.inj (found.symm.trans also))
      rw [norms_eq_map]
  case h_2 other => exact absurd found (other components)

/-- Types in a row, with a comma between two of them. -/
def commaSeparated (texts : List (List Char)) : List Char :=
  [','].intercalate texts

mutual
def Norm.text : Norm → List Char
  | .plain type => type
  | .tuple components suffix => '(' :: (commaSeparated (Norm.texts components) ++ ')' :: suffix)

def Norm.texts : List Norm → List (List Char)
  | [] => []
  | n :: rest => Norm.text n :: Norm.texts rest
end

/-- A normal form whose text can be told apart from others: the characters of types and
suffixes neither separate nor enclose. -/
inductive Norm.Formed : Norm → Prop
  | plain {type : List Char} : type ≠ [] → (∀ c ∈ type, IsAtom c) → Formed (.plain type)
  | tuple {components : List Norm} {suffix : List Char} : (∀ n ∈ components, Formed n) →
      (∀ c ∈ suffix, IsAtom c) → Formed (.tuple components suffix)

theorem Norm.texts_eq_map : ∀ ns : List Norm, Norm.texts ns = ns.map Norm.text
  | [] => rfl
  | n :: ns => by rw [Norm.texts, Norm.texts_eq_map ns, List.map_cons]

theorem expand_append {base suffix : List Char} (noBracket : ∀ c ∈ base, c ≠ '[')
    (brackets : ∀ c ∈ suffix.head?, c = '[') :
    expand (base ++ suffix) = (fullName (String.ofList base)).toList ++ suffix := by
  have within : ∀ c ∈ base, decide (c ≠ '[') = true := fun c hc => decide_eq_true (noBracket c hc)
  have ends : suffix.takeWhile (fun c => decide (c ≠ '[')) = [] ∧
      suffix.dropWhile (fun c => decide (c ≠ '[')) = suffix := by
    cases suffix with
    | nil => exact ⟨rfl, rfl⟩
    | cons c rest =>
        have bracket : c = '[' := brackets c rfl
        simp [bracket]
  rw [expand, List.takeWhile_append_of_pos within, List.dropWhile_append_of_pos within, ends.1,
    ends.2, List.append_nil]

/-- What holds of the text of each parameter of a list holds of the texts of the list. -/
theorem map_toList_canonicals {params : List Json} {ts : List Parameter}
    (each : ∀ p ∈ params, ∀ {t}, ofJson p = .ok t → t.canonical.toList = (norm p).text)
    (read : params.mapM ofJson = .ok ts) :
    (canonicals ts).map String.toList = Norm.texts (params.map norm) := by
  obtain ⟨readable, eq⟩ := (mapM_eq_ok_iff default).mp read
  rw [eq, canonicals_eq_map, Norm.texts_eq_map, List.map_map, List.map_map, List.map_map]
  exact List.map_congr_left fun p hp => each p hp (readable p hp)

theorem toList_commaSeparated (texts : List String) :
    (",".intercalate texts).toList = commaSeparated (texts.map String.toList) := by
  rw [String.toList_intercalate, commaSeparated]
  rfl

/-- **The canonical text of a parameter** is the text of its normal form. -/
theorem canonical_eq_text : ∀ (param : Json) {t : Parameter}, ofJson param = .ok t →
    t.canonical.toList = (norm param).text ∧ (norm param).Formed := by
  intro param
  induction param using componentInduction with
  | step param ih =>
  intro t h
  obtain ⟨members, text, rfl, hasType, ⟨notTuple, base, suffix, split, rfl⟩ |
    ⟨suffix, components, inner, isTuple, formed, found, read, rfl⟩⟩ := ofJson_eq_ok h
  · have chars : typeChars members = Text.withoutBlanks text := by rw [typeChars, hasType]
    obtain ⟨type, nonempty, base_atoms, suffix_atoms, brackets⟩ := splitType?_spec split
    have full := @fullName_spec (String.ofList base) (by simpa using nonempty)
      (by rw [String.toList_ofList]; exact fun c hc => (base_atoms c hc).1)
    have normal : norm (.obj members) =
        .plain ((fullName (String.ofList base)).toList ++ suffix) := by
      rw [norm, chars, notTuple, type, expand_append (fun c hc => (base_atoms c hc).2) brackets]
    rw [normal]
    refine ⟨?_, .plain ?_ ?_⟩
    · rw [canonical, String.toList_append, String.toList_ofList, Norm.text]
    · intro e
      exact full.1 (String.toList_eq_nil_iff.mp (List.append_eq_nil_iff.mp e).1)
    · intro c hc
      exact (List.mem_append.mp hc).elim (full.2 c) (suffix_atoms c)
  · have chars : typeChars members = Text.withoutBlanks text := by rw [typeChars, hasType]
    have normal := norm_tuple (by rw [chars, isTuple]) found
    have step : ∀ c ∈ components, ∀ {t}, ofJson c = .ok t → t.canonical.toList = (norm c).text ∧
        (norm c).Formed := fun c hc => ih members components rfl found c hc
    rw [normal]
    refine ⟨?_, .tuple (List.forall_mem_map.mpr fun c hc => ?_) ?_⟩
    · rw [canonical, Norm.text, ← map_toList_canonicals (fun c hc _ h => (step c hc h).1) read,
        ← toList_commaSeparated]
      simp only [String.toList_append, String.toList_ofList, List.append_assoc]
      rfl
    · obtain ⟨t, readable⟩ := Fallible.exists_ok_of_mapM read c hc
      exact (step c hc readable).2
    · intro c hc
      obtain ⟨⟨base, rest⟩, parts⟩ := Option.isSome_iff_exists.mp formed
      obtain ⟨type, -, base_atoms, rest_atoms, -⟩ := splitType?_spec parts
      have within : c ∈ base ++ rest := by
        rw [← type, dropWord?_eq_some isTuple]
        exact List.mem_append_right _ hc
      exact (List.mem_append.mp within).elim (fun h => (base_atoms c h).1) (rest_atoms c)

end SelectorRouter.Parameter
