import SelectorRouter.Proofs.Abi.Function

/-!
# Signatures are unambiguous

The text of a normal form ends where a comma, a closing parenthesis or the end of the
text comes first, so a list of types can be told from its text. The text of a list opens
as many parentheses as it closes, and no end of it opens more than it closes. So the
parenthesis before the inputs is found from the end of a signature, whatever characters
the name holds.
-/

namespace SelectorRouter

namespace Parameter

/-! ## Reading a list of types back -/

/-- A text that no type can be continued by. -/
def Stops (rest : List Char) : Prop :=
  ∀ c ∈ rest.head?, c = ',' ∨ c = ')'

theorem Stops.not_isAtom {c : Char} {rest : List Char} (h : Stops (c :: rest)) : ¬ IsAtom c := by
  rcases h c rfl with rfl | rfl <;> decide

/-- Atoms in front of a text that starts with none are told from it. -/
theorem atoms_append_inj : ∀ {as bs r s : List Char}, (∀ c ∈ as, IsAtom c) → (∀ c ∈ bs, IsAtom c) →
    Stops r → Stops s → as ++ r = bs ++ s → as = bs ∧ r = s
  | [], [], _, _, _, _, _, _, h => ⟨rfl, h⟩
  | [], b :: bs, r, s, _, hb, hr, _, h => by
      rw [List.nil_append] at h
      rw [h] at hr
      exact absurd (hb b List.mem_cons_self) hr.not_isAtom
  | a :: as, [], r, s, ha, _, _, hs, h => by
      rw [List.nil_append] at h
      rw [← h] at hs
      exact absurd (ha a List.mem_cons_self) hs.not_isAtom
  | a :: as, b :: bs, r, s, ha, hb, hr, hs, h => by
      obtain ⟨rfl, tail⟩ := List.cons.inj h
      obtain ⟨rfl, same⟩ := atoms_append_inj (fun c hc => ha c (List.mem_cons_of_mem _ hc))
        (fun c hc => hb c (List.mem_cons_of_mem _ hc)) hr hs tail
      exact ⟨rfl, same⟩

/-- The text of a type starts with a parenthesis or an atom. -/
theorem Norm.Formed.head {n : Norm} (h : n.Formed) :
    ∃ c rest, n.text = c :: rest ∧ c ≠ ')' ∧ c ≠ ',' := by
  cases h with
  | @plain type nonempty atoms =>
      obtain ⟨c, rest, rfl⟩ := List.exists_cons_of_ne_nil nonempty
      have atom := atoms c List.mem_cons_self
      exact ⟨c, rest, rfl, atom.2.1, atom.2.2⟩
  | tuple _ _ => exact ⟨'(', _, rfl, by decide, by decide⟩

/-- What follows the first type of a list up to the closing parenthesis. -/
def separated (ns : List Norm) (rest : List Char) : List Char :=
  if ns.isEmpty then ')' :: rest else ',' :: (commaSeparated (Norm.texts ns) ++ ')' :: rest)

theorem commaSeparated_cons (n : Norm) (ns : List Norm) (rest : List Char) :
    commaSeparated (Norm.texts (n :: ns)) ++ ')' :: rest = n.text ++ separated ns rest := by
  cases ns with
  | nil => simp [commaSeparated, Norm.texts, separated]
  | cons k ns => simp [commaSeparated, Norm.texts, separated]

theorem stops_separated (ns : List Norm) (rest : List Char) : Stops (separated ns rest) := by
  cases ns with
  | nil => exact fun c hc => Or.inr (Option.some.inj hc).symm
  | cons k ns => exact fun c hc => Or.inl (Option.some.inj hc).symm

/-- A list of types is told from its text when each of its types is. -/
theorem texts_append_inj : ∀ {ns ks : List Norm} {r s : List Char},
    (∀ n ∈ ns, ∀ (k : Norm) (r s : List Char), k.Formed → Stops r → Stops s →
      n.text ++ r = k.text ++ s → n = k ∧ r = s) →
    (∀ n ∈ ns, n.Formed) → (∀ k ∈ ks, k.Formed) →
    commaSeparated (Norm.texts ns) ++ ')' :: r = commaSeparated (Norm.texts ks) ++ ')' :: s →
    ns = ks ∧ r = s
  | [], [], r, s, _, _, _, h => ⟨rfl, (List.cons.inj h).2⟩
  | [], k :: ks, r, s, _, _, hk, h => by
      obtain ⟨c, rest, text, notClosing, -⟩ := (hk k List.mem_cons_self).head
      rw [commaSeparated_cons, text] at h
      exact absurd (List.cons.inj h).1.symm notClosing
  | n :: ns, [], r, s, _, hn, _, h => by
      obtain ⟨c, rest, text, notClosing, -⟩ := (hn n List.mem_cons_self).head
      rw [commaSeparated_cons, text] at h
      exact absurd (List.cons.inj h).1 notClosing
  | n :: ns, k :: ks, r, s, each, hn, hk, h => by
      rw [commaSeparated_cons, commaSeparated_cons] at h
      obtain ⟨rfl, others⟩ := each n List.mem_cons_self k _ _ (hk k List.mem_cons_self)
        (stops_separated ns r) (stops_separated ks s) h
      -- one list is at its end exactly when the other one is
      cases ns with
      | nil =>
          cases ks with
          | nil => exact ⟨rfl, (List.cons.inj others).2⟩
          | cons k ks => exact absurd (List.cons.inj others).1 (by decide)
      | cons n' ns =>
          cases ks with
          | nil => exact absurd (List.cons.inj others).1 (by decide)
          | cons k ks =>
              obtain ⟨same, rest⟩ := texts_append_inj
                (fun m hm => each m (List.mem_cons_of_mem _ hm))
                (fun m hm => hn m (List.mem_cons_of_mem _ hm))
                (fun m hm => hk m (List.mem_cons_of_mem _ hm)) (List.cons.inj others).2
              exact ⟨congrArg (n :: ·) same, rest⟩

/-- **A type is told from its text** when no further character can belong to it. -/
theorem Norm.Formed.text_append_inj {n : Norm} (hn : n.Formed) :
    ∀ (k : Norm) (r s : List Char), k.Formed → Stops r → Stops s →
      n.text ++ r = k.text ++ s → n = k ∧ r = s := by
  induction hn with
  | @plain type nonempty atoms =>
      intro k r s hk hr hs h
      cases hk with
      | plain _ atoms' =>
          obtain ⟨rfl, rest⟩ := atoms_append_inj atoms atoms' hr hs h
          exact ⟨rfl, rest⟩
      | tuple _ _ =>
          obtain ⟨c, rest, rfl⟩ := List.exists_cons_of_ne_nil nonempty
          exact absurd (List.cons.inj h).1 (atoms c List.mem_cons_self).1
  | @tuple components suffix formed atoms ih =>
      intro k r s hk hr hs h
      cases hk with
      | @plain type nonempty atoms' =>
          obtain ⟨c, rest, rfl⟩ := List.exists_cons_of_ne_nil nonempty
          exact absurd (List.cons.inj h).1.symm (atoms' c List.mem_cons_self).1
      | tuple formed' atoms' =>
          simp only [Norm.text, List.cons_append, List.append_assoc, List.cons.injEq, true_and] at h
          obtain ⟨rfl, after⟩ := texts_append_inj ih formed formed' h
          obtain ⟨rfl, rest⟩ := atoms_append_inj atoms atoms' hr hs after
          exact ⟨rfl, rest⟩

/-! ## Matching parentheses -/

/-- As many parentheses are opened as closed, and no end of the text opens more than it
closes. -/
structure Balanced (cs : List Char) : Prop where
  even : cs.count '(' = cs.count ')'
  ends : ∀ before rest, cs = before ++ rest → rest.count '(' ≤ rest.count ')'

theorem balanced_of_atoms {cs : List Char} (h : ∀ c ∈ cs, IsAtom c) : Balanced cs := by
  have none_of : ∀ {ds : List Char}, (∀ c ∈ ds, IsAtom c) → ds.count '(' = 0 ∧ ds.count ')' = 0 :=
    fun atoms => ⟨List.count_eq_zero.mpr fun hc => (atoms _ hc).1 rfl,
      List.count_eq_zero.mpr fun hc => (atoms _ hc).2.1 rfl⟩
  refine ⟨(none_of h).1.trans (none_of h).2.symm, fun before rest eq => ?_⟩
  rw [(none_of fun c hc => h c (eq ▸ List.mem_append_right before hc)).1]
  exact Nat.zero_le _

theorem Balanced.append {cs ds : List Char} (hc : Balanced cs) (hd : Balanced ds) :
    Balanced (cs ++ ds) := by
  refine ⟨by rw [List.count_append, List.count_append, hc.even, hd.even], ?_⟩
  intro before rest eq
  rcases List.append_eq_append_iff.mp eq with ⟨middle, -, right⟩ | ⟨middle, left, rfl⟩
  · exact hd.ends middle rest right
  · have := hc.ends before middle left
    have := hd.even
    rw [List.count_append, List.count_append]
    omega

theorem Balanced.enclose {cs : List Char} (h : Balanced cs) : Balanced ('(' :: (cs ++ [')'])) := by
  have even := h.even
  refine ⟨by simp [even], ?_⟩
  intro before rest eq
  rcases List.cons_eq_append_iff.mp eq with ⟨-, rfl⟩ | ⟨before, -, eq⟩
  · simp [even]
  · rcases List.append_eq_append_iff.mp eq with ⟨middle, -, right⟩ | ⟨middle, left, rfl⟩
    · have closing : rest.count '(' = 0 :=
        List.count_eq_zero.mpr fun hc => by
          have member : '(' ∈ [')'] := right ▸ List.mem_append_right middle hc
          exact absurd member (by decide)
      omega
    · have := h.ends before middle left
      simp only [List.count_append]
      have single : [')'].count '(' = 0 ∧ [')'].count ')' = 1 := by decide
      omega

theorem balanced_commaSeparated : ∀ {ns : List Norm}, (∀ n ∈ ns, Balanced n.text) →
    Balanced (commaSeparated (Norm.texts ns))
  | [], _ => balanced_of_atoms (List.forall_mem_nil _)
  | [n], h => by
      have only : commaSeparated (Norm.texts [n]) = n.text := List.intercalate_singleton
      rw [only]
      exact h n List.mem_cons_self
  | n :: k :: ns, h => by
      have comma : Balanced [','] := ⟨by decide, fun before rest eq => by
        have atoms : rest.count '(' = 0 := List.count_eq_zero.mpr fun hc => by
          have member : '(' ∈ [','] := eq ▸ List.mem_append_right before hc
          exact absurd member (by decide)
        omega⟩
      have rest := balanced_commaSeparated fun m hm => h m (List.mem_cons_of_mem n hm)
      have split : commaSeparated (Norm.texts (n :: k :: ns)) =
          n.text ++ [','] ++ commaSeparated (Norm.texts (k :: ns)) := List.intercalate_cons_cons
      rw [split]
      exact ((h n List.mem_cons_self).append comma).append rest

theorem Norm.Formed.balanced {n : Norm} (h : n.Formed) : Balanced n.text := by
  induction h with
  | plain _ atoms => exact balanced_of_atoms atoms
  | @tuple components suffix _ atoms ih =>
      have inside := (balanced_commaSeparated ih).enclose.append (balanced_of_atoms atoms)
      simpa [Norm.text] using inside

/-- The parenthesis before a balanced end is the same in both readings of a text. -/
theorem eq_nil_of_enclosed {extra as bs : List Char} (ha : Balanced as) (hb : Balanced bs)
    (h : '(' :: (as ++ [')']) = extra ++ '(' :: (bs ++ [')'])) : extra = [] := by
  cases extra with
  | nil => rfl
  | cons c extra =>
      -- otherwise the inputs would end in a text that opens one more than it closes
      have inside : as ++ [')'] = (extra ++ '(' :: bs) ++ [')'] := by
        have tail := (List.cons.inj h).2
        rw [tail, List.append_assoc, List.cons_append]
        rfl
      have ends := ha.ends extra ('(' :: bs) (List.append_cancel_right inside)
      have even := hb.even
      simp only [List.count_cons_self] at ends
      have other : ('(' :: bs).count ')' = bs.count ')' := List.count_cons_of_ne (by decide)
      omega

/-- **A name is told from balanced inputs**, whatever its characters are. -/
theorem name_append_inj {name other as bs : List Char} (ha : Balanced as) (hb : Balanced bs)
    (h : name ++ '(' :: (as ++ [')']) = other ++ '(' :: (bs ++ [')'])) :
    name = other ∧ as = bs := by
  have same : name = other := by
    rcases List.append_eq_append_iff.mp h with ⟨extra, rfl, eq⟩ | ⟨extra, rfl, eq⟩
    · rw [eq_nil_of_enclosed ha hb eq, List.append_nil]
    · rw [eq_nil_of_enclosed hb ha eq, List.append_nil]
  rw [same, List.append_cancel_left_eq] at h
  exact ⟨same, List.append_cancel_right (List.cons.inj h).2⟩

end Parameter

/-! ## Signatures -/

namespace Function

open Parameter (norm Norm commaSeparated Balanced)

/-- The text of a signature, by the normal forms of the parameters. -/
theorem toList_signature {f : Function} {signature : String} (h : f.signature = .ok signature) :
    (∀ n ∈ (parameters f.inputs).map norm, n.Formed) ∧ signature.toList = f.name.toList ++
      '(' :: (commaSeparated (Norm.texts ((parameters f.inputs).map norm)) ++ [')']) := by
  obtain ⟨items, listed⟩ := exists_inputItems fun unlistable => by
    rw [signature_of_unlistable unlistable] at h
    cases h
  rw [signature_of_items listed] at h
  split at h
  case h_2 => cases h
  case h_1 ts read =>
      rw [← eq_parameters_of_read listed read]
      refine ⟨List.forall_mem_map.mpr fun p hp => ?_, ?_⟩
      · obtain ⟨t, readable⟩ := Fallible.exists_ok_of_mapM read p hp
        exact (Parameter.canonical_eq_text p readable).2
      · have inside := Parameter.map_toList_canonicals
          (fun p _ _ h => (Parameter.canonical_eq_text p h).1) read
        rw [← Except.ok.inj h, signatureText, ← inside, ← Parameter.toList_commaSeparated]
        simp only [String.toList_append, List.append_assoc]
        rfl

/-- **Signatures are unambiguous.** Two fragments with names that have a signature have the
same one exactly when their names are the same and their parameters have the same normal
forms, one by one. A fragment whose inputs are neither a list nor count as false has no
signature. -/
theorem fragmentSignature_eq_iff {f g : Json} {name other a b : String}
    (hf : f.get? "name" = some (.str name)) (hg : g.get? "name" = some (.str other))
    (ha : fragmentSignature f = .ok a) (hb : fragmentSignature g = .ok b) :
    a = b ↔ name = other ∧
      (parameters (f.getD "inputs")).map norm = (parameters (g.getD "inputs")).map norm := by
  rw [fragmentSignature_eq hf] at ha
  rw [fragmentSignature_eq hg] at hb
  obtain ⟨formedF, textA⟩ := toList_signature ha
  obtain ⟨formedG, textB⟩ := toList_signature hb
  rw [← String.toList_inj, textA, textB]
  constructor
  · intro same
    obtain ⟨names, inputs⟩ := Parameter.name_append_inj
      (Parameter.balanced_commaSeparated fun n hn => (formedF n hn).balanced)
      (Parameter.balanced_commaSeparated fun n hn => (formedG n hn).balanced) same
    have closed := congrArg (· ++ [')']) inputs
    obtain ⟨norms, -⟩ := Parameter.texts_append_inj (fun n hn => (formedF n hn).text_append_inj)
      formedF formedG closed
    exact ⟨String.toList_inj.mp names, norms⟩
  · rintro ⟨rfl, norms⟩
    rw [norms]

/-- A function `swap` of two pairs of an amount and an address. -/
def swapFragment (type amount : String) (more : List (String × Json)) : Json :=
  .obj ([("type", .str "function"), ("name", .str "swap"), ("inputs", .arr [.obj
    ([("type", .str type), ("components", .arr [.obj [("type", .str amount)],
      .obj [("type", .str "address")]])] ++ more)])])

/-- Blanks, short names and the names of parameters make no difference. -/
theorem fragmentSignature_swap :
    let f := swapFragment "tuple[2]" "uint256" []
    let g := swapFragment "tuple [2]" " uint" [("name", .str "pairs")]
    fragmentSignature f = .ok "swap((uint256,address)[2])" ∧
      fragmentSignature g = .ok "swap((uint256,address)[2])" ∧
      (parameters (f.getD "inputs")).map norm = (parameters (g.getD "inputs")).map norm := by
  intro f g
  have hf : fragmentSignature f = .ok "swap((uint256,address)[2])" :=
    Fallible.eq_ok_of_toOption (by decide +kernel)
  have hg : fragmentSignature g = .ok "swap((uint256,address)[2])" :=
    Fallible.eq_ok_of_toOption (by decide +kernel)
  exact ⟨hf, hg, ((fragmentSignature_eq_iff rfl rfl hf hg).mp rfl).2⟩

end Function

end SelectorRouter
