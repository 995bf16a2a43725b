/-!
# Maps that may fail

A map over a list that stops at the first fault succeeds exactly when every item
does, and then it is a plain map. Where a total function `g` gives the value of
every successful result of `f`, the plain map is the one of `g`.
-/

namespace SelectorRouter.Fallible

variable {ε α β : Type}

theorem bind_eq_ok {x : Except ε α} {f : α → Except ε β} {b : β} :
    (x >>= f) = .ok b ↔ ∃ a, x = .ok a ∧ f a = .ok b := by
  cases x with
  | error e => simp [bind, Except.bind]
  | ok a => simp [bind, Except.bind]

theorem map_eq_ok {x : Except ε α} {f : α → β} {b : β} :
    x.map f = .ok b ↔ ∃ a, x = .ok a ∧ f a = b := by
  cases x with
  | error e => simp [Except.map]
  | ok a => simp [Except.map]

theorem bind_eq_error {x : Except ε α} {f : α → Except ε β} {e : ε} :
    (x >>= f) = .error e ↔ x = .error e ∨ ∃ a, x = .ok a ∧ f a = .error e := by
  cases x with
  | error fault => simp [bind, Except.bind]
  | ok a => simp [bind, Except.bind]

/-- A result whose option holds a value has succeeded with it. The option can be decided where
faults cannot be compared. -/
theorem eq_ok_of_toOption {x : Except ε α} {a : α} (h : x.toOption = some a) : x = .ok a := by
  cases x with
  | error e => cases h
  | ok b => exact congrArg Except.ok (Option.some.inj h)

/-- The value of a result, and the given one in place of a fault. -/
def valueOr (default : α) : Except ε α → α
  | .ok a => a
  | .error _ => default

@[simp]
theorem valueOr_ok (default a : α) : valueOr default (.ok a : Except ε α) = a := rfl

theorem eq_ok_valueOr {x : Except ε α} {a : α} (default : α) (h : x = .ok a) :
    x = .ok (valueOr default x) := by
  rw [h, valueOr_ok]

/-- A map whose items all succeed is a plain map. -/
theorem mapM_eq_ok_map {f : α → Except ε β} {g : α → β} : ∀ {l : List α},
    (∀ a ∈ l, f a = .ok (g a)) → l.mapM f = .ok (l.map g)
  | [], _ => rfl
  | a :: l, h => by
      have ih := mapM_eq_ok_map (l := l) fun b hb => h b (List.mem_cons_of_mem a hb)
      rw [List.mapM_cons, h a List.mem_cons_self, ih]
      rfl

/-- A map that undoes another one. -/
theorem mapM_map_eq_ok {f : α → Except ε β} {g : β → α} {l : List β} (h : ∀ b, f (g b) = .ok b) :
    (l.map g).mapM f = .ok l := by
  induction l with
  | nil => rfl
  | cons b l ih =>
      rw [List.map_cons, List.mapM_cons, h, ih]
      rfl

theorem exists_ok_of_mapM {f : α → Except ε β} : ∀ {l : List α} {r : List β},
    l.mapM f = .ok r → ∀ a ∈ l, ∃ b, f a = .ok b
  | [], _, _ => fun a ha => absurd ha List.not_mem_nil
  | a :: l, r, h => by
      rw [List.mapM_cons, bind_eq_ok] at h
      obtain ⟨b, hb, h⟩ := h
      obtain ⟨bs, hbs, -⟩ := bind_eq_ok.mp h
      intro x hx
      rcases List.mem_cons.mp hx with rfl | hx
      · exact ⟨b, hb⟩
      · exact exists_ok_of_mapM hbs x hx

theorem mapM_eq_ok_iff {f : α → Except ε β} (default : β) {l : List α} {r : List β} :
    l.mapM f = .ok r ↔
      (∀ a ∈ l, f a = .ok (valueOr default (f a))) ∧ r = l.map fun a => valueOr default (f a) := by
  constructor
  · intro h
    have items : ∀ a ∈ l, f a = .ok (valueOr default (f a)) := by
      intro a ha
      obtain ⟨b, hb⟩ := exists_ok_of_mapM h a ha
      exact eq_ok_valueOr default hb
    rw [mapM_eq_ok_map items] at h
    exact ⟨items, (Except.ok.inj h).symm⟩
  · rintro ⟨items, rfl⟩
    exact mapM_eq_ok_map items

/-- A map succeeds when its results are all values, in the same order. -/
theorem mapM_eq_ok_iff_map {f : α → Except ε β} : ∀ {l : List α} {r : List β},
    l.mapM f = .ok r ↔ l.map f = r.map .ok
  | [], r => by
      rw [List.mapM_nil, List.map_nil, eq_comm, List.nil_eq, List.map_eq_nil_iff]
      exact ⟨Except.ok.inj, congrArg _⟩
  | a :: l, r => by
      rw [List.mapM_cons, bind_eq_ok, List.map_cons]
      constructor
      · rintro ⟨b, first, rest⟩
        obtain ⟨bs, others, same⟩ := bind_eq_ok.mp rest
        obtain rfl := Except.ok.inj same
        rw [List.map_cons, first, mapM_eq_ok_iff_map.mp others]
      · intro same
        cases r with
        | nil => cases same
        | cons b bs =>
            obtain ⟨first, others⟩ := List.cons.inj same
            exact ⟨b, first, bind_eq_ok.mpr ⟨bs, mapM_eq_ok_iff_map.mpr others, rfl⟩⟩

/-! ## The first fault -/

/-- A fault that comes from one item, when all items before it succeed. -/
def FirstFault (f : α → Except ε β) (l : List α) (e : ε) : Prop :=
  ∃ before a after, l = before ++ a :: after ∧ (∀ b ∈ before, ∃ v, f b = .ok v) ∧
    f a = .error e

theorem exists_eq_ok_iff {x : Except ε α} : (∃ a, x = .ok a) ↔ ∀ e, x ≠ .error e := by
  cases x <;> simp

/-- The first fault is the same for steps with the same faults. -/
theorem firstFault_congr {γ : Type} {f : α → Except ε β} {g : α → Except ε γ} {l : List α} {e : ε}
    (same : ∀ a fault, f a = .error fault ↔ g a = .error fault) :
    FirstFault f l e ↔ FirstFault g l e := by
  have succeeds : ∀ a, (∃ v, f a = .ok v) ↔ ∃ v, g a = .ok v := by
    intro a
    simp only [exists_eq_ok_iff, ne_eq, same]
  simp only [FirstFault, succeeds, same]

/-- A map over two lists fails in the first one, or in the second one after the first. -/
theorem mapM_append_eq_error {f : α → Except ε β} {l k : List α} {e : ε} :
    (l ++ k).mapM f = .error e ↔
      l.mapM f = .error e ∨ (∃ r, l.mapM f = .ok r) ∧ k.mapM f = .error e := by
  rw [List.mapM_append]
  cases l.mapM f with
  | error fault => simp [bind, Except.bind]
  | ok r => cases k.mapM f <;> simp [bind, Except.bind, pure, Except.pure]

theorem mapM_cons_eq_error {f : α → Except ε β} {a : α} {l : List α} {e : ε} :
    (a :: l).mapM f = .error e ↔ f a = .error e ∨ (∃ v, f a = .ok v) ∧ l.mapM f = .error e := by
  rw [List.mapM_cons]
  cases f a with
  | error fault => simp [bind, Except.bind]
  | ok v => cases l.mapM f <;> simp [bind, Except.bind, pure, Except.pure]

theorem mapM_eq_error_iff {f : α → Except ε β} {e : ε} : ∀ {l : List α},
    l.mapM f = .error e ↔ FirstFault f l e
  | [] => by
      constructor
      · intro h
        cases h
      · rintro ⟨before, a, after, nil, -⟩
        exact absurd nil.symm (List.append_ne_nil_of_right_ne_nil _ (List.cons_ne_nil _ _))
  | a :: l => by
      rw [mapM_cons_eq_error, mapM_eq_error_iff]
      constructor
      · rintro (first | ⟨ok, before, b, after, rfl, succeeds, fails⟩)
        · exact ⟨[], a, l, rfl, List.forall_mem_nil _, first⟩
        · exact ⟨a :: before, b, after, rfl, List.forall_mem_cons.mpr ⟨ok, succeeds⟩, fails⟩
      · rintro ⟨before, b, after, split, succeeds, fails⟩
        cases before with
        | nil =>
            obtain ⟨rfl, rfl⟩ := List.cons.inj split
            exact Or.inl fails
        | cons c before =>
            obtain ⟨rfl, rfl⟩ := List.cons.inj split
            obtain ⟨ok, succeeds⟩ := List.forall_mem_cons.mp succeeds
            exact Or.inr ⟨ok, before, b, after, rfl, succeeds, fails⟩

/-- A map of maps fails where the map over all inner items does. -/
theorem mapM_flatMap_eq_error {γ δ : Type} {f : α → Except ε β} {g : γ → List α}
    {h : γ → Except ε δ} {e : ε} : ∀ {l : List γ},
    (∀ a ∈ l, (∀ fault, h a = .error fault ↔ (g a).mapM f = .error fault)) →
    (l.mapM h = .error e ↔ (l.flatMap g).mapM f = .error e)
  | [], _ => by simp [pure, Except.pure]
  | a :: l, same => by
      have ih := mapM_flatMap_eq_error (e := e) fun b hb => same b (List.mem_cons_of_mem a hb)
      have first := same a List.mem_cons_self
      have succeeds : (∃ v, h a = .ok v) ↔ ∃ r, (g a).mapM f = .ok r := by
        cases outer : h a with
        | error fault => simp [(first fault).mp outer]
        | ok v =>
            cases inner : (g a).mapM f with
            | error fault => rw [(first fault).mpr inner] at outer; cases outer
            | ok r => simp
      rw [List.flatMap_cons, mapM_cons_eq_error, mapM_append_eq_error, first, succeeds, ih]

end SelectorRouter.Fallible
