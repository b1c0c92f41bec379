import Mathlib.Data.List.Forall2

/-! Computations that may fail. These laws open a computation step by step without evaluating it,
which matters where a step compares with numbers as large as a machine word. -/
namespace SyntaxReport.Outcome

variable {ε ε' α β : Type}

@[simp]
theorem ok_bind (a : α) (f : α → Except ε β) : (Except.ok a >>= f) = f a := rfl

@[simp]
theorem error_bind (e : ε) (f : α → Except ε β) : (Except.error e >>= f) = .error e := rfl

@[simp]
theorem pure_eq_ok (a : α) : (pure a : Except ε α) = .ok a := rfl

@[simp]
theorem map_ok (f : α → β) (a : α) : (Except.ok a : Except ε α).map f = .ok (f a) := rfl

@[simp]
theorem map_error (f : α → β) (e : ε) : (Except.error e : Except ε α).map f = .error e := rfl

@[simp]
theorem mapError_ok (f : ε → ε') (a : α) : (Except.ok a).mapError f = .ok a := rfl

@[simp]
theorem mapError_error (f : ε → ε') (e : ε) :
    (Except.error e : Except ε α).mapError f = .error (f e) := rfl

theorem mapError_eq_ok_iff {x : Except ε α} {f : ε → ε'} {a : α} :
    x.mapError f = .ok a ↔ x = .ok a := by
  cases x <;> simp

theorem exists_of_map_eq_ok {x : Except ε α} {f : α → β} {b : β} (h : x.map f = .ok b) :
    ∃ a, x = .ok a ∧ f a = b := by
  cases x with
  | error e => cases h
  | ok a => exact ⟨a, rfl, Except.ok.inj h⟩

theorem exists_of_bind_eq_ok {x : Except ε α} {f : α → Except ε β} {b : β}
    (h : (x >>= f) = .ok b) : ∃ a, x = .ok a ∧ f a = .ok b := by
  cases x with
  | error e => cases h
  | ok a => exact ⟨a, rfl, h⟩

theorem exists_mapM_ok {f : α → Except ε β} {P : α → β → Prop} {xs : List α}
    (h : ∀ x ∈ xs, ∃ y, f x = .ok y ∧ P x y) :
    ∃ ys, xs.mapM f = .ok ys ∧ List.Forall₂ P xs ys := by
  induction xs with
  | nil => exact ⟨[], rfl, .nil⟩
  | cons x xs ih =>
    obtain ⟨y, hy, hp⟩ := h x List.mem_cons_self
    obtain ⟨ys, hys, hps⟩ := ih fun x' hx' => h x' (List.mem_cons_of_mem x hx')
    refine ⟨y :: ys, ?_, .cons hp hps⟩
    rw [List.mapM_cons, hy, ok_bind, hys, ok_bind, pure_eq_ok]

theorem exists_mapM_eq_ok {f : α → Except ε β} {xs : List α}
    (h : ∀ x ∈ xs, ∃ y, f x = .ok y) : ∃ ys, xs.mapM f = .ok ys := by
  have hall : ∀ x ∈ xs, ∃ y, f x = .ok y ∧ True :=
    fun x hx => (h x hx).imp fun y hy => ⟨hy, trivial⟩
  obtain ⟨ys, hys, -⟩ := exists_mapM_ok (P := fun _ _ => True) hall
  exact ⟨ys, hys⟩

theorem exists_mem_of_forall₂ {P : α → β → Prop} {xs : List α} {ys : List β}
    (h : List.Forall₂ P xs ys) {y : β} (hy : y ∈ ys) : ∃ x ∈ xs, P x y := by
  induction h with
  | nil => cases hy
  | cons hp _ ih =>
    rcases List.mem_cons.mp hy with rfl | hr
    · exact ⟨_, List.mem_cons_self, hp⟩
    · obtain ⟨x, hx, hxy⟩ := ih hr
      exact ⟨x, List.mem_cons_of_mem _ hx, hxy⟩

theorem mapM_congr {γ : Type} {f : α → Except ε γ} {g : β → Except ε γ} {xs : List α}
    {ys : List β} (h : List.Forall₂ (fun x y => f x = g y) xs ys) : xs.mapM f = ys.mapM g := by
  induction h with
  | nil => rfl
  | cons hxy _ ih => rw [List.mapM_cons, List.mapM_cons, hxy, ih]

theorem forall₂_of_mapM_eq_ok {f : α → Except ε β} {xs : List α} {ys : List β}
    (h : xs.mapM f = .ok ys) : List.Forall₂ (fun x y => f x = .ok y) xs ys := by
  induction xs generalizing ys with
  | nil =>
    rw [List.mapM_nil] at h
    cases h
    exact .nil
  | cons x xs ih =>
    rw [List.mapM_cons] at h
    cases hx : f x with
    | error e =>
      rw [hx] at h
      cases h
    | ok y =>
      cases hxs : xs.mapM f with
      | error e =>
        rw [hx, hxs] at h
        cases h
      | ok zs =>
        rw [hx, hxs] at h
        cases h
        exact .cons hx (ih hxs)

theorem mapM_eq_ok_of_forall₂ {f : α → Except ε β} {xs : List α} {ys : List β}
    (h : List.Forall₂ (fun x y => f x = .ok y) xs ys) : xs.mapM f = .ok ys := by
  induction h with
  | nil => rfl
  | cons hx _ ih => rw [List.mapM_cons, hx, ok_bind, ih, ok_bind, pure_eq_ok]

theorem exists_of_mapM_append_eq_ok {f : α → Except ε β} {xs ys : List α} {zs : List β}
    (h : (xs ++ ys).mapM f = .ok zs) :
    ∃ as bs, xs.mapM f = .ok as ∧ ys.mapM f = .ok bs ∧ zs = as ++ bs := by
  rw [List.mapM_append] at h
  obtain ⟨as, has, h⟩ := exists_of_bind_eq_ok h
  obtain ⟨bs, hbs, h⟩ := exists_of_bind_eq_ok h
  exact ⟨as, bs, has, hbs, (Except.ok.inj h).symm⟩

/-- If some item fails, so does the list, with the failure of one of its items. -/
theorem exists_mapM_error {f : α → Except ε β} {Q : ε → Prop} {xs : List α}
    (hq : ∀ x ∈ xs, ∀ e, f x = .error e → Q e) (h : ∃ x ∈ xs, ∃ e, f x = .error e) :
    ∃ e, xs.mapM f = .error e ∧ Q e := by
  induction xs with
  | nil =>
    obtain ⟨x, hx, -⟩ := h
    cases hx
  | cons x xs ih =>
    rw [List.mapM_cons]
    -- the first failure is the one that is reported
    cases hf : f x with
    | error e => exact ⟨e, error_bind e _, hq x List.mem_cons_self e hf⟩
    | ok y =>
      have hrest : ∃ x' ∈ xs, ∃ e, f x' = .error e := by
        obtain ⟨x', hx', e, he⟩ := h
        rcases List.mem_cons.mp hx' with rfl | hm
        · rw [hf] at he
          cases he
        · exact ⟨x', hm, e, he⟩
      obtain ⟨e, he, hqe⟩ := ih (fun x' hx' => hq x' (List.mem_cons_of_mem x hx')) hrest
      refine ⟨e, ?_, hqe⟩
      rw [ok_bind, he, error_bind]

/-- A list fails with what its first failing item fails with. -/
theorem mapM_eq_error_iff {f : α → Except ε β} {xs : List α} {e : ε} :
    xs.mapM f = .error e ↔
      ∃ as x bs, xs = as ++ x :: bs ∧ (∀ a ∈ as, ∃ b, f a = .ok b) ∧ f x = .error e := by
  constructor
  · intro h
    induction xs with
    | nil => cases h
    | cons x xs ih =>
      rw [List.mapM_cons] at h
      cases hx : f x with
      | error e' =>
        rw [hx, error_bind] at h
        obtain rfl : e' = e := Except.error.inj h
        exact ⟨[], x, xs, rfl, nofun, hx⟩
      | ok y =>
        -- the first item does not fail, so it is one of the others
        have hxs : xs.mapM f = .error e := by
          cases hr : xs.mapM f with
          | error e' =>
            rw [hx, hr] at h
            exact h
          | ok ys =>
            rw [hx, hr] at h
            cases h
        obtain ⟨as, x', bs, rfl, has, hx'⟩ := ih hxs
        refine ⟨x :: as, x', bs, rfl, ?_, hx'⟩
        intro a ha
        rcases List.mem_cons.mp ha with rfl | ha
        · exact ⟨y, hx⟩
        · exact has a ha
  · intro h
    obtain ⟨as, x, bs, rfl, has, hx⟩ := h
    obtain ⟨ys, hys⟩ := exists_mapM_eq_ok has
    rw [List.mapM_append, hys, ok_bind, List.mapM_cons, hx]
    rfl

end SyntaxReport.Outcome
