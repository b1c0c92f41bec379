import Mathlib.Data.List.Basic

/-! Computations that count. Whatever else such a computation does, for instance draw at random, a
statement about its results and the number that it ends with is carried from one step to the next,
and along a list of steps. Items made one after the other are numbered in order. -/
namespace SyntaxReport.Counting

variable {m : Type → Type} [Monad m] {α β : Type}

/-- Counting from `i`, every result and the number at the end satisfy `P`. -/
def Yields (x : StateT Nat m α) (i : Nat) (P : α → Nat → Prop) : Prop :=
  ∃ y : m { r : α × Nat // P r.1 r.2 }, Subtype.val <$> y = x.run i

/-- The items satisfy `P` with their numbers, counted from `i`. -/
def NumberedFrom (P : Nat → α → Prop) (i : Nat) (xs : List α) : Prop :=
  ∀ k x, xs[k]? = some x → P (i + k) x

section Lawful

variable [LawfulMonad m]

theorem yields_pure {a : α} {i : Nat} {P : α → Nat → Prop} (h : P a i) :
    Yields (pure a : StateT Nat m α) i P :=
  ⟨pure ⟨(a, i), h⟩, map_pure _ _⟩

theorem Yields.imp {x : StateT Nat m α} {i : Nat} {P Q : α → Nat → Prop} (hx : Yields x i P)
    (h : ∀ a j, P a j → Q a j) : Yields x i Q := by
  obtain ⟨y, hy⟩ := hx
  refine ⟨(fun r => ⟨r.1, h _ _ r.2⟩) <$> y, ?_⟩
  rw [← comp_map]
  exact hy

theorem Yields.bind {x : StateT Nat m α} {f : α → StateT Nat m β} {i : Nat} {P : α → Nat → Prop}
    {Q : β → Nat → Prop} (hx : Yields x i P) (hf : ∀ a j, P a j → Yields (f a) j Q) :
    Yields (x >>= f) i Q := by
  obtain ⟨y, hy⟩ := hx
  have hnext (r : { r : α × Nat // P r.1 r.2 }) : Yields (f r.1.1) r.1.2 Q := hf _ _ r.2
  choose next hnext using hnext
  refine ⟨y >>= next, ?_⟩
  rw [map_bind, StateT.run_bind, ← hy, bind_map_left]
  simp only [hnext]

/-- What is computed without counting leaves the number as it is. -/
theorem yields_lift_bind (x : m α) {f : α → StateT Nat m β} {i : Nat} {Q : β → Nat → Prop}
    (h : ∀ a, Yields (f a) i Q) : Yields ((liftM x : StateT Nat m α) >>= f) i Q := by
  have hlift : Yields (liftM x : StateT Nat m α) i fun _ j => j = i := by
    refine ⟨(fun a => ⟨(a, i), rfl⟩) <$> x, ?_⟩
    rw [← comp_map]
    exact (bind_pure_comp _ x).symm
  apply hlift.bind
  rintro a j rfl
  exact h a

/-- The next number is taken. -/
theorem yields_next_bind {f : Nat → StateT Nat m β} {i : Nat} {Q : β → Nat → Prop}
    (h : Yields (f i) (i + 1) Q) :
    Yields ((getModify (· + 1) : StateT Nat m Nat) >>= f) i Q := by
  have hnext : Yields (getModify (· + 1) : StateT Nat m Nat) i
      fun number j => number = i ∧ j = i + 1 :=
    ⟨pure ⟨(i, i + 1), rfl, rfl⟩, map_pure _ _⟩
  apply hnext.bind
  rintro number j ⟨rfl, rfl⟩
  exact h

/-- Steps that are repeated number their results in order. -/
theorem Yields.mapM_replicate {x : StateT Nat m α} {P : Nat → α → Nat → Prop}
    {Q : Nat → List α → Nat → Prop} (hx : ∀ i, Yields x i (P i)) (hnil : ∀ i, Q i [] i)
    (hcons : ∀ i a j as k, P i a j → Q j as k → Q i (a :: as) k) (count i : Nat) :
    Yields ((List.replicate count ()).mapM fun _ => x) i
      fun as j => as.length = count ∧ Q i as j := by
  induction count generalizing i with
  | zero =>
    rw [List.replicate_zero, List.mapM_nil]
    exact yields_pure ⟨rfl, hnil i⟩
  | succ count ih =>
    rw [List.replicate_succ, List.mapM_cons]
    apply (hx i).bind
    intro a j ha
    apply (ih j).bind
    rintro as k ⟨hlength, has⟩
    exact yields_pure ⟨by rw [List.length_cons, hlength], hcons i a j as k ha has⟩

end Lawful

theorem Yields.run {x : StateT Nat Id α} {i : Nat} {P : α → Nat → Prop} (h : Yields x i P) :
    P (x.run i).1 (x.run i).2 := by
  obtain ⟨y, hy⟩ := h
  rw [← hy]
  exact y.2

theorem Yields.run_run {σ : Type} {x : StateT Nat (StateM σ) α} {i : Nat} {P : α → Nat → Prop}
    (h : Yields x i P) (s : σ) : P ((x.run i).run s).1.1 ((x.run i).run s).1.2 := by
  obtain ⟨y, hy⟩ := h
  rw [← hy]
  exact (y s).1.2

theorem numberedFrom_nil (P : Nat → α → Prop) (i : Nat) : NumberedFrom P i [] :=
  fun _ _ h => by cases h

theorem NumberedFrom.append {P : Nat → α → Prop} {i : Nat} {xs ys : List α}
    (hxs : NumberedFrom P i xs) (hys : NumberedFrom P (i + xs.length) ys) :
    NumberedFrom P i (xs ++ ys) := by
  intro k x h
  by_cases hk : k < xs.length
  · rw [List.getElem?_append_left hk] at h
    exact hxs k x h
  · rw [List.getElem?_append_right (Nat.le_of_not_lt hk)] at h
    have hnumber : i + k = i + xs.length + (k - xs.length) := by omega
    rw [hnumber]
    exact hys _ x h

theorem NumberedFrom.cons {P : Nat → α → Prop} {i : Nat} {x : α} {xs : List α} (hx : P i x)
    (hxs : NumberedFrom P (i + 1) xs) : NumberedFrom P i (x :: xs) := by
  intro k y h
  cases k with
  | zero =>
    obtain rfl := Option.some.inj h
    exact hx
  | succ k =>
    have hnumber : i + (k + 1) = i + 1 + k := by omega
    rw [hnumber]
    exact hxs k y h

end SyntaxReport.Counting
