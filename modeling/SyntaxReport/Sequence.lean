/-! Two operations on lists: dropping items from the end, and looking up an index that may count
from the end. -/
namespace SyntaxReport.Sequence

/-- The list without its longest tail whose items all satisfy `p`. -/
def dropTrailing {α : Type} (p : α → Bool) (xs : List α) : List α :=
  (xs.reverse.dropWhile p).reverse

/-- The item at an index; a negative index counts from the end. -/
def item? {α : Type} (xs : List α) (index : Int) : Option α :=
  let i := if index < 0 then index + xs.length else index
  if i < 0 then none else xs[i.toNat]?

@[simp]
theorem dropTrailing_nil {α : Type} (p : α → Bool) : dropTrailing p ([] : List α) = [] := rfl

/-- Nothing but a tail of items that satisfy `p` is dropped. -/
theorem dropTrailing_append_tail {α : Type} (p : α → Bool) (xs : List α) :
    ∃ tail, dropTrailing p xs ++ tail = xs ∧ ∀ x ∈ tail, p x = true := by
  refine ⟨(xs.reverse.takeWhile p).reverse, ?_, ?_⟩
  · rw [dropTrailing, ← List.reverse_append, List.takeWhile_append_dropWhile, List.reverse_reverse]
  · intro x hx
    exact List.all_eq_true.mp List.all_takeWhile x (List.mem_reverse.mp hx)

theorem dropTrailing_append_of_forall {α : Type} {p : α → Bool} {xs ys : List α}
    (h : ∀ y ∈ ys, p y = true) : dropTrailing p (xs ++ ys) = dropTrailing p xs := by
  have hr : ∀ y ∈ ys.reverse, p y = true := fun y hy => h y (List.mem_reverse.mp hy)
  rw [dropTrailing, List.reverse_append, List.dropWhile_append_of_pos hr, dropTrailing]

theorem dropTrailing_concat_of_not {α : Type} {p : α → Bool} {x : α} (xs : List α)
    (h : p x = false) : dropTrailing p (xs ++ [x]) = xs ++ [x] := by
  rw [dropTrailing, List.reverse_append, List.reverse_singleton, List.singleton_append,
    List.dropWhile_cons_of_neg (by simp [h]), List.reverse_cons, List.reverse_reverse]

theorem dropTrailing_map {α β : Type} {p : β → Bool} {f : α → β} (xs : List α) :
    dropTrailing p (xs.map f) = (dropTrailing (p ∘ f) xs).map f := by
  rw [dropTrailing, ← List.map_reverse, List.dropWhile_map, ← List.map_reverse, dropTrailing]

theorem item?_ofNat {α : Type} (xs : List α) (i : Nat) : item? xs i = xs[i]? := by
  have h : ¬ (i : Int) < 0 := by omega
  simp [item?, h]

end SyntaxReport.Sequence
