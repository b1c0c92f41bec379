import Mathlib.Data.List.Induction
import SyntaxReport.Proofs.Line.Columns
import SyntaxReport.Proofs.Line.Pieces

/-! Expanded lines as lines of their own. An expansion has no tabs, so it is its own expansion and
every column of it stays where it is. Expanding a line neither makes it empty nor ends it in a
carriage return, and it does not matter whether a line is trimmed before or after. -/
namespace SyntaxReport.Line

theorem tab_not_mem_expandFrom (size p : Int) (line : Text) : '\t' ∉ expandFrom size p line := by
  induction line generalizing p with
  | nil => exact List.not_mem_nil
  | cons c rest ih =>
    rw [expandFrom]
    by_cases hc : c = '\t'
    · rw [if_pos hc, List.mem_append, not_or]
      refine ⟨fun hm => ?_, ih _⟩
      exact absurd (List.eq_of_mem_replicate hm) (by decide)
    · rw [if_neg hc, List.mem_cons, not_or]
      exact ⟨Ne.symm hc, ih _⟩

theorem isEmpty_expandFrom {size : Int} (h : 0 < size) (p : Int) (line : Text) :
    (expandFrom size p line).isEmpty = line.isEmpty := by
  cases line with
  | nil => rfl
  | cons c rest =>
    have hlen := length_le_length_expandFrom h p (c :: rest)
    rw [List.length_cons] at hlen
    rw [List.isEmpty_cons, List.isEmpty_eq_false_iff, ← List.length_pos_iff]
    omega

theorem expandFrom_concat (size p : Int) (line : Text) (c : Char) :
    expandFrom size p (line ++ [c]) = expandFrom size p line ++
      if c = '\t' then Text.spaces (tabWidth size (advance size p line)) else [c] := by
  rw [expandFrom_append]
  by_cases hc : c = '\t' <;> simp [expandFrom, hc]

/-- The last character stays the last one unless it is a tab. -/
theorem Unbroken.expandFrom {size : Int} (h : 0 < size) (p : Int) {line : Text}
    (hl : Unbroken line) : Unbroken (expandFrom size p line) := by
  refine ⟨not_mem_expandFrom (by decide) hl.1, ?_⟩
  rcases List.eq_nil_or_concat line with rfl | ⟨rest, c, rfl⟩
  · exact hl.2
  · have hlast := hl.2
    rw [List.concat_eq_append] at hlast ⊢
    rw [List.getLast?_concat] at hlast
    rw [expandFrom_concat]
    by_cases hc : c = '\t'
    · -- a tab is at least one space wide
      have hw := tabWidth_pos h (advance size p rest)
      obtain ⟨k, hk⟩ := Nat.exists_eq_succ_of_ne_zero
        (show (tabWidth size (advance size p rest)).toNat ≠ 0 by omega)
      rw [if_pos hc, Text.spaces, hk, List.replicate_succ', ← List.append_assoc,
        List.getLast?_concat]
      decide
    · rw [if_neg hc, List.getLast?_concat]
      exact hlast

/-- Trimming and expanding commute. -/
theorem trimRight_expandFrom (size p : Int) (line : Text) :
    trimRight (expandFrom size p line) = expandFrom size p (trimRight line) := by
  induction line using List.reverseRecOn with
  | nil => rfl
  | append_singleton line c ih =>
    rw [expandFrom_concat]
    by_cases hc : c ≤ ' '
    · -- `c` is trimmed, and so is everything it is expanded to
      have hrest : ∀ d ∈ (if c = '\t' then Text.spaces (tabWidth size (advance size p line))
          else [c]), decide (d ≤ ' ') = true := by
        intro d hd
        split_ifs at hd
        · rw [List.eq_of_mem_replicate hd]
          decide
        · rw [List.mem_singleton.mp hd]
          exact decide_eq_true hc
      have hline : trimRight (line ++ [c]) = trimRight line :=
        Sequence.dropTrailing_append_of_forall (by simpa using hc)
      rw [hline, ← ih]
      exact Sequence.dropTrailing_append_of_forall hrest
    · -- `c` ends the line and its expansion
      have htab : c ≠ '\t' := by
        rintro rfl
        exact hc (by decide)
      have hkeep (xs : Text) : trimRight (xs ++ [c]) = xs ++ [c] :=
        Sequence.dropTrailing_concat_of_not xs (decide_eq_false hc)
      rw [if_neg htab, hkeep, hkeep, expandFrom_concat, if_neg htab]

theorem advance_of_not_mem {size : Int} (p : Int) {line : Text} (h : '\t' ∉ line) :
    advance size p line = p + line.length := by
  induction line generalizing p with
  | nil => simp [advance]
  | cons c rest ih =>
    rw [List.mem_cons, not_or] at h
    rw [advance, if_neg (Ne.symm h.1), ih (p + 1) h.2, List.length_cons]
    omega

/-- In a line without tabs every column stays where it is. -/
theorem renderedColumn_of_not_mem (size : Int) {raw : Text} (h : '\t' ∉ raw) {column : Int}
    (hc : 0 ≤ column) : renderedColumn size raw column = .ok column := by
  have hbefore : '\t' ∉ raw.take column.toNat := fun hm => h (List.mem_of_mem_take hm)
  unfold renderedColumn
  dsimp only
  rw [if_neg (fun hz => hbefore hz.2), advance_of_not_mem 0 hbefore, List.length_take]
  congr 1
  omega

variable [Memory]

theorem tabError?_of_append {size p : Int} {xs ys : Text}
    (h : tabError? size p (xs ++ ys) = none) : tabError? size p xs = none := by
  induction xs generalizing p with
  | nil => rfl
  | cons c rest ih =>
    rw [List.cons_append, tabError?] at h
    rw [tabError?]
    by_cases hc : c = '\t'
    · rw [if_pos hc] at h ⊢
      cases he : Text.countError? (tabWidth size p) with
      | some e =>
        rw [he] at h
        cases h
      | none =>
        rw [he] at h
        exact ih h
    · rw [if_neg hc] at h ⊢
      exact ih h

theorem tabError?_trimRight {size : Int} {line : Text} (h : tabError? size 0 line = none) :
    tabError? size 0 (trimRight line) = none := by
  obtain ⟨tail, htail, -⟩ := Sequence.dropTrailing_append_tail (fun c => decide (c ≤ ' ')) line
  rw [← htail] at h
  exact tabError?_of_append h

theorem of_expandTabs_eq_ok {size : Int} {line expanded : Text}
    (h : expandTabs size line = .ok expanded) :
    tabError? size 0 line = none ∧ expanded = expandFrom size 0 line := by
  unfold expandTabs at h
  split at h
  · cases h
  · cases he : tabError? size 0 line with
    | some e =>
      rw [he] at h
      cases h
    | none =>
      rw [he] at h
      cases h
      exact ⟨rfl, rfl⟩

end SyntaxReport.Line
