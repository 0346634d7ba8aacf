/- Texts written as fields around a separator, with at most one place where two separators stand
   in a row: such a text determines its fields. -/

import Mathlib.Data.List.Basic

set_option autoImplicit false
set_option relaxedAutoImplicit false

namespace AsyncEngine.Lib.Fields

variable {α : Type}

/-- The fields one after another with the separator between them. -/
noncomputable def join (sep : α) (fs : List (List α)) : List α := [sep].intercalate fs

/-- No field is empty or holds the separator. -/
def Proper (sep : α) (fs : List (List α)) : Prop := ∀ f ∈ fs, f ≠ [] ∧ sep ∉ f

@[simp] theorem join_nil (sep : α) : join sep [] = [] := rfl

@[simp] theorem join_singleton (sep : α) (f : List α) : join sep [f] = f := by
  simp [join]

@[simp] theorem join_cons_cons (sep : α) (f g : List α) (fs : List (List α)) :
    join sep (f :: g :: fs) = f ++ sep :: join sep (g :: fs) := by
  simp [join]

theorem join_snoc (sep : α) (fs : List (List α)) (f : List α) :
    join sep (fs ++ [f]) = fs.flatMap (· ++ [sep]) ++ f := by
  induction fs with
  | nil => simp
  | cons g fs ih =>
    cases fs with
    | nil => simp
    | cons h fs =>
      rw [List.cons_append, List.cons_append, join_cons_cons, ← List.cons_append, ih]
      simp

theorem Proper.cons {sep : α} {f : List α} {fs : List (List α)} (h : Proper sep (f :: fs)) :
    f ≠ [] ∧ sep ∉ f ∧ Proper sep fs :=
  ⟨(h f (by simp)).1, (h f (by simp)).2, fun g hg => h g (by simp [hg])⟩

private theorem join_starts {sep : α} {f : List α} {fs : List (List α)}
    (h : Proper sep (f :: fs)) : ∃ a s, a ≠ sep ∧ join sep (f :: fs) = a :: s := by
  obtain ⟨nonempty, free, -⟩ := h.cons
  obtain ⟨a, f, rfl⟩ := List.exists_cons_of_ne_nil nonempty
  have different : a ≠ sep := by
    rintro rfl
    exact free (by simp)
  cases fs with
  | nil => exact ⟨a, f, different, by simp⟩
  | cons g fs => exact ⟨a, f ++ sep :: join sep (g :: fs), different, by simp⟩

section Reading

variable [DecidableEq α]

/-- The fields of a text; the empty text has none. -/
def fieldsOf (sep : α) : List α → List (List α)
  | [] => []
  | a :: s => (a :: s).splitOn sep

/-- What stands before and behind the first two separators in a row. -/
def cut (sep : α) : List α → Option (List α × List α)
  | [] => none
  | [_] => none
  | a :: b :: s =>
    if a = sep ∧ b = sep then some ([], s)
    else (cut sep (b :: s)).map fun p => (a :: p.1, p.2)

theorem fieldsOf_join {sep : α} {fs : List (List α)} (h : Proper sep fs) :
    fieldsOf sep (join sep fs) = fs := by
  cases fs with
  | nil => rfl
  | cons f fs =>
    obtain ⟨a, s, -, text⟩ := join_starts h
    have split : (join sep (f :: fs)).splitOn sep = f :: fs :=
      List.splitOn_intercalate sep (fun g hg => (h g hg).2) (by simp)
    rw [text] at split ⊢
    exact split

private theorem cut_cons {sep a : α} (h : a ≠ sep) (s : List α) :
    cut sep (a :: s) = (cut sep s).map fun p => (a :: p.1, p.2) := by
  cases s with
  | nil => rfl
  | cons b s => simp [cut, h]

private theorem cut_field {sep : α} {f : List α} (h : sep ∉ f) (s : List α) :
    cut sep (f ++ s) = (cut sep s).map fun p => (f ++ p.1, p.2) := by
  induction f with
  | nil => simp
  | cons a f ih =>
    rw [List.mem_cons, not_or] at h
    rw [List.cons_append, cut_cons (Ne.symm h.1), ih h.2, Option.map_map]
    rfl

private theorem cut_between {sep b : α} (h : b ≠ sep) (s : List α) :
    cut sep (sep :: b :: s) = (cut sep (b :: s)).map fun p => (sep :: p.1, p.2) := by
  simp [cut, h]

private theorem cut_fields {sep : α} {fs : List (List α)} (h : Proper sep fs) (s : List α) :
    cut sep (join sep fs ++ s) = (cut sep s).map fun p => (join sep fs ++ p.1, p.2) := by
  induction fs with
  | nil => simp
  | cons f fs ih =>
    obtain ⟨-, free, rest⟩ := h.cons
    cases fs with
    | nil => simpa using cut_field free s
    | cons g fs =>
      obtain ⟨a, t, different, text⟩ := join_starts rest
      have next := ih rest
      rw [text, List.cons_append] at next
      rw [join_cons_cons, List.append_assoc, List.cons_append, cut_field free, text,
        List.cons_append, cut_between different, next]
      simp only [Option.map_map, Function.comp_def, List.cons_append, List.append_assoc]

theorem cut_join {sep : α} {fs : List (List α)} (h : Proper sep fs) :
    cut sep (join sep fs) = none := by
  have whole := cut_fields h []
  rw [List.append_nil] at whole
  rw [whole]
  rfl

theorem cut_elided {sep : α} {fs : List (List α)} (h : Proper sep fs) (s : List α) :
    cut sep (join sep fs ++ sep :: sep :: s) = some (join sep fs, s) := by
  rw [cut_fields h]
  simp [cut]

end Reading

end AsyncEngine.Lib.Fields
