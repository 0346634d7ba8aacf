/- Tables of objects that are opened and closed, and a register that names the open ones. -/

import Mathlib.Data.List.Basic

set_option autoImplicit false
set_option relaxedAutoImplicit false

namespace AsyncEngine.Lib.Registry

variable {α : Type} {opened : α → Bool} {good : Nat → α → Prop} {slots : List α}
  {stored stored' : Nat → Prop} {n : Nat} {a b : α}

/-- The slot holds an open object. -/
def OpenAt (opened : α → Bool) (slots : List α) (n : Nat) : Prop :=
  ∃ a, slots[n]? = some a ∧ opened a = true

/-- The register names the open objects and no others, and each of them is as it should be. -/
structure Registered (opened : α → Bool) (good : Nat → α → Prop) (slots : List α)
    (stored : Nat → Prop) : Prop where
  good : ∀ n a, slots[n]? = some a → opened a = true → good n a
  stored_iff : ∀ n, stored n ↔ OpenAt opened slots n

theorem Registered.congr (h : Registered opened good slots stored)
    (same : ∀ n, stored' n ↔ stored n) : Registered opened good slots stored' :=
  ⟨h.good, fun n => (same n).trans (h.stored_iff n)⟩

theorem Registered.empty (none : ∀ n, ¬ stored n) : Registered opened good [] stored := by
  constructor
  · intro n a at_n
    cases at_n
  · intro n
    constructor
    · intro here
      exact absurd here (none n)
    · intro here
      obtain ⟨a, at_n, -⟩ := here
      cases at_n

theorem Registered.fresh (h : Registered opened good slots stored) : ¬ stored slots.length := by
  intro here
  obtain ⟨a, at_n, -⟩ := (h.stored_iff _).mp here
  rw [List.getElem?_eq_none (Nat.le_refl _)] at at_n
  cases at_n

theorem getElem?_set_cases {m : Nat} {x : α} (at_m : (slots.set n b)[m]? = some x) :
    (m = n ∧ x = b) ∨ (m ≠ n ∧ slots[m]? = some x) := by
  by_cases here : n = m
  · subst here
    by_cases bound : n < slots.length
    · rw [List.getElem?_set_self bound] at at_m
      exact .inl ⟨rfl, (Option.some.inj at_m).symm⟩
    · rw [List.getElem?_eq_none (by rw [List.length_set]; omega)] at at_m
      cases at_m
  · rw [List.getElem?_set_ne here] at at_m
    exact .inr ⟨Ne.symm here, at_m⟩

private theorem openAt_set_ne {m : Nat} (other : m ≠ n) :
    OpenAt opened (slots.set n b) m ↔ OpenAt opened slots m := by
  unfold OpenAt
  rw [List.getElem?_set_ne (Ne.symm other)]

theorem Registered.set (h : Registered opened good slots stored) (at_n : slots[n]? = some a)
    (same : opened b = opened a) (fine : opened b = true → good n b) :
    Registered opened good (slots.set n b) stored := by
  have bound : n < slots.length := (List.getElem?_eq_some_iff.mp at_n).1
  refine ⟨?_, ?_⟩
  · intro m x at_m on
    rcases getElem?_set_cases at_m with ⟨rfl, rfl⟩ | ⟨other, at_m⟩
    · exact fine on
    · exact h.good m x at_m on
  · intro m
    rw [h.stored_iff m]
    by_cases here : m = n
    · subst here
      constructor
      · intro before
        obtain ⟨x, at_m, on⟩ := before
        obtain rfl : a = x := Option.some.inj (at_n.symm.trans at_m)
        exact ⟨b, List.getElem?_set_self bound, same.trans on⟩
      · intro after
        obtain ⟨x, at_m, on⟩ := after
        rw [List.getElem?_set_self bound] at at_m
        obtain rfl := Option.some.inj at_m
        exact ⟨a, at_n, same.symm.trans on⟩
    · exact (openAt_set_ne here).symm

theorem Registered.close (h : Registered opened good slots stored)
    (at_n : slots[n]? = some a) (closed : opened b = false)
    (rest : ∀ m, stored' m ↔ stored m ∧ m ≠ n) :
    Registered opened good (slots.set n b) stored' := by
  have bound : n < slots.length := (List.getElem?_eq_some_iff.mp at_n).1
  refine ⟨?_, ?_⟩
  · intro m x at_m on
    rcases getElem?_set_cases at_m with ⟨rfl, rfl⟩ | ⟨other, at_m⟩
    · rw [closed] at on
      cases on
    · exact h.good m x at_m on
  · intro m
    rw [rest, h.stored_iff m]
    by_cases here : m = n
    · subst here
      constructor
      · intro before
        exact absurd rfl before.2
      · intro after
        obtain ⟨x, at_m, on⟩ := after
        rw [List.getElem?_set_self bound] at at_m
        obtain rfl := Option.some.inj at_m
        rw [closed] at on
        cases on
    · rw [openAt_set_ne here]
      exact and_iff_left here

theorem getElem?_snoc_cases {m : Nat} {x : α} (at_m : (slots ++ [b])[m]? = some x) :
    (m = slots.length ∧ x = b) ∨ slots[m]? = some x := by
  rcases Nat.lt_trichotomy m slots.length with before | here | after
  · rw [List.getElem?_append_left before] at at_m
    exact .inr at_m
  · subst here
    simp only [List.getElem?_concat_length, Option.some.injEq] at at_m
    exact .inl ⟨rfl, at_m.symm⟩
  · rw [List.getElem?_eq_none (by simp; omega)] at at_m
    cases at_m

theorem Registered.append (h : Registered opened good slots stored)
    (fine : opened b = true → good slots.length b)
    (rest : ∀ m, stored' m ↔ stored m ∨ (m = slots.length ∧ opened b = true)) :
    Registered opened good (slots ++ [b]) stored' := by
  refine ⟨?_, ?_⟩
  · intro m x at_m on
    rcases getElem?_snoc_cases at_m with ⟨rfl, rfl⟩ | at_m
    · exact fine on
    · exact h.good m x at_m on
  · intro m
    rw [rest, h.stored_iff m]
    constructor
    · intro before
      rcases before with ⟨x, at_m, on⟩ | ⟨rfl, on⟩
      · refine ⟨x, ?_, on⟩
        rw [List.getElem?_append_left (List.getElem?_eq_some_iff.mp at_m).1]
        exact at_m
      · exact ⟨b, List.getElem?_concat_length, on⟩
    · intro after
      obtain ⟨x, at_m, on⟩ := after
      rcases getElem?_snoc_cases at_m with ⟨rfl, rfl⟩ | at_m
      · exact .inr ⟨rfl, on⟩
      · exact .inl ⟨x, at_m, on⟩

end AsyncEngine.Lib.Registry
