/- Languages whose words are made of certain letters and keep between two lengths. -/

import Mathlib.Computability.Language
import Mathlib.Algebra.BigOperators.Group.Finset.Basic

set_option autoImplicit false
set_option relaxedAutoImplicit false

namespace AsyncEngine.Lib.Extent

variable {α : Type} {p : α → Prop} {L M : Language α} {l l' m n : Nat}

/-- Every word has from `m` to `n` letters, all with the property `p`. -/
def Within (p : α → Prop) (m n : Nat) (L : Language α) : Prop :=
  ∀ w ∈ L, (∀ a ∈ w, p a) ∧ m ≤ w.length ∧ w.length ≤ n

theorem mem_sum {ι : Type} (s : Finset ι) (f : ι → Language α) (w : List α) :
    w ∈ ∑ i ∈ s, f i ↔ ∃ i ∈ s, w ∈ f i := by
  classical
  induction s using Finset.induction_on with
  | empty => simp [Language.notMem_zero]
  | insert i s fresh ih =>
    rw [Finset.sum_insert fresh, Language.mem_add, ih]
    simp

theorem Within.weaken {q : α → Prop} (h : Within p m n L) (letters : ∀ a, p a → q a)
    (low : l ≤ m) (high : n ≤ l') : Within q l l' L := by
  intro w hw
  obtain ⟨each, least, most⟩ := h w hw
  exact ⟨fun a ha => letters a (each a ha), low.trans least, most.trans high⟩

theorem within_one : Within p 0 0 1 := by
  intro w hw
  rw [Language.mem_one] at hw
  subst hw
  simp

theorem Within.add (hL : Within p m n L) (hM : Within p m n M) : Within p m n (L + M) := by
  intro w hw
  rcases (Language.mem_add L M w).mp hw with hw | hw
  · exact hL w hw
  · exact hM w hw

theorem Within.mul (hL : Within p m n L) (hM : Within p l l' M) :
    Within p (m + l) (n + l') (L * M) := by
  intro w hw
  obtain ⟨u, hu, v, hv, rfl⟩ := Language.mem_mul.mp hw
  obtain ⟨front, least, most⟩ := hL u hu
  obtain ⟨back, least', most'⟩ := hM v hv
  refine ⟨fun a ha => ?_, ?_, ?_⟩
  · exact (List.mem_append.mp ha).elim (front a) (back a)
  · rw [List.length_append]
    omega
  · rw [List.length_append]
    omega

theorem Within.pow (hL : Within p m n L) (k : Nat) : Within p (k * m) (k * n) (L ^ k) := by
  induction k with
  | zero => simpa using within_one
  | succ k ih =>
    rw [pow_succ, Nat.succ_mul, Nat.succ_mul]
    exact ih.mul hL

theorem Within.sum {ι : Type} {s : Finset ι} {f : ι → Language α}
    (h : ∀ i ∈ s, Within p m n (f i)) : Within p m n (∑ i ∈ s, f i) := by
  intro w hw
  obtain ⟨i, hi, hw⟩ := (mem_sum s f w).mp hw
  exact h i hi w hw

end AsyncEngine.Lib.Extent
