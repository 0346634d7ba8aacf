/- Lists stored as Braun trees, so that a table entry is reached in logarithmically many steps. -/

import Mathlib.Data.List.Basic

set_option autoImplicit false
set_option relaxedAutoImplicit false

namespace AsyncEngine.Lib.Braun

variable {β : Type}

/-- The root holds index 0, the left subtree the odd indices and the right one the even. -/
inductive Tree (β : Type)
  | leaf
  | node (v : β) (left right : Tree β)

def get : Tree β → Nat → Option β
  | .leaf, _ => none
  | .node v l r, n =>
    bif Nat.beq n 0 then some v
    else bif Nat.beq (n % 2) 1 then get l (n / 2) else get r (n / 2 - 1)

/-- Change the entry at one index, if there is one. -/
def modify (f : β → β) : Tree β → Nat → Tree β
  | .leaf, _ => .leaf
  | .node v l r, n =>
    bif Nat.beq n 0 then .node (f v) l r
    else bif Nat.beq (n % 2) 1 then .node v (modify f l (n / 2)) r
    else .node v l (modify f r (n / 2 - 1))

/-- The entries at even and at odd positions. -/
def alternate : List β → List β × List β
  | [] => ([], [])
  | [a] => ([a], [])
  | a :: b :: t => (a :: (alternate t).1, b :: (alternate t).2)

/-- At most `fuel` levels of the tree of a list. -/
def build : Nat → List β → Tree β
  | 0, _ => .leaf
  | _ + 1, [] => .leaf
  | fuel + 1, b :: bs => .node b (build fuel (alternate bs).1) (build fuel (alternate bs).2)

def ofList (l : List β) : Tree β := build l.length l

def values : Tree β → List β
  | .leaf => []
  | .node v l r => v :: (values l ++ values r)

theorem mem_values_of_get {t : Tree β} {n : Nat} {v : β} (h : get t n = some v) :
    v ∈ values t := by
  induction t generalizing n with
  | leaf => simp [get] at h
  | node w l r ihl ihr =>
    simp only [get, cond_eq_ite, Nat.beq_eq] at h
    simp only [values, List.mem_cons, List.mem_append]
    split_ifs at h
    · exact .inl (Option.some.inj h).symm
    · exact .inr (.inl (ihl h))
    · exact .inr (.inr (ihr h))

private theorem alternate_getElem? (l : List β) (i : Nat) :
    (alternate l).1[i]? = l[2 * i]? ∧ (alternate l).2[i]? = l[2 * i + 1]? := by
  induction l using alternate.induct generalizing i with
  | case1 => simp [alternate]
  | case2 a => cases i <;> simp [alternate, Nat.mul_add]
  | case3 a b t ih =>
    cases i with
    | zero => simp [alternate]
    | succ i =>
      have h := ih i
      simpa [alternate, Nat.mul_add, Nat.add_right_comm] using h

private theorem alternate_length (l : List β) :
    (alternate l).1.length ≤ l.length ∧ (alternate l).2.length ≤ l.length := by
  induction l using alternate.induct with
  | case1 => simp [alternate]
  | case2 a => simp [alternate]
  | case3 a b t ih =>
    simp only [alternate, List.length_cons]
    omega

private theorem get_build (fuel : Nat) (l : List β) (hl : l.length ≤ fuel) (n : Nat) :
    get (build fuel l) n = l[n]? := by
  induction fuel generalizing l n with
  | zero =>
    rw [List.length_eq_zero_iff.mp (Nat.le_zero.mp hl)]
    simp [build, get]
  | succ fuel ih =>
    cases l with
    | nil => simp [build, get]
    | cons b bs =>
      have len := alternate_length bs
      have short : bs.length ≤ fuel := by simpa using hl
      simp only [build, get, cond_eq_ite, Nat.beq_eq]
      split_ifs with zero odd
      · simp [zero]
      · rw [ih _ (Nat.le_trans len.1 short), (alternate_getElem? bs _).1]
        obtain ⟨i, rfl⟩ : ∃ i, n = 2 * i + 1 := ⟨n / 2, by omega⟩
        rw [show (2 * i + 1) / 2 = i by omega, List.getElem?_cons_succ]
      · rw [ih _ (Nat.le_trans len.2 short), (alternate_getElem? bs _).2]
        obtain ⟨i, rfl⟩ : ∃ i, n = 2 * i + 2 := ⟨n / 2 - 1, by omega⟩
        rw [show (2 * i + 2) / 2 - 1 = i by omega, List.getElem?_cons_succ]

theorem get_ofList (l : List β) (n : Nat) : get (ofList l) n = l[n]? :=
  get_build l.length l (Nat.le_refl _) n

end AsyncEngine.Lib.Braun
