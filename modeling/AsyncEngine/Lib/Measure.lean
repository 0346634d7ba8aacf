/- Parts of a run: how many steps of its own a machine can take in a region while others act on it
   too, and how it comes to a goal when it is left alone. -/

import Mathlib.Algebra.GroupWithZero.Nat
import AsyncEngine.Lib.Run

set_option autoImplicit false
set_option relaxedAutoImplicit false

namespace AsyncEngine.Lib.Measure

open AsyncEngine.Lib.Run

variable {S A : Type}

/-- Actions taken one after the other from a state, each in the region. -/
inductive Segment (m : System S A) (region : S → Prop) (s : S) : List A → S → Prop
  | empty : Segment m region s [] s
  | next {as : List A} {t u : S} {a : A} (before : Segment m region s as t) (here : region t)
      (move : m.step t a = some u) : Segment m region s (as ++ [a]) u

variable {m : System S A} {region I : S → Prop} {s t u : S} {as bs : List A}

theorem Segment.invariant (segment : Segment m region s as t) (start : I s)
    (keep : ∀ {s t : S} {a : A}, I s → m.step s a = some t → I t) : I t := by
  induction segment with
  | empty => exact start
  | next before here move ih => exact keep ih move

theorem Segment.path {l : List (S × A)} (path : Path m l s) (segment : Segment m region s as t) :
    ∃ more, Path m (l ++ more) t ∧ more.map Prod.snd = as := by
  induction segment with
  | empty => exact ⟨[], by rwa [List.append_nil], rfl⟩
  | @next as t u a before here move ih =>
    obtain ⟨more, path, same⟩ := ih
    refine ⟨more ++ [(t, a)], ?_, ?_⟩
    · rw [← List.append_assoc]
      exact path.next move
    · rw [List.map_append, same]
      rfl

theorem Segment.mono {wider : S → Prop} (segment : Segment m region s as t)
    (within : ∀ {s : S}, region s → wider s) : Segment m wider s as t := by
  induction segment with
  | empty => exact .empty
  | next before here move ih => exact ih.next (within here) move

theorem Segment.cons {a : A} (here : region s) (move : m.step s a = some t)
    (segment : Segment m region t as u) : Segment m region s (a :: as) u := by
  induction segment with
  | empty => exact Segment.next .empty here move
  | next before inside last ih => exact ih.next inside last

theorem Segment.append (first : Segment m region s as t) (last : Segment m region t bs u) :
    Segment m region s (as ++ bs) u := by
  induction last with
  | empty => rwa [List.append_nil]
  | next before here move ih =>
    rw [← List.append_assoc]
    exact ih.next here move

section Measure

variable {μ : S → Nat} {own : A → Bool} {k : Nat}

/-- The number of the machine's own steps in a list of actions. -/
def steps (own : A → Bool) (as : List A) : Nat := as.countP own

/-- The number of the steps that others take. -/
def others (own : A → Bool) (as : List A) : Nat := as.countP fun a => !own a

private theorem steps_snoc (as : List A) (a : A) :
    steps own (as ++ [a]) = steps own as + if own a then 1 else 0 := by
  simp [steps, List.countP_append, List.countP_singleton]

private theorem others_snoc (as : List A) (a : A) :
    others own (as ++ [a]) = others own as + if own a then 0 else 1 := by
  cases mine : own a <;> simp [others, List.countP_append, mine]

/-- If the machine's own steps inside the region lower a measure, and the steps of others raise it
by a bounded amount, then the others' steps bound the number of own steps. -/
theorem Segment.bounded_inside (segment : Segment m region s as t) (start : I s)
    (keep : ∀ {s t : S} {a : A}, I s → m.step s a = some t → I t)
    (lowers : ∀ {s t : S} {a : A}, I s → region s → region t → m.step s a = some t →
      own a = true → μ t < μ s)
    (raises : ∀ {s t : S} {a : A}, I s → region s → region t → m.step s a = some t →
      own a = false → μ t ≤ μ s + k) (inside : region t) :
    steps own as + μ t ≤ μ s + k * others own as := by
  induction segment with
  | empty => simp [steps, others]
  | @next as t u a before here move ih =>
    have bound := ih here
    have inv := before.invariant start keep
    rw [steps_snoc, others_snoc]
    cases mine : own a with
    | true =>
      have lower := lowers inv here inside move mine
      simp only [if_true, Nat.add_zero]
      omega
    | false =>
      have higher := raises inv here inside move mine
      simp only [Bool.false_eq_true, if_false, Nat.mul_add]
      omega

theorem Segment.bounded (segment : Segment m region s as t) (start : I s)
    (keep : ∀ {s t : S} {a : A}, I s → m.step s a = some t → I t)
    (lowers : ∀ {s t : S} {a : A}, I s → region s → region t → m.step s a = some t →
      own a = true → μ t < μ s)
    (raises : ∀ {s t : S} {a : A}, I s → region s → region t → m.step s a = some t →
      own a = false → μ t ≤ μ s + k) :
    steps own as ≤ μ s + k * others own as + 1 := by
  cases segment with
  | empty => simp [steps]
  | @next as t _ a before here move =>
    have bound := before.bounded_inside start keep lowers raises here
    rw [steps_snoc, others_snoc]
    cases own a with
    | true =>
      simp only [if_true, Nat.add_zero]
      omega
    | false =>
      simp only [Bool.false_eq_true, if_false, Nat.mul_add]
      omega

/-- A machine that has in every state of the region a step of its own to the goal, or to a state of
the region that is lower, comes to the goal by such steps. -/
theorem exists_segment {goal : S → Prop} (start : I s) (here : region s)
    (keep : ∀ {s t : S} {a : A}, I s → m.step s a = some t → I t)
    (goes : ∀ {s : S}, I s → region s → ∃ a t, own a = true ∧ m.step s a = some t ∧
      (goal t ∨ (region t ∧ μ t < μ s))) :
    ∃ as t, Segment m region s as t ∧ (∀ a ∈ as, own a = true) ∧ goal t := by
  induction bound : μ s using Nat.strongRecOn generalizing s with
  | _ n ih =>
    obtain ⟨a, t, mine, move, reached | ⟨still, lower⟩⟩ := goes start here
    · exact ⟨[a], t, Segment.next .empty here move, by simpa using mine, reached⟩
    · have less : μ t < n := bound ▸ lower
      obtain ⟨as, u, segment, all, reached⟩ := ih (μ t) less (keep start move) still rfl
      refine ⟨a :: as, u, segment.cons here move, ?_, reached⟩
      intro b mem
      rcases List.mem_cons.mp mem with rfl | mem
      · exact mine
      · exact all b mem

end Measure

section Sums

variable {α : Type} {l : List α} {x y : α} {n : Nat}

theorem sum_map_set (f : α → Nat) (found : l[n]? = some x) :
    ((l.set n y).map f).sum + f x = (l.map f).sum + f y := by
  induction l generalizing n with
  | nil => cases found
  | cons z l ih =>
    cases n with
    | zero =>
      obtain rfl := Option.some.inj found
      simp only [List.set_cons_zero, List.map_cons, List.sum_cons]
      omega
    | succ n =>
      have rest : ((l.set n y).map f).sum + f x = (l.map f).sum + f y := ih found
      simp only [List.set_cons_succ, List.map_cons, List.sum_cons]
      omega

end Sums

end AsyncEngine.Lib.Measure
