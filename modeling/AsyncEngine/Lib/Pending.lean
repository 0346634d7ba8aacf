/- Requests that are pending between their acceptance and their completion: the keys that are kept
   for them meanwhile, and what becomes of the accepted ones along a run. -/

import Mathlib.Data.List.Perm.Basic
import Mathlib.Data.List.Nodup
import AsyncEngine.Lib.Run

set_option autoImplicit false
set_option relaxedAutoImplicit false

namespace AsyncEngine.Lib.Pending

open AsyncEngine.Lib.Run

section Keys

variable {α : Type} {keys pending pending' : List α} {a : α}

/-- The keys are those of the pending requests, each belonging to one request. -/
def Matched (keys pending : List α) : Prop := keys.Perm pending ∧ pending.Nodup

theorem matched_nil : Matched ([] : List α) [] := ⟨.nil, List.nodup_nil⟩

theorem Matched.mem_iff (h : Matched keys pending) : a ∈ keys ↔ a ∈ pending := h.1.mem_iff

theorem Matched.add (h : Matched keys pending) (fresh : a ∉ pending)
    (more : pending'.Perm (a :: pending)) : Matched (keys ++ [a]) pending' := by
  refine ⟨?_, more.nodup_iff.mpr (List.nodup_cons.mpr ⟨fresh, h.2⟩)⟩
  calc
    (keys ++ [a]).Perm (a :: keys) := List.perm_append_singleton a keys
    _ |>.Perm (a :: pending) := h.1.cons a
    _ |>.Perm pending' := more.symm

variable [DecidableEq α]

theorem Matched.remove (h : Matched keys pending) (one : pending.Perm (a :: pending')) :
    Matched (keys.filter (· ≠ a)) pending' := by
  obtain ⟨gone, distinct⟩ := List.nodup_cons.mp (one.nodup_iff.mp h.2)
  refine ⟨?_, distinct⟩
  have others : pending'.filter (· ≠ a) = pending' := by
    refine List.filter_eq_self.mpr fun b mem => ?_
    have different : b ≠ a := fun same => gone (same ▸ mem)
    simpa using different
  have filtered := (h.1.trans one).filter (· ≠ a)
  rw [List.filter_cons_of_neg (by simp), others] at filtered
  exact filtered

theorem filter_append_fresh (fresh : a ∉ keys) : (keys ++ [a]).filter (· ≠ a) = keys := by
  rw [List.filter_append, List.filter_cons_of_neg (by simp), List.filter_nil, List.append_nil]
  refine List.filter_eq_self.mpr fun b mem => ?_
  have different : b ≠ a := fun same => fresh (same ▸ mem)
  simpa using different

end Keys

section Requests

variable {α S A : Type} {accepted accepted' completed pending pending' : List α}

/-- What a step does with the requests that were accepted so far, newest first, and with those that
are pending, oldest first: nothing, one is accepted, or some one is completed. -/
inductive Flow (accepted pending accepted' pending' : List α) : Option α → Prop
  | same (first : accepted' = accepted) (second : pending' = pending) :
      Flow accepted pending accepted' pending' none
  | accepts {a : α} (first : accepted' = a :: accepted) (second : pending' = pending ++ [a]) :
      Flow accepted pending accepted' pending' none
  | completes {a : α} (first : accepted' = accepted) (one : pending.Perm (a :: pending'))
      (fewer : pending'.Sublist pending) : Flow accepted pending accepted' pending' (some a)

/-- The accepted requests are the completed ones, each once, and the pending ones, which are still
in the order in which they were accepted. -/
structure Conserved (accepted completed pending : List α) : Prop where
  all : accepted.Perm (completed ++ pending)
  ordered : pending.Sublist accepted.reverse

theorem conserved_nil : Conserved ([] : List α) [] [] := ⟨.nil, .slnil⟩

theorem Conserved.step {done : Option α} (conserved : Conserved accepted completed pending)
    (flow : Flow accepted pending accepted' pending' done) :
    Conserved accepted' (completed ++ done.toList) pending' := by
  obtain ⟨all, ordered⟩ := conserved
  cases flow with
  | same first second =>
    rw [first, second, Option.toList_none, List.append_nil]
    exact ⟨all, ordered⟩
  | @accepts a first second =>
    rw [first, second, Option.toList_none, List.append_nil]
    refine ⟨?_, ?_⟩
    · rw [← List.append_assoc]
      exact (all.cons a).trans (List.perm_append_singleton _ _).symm
    · rw [List.reverse_cons]
      exact ordered.append (.refl _)
  | @completes a first one fewer =>
    rw [first, Option.toList_some]
    refine ⟨?_, fewer.trans ordered⟩
    rw [List.append_assoc]
    exact all.trans (one.append_left _)

theorem filterMap_concat {α β : Type} {f : α → Option β} {l : List α} {x : α} :
    (l ++ [x]).filterMap f = l.filterMap f ++ (f x).toList := by
  rw [List.filterMap_append]
  cases image : f x with
  | none => rw [List.filterMap_cons_none image]; rfl
  | some y => rw [List.filterMap_cons_some image]; rfl

theorem filterMap_eraseIdx {α β : Type} {f : α → Option β} {l : List α} {k : Nat} {x : α}
    {y : β} (at_k : l[k]? = some x) (image : f x = some y) :
    (l.filterMap f).Perm (y :: (l.eraseIdx k).filterMap f) := by
  obtain ⟨bound, rfl⟩ := List.getElem?_eq_some_iff.mp at_k
  have one := (List.getElem_cons_eraseIdx_perm bound).symm.filterMap f
  rwa [List.filterMap_cons_some image] at one

theorem filterMap_eraseIdx_none {α β : Type} {f : α → Option β} {l : List α} {k : Nat}
    {x : α} (at_k : l[k]? = some x) (image : f x = none) :
    (l.eraseIdx k).filterMap f = l.filterMap f := by
  obtain ⟨bound, rfl⟩ := List.getElem?_eq_some_iff.mp at_k
  conv_rhs => rw [← List.take_append_drop k l, List.drop_eq_getElem_cons bound]
  rw [List.eraseIdx_eq_take_drop_succ, List.filterMap_append, List.filterMap_append,
    List.filterMap_cons_none image]

theorem flow_eraseIdx {β : Type} {key : β → Option α} {l l' : List β} {x : β} {k : Nat}
    (same : accepted' = accepted) (found : l[k]? = some x) (rest : l' = l.eraseIdx k) :
    Flow accepted (l.filterMap key) accepted' (l'.filterMap key) (key x) := by
  rw [rest]
  cases own : key x with
  | none => exact .same same (filterMap_eraseIdx_none found own)
  | some a =>
    exact .completes same (filterMap_eraseIdx found own)
      ((List.eraseIdx_sublist _ _).filterMap _)

/-- Requests are conserved along a run if they are in each of its steps. The condition `P` may be
known of the end of the run only, if a step cannot bring it about. -/
theorem conserved_of_path {m : System S A} {P : S → Prop} {accepted pending : S → List α}
    (completed : S × A → Option α) (start : accepted m.init = [] ∧ pending m.init = [])
    (back : ∀ {l s a t}, Path m l s → m.step s a = some t → P t → P s)
    (flow : ∀ {l s a t}, Path m l s → m.step s a = some t → P s →
      Flow (accepted s) (pending s) (accepted t) (pending t) (completed (s, a)))
    {l : List (S × A)} {s : S} (path : Path m l s) (holds : P s) :
    Conserved (accepted s) (l.filterMap completed) (pending s) := by
  induction path with
  | start =>
    rw [start.1, start.2]
    exact conserved_nil
  | @next l s t a before move ih =>
    have earlier := back before move holds
    rw [filterMap_concat]
    exact (ih earlier).step (flow before move earlier)

end Requests

end AsyncEngine.Lib.Pending
