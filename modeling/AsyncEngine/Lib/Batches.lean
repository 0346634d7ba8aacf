/- Procs that wait until all of them are taken at once, as a batch whose procs are then called one
   after the other. While a batch is gone through, other procs can be registered and taken. -/

import Mathlib.Data.List.Nodup

set_option autoImplicit false
set_option relaxedAutoImplicit false

namespace AsyncEngine.Lib.Batches

/-- What is left of a batch: the procs with the numbers of their registrations, and what was
known when they were taken. -/
structure Batch (α ε : Type) where
  tag : ε
  rest : List (Nat × α)

/-- Registrations are numbered from 0. The batch that was taken last comes first. -/
structure Ledger (α ε : Type) where
  next : Nat := 0
  waiting : List (Nat × α) := []
  batches : List (Batch α ε) := []
  called : List Nat := []

namespace Ledger

variable {α ε : Type}

def register (ledger : Ledger α ε) (x : α) : Ledger α ε :=
  { ledger with next := ledger.next + 1, waiting := ledger.waiting ++ [(ledger.next, x)] }

def clear (ledger : Ledger α ε) : Ledger α ε := { ledger with waiting := [] }

def take (ledger : Ledger α ε) (tag : ε) : Ledger α ε :=
  { ledger with waiting := [], batches := ⟨tag, ledger.waiting⟩ :: ledger.batches }

/-- The first proc that is left of the last batch is called. -/
def call (ledger : Ledger α ε) : Ledger α ε :=
  match ledger.batches with
  | ⟨tag, (k, _) :: rest⟩ :: outer =>
    { ledger with batches := ⟨tag, rest⟩ :: outer, called := ledger.called ++ [k] }
  | _ => ledger

/-- The last batch is left with what it still holds. -/
def leave (ledger : Ledger α ε) : Ledger α ε := { ledger with batches := ledger.batches.tail }

/-- The registrations that can still be called, in the order in which they were made. -/
def pending (ledger : Ledger α ε) : List Nat :=
  ((ledger.batches.reverse.flatMap Batch.rest) ++ ledger.waiting).map Prod.fst

/-- Batches hold their procs in the order of registration, and none that was called before. -/
structure InOrder (ledger : Ledger α ε) : Prop where
  sorted : ledger.pending.Pairwise (· < ·)
  pending_lt : ∀ k ∈ ledger.pending, k < ledger.next
  called_lt : ∀ k ∈ ledger.called, k < ledger.next
  once : ∀ k ∈ ledger.called, k ∉ ledger.pending
  distinct : ledger.called.Nodup

variable {ledger ledger' : Ledger α ε}

theorem inOrder_empty : ({} : Ledger α ε).InOrder := by
  have nothing : ({} : Ledger α ε).pending = [] := rfl
  refine ⟨?_, ?_, ?_, ?_, List.nodup_nil⟩
  · rw [nothing]
    exact .nil
  · rw [nothing]
    intro k here
    cases here
  · intro k here
    cases here
  · intro k here
    cases here

private theorem InOrder.fewer (order : ledger.InOrder)
    (fewer : ledger'.pending.Sublist ledger.pending) (next : ledger'.next = ledger.next)
    (called : ledger'.called = ledger.called) : ledger'.InOrder := by
  refine ⟨order.sorted.sublist fewer, ?_, ?_, ?_, ?_⟩
  · intro k here
    rw [next]
    exact order.pending_lt k (fewer.subset here)
  · rw [next, called]
    exact order.called_lt
  · rw [called]
    intro k here again
    exact order.once k here (fewer.subset again)
  · rw [called]
    exact order.distinct

theorem InOrder.clear (order : ledger.InOrder) : ledger.clear.InOrder := by
  refine order.fewer ?_ rfl rfl
  apply List.Sublist.map
  show (_ ++ []).Sublist (_ ++ ledger.waiting)
  exact (List.nil_sublist _).append_left _

theorem InOrder.take (order : ledger.InOrder) (tag : ε) : (ledger.take tag).InOrder := by
  have same : (ledger.take tag).pending = ledger.pending := by
    simp [pending, Ledger.take, List.flatMap_append]
  exact order.fewer (same ▸ List.Sublist.refl _) rfl rfl

theorem InOrder.leave (order : ledger.InOrder) : ledger.leave.InOrder := by
  refine order.fewer ?_ rfl rfl
  apply List.Sublist.map
  apply List.Sublist.append_right
  unfold Ledger.leave
  cases ledger.batches with
  | nil => exact List.Sublist.refl _
  | cons batch outer =>
    show (outer.reverse.flatMap Batch.rest).Sublist ((batch :: outer).reverse.flatMap Batch.rest)
    rw [List.reverse_cons, List.flatMap_append]
    exact List.sublist_append_left _ _

theorem InOrder.register (order : ledger.InOrder) (x : α) : (ledger.register x).InOrder := by
  have more : (ledger.register x).pending = ledger.pending ++ [ledger.next] := by
    simp [pending, Ledger.register]
  refine ⟨?_, ?_, ?_, ?_, order.distinct⟩
  · rw [more, List.pairwise_append]
    refine ⟨order.sorted, List.pairwise_singleton _ _, fun k here m last => ?_⟩
    obtain rfl := List.mem_singleton.mp last
    exact order.pending_lt k here
  · intro k here
    rw [more] at here
    show k < ledger.next + 1
    rcases List.mem_append.mp here with earlier | last
    · have bound := order.pending_lt k earlier
      omega
    · obtain rfl := List.mem_singleton.mp last
      omega
  · intro k here
    have bound := order.called_lt k here
    show k < ledger.next + 1
    omega
  · intro k here again
    have bound := order.called_lt k here
    rw [more] at again
    rcases List.mem_append.mp again with earlier | last
    · exact order.once k here earlier
    · obtain rfl := List.mem_singleton.mp last
      omega

section Call

variable {tag : ε} {k : Nat} {x : α} {rest : List (Nat × α)} {outer : List (Batch α ε)}

private theorem pending_eq (batches : ledger.batches = ⟨tag, (k, x) :: rest⟩ :: outer) :
    ledger.pending = (outer.reverse.flatMap Batch.rest).map Prod.fst ++
      k :: (rest ++ ledger.waiting).map Prod.fst := by
  simp [pending, batches, List.flatMap_append]

/-- The proc that is called next was not called before, and it was registered before the others
of its batch. -/
theorem InOrder.first (order : ledger.InOrder)
    (batches : ledger.batches = ⟨tag, (k, x) :: rest⟩ :: outer) :
    k ∉ ledger.called ∧ ∀ later ∈ rest, k < later.1 := by
  have sorted := order.sorted
  rw [pending_eq batches, List.pairwise_append, List.pairwise_cons] at sorted
  constructor
  · intro before
    refine order.once k before ?_
    rw [pending_eq batches]
    simp
  · intro later here
    refine sorted.2.1.1 later.1 (List.mem_map_of_mem ?_)
    exact List.mem_append_left _ here

theorem call_eq (batches : ledger.batches = ⟨tag, (k, x) :: rest⟩ :: outer) : ledger.call =
    { ledger with batches := ⟨tag, rest⟩ :: outer, called := ledger.called ++ [k] } := by
  unfold call
  rw [batches]

theorem InOrder.call (order : ledger.InOrder) : ledger.call.InOrder := by
  by_cases ready : ∃ tag k x rest outer, ledger.batches = ⟨tag, (k, x) :: rest⟩ :: outer
  · obtain ⟨tag, k, x, rest, outer, batches⟩ := ready
    have before := pending_eq batches
    have after : ledger.call.pending = (outer.reverse.flatMap Batch.rest).map Prod.fst ++
        (rest ++ ledger.waiting).map Prod.fst := by
      rw [call_eq batches]
      simp [pending, List.flatMap_append]
    have fewer : ledger.call.pending.Sublist ledger.pending := by
      rw [before, after]
      exact (List.sublist_cons_self _ _).append_left _
    have here : k ∈ ledger.pending := by
      rw [before]
      simp
    have gone : k ∉ ledger.call.pending := by
      have distinct := order.sorted.imp (fun {a b} (less : a < b) => Nat.ne_of_lt less)
      rw [before, ← List.nodup_iff_pairwise_ne, List.nodup_middle] at distinct
      rw [after]
      exact (List.nodup_cons.mp distinct).1
    have next : ledger.call.next = ledger.next := by rw [call_eq batches]
    have called : ledger.call.called = ledger.called ++ [k] := by rw [call_eq batches]
    refine ⟨order.sorted.sublist fewer, ?_, ?_, ?_, ?_⟩
    · intro m mem
      rw [next]
      exact order.pending_lt m (fewer.subset mem)
    · intro m mem
      rw [called] at mem
      rw [next]
      rcases List.mem_append.mp mem with earlier | last
      · exact order.called_lt m earlier
      · obtain rfl := List.mem_singleton.mp last
        exact order.pending_lt m here
    · intro m mem again
      rw [called] at mem
      rcases List.mem_append.mp mem with earlier | last
      · exact order.once m earlier (fewer.subset again)
      · obtain rfl := List.mem_singleton.mp last
        exact gone again
    · rw [called, List.nodup_append]
      refine ⟨order.distinct, List.nodup_singleton k, fun m mem m' last same => ?_⟩
      obtain rfl := List.mem_singleton.mp last
      subst same
      exact order.once m mem here
  · have same : ledger.call = ledger := by
      unfold Ledger.call
      split
      · rename_i tag k x rest outer batches
        exact absurd ⟨tag, k, x, rest, outer, batches⟩ ready
      · rfl
    rw [same]
    exact order

end Call

end Ledger

end AsyncEngine.Lib.Batches
