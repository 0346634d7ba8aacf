/- What a thread waits for in `rb_mutex_lock` of `AsyncEngine_run`, and how it gets its turn. -/

import AsyncEngine.Engine.Threads

set_option autoImplicit false
set_option relaxedAutoImplicit false

namespace AsyncEngine.Engine.Waiting

open AsyncEngine.Lib.Run
open AsyncEngine.Engine.Ruby
open AsyncEngine.Engine.State
open AsyncEngine.Engine.Machine
open AsyncEngine.Engine.Effects
open AsyncEngine.Engine.Steps
open AsyncEngine.Engine.Loop
open AsyncEngine.Engine.Threads

/-- What the thread waits for with its proc: for the GVL, to start a loop of its own, or for the
thread between the lock and the unlock, which goes on by itself. -/
inductive WaitsFor (p : Process) (i proc : Nat) : Prop
  | turn (stopped : p.world.status = .stopped) (free : p.world.mutex = none)
      (locks : (p.threads.eraseIdx i).any Thread.keepsGvl = false →
        ∃ p', process.step p (i, .locks) = some p' ∧
          (p'.world.fault = none → Owns i p'.world ∧ .user proc ∈ p'.world.nextTickProcs))
  | loop {j : Nat} {ctl : Ctl} {callers : List (Base × List Frame)} (other : j ≠ i)
      (owner : p.threads[j]? = some (.runs ctl callers)) (inside : Inside ctl)
      (moving : p.world.status ≠ .stopped) (mutex : p.world.mutex = some j)

/-- A thread goes on waiting until it gets `AE_mutex`, and whoever has that gives it back only at
the end of the loop. -/
structure HandsOver (p : Process) (i : Nat) (a : Nat × ThreadAction) (p' : Process) : Prop where
  waits : a = (i, .locks) ∨ p'.threads[i]? = p.threads[i]?
  mutex : ∀ j, p.world.mutex = some j → p'.world.mutex = some j ∨
    (a.1 = j ∧ p'.world.mutex = none ∧ p'.world.status = .stopped)

/-- What the steps keep, as long as no exception leaves `AE.run`. -/
structure WaitInv (p : Process) : Prop where
  process : ProcessInv p
  between : p.world.status ≠ .stopped → ∃ i, Between p i
  -- A thread that waits is not the one of the loop.
  parked : ∀ (i : Nat) (t : Thread), p.threads[i]? = some t → t.waiting ≠ none → ¬ Inside t.ctl

section Steps

variable {p p' : Process} {i j : Nat} {a : ThreadAction}

private theorem others_stay {t : Thread} (move : ThreadStep p i a p') (other : i ≠ j)
    (at_j : p.threads[j]? = some t) : p'.threads[j]? = some t := by
  cases move with
  | does thread own move => exact (List.getElem?_set_ne other).trans at_j
  | waits thread accepted mutex other' idle => exact (List.getElem?_set_ne other).trans at_j
  | locks thread free => exact (List.getElem?_set_ne other).trans at_j
  | spawns =>
    have bound := (List.getElem?_eq_some_iff.mp at_j).1
    exact (List.getElem?_append_left bound).trans at_j
  | ends thread => exact (List.getElem?_set_ne other).trans at_j

private theorem others_between (move : ThreadStep p i a p') (other : j ≠ i)
    (between : Between p' j) : Between p j := by
  -- One thread is replaced.
  have old {t u : Thread} {w : World} (thread : p.threads[i]? = some t)
      (between : Between ⟨w, p.threads.set i u⟩ j) : Between p j := by
    rcases between_of_set thread between with ⟨same, -⟩ | ⟨-, before⟩
    · exact absurd same other
    · exact before
  cases move with
  | does thread own move => exact old thread between
  | waits thread accepted mutex other' idle => exact old thread between
  | locks thread free => exact old thread between
  | spawns =>
    obtain ⟨t, at_j, inside⟩ := between
    by_cases bound : j < p.threads.length
    · exact ⟨t, (List.getElem?_append_left bound).symm.trans at_j, inside⟩
    · rw [List.getElem?_append_right (Nat.le_of_not_lt bound)] at at_j
      obtain rfl := List.mem_singleton.mp (List.mem_of_getElem? at_j)
      exact absurd rfl inside
  | ends thread => exact old thread between

private theorem parked_waits {owner : Nat} {t : Thread} (inv : WaitInv p)
    (live : p.world.fault = none) (at_i : p.threads[i]? = some t)
    (mutex : p.world.mutex = some owner) (other : owner ≠ i) : ¬ Inside t.ctl := by
  intro inside
  have moving : p.world.status ≠ .stopped := (inv.process.loop i t at_i).busy inside live
  have own := (inv.process.locked moving ⟨t, at_i, inside⟩).2
  rw [mutex] at own
  exact other (Option.some.inj own)

private theorem parked_step (inv : WaitInv p) (h : process.step p (i, a) = some p') :
    ∀ (j : Nat) (t : Thread), p'.threads[j]? = some t → t.waiting ≠ none → ¬ Inside t.ctl := by
  obtain ⟨live, move⟩ := threadStep_inv h
  -- One thread is replaced: it waits outside of the loop, or does not wait.
  have replaced {t u : Thread} (thread : p.threads[i]? = some t)
      (own : u.waiting ≠ none → ¬ Inside u.ctl) (j : Nat) (v : Thread)
      (at_j : (p.threads.set i u)[j]? = some v) (waits : v.waiting ≠ none) : ¬ Inside v.ctl := by
    rcases set_threads thread at_j with ⟨-, rfl⟩ | ⟨-, old⟩
    · exact own waits
    · exact inv.parked j v old waits
  cases move with
  | does thread own move => exact replaced thread fun waits => absurd rfl waits
  | waits thread accepted mutex other idle =>
    have outside := parked_waits inv live thread mutex other
    exact replaced thread fun _ => outside
  | locks thread free => exact replaced thread fun waits => absurd rfl waits
  | spawns =>
    intro j t at_j waits
    by_cases old : j < p.threads.length
    · rw [List.getElem?_append_left old] at at_j
      exact inv.parked j t at_j waits
    · rw [List.getElem?_append_right (Nat.le_of_not_lt old)] at at_j
      obtain rfl := List.mem_singleton.mp (List.mem_of_getElem? at_j)
      exact absurd rfl waits
  | ends thread => exact replaced thread fun waits => absurd rfl waits

private theorem waitInv_step {a : Nat × ThreadAction} (inv : WaitInv p)
    (h : process.step p a = some p') (normal : ¬ LeavesByRaise p a) : WaitInv p' := by
  obtain ⟨i, action⟩ := a
  exact ⟨processInv_step inv.process h, between_step inv.process inv.between h normal,
    parked_step inv h⟩

private theorem waitInv_init : WaitInv process.init := by
  refine ⟨processInv_init, fun moving => absurd rfl moving, ?_⟩
  intro i t at_i waits
  obtain rfl := List.mem_singleton.mp (List.mem_of_getElem? at_i)
  exact absurd rfl waits

private theorem WaitInv.owner (inv : WaitInv p) (mutex : p.world.mutex = some j) :
    p.world.status ≠ .stopped ∧
      ∃ ctl callers, p.threads[j]? = some (.runs ctl callers) ∧ Inside ctl := by
  obtain ⟨thread, moving⟩ := inv.process.held j mutex
  obtain ⟨k, between⟩ := inv.between moving
  obtain ⟨thread', -⟩ := inv.process.locked moving between
  obtain rfl := Option.some.inj (thread'.symm.trans thread)
  obtain ⟨t, at_k, inside⟩ := between
  refine ⟨moving, ?_⟩
  cases t with
  | runs ctl callers => exact ⟨ctl, callers, at_k, inside⟩
  | locking base stack callers args uv proc =>
    exact absurd inside (inv.parked k _ at_k (by simp [Thread.waiting]))
  | ended => exact absurd rfl inside

private theorem WaitInv.stopped (inv : WaitInv p) (free : p.world.mutex = none) :
    p.world.status = .stopped := by
  by_contra moving
  obtain ⟨i, between⟩ := inv.between moving
  have mutex := (inv.process.locked moving between).2
  rw [free] at mutex
  cases mutex

private theorem mutex_step {a : Nat × ThreadAction} (inv : WaitInv p)
    (h : process.step p a = some p') (normal : ¬ LeavesByRaise p a)
    (live : p'.world.fault = none) (mutex : p.world.mutex = some j) :
    p'.world.mutex = some j ∨
      (a.1 = j ∧ p'.world.mutex = none ∧ p'.world.status = .stopped) := by
  obtain ⟨i, action⟩ := a
  have next := waitInv_step inv h normal
  obtain ⟨-, move⟩ := threadStep_inv h
  obtain ⟨-, ctl, callers, at_j, inside⟩ := inv.owner mutex
  by_cases own : i = j
  · subst own
    by_cases stopped : p'.world.status = .stopped
    · exact .inr ⟨rfl, (next.process.vars.stopped stopped).mutex, stopped⟩
    -- The other threads stay where they are, so the one between is still this one.
    · obtain ⟨k, between⟩ := next.between stopped
      have same : k = i := by
        by_contra other
        have before := others_between move other between
        exact other (inv.process.alone k i before ⟨_, at_j, inside⟩)
      subst same
      exact .inl (next.process.locked stopped between).2
  · have still : Between p' j := ⟨_, others_stay move own at_j, inside⟩
    have moving : p'.world.status ≠ .stopped := by
      obtain ⟨t, at_j', inside'⟩ := still
      exact (next.process.loop j t at_j').busy inside' live
    exact .inl (next.process.locked moving still).2

private theorem waits_step {a : Nat × ThreadAction} {base : Base} {stack : List Frame}
    {callers : List (Base × List Frame)} {args : Args} {uv : UvAnswers} {proc : Nat}
    (h : process.step p a = some p')
    (at_i : p.threads[i]? = some (.locking base stack callers args uv proc)) :
    a = (i, .locks) ∨ p'.threads[i]? = p.threads[i]? := by
  obtain ⟨k, action⟩ := a
  obtain ⟨-, move⟩ := threadStep_inv h
  by_cases own : k = i
  · subst own
    cases move with
    | does thread own move =>
      rw [at_i] at thread
      cases thread
    | waits thread accepted mutex other idle =>
      rw [at_i] at thread
      cases thread
    | locks thread free => exact .inl rfl
    | spawns =>
      have bound := (List.getElem?_eq_some_iff.mp at_i).1
      exact .inr (List.getElem?_append_left bound)
    | ends thread =>
      rw [at_i] at thread
      cases thread
  · exact .inr ((others_stay move own at_i).trans at_i.symm)

end Steps

section Turns

variable {p p' : Process} {i : Nat}

private theorem turn_starts {base : Base} {stack : List Frame} {callers : List (Base × List Frame)}
    {args : Args} {uv : UvAnswers} {proc : Nat} (live : p.world.fault = none)
    (at_i : p.threads[i]? = some (.locking base stack callers args uv proc))
    (stopped : p.world.status = .stopped) (free : p.world.mutex = none)
    (gvl : (p.threads.eraseIdx i).any Thread.keepsGvl = false) :
    ∃ p', process.step p (i, .locks) = some p' ∧
      (p'.world.fault = none → Owns i p'.world ∧ .user proc ∈ p'.world.nextTickProcs) := by
  let next := p.put i (afterLock (p.config i (.locking base stack callers args uv proc)) base stack
    args uv proc)
  have world : next.world = startLoop { p.world with currentThread := i } proc uv := by
    change (afterLock _ base stack args uv proc).world = _
    unfold afterLock Process.config
    rw [stopped]
  refine ⟨next, ?_, fun alive => ?_⟩
  · change Threads.step p (i, .locks) = _
    unfold Threads.step
    dsimp only
    rw [if_neg (by simp [live, gvl]), at_i]
    unfold stepThread
    rw [free]
  · rw [world] at alive ⊢
    rcases startLoop_cases { p.world with currentThread := i } proc uv with
      aborts | ⟨fault, runs⟩
    · rw [aborts] at alive
      cases alive
    · rw [runs]
      exact ⟨⟨rfl, rfl, rfl, rfl⟩, by simp [startedLoop, Procs.pushNextTick]⟩

/-- In every run of any number of threads, as long as no exception goes through `AE.run`, a thread
that waits in it waits for no thread that waits or has ended: either the loop has ended and the
thread can start its own with its proc as soon as it has the GVL, or another thread is in the loop,
and it gives the mutex back at the loop's end and no sooner. -/
theorem waiting_threads_get_their_turn {l : List (Process × (Nat × ThreadAction))}
    {base : Base} {stack : List Frame} {callers : List (Base × List Frame)} {args : Args}
    {uv : UvAnswers} {proc : Nat} (path : Path process l p)
    (normal : Each (fun p a => ¬ LeavesByRaise p a) l) (live : p.world.fault = none)
    (at_i : p.threads[i]? = some (.locking base stack callers args uv proc)) :
    WaitsFor p i proc ∧ ∀ a p', process.step p a = some p' → ¬ LeavesByRaise p a →
      p'.world.fault = none → HandsOver p i a p' := by
  have inv : WaitInv p := path.guarded (I := WaitInv) waitInv_init waitInv_step normal
  constructor
  · cases mutex : p.world.mutex with
    | none =>
      have stopped := inv.stopped mutex
      exact .turn stopped mutex (turn_starts live at_i stopped mutex)
    | some j =>
      obtain ⟨moving, ctl, callers', at_j, inside⟩ := inv.owner mutex
      have other : j ≠ i := by
        rintro rfl
        rw [at_i] at at_j
        cases at_j
      exact .loop other at_j inside moving mutex
  · intro a p' move ordinary alive
    exact ⟨waits_step move at_i, fun j mutex => mutex_step inv move ordinary alive mutex⟩

/-- The thread waits for the mutex, which the other has. -/
private def waitsFor (p : Process) (i j : Nat) : Bool :=
  match p.threads[i]? with
  | some (.locking _ _ _ _ _ _) => decide (p.world.fault = none ∧ p.world.mutex = some j)
  | _ => false

/-- A second thread calls `AE.run` while the loop of the first is released. -/
theorem waiting_threads_get_their_turn_second : ∃ l p proc, Path process l p ∧
    p.world.mutex = some 1 ∧ WaitsFor p 2 proc ∧
    ∀ a p', process.step p a = some p' → ¬ LeavesByRaise p a → p'.world.fault = none →
      HandsOver p 2 a p' := by
  have reached : ((process.only lawful).exec [(0, .spawns), (0, .spawns),
      (1, .does (.call (.run ⟨[], some 7⟩ {}))), (1, .does .proceed), (1, .does (.event .idle)),
      (1, .does .proceed), (1, .does (.call .stop)), (1, .does .finish), (1, .does .proceed),
      (1, .does .proceed), (1, .does .proceed), (1, .does .proceed), (1, .does (.event .idle)),
      (1, .does .proceed), (1, .does .proceed), (1, .does .proceed), (1, .does .proceed),
      (1, .does .proceed), (1, .does .proceed), (2, .does (.call (.run ⟨[], some 9⟩ {})))]).any
        (fun p => waitsFor p 2 1) = true := by
    decide +kernel
  obtain ⟨l, p, path, waits⟩ := exists_path_of_exec _ _ _ reached
  obtain ⟨path, passed⟩ := path_of_only path
  unfold waitsFor at waits
  split at waits
  · rename_i base stack callers args uv proc at_2
    obtain ⟨live, mutex⟩ := of_decide_eq_true waits
    have turn := waiting_threads_get_their_turn path
      (fun step here => (lawful_sound (passed step here)).1) live at_2
    exact ⟨l, p, proc, path, mutex, turn⟩
  · cases waits

end Turns

end AsyncEngine.Engine.Waiting
