/- `AE.run` and `AE.stop` called by any number of threads: the status, `AE_mutex` and the thread
   that runs the loop. -/

import AsyncEngine.Engine.RunExit
import AsyncEngine.Engine.Queues

set_option autoImplicit false
set_option relaxedAutoImplicit false

namespace AsyncEngine.Engine.Threads

open AsyncEngine.Lib.Run
open AsyncEngine.Engine.Ruby
open AsyncEngine.Engine.State
open AsyncEngine.Engine.Machine
open AsyncEngine.Engine.Effects
open AsyncEngine.Engine.Steps
open AsyncEngine.Engine.Loop
open AsyncEngine.Engine.RunExit
open AsyncEngine.Engine.Queues

/-- A thread runs, waits in `rb_mutex_lock` of `AsyncEngine_run`, or has ended. -/
inductive Thread
  | runs (ctl : Ctl) (callers : List (Base × List Frame))
  | locking (base : Base) (stack : List Frame) (callers : List (Base × List Frame)) (args : Args)
      (uv : UvAnswers) (proc : Nat)
  | ended

def Thread.ctl : Thread → Ctl
  | .runs ctl _ => ctl
  | .locking base stack _ _ _ _ => .code base stack
  | .ended => .code .outside []

def Thread.callers : Thread → List (Base × List Frame)
  | .runs _ callers => callers
  | .locking _ _ callers _ _ _ => callers
  | .ended => []

/-- What the threads of a Ruby process share, and where each of them is. -/
structure Process where
  world : World
  threads : List Thread

/-- `locks` gives `AE_mutex` to the thread, which waits for it; `does` is the rest of what a
thread does by itself. -/
inductive ThreadAction
  | does (action : Action)
  | locks
  | spawns
  | ends

/-- Only user code and blocking C code let another thread have the GVL. -/
def Thread.keepsGvl : Thread → Bool
  | .runs (.back _ _ _) _ => true
  | _ => false

/-- The process as its thread sees it. -/
def Process.config (p : Process) (i : Nat) (t : Thread) : Config where
  world := { p.world with currentThread := i }
  ctl := t.ctl
  callers := t.callers

def Process.put (p : Process) (i : Nat) (c : Config) : Process where
  world := c.world
  threads := p.threads.set i (.runs c.ctl c.callers)

/-- `AsyncEngine_run` comes to `rb_mutex_lock` while another thread has the mutex. -/
def waits (c : Config) : Action → Option Thread
  | .call (.run args uv) =>
    match c.ctl, runArgs args, c.world.mutex with
    | .code base stack, .ok proc, some owner =>
      if c.world.status ≠ .running ∧ owner ≠ c.world.currentThread then
        some (.locking base stack c.callers args uv proc)
      else none
    | _, _, _ => none
  | _ => none

/-- `AsyncEngine_run` from the return of `rb_mutex_lock`. -/
def afterLock (c : Config) (base : Base) (stack : List Frame) (args : Args) (uv : UvAnswers)
    (proc : Nat) : Config :=
  match c.world.status with
  | .stopped =>
    { world := startLoop c.world proc uv, ctl := .entering, callers := (base, stack) :: c.callers }
  | _ =>
    { c with
      world := c.world.push (.returned (.run args uv) (.value .nil)), ctl := .code base stack }

/-- The process is one: a fork makes another, and its threads are all here. -/
def isOwn : Action → Bool
  | .other _ _ => false
  | .threadEnds => false
  | .fork _ => false
  | _ => true

def stepThread (p : Process) (i : Nat) : Thread → ThreadAction → Option Process
  | .runs ctl callers, .does action =>
    let c := p.config i (.runs ctl callers)
    match waits c action with
    | some t => some { p with threads := p.threads.set i t }
    | none => if isOwn action then (engine.step c action).map (p.put i) else none
  | .runs (.code _ _) _, .spawns =>
    some { p with threads := p.threads ++ [.runs (.code .outside []) []] }
  | .runs (.code .outside []) [], .ends =>
    let w := p.world
    some {
      world := { w with mutex := if w.mutex = some i then none else w.mutex }
      threads := p.threads.set i .ended }
  | .locking base stack callers args uv proc, .locks =>
    match p.world.mutex with
    | none =>
      some (p.put i (afterLock (p.config i (.locking base stack callers args uv proc)) base stack
        args uv proc))
    | some _ => none
  | _, _ => none

def step (p : Process) : Nat × ThreadAction → Option Process
  | (i, action) =>
    if p.world.fault.isSome ∨ (p.threads.eraseIdx i).any Thread.keepsGvl then none
    else
      match p.threads[i]? with
      | some t => stepThread p i t action
      | none => none

/-- A process with its main thread, which has loaded the extension. -/
def process : System Process (Nat × ThreadAction) where
  init := { world := {}, threads := [.runs (.code .outside []) []] }
  step := step

def callOf : Nat × ThreadAction → Option (Nat × Nat)
  | (i, .does (.call (.run args _))) =>
    match runArgs args with
    | .ok proc => some (i, proc)
    | .error _ => none
  | _ => none

/-- The proc of a call that waits for the mutex. -/
def Thread.waiting : Thread → Option Nat
  | .locking _ _ _ _ _ proc => some proc
  | _ => none

/-- The call of `AE.run` that goes on in the step. -/
def runOf (p : Process) : Nat × ThreadAction → Option (Nat × Nat)
  | (i, .locks) => (p.threads[i]?.bind Thread.waiting).map fun proc => (i, proc)
  | action => callOf action

/-- What `AE.run` makes of its proc. -/
inductive Answer
  | starts
  | queues
deriving DecidableEq

/-- The proc is the first of a loop that the thread has started, or the last in one of the queues
of the loop that runs. -/
def answerOf (w : World) (i proc : Nat) (w' : World) : Option Answer :=
  if w.status = .stopped ∧ w'.status = .running ∧ w'.thread = some i ∧
      w'.nextTickProcs = [.user proc] ∧ w'.callFromOtherThreadProcs = [] then some .starts
  else if w.status = .running ∧ w'.status = .running ∧
      ((w'.nextTickProcs = w.nextTickProcs ++ [.user proc] ∧
          w'.callFromOtherThreadProcs = w.callFromOtherThreadProcs) ∨
        (w'.nextTickProcs = w.nextTickProcs ∧
          w'.callFromOtherThreadProcs = w.callFromOtherThreadProcs ++ [.user proc])) then
    some .queues
  else none

/-- The thread gets the mutex in the step. -/
def obtains (p : Process) : Nat × ThreadAction → Bool
  | (_, .locks) => true
  | action => (callOf action).isSome && p.world.status ≠ .running && p.world.mutex.isNone

/-- The calls of `AE.run` so far, those that have made a loop of their own or have put their proc
on a queue, and what the threads that got the mutex found `AE_status` to be. -/
structure Runs where
  calls : List (Nat × Nat) := []
  answered : List (Nat × Nat) := []
  found : List AeStatus := []

/-- The call of `AE.run` that the step answers. -/
def answers (p : Process) (a : Nat × ThreadAction) (p' : Process) : List (Nat × Nat) :=
  (runOf p a).toList.filter fun run => (answerOf p.world run.1 run.2 p'.world).isSome

def Runs.note (g : Runs) (p : Process) (a : Nat × ThreadAction) (p' : Process) : Runs where
  calls := g.calls ++ (callOf a).toList
  answered := g.answered ++ answers p a p'
  found := g.found ++ if obtains p a then [p.world.status] else []

/-- The process with a record of its calls of `AE.run`. -/
def recorded : System (Process × Runs) (Nat × ThreadAction) := process.annotate Runs.note {}

/-- The procs of a thread's calls, in order. -/
def procsOf (i : Nat) (runs : List (Nat × Nat)) : List Nat :=
  runs.filterMap fun run => if run.1 = i then some run.2 else none

/-- The proc of the call in which the thread waits for the mutex. -/
def waitingProc (p : Process) (i : Nat) : List Nat := (p.threads[i]?.bind Thread.waiting).toList

/-- The thread is between `rb_mutex_lock` and `rb_mutex_unlock` of `AsyncEngine_run`. -/
def Between (p : Process) (i : Nat) : Prop := ∃ t, p.threads[i]? = some t ∧ Inside t.ctl

/-- One thread at most is between the lock and the unlock of `AE_mutex`, the thread of the loop
has the mutex until the loop is stopped, a thread that gets it finds the loop stopped, and each
call of `AE.run` starts one loop with its proc or puts it on the queue of the running loop once,
unless it still waits. -/
structure ThreadSafe (p : Process) (g : Runs) : Prop where
  alone : ∀ i j, Between p i → Between p j → i = j
  holds : p.world.status ≠ .stopped → ∃ i, p.world.thread = some i ∧ p.world.mutex = some i
  found : ∀ s ∈ g.found, s = .stopped
  answered : p.world.fault = none →
    ∀ i, procsOf i g.calls = procsOf i g.answered ++ waitingProc p i

/-- An exception leaves `AE.run` in one of the threads. -/
def LeavesByRaise (p : Process) : Nat × ThreadAction → Prop
  | (i, .does action) => ∃ t, p.threads[i]? = some t ∧ RaisesOut (p.config i t) action
  | _ => False

/-- The thread of the loop calls `AE.run` while the loop is released. -/
def RunsInRelease (p : Process) (a : Nat × ThreadAction) : Prop :=
  ∃ i proc, callOf a = some (i, proc) ∧ p.world.status = .releasing ∧ p.world.thread = some i

structure ProcessInv (p : Process) : Prop where
  loop : ∀ i t, p.threads[i]? = some t → LoopInv (p.config i t)
  vars : VarsInv p.world
  inside : p.world.status ≠ .stopped → ∀ i, Between p i → p.world.thread = some i
  alone : ∀ i j, Between p i → Between p j → i = j
  held : ∀ i, p.world.mutex = some i → p.world.thread = some i ∧ p.world.status ≠ .stopped
  owner : ∀ i t, p.world.thread = some i → p.threads[i]? = some t → t ≠ .ended →
    p.world.mutex = some i
  known : ∀ i, p.world.thread = some i → i < p.threads.length
  pid : p.world.status ≠ .stopped → p.world.pid = p.world.getpid

section Step

variable {p p' : Process} {i : Nat} {a : ThreadAction}

inductive ThreadStep (p : Process) (i : Nat) : ThreadAction → Process → Prop
  | does {ctl : Ctl} {callers : List (Base × List Frame)} {action : Action} {c : Config}
      (thread : p.threads[i]? = some (.runs ctl callers)) (own : isOwn action = true)
      (move : engine.step (p.config i (.runs ctl callers)) action = some c) :
      ThreadStep p i (.does action) (p.put i c)
  | waits {base : Base} {stack : List Frame} {callers : List (Base × List Frame)} {args : Args}
      {uv : UvAnswers} {proc owner : Nat}
      (thread : p.threads[i]? = some (.runs (.code base stack) callers))
      (accepted : runArgs args = .ok proc) (mutex : p.world.mutex = some owner)
      (other : owner ≠ i) (idle : p.world.status ≠ .running) :
      ThreadStep p i (.does (.call (.run args uv)))
        { p with threads := p.threads.set i (.locking base stack callers args uv proc) }
  | locks {base : Base} {stack : List Frame} {callers : List (Base × List Frame)} {args : Args}
      {uv : UvAnswers} {proc : Nat}
      (thread : p.threads[i]? = some (.locking base stack callers args uv proc))
      (free : p.world.mutex = none) :
      ThreadStep p i .locks (p.put i (afterLock
        (p.config i (.locking base stack callers args uv proc)) base stack args uv proc))
  | spawns : ThreadStep p i .spawns
      { p with threads := p.threads ++ [.runs (.code .outside []) []] }
  | ends (thread : p.threads[i]? = some (.runs (.code .outside []) [])) : ThreadStep p i .ends {
      world := { p.world with
        mutex := if p.world.mutex = some i then none else p.world.mutex }
      threads := p.threads.set i .ended }

private theorem waits_inv {c : Config} {action : Action} {t : Thread}
    (h : waits c action = some t) : ∃ base stack args uv proc owner,
      action = .call (.run args uv) ∧ c.ctl = .code base stack ∧ runArgs args = .ok proc ∧
      c.world.mutex = some owner ∧ owner ≠ c.world.currentThread ∧ c.world.status ≠ .running ∧
      t = .locking base stack c.callers args uv proc := by
  unfold waits at h
  split at h
  · rename_i args uv
    split at h
    · rename_i base stack proc owner ctl accepted mutex
      split at h
      · rename_i busy
        obtain rfl := Option.some.inj h
        exact ⟨base, stack, args, uv, proc, owner, rfl, ctl, accepted, mutex, busy.2, busy.1, rfl⟩
      · cases h
    · cases h
  · cases h

theorem threadStep_inv (h : step p (i, a) = some p') :
    p.world.fault = none ∧ ThreadStep p i a p' := by
  unfold step at h
  dsimp only at h
  split at h
  · cases h
  · rename_i ready
    refine ⟨by simpa using fun fault => ready (.inl fault), ?_⟩
    cases thread : p.threads[i]? with
    | none =>
      rw [thread] at h
      cases h
    | some t =>
      rw [thread] at h
      dsimp only at h
      unfold stepThread at h
      split at h
      · rename_i ctl callers action
        dsimp only at h
        split at h
        · rename_i t waiting
          obtain rfl := Option.some.inj h
          obtain ⟨base, stack, args, uv, proc, owner, rfl, code, accepted, mutex, other, idle,
            rfl⟩ := waits_inv waiting
          obtain rfl : ctl = .code base stack := code
          exact .waits thread accepted mutex other idle
        · split at h
          · rename_i own
            obtain ⟨c, move, rfl⟩ := Option.map_eq_some_iff.mp h
            exact .does thread own move
          · cases h
      · obtain rfl := Option.some.inj h
        exact .spawns
      · obtain rfl := Option.some.inj h
        exact .ends thread
      · split at h
        · rename_i free
          obtain rfl := Option.some.inj h
          exact .locks thread free
        · cases h
      · cases h

/-- The thread has become the owner of a new loop. -/
structure Owns (i : Nat) (w : World) : Prop where
  status : w.status = .running
  thread : w.thread = some i
  mutex : w.mutex = some i
  pid : w.pid = w.getpid

/-- What a step of the thread does to the loop's owner: the thread that was `t` is `u` then. -/
inductive Hands (p : Process) (i : Nat) (t u : Thread) (w : World) : Prop
  | same (same : SameOwner p.world w) (inside : Inside u.ctl → Inside t.ctl) (alive : t ≠ .ended)
  | starts (stopped : p.world.status = .stopped) (alive : t ≠ .ended)
      (started : Owns i w ∨ (SameOwner p.world w ∧ w.fault ≠ none))
  | releases (inside : Inside t.ctl) (running : p.world.status = .running)
      (after : SameOwner { p.world with status := .releasing } w)
  | ends (inside : Inside t.ctl) (after : SameOwner
      { p.world with status := .stopped, thread := none, pid := -1, mutex := none } w)
  | leaves (ended : u = .ended) (after : SameOwner { p.world with
      mutex := if p.world.mutex = some i then none else p.world.mutex } w)

theorem set_threads {threads : List Thread} {t u v : Thread} {j : Nat}
    (thread : threads[i]? = some t) (h : (threads.set i u)[j]? = some v) :
    (j = i ∧ v = u) ∨ (j ≠ i ∧ threads[j]? = some v) := by
  by_cases same : i = j
  · subst same
    have bound := (List.getElem?_eq_some_iff.mp thread).1
    rw [List.getElem?_set_self bound] at h
    exact .inl ⟨rfl, (Option.some.inj h).symm⟩
  · rw [List.getElem?_set_ne same] at h
    exact .inr ⟨Ne.symm same, h⟩

private theorem inside_alive {t : Thread} (inside : Inside t.ctl) : t ≠ .ended := by
  intro ended
  subst ended
  exact inside rfl

private theorem loopInv_same {c c' : Config} (inv : LoopInv c) (ctl : c'.ctl = c.ctl)
    (callers : c'.callers = c.callers)
    (status : Inside c.ctl → c'.world.status = c.world.status)
    (live : c'.world.fault = none → c.world.fault = none) : LoopInv c' := by
  refine ⟨?_, ?_, ?_, ?_⟩
  · rw [ctl, callers]
    exact inv.alone
  · rw [ctl, callers]
    exact inv.inside
  · rw [ctl]
    intro inside alive
    rw [status inside]
    exact inv.busy inside (live alive)
  · rw [ctl]
    intro draining
    have inside : Inside c.ctl := by
      by_contra outside
      obtain ⟨keys, here⟩ := draining
      exact (inv.alone outside).2 _ here
    rw [status inside]
    exact inv.draining draining

section Hands

variable {t u : Thread} {w : World} {j : Nat}

theorem between_of_set (thread : p.threads[i]? = some t)
    (between : Between ⟨w, p.threads.set i u⟩ j) :
    (j = i ∧ Inside u.ctl) ∨ (j ≠ i ∧ Between p j) := by
  obtain ⟨v, at_j, inside⟩ := between
  rcases set_threads thread at_j with ⟨rfl, rfl⟩ | ⟨other, old⟩
  · exact .inl ⟨rfl, inside⟩
  · exact .inr ⟨other, v, old, inside⟩

private theorem hands_passes (inv : ProcessInv p) (live : p.world.fault = none)
    (thread : p.threads[i]? = some t) (hands : Hands p i t u w) (other : j ≠ i)
    (between : Between p j) :
    ¬ Inside u.ctl ∧ w.status = p.world.status ∧ w.thread = p.world.thread := by
  have here (inside : Inside t.ctl) : Between p i := ⟨t, thread, inside⟩
  cases hands with
  | same same inside =>
    exact ⟨fun own => other (inv.alone j i between (here (inside own))), same.status,
      same.thread⟩
  | starts stopped =>
    obtain ⟨v, at_j, inside⟩ := between
    exact absurd stopped ((inv.loop j v at_j).busy inside live)
  | releases own => exact absurd (inv.alone j i between (here own)) other
  | ends own => exact absurd (inv.alone j i between (here own)) other
  | leaves ended after =>
    subst ended
    exact ⟨fun own => own rfl, after.status, after.thread⟩

private theorem hands_inside (inv : ProcessInv p) (thread : p.threads[i]? = some t)
    (hands : Hands p i t u w) (moving : w.status ≠ .stopped) (inside : Inside u.ctl) :
    w.thread = some i := by
  have here (inside : Inside t.ctl) : Between p i := ⟨t, thread, inside⟩
  cases hands with
  | same same was =>
    exact same.thread.trans (inv.inside (same.status ▸ moving) i (here (was inside)))
  | starts stopped _ started =>
    rcases started with owns | ⟨same, -⟩
    · exact owns.thread
    · exact absurd (same.status.trans stopped) moving
  | releases own running after =>
    exact after.thread.trans (inv.inside (by simp [running]) i (here own))
  | ends own after => exact absurd after.status moving
  | leaves ended after =>
    subst ended
    exact absurd rfl inside

private theorem hands_alone (inv : ProcessInv p) (live : p.world.fault = none)
    (thread : p.threads[i]? = some t) (hands : Hands p i t u w) {k : Nat}
    (between : Between ⟨w, p.threads.set i u⟩ j)
    (between' : Between ⟨w, p.threads.set i u⟩ k) : j = k := by
  rcases between_of_set thread between with ⟨rfl, inside⟩ | ⟨other, old⟩
  · rcases between_of_set thread between' with ⟨rfl, -⟩ | ⟨other', old'⟩
    · rfl
    · exact absurd inside (hands_passes inv live thread hands other' old').1
  · rcases between_of_set thread between' with ⟨rfl, inside⟩ | ⟨other', old'⟩
    · exact absurd inside (hands_passes inv live thread hands other old).1
    · exact inv.alone j k old old'

private theorem hands_held (inv : ProcessInv p) (hands : Hands p i t u w)
    (mutex : w.mutex = some j) : w.thread = some j ∧ w.status ≠ .stopped := by
  have kept (same : SameOwner p.world w) : w.thread = some j ∧ w.status ≠ .stopped := by
    obtain ⟨thread, moving⟩ := inv.held j (same.mutex.symm.trans mutex)
    exact ⟨same.thread.trans thread, same.status ▸ moving⟩
  cases hands with
  | same same => exact kept same
  | starts stopped _ started =>
    rcases started with owns | ⟨same, -⟩
    · refine ⟨owns.thread.trans (owns.mutex.symm.trans mutex), ?_⟩
      rw [owns.status]
      simp
    · exact kept same
  | releases own running after =>
    refine ⟨after.thread.trans (inv.held j (after.mutex.symm.trans mutex)).1, ?_⟩
    rw [after.status]
    simp
  | ends own after => exact absurd (after.mutex.symm.trans mutex) (by simp)
  | leaves ended after =>
    have before : (if p.world.mutex = some i then none else p.world.mutex) = some j :=
      after.mutex.symm.trans mutex
    split at before
    · cases before
    · obtain ⟨thread, moving⟩ := inv.held j before
      exact ⟨after.thread.trans thread, after.status ▸ moving⟩

private theorem hands_owner (inv : ProcessInv p) (thread : p.threads[i]? = some t)
    (hands : Hands p i t u w) {v : Thread} (owner : w.thread = some j)
    (at_j : (p.threads.set i u)[j]? = some v) (alive : v ≠ .ended) : w.mutex = some j := by
  have before (owned : p.world.thread = some j) (alive' : t ≠ .ended) :
      p.world.mutex = some j := by
    rcases set_threads thread at_j with ⟨rfl, -⟩ | ⟨other, old⟩
    · exact inv.owner j t owned thread alive'
    · exact inv.owner j v owned old alive
  have kept (same : SameOwner p.world w) (alive' : t ≠ .ended) : w.mutex = some j :=
    same.mutex.trans (before (same.thread.symm.trans owner) alive')
  cases hands with
  | same same _ alive' => exact kept same alive'
  | starts stopped alive' started =>
    rcases started with owns | ⟨same, -⟩
    · exact owns.mutex.trans (owns.thread.symm.trans owner)
    · exact kept same alive'
  | releases own running after =>
    exact after.mutex.trans (before (after.thread.symm.trans owner) (inside_alive own))
  | ends own after => exact absurd (after.thread.symm.trans owner) (by simp)
  | leaves ended after =>
    rcases set_threads thread at_j with ⟨rfl, rfl⟩ | ⟨other, old⟩
    · exact absurd ended alive
    · have mutex := inv.owner j v (after.thread.symm.trans owner) old alive
      have not_own : ¬ p.world.mutex = some i := by
        rw [mutex]
        exact fun same => other (Option.some.inj same)
      exact after.mutex.trans ((if_neg not_own).trans mutex)

private theorem hands_known (inv : ProcessInv p) (thread : p.threads[i]? = some t)
    (hands : Hands p i t u w) (owner : w.thread = some j) : j < p.threads.length := by
  have bound := (List.getElem?_eq_some_iff.mp thread).1
  cases hands with
  | same same => exact inv.known j (same.thread.symm.trans owner)
  | starts stopped _ started =>
    rcases started with owns | ⟨same, -⟩
    · obtain rfl := Option.some.inj (owns.thread.symm.trans owner)
      exact bound
    · exact inv.known j (same.thread.symm.trans owner)
  | releases own running after => exact inv.known j (after.thread.symm.trans owner)
  | ends own after => exact absurd (after.thread.symm.trans owner) (by simp)
  | leaves ended after => exact inv.known j (after.thread.symm.trans owner)

private theorem hands_pid (inv : ProcessInv p) (hands : Hands p i t u w)
    (moving : w.status ≠ .stopped) : w.pid = w.getpid := by
  have kept {v : World} (before : v.pid = v.getpid) (same : SameOwner v w) :
      w.pid = w.getpid := by
    rw [same.pid, same.getpid]
    exact before
  cases hands with
  | same same => exact kept (inv.pid (same.status ▸ moving)) same
  | starts stopped _ started =>
    rcases started with owns | ⟨same, -⟩
    · exact owns.pid
    · exact kept (inv.pid (same.status ▸ moving)) same
  | releases own running after =>
    refine kept (v := { p.world with status := .releasing }) ?_ after
    exact inv.pid (by simp [running])
  | ends own after => exact absurd after.status moving
  | leaves ended after =>
    have before := inv.pid fun stopped => moving (after.status.trans stopped)
    rw [after.pid, after.getpid]
    exact before

private theorem processInv_set (inv : ProcessInv p) (live : p.world.fault = none)
    (thread : p.threads[i]? = some t) (vars : VarsInv w)
    (loop : LoopInv (Process.config ⟨w, p.threads.set i u⟩ i u)) (hands : Hands p i t u w) :
    ProcessInv ⟨w, p.threads.set i u⟩ := by
  refine ⟨?_, vars, ?_, fun _ _ => hands_alone inv live thread hands,
    fun _ => hands_held inv hands, fun _ _ => hands_owner inv thread hands, ?_,
    hands_pid inv hands⟩
  · intro j v at_j
    rcases set_threads thread at_j with ⟨rfl, rfl⟩ | ⟨other, old⟩
    · exact loop
    · refine loopInv_same (inv.loop j v old) rfl rfl (fun inside => ?_) fun _ => live
      exact (hands_passes inv live thread hands other ⟨v, old, inside⟩).2.1
  · intro moving j between
    rcases between_of_set thread between with ⟨rfl, inside⟩ | ⟨other, between⟩
    · exact hands_inside inv thread hands moving inside
    · obtain ⟨-, status, same⟩ := hands_passes inv live thread hands other between
      exact same.trans (inv.inside (status ▸ moving) j between)
  · intro j owner
    rw [List.length_set]
    exact hands_known inv thread hands owner

end Hands

private theorem startLoop_owns (w : World) (proc : Nat) (uv : UvAnswers) :
    Owns w.currentThread (startLoop w proc uv) ∨
      (SameOwner w (startLoop w proc uv) ∧ (startLoop w proc uv).fault ≠ none) := by
  rcases startLoop_cases w proc uv with aborts | ⟨fault, runs⟩
  · rw [aborts]
    exact .inr ⟨⟨rfl, rfl, rfl, rfl, rfl⟩, by simp [World.abort]⟩
  · rw [runs]
    exact .inl ⟨rfl, rfl, rfl, rfl⟩

private theorem processInv_moves {t : Thread} {action : Action} {c : Config}
    (inv : ProcessInv p) (live : p.world.fault = none) (thread : p.threads[i]? = some t)
    (alive : t ≠ .ended) (own : isOwn action = true) (move : Step (p.config i t) action c) :
    ProcessInv (p.put i c) := by
  have before := inv.loop i t thread
  have loop := loopInv_step before live move
  have vars := varsInv_step before live (inv.vars.onThread i) move
  refine processInv_set inv live thread vars (loopInv_same loop rfl rfl (fun _ => rfl) id) ?_
  cases owner_step move with
  | same same inside =>
    exact .same ⟨same.status, same.thread, same.pid, same.mutex, same.getpid⟩ inside alive
  | @starts args uv proc stopped free world ctl =>
    refine .starts stopped alive ?_
    rw [world]
    rcases startLoop_owns (p.config i t).world proc uv with
      owns | ⟨same, fault⟩
    · exact .inl owns
    · exact .inr ⟨⟨same.status, same.thread, same.pid, same.mutex, same.getpid⟩, fault⟩
  | releases ctl calls running after =>
    refine .releases ?_ running ?_
    · exact before.inside_of ctl fun outer => outer_not_fatal outer calls
    · exact ⟨after.status, after.thread, after.pid, after.mutex, after.getpid⟩
  | ends ctl handles reqs after =>
    have inside : Inside t.ctl := by
      have leaving : t.ctl = .leaving := ctl
      rw [leaving]
      trivial
    exact .ends inside ⟨after.status, after.thread, after.pid, after.mutex, after.getpid⟩
  | threadEnds kept after => cases own
  | forks after => cases own

private theorem afterLock_step {c : Config} {base : Base} {stack : List Frame} {args : Args}
    {uv : UvAnswers} {proc : Nat} (ctl : c.ctl = .code base stack)
    (free : c.world.mutex = none) :
    Step c (.call (.run args uv)) (afterLock c base stack args uv proc) := by
  have same : QueueFrame c.world c.world :=
    ⟨_, _, _, _, _, _, _, rfl, rfl, rfl, fun _ => ⟨rfl, rfl⟩⟩
  unfold afterLock
  split
  · rename_i stopped
    exact .runStarts ctl stopped free
  · exact .runReturns ctl same

private theorem processInv_spawns (inv : ProcessInv p) :
    ProcessInv { p with threads := p.threads ++ [.runs (.code .outside []) []] } := by
  have cases_of {j : Nat} {v : Thread}
      (at_j : (p.threads ++ [.runs (.code .outside []) []])[j]? = some v) :
      p.threads[j]? = some v ∨ (j = p.threads.length ∧ v = .runs (.code .outside []) []) := by
    by_cases old : j < p.threads.length
    · rw [List.getElem?_append_left old] at at_j
      exact .inl at_j
    · rw [List.getElem?_append_right (by omega)] at at_j
      obtain ⟨last, new⟩ := List.getElem?_eq_some_iff.mp at_j
      have last : j - p.threads.length < 1 := last
      refine .inr ⟨by omega, ?_⟩
      have first : j - p.threads.length = 0 := by omega
      simpa [first] using new.symm
  have between_of {j : Nat} (between : Between
      { p with threads := p.threads ++ [.runs (.code .outside []) []] } j) : Between p j := by
    obtain ⟨v, at_j, inside⟩ := between
    rcases cases_of at_j with old | ⟨-, rfl⟩
    · exact ⟨v, old, inside⟩
    · exact absurd rfl inside
  refine ⟨?_, inv.vars, ?_, ?_, inv.held, ?_, ?_, inv.pid⟩
  · intro j v at_j
    rcases cases_of at_j with old | ⟨-, rfl⟩
    · exact inv.loop j v old
    · refine ⟨fun _ => ⟨rfl, ?_⟩, fun inside => absurd rfl inside, fun inside => absurd rfl inside,
        ?_⟩
      · intro f here
        cases here
      · intro draining
        obtain ⟨keys, here⟩ := draining
        cases here
  · intro moving j between
    exact inv.inside moving j (between_of between)
  · intro j k between between'
    exact inv.alone j k (between_of between) (between_of between')
  · intro j v owner at_j alive
    rcases cases_of at_j with old | ⟨rfl, -⟩
    · exact inv.owner j v owner old alive
    · exact absurd (inv.known _ owner) (by omega)
  · intro j owner
    have bound := inv.known j owner
    rw [List.length_append]
    omega

private theorem processInv_ends (inv : ProcessInv p) (live : p.world.fault = none)
    (thread : p.threads[i]? = some (.runs (.code .outside []) [])) : ProcessInv {
      world := { p.world with
        mutex := if p.world.mutex = some i then none else p.world.mutex }
      threads := p.threads.set i .ended } := by
  have vars : VarsInv { p.world with
      mutex := if p.world.mutex = some i then none else p.world.mutex } := by
    refine ⟨fun stopped => ?_, inv.vars.running, inv.vars.releasing⟩
    obtain ⟨status, uvLoop, thread, pid, exitError, idle, async, ubf, mutex⟩ :=
      inv.vars.stopped stopped
    refine ⟨status, uvLoop, thread, pid, exitError, idle, async, ubf, ?_⟩
    dsimp only
    rw [mutex, ite_self]
  have loop : LoopInv (Process.config ⟨{ p.world with
      mutex := if p.world.mutex = some i then none else p.world.mutex },
      p.threads.set i .ended⟩ i .ended) :=
    loopInv_same (inv.loop i _ thread) rfl rfl (fun _ => rfl) id
  exact processInv_set inv live thread vars loop (.leaves rfl ⟨rfl, rfl, rfl, rfl, rfl⟩)

theorem processInv_step {a : Nat × ThreadAction} (inv : ProcessInv p)
    (h : process.step p a = some p') : ProcessInv p' := by
  obtain ⟨i, action⟩ := a
  obtain ⟨live, move⟩ := threadStep_inv h
  cases move with
  | does thread own move =>
    exact processInv_moves inv live thread (by simp) own (step_inv move).2
  | @waits base stack callers args uv proc owner thread accepted mutex other idle =>
    have loop : LoopInv (Process.config ⟨p.world,
        p.threads.set i (.locking base stack callers args uv proc)⟩ i
          (.locking base stack callers args uv proc)) :=
      loopInv_same (inv.loop i _ thread) rfl rfl (fun _ => rfl) id
    have same : SameOwner p.world p.world := ⟨rfl, rfl, rfl, rfl, rfl⟩
    exact processInv_set inv live thread inv.vars loop (.same same id (by simp))
  | locks thread free =>
    exact processInv_moves inv live thread (by simp) rfl (afterLock_step rfl free)
  | spawns => exact processInv_spawns inv
  | ends thread => exact processInv_ends inv live thread

theorem processInv_init : ProcessInv process.init := by
  obtain ⟨loop, vars⟩ := loop_init
  have only {j : Nat} {v : Thread} (at_j : process.init.threads[j]? = some v) :
      v = .runs (.code .outside []) [] := by
    have mem := List.mem_of_getElem? at_j
    exact List.mem_singleton.mp mem
  have outside {j : Nat} (between : Between process.init j) : False := by
    obtain ⟨v, at_j, inside⟩ := between
    obtain rfl := only at_j
    exact inside rfl
  refine ⟨?_, vars, fun _ j between => (outside between).elim,
    fun j k between => (outside between).elim, ?_, ?_, ?_, ?_⟩
  · intro j v at_j
    obtain rfl := only at_j
    exact loopInv_same loop rfl rfl (fun _ => rfl) id
  · intro j mutex
    cases mutex
  · intro j v owner
    cases owner
  · intro j owner
    cases owner
  · intro moving
    exact absurd rfl moving

end Step

section Relock

variable {p p' : Process} {a : Nat × ThreadAction}

/-- `AE.run` does not lock a mutex that its thread has, and the thread of the loop gets nil from
it while the loop is released, with its proc neither called nor put on a queue. -/
def LocksOnce (p : Process) : Nat × ThreadAction → Prop
  | (i, .does (.call (.run args uv))) => ∀ proc, runArgs args = .ok proc →
    (p.world.status ≠ .running → p.world.mutex ≠ some i) ∧
      (p.world.status = .releasing → p.world.thread = some i →
        ∀ p', process.step p (i, .does (.call (.run args uv))) = some p' → p'.world =
          { p.world with currentThread := i }.push (.returned (.run args uv) (.value .nil)))
  | _ => True

private theorem callOf_inv {i proc : Nat} (h : callOf a = some (i, proc)) :
    ∃ args uv, a = (i, .does (.call (.run args uv))) ∧ runArgs args = .ok proc := by
  unfold callOf at h
  split at h
  · rename_i j args uv
    split at h
    · rename_i accepted
      obtain ⟨rfl, rfl⟩ := Prod.mk.inj (Option.some.inj h)
      exact ⟨args, uv, rfl, accepted⟩
    · cases h
  · cases h

private theorem callOf_run {proc : Nat} {args : Args} (i : Nat) (uv : UvAnswers)
    (accepted : runArgs args = .ok proc) :
    callOf (i, .does (.call (.run args uv))) = some (i, proc) := by
  simp only [callOf, accepted]

private theorem locksOnce_sound (inv : ProcessInv p) (lawful : ¬ RunsInRelease p a) :
    LocksOnce p a := by
  unfold LocksOnce
  split
  · rename_i i args uv
    intro proc accepted
    have called := callOf_run i uv accepted
    refine ⟨?_, fun releasing thread => absurd ⟨i, proc, called, releasing, thread⟩ lawful⟩
    intro idle mutex
    obtain ⟨thread, moving⟩ := inv.held i mutex
    have releasing : p.world.status = .releasing := by
      cases status : p.world.status with
      | running => exact absurd status idle
      | releasing => rfl
      | stopped => exact absurd status moving
    exact lawful ⟨i, proc, called, releasing, thread⟩
  · trivial

private theorem locksOnce_sharp (inv : ProcessInv p) (h : process.step p a = some p')
    (once : LocksOnce p a) : ¬ RunsInRelease p a := by
  rintro ⟨i, proc, called, releasing, thread⟩
  obtain ⟨args, uv, rfl, accepted⟩ := callOf_inv called
  have idle : p.world.status ≠ .running := by simp [releasing]
  have free := (once proc accepted).1 idle
  obtain ⟨-, move⟩ := threadStep_inv h
  cases move with
  | does at_i own move => exact free (inv.owner i _ thread at_i (by simp))
  | waits at_i accepted mutex other idle => exact free (inv.owner i _ thread at_i (by simp))

/-- In every run of a process, `AE.run` is refused as intended exactly when the thread of the
loop never calls it while the loop is released. -/
theorem locks_once_iff {l : List (Process × (Nat × ThreadAction))} {p : Process}
    (path : Path process l p) : Each LocksOnce l ↔ Each (fun p a => ¬ RunsInRelease p a) l := by
  refine path.each_iff_each (I := ProcessInv) processInv_init ?_ ?_ ?_
  · intro p p' a inv move _
    exact processInv_step inv move
  · intro p p' a inv move lawful
    exact locksOnce_sound inv lawful
  · intro p p' a inv move once
    exact locksOnce_sharp inv move once

/-- What the main thread does. -/
def onMain (actions : List Action) : List (Nat × ThreadAction) :=
  actions.map fun action => (0, .does action)

/-- A connected socket is destroyed by the release, and its `on_disconnected` runs. -/
def disconnectInRelease : List Action :=
  connectSocket ++ [.call .stop, .finish, .proceed, .proceed, .event .idle, .proceed, .proceed]

/-- The proc of `on_disconnected` calls `AE.run`, which locks the mutex of its thread. -/
theorem on_disconnected_locks_again :
    ¬ ∀ l p, Path process l p → Each LocksOnce l := by
  intro once
  have reached : (process.exec (onMain disconnectInRelease)).any (fun p =>
      decide (p.world.status = .releasing ∧ p.world.mutex = some 0) &&
        (process.step p (0, .does (.call (.run ⟨[], some 1⟩ {})))).isSome) = true := by
    decide +kernel
  obtain ⟨l, p, path, here⟩ := exists_path_of_exec process _ _ reached
  obtain ⟨state, possible⟩ := (Bool.and_eq_true _ _).mp here
  obtain ⟨releasing, mutex⟩ := of_decide_eq_true state
  obtain ⟨p', move⟩ := Option.isSome_iff_exists.mp possible
  have last := once _ p' (path.next move) (p, (0, .does (.call (.run ⟨[], some 1⟩ {}))))
    (by simp)
  exact (last 1 rfl).1 (by simp [releasing]) mutex

/-- The same run without that call. -/
theorem locks_once_iff_disconnected : ∃ l p, Path process l p ∧
    p.world.status = .releasing ∧
    (Each LocksOnce l ↔ Each (fun p a => ¬ RunsInRelease p a) l) := by
  have reached : (process.exec (onMain disconnectInRelease)).any (fun p =>
      decide (p.world.status = .releasing)) = true := by
    decide +kernel
  obtain ⟨l, p, path, releasing⟩ := exists_path_of_exec process _ _ reached
  exact ⟨l, p, path, of_decide_eq_true releasing, locks_once_iff path⟩

end Relock

section Safety

variable {p p' : Process} {g : Runs} {i : Nat} {action : ThreadAction}

/-- What the steps keep, besides `ProcessInv`, as long as control leaves `AE.run` normally. -/
structure RunsInv (p : Process) (g : Runs) : Prop where
  process : ProcessInv p
  between : p.world.status ≠ .stopped → ∃ i, Between p i
  idle : p.world.status ≠ .running →
    p.world.nextTickProcs = [] ∧ p.world.callFromOtherThreadProcs = []
  found : ∀ s ∈ g.found, s = .stopped
  answered : p.world.fault = none →
    ∀ i, procsOf i g.calls = procsOf i g.answered ++ waitingProc p i

theorem ProcessInv.locked (inv : ProcessInv p) (moving : p.world.status ≠ .stopped)
    (between : Between p i) : p.world.thread = some i ∧ p.world.mutex = some i := by
  have thread := inv.inside moving i between
  obtain ⟨t, at_i, inside⟩ := between
  exact ⟨thread, inv.owner i t thread at_i (inside_alive inside)⟩

private theorem RunsInv.holds (inv : RunsInv p g) (moving : p.world.status ≠ .stopped) :
    ∃ i, p.world.thread = some i ∧ p.world.mutex = some i := by
  obtain ⟨i, between⟩ := inv.between moving
  exact ⟨i, inv.process.locked moving between⟩

private theorem RunsInv.stopped (inv : RunsInv p g) (free : p.world.mutex = none) :
    p.world.status = .stopped := by
  by_contra moving
  obtain ⟨i, -, mutex⟩ := inv.holds moving
  rw [free] at mutex
  cases mutex

private theorem between_set {t u : Thread} {w : World} {j : Nat}
    (thread : p.threads[i]? = some t) (before : Between p j)
    (inside : j = i → Inside t.ctl → Inside u.ctl) : Between ⟨w, p.threads.set i u⟩ j := by
  obtain ⟨v, at_j, within⟩ := before
  by_cases same : j = i
  · subst same
    obtain rfl := Option.some.inj (thread.symm.trans at_j)
    have bound := (List.getElem?_eq_some_iff.mp thread).1
    exact ⟨u, List.getElem?_set_self bound, inside rfl within⟩
  · exact ⟨v, by rw [List.getElem?_set_ne (Ne.symm same)]; exact at_j, within⟩

/-- A thread that is not stopped has its loop below it, unless an exception has left it. -/
private theorem between_moves {t : Thread} {a : Action} {c : Config} (inv : ProcessInv p)
    (owned : p.world.status ≠ .stopped → ∃ i, Between p i) (thread : p.threads[i]? = some t)
    (own : isOwn a = true) (move : Step (p.config i t) a c)
    (normal : ¬ RaisesOut (p.config i t) a) (moving : c.world.status ≠ .stopped) :
    ∃ j, Between (p.put i c) j := by
  have loop := inv.loop i t thread
  by_cases stopped : p.world.status = .stopped
  · cases owner_step move with
    | same same => exact absurd (same.status.trans stopped) moving
    | starts _ _ world ctl =>
      have bound := (List.getElem?_eq_some_iff.mp thread).1
      refine ⟨i, .runs c.ctl c.callers, List.getElem?_set_self bound, ?_⟩
      rw [Thread.ctl, ctl]
      trivial
    | releases ctl calls running =>
      have running : p.world.status = .running := running
      rw [stopped] at running
      cases running
    | ends ctl handles reqs after => exact absurd after.status moving
    | threadEnds kept after => cases own
    | forks after => cases own
  · obtain ⟨j, between⟩ := owned stopped
    refine ⟨j, between_set thread between ?_⟩
    rintro rfl inside
    by_contra outside
    rcases outside_step loop move outside with ⟨out, -⟩ | ends | raises
    · exact out inside
    · exact moving ends
    · exact normal raises

private theorem procsOf_append (i : Nat) (l l' : List (Nat × Nat)) :
    procsOf i (l ++ l') = procsOf i l ++ procsOf i l' := List.filterMap_append

private theorem waiting_set {t u : Thread} {w : World} (thread : p.threads[i]? = some t)
    (j : Nat) : waitingProc ⟨w, p.threads.set i u⟩ j =
      if j = i then u.waiting.toList else waitingProc p j := by
  unfold waitingProc
  by_cases same : j = i
  · subst same
    have bound := (List.getElem?_eq_some_iff.mp thread).1
    rw [if_pos rfl, List.getElem?_set_self bound]
    rfl
  · rw [if_neg same, List.getElem?_set_ne (Ne.symm same)]

private theorem waiting_at {t : Thread} (thread : p.threads[i]? = some t) :
    waitingProc p i = t.waiting.toList := by
  rw [waitingProc, thread]
  rfl

private theorem waiting_same {t u : Thread} {w : World} (thread : p.threads[i]? = some t)
    (same : u.waiting = t.waiting) (j : Nat) :
    waitingProc ⟨w, p.threads.set i u⟩ j = waitingProc p j := by
  rw [waiting_set thread j]
  split
  · rename_i own
    subst own
    rw [waiting_at thread, same]
  · rfl

private theorem waiting_spawns (j : Nat) :
    waitingProc { p with threads := p.threads ++ [.runs (.code .outside []) []] } j =
      waitingProc p j := by
  unfold waitingProc
  dsimp only
  by_cases old : j < p.threads.length
  · rw [List.getElem?_append_left old]
  · have young : p.threads.length ≤ j := Nat.le_of_not_lt old
    rw [List.getElem?_append_right young, List.getElem?_eq_none young]
    cases j - p.threads.length with
    | zero => rfl
    | succ n => rfl

private theorem answer_queues {w : World} (i proc : Nat) (e : Event) (vars : VarsInv w)
    (running : w.status = .running) (here : w.pid = w.getpid) :
    answerOf w i proc ((runWhileRunning { w with currentThread := i } proc).1.push e) =
      some .queues := by
  obtain ⟨idle, async, -⟩ := vars.running running
  obtain ⟨active, idle⟩ := Option.isSome_iff_exists.mp idle
  obtain ⟨sent, async⟩ := Option.isSome_iff_exists.mp async
  unfold runWhileRunning
  rw [if_neg (by simp [here])]
  unfold answerOf
  split
  · simp [Procs.pushNextTick, idle, World.push, running]
  · simp [Procs.pushCallFromOtherThread, async, World.push, running]

private theorem answer_starts {w : World} {proc : Nat} {uv : UvAnswers}
    (stopped : w.status = .stopped) (empty : w.nextTickProcs = [])
    (empty' : w.callFromOtherThreadProcs = [])
    (live : (startLoop { w with currentThread := i } proc uv).fault = none) :
    answerOf w i proc (startLoop { w with currentThread := i } proc uv) = some .starts := by
  rcases startLoop_cases { w with currentThread := i } proc uv with aborts | ⟨fault, runs⟩
  · rw [aborts] at live
    cases live
  · rw [runs]
    unfold answerOf
    exact if_pos ⟨stopped, rfl, rfl, by simp [startedLoop, Procs.pushNextTick, empty], empty'⟩

theorem between_step (inv : ProcessInv p)
    (owned : p.world.status ≠ .stopped → ∃ i, Between p i)
    (h : process.step p (i, action) = some p') (normal : ¬ LeavesByRaise p (i, action))
    (moving : p'.world.status ≠ .stopped) : ∃ j, Between p' j := by
  obtain ⟨-, move⟩ := threadStep_inv h
  cases move with
  | does thread own move =>
    have normal := fun raises => normal ⟨_, thread, raises⟩
    exact between_moves inv owned thread own (step_inv move).2 normal moving
  | waits thread accepted mutex other idle =>
    obtain ⟨j, between⟩ := owned moving
    exact ⟨j, between_set thread between fun _ inside => inside⟩
  | locks thread free =>
    exact between_moves inv owned thread rfl (afterLock_step rfl free) id moving
  | spawns =>
    obtain ⟨j, t, at_j, inside⟩ := owned moving
    have bound := (List.getElem?_eq_some_iff.mp at_j).1
    exact ⟨j, t, (List.getElem?_append_left bound).trans at_j, inside⟩
  | ends thread =>
    obtain ⟨j, between⟩ := owned moving
    exact ⟨j, between_set thread between fun _ inside => absurd rfl inside⟩

private theorem idle_step (inv : RunsInv p g) (h : process.step p (i, action) = some p')
    (idle : p'.world.status ≠ .running) :
    p'.world.nextTickProcs = [] ∧ p'.world.callFromOtherThreadProcs = [] := by
  obtain ⟨-, move⟩ := threadStep_inv h
  cases move with
  | does thread own move =>
    have loop := inv.process.loop i _ thread
    have vars := inv.process.vars.onThread i
    have next := idle_move (queue_step false ⟨loop, vars⟩ move)
      (fun idle => (inv.idle idle).1) idle
    have other := idle_move (queue_step true ⟨loop, vars⟩ move)
      (fun idle => (inv.idle idle).2) idle
    exact ⟨next, other⟩
  | waits thread accepted mutex other busy => exact inv.idle idle
  | @locks base stack callers args uv proc thread free =>
    have stopped := inv.stopped free
    have started : afterLock (p.config i (.locking base stack callers args uv proc)) base stack
        args uv proc = ⟨startLoop { p.world with currentThread := i } proc uv, .entering,
          (base, stack) :: callers⟩ := by
      unfold afterLock Process.config
      rw [stopped]
      rfl
    rw [started] at idle ⊢
    have before := inv.idle (by simp [stopped])
    unfold Process.put at idle ⊢
    rcases startLoop_cases { p.world with currentThread := i } proc uv with
      aborts | ⟨fault, runs⟩
    · rw [aborts]
      exact before
    · rw [runs] at idle
      exact absurd rfl idle
  | spawns => exact inv.idle idle
  | ends thread => exact inv.idle idle

private theorem found_step {a : Nat × ThreadAction} (inv : RunsInv p g)
    (h : process.step p a = some p') (gets : obtains p a = true) : p.world.status = .stopped := by
  obtain ⟨i, action⟩ := a
  obtain ⟨-, move⟩ := threadStep_inv h
  have free : p.world.mutex = none := by
    cases move with
    | locks thread free => exact free
    | does thread own move =>
      unfold obtains at gets
      simp only [Bool.and_eq_true] at gets
      exact Option.isNone_iff_eq_none.mp gets.2
    | waits thread accepted mutex other idle =>
      unfold obtains at gets
      simp only [Bool.and_eq_true] at gets
      exact Option.isNone_iff_eq_none.mp gets.2
    | spawns => cases gets
    | ends thread => cases gets
  exact inv.stopped free

private theorem run_answered {ctl : Ctl} {callers : List (Base × List Frame)} {args : Args}
    {uv : UvAnswers} {proc : Nat} {c : Config} (inv : RunsInv p g)
    (accepted : runArgs args = .ok proc)
    (move : engine.step (p.config i (.runs ctl callers)) (.call (.run args uv)) = some c)
    (lawful : ¬ RunsInRelease p (i, .does (.call (.run args uv)))) (after : c.world.fault = none) :
    (answerOf p.world i proc c.world).isSome = true := by
  obtain ⟨base, stack, code, runs⟩ := run_inv move
  cases runs with
  | refuses refused =>
    rw [accepted] at refused
    cases refused
  | @queues proc' w result accepted' running runs =>
    obtain rfl := Except.ok.inj (accepted.symm.trans accepted')
    have running : p.world.status = .running := running
    have here := inv.process.pid (by simp [running])
    have queues := answer_queues i proc (.returned (.run args uv) (.value .true))
      inv.process.vars running here
    have value : (runWhileRunning (p.config i (.runs ctl callers)).world proc).2 =
        .value .true := by
      unfold runWhileRunning
      rw [if_neg (by simp [Process.config, here])]
      split
      · rfl
      · rfl
    rw [runs] at value
    obtain rfl := Outcome.ends.inj value
    have world : (runWhileRunning { p.world with currentThread := i } proc).1 = w :=
      congrArg Prod.fst runs
    rw [world] at queues
    exact Option.isSome_iff_exists.mpr ⟨_, queues⟩
  | deadlocks accepted' idle held =>
    have once := locksOnce_sound inv.process lawful
    exact absurd held ((once proc accepted).1 idle)
  | skips accepted' releasing free =>
    have releasing : p.world.status = .releasing := releasing
    rw [inv.stopped free] at releasing
    cases releasing
  | @starts proc' accepted' stopped free =>
    obtain rfl := Except.ok.inj (accepted.symm.trans accepted')
    have stopped : p.world.status = .stopped := stopped
    obtain ⟨empty, empty'⟩ := inv.idle (by simp [stopped])
    exact Option.isSome_iff_exists.mpr ⟨_, answer_starts stopped empty empty' after⟩

private theorem answer_same (w : World) (proc : Nat) : answerOf w i proc w = none := by
  unfold answerOf
  split
  · rename_i starts
    have running := starts.2.1
    rw [starts.1] at running
    cases running
  · split
    · rename_i queues
      rcases queues.2.2 with ⟨pushed, -⟩ | ⟨-, pushed⟩
      · exact absurd pushed (by simp)
      · exact absurd pushed (by simp)
    · rfl

private theorem procsOf_one (i j proc : Nat) :
    procsOf j [(i, proc)] = if i = j then [proc] else [] := by
  by_cases same : i = j
  · simp [procsOf, same]
  · simp [procsOf, same]

private theorem runOf_does (action : Action) :
    runOf p (i, .does action) = callOf (i, .does action) := rfl

private theorem answers_none {a : Nat × ThreadAction} (none : runOf p a = none) :
    answers p a p' = [] := by
  rw [answers, none]
  rfl

private theorem answers_some {a : Nat × ThreadAction} {proc : Nat}
    (goes : runOf p a = some (i, proc))
    (answered : (answerOf p.world i proc p'.world).isSome = true) :
    answers p a p' = [(i, proc)] := by
  rw [answers, goes]
  exact List.filter_cons_of_pos answered

private theorem answers_waits {a : Nat × ThreadAction} {proc : Nat}
    (goes : runOf p a = some (i, proc)) (same : p'.world = p.world) : answers p a p' = [] := by
  rw [answers, goes, same]
  refine List.filter_cons_of_neg ?_
  rw [answer_same]
  simp

private theorem answered_step (inv : RunsInv p g) (h : process.step p (i, action) = some p')
    (lawful : ¬ RunsInRelease p (i, action)) (after : p'.world.fault = none) (j : Nat) :
    procsOf j (g.note p (i, action) p').calls =
      procsOf j (g.note p (i, action) p').answered ++ waitingProc p' j := by
  obtain ⟨live, move⟩ := threadStep_inv h
  have law := inv.answered live j
  -- Each step is an equation between what it adds and how the thread waits before and after it.
  have settles (balance : waitingProc p j ++ procsOf j (callOf (i, action)).toList =
      procsOf j (answers p (i, action) p') ++ waitingProc p' j) :
      procsOf j (g.calls ++ (callOf (i, action)).toList) =
        procsOf j (g.answered ++ answers p (i, action) p') ++ waitingProc p' j := by
    rw [procsOf_append, procsOf_append, law, List.append_assoc, balance, List.append_assoc]
  refine settles ?_
  cases move with
  | @does ctl callers action c thread own move =>
    rw [Process.put, waiting_same (u := .runs c.ctl c.callers) thread rfl]
    cases called : callOf (i, .does action) with
    | none =>
      rw [answers_none ((runOf_does _).trans called)]
      exact List.append_nil _
    | some run =>
      obtain ⟨k, proc⟩ := run
      obtain ⟨args, uv, call, accepted⟩ := callOf_inv called
      obtain ⟨rfl, run⟩ := Prod.mk.inj call
      obtain rfl := ThreadAction.does.inj run
      have answered := run_answered inv accepted move lawful after
      have idle : waitingProc p i = [] := waiting_at thread
      rw [answers_some ((runOf_does _).trans called) answered,
        Option.toList_some, procsOf_one]
      split
      · rename_i same
        subst same
        rw [idle]
        rfl
      · exact List.append_nil _
  | @waits base stack callers args uv proc owner thread accepted mutex other idle =>
    have called := callOf_run i uv accepted
    have unanswered : answers p (i, .does (.call (.run args uv)))
        ⟨p.world, p.threads.set i (.locking base stack callers args uv proc)⟩ = [] :=
      answers_waits ((runOf_does _).trans called) rfl
    rw [unanswered, called, Option.toList_some, procsOf_one, waiting_set thread j]
    by_cases same : i = j
    · subst same
      rw [waiting_at thread, if_pos rfl, if_pos rfl]
      rfl
    · rw [if_neg same, if_neg (Ne.symm same), List.append_nil]
      rfl
  | @locks base stack callers args uv proc thread free =>
    have stopped := inv.stopped free
    obtain ⟨empty, empty'⟩ := inv.idle (by simp [stopped])
    have world : (afterLock (p.config i (.locking base stack callers args uv proc)) base stack
        args uv proc).world = startLoop { p.world with currentThread := i } proc uv := by
      unfold afterLock Process.config
      rw [stopped]
    have goes : runOf p (i, .locks) = some (i, proc) := by
      simp only [runOf, thread]
      rfl
    have live' : (startLoop { p.world with currentThread := i } proc uv).fault = none :=
      world ▸ after
    have answered : (answerOf p.world i proc (p.put i (afterLock
        (p.config i (.locking base stack callers args uv proc)) base stack args uv
          proc)).world).isSome = true := by
      rw [Process.put, world]
      exact Option.isSome_iff_exists.mpr ⟨_, answer_starts stopped empty empty' live'⟩
    rw [answers_some goes answered, procsOf_one, Process.put, waiting_set thread j]
    by_cases same : i = j
    · subst same
      rw [waiting_at thread, if_pos rfl, if_pos rfl]
      rfl
    · rw [if_neg same, if_neg (Ne.symm same)]
      exact List.append_nil _
  | spawns =>
    rw [waiting_spawns, answers_none rfl]
    exact List.append_nil _
  | ends thread =>
    rw [answers_none rfl, waiting_same (u := .ended) thread rfl]
    exact List.append_nil _

private theorem runsInv_step {q r : Process × Runs} {a : Nat × ThreadAction}
    (inv : RunsInv q.1 q.2) (h : recorded.step q a = some r)
    (lawful : ¬ LeavesByRaise q.1 a ∧ ¬ RunsInRelease q.1 a) : RunsInv r.1 r.2 := by
  obtain ⟨step, noted⟩ := annotate_step h
  obtain ⟨i, action⟩ := a
  refine ⟨processInv_step inv.process step,
    between_step inv.process inv.between step lawful.1, idle_step inv step,
    ?_, ?_⟩
  · intro s here
    rw [noted] at here
    rcases List.mem_append.mp here with old | new
    · exact inv.found s old
    · split at new
      · rename_i gets
        obtain rfl := List.mem_singleton.mp new
        exact found_step inv step gets
      · cases new
  · intro after j
    rw [noted]
    exact answered_step inv step lawful.2 after j

/-- `AE.run` and `AE.stop` are safe for threads, as long as no exception goes through `AE.run`
and the thread of the loop does not call it while the loop is released. -/
theorem run_and_stop_are_thread_safe {l : List ((Process × Runs) × (Nat × ThreadAction))}
    {q : Process × Runs} (path : Path recorded l q)
    (lawful : Each (fun q a => ¬ LeavesByRaise q.1 a ∧ ¬ RunsInRelease q.1 a) l) :
    ThreadSafe q.1 q.2 := by
  have start : RunsInv recorded.init.1 recorded.init.2 := by
    refine ⟨processInv_init, fun moving => absurd rfl moving, fun _ => ⟨rfl, rfl⟩, ?_, ?_⟩
    · intro s here
      cases here
    · intro _ i
      cases i with
      | zero => rfl
      | succ n => rfl
  have inv := path.guarded (I := fun q => RunsInv q.1 q.2) start runsInv_step lawful
  exact ⟨inv.process.alone, inv.holds, inv.found, inv.answered⟩

/-- Checks that a step is lawful for `run_and_stop_are_thread_safe`. -/
def lawful (p : Process) : Nat × ThreadAction → Bool
  | (i, .does .proceed) =>
    match p.threads[i]? with
    | some (.runs (.back (.raised _) (.ints _) []) _) => false
    | _ => true
  | (i, .does (.call (.run _ _))) =>
    decide (¬ (p.world.status = .releasing ∧ p.world.thread = some i))
  | _ => true

theorem lawful_sound {a : Nat × ThreadAction} (passed : lawful p a = true) :
    ¬ LeavesByRaise p a ∧ ¬ RunsInRelease p a := by
  constructor
  · intro leaves
    obtain ⟨i, action⟩ := a
    cases action with
    | does action =>
      obtain ⟨t, at_i, raises⟩ := leaves
      cases action with
      | proceed =>
        obtain ⟨error, entering, ctl⟩ := raises
        cases t with
        | runs ctl' callers =>
          obtain rfl : ctl' = .back (.raised error) (.ints entering) [] := ctl
          simp [lawful, at_i] at passed
        | locking => cases ctl
        | ended => cases ctl
      | _ => exact raises
    | _ => exact leaves
  · rintro ⟨i, proc, called, releasing, thread⟩
    obtain ⟨args, uv, rfl, -⟩ := callOf_inv called
    exact of_decide_eq_true passed ⟨releasing, thread⟩

/-- A second thread gives its proc to the loop of the first, and then waits for the loop's end to
run one of its own. -/
theorem run_and_stop_are_thread_safe_waiting : ∃ l q, Path recorded l q ∧
    q.2.calls = [(1, 7), (2, 8), (2, 9)] ∧ q.1.world.thread = some 2 ∧
    ThreadSafe q.1 q.2 := by
  have reached : ((recorded.only fun q a => lawful q.1 a).exec ([(0, .spawns), (0, .spawns),
      (1, .does (.call (.run ⟨[], some 7⟩ {}))), (1, .does .proceed), (1, .does (.event .idle)),
      (1, .does .proceed), (2, .does (.call (.run ⟨[], some 8⟩ {}))), (1, .does (.call .stop)),
      (1, .does .finish), (1, .does .proceed), (1, .does .proceed), (1, .does .proceed),
      (1, .does .proceed), (1, .does (.event .idle)), (1, .does .proceed), (1, .does .proceed),
      (1, .does .proceed), (1, .does .proceed), (1, .does .proceed), (1, .does .proceed),
      (2, .does (.call (.run ⟨[], some 9⟩ {}))), (1, .does .uvReturn), (1, .does .proceed),
      (1, .does .proceed), (2, .locks)])).any (fun q =>
        decide (q.2.calls = [(1, 7), (2, 8), (2, 9)] ∧ q.1.world.thread = some 2)) = true := by
    decide +kernel
  obtain ⟨l, q, path, state⟩ := exists_path_of_exec _ _ _ reached
  obtain ⟨calls, thread⟩ := of_decide_eq_true state
  obtain ⟨path, passed⟩ := path_of_only path
  exact ⟨l, q, path, calls, thread,
    run_and_stop_are_thread_safe path fun step here => lawful_sound (passed step here)⟩

end Safety

end AsyncEngine.Engine.Threads
