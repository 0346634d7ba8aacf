/- The loop: who called `AE.run`, what waits for the end of user code, and what the global
   variables of the extension are meanwhile. -/

import AsyncEngine.Engine.Steps

set_option autoImplicit false
set_option relaxedAutoImplicit false

namespace AsyncEngine.Engine.Loop

open AsyncEngine.Lib.Run
open AsyncEngine.Engine.Ruby
open AsyncEngine.Engine.State
open AsyncEngine.Engine.Machine
open AsyncEngine.Engine.Effects
open AsyncEngine.Engine.Steps

/-- The thread is in `rb_thread_call_without_gvl`, or in code that was called from there. -/
def Inside : Ctl → Prop
  | .code base _ => base ≠ .outside
  | .back _ base _ => base ≠ .outside
  | _ => True

def stackOf : Ctl → List Frame
  | .code _ stack => stack
  | .back _ _ stack => stack
  | _ => []

/-- Frames that can wait outside of the loop. -/
def Outer : Frame → Prop
  | .closing _ => True
  | .onExit _ _ => True
  | _ => False

/-- Frames that can wait inside the loop. -/
def Inner : Frame → Prop
  | .onExit _ _ => False
  | _ => True

/-- `ae_release_loop` waits for the end of a `destroy`. -/
def Draining (stack : List Frame) : Prop := ∃ keys, .release keys ∈ stack

/-- There is one loop at most, and the code around it has its own frames. -/
structure LoopInv (c : Config) : Prop where
  alone : ¬ Inside c.ctl → c.callers = [] ∧ ∀ f ∈ stackOf c.ctl, Outer f
  inside : Inside c.ctl →
    (∃ stack, c.callers = [(.outside, stack)] ∧ ∀ f ∈ stack, Outer f) ∧
      ∀ f ∈ stackOf c.ctl, Inner f
  busy : Inside c.ctl → c.world.fault = none → c.world.status ≠ .stopped
  draining : Draining (stackOf c.ctl) → c.world.status = .releasing

/-- The variables of the loop as `Init` leaves them. -/
structure Reset (w : World) : Prop where
  status : w.status = .stopped
  uvLoop : w.uvLoop = false
  thread : w.thread = none
  pid : w.pid = -1
  exitError : w.exitError = none
  idle : w.nextTickUvIdle = none
  async : w.callFromOtherThreadUvAsync = none
  ubf : w.ubfUvAsync = none
  mutex : w.mutex = none

/-- Before the loop is started and after it has ended, its variables are reset; while it runs,
the internal handles are there; while it is released, the queues are empty. -/
structure VarsInv (w : World) : Prop where
  stopped : w.status = .stopped → Reset w
  running : w.status = .running → w.nextTickUvIdle.isSome = true ∧
    w.callFromOtherThreadUvAsync.isSome = true ∧ w.ubfUvAsync.isSome = true
  releasing : w.status = .releasing → w.nextTickProcs = [] ∧ w.callFromOtherThreadProcs = []

section Step

variable {c c' : Config} {a : Action}

theorem outer_not_fatal {f : Frame} (outer : Outer f) (calls : fatal f) : False := by
  cases f with
  | closing n => exact calls
  | onExit procs error => exact calls
  | protect => exact outer
  | batch o procs => exact outer
  | handleError => exact outer
  | release keys => exact outer
  | destroying n => exact outer

/-- User code runs, or has ended, on these frames. -/
def At (ctl : Ctl) (base : Base) (stack : List Frame) : Prop :=
  ctl = .code base stack ∨ ∃ result, ctl = .back result base stack

theorem At.inside {ctl : Ctl} {base : Base} {stack : List Frame} (h : At ctl base stack) :
    Inside ctl ↔ base ≠ .outside := by
  rcases h with rfl | ⟨result, rfl⟩
  · exact Iff.rfl
  · exact Iff.rfl

private theorem At.stack {ctl : Ctl} {base : Base} {stack : List Frame} (h : At ctl base stack) :
    stackOf ctl = stack := by
  rcases h with rfl | ⟨result, rfl⟩
  · rfl
  · rfl

/-- The status stays, or the loop begins to be released. -/
def StatusMove (w w' : World) : Prop :=
  w'.status = w.status ∨ (w.status = .running ∧ w'.status = .releasing)

private theorem StatusMove.stopped {w w' : World} (h : StatusMove w w')
    (stopped : w'.status = .stopped) : w.status = .stopped := by
  rcases h with same | ⟨-, releasing⟩
  · exact same.symm.trans stopped
  · rw [stopped] at releasing
    cases releasing

private theorem StatusMove.releasing {w w' : World} (h : StatusMove w w')
    (releasing : w.status = .releasing) : w'.status = .releasing := by
  rcases h with same | ⟨running, -⟩
  · exact same.trans releasing
  · rw [releasing] at running
    cases running

theorem LoopInv.inside_of {result : Return} {base : Base} {f : Frame} {stack : List Frame}
    (inv : LoopInv c) (ctl : c.ctl = .back result base (f :: stack)) (inner : ¬ Outer f) :
    Inside c.ctl := by
  by_contra outside
  have outer := (inv.alone outside).2 f
  rw [ctl] at outer
  exact inner (outer (.head _))

private theorem LoopInv.move {base : Base} {stack stack' : List Frame} (inv : LoopInv c)
    (live : c.world.fault = none) (before : At c.ctl base stack) (after : At c'.ctl base stack')
    (callers : c'.callers = c.callers) (status : StatusMove c.world c'.world)
    (outer : (∀ f ∈ stack, Outer f) → ∀ f ∈ stack', Outer f)
    (inner : (∀ f ∈ stack, Inner f) → ∀ f ∈ stack', Inner f)
    (drains : Draining stack' → Draining stack ∨ c'.world.status = .releasing) : LoopInv c' := by
  refine ⟨?_, ?_, ?_, ?_⟩
  · intro outside
    have old := inv.alone fun inside => outside (after.inside.mpr (before.inside.mp inside))
    rw [before.stack] at old
    rw [callers, after.stack]
    exact ⟨old.1, outer old.2⟩
  · intro inside
    have old := inv.inside (before.inside.mpr (after.inside.mp inside))
    rw [before.stack] at old
    rw [callers, after.stack]
    exact ⟨old.1, inner old.2⟩
  · intro inside _ stopped
    exact inv.busy (before.inside.mpr (after.inside.mp inside)) live (status.stopped stopped)
  · intro draining
    rw [after.stack] at draining
    rcases drains draining with old | new
    · exact status.releasing (inv.draining (before.stack ▸ old))
    · exact new

private theorem LoopInv.within (inv : LoopInv c) (live : c.world.fault = none)
    (before : Inside c.ctl) (after : Inside c'.ctl) (callers : c'.callers = c.callers)
    (status : c'.world.status = c.world.status)
    (inner : ∀ f ∈ stackOf c'.ctl, Inner f ∧ ∀ keys, f ≠ .release keys) : LoopInv c' := by
  refine ⟨fun outside => absurd after outside, fun _ => ⟨?_, fun f here => (inner f here).1⟩,
    ?_, ?_⟩
  · rw [callers]
    exact (inv.inside before).1
  · intro _ _ stopped
    exact inv.busy before live (status ▸ stopped)
  · intro draining
    obtain ⟨keys, here⟩ := draining
    exact absurd rfl ((inner _ here).2 keys)

private theorem LoopInv.same (inv : LoopInv c) (live : c.world.fault = none)
    (ctl : c'.ctl = c.ctl) (callers : c'.callers = c.callers)
    (status : c'.world.status = c.world.status) : LoopInv c' := by
  refine ⟨?_, ?_, ?_, ?_⟩
  · rw [ctl, callers]
    exact inv.alone
  · rw [ctl, callers]
    exact inv.inside
  · rw [ctl, status]
    intro inside _
    exact inv.busy inside live
  · rw [ctl, status]
    exact inv.draining

private theorem LoopInv.leave {base : Base} {stack stack' : List Frame}
    {callers : List (Base × List Frame)} (inv : LoopInv c) (inside : Inside c.ctl)
    (caller : c.callers = (base, stack) :: callers) (after : At c'.ctl base stack')
    (callers' : c'.callers = callers)
    (outer : (∀ f ∈ stack, Outer f) → ∀ f ∈ stack', Outer f) : LoopInv c' := by
  obtain ⟨⟨old, only, own⟩, -⟩ := inv.inside inside
  rw [caller] at only
  obtain ⟨head, none⟩ := List.cons.inj only
  obtain ⟨rfl, rfl⟩ := Prod.mk.inj head
  have outside : ¬ Inside c'.ctl := fun here => after.inside.mp here rfl
  refine ⟨fun _ => ⟨callers'.trans none, ?_⟩, fun here => absurd here outside,
    fun here => absurd here outside, ?_⟩
  · rw [after.stack]
    exact outer own
  · intro draining
    obtain ⟨keys, here⟩ := draining
    rw [after.stack] at here
    exact (outer own _ here).elim

private theorem startLoop_status {w : World} {proc : Nat} {uv : UvAnswers}
    (live : (startLoop w proc uv).fault = none) : (startLoop w proc uv).status = .running := by
  rcases startLoop_cases w proc uv with aborts | ⟨fault, runs⟩
  · rw [aborts] at live
    cases live
  · rw [runs]
    rfl

private theorem forall_tail {P : Frame → Prop} {f : Frame} {stack : List Frame}
    (all : ∀ g ∈ f :: stack, P g) : ∀ g ∈ stack, P g :=
  fun g here => all g (.tail _ here)

private theorem forall_cons {P : Frame → Prop} {f : Frame} {stack : List Frame} (head : P f)
    (all : ∀ g ∈ stack, P g) : ∀ g ∈ f :: stack, P g := by
  intro g here
  rcases List.mem_cons.mp here with rfl | here
  · exact head
  · exact all g here

private theorem inner_below {stack below : List Frame} (on : ReleaseStack stack below)
    (all : ∀ g ∈ stack, Inner g) : ∀ g ∈ below, Inner g := by
  rcases on with rfl | ⟨o, procs, rfl⟩
  · exact all
  · exact forall_cons trivial (forall_cons trivial all)

theorem not_draining (empty : stackOf c.ctl = []) : ¬ Draining (stackOf c.ctl) := by
  rintro ⟨keys, here⟩
  rw [empty] at here
  cases here

theorem running_of_busy {s : AeStatus} (busy : s ≠ .stopped) (kept : s ≠ .releasing) :
    s = .running := by
  cases s with
  | running => rfl
  | releasing => exact absurd rfl kept
  | stopped => exact absurd rfl busy

theorem draining_tail {f : Frame} {stack : List Frame} (h : Draining stack) :
    Draining (f :: stack) := by
  obtain ⟨keys, here⟩ := h
  exact ⟨keys, .tail _ here⟩

theorem draining_cons {f : Frame} {stack : List Frame} (h : Draining (f :: stack))
    (other : ∀ keys, f ≠ .release keys) : Draining stack := by
  obtain ⟨keys, here⟩ := h
  rcases List.mem_cons.mp here with same | here
  · exact absurd same.symm (other keys)
  · exact ⟨keys, here⟩

theorem draining_below {stack below : List Frame} (on : ReleaseStack stack below)
    (h : Draining below) : Draining stack := by
  rcases on with rfl | ⟨o, procs, rfl⟩
  · exact h
  · exact draining_cons (draining_cons h (by simp)) (by simp)

theorem loopInv_step (inv : LoopInv c) (live : c.world.fault = none) (h : Step c a c') :
    LoopInv c' := by
  cases h with
  | other frame => exact inv.same live rfl rfl (sameLoop_queue frame).status
  | call ctl method =>
    have status := (sameLoop_of_frame (dispatch_frame method)).status
    exact inv.move live (.inl ctl) (.inl rfl) rfl (.inl status) id id .inl
  | close ctl socket opened connected method =>
    exact inv.move live (.inl ctl) (.inl rfl) rfl (.inl rfl) (forall_cons trivial)
      (forall_cons trivial) fun h => .inl (draining_cons h (by simp))
  | runReturns ctl frame =>
    have status := (sameLoop_queue frame).status
    exact inv.move live (.inl ctl) (.inl rfl) rfl (.inl status) id id .inl
  | @runStarts base stack args uv proc ctl stopped free =>
    have outside : ¬ Inside c.ctl := fun inside => inv.busy inside live stopped
    obtain ⟨alone, outer⟩ := inv.alone outside
    rw [ctl] at outside outer
    have base_eq : base = .outside := not_not.mp outside
    subst base_eq
    refine ⟨fun here => absurd trivial here, fun _ => ⟨⟨stack, ?_, outer⟩, ?_⟩, ?_, ?_⟩
    · rw [alone]
    · intro f here
      cases here
    · intro _ ok stopped
      rw [startLoop_status ok] at stopped
      cases stopped
    · intro draining
      obtain ⟨keys, here⟩ := draining
      cases here
  | codeEnds ctl can =>
    exact inv.move live (.inl ctl) (.inr ⟨_, rfl⟩) rfl (.inl rfl) id id .inl
  | threadEnds ctl alone kept => exact inv.same live rfl rfl rfl
  | fork => exact inv.same live rfl rfl rfl
  | pops ctl quiet =>
    exact inv.move live (.inr ⟨_, ctl⟩) (.inr ⟨_, rfl⟩) rfl (.inl rfl) forall_tail forall_tail
      fun h => .inl (draining_tail h)
  | handles ctl not_releasing =>
    exact inv.move live (.inr ⟨_, ctl⟩) (.inl rfl) rfl (.inl rfl)
      (fun all => (all _ (.head _)).elim) (fun all => forall_cons trivial (forall_tail all))
      fun h => .inl (draining_tail (draining_cons h (by simp)))
  | releases ctl calls running on =>
    exact inv.move live (.inr ⟨_, ctl⟩) (.inr ⟨_, rfl⟩) rfl (.inr ⟨running, rfl⟩)
      (fun all => (outer_not_fatal (all _ (.head _)) calls).elim)
      (fun all => forall_cons trivial (inner_below on (forall_tail all))) fun _ => .inr rfl
  | releasesNot ctl calls on =>
    exact inv.move live (.inr ⟨_, ctl⟩) (.inr ⟨_, rfl⟩) rfl (.inl rfl)
      (fun all => (outer_not_fatal (all _ (.head _)) calls).elim)
      (fun all => inner_below on (forall_tail all))
      fun h => .inl (draining_tail (draining_below on h))
  | tick ctl running =>
    exact inv.move live (.inr ⟨_, ctl⟩) (.inl rfl) rfl (.inl rfl)
      (fun all => (all _ (.head _)).elim)
      (fun all => forall_cons trivial (forall_cons trivial (forall_tail all)))
      fun h => .inl (draining_tail (draining_cons (draining_cons h (by simp)) (by simp)))
  | skipsKey ctl deleted =>
    exact inv.move live (.inr ⟨_, ctl⟩) (.inr ⟨_, rfl⟩) rfl (.inl rfl)
      (fun all => (all _ (.head _)).elim) (fun all => forall_cons trivial (forall_tail all))
      fun _ => .inl ⟨_, .head _⟩
  | @destroys _ _ _ key _ _ w ctl stored method =>
    have frame := fileFrame_quiet (destroyHandle_frame c.world key)
    rw [method] at frame
    exact inv.move live (.inr ⟨_, ctl⟩) (.inr ⟨_, rfl⟩) rfl
      (.inl (sameLoop_of_frame frame).status) (fun all => (all _ (.head _)).elim)
      (fun all => forall_cons trivial (forall_cons trivial (forall_tail all)))
      fun _ => .inl ⟨_, .head _⟩
  | disconnects ctl stored socket opened connected method =>
    exact inv.move live (.inr ⟨_, ctl⟩) (.inl rfl) rfl (.inl rfl)
      (fun all => (all _ (.head _)).elim)
      (fun all => forall_cons trivial (forall_cons trivial (forall_cons trivial
        (forall_tail all)))) fun _ => .inl ⟨_, .head _⟩
  | released ctl =>
    exact inv.move live (.inr ⟨_, ctl⟩) (.inr ⟨_, rfl⟩) rfl
      (.inl (closeInternalHandles_status _)) forall_tail forall_tail
      fun h => .inl (draining_tail h)
  | closeReturns ctl =>
    exact inv.move live (.inr ⟨_, ctl⟩) (.inl rfl) rfl (.inl rfl) forall_tail forall_tail
      fun h => .inl (draining_tail h)
  | exitProc ctl =>
    exact inv.move live (.inr ⟨_, ctl⟩) (.inl rfl) rfl (.inl rfl)
      (fun all => forall_cons trivial (forall_tail all)) (fun all => (all _ (.head _)).elim)
      fun h => .inl (draining_tail (draining_cons h (by simp)))
  | runEnds ctl =>
    exact inv.move live (.inr ⟨_, ctl⟩) (.inl rfl) rfl (.inl rfl) forall_tail forall_tail
      fun h => .inl (draining_tail h)
  | loops ctl =>
    have inside : Inside c.ctl := by simp [ctl, Inside]
    exact inv.within live inside trivial rfl rfl fun f here => by cases here
  | @intsReturn _ entering ctl =>
    have inside : Inside c.ctl := by simp [ctl, Inside]
    refine inv.within live inside ?_ rfl rfl ?_
    · cases entering <;> trivial
    · cases entering <;> exact fun f here => by cases here
  | intsRaise ctl caller =>
    have inside : Inside c.ctl := by simp [ctl, Inside]
    exact inv.leave inside caller (.inl rfl) rfl id
  | enters ctl =>
    have inside : Inside c.ctl := by simp [ctl, Inside]
    exact inv.within live inside trivial rfl rfl fun f here => by cases here
  | interrupts entering ctl =>
    have inside : Inside c.ctl := by cases entering <;> simp [ctl, Inside]
    exact inv.within live inside (by simp [Inside]) rfl rfl fun f here => by cases here
  | idleBatch ctl running active =>
    have inside : Inside c.ctl := by simp [ctl, Inside]
    refine inv.within live inside (by simp [Inside]) rfl rfl ?_
    simp [stackOf, Inner]
  | wakes ctl sent =>
    have inside : Inside c.ctl := by simp [ctl, Inside]
    exact inv.within live inside trivial rfl rfl fun f here => by cases here
  | asyncBatch ctl running =>
    have inside : Inside c.ctl := by simp [ctl, Inside]
    refine inv.within live inside (by simp [Inside]) rfl rfl ?_
    simp [stackOf, Inner]
  | uvQuiet ctl reported =>
    exact inv.same live rfl rfl (sameLoop_of_frame (reports_frame (uvCallback_inv reported))).status
  | uvCalls ctl reported =>
    have status := (sameLoop_of_frame (reports_frame (uvCallback_inv reported))).status
    have inside : Inside c.ctl := by simp [ctl, Inside]
    refine inv.within live inside (by simp [Inside]) rfl status ?_
    simp [stackOf, Inner]
  | uvReturns ctl handles reqs =>
    have inside : Inside c.ctl := by simp [ctl, Inside]
    exact inv.within live inside trivial rfl rfl fun f here => by cases here
  | loopEnds ctl caller handles reqs =>
    have inside : Inside c.ctl := by simp [ctl, Inside]
    rw [endLoop_eq handles reqs]
    exact inv.leave inside caller (.inr ⟨_, rfl⟩) rfl (forall_cons trivial)
  | aborts => exact inv.same live rfl rfl rfl

/-- The status of the loop and who runs it, in which process. -/
structure SameOwner (w w' : World) : Prop where
  status : w'.status = w.status
  thread : w'.thread = w.thread
  pid : w'.pid = w.pid
  mutex : w'.mutex = w.mutex
  getpid : w'.getpid = w.getpid

private theorem sameOwner_queue {w w' : World} (h : QueueFrame w w') : SameOwner w w' := by
  obtain ⟨_, _, _, _, _, _, _, rfl, -⟩ := h
  exact ⟨rfl, rfl, rfl, rfl, rfl⟩

private theorem sameOwner_of_frame {w w' : World} (h : FileFrame w w') : SameOwner w w' := by
  rcases h with (h | h | h | h) | h | h
  · obtain ⟨_, _, _, _, rfl, -⟩ := h
    exact ⟨rfl, rfl, rfl, rfl, rfl⟩
  · obtain ⟨_, _, _, _, _, rfl, -⟩ := h
    exact ⟨rfl, rfl, rfl, rfl, rfl⟩
  · exact sameOwner_queue h
  · obtain ⟨_, _, _, _, rfl, -⟩ := h
    exact ⟨rfl, rfl, rfl, rfl, rfl⟩
  · obtain ⟨_, _, _, _, _, _, rfl, -⟩ := h
    exact ⟨rfl, rfl, rfl, rfl, rfl⟩
  · obtain ⟨_, _, _, _, rfl, -⟩ := h
    exact ⟨rfl, rfl, rfl, rfl, rfl⟩

private theorem sameOwner_push {w w' : World} {e : Event} (same : SameOwner w w') :
    SameOwner w (w'.push e) :=
  ⟨same.status, same.thread, same.pid, same.mutex, same.getpid⟩

/-- How a step changes the loop's owner and status: `AE.run` starts a loop, `ae_release_loop`
begins, the loop ends, or a thread ends. -/
inductive OwnerStep (c c' : Config) : Action → Prop
  | same {a : Action} (same : SameOwner c.world c'.world)
      (inside : Inside c'.ctl → Inside c.ctl) : OwnerStep c c' a
  | starts {args : Args} {uv : UvAnswers} {proc : Nat} (stopped : c.world.status = .stopped)
      (free : c.world.mutex = none) (world : c'.world = startLoop c.world proc uv)
      (ctl : c'.ctl = .entering) : OwnerStep c c' (.call (.run args uv))
  | releases {result : Return} {base : Base} {frame : Frame} {stack : List Frame}
      (ctl : c.ctl = .back result base (frame :: stack)) (calls : fatal frame)
      (running : c.world.status = .running)
      (after : SameOwner { c.world with status := .releasing } c'.world) : OwnerStep c c' .proceed
  | ends (ctl : c.ctl = .leaving) (handles : noActiveHandles c.world = true)
      (reqs : noActiveReqs c.world = true) (after : SameOwner
        { c.world with status := .stopped, thread := none, pid := -1, mutex := none } c'.world) :
      OwnerStep c c' .proceed
  | threadEnds {mutex : Option Nat} (kept : mutex = none ∨ mutex = c.world.mutex)
      (after : SameOwner { c.world with mutex := mutex } c'.world) : OwnerStep c c' .threadEnds
  | forks {pid : Int} (after : SameOwner { c.world with getpid := pid } c'.world) :
      OwnerStep c c' (.fork pid)

theorem owner_step (h : Step c a c') : OwnerStep c c' a := by
  have moves {base : Base} {stack stack' : List Frame} (before : At c.ctl base stack)
      (after : At c'.ctl base stack') (same : SameOwner c.world c'.world) : OwnerStep c c' a :=
    .same same fun inside => before.inside.mpr (after.inside.mp inside)
  have within (inside : Inside c.ctl) (same : SameOwner c.world c'.world) : OwnerStep c c' a :=
    .same same fun _ => inside
  cases h with
  | other frame => exact .same (sameOwner_queue frame) id
  | call ctl method =>
    exact moves (.inl ctl) (.inl rfl) (sameOwner_push (sameOwner_of_frame (dispatch_frame method)))
  | close ctl socket opened connected method =>
    exact moves (.inl ctl) (.inl rfl) (sameOwner_push (sameOwner_of_frame (dispatch_frame method)))
  | runReturns ctl frame =>
    exact moves (.inl ctl) (.inl rfl) (sameOwner_push (sameOwner_queue frame))
  | runStarts ctl stopped free => exact .starts stopped free rfl rfl
  | codeEnds ctl can => exact moves (.inl ctl) (.inr ⟨_, rfl⟩) ⟨rfl, rfl, rfl, rfl, rfl⟩
  | threadEnds ctl alone kept => exact .threadEnds kept ⟨rfl, rfl, rfl, rfl, rfl⟩
  | fork => exact .forks ⟨rfl, rfl, rfl, rfl, rfl⟩
  | pops ctl quiet => exact moves (.inr ⟨_, ctl⟩) (.inr ⟨_, rfl⟩) ⟨rfl, rfl, rfl, rfl, rfl⟩
  | handles ctl not_releasing =>
    exact moves (.inr ⟨_, ctl⟩) (.inl rfl) ⟨rfl, rfl, rfl, rfl, rfl⟩
  | releases ctl calls running on => exact .releases ctl calls running ⟨rfl, rfl, rfl, rfl, rfl⟩
  | releasesNot ctl calls on =>
    exact moves (.inr ⟨_, ctl⟩) (.inr ⟨_, rfl⟩) ⟨rfl, rfl, rfl, rfl, rfl⟩
  | tick ctl running => exact moves (.inr ⟨_, ctl⟩) (.inl rfl) ⟨rfl, rfl, rfl, rfl, rfl⟩
  | skipsKey ctl deleted =>
    exact moves (.inr ⟨_, ctl⟩) (.inr ⟨_, rfl⟩) ⟨rfl, rfl, rfl, rfl, rfl⟩
  | @destroys _ _ _ key _ _ w ctl stored method =>
    have frame := fileFrame_quiet (destroyHandle_frame c.world key)
    rw [method] at frame
    exact moves (.inr ⟨_, ctl⟩) (.inr ⟨_, rfl⟩) (sameOwner_of_frame frame)
  | disconnects ctl stored socket opened connected method =>
    exact moves (.inr ⟨_, ctl⟩) (.inl rfl) ⟨rfl, rfl, rfl, rfl, rfl⟩
  | released ctl =>
    refine moves (.inr ⟨_, ctl⟩) (.inr ⟨_, rfl⟩) ?_
    rcases closeInternalHandles_cases c.world with aborts | closes
    · rw [aborts]
      exact ⟨rfl, rfl, rfl, rfl, rfl⟩
    · rw [closes]
      exact ⟨rfl, rfl, rfl, rfl, rfl⟩
  | closeReturns ctl => exact moves (.inr ⟨_, ctl⟩) (.inl rfl) ⟨rfl, rfl, rfl, rfl, rfl⟩
  | exitProc ctl => exact moves (.inr ⟨_, ctl⟩) (.inl rfl) ⟨rfl, rfl, rfl, rfl, rfl⟩
  | runEnds ctl => exact moves (.inr ⟨_, ctl⟩) (.inl rfl) ⟨rfl, rfl, rfl, rfl, rfl⟩
  | loops ctl => exact within (by simp [ctl, Inside]) ⟨rfl, rfl, rfl, rfl, rfl⟩
  | intsReturn ctl => exact within (by simp [ctl, Inside]) ⟨rfl, rfl, rfl, rfl, rfl⟩
  | intsRaise ctl caller => exact within (by simp [ctl, Inside]) ⟨rfl, rfl, rfl, rfl, rfl⟩
  | enters ctl => exact within (by simp [ctl, Inside]) ⟨rfl, rfl, rfl, rfl, rfl⟩
  | interrupts entering ctl =>
    refine within ?_ ⟨rfl, rfl, rfl, rfl, rfl⟩
    cases entering <;> simp [ctl, Inside]
  | idleBatch ctl running active =>
    exact within (by simp [ctl, Inside]) ⟨rfl, rfl, rfl, rfl, rfl⟩
  | wakes ctl sent => exact within (by simp [ctl, Inside]) ⟨rfl, rfl, rfl, rfl, rfl⟩
  | asyncBatch ctl running => exact within (by simp [ctl, Inside]) ⟨rfl, rfl, rfl, rfl, rfl⟩
  | uvQuiet ctl reported =>
    have frame := reports_frame (uvCallback_inv reported)
    exact within (by simp [ctl, Inside]) (sameOwner_of_frame frame)
  | uvCalls ctl reported =>
    have frame := reports_frame (uvCallback_inv reported)
    exact within (by simp [ctl, Inside]) (sameOwner_push (sameOwner_of_frame frame))
  | uvReturns ctl handles reqs =>
    exact within (by simp [ctl, Inside]) ⟨rfl, rfl, rfl, rfl, rfl⟩
  | loopEnds ctl caller handles reqs =>
    refine .ends ctl handles reqs ?_
    rw [endLoop_eq handles reqs]
    exact ⟨rfl, rfl, rfl, rfl, rfl⟩
  | aborts => exact .same ⟨rfl, rfl, rfl, rfl, rfl⟩ id

/-- How a step changes the status. -/
inductive StatusStep (c c' : Config) : Prop
  | same (status : c'.world.status = c.world.status)
  | starts (stopped : c.world.status = .stopped) (running : c'.world.status = .running)
  | releases (running : c.world.status = .running) (releasing : c'.world.status = .releasing)
  | ends (ctl : c.ctl = .leaving) (handles : noActiveHandles c.world = true)
      (reqs : noActiveReqs c.world = true) (stopped : c'.world.status = .stopped)

theorem status_step (h : Step c a c') : StatusStep c c' := by
  cases owner_step h with
  | same same inside => exact .same same.status
  | @starts args uv proc stopped free world ctl =>
    have started : (startLoop c.world proc uv).status = .running ∨
        (startLoop c.world proc uv).status = c.world.status := by
      rcases startLoop_cases c.world proc uv with aborts | ⟨fault, runs⟩
      · rw [aborts]
        exact .inr rfl
      · rw [runs]
        exact .inl rfl
    rw [← world] at started
    rcases started with running | same
    · exact .starts stopped running
    · exact .same same
  | releases ctl calls running after => exact .releases running after.status
  | ends ctl handles reqs after => exact .ends ctl handles reqs after.status
  | threadEnds kept after => exact .same after.status
  | forks after => exact .same after.status

section Vars

variable {w w' : World}

theorem sameLoop_push {e : Event} (same : SameLoop w w') : SameLoop w (w'.push e) :=
  ⟨same.status, same.uvLoop, same.thread, same.pid, same.mutex, same.exitError, same.idle,
    same.async, same.ubf, same.queues⟩

theorem none_of_isSome {α : Type} {o o' : Option α} (same : o'.isSome = o.isSome)
    (absent : o = none) : o' = none := by
  rw [absent] at same
  exact Option.isSome_eq_false_iff.mp same |> Option.isNone_iff_eq_none.mp

private theorem VarsInv.same (inv : VarsInv w) (same : SameLoop w w') : VarsInv w' := by
  refine ⟨?_, ?_, ?_⟩
  · intro stopped
    have reset := inv.stopped (same.status.symm.trans stopped)
    exact ⟨stopped, same.uvLoop.trans reset.uvLoop, same.thread.trans reset.thread,
      same.pid.trans reset.pid, same.exitError.trans reset.exitError,
      none_of_isSome same.idle reset.idle, none_of_isSome same.async reset.async,
      same.ubf.trans reset.ubf, same.mutex.trans reset.mutex⟩
  · intro running
    obtain ⟨idle, async, ubf⟩ := inv.running (same.status.symm.trans running)
    exact ⟨same.idle.trans idle, same.async.trans async, same.ubf.symm ▸ ubf⟩
  · intro releasing
    have before := same.status.symm.trans releasing
    obtain ⟨next, other⟩ := inv.releasing before
    have kept := same.queues (by rw [before]; simp)
    exact ⟨kept.1.trans next, kept.2.trans other⟩

theorem sameLoop_refl (w : World) : SameLoop w w :=
  ⟨rfl, rfl, rfl, rfl, rfl, rfl, rfl, rfl, rfl, fun _ => ⟨rfl, rfl⟩⟩

private theorem varsInv_startLoop {proc : Nat} {uv : UvAnswers} (inv : VarsInv w) :
    VarsInv (startLoop w proc uv) := by
  rcases startLoop_cases w proc uv with aborts | ⟨fault, runs⟩
  · rw [aborts]
    exact inv.same ⟨rfl, rfl, rfl, rfl, rfl, rfl, rfl, rfl, rfl, fun _ => ⟨rfl, rfl⟩⟩
  · rw [runs]
    refine ⟨fun stopped => ?_, fun _ => ⟨rfl, rfl, rfl⟩, fun releasing => ?_⟩
    · cases stopped
    · cases releasing

private theorem varsInv_running (running : w'.status = .running)
    (idle : w'.nextTickUvIdle.isSome = true)
    (async : w'.callFromOtherThreadUvAsync.isSome = true) (ubf : w'.ubfUvAsync.isSome = true) :
    VarsInv w' := by
  refine ⟨fun stopped => ?_, fun _ => ⟨idle, async, ubf⟩, fun releasing => ?_⟩
  · rw [running] at stopped
    cases stopped
  · rw [running] at releasing
    cases releasing

private theorem varsInv_releasing (releasing : w'.status = .releasing)
    (next : w'.nextTickProcs = []) (other : w'.callFromOtherThreadProcs = []) : VarsInv w' := by
  refine ⟨fun stopped => ?_, fun running => ?_, fun _ => ⟨next, other⟩⟩
  · rw [releasing] at stopped
    cases stopped
  · rw [releasing] at running
    cases running

private theorem reset_of_noActiveHandles (quiet : noActiveHandles w = true) :
    w.nextTickUvIdle = none ∧ w.callFromOtherThreadUvAsync = none ∧ w.ubfUvAsync = none := by
  simp only [noActiveHandles, Bool.and_eq_true, Option.isNone_iff_eq_none] at quiet
  exact ⟨quiet.1.1.1.1.1, quiet.1.1.1.1.2, quiet.1.1.1.2⟩

theorem VarsInv.not_running (vars : VarsInv w) (quiet : noActiveHandles w = true) :
    w.status ≠ .running := by
  intro running
  have idle := (vars.running running).1
  rw [(reset_of_noActiveHandles quiet).1] at idle
  cases idle

/-- libuv has no active handle only in a loop that is released. -/
theorem releasing_of_noActiveHandles (loop : LoopInv c) (vars : VarsInv c.world)
    (live : c.world.fault = none) (inside : Inside c.ctl)
    (quiet : noActiveHandles c.world = true) : c.world.status = .releasing := by
  cases status : c.world.status with
  | running => exact absurd status (vars.not_running quiet)
  | releasing => rfl
  | stopped => exact absurd status (loop.busy inside live)

theorem varsInv_step (loop : LoopInv c) (live : c.world.fault = none) (inv : VarsInv c.world)
    (h : Step c a c') : VarsInv c'.world := by
  have pushed : ∀ e, VarsInv (c.world.push e) :=
    fun e => inv.same (sameLoop_push (sameLoop_refl c.world))
  cases h with
  | other frame => exact inv.same (sameLoop_queue frame)
  | call ctl method =>
    exact inv.same (sameLoop_push (sameLoop_of_frame (dispatch_frame method)))
  | close ctl socket opened connected method =>
    exact inv.same (sameLoop_push (sameLoop_of_frame (dispatch_frame method)))
  | runReturns ctl frame => exact inv.same (sameLoop_push (sameLoop_queue frame))
  | runStarts ctl stopped free => exact varsInv_startLoop inv
  | codeEnds ctl can => exact inv
  | threadEnds ctl alone kept =>
    refine ⟨?_, inv.running, inv.releasing⟩
    intro stopped
    obtain ⟨status, uvLoop, thread, pid, exitError, idle, async, ubf, mutex⟩ :=
      inv.stopped stopped
    refine ⟨status, uvLoop, thread, pid, exitError, idle, async, ubf, ?_⟩
    rcases kept with none | same
    · exact none
    · exact same.trans mutex
  | fork => exact inv.same ⟨rfl, rfl, rfl, rfl, rfl, rfl, rfl, rfl, rfl, fun _ => ⟨rfl, rfl⟩⟩
  | pops ctl quiet => exact inv
  | handles ctl not_releasing => exact pushed _
  | releases ctl calls running on => exact varsInv_releasing rfl rfl rfl
  | releasesNot ctl calls on =>
    have inside := loop.inside_of ctl fun outer => outer_not_fatal outer calls
    refine ⟨fun stopped => absurd stopped (loop.busy inside live), inv.running, inv.releasing⟩
  | tick ctl running => exact pushed _
  | skipsKey ctl deleted => exact inv
  | @destroys _ _ _ key _ _ w ctl stored method =>
    have frame := fileFrame_quiet (destroyHandle_frame c.world key)
    rw [method] at frame
    exact inv.same (sameLoop_of_frame frame)
  | @disconnects _ _ n _ _ t ctl stored socket opened connected method =>
    have frame := fileFrame_quiet (destroyHandle_frame c.world (.tcp n))
    rw [method] at frame
    exact inv.same (sameLoop_push (sameLoop_of_frame frame))
  | released ctl =>
    have releasing := loop.draining ⟨[], by rw [ctl]; exact .head _⟩
    have queues := inv.releasing releasing
    rcases closeInternalHandles_cases c.world with aborts | closes
    · rw [aborts]
      exact varsInv_releasing releasing queues.1 queues.2
    · rw [closes]
      exact varsInv_releasing releasing queues.1 queues.2
  | closeReturns ctl => exact pushed _
  | exitProc ctl => exact pushed _
  | runEnds ctl => exact pushed _
  | loops ctl => exact inv
  | intsReturn ctl => exact inv
  | intsRaise ctl caller => exact pushed _
  | enters ctl => exact inv
  | interrupts entering ctl => exact inv
  | idleBatch ctl running active =>
    obtain ⟨idle, async, ubf⟩ := inv.running running
    exact varsInv_running running rfl async ubf
  | wakes ctl sent =>
    have some_async : (some false).isSome = c.world.callFromOtherThreadUvAsync.isSome := by
      rw [sent]
      rfl
    exact inv.same ⟨rfl, rfl, rfl, rfl, rfl, rfl, rfl, some_async, rfl, fun _ => ⟨rfl, rfl⟩⟩
  | asyncBatch ctl running =>
    obtain ⟨idle, async, ubf⟩ := inv.running running
    exact varsInv_running running idle async ubf
  | uvQuiet ctl reported =>
    exact inv.same (sameLoop_of_frame (reports_frame (uvCallback_inv reported)))
  | uvCalls ctl reported =>
    exact inv.same (sameLoop_push (sameLoop_of_frame (reports_frame (uvCallback_inv reported))))
  | uvReturns ctl handles reqs => exact inv
  | loopEnds ctl caller handles reqs =>
    obtain ⟨idle, async, ubf⟩ := reset_of_noActiveHandles handles
    rw [endLoop_eq handles reqs]
    refine ⟨fun _ => ⟨rfl, rfl, rfl, rfl, rfl, idle, async, ubf, rfl⟩, fun running => ?_,
      fun releasing => ?_⟩
    · cases running
    · cases releasing
  | aborts =>
    exact inv.same ⟨rfl, rfl, rfl, rfl, rfl, rfl, rfl, rfl, rfl, fun _ => ⟨rfl, rfl⟩⟩

end Vars

end Step

theorem VarsInv.onThread {w : World} (vars : VarsInv w) (thread : Nat) :
    VarsInv { w with currentThread := thread } := by
  refine ⟨fun stopped => ?_, vars.running, vars.releasing⟩
  obtain ⟨status, uvLoop, thread, pid, exitError, idle, async, ubf, mutex⟩ :=
    vars.stopped stopped
  exact ⟨status, uvLoop, thread, pid, exitError, idle, async, ubf, mutex⟩

theorem loop_step {c c' : Config} {a : Action} (inv : LoopInv c ∧ VarsInv c.world)
    (h : engine.step c a = some c') : LoopInv c' ∧ VarsInv c'.world := by
  obtain ⟨live, step⟩ := step_inv h
  exact ⟨loopInv_step inv.1 live step, varsInv_step inv.1 live inv.2 step⟩

theorem loop_init : LoopInv engine.init ∧ VarsInv engine.init.world := by
  refine ⟨⟨fun _ => ⟨rfl, ?_⟩, fun inside => absurd rfl inside, fun inside => absurd rfl inside,
    ?_⟩, ⟨fun _ => ⟨rfl, rfl, rfl, rfl, rfl, rfl, rfl, rfl, rfl⟩, ?_, ?_⟩⟩
  · intro f here
    cases here
  · intro draining
    obtain ⟨keys, here⟩ := draining
    cases here
  · intro running
    cases running
  · intro releasing
    cases releasing

end AsyncEngine.Engine.Loop
