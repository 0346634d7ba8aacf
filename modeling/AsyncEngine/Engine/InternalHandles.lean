/- The internal handles of the loop (the idle handle, the async handle of
   `call_from_other_thread` and that of `ae_ubf`): when the pointers to them are NULL, how often a
   run tears them down, and the assertions on them and on `AE_status`. -/

import AsyncEngine.Engine.RunExit
import AsyncEngine.Engine.Stopped

set_option autoImplicit false
set_option relaxedAutoImplicit false

namespace AsyncEngine.Engine.InternalHandles

open AsyncEngine.Lib.Run
open AsyncEngine.Engine.Ruby
open AsyncEngine.Engine.State
open AsyncEngine.Engine.Machine
open AsyncEngine.Engine.Effects
open AsyncEngine.Engine.Steps
open AsyncEngine.Engine.Loop
open AsyncEngine.Engine.Release
open AsyncEngine.Engine.RunExit
open AsyncEngine.Engine.Outstanding
open AsyncEngine.Engine.Stopped

/-- No pointer to an internal handle is NULL. -/
def AllLoaded (w : World) : Prop :=
  w.nextTickUvIdle.isSome = true ∧ w.callFromOtherThreadUvAsync.isSome = true ∧
    w.ubfUvAsync.isSome = true

/-- All three are NULL. -/
def NoneLoaded (w : World) : Prop :=
  w.nextTickUvIdle = none ∧ w.callFromOtherThreadUvAsync = none ∧ w.ubfUvAsync = none

/-- For each run that has started its loop, how often its internal handles have been torn down;
the latest run comes first. -/
abbrev Teardowns := List Nat

def Teardowns.note (counts : Teardowns) (c : Config) (a : Action) (c' : Config) : Teardowns :=
  match a with
  | .call (.run _ _) =>
    match c'.ctl with
    | .entering => 0 :: counts
    | _ => counts
  | .proceed =>
    match c.ctl, counts with
    | .back _ _ (.release [] :: _), count :: earlier => (count + 1) :: earlier
    | _, _ => counts
  | _ => counts

/-- The engine with the teardowns noted beside it. -/
def counted : System (Config × Teardowns) Action := engine.annotate Teardowns.note []

/-- The internal handles in a reachable state. -/
structure Internal (c : Config) (counts : Teardowns) : Prop where
  running : c.world.status = .running → AllLoaded c.world
  stopped : c.world.status = .stopped → NoneLoaded c.world
  releasing : c.world.status = .releasing → ¬ Draining (stackOf c.ctl) → NoneLoaded c.world
  /-- A run that goes on has not torn them down yet. -/
  pending : c.world.status = .running ∨ Draining (stackOf c.ctl) →
    ∃ earlier, counts = 0 :: earlier ∧ ∀ count ∈ earlier, count = 1
  /-- Every other run has done so once. -/
  once : c.world.status ≠ .running → ¬ Draining (stackOf c.ctl) → ∀ count ∈ counts, count = 1
  /-- Outside of the loop the status is `AE_STOPPED`. -/
  outside : ¬ Inside c.ctl → c.world.status = .stopped

/-- What the C code of a step asserts of the internal handles and of `AE_status`. -/
structure Unfailing (c : Config) (a : Action) (c' : Config) : Prop where
  /-- `AsyncEngine_run`, the two load functions and `next_tick` in it: another assertion there is
  on the results of libuv. -/
  run {args : Args} {uv : UvAnswers} : a = .call (.run args uv) →
    c'.world.fault = none ∨ uv.init ≠ 0
  /-- `next_tick`, `call_from_other_thread` and `AE.stop`, which calls them. -/
  methods {call : Call} : a = .call call →
    (call = .stop ∨ (∃ args, call = .nextTick args) ∨ ∃ args, call = .callFromOtherThread args) →
      c'.world.fault = none
  /-- The same, and `AE.run`, called by another thread. -/
  others {thread : Nat} {call : Call} : a = .other thread call → c'.world.fault = none
  /-- `_ae_idle_callback`. -/
  idle : a = .event .idle → c'.world.fault = none
  /-- `_ae_async_callback`. -/
  async : c.ctl = .waking → a = .proceed → c'.world.fault = none
  /-- `ae_take_gvl_and_run_with_error_handler`, for every callback of libuv. -/
  takes {event : UvEvent} : a = .event event → c.world.status ≠ .stopped
  /-- `ae_run_with_error_handler`, for the procs of a queue and for `destroy`. -/
  protects {result : Return} {base : Base} {frame : Frame} {stack : List Frame} :
    c.ctl = .back result base (frame :: stack) →
      ((∃ o procs, frame = .batch o procs) ∨ ∃ keys, frame = .release keys) →
        c.world.status ≠ .stopped
  /-- The two unload functions and `ae_release_loop`. -/
  unloads {result : Return} {base : Base} {stack : List Frame} :
    c.ctl = .back result base (.release [] :: stack) → c'.world.fault = none

/-- How many releases wait for the end of a `destroy`. -/
def releases (stack : List Frame) : Nat :=
  stack.countP fun
    | .release _ => true
    | _ => false

private theorem draining_iff {stack : List Frame} : Draining stack ↔ 0 < releases stack := by
  rw [releases, List.countP_pos_iff]
  constructor
  · rintro ⟨keys, here⟩
    exact ⟨_, here, rfl⟩
  · rintro ⟨frame, here, release⟩
    cases frame with
    | release keys => exact ⟨keys, here⟩
    | _ => cases release

private theorem releases_outer {stack : List Frame} (outer : ∀ f ∈ stack, Outer f) :
    releases stack = 0 := by
  refine Nat.eq_zero_of_not_pos fun some => ?_
  obtain ⟨keys, here⟩ := draining_iff.mpr some
  exact outer _ here

@[simp] private theorem releases_nil : releases [] = 0 := rfl

@[simp] private theorem releases_release {keys : List Handle} {stack : List Frame} :
    releases (.release keys :: stack) = releases stack + 1 := by simp [releases]

private theorem releases_other {f : Frame} {stack : List Frame}
    (other : ∀ keys, f ≠ .release keys) : releases (f :: stack) = releases stack := by
  unfold releases
  refine List.countP_cons_of_neg ?_
  cases f with
  | release keys => exact absurd rfl (other keys)
  | _ => simp

structure SamePointers (w w' : World) : Prop where
  idle : w'.nextTickUvIdle.isSome = w.nextTickUvIdle.isSome
  async : w'.callFromOtherThreadUvAsync.isSome = w.callFromOtherThreadUvAsync.isSome
  ubf : w'.ubfUvAsync.isSome = w.ubfUvAsync.isSome

private theorem SamePointers.all {w w' : World} (same : SamePointers w w') (all : AllLoaded w) :
    AllLoaded w' :=
  ⟨same.idle.trans all.1, same.async.trans all.2.1, same.ubf.trans all.2.2⟩

private theorem pointers_of_loop {w w' : World} (same : SameLoop w w') : SamePointers w w' :=
  ⟨same.idle, same.async, by rw [same.ubf]⟩

/-- What a step does to the internal handles. -/
inductive HandleStep (c c' : Config) : Action → Prop
  | same {a : Action} (frames : releases (stackOf c'.ctl) = releases (stackOf c.ctl))
      (status : c'.world.status = c.world.status) (pointers : SamePointers c.world c'.world)
      (quiet : ∀ counts, Teardowns.note counts c a c' = counts) : HandleStep c c' a
  | begins (running : c.world.status = .running) (releasing : c'.world.status = .releasing)
      (frames : releases (stackOf c'.ctl) = releases (stackOf c.ctl) + 1)
      (pointers : SamePointers c.world c'.world)
      (quiet : ∀ counts, Teardowns.note counts c .proceed c' = counts) : HandleStep c c' .proceed
  | loads {args : Args} {uv : UvAnswers} {proc : Nat} (stopped : c.world.status = .stopped)
      (world : c'.world = startLoop c.world proc uv) (ctl : c'.ctl = .entering) :
      HandleStep c c' (.call (.run args uv))
  | unloads {result : Return} {base : Base} {stack : List Frame}
      (ctl : c.ctl = .back result base (.release [] :: stack))
      (after : c'.ctl = .back (.value .nil) base stack)
      (world : c'.world = closeInternalHandles c.world) : HandleStep c c' .proceed
  | ends (handles : noActiveHandles c.world = true)
      (before : releases (stackOf c.ctl) = 0) (frames : releases (stackOf c'.ctl) = 0)
      (stopped : c'.world.status = .stopped)
      (quiet : ∀ counts, Teardowns.note counts c .proceed c' = counts) : HandleStep c c' .proceed
  | aborts {a : Action} (fault : c'.world.fault ≠ none) : HandleStep c c' a

section Step

variable {c c' : Config} {a : Action}

private theorem quiet_proceed (other : ∀ result base stack,
    c.ctl ≠ .back result base (.release [] :: stack)) (counts : Teardowns) :
    counts.note c .proceed c' = counts := by
  unfold Teardowns.note
  dsimp only
  split
  · rename_i ctl
    exact absurd ctl (other _ _ _)
  · rfl

private theorem quiet_call {call : Call} (other : c'.ctl ≠ .entering) (counts : Teardowns) :
    counts.note c (.call call) c' = counts := by
  cases call with
  | run args uv =>
    unfold Teardowns.note
    dsimp only
    split
    · rename_i enters
      exact absurd enters other
    · rfl
  | _ => rfl

private theorem releases_below {stack below : List Frame} (on : ReleaseStack stack below) :
    releases below = releases stack := by
  rcases on with rfl | ⟨o, procs, rfl⟩
  · rfl
  · rw [releases_other (by simp), releases_other (by simp)]

private theorem silent_other {f : Frame} (quiet : silent f) : ∀ keys, f ≠ .release keys := by
  rintro keys rfl
  exact quiet

private theorem fatal_other {f : Frame} (calls : fatal f) : ∀ keys, f ≠ .release keys := by
  rintro keys rfl
  exact calls

theorem handle_step (inv : LoopInv c) (h : Step c a c') : HandleStep c c' a := by
  have refl := sameLoop_refl c.world
  -- The C code goes on with other frames, of which as many are releases.
  have goes_on {result : Return} {base : Base} {f : Frame} {stack : List Frame}
      (ctl : c.ctl = .back result base (f :: stack)) (other : f ≠ .release [])
      (frames : releases (stackOf c'.ctl) = releases (f :: stack))
      (same : SameLoop c.world c'.world) : HandleStep c c' .proceed := by
    refine .same ?_ same.status (pointers_of_loop same) (quiet_proceed ?_)
    · rw [ctl]
      exact frames
    · intro result' base' stack' same
      rw [ctl] at same
      exact other (List.cons.inj (Ctl.back.inj same).2.2).1
  have method {base : Base} {stack stack' : List Frame} {call : Call}
      (ctl : c.ctl = .code base stack) (after : c'.ctl = .code base stack')
      (frames : releases stack' = releases stack) (same : SameLoop c.world c'.world) :
      HandleStep c c' (.call call) := by
    refine .same ?_ same.status (pointers_of_loop same) (quiet_call (by simp [after]))
    rw [ctl, after]
    exact frames
  have bare (before : stackOf c.ctl = []) (frames : releases (stackOf c'.ctl) = 0)
      (same : SameLoop c.world c'.world)
      (quiet : ∀ counts, Teardowns.note counts c a c' = counts) : HandleStep c c' a := by
    refine .same ?_ same.status (pointers_of_loop same) quiet
    rw [before]
    exact frames
  have only (before : stackOf c.ctl = []) (counts : Teardowns) :
      counts.note c .proceed c' = counts :=
    quiet_proceed (fun _ _ _ ctl => by simp [ctl, stackOf] at before) counts
  cases h with
  | other frame =>
    exact .same rfl (sameLoop_queue frame).status (pointers_of_loop (sameLoop_queue frame))
      fun _ => rfl
  | call ctl called =>
    exact method ctl rfl rfl (sameLoop_push (sameLoop_of_frame (dispatch_frame called)))
  | close ctl socket opened connected called =>
    exact method ctl rfl (releases_other (by simp))
      (sameLoop_push (sameLoop_of_frame (dispatch_frame called)))
  | runReturns ctl frame => exact method ctl rfl rfl (sameLoop_push (sameLoop_queue frame))
  | runStarts ctl stopped free => exact .loads stopped rfl rfl
  | codeEnds ctl can =>
    refine .same (by rw [ctl]; rfl) rfl ⟨rfl, rfl, rfl⟩ fun counts => ?_
    cases a with
    | call call => exact quiet_call (by simp) counts
    | proceed => exact quiet_proceed (by simp [ctl]) counts
    | _ => rfl
  | threadEnds ctl alone kept =>
    exact .same rfl rfl ⟨rfl, rfl, rfl⟩ fun _ => rfl
  | fork => exact .same rfl rfl ⟨rfl, rfl, rfl⟩ fun _ => rfl
  | pops ctl quiet =>
    exact goes_on ctl (silent_other quiet _) (releases_other (silent_other quiet)).symm refl
  | handles ctl not_releasing =>
    refine goes_on ctl (by simp) ?_ (sameLoop_push refl)
    show releases (_ :: _) = releases (_ :: _)
    rw [releases_other (by simp), releases_other (by simp)]
  | @releases result base frame stack below exitError ctl calls running on =>
    refine .begins running rfl ?_ ⟨rfl, rfl, rfl⟩ (quiet_proceed ?_)
    · show releases (_ :: below) = _
      rw [ctl]
      show _ = releases (frame :: stack) + 1
      rw [releases_release, releases_below on, releases_other (fatal_other calls)]
    · intro result' base' stack' same
      rw [ctl] at same
      exact fatal_other calls _ (List.cons.inj (Ctl.back.inj same).2.2).1
  | @releasesNot result base frame stack below exitError ctl calls on =>
    refine .same ?_ rfl ⟨rfl, rfl, rfl⟩ (quiet_proceed ?_)
    · rw [ctl]
      show releases below = releases (frame :: stack)
      rw [releases_below on, releases_other (fatal_other calls)]
    · intro result' base' stack' same
      rw [ctl] at same
      exact fatal_other calls _ (List.cons.inj (Ctl.back.inj same).2.2).1
  | tick ctl running =>
    refine goes_on ctl (by simp) ?_ (sameLoop_push refl)
    show releases (_ :: _ :: _) = releases (_ :: _)
    rw [releases_other (by simp), releases_other (by simp), releases_other (by simp)]
  | skipsKey ctl deleted =>
    refine goes_on ctl (by simp) ?_ refl
    show releases (_ :: _) = releases (_ :: _)
    rw [releases_release, releases_release]
  | @destroys _ _ _ key _ _ w ctl stored called =>
    have frame := fileFrame_quiet (destroyHandle_frame c.world key)
    rw [called] at frame
    refine goes_on ctl (by simp) ?_ (sameLoop_of_frame frame)
    show releases (_ :: _ :: _) = releases (_ :: _)
    rw [releases_other (by simp), releases_release, releases_release]
  | @disconnects _ _ n _ _ t ctl stored socket opened connected called =>
    have frame := fileFrame_quiet (destroyHandle_frame c.world (.tcp n))
    rw [called] at frame
    refine goes_on ctl (by simp) ?_ (sameLoop_push (sameLoop_of_frame frame))
    show releases (_ :: _ :: _ :: _) = releases (_ :: _)
    rw [releases_other (by simp), releases_other (by simp), releases_release, releases_release]
  | released ctl => exact .unloads ctl rfl rfl
  | closeReturns ctl =>
    exact goes_on ctl (by simp) (releases_other (by simp)).symm (sameLoop_push refl)
  | exitProc ctl =>
    refine goes_on ctl (by simp) ?_ (sameLoop_push refl)
    show releases (_ :: _) = releases (_ :: _)
    rw [releases_other (by simp), releases_other (by simp)]
  | runEnds ctl => exact goes_on ctl (by simp) (releases_other (by simp)).symm (sameLoop_push refl)
  | loops ctl => exact bare (by rw [ctl]; rfl) rfl refl (only (by rw [ctl]; rfl))
  | @intsReturn _ entering ctl =>
    refine bare (by rw [ctl]; rfl) ?_ refl (only (by rw [ctl]; rfl))
    cases entering <;> rfl
  | @intsRaise error entering base stack callers ctl caller =>
    obtain ⟨⟨below, alone, outer⟩, -⟩ := inv.inside (by simp [ctl, Inside])
    rw [caller] at alone
    obtain ⟨rfl, rfl⟩ := Prod.mk.inj (List.cons.inj alone).1
    exact bare (by rw [ctl]; rfl) (releases_outer outer) (sameLoop_push refl)
      (only (by rw [ctl]; rfl))
  | enters ctl => exact bare (by rw [ctl]; rfl) rfl refl (only (by rw [ctl]; rfl))
  | interrupts entering ctl =>
    exact bare (by rw [ctl]; cases entering <;> rfl) rfl refl fun _ => rfl
  | idleBatch ctl running active =>
    refine .same ?_ rfl ⟨by rw [active]; rfl, rfl, rfl⟩ fun _ => rfl
    rw [ctl]
    rfl
  | wakes ctl sent =>
    refine .same ?_ rfl ⟨rfl, by rw [sent]; rfl, rfl⟩ fun _ => rfl
    rw [ctl]
    rfl
  | asyncBatch ctl running =>
    refine .same ?_ rfl ⟨rfl, rfl, rfl⟩ (only (by rw [ctl]; rfl))
    rw [ctl]
    rfl
  | uvQuiet ctl reported =>
    have same := sameLoop_of_frame (reports_frame (uvCallback_inv reported))
    exact .same rfl same.status (pointers_of_loop same) fun _ => rfl
  | uvCalls ctl reported =>
    have same := sameLoop_of_frame (reports_frame (uvCallback_inv reported))
    exact bare (by rw [ctl]; rfl) rfl (sameLoop_push same) fun _ => rfl
  | uvReturns ctl handles reqs => exact bare (by rw [ctl]; rfl) rfl refl fun _ => rfl
  | @loopEnds base stack callers ctl caller handles reqs =>
    obtain ⟨⟨below, alone, outer⟩, -⟩ := inv.inside (by simp [ctl, Inside])
    rw [caller] at alone
    obtain ⟨rfl, rfl⟩ := Prod.mk.inj (List.cons.inj alone).1
    refine .ends handles (by rw [ctl]; rfl) ?_ ?_ (only (by rw [ctl]; rfl))
    · rw [endLoop_eq handles reqs]
      show releases (_ :: stack) = 0
      rw [releases_other (by simp), releases_outer outer]
    · rw [endLoop_eq handles reqs]
  | aborts => exact .aborts (by simp [World.abort])

/-- The loop runs, or its release has not come to the internal handles. -/
def Loaded (c : Config) : Prop := c.world.status = .running ∨ 0 < releases (stackOf c.ctl)

/-- The run that goes on has not torn the handles down, and every other run has done so once. -/
def Torn (c : Config) (counts : Teardowns) : Prop :=
  (Loaded c → ∃ earlier, counts = 0 :: earlier ∧ ∀ count ∈ earlier, count = 1) ∧
    (¬ Loaded c → ∀ count ∈ counts, count = 1)

structure PointersInv (c : Config) (counts : Teardowns) : Prop where
  release : ReleaseInv c
  waking : c.ctl = .waking → c.world.fault = none → c.world.status = .running
  lone : c.world.fault = none → releases (stackOf c.ctl) ≤ 1
  held : c.world.fault = none → 0 < releases (stackOf c.ctl) → AllLoaded c.world
  torn : c.world.fault = none → Torn c counts

private theorem Torn.congr {counts : Teardowns} (torn : Torn c counts)
    (loaded : Loaded c' ↔ Loaded c) : Torn c' counts :=
  ⟨fun some => torn.1 (loaded.mp some), fun none => torn.2 fun some => none (loaded.mpr some)⟩

/-- libuv holds an internal handle outside of `ae_release_loop` only while the loop runs. -/
private theorem running_of_held {counts : Teardowns} (inv : PointersInv c counts)
    (live : c.world.fault = none) (inside : Inside c.ctl) (bare : stackOf c.ctl = [])
    (held : ¬ NoneLoaded c.world) : c.world.status = .running := by
  cases status : c.world.status with
  | running => rfl
  | stopped => exact absurd status (inv.release.loop.busy inside live)
  | releasing =>
    rcases inv.release.done status live with draining | ⟨-, idle, async, ubf⟩
    · exact absurd draining (not_draining bare)
    · exact absurd ⟨idle, async, ubf⟩ held

private theorem waking_step {counts : Teardowns} (inv : PointersInv c counts)
    (live : c.world.fault = none) (h : Step c a c') (waking : c'.ctl = .waking)
    (ok : c'.world.fault = none) : c'.world.status = .running := by
  cases h with
  | other frame => exact (sameLoop_queue frame).status.trans (inv.waking waking live)
  | threadEnds ctl alone kept => exact inv.waking waking live
  | fork => exact inv.waking waking live
  | wakes ctl sent =>
    have running : c.world.status = .running := by
      refine running_of_held inv live (by rw [ctl]; trivial) (by rw [ctl]; rfl) ?_
      intro none
      rw [none.2.1] at sent
      cases sent
    exact running
  | @intsReturn _ entering ctl => cases entering <;> cases waking
  | uvQuiet ctl reported =>
    rw [ctl] at waking
    cases waking
  | loopEnds ctl caller handles reqs =>
    rw [endLoop_eq handles reqs] at waking
    cases waking
  | aborts => cases ok
  | _ => cases waking

private theorem not_draining_of_running {counts : Teardowns} (inv : PointersInv c counts)
    (running : c.world.status = .running) : releases (stackOf c.ctl) = 0 := by
  refine Nat.eq_zero_of_not_pos fun some => ?_
  rw [inv.release.loop.draining (draining_iff.mpr some)] at running
  cases running

theorem PointersInv.loaded {counts : Teardowns} (inv : PointersInv c counts)
    (live : c.world.fault = none) (draining : Draining (stackOf c.ctl)) : AllLoaded c.world :=
  inv.held live (draining_iff.mp draining)

theorem closes_all {counts : Teardowns} (inv : PointersInv c counts)
    (live : c.world.fault = none) {result : Return} {base : Base} {stack : List Frame}
    (ctl : c.ctl = .back result base (.release [] :: stack)) :
    AllLoaded c.world ∧ releases stack = 0 ∧ c.world.status = .releasing := by
  have lone := inv.lone live
  have some : 0 < releases (stackOf c.ctl) := by
    rw [ctl]
    show 0 < releases (_ :: stack)
    rw [releases_release]
    omega
  refine ⟨inv.held live some, ?_, inv.release.loop.draining (draining_iff.mpr some)⟩
  rw [ctl] at lone
  replace lone : releases (.release [] :: stack) ≤ 1 := lone
  rw [releases_release] at lone
  omega

theorem pointersInv_step {counts : Teardowns} (inv : PointersInv c counts)
    (h : engine.step c a = some c') : PointersInv c' (counts.note c a c') := by
  obtain ⟨live, step⟩ := step_inv h
  have release := releaseInv_step inv.release h
  have vars := inv.release.vars
  have torn := inv.torn live
  have lone := inv.lone live
  refine ⟨release, fun waking ok => waking_step inv live step waking ok, ?_, ?_, ?_⟩
  · intro ok
    cases handle_step inv.release.loop step with
    | same frames => omega
    | begins running releasing frames =>
      have none := not_draining_of_running inv running
      omega
    | loads stopped world ctl =>
      rw [ctl]
      exact Nat.zero_le 1
    | @unloads result base stack ctl after world =>
      rw [after]
      show releases stack ≤ 1
      rw [(closes_all inv live ctl).2.1]
      omega
    | ends handles before frames stopped quiet => omega
    | aborts fault => exact absurd ok fault
  · intro ok some
    cases handle_step inv.release.loop step with
    | same frames status pointers => exact pointers.all (inv.held live (frames ▸ some))
    | begins running releasing frames pointers => exact pointers.all (vars.running running)
    | loads stopped world ctl =>
      rw [ctl] at some
      cases some
    | @unloads result base stack ctl after world =>
      rw [after] at some
      replace some : 0 < releases stack := some
      rw [(closes_all inv live ctl).2.1] at some
      cases some
    | ends handles before frames stopped quiet => omega
    | aborts fault => exact absurd ok fault
  · intro ok
    cases handle_step inv.release.loop step with
    | same frames status pointers quiet =>
      rw [quiet]
      refine torn.congr ?_
      rw [Loaded, Loaded, frames, status]
    | begins running releasing frames pointers quiet =>
      rw [quiet]
      refine torn.congr (iff_of_true (.inr ?_) (.inl running))
      omega
    | @loads args uv proc stopped world ctl =>
      have idle : ¬ Loaded c := by
        rintro (running | some)
        · rw [stopped] at running
          cases running
        · have releasing := inv.release.loop.draining (draining_iff.mpr some)
          rw [stopped] at releasing
          cases releasing
      have noted : counts.note c (.call (.run args uv)) c' = 0 :: counts := by
        unfold Teardowns.note
        rw [ctl]
      rw [noted]
      refine ⟨fun _ => ⟨counts, rfl, torn.2 idle⟩, fun none => absurd (.inl ?_) none⟩
      rw [world] at ok ⊢
      rcases startLoop_cases c.world proc uv with aborts | ⟨fault, runs⟩
      · rw [aborts] at ok
        cases ok
      · rw [runs]
        rfl
    | @unloads result base stack ctl after world =>
      obtain ⟨all, none, releasing⟩ := closes_all inv live ctl
      have loaded : Loaded c := by
        refine .inr ?_
        rw [ctl]
        show 0 < releases (_ :: _)
        rw [releases_release]
        omega
      obtain ⟨earlier, rfl, ones⟩ := torn.1 loaded
      have noted : Teardowns.note (0 :: earlier) c .proceed c' = 1 :: earlier := by
        unfold Teardowns.note
        rw [ctl]
      rw [noted]
      have unloaded : ¬ Loaded c' := by
        rintro (running | some)
        · rw [world, closeInternalHandles_status, releasing] at running
          cases running
        · rw [after] at some
          replace some : 0 < releases stack := some
          omega
      refine ⟨fun some => absurd some unloaded, fun _ count here => ?_⟩
      rcases List.mem_cons.mp here with rfl | here
      · rfl
      · exact ones count here
    | ends handles before frames stopped quiet =>
      rw [quiet]
      have unloaded : ¬ Loaded c' := by
        rintro (running | some)
        · rw [stopped] at running
          cases running
        · omega
      refine ⟨fun some => absurd some unloaded, fun _ => torn.2 ?_⟩
      rintro (running | some)
      · exact vars.not_running handles running
      · omega
    | aborts fault => exact absurd ok fault

theorem pointersInv_init : PointersInv engine.init [] := by
  refine ⟨releaseInv_init, ?_, fun _ => Nat.zero_le 1, fun _ some => ?_, fun _ => ⟨?_, ?_⟩⟩
  · intro waking
    cases waking
  · cases some
  · rintro (running | some)
    · cases running
    · cases some
  · intro _ count here
    cases here

theorem pointersInv_of_path {l : List (Config × Action)} (path : Path engine l c) :
    ∃ counts, PointersInv c counts := by
  refine path.invariant (I := fun c => ∃ counts, PointersInv c counts) ⟨[], pointersInv_init⟩ ?_
  rintro c c' a ⟨counts, inv⟩ move
  exact ⟨_, pointersInv_step inv move⟩

private theorem internal_of_inv {counts : Teardowns} (inv : PointersInv c counts)
    (idle : ¬ Inside c.ctl → c.world.status = .stopped) (live : c.world.fault = none) :
    Internal c counts := by
  obtain ⟨loop, vars, -, -, -, done⟩ := inv.release
  refine ⟨vars.running, ?_, ?_, ?_, ?_, idle⟩
  · intro stopped
    have reset := vars.stopped stopped
    exact ⟨reset.idle, reset.async, reset.ubf⟩
  · intro releasing drained
    rcases done releasing live with draining | ⟨-, idle, async, ubf⟩
    · exact absurd draining drained
    · exact ⟨idle, async, ubf⟩
  · rintro (running | draining)
    · exact (inv.torn live).1 (.inl running)
    · exact (inv.torn live).1 (.inr (draining_iff.mp draining))
  · intro idle drained
    refine (inv.torn live).2 ?_
    rintro (running | some)
    · exact idle running
    · exact drained (draining_iff.mpr some)

/-! ### The assertions -/

private theorem pushNextTick_fault {w : World} {tick : Tick} (live : w.fault = none)
    (idle : w.nextTickUvIdle.isSome = true) : (Procs.pushNextTick w tick).fault = none := by
  obtain ⟨active, here⟩ := Option.isSome_iff_exists.mp idle
  unfold Procs.pushNextTick
  rw [here]
  exact live

private theorem pushCallFromOtherThread_fault {w : World} {tick : Tick} (live : w.fault = none)
    (async : w.callFromOtherThreadUvAsync.isSome = true) :
    (Procs.pushCallFromOtherThread w tick).fault = none := by
  obtain ⟨sent, here⟩ := Option.isSome_iff_exists.mp async
  unfold Procs.pushCallFromOtherThread
  rw [here]
  exact live

private theorem checked_fault {α : Type} {w : World} {check : Check α}
    {go : α → World × Outcome} (live : w.fault = none)
    (passes : ∀ x, check = .ok x → (go x).1.fault = none) :
    (checked w check go).1.fault = none := by
  unfold checked
  cases passed : check with
  | ok x => exact passes x passed
  | error q => exact live

section Calls

variable {w : World}

private theorem stop_fault (vars : VarsInv w) (live : w.fault = none) :
    (Procs.stop w).1.fault = none := by
  refine checked_fault live fun x passed => ?_
  obtain ⟨idle, async, -⟩ := vars.running (running_of_check passed)
  show (if _ then _ else _ : World).fault = none
  split
  · exact pushNextTick_fault live idle
  · exact pushCallFromOtherThread_fault live async

private theorem nextTick_fault (vars : VarsInv w) (live : w.fault = none) (args : Args) :
    (Procs.nextTick w args).1.fault = none := by
  refine checked_fault live fun proc passed => ?_
  exact pushNextTick_fault live (vars.running (running_of_bind passed)).1

private theorem callFromOtherThread_fault (vars : VarsInv w) (live : w.fault = none)
    (args : Args) : (Procs.callFromOtherThread w args).1.fault = none := by
  refine checked_fault live fun proc passed => ?_
  exact pushCallFromOtherThread_fault live (vars.running (running_of_bind passed)).2.1

private theorem runWhileRunning_fault (vars : VarsInv w) (live : w.fault = none)
    (running : w.status = .running) (proc : Nat) :
    (runWhileRunning w proc).1.fault = none := by
  obtain ⟨idle, async, -⟩ := vars.running running
  unfold runWhileRunning
  split
  · exact live
  · split
    · exact pushNextTick_fault live idle
    · exact pushCallFromOtherThread_fault live async

private theorem startLoop_fault (vars : VarsInv w) (live : w.fault = none)
    (stopped : w.status = .stopped) (idle : outstanding w = 0) (proc : Nat) (uv : UvAnswers) :
    (startLoop w proc uv).fault = none ∨ uv.init ≠ 0 := by
  have reset := vars.stopped stopped
  by_cases init : uv.init = 0
  · unfold startLoop
    rw [if_neg (by simp [reset.idle, reset.async, reset.ubf, init])]
    dsimp only
    split
    · exact .inl live
    · rename_i pending
      exact absurd ((noActiveReqs_iff w).mpr idle) pending
  · exact .inr init

end Calls

private theorem afterCall_fault {call : Call} {base : Base} {stack : List Frame}
    {r : World × Outcome} (live : r.1.fault = none) :
    (afterCall call base stack r).1.fault = none := by
  obtain ⟨w, outcome⟩ := r
  cases outcome <;> exact live

private theorem run_fault {args : Args} {uv : UvAnswers} (vars : VarsInv c.world)
    (ended : StoppedInv c) (live : c.world.fault = none)
    (h : engine.step c (.call (.run args uv)) = some c') :
    c'.world.fault = none ∨ uv.init ≠ 0 := by
  obtain ⟨base, stack, -, runs⟩ := run_inv h
  cases runs with
  | @queues proc w result accepted running runs =>
    have fault := runWhileRunning_fault vars live running proc
    rw [runs] at fault
    exact .inl fault
  | starts accepted stopped free =>
    exact startLoop_fault vars live stopped (ended.reqs stopped) _ uv
  | _ => exact .inl live

private theorem other_fault {thread : Nat} {call : Call} (vars : VarsInv c.world)
    (live : c.world.fault = none) (h : engine.step c (.other thread call) = some c') :
    c'.world.fault = none := by
  have vars' := vars.onThread thread
  obtain ⟨-, runs⟩ := other_inv h
  unfold stepOther at runs
  dsimp only at runs
  split at runs
  · cases runs
  · split at runs
    · rw [← Option.some.inj runs]
      exact stop_fault vars' live
    · rw [← Option.some.inj runs]
      exact callFromOtherThread_fault vars' live _
    · split at runs
      · rename_i running
        rw [← Option.some.inj runs]
        exact checked_fault live fun proc _ => runWhileRunning_fault vars' live running proc
      · cases runs
    · cases runs

private theorem takeBatch_fault {w : World} {o : Bool} {procs : List Tick}
    (running : w.status = .running) (live : w.fault = none) :
    (takeBatch c w o procs).world.fault = none := by
  unfold takeBatch
  rw [if_neg (by simp [running])]
  exact live

private theorem unfailing_step {counts : Teardowns} (inv : PointersInv c counts)
    (ended : StoppedInv c) (h : engine.step c a = some c') : Unfailing c a c' := by
  obtain ⟨live, step⟩ := step_inv h
  have vars := inv.release.vars
  refine ⟨?_, ?_, ?_, ?_, ?_, ?_, ?_, ?_⟩
  · rintro args uv rfl
    exact run_fault vars ended live h
  · rintro call rfl pushes
    have other : ∀ args uv, call ≠ .run args uv := by
      rintro args uv rfl
      rcases pushes with pushes | ⟨_, pushes⟩ | ⟨_, pushes⟩ <;> cases pushes
    obtain ⟨base, stack, r, -, called, world⟩ := call_inv h other
    rw [world]
    refine afterCall_fault ?_
    rcases pushes with rfl | ⟨args, rfl⟩ | ⟨args, rfl⟩
    · obtain rfl := Option.some.inj called
      exact stop_fault vars live
    · obtain rfl := Option.some.inj called
      exact nextTick_fault vars live args
    · obtain rfl := Option.some.inj called
      exact callFromOtherThread_fault vars live args
  · rintro thread call rfl
    exact other_fault vars live h
  · rintro rfl
    obtain ⟨ctl, runs⟩ := queue_event_inv h
    unfold stepEvent at runs
    dsimp only at runs
    split at runs
    · rename_i active
      have running : c.world.status = .running := by
        refine running_of_held inv live (by rw [ctl]; trivial) (by rw [ctl]; rfl) ?_
        intro none
        rw [none.1] at active
        cases active
      rw [← Option.some.inj runs]
      exact takeBatch_fault running live
    · cases runs
  · rintro waking rfl
    have running := inv.waking waking live
    cases proceed_inv h with
    | takes ctl => exact takeBatch_fault running live
    | frame ctl => simp [waking] at ctl
    | loops ctl => simp [waking] at ctl
    | intsReturn ctl => simp [waking] at ctl
    | intsRaise ctl caller => simp [waking] at ctl
    | enters ctl => simp [waking] at ctl
    | ends ctl caller => simp [waking] at ctl
  · rintro event rfl
    obtain ⟨ctl, -⟩ := queue_event_inv h
    exact inv.release.loop.busy (by rw [ctl]; trivial) live
  · intro result base frame stack ctl waits
    refine inv.release.loop.busy (inv.release.loop.inside_of ctl ?_) live
    rcases waits with ⟨o, procs, rfl⟩ | ⟨keys, rfl⟩ <;> exact id
  · intro result base stack ctl
    obtain ⟨⟨idle, async, ubf⟩, -, -⟩ := closes_all inv live ctl
    have some {α : Type} {o : Option α} (some : o.isSome = true) : o.isNone = false := by
      rw [← Option.not_isSome, some]
      rfl
    obtain rfl := proceed_of_back h ctl
    rw [← Option.some.inj (proceed_back ctl h)]
    show (closeInternalHandles c.world).fault = none
    unfold closeInternalHandles
    rw [if_neg (by simp [some idle, some async, some ubf])]
    exact live

end Step

/-- In every run which leaves `uv_run` normally, the pointers to the internal handles are NULL
exactly when no loop needs them, each loop tears the handles down once, and no assertion on them
or on `AE_status` fails. -/
theorem internal_handles {l : List ((Config × Teardowns) × Action)} {p : Config × Teardowns}
    (path : Path counted l p) (normally : Each (fun q a => ¬ RaisesOut q.1 a) l) :
    Always (fun q => q.1.world.fault = none → Internal q.1 q.2) l p ∧
      Each (fun q a => ∀ c', engine.step q.1 a = some c' → Unfailing q.1 a c') l := by
  obtain ⟨loop, vars⟩ := loop_init
  constructor
  · refine path.always (I := fun q => PointersInv q.1 q.2 ∧ ExitInv q.1)
      ⟨pointersInv_init, loop, vars, fun _ => rfl⟩ ?_ ?_ normally
    · intro p q a inv move quiet
      obtain ⟨step, noted⟩ := annotate_step move
      rw [noted]
      exact ⟨pointersInv_step inv.1 step, exitInv_step inv.2 step quiet⟩
    · intro p inv live
      exact internal_of_inv inv.1 inv.2.idle live
  · refine path.each (I := fun q => PointersInv q.1 q.2 ∧ StoppedInv q.1)
      ⟨pointersInv_init, stoppedInv_init⟩ ?_ ?_
    · intro p q a inv move
      obtain ⟨step, noted⟩ := annotate_step move
      rw [noted]
      exact ⟨pointersInv_step inv.1 step, stoppedInv_step inv.2 step⟩
    · intro p q a inv move c' step
      exact unfailing_step inv.1 inv.2 step

/-- The step does not leave `rb_thread_call_without_gvl` with an exception. -/
private def leavesNormally (p : Config × Teardowns) : Action → Bool
  | .proceed =>
    match p.1.ctl with
    | .back (.raised _) (.ints _) [] => false
    | _ => true
  | _ => true

private theorem not_raisesOut {p : Config × Teardowns} {a : Action}
    (normally : leavesNormally p a = true) : ¬ RaisesOut p.1 a := by
  intro raises
  cases a with
  | proceed =>
    obtain ⟨error, entering, ctl⟩ := raises
    simp [leavesNormally, ctl] at normally
  | _ => exact raises

/-- Two loops, one after the other, which their blocks stop. -/
theorem internal_handles_twice : ∃ l p, Path counted l p ∧ p.2 = [1, 1] ∧
    Always (fun q => q.1.world.fault = none → Internal q.1 q.2) l p ∧
      Each (fun q a => ∀ c', engine.step q.1 a = some c' → Unfailing q.1 a c') l := by
  have reached : ((counted.only leavesNormally).exec (stoppedLoop ++ stoppedLoop)).any
      (fun p => decide (p.2 = [1, 1])) = true := by
    decide +kernel
  obtain ⟨l, p, path, twice⟩ := exists_path_of_exec (counted.only leavesNormally) _ _ reached
  obtain ⟨path, normally⟩ := path_of_only path
  exact ⟨l, p, path, of_decide_eq_true twice,
    internal_handles path fun q here => not_raisesOut (normally q here)⟩

end AsyncEngine.Engine.InternalHandles
