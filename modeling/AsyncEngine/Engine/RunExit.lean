/- How control leaves `AE.run`, and what is left behind. -/

import AsyncEngine.Engine.Loop

set_option autoImplicit false
set_option relaxedAutoImplicit false

namespace AsyncEngine.Engine.RunExit

open AsyncEngine.Lib.Run
open AsyncEngine.Engine.Ruby
open AsyncEngine.Engine.State
open AsyncEngine.Engine.Machine
open AsyncEngine.Engine.Effects
open AsyncEngine.Engine.Steps
open AsyncEngine.Engine.Loop

/-- An exception of the interrupt checks goes through `rb_thread_call_without_gvl`. -/
def RaisesOut (c : Config) : Action → Prop
  | .proceed => ∃ error entering, c.ctl = .back (.raised error) (.ints entering) []
  | _ => False

/-- The procs of `@_on_exit_procs` have been called, or one of them has raised. -/
def Finishes (c : Config) : Action → Prop
  | .proceed => ∃ result base procs error stack,
      c.ctl = .back result base (.onExit procs error :: stack) ∧
        (procs = [] ∨ ∃ raised, result = .raised raised)
  | _ => False

/-- The step ends a call of `AE.run` that has started the loop. -/
def LeavesRun (c : Config) (a : Action) : Prop := Finishes c a ∨ RaisesOut c a

/-- If the step ends a call of `AE.run`, then the variables of the loop are reset after it. -/
def LeavesReset (c : Config) (a : Action) : Prop :=
  LeavesRun c a → ∀ c', engine.step c a = some c' → Reset c'.world

/-- As long as no exception goes through, the loop is stopped whenever control is outside. -/
structure ExitInv (c : Config) : Prop where
  loop : LoopInv c
  vars : VarsInv c.world
  idle : ¬ Inside c.ctl → c.world.status = .stopped

section Step

variable {c c' : Config} {a : Action}

theorem outside_step (inv : LoopInv c) (h : Step c a c') (outside : ¬ Inside c'.ctl) :
    (¬ Inside c.ctl ∧ c'.world.status = c.world.status) ∨ c'.world.status = .stopped ∨
      RaisesOut c a := by
  have kept {base : Base} {stack stack' : List Frame} (before : At c.ctl base stack)
      (after : At c'.ctl base stack') (status : c'.world.status = c.world.status) :
      (¬ Inside c.ctl ∧ c'.world.status = c.world.status) ∨ c'.world.status = .stopped ∨
        RaisesOut c a :=
    .inl ⟨fun inside => outside (after.inside.mpr (before.inside.mp inside)), status⟩
  cases h with
  | other frame => exact .inl ⟨outside, (sameLoop_queue frame).status⟩
  | call ctl method =>
    exact kept (.inl ctl) (.inl rfl) (sameLoop_of_frame (dispatch_frame method)).status
  | close ctl socket opened connected method => exact kept (.inl ctl) (.inl rfl) rfl
  | runReturns ctl frame => exact kept (.inl ctl) (.inl rfl) (sameLoop_queue frame).status
  | runStarts ctl stopped free => exact absurd trivial outside
  | codeEnds ctl can => exact kept (.inl ctl) (.inr ⟨_, rfl⟩) rfl
  | threadEnds ctl alone mutex => exact .inl ⟨outside, rfl⟩
  | fork => exact .inl ⟨outside, rfl⟩
  | pops ctl quiet => exact kept (.inr ⟨_, ctl⟩) (.inr ⟨_, rfl⟩) rfl
  | handles ctl not_releasing => exact kept (.inr ⟨_, ctl⟩) (.inl rfl) rfl
  | releases ctl calls running on =>
    have inside := inv.inside_of ctl fun outer => outer_not_fatal outer calls
    exact absurd (At.inside (.inr ⟨_, rfl⟩) |>.mpr ((At.inside (.inr ⟨_, ctl⟩)).mp inside)) outside
  | releasesNot ctl calls on => exact kept (.inr ⟨_, ctl⟩) (.inr ⟨_, rfl⟩) rfl
  | tick ctl running => exact kept (.inr ⟨_, ctl⟩) (.inl rfl) rfl
  | skipsKey ctl deleted => exact kept (.inr ⟨_, ctl⟩) (.inr ⟨_, rfl⟩) rfl
  | @destroys _ _ _ key _ _ w ctl stored method =>
    have frame := fileFrame_quiet (destroyHandle_frame c.world key)
    rw [method] at frame
    exact kept (.inr ⟨_, ctl⟩) (.inr ⟨_, rfl⟩) (sameLoop_of_frame frame).status
  | disconnects ctl stored socket opened connected method =>
    exact kept (.inr ⟨_, ctl⟩) (.inl rfl) rfl
  | released ctl =>
    exact kept (.inr ⟨_, ctl⟩) (.inr ⟨_, rfl⟩) (closeInternalHandles_status _)
  | closeReturns ctl => exact kept (.inr ⟨_, ctl⟩) (.inl rfl) rfl
  | exitProc ctl => exact kept (.inr ⟨_, ctl⟩) (.inl rfl) rfl
  | runEnds ctl => exact kept (.inr ⟨_, ctl⟩) (.inl rfl) rfl
  | loops ctl => exact absurd trivial outside
  | @intsReturn _ entering ctl =>
    cases entering <;> exact absurd trivial outside
  | @intsRaise error entering _ _ _ ctl caller => exact .inr (.inr ⟨error, entering, ctl⟩)
  | enters ctl => exact absurd trivial outside
  | interrupts entering ctl => exact absurd (by simp [Inside]) outside
  | idleBatch ctl running active => exact absurd (by simp [Inside]) outside
  | wakes ctl sent => exact absurd trivial outside
  | asyncBatch ctl running => exact absurd (by simp [Inside]) outside
  | uvQuiet ctl reported => exact absurd (by simp [ctl, Inside]) outside
  | uvCalls ctl reported => exact absurd (by simp [Inside]) outside
  | uvReturns ctl handles reqs => exact absurd trivial outside
  | loopEnds ctl caller handles reqs =>
    refine .inr (.inl ?_)
    rw [endLoop_eq handles reqs]
  | aborts => exact .inl ⟨outside, rfl⟩

theorem exitInv_step (inv : ExitInv c) (h : engine.step c a = some c')
    (quiet : ¬ RaisesOut c a) : ExitInv c' := by
  obtain ⟨loop, vars⟩ := loop_step ⟨inv.loop, inv.vars⟩ h
  refine ⟨loop, vars, ?_⟩
  intro outside
  rcases outside_step inv.loop (step_inv h).2 outside with ⟨before, same⟩ | stopped | raises
  · exact same.trans (inv.idle before)
  · exact stopped
  · exact absurd raises quiet

private theorem finishes_ctl {result : Return} {base : Base} {procs : List Nat}
    {error : Option RubyError} {stack : List Frame}
    (ctl : c.ctl = .back result base (.onExit procs error :: stack))
    (last : procs = [] ∨ ∃ raised, result = .raised raised)
    (h : engine.step c .proceed = some c') : c'.ctl = .code base stack := by
  have resumed := proceed_back ctl h
  cases result with
  | value v =>
    rcases last with rfl | ⟨raised, eq⟩
    · rw [← Option.some.inj resumed]
    · cases eq
  | raised e => rw [← Option.some.inj resumed]

private theorem exitInv_sound (inv : ExitInv c) (h : engine.step c a = some c')
    (quiet : ¬ RaisesOut c a) : LeavesReset c a := by
  intro leaves t move
  obtain rfl : c' = t := Option.some.inj (h.symm.trans move)
  have after := exitInv_step inv h quiet
  rcases leaves with finishes | raises
  · cases a with
    | proceed =>
      obtain ⟨result, base, procs, error, stack, ctl, last⟩ := finishes
      have outside : ¬ Inside c'.ctl := by
        intro inside
        have there : Inside c.ctl := (At.inside (.inr ⟨_, ctl⟩)).mpr
          ((At.inside (.inl (finishes_ctl ctl last h))).mp inside)
        have inner := (inv.loop.inside there).2 (.onExit procs error)
        rw [ctl] at inner
        exact inner (.head _)
      exact after.vars.stopped (after.idle outside)
    | _ => exact finishes.elim
  · exact absurd raises quiet

/-- An exception that goes through leaves the loop running or half released. -/
private theorem exitInv_sharp (inv : ExitInv c) (h : engine.step c a = some c')
    (reset : LeavesReset c a) : ¬ RaisesOut c a := by
  intro raises
  have after := (reset (.inr raises) c' h).status
  obtain ⟨live, -⟩ := step_inv h
  cases a with
  | proceed =>
    obtain ⟨error, entering, ctl⟩ := raises
    have inside : Inside c.ctl := by simp [ctl, Inside]
    obtain ⟨⟨stack, caller, -⟩, -⟩ := inv.loop.inside inside
    have resumed := proceed_back ctl h
    rw [stepBack, caller] at resumed
    rw [← Option.some.inj resumed] at after
    exact inv.loop.busy inside live after
  | _ => exact raises

/-- In every run, all is reset each time control leaves `AE.run` exactly when no exception of
the interrupt checks ever goes through `rb_thread_call_without_gvl`. Other threads only queue
procs meanwhile: what their own `AE.run` does after the unlock is not a way this call is left. -/
theorem leaves_reset_iff {l : List (Config × Action)} {c : Config} (path : Path engine l c) :
    Each LeavesReset l ↔ Each (fun c a => ¬ RaisesOut c a) l := by
  obtain ⟨loop, vars⟩ := loop_init
  have start : ExitInv engine.init := ⟨loop, vars, fun _ => rfl⟩
  exact path.each_iff_each start exitInv_step exitInv_sound exitInv_sharp

end Step

/-- The thread is about to leave `rb_thread_call_without_gvl` with an exception, and after that
the loop is not stopped. -/
private def leavesRunning (c : Config) : Bool :=
  match c.ctl with
  | .back (.raised _) (.ints _) [] =>
    (engine.step c .proceed).any fun t => decide (t.world.status ≠ .stopped)
  | _ => false

/-- A signal interrupts the thread before it enters `uv_run`, and its handler raises. -/
theorem interrupt_leaves_running : ¬ ∀ l c, Path engine l c → Each LeavesReset l := by
  intro reset
  have reached : (engine.exec [.call (.run ⟨[], some 0⟩ {}), .interrupt,
      .raise (.interrupt "signal")]).any leavesRunning = true := by
    decide +kernel
  obtain ⟨l, c, path, leaves⟩ := exists_path_of_exec engine _ _ reached
  unfold leavesRunning at leaves
  split at leaves
  · rename_i ctl
    obtain ⟨t, move, status⟩ := (Option.any_eq_true _ _).mp leaves
    have after := reset _ t (path.next move) (c, .proceed) (by simp) (.inr ⟨_, _, ctl⟩) t move
    exact of_decide_eq_true status after.status
  · cases leaves

/-- A run whose loop ends by itself after `AE.stop`. -/
theorem leaves_reset_iff_stopped : ∃ l c, Path engine l c ∧
    (c.world.trace.head? matches some (.ran _)) = true ∧
    (Each LeavesReset l ↔ Each (fun c a => ¬ RaisesOut c a) l) := by
  have reached : (engine.exec stoppedLoop).any (fun c =>
      decide (c.world.trace.head? matches some (.ran _))) = true := by
    decide +kernel
  obtain ⟨l, c, path, started⟩ := exists_path_of_exec engine _ _ reached
  exact ⟨l, c, path, of_decide_eq_true started, leaves_reset_iff path⟩

end AsyncEngine.Engine.RunExit
