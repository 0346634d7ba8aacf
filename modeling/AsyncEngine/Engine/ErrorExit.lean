/- Errors of user code: which of them end the loop, and what `AE.run` makes of them. -/

import AsyncEngine.Engine.RunExit

set_option autoImplicit false
set_option relaxedAutoImplicit false

namespace AsyncEngine.Engine.ErrorExit

open AsyncEngine.Lib.Run
open AsyncEngine.Engine.Ruby
open AsyncEngine.Engine.State
open AsyncEngine.Engine.Machine
open AsyncEngine.Engine.Effects
open AsyncEngine.Engine.Steps
open AsyncEngine.Engine.Loop
open AsyncEngine.Engine.RunExit

/-- No handler gets the error: none is set, or it is not a StandardError. -/
def Unhandled (w : World) (error : RubyError) : Prop :=
  w.userErrorHandler = none ∨ error.isStandard = false

instance (w : World) (error : RubyError) : Decidable (Unhandled w error) :=
  inferInstanceAs (Decidable (_ ∨ _))

/-- The Exception for an error that no handler gets: one is made for a killed thread. -/
def exceptionFor : RubyError → RubyError
  | .killed => .interrupt ("Thread killed (AsyncEngine workaround for " ++
      "https://github.com/ibc/AsyncEngine/issues/4)")
  | error => error

/-- The fatal error that escapes in the next step. -/
def fatalError (c : Config) : Option RubyError :=
  match c.ctl with
  | .back (.raised error) _ (.protect :: _) =>
    if c.world.status = .running ∧ Unhandled c.world error then some (exceptionFor error)
    else none
  | .back (.raised error) _ (.handleError :: _) => some error
  | _ => none

/-- The same when the end of a killed thread is not counted as an error. -/
def fatalException (c : Config) : Option RubyError :=
  match c.ctl with
  | .back (.raised .killed) _ _ => none
  | _ => fatalError c

/-- The call of `AE.run` that started the loop ends in the next step. -/
def runEnds (c : Config) : Bool :=
  match c.ctl with
  | .back (.value _) _ (.onExit procs _ :: _) => procs.isEmpty
  | .back (.raised _) _ (.onExit _ _ :: _) => true
  | .back (.raised _) (.ints _) [] => true
  | _ => false

/-- For each call of `AE.run` that has started a loop and has not ended, the first fatal error
since then; the latest call comes first. -/
abbrev Fatals := List (Option RubyError)

def Fatals.note (fatal : Config → Option RubyError) (fatals : Fatals) (c : Config) (a : Action)
    (c' : Config) : Fatals :=
  match a with
  | .call _ =>
    match c'.ctl with
    | .entering => none :: fatals
    | _ => fatals
  | .proceed =>
    if runEnds c then fatals.tail
    else
      match fatal c, fatals with
      | some error, none :: fatals => some error :: fatals
      | _, fatals => fatals
  | _ => fatals

/-- The engine with the fatal errors noted beside it. -/
def noted (fatal : Config → Option RubyError) : System (Config × Fatals) Action :=
  engine.annotate (Fatals.note fatal) []

/-- What `AE.run` makes of the error: Fixnum 8 is not raised. -/
def runResult : Option RubyError → Return
  | none => .value .true
  | some .killed => .value .true
  | some error => .raised error

/-- How errors are treated in a step. -/
structure Treats (fatal : Config → Option RubyError) (fatals : Fatals) (c : Config) (a : Action)
    (c' : Config) : Prop where
  /-- The handler gets a StandardError, and nothing else happens. -/
  given {error : RubyError} {handler : Nat} {base : Base} {stack : List Frame} :
    c.ctl = .back (.raised error) base (.protect :: stack) → c.world.status = .running →
      c.world.userErrorHandler = some handler → error.isStandard = true →
      c' = { c with
        world := c.world.start (.errorHandler handler error)
        ctl := .code base (.handleError :: stack) }
  /-- After the handler all is as the callback and the handler left it. -/
  handled {v : Value} {base : Base} {stack : List Frame} :
    c.ctl = .back (.value v) base (.handleError :: stack) →
      c' = { c with ctl := .back (.value .nil) base stack }
  /-- A fatal error is stored, and the release begins. -/
  stored {error : RubyError} : fatal c = some error → c.world.status = .running ∧
    c'.world = { c.world with
      exitError := some error, status := .releasing, nextTickProcs := [],
      callFromOtherThreadProcs := [] }
  /-- An error while the loop is released is dropped. -/
  dropped {error : RubyError} {base : Base} {stack : List Frame} :
    c.ctl = .back (.raised error) base (.protect :: stack) → c.world.status = .releasing →
      c' = { c with ctl := .back (.value .nil) base stack }
  /-- `@_exit_error` is the first fatal error of the loop. -/
  kept {error : Option RubyError} {rest : Fatals} : fatals.note fatal c a c' = error :: rest →
    c'.callers ≠ [] → c'.world.exitError = error
  /-- The procs of `@_on_exit_procs` get the first fatal error. -/
  passed {proc : Nat} {error : Option RubyError} {status : AeStatus} :
    c'.world.trace = .started (.onExit proc error) status :: c.world.trace →
      fatals.head? = some error
  /-- `AE.run` raises the first fatal error, unless one of these procs raises, or an exception of
  the interrupt checks goes through `rb_thread_call_without_gvl`. -/
  raised {result : Return} : c'.world.trace = .ran result :: c.world.trace →
    (∃ error, fatals.head? = some error ∧ result = runResult error) ∨
      (∃ error base procs captured stack, result = .raised error ∧
        c.ctl = .back (.raised error) base (.onExit procs captured :: stack)) ∨
      RaisesOut c a

/-- The errors given to those who wait for the end of a call of `AE.run`. -/
def captured : List Frame → Fatals
  | [] => []
  | .onExit _ error :: stack => error :: captured stack
  | _ :: stack => captured stack

/-- What the engine itself has stored for the calls of `AE.run`. -/
def openRuns (c : Config) : Fatals :=
  match c.callers with
  | [] => captured (stackOf c.ctl)
  | (_, stack) :: _ => c.world.exitError :: captured stack

/-- Nothing but user code that closes sockets stands above the error handler. -/
def Shaped : List Frame → Prop
  | .closing _ :: stack => Shaped stack
  | .handleError :: stack => .handleError ∉ stack
  | stack => .handleError ∉ stack

/-- What the frame of the error handler asks of a state. -/
def Handling (c : Config) : Prop :=
  Shaped (stackOf c.ctl) ∧ (.handleError ∈ stackOf c.ctl → c.world.status = .running)

/-- No error is stored before the release. -/
structure ErrorInv (c : Config) : Prop where
  loop : LoopInv c
  vars : VarsInv c.world
  handler : Handling c
  calm : c.world.status = .running → c.world.exitError = none

section Step

variable {c c' : Config} {a : Action}

/-! ### The frames of the error handler -/

private theorem shaped_of_free {stack : List Frame} (free : .handleError ∉ stack) :
    Shaped stack := by
  induction stack with
  | nil => exact free
  | cons f stack ih =>
    cases f with
    | closing n => exact ih fun here => free (.tail _ here)
    | handleError => exact absurd (.head _) free
    | _ => exact free

private theorem free_of_shaped {f : Frame} {stack : List Frame} (shaped : Shaped (f :: stack))
    (other : ∀ n, f ≠ .closing n) : .handleError ∉ stack := by
  cases f with
  | closing n => exact absurd rfl (other n)
  | handleError => exact shaped
  | _ => exact fun here => shaped (.tail _ here)

private theorem shaped_below {f : Frame} {stack : List Frame} (shaped : Shaped (f :: stack)) :
    Shaped stack := by
  cases f with
  | closing n => exact shaped
  | _ => exact shaped_of_free (free_of_shaped shaped (by simp))

private theorem free_cons {f : Frame} {stack : List Frame} (free : .handleError ∉ stack)
    (other : f ≠ .handleError) : .handleError ∉ f :: stack := by
  rw [List.mem_cons, not_or]
  exact ⟨Ne.symm other, free⟩

private theorem free_below {stack below : List Frame} (on : ReleaseStack stack below)
    (free : .handleError ∉ stack) : .handleError ∉ below := by
  rcases on with rfl | ⟨o, procs, rfl⟩
  · exact free
  · exact free_cons (free_cons free (by simp)) (by simp)

private theorem handling_free {stack : List Frame} (after : stackOf c'.ctl = stack)
    (free : .handleError ∉ stack) : Handling c' := by
  rw [Handling, after]
  exact ⟨shaped_of_free free, fun here => absurd here free⟩

private theorem handling_kept (inv : Handling c) {stack : List Frame}
    (after : stackOf c'.ctl = stack) (shaped : Shaped stack)
    (kept : .handleError ∈ stack → .handleError ∈ stackOf c.ctl)
    (status : c'.world.status = c.world.status) : Handling c' := by
  rw [Handling, after, status]
  exact ⟨shaped, fun here => inv.2 (kept here)⟩

private theorem handling_step (loop : LoopInv c) (live : c.world.fault = none)
    (inv : Handling c) (h : Step c a c') : Handling c' := by
  have below {result : Return} {base : Base} {f : Frame} {stack : List Frame}
      (ctl : c.ctl = .back result base (f :: stack)) : Shaped (f :: stack) := by
    have shaped := inv.1
    rw [ctl] at shaped
    exact shaped
  have same {stack : List Frame} (before : stackOf c.ctl = stack) (after : stackOf c'.ctl = stack)
      (status : c'.world.status = c.world.status) : Handling c' :=
    handling_kept inv after (before ▸ inv.1) (fun here => before ▸ here) status
  have pops {result : Return} {base : Base} {f : Frame} {stack : List Frame}
      (ctl : c.ctl = .back result base (f :: stack)) (after : stackOf c'.ctl = stack)
      (status : c'.world.status = c.world.status) : Handling c' := by
    refine handling_kept inv after (shaped_below (below ctl)) (fun here => ?_) status
    rw [ctl]
    exact .tail _ here
  have replaces {result : Return} {base : Base} {f : Frame} {stack stack' : List Frame}
      (ctl : c.ctl = .back result base (f :: stack)) (other : ∀ n, f ≠ .closing n)
      (after : stackOf c'.ctl = stack')
      (free : .handleError ∉ stack → .handleError ∉ stack') : Handling c' :=
    handling_free after (free (free_of_shaped (below ctl) other))
  cases h with
  | other frame => exact same rfl rfl (sameLoop_queue frame).status
  | call ctl method =>
    have status := (sameLoop_of_frame (dispatch_frame method)).status
    exact same (congrArg stackOf ctl) rfl status
  | @close base stack n t ctl socket opened connected method =>
    have shaped := inv.1
    rw [ctl] at shaped
    refine handling_kept inv rfl shaped (fun here => ?_) rfl
    rw [ctl]
    exact (List.mem_cons.mp here).resolve_left (by simp)
  | runReturns ctl frame =>
    have status := (sameLoop_queue frame).status
    exact same (congrArg stackOf ctl) rfl status
  | runStarts ctl stopped free => exact handling_free rfl (by simp [stackOf])
  | codeEnds ctl can => exact same (congrArg stackOf ctl) rfl rfl
  | threadEnds ctl alone kept => exact same rfl rfl rfl
  | fork => exact same rfl rfl rfl
  | pops ctl quiet => exact pops ctl rfl rfl
  | handles ctl not_releasing =>
    have inside := loop.inside_of ctl fun outer => outer
    have running := running_of_busy (loop.busy inside live) not_releasing
    exact ⟨free_of_shaped (below ctl) (by simp), fun _ => running⟩
  | releases ctl calls running on =>
    refine replaces ctl ?_ rfl fun free => free_cons (free_below on free) (by simp)
    rintro n rfl
    exact calls
  | releasesNot ctl calls on =>
    refine replaces ctl ?_ rfl (free_below on)
    rintro n rfl
    exact calls
  | tick ctl running =>
    exact replaces ctl (by simp) rfl fun free => free_cons (free_cons free (by simp)) (by simp)
  | skipsKey ctl deleted => exact replaces ctl (by simp) rfl fun free => free_cons free (by simp)
  | destroys ctl stored method =>
    exact replaces ctl (by simp) rfl fun free => free_cons (free_cons free (by simp)) (by simp)
  | disconnects ctl stored socket opened connected method =>
    exact replaces ctl (by simp) rfl fun free =>
      free_cons (free_cons (free_cons free (by simp)) (by simp)) (by simp)
  | released ctl => exact replaces ctl (by simp) rfl id
  | closeReturns ctl => exact pops ctl rfl rfl
  | exitProc ctl => exact replaces ctl (by simp) rfl fun free => free_cons free (by simp)
  | runEnds ctl => exact replaces ctl (by simp) rfl id
  | loops ctl => exact handling_free rfl (by simp [stackOf])
  | @intsReturn _ entering ctl => cases entering <;> exact handling_free rfl (by simp [stackOf])
  | @intsRaise error entering base stack callers ctl caller =>
    obtain ⟨⟨outside, only, outer⟩, -⟩ := loop.inside (by simp [ctl, Inside])
    rw [caller] at only
    obtain ⟨rfl, rfl⟩ := Prod.mk.inj (List.cons.inj only).1
    exact handling_free rfl fun here => outer _ here
  | enters ctl => exact handling_free rfl (by simp [stackOf])
  | interrupts entering ctl => exact handling_free rfl (by simp [stackOf])
  | idleBatch ctl running active => exact handling_free rfl (by simp [stackOf])
  | wakes ctl sent => exact handling_free rfl (by simp [stackOf])
  | asyncBatch ctl running => exact handling_free rfl (by simp [stackOf])
  | uvQuiet ctl reported => exact handling_free (congrArg stackOf ctl) (by simp [stackOf])
  | uvCalls ctl reported => exact handling_free rfl (by simp [stackOf])
  | uvReturns ctl handles reqs => exact handling_free rfl (by simp [stackOf])
  | loopEnds ctl caller handles reqs =>
    obtain ⟨⟨outside, only, outer⟩, -⟩ := loop.inside (by simp [ctl, Inside])
    rw [caller] at only
    obtain ⟨rfl, rfl⟩ := Prod.mk.inj (List.cons.inj only).1
    simp only [endLoop, handles, reqs, Bool.and_self, if_true]
    exact handling_free rfl (free_cons (fun here => outer _ here) (by simp))
  | aborts => exact same rfl rfl rfl

/-! ### `@_exit_error` -/

/-- The world when the error has been stored and the release begins. -/
private def failing (w : World) (error : RubyError) : World :=
  { w with
    exitError := some error, status := .releasing, nextTickProcs := [],
    callFromOtherThreadProcs := [] }

private theorem fatal_running (inv : ErrorInv c) {error : RubyError}
    (fatal : fatalError c = some error) : c.world.status = .running := by
  unfold fatalError at fatal
  split at fatal
  · split at fatal
    · rename_i running
      exact running.1
    · cases fatal
  · rename_i ctl
    refine inv.handler.2 ?_
    rw [ctl]
    exact .head _
  · cases fatal

private theorem aeReleaseLoop_stored {w : World} (running : w.status = .running)
    (error : RubyError) (base : Base) (stack : List Frame) :
    aeReleaseLoop { w with exitError := some error } base stack =
      (failing w error, .back (.value .nil) base (.release w.handles :: stack)) := by
  simp only [aeReleaseLoop, running, failing]

theorem aeHandleError_unhandled {w : World} {error : RubyError}
    (unhandled : Unhandled w error) (base : Base) (stack : List Frame) :
    aeHandleError w error base stack =
      aeReleaseLoop { w with exitError := some (exceptionFor error) } base stack := by
  have stored : (if error = .killed then
      .interrupt ("Thread killed (AsyncEngine workaround for " ++
        "https://github.com/ibc/AsyncEngine/issues/4)")
      else error) = exceptionFor error := by
    cases error <;> rfl
  unfold aeHandleError
  split
  · rename_i handler here standard
    rcases unhandled with none | other
    · rw [here] at none
      cases none
    · rw [standard] at other
      cases other
  · simp only [stored]

private theorem aeHandleError_given {w : World} {error : RubyError} {handler : Nat}
    (here : w.userErrorHandler = some handler) (standard : error.isStandard = true) (base : Base)
    (stack : List Frame) : aeHandleError w error base stack =
      (w.start (.errorHandler handler error), .code base (.handleError :: stack)) := by
  unfold aeHandleError
  rw [here, standard]

private theorem fatal_step (inv : ErrorInv c) (h : engine.step c a = some c') {error : RubyError}
    (fatal : fatalError c = some error) :
    a = .proceed ∧ c'.world = failing c.world error ∧ c'.callers = c.callers := by
  have running := fatal_running inv fatal
  unfold fatalError at fatal
  split at fatal
  · rename_i raised base stack ctl
    obtain rfl := proceed_of_back h ctl
    split at fatal
    · rename_i escapes
      obtain rfl := Option.some.inj fatal
      have resumed := proceed_back ctl h
      have releasing : ¬ c.world.status = .releasing := by simp [running]
      simp only [stepBack, resume, if_neg releasing, aeHandleError_unhandled escapes.2] at resumed
      rw [aeReleaseLoop_stored running] at resumed
      obtain rfl := Option.some.inj resumed
      exact ⟨rfl, rfl, rfl⟩
    · cases fatal
  · rename_i raised base stack ctl
    obtain rfl := proceed_of_back h ctl
    obtain rfl := Option.some.inj fatal
    have resumed := proceed_back ctl h
    simp only [stepBack, resume] at resumed
    rw [aeReleaseLoop_stored running] at resumed
    obtain rfl := Option.some.inj resumed
    exact ⟨rfl, rfl, rfl⟩
  · cases fatal

private theorem aeReleaseLoop_exitError (w : World) (base : Base) (stack : List Frame) :
    (aeReleaseLoop w base stack).1.exitError = w.exitError := by
  unfold aeReleaseLoop
  split <;> rfl

private theorem batchNext_exitError (w : World) (o : Bool) (procs : List Tick) (base : Base)
    (stack : List Frame) : (batchNext w o procs base stack).1.exitError = w.exitError := by
  unfold batchNext
  split
  · rfl
  · split
    · rfl
    · dsimp only
      split
      · exact aeReleaseLoop_exitError _ _ _
      · rfl

private theorem releaseNext_exitError (w : World) (keys : List Handle) (base : Base)
    (stack : List Frame) : (releaseNext w keys base stack).1.exitError = w.exitError := by
  unfold releaseNext
  split
  · rcases closeInternalHandles_cases w with aborts | closes
    · rw [aborts]
      rfl
    · rw [closes]
  · rename_i key keys
    have frame := sameLoop_of_frame (fileFrame_quiet (destroyHandle_frame w key))
    split
    · dsimp only
      split
      · rename_i method
        rw [method] at frame
        exact frame.exitError
      · rename_i method
        rw [method] at frame
        exact frame.exitError
    · rfl

private theorem resume_exitError (inv : ErrorInv c) (live : c.world.fault = none)
    {result : Return} {base : Base} {frame : Frame} {stack : List Frame}
    (ctl : c.ctl = .back result base (frame :: stack)) (quiet : fatalError c = none) :
    (resume c.world result frame base stack).1.exitError = c.world.exitError := by
  simp only [fatalError, ctl] at quiet
  cases frame with
  | protect =>
    cases result with
    | value v => rfl
    | raised error =>
      have inside := inv.loop.inside_of ctl fun outer => outer
      simp only [resume]
      split
      · rfl
      · rename_i not_releasing
        have running := running_of_busy (inv.loop.busy inside live) not_releasing
        have handled : ¬ Unhandled c.world error := by
          intro unhandled
          simp [running, unhandled] at quiet
        simp only [Unhandled, not_or, Bool.not_eq_false] at handled
        obtain ⟨handler, here⟩ := Option.ne_none_iff_exists'.mp handled.1
        rw [aeHandleError_given here handled.2]
        rfl
  | batch o procs => cases result <;> exact batchNext_exitError _ _ _ _ _
  | handleError =>
    cases result with
    | value v => rfl
    | raised error => cases quiet
  | release keys => cases result <;> exact releaseNext_exitError _ _ _ _
  | destroying n => cases result <;> rfl
  | closing n => cases result <;> rfl
  | onExit procs error =>
    cases result with
    | value v => cases procs <;> rfl
    | raised error => rfl

private theorem other_exitError (step : Step c a c') (other : a ≠ .proceed) :
    c'.world.exitError = c.world.exitError := by
  cases step with
  | other frame => exact (sameLoop_queue frame).exitError
  | call ctl method => exact (sameLoop_of_frame (dispatch_frame method)).exitError
  | runReturns ctl frame => exact (sameLoop_queue frame).exitError
  | @runStarts _ _ _ uv proc ctl stopped free =>
    rcases startLoop_cases c.world proc uv with aborts | ⟨fault, runs⟩
    · rw [aborts]
      rfl
    · rw [runs]
      rfl
  | uvQuiet ctl reported =>
    exact (sameLoop_of_frame (reports_frame (uvCallback_inv reported))).exitError
  | uvCalls ctl reported =>
    exact (sameLoop_of_frame (reports_frame (uvCallback_inv reported))).exitError
  | _ => first | rfl | exact absurd rfl other

private theorem exitError_step (inv : ErrorInv c) (h : engine.step c a = some c')
    (quiet : fatalError c = none) :
    c'.world.exitError = c.world.exitError ∨
      (c.ctl = .leaving ∧ c'.world.status = .stopped) := by
  obtain ⟨live, step⟩ := step_inv h
  by_cases proceeds : a = .proceed
  · subst proceeds
    cases proceed_inv h with
    | frame ctl => exact .inl (resume_exitError inv live ctl quiet)
    | loops ctl => exact .inl rfl
    | intsReturn ctl => exact .inl rfl
    | intsRaise ctl caller => exact .inl rfl
    | enters ctl => exact .inl rfl
    | takes ctl =>
      refine .inl ?_
      unfold takeBatch
      split <;> rfl
    | ends ctl caller =>
      unfold endLoop
      dsimp only
      split
      · exact .inr ⟨ctl, rfl⟩
      · exact .inl rfl
  · exact .inl (other_exitError step proceeds)

theorem errorInv_step (inv : ErrorInv c) (h : engine.step c a = some c') :
    ErrorInv c' := by
  obtain ⟨live, step⟩ := step_inv h
  obtain ⟨loop, vars⟩ := loop_step ⟨inv.loop, inv.vars⟩ h
  refine ⟨loop, vars, handling_step inv.loop live inv.handler step, ?_⟩
  intro running
  cases fatal : fatalError c with
  | some error =>
    rw [(fatal_step inv h fatal).2.1] at running
    cases running
  | none =>
    rcases exitError_step inv h fatal with same | ⟨-, stopped⟩
    · rw [same]
      cases status_step step with
      | same status => exact inv.calm (status.symm.trans running)
      | starts stopped after => exact (inv.vars.stopped stopped).exitError
      | releases before releasing =>
        rw [running] at releasing
        cases releasing
      | ends ctl handles reqs stopped =>
        rw [running] at stopped
        cases stopped
    · rw [running] at stopped
      cases stopped

/-! ### The calls of `AE.run` -/

theorem openRuns_inside (loop : LoopInv c) (inside : Inside c.ctl) :
    ∃ stack, c.callers = [(.outside, stack)] ∧
      openRuns c = c.world.exitError :: captured stack := by
  obtain ⟨⟨stack, callers, -⟩, -⟩ := loop.inside inside
  exact ⟨stack, callers, by rw [openRuns, callers]⟩

theorem openRuns_outside (loop : LoopInv c) (outside : ¬ Inside c.ctl) :
    c.callers = [] ∧ openRuns c = captured (stackOf c.ctl) := by
  obtain ⟨callers, -⟩ := loop.alone outside
  exact ⟨callers, by rw [openRuns, callers]⟩

theorem exit_outside (loop : LoopInv c) {result : Return} {base : Base}
    {procs : List Nat} {error : Option RubyError} {stack : List Frame}
    (ctl : c.ctl = .back result base (.onExit procs error :: stack)) : ¬ Inside c.ctl := by
  intro inside
  have inner := (loop.inside inside).2 (.onExit procs error)
  rw [ctl] at inner
  exact inner (.head _)

private theorem openRuns_congr (callers : c'.callers = c.callers)
    (stack : captured (stackOf c'.ctl) = captured (stackOf c.ctl))
    (exitError : c'.world.exitError = c.world.exitError) : openRuns c' = openRuns c := by
  rw [openRuns, openRuns, callers, stack, exitError]

private theorem note_of_call {call : Call} {fatals : Fatals} (not_started : c'.ctl ≠ .entering) :
    fatals.note fatalError c (.call call) c' = fatals := by
  unfold Fatals.note
  dsimp only
  split
  · rename_i started
    exact absurd started not_started
  · rfl

/-- Other steps than those of C code only start a loop. -/
private theorem other_note (inv : ErrorInv c) (h : engine.step c a = some c')
    (other : a ≠ .proceed) : openRuns c' = (openRuns c).note fatalError c a c' := by
  obtain ⟨live, step⟩ := step_inv h
  have exitError := other_exitError step other
  have unnoted (none : ∀ call, a = .call call → c'.ctl ≠ .entering) :
      (openRuns c).note fatalError c a c' = openRuns c := by
    cases a with
    | call call => exact note_of_call (none call rfl)
    | proceed => exact absurd rfl other
    | _ => rfl
  have kept (callers : c'.callers = c.callers)
      (stack : captured (stackOf c'.ctl) = captured (stackOf c.ctl))
      (none : ∀ call, a = .call call → c'.ctl ≠ .entering) :
      openRuns c' = (openRuns c).note fatalError c a c' :=
    (openRuns_congr callers stack exitError).trans (unnoted none).symm
  cases step with
  | @runStarts base stack args uv proc ctl stopped free =>
    have outside : ¬ Inside c.ctl := fun inside => inv.loop.busy inside live stopped
    have before := (openRuns_outside inv.loop outside).2
    rw [ctl] at before
    have fresh := exitError.trans (inv.vars.stopped stopped).exitError
    rw [before, openRuns, fresh]
    rfl
  | call ctl method =>
    exact kept rfl (congrArg (fun ctl => captured (stackOf ctl)) ctl).symm (by simp)
  | close ctl socket opened connected method =>
    exact kept rfl (congrArg (fun ctl => captured (stackOf ctl)) ctl).symm (by simp)
  | runReturns ctl frame =>
    exact kept rfl (congrArg (fun ctl => captured (stackOf ctl)) ctl).symm (by simp)
  | codeEnds ctl can =>
    exact kept rfl (congrArg (fun ctl => captured (stackOf ctl)) ctl).symm (by simp)
  | interrupts entering ctl =>
    exact kept rfl (by cases entering <;> simp [ctl, stackOf]) (by simp)
  | idleBatch ctl running active => exact kept rfl (by simp [ctl, stackOf, captured]) (by simp)
  | wakes ctl sent => exact kept rfl (by simp [ctl, stackOf]) (by simp)
  | uvCalls ctl reported => exact kept rfl (by simp [ctl, stackOf, captured]) (by simp)
  | uvReturns ctl handles reqs => exact kept rfl (by simp [ctl, stackOf]) (by simp)
  | aborts =>
    refine kept rfl rfl fun call is => ?_
    subst is
    obtain ⟨base, stack, ctl, -⟩ := code_inv h
    simp [ctl]
  | _ => first | exact kept rfl rfl (by simp) | exact absurd rfl other

section Notes

variable {fatal : Config → Option RubyError} {fatals : Fatals}

private theorem note_ends (ends : runEnds c = true) :
    fatals.note fatal c .proceed c' = fatals.tail := by
  unfold Fatals.note
  dsimp only
  rw [if_pos ends]

private theorem note_fatal (goes_on : runEnds c = false) {error : RubyError}
    (escapes : fatal c = some error) :
    Fatals.note fatal (none :: fatals) c .proceed c' = some error :: fatals := by
  unfold Fatals.note
  dsimp only
  rw [if_neg (by simp [goes_on]), escapes]

private theorem note_quiet (goes_on : runEnds c = false) (quiet : fatal c = none) :
    fatals.note fatal c .proceed c' = fatals := by
  unfold Fatals.note
  dsimp only
  rw [if_neg (by simp [goes_on]), quiet]

end Notes

private theorem inside_note (inv : ErrorInv c) (h : engine.step c .proceed = some c')
    (inside : Inside c.ctl) (callers : c'.callers = c.callers) (goes_on : runEnds c = false)
    (loops : c.ctl ≠ .leaving) :
    openRuns c' = (openRuns c).note fatalError c .proceed c' := by
  obtain ⟨stack, only, before⟩ := openRuns_inside inv.loop inside
  have after : openRuns c' = c'.world.exitError :: captured stack := by
    rw [openRuns, callers, only]
  rw [after, before]
  cases fatal : fatalError c with
  | some error =>
    rw [inv.calm (fatal_running inv fatal), note_fatal goes_on fatal,
      (fatal_step inv h fatal).2.1]
    rfl
  | none =>
    rcases exitError_step inv h fatal with same | ⟨leaving, stopped⟩
    · rw [note_quiet goes_on fatal, same]
    · exact absurd leaving loops

private theorem frame_note (inv : ErrorInv c) (h : engine.step c .proceed = some c')
    {result : Return} {base : Base} {frame : Frame} {stack : List Frame}
    (ctl : c.ctl = .back result base (frame :: stack)) :
    openRuns c' = (openRuns c).note fatalError c .proceed c' := by
  have resumed := proceed_back ctl h
  have callers : c'.callers = c.callers := by
    rw [← Option.some.inj resumed]
  have within (inner : ¬ Outer frame) (other : ∀ procs error, frame ≠ .onExit procs error) :
      openRuns c' = (openRuns c).note fatalError c .proceed c' := by
    have goes_on : runEnds c = false := by
      simp only [runEnds, ctl]
      cases frame with
      | onExit procs error => exact absurd rfl (other procs error)
      | _ => cases result <;> rfl
    exact inside_note inv h (inv.loop.inside_of ctl inner) callers goes_on (by simp [ctl])
  cases frame with
  | closing n =>
    have same : openRuns c' = openRuns c := by
      cases result <;> obtain rfl := Option.some.inj resumed <;>
        exact openRuns_congr rfl (by rw [ctl]; rfl) rfl
    rw [same, note_quiet]
    · cases result <;> simp [runEnds, ctl]
    · cases result <;> simp [fatalError, ctl]
  | onExit procs error =>
    obtain ⟨alone, before⟩ := openRuns_outside inv.loop (exit_outside inv.loop ctl)
    have after : openRuns c' = captured (stackOf c'.ctl) := by
      rw [openRuns, callers, alone]
    rw [after, before, ctl]
    cases result with
    | value v =>
      cases procs with
      | nil =>
        obtain rfl := Option.some.inj resumed
        rw [note_ends (by simp [runEnds, ctl])]
        rfl
      | cons proc procs =>
        obtain rfl := Option.some.inj resumed
        rw [note_quiet (by simp [runEnds, ctl]) (by simp [fatalError, ctl])]
        rfl
    | raised raised =>
      obtain rfl := Option.some.inj resumed
      rw [note_ends (by simp [runEnds, ctl])]
      rfl
  | _ => exact within id (by simp)

/-- The notes are what the engine has stored. -/
theorem openRuns_note (inv : ErrorInv c) (h : engine.step c a = some c') :
    openRuns c' = (openRuns c).note fatalError c a c' := by
  by_cases other : a = .proceed
  · subst other
    cases proceed_inv h with
    | frame ctl => exact frame_note inv h ctl
    | loops ctl =>
      exact inside_note inv h (by simp [ctl, Inside]) rfl (by simp [runEnds, ctl])
        (by simp [ctl])
    | intsReturn ctl =>
      exact inside_note inv h (by simp [ctl, Inside]) rfl (by simp [runEnds, ctl])
        (by simp [ctl])
    | @intsRaise error entering base stack callers ctl caller =>
      obtain ⟨below, only, before⟩ := openRuns_inside inv.loop (by simp [ctl, Inside])
      rw [caller] at only
      obtain ⟨⟨rfl, rfl⟩, rfl⟩ := by simpa using only
      rw [before, note_ends (by simp [runEnds, ctl])]
      rfl
    | enters ctl =>
      exact inside_note inv h (by simp [ctl, Inside]) rfl (by simp [runEnds, ctl])
        (by simp [ctl])
    | takes ctl =>
      refine inside_note inv h (by simp [ctl, Inside]) ?_ (by simp [runEnds, ctl])
        (by simp [ctl])
      unfold takeBatch
      split <;> rfl
    | @ends base stack callers ctl caller =>
      obtain ⟨below, only, before⟩ := openRuns_inside inv.loop (by simp [ctl, Inside])
      rw [caller] at only
      obtain ⟨⟨rfl, rfl⟩, rfl⟩ := by simpa using only
      rw [before, note_quiet (by simp [runEnds, ctl]) (by simp [fatalError, ctl])]
      unfold endLoop
      dsimp only
      split
      · rfl
      · rw [openRuns, caller]
        rfl
  · exact other_note inv h other

/-! ### What is seen of the end of `AE.run` -/

/-- A proc of `@_on_exit_procs` is called, or `AE.run` ends. -/
def isExit : Event → Prop
  | .started (.onExit _ _) _ => True
  | .ran _ => True
  | _ => False

private theorem framed_not_exit {w : World} {e : Event} (frame : FileFrame c.world w)
    (shows : w.trace = e :: c.world.trace) : ¬ isExit e := by
  obtain ⟨events, trace, kinds⟩ := events_frame frame
  have here : e ∈ events := by
    have only : events = [e] := List.append_cancel_right (trace.symm.trans shows)
    simp [only]
  rcases kinds e here with ⟨_, rfl⟩ | ⟨_, _, rfl⟩ | rfl | ⟨_, _, rfl⟩ | ⟨_, _, rfl⟩ |
    ⟨_, _, _, rfl⟩ <;> exact id

private theorem mute_not {e : Event} (shows : c.world.trace = e :: c.world.trace) : False :=
  List.cons_ne_self e _ shows.symm

private theorem pushed_not_exit {e e' : Event} {l l' : List Event} (other : ¬ isExit e')
    (shows : e' :: l = e :: l') : ¬ isExit e := by
  rw [← (List.cons.inj shows).1]
  exact other

theorem exit_step (h : Step c a c') {e : Event} (exit : isExit e)
    (shows : c'.world.trace = e :: c.world.trace) :
    (∃ result base procs error stack, c.ctl = .back result base (.onExit procs error :: stack)) ∨
      (RaisesOut c a ∧ ∃ result, e = .ran result) := by
  have muted {w : World} {P : Prop} (same : w.trace = c.world.trace)
      (shows : w.trace = e :: c.world.trace) : P :=
    absurd (same.symm.trans shows) fun shows => mute_not shows
  have framed {w : World} {P : Prop} (frame : FileFrame c.world w)
      (shows : w.trace = e :: c.world.trace) : P :=
    absurd exit (framed_not_exit frame shows)
  have pushed {w : World} {e' : Event} {P : Prop} (other : ¬ isExit e')
      (shows : (w.push e').trace = e :: c.world.trace) : P :=
    absurd exit (pushed_not_exit other shows)
  cases h with
  | other frame => exact framed (fileFrame_quiet (quietFrame_queue frame)) shows
  | call ctl method => exact pushed id shows
  | close ctl socket opened connected method => exact pushed id shows
  | runReturns ctl frame => exact pushed id shows
  | runStarts ctl stopped free => exact muted (startLoop_trace _ _ _) shows
  | handles ctl not_releasing => exact pushed id shows
  | @tick _ _ fromOtherThread _ _ _ ctl running =>
    cases fromOtherThread <;> exact pushed id shows
  | @destroys _ _ _ key _ _ _ ctl stored method =>
    have frame := fileFrame_quiet (destroyHandle_frame c.world key)
    rw [method] at frame
    exact framed frame shows
  | disconnects ctl stored socket opened connected method => exact pushed id shows
  | released ctl => exact muted (closeInternalHandles_trace _) shows
  | closeReturns ctl => exact pushed id shows
  | exitProc ctl => exact .inl ⟨_, _, _, _, _, ctl⟩
  | runEnds ctl => exact .inl ⟨_, _, _, _, _, ctl⟩
  | intsRaise ctl caller =>
    exact .inr ⟨⟨_, _, ctl⟩, _, (List.cons.inj shows).1.symm⟩
  | uvQuiet ctl reported => exact framed (reports_frame (uvCallback_inv reported)) shows
  | @uvCalls event w callback ctl reported =>
    refine pushed ?_ shows
    have called := reports_calls (uvCallback_inv reported) rfl
    cases callback with
    | onExit proc error => cases event <;> simp [calledBy] at called
    | _ => exact id
  | loopEnds ctl caller handles reqs =>
    rw [endLoop_eq handles reqs] at shows
    exact muted rfl shows
  | _ => exact muted rfl shows

private theorem exit_runs (inv : ErrorInv c) {result : Return} {base : Base} {procs : List Nat}
    {error : Option RubyError} {stack : List Frame}
    (ctl : c.ctl = .back result base (.onExit procs error :: stack)) :
    (openRuns c).head? = some error := by
  rw [(openRuns_outside inv.loop (exit_outside inv.loop ctl)).2, ctl]
  rfl

private theorem resume_exit {w : World} {procs : List Nat} {error : Option RubyError} {base : Base}
    {stack : List Frame} {result : Return} {e : Event}
    (shows : (resume w result (.onExit procs error) base stack).1.trace = e :: w.trace) :
    (∃ proc, e = .started (.onExit proc error) w.status) ∨ e = .ran (runResult error) ∨
      ∃ raised, result = .raised raised ∧ e = .ran (.raised raised) := by
  cases result with
  | value v =>
    cases procs with
    | nil =>
      refine .inr (.inl ?_)
      rw [← (List.cons.inj shows).1]
      cases error with
      | none => rfl
      | some error => cases error <;> rfl
    | cons proc procs => exact .inl ⟨proc, (List.cons.inj shows).1.symm⟩
  | raised raised => exact .inr (.inr ⟨raised, rfl, (List.cons.inj shows).1.symm⟩)

theorem treats_step (inv : ErrorInv c) (h : engine.step c a = some c') :
    Treats fatalError (openRuns c) c a c' := by
  obtain ⟨live, step⟩ := step_inv h
  refine ⟨?_, ?_, ?_, ?_, ?_, ?_, ?_⟩
  · intro error handler base stack ctl running here standard
    obtain rfl := proceed_of_back h ctl
    have resumed := proceed_back ctl h
    have not_releasing : ¬ c.world.status = .releasing := by simp [running]
    simp only [stepBack, resume, if_neg not_releasing, aeHandleError_given here standard] at resumed
    exact (Option.some.inj resumed).symm
  · intro v base stack ctl
    obtain rfl := proceed_of_back h ctl
    exact (Option.some.inj (proceed_back ctl h)).symm
  · intro error fatal
    exact ⟨fatal_running inv fatal, (fatal_step inv h fatal).2.1⟩
  · intro error base stack ctl releasing
    obtain rfl := proceed_of_back h ctl
    have resumed := proceed_back ctl h
    simp only [stepBack, resume, if_pos releasing] at resumed
    exact (Option.some.inj resumed).symm
  · intro error rest noted loops
    rw [← openRuns_note inv h, openRuns] at noted
    split at noted
    · rename_i none
      exact absurd none loops
    · exact (List.cons.inj noted).1
  · intro proc error status shows
    have exits : isExit (.started (.onExit proc error) status) := trivial
    rcases exit_step step exits shows with ⟨_, _, _, _, _, ctl⟩ | ⟨-, _, other⟩
    · obtain rfl := proceed_of_back h ctl
      rw [exit_runs inv ctl]
      obtain rfl := Option.some.inj (proceed_back ctl h)
      rcases resume_exit shows with ⟨_, same⟩ | other | ⟨_, -, other⟩
      · simp only [Event.started.injEq, Callback.onExit.injEq] at same
        rw [same.1.2]
      · cases other
      · cases other
    · cases other
  · intro result shows
    have exits : isExit (.ran result) := trivial
    rcases exit_step step exits shows with ⟨_, _, procs, captured, _, ctl⟩ | ⟨leaves, -⟩
    · obtain rfl := proceed_of_back h ctl
      have head := exit_runs inv ctl
      obtain rfl := Option.some.inj (proceed_back ctl h)
      rcases resume_exit shows with ⟨_, other⟩ | same | ⟨raised, rfl, same⟩
      · cases other
      · exact .inl ⟨captured, head, Event.ran.inj same⟩
      · exact .inr (.inl ⟨raised, _, procs, captured, _, Event.ran.inj same, ctl⟩)
    · exact .inr (.inr leaves)

end Step

theorem errorInv_init : ErrorInv engine.init := by
  obtain ⟨loop, vars⟩ := loop_init
  refine ⟨loop, vars, ⟨?_, ?_⟩, fun _ => rfl⟩
  · intro here
    cases here
  · intro here
    cases here

/-- In every run errors are treated so in every step: the first fatal error of a loop is kept,
given to the procs of `@_on_exit_procs` and raised by `AE.run`. -/
theorem errors_treated {l : List ((Config × Fatals) × Action)} {p : Config × Fatals}
    (path : Path (noted fatalError) l p) :
    Each (fun q a => ∀ c', engine.step q.1 a = some c' → Treats fatalError q.2 q.1 a c') l := by
  refine path.each (I := fun p => ErrorInv p.1 ∧ p.2 = openRuns p.1) ⟨errorInv_init, rfl⟩ ?_ ?_
  · intro p q a inv move
    obtain ⟨step, noted⟩ := annotate_step move
    refine ⟨errorInv_step inv.1 step, ?_⟩
    rw [noted, inv.2, openRuns_note inv.1 step]
  · intro p q a inv move c' step
    rw [inv.2]
    exact treats_step inv.1 step

/-- A run with an error handler, which raises for the error of the block. -/
theorem errors_treated_handler : ∃ l p, Path (noted fatalError) l p ∧
    (p.1.world.trace.head? matches some (.ran (.raised (.application 9 true)))) = true ∧
    Each (fun q a => ∀ c', engine.step q.1 a = some c' → Treats fatalError q.2 q.1 a c') l := by
  have reached : ((noted fatalError).exec (
      [.call (.onError ⟨[], some 5⟩), .call (.onExit ⟨[], some 7⟩)] ++ runBlock ++
      [.raise (.application 3 true), .proceed, .raise (.application 9 true), .proceed, .proceed,
        .proceed, .proceed, .proceed, .uvReturn, .proceed, .proceed, .finish, .proceed])).any
      (fun p => decide (p.1.world.trace.head? matches
        some (.ran (.raised (.application 9 true))))) = true := by
    decide +kernel
  obtain ⟨l, p, path, ended⟩ := exists_path_of_exec (noted fatalError) _ _ reached
  exact ⟨l, p, path, of_decide_eq_true ended, errors_treated path⟩

/-- `AE.run` is about to raise although no error has been noted. -/
private def raisesUnnoted (p : Config × Fatals) : Bool :=
  match p.1.ctl with
  | .back (.value _) _ (.onExit _ _ :: _) =>
    decide (p.2 = [none]) && (engine.step p.1 .proceed).any fun t =>
      decide ((t.world.trace.head? matches some (.ran (.raised _))) = true)
  | _ => false

/-- The block kills the thread of the loop, and `AE.run` raises an Interrupt. -/
theorem killed_thread_raises : ¬ ∀ l p, Path (noted fatalException) l p →
    Each (fun q a => ∀ c', engine.step q.1 a = some c' → Treats fatalException q.2 q.1 a c')
      l := by
  intro treated
  have reached : ((noted fatalException).exec (runBlock ++ [.raise .killed, .proceed, .proceed,
      .proceed, .proceed, .proceed, .uvReturn, .proceed])).any raisesUnnoted = true := by
    decide +kernel
  obtain ⟨l, p, path, unnoted⟩ := exists_path_of_exec (noted fatalException) _ _ reached
  unfold raisesUnnoted at unnoted
  split at unnoted
  · rename_i v base procs error stack ctl
    rw [Bool.and_eq_true] at unnoted
    obtain ⟨none, raises⟩ := unnoted
    replace none := of_decide_eq_true none
    obtain ⟨t, move, head⟩ := (Option.any_eq_true _ _).mp raises
    have noted_move : (noted fatalException).step p .proceed =
        some (t, p.2.note fatalException p.1 .proceed t) :=
      congrArg (Option.map fun t => (t, p.2.note fatalException p.1 .proceed t)) move
    have treats := treated _ _ (path.next noted_move) (p, .proceed) (by simp) t move
    obtain rfl := Option.some.inj (proceed_back ctl move)
    cases procs with
    | cons proc procs => cases of_decide_eq_true head
    | nil =>
      rcases treats.raised rfl with ⟨first, first_noted, result⟩ | ⟨_, _, _, _, _, -, other⟩ | other
      · rw [none] at first_noted
        obtain rfl := Option.some.inj first_noted
        replace head := of_decide_eq_true head
        simp only [World.push, List.head?_cons] at head
        rw [result] at head
        cases head
      · rw [ctl] at other
        cases other
      · obtain ⟨_, _, other⟩ := other
        rw [ctl] at other
        cases other
  · cases unnoted

end AsyncEngine.Engine.ErrorExit
