/- ae_timer.c. -/

import AsyncEngine.Engine.State

set_option autoImplicit false
set_option relaxedAutoImplicit false

namespace AsyncEngine.Engine.Timer

open AsyncEngine.Engine.Ruby
open AsyncEngine.Engine.State

def closeHandle (w : World) (n : Nat) (t : State.Timer) : World :=
  if t.uvHandle then
    match t.aeHandleId with
    | some id =>
      aeRemoveHandle (w.setTimer n
        { t with uvHandle := false, uvCloses := t.uvCloses + 1, uvActive := false }) (.timer id)
    | none => w.abort .uninitialised
  else w.abort .closeNull

/-- `init_instance` on the new instance, which is the last of the Timers. -/
def initInstance (w : World) (isPeriodicTimer : Bool) (delay interval : Int) (proc : Nat)
    (uv : UvAnswers) : World × Outcome :=
  let n := w.timers.length
  if uv.init ≠ 0 then
    ({ w with timers := w.timers ++ [{ isPeriodicTimer := isPeriodicTimer }] },
      .raised (aeGetLastUvError uv))
  else
    let t : State.Timer := {
      uvInited := true, uvHandle := true, aeHandleId := some n,
      isPeriodicTimer := isPeriodicTimer, periodic := decide (interval ≠ 0), delay := delay,
      interval := interval, onFireProc := proc }
    let w := aeStoreHandle { w with timers := w.timers ++ [t] } (.timer n)
    if uv.timerStart ≠ 0 then
      (closeHandle w n t, .raised (aeGetLastUvError uv))
    else
      (w.setTimer n { t with uvActive := true, uvTimeout := delay, uvRepeat := interval },
        .value .other)

structure NewArgs where
  delay : Int
  interval : Int
  proc : Nat

def newArgs (status : AeStatus) (args : Args) : Check NewArgs := do
  aeCheckStatus status
  checkNumArgs args 1 2
  let proc ← ensureBlockOrProc 2 args
  let delay ← delayOf args.argv[0]?
  pure ⟨delay, 0, proc⟩

def new (w : World) (args : Args) (uv : UvAnswers) : World × Outcome :=
  checked w (newArgs w.status args) fun p =>
    initInstance w false p.delay p.interval p.proc uv

/-- An optional argument: not given, or nil. -/
def isNil : Option Value → Bool
  | none => true
  | some .nil => true
  | _ => false

def periodicNewArgs (status : AeStatus) (args : Args) : Check NewArgs := do
  aeCheckStatus status
  checkNumArgs args 1 3
  let proc ← ensureBlockOrProc 3 args
  let interval ← delayOf args.argv[0]?
  let delay ← if isNil args.argv[1]? then pure interval else delayOf args.argv[1]?
  pure ⟨delay, interval, proc⟩

def periodicNew (w : World) (args : Args) (uv : UvAnswers) : World × Outcome :=
  checked w (periodicNewArgs w.status args) fun p =>
    initInstance w true p.delay p.interval p.proc uv

/-- `_uv_timer_callback` and `_ae_timer_callback`. -/
def uvTimerCallback (w : World) (n : Nat) (t : State.Timer) : World × Callback :=
  (if t.periodic then w else closeHandle w n t, .onFire n t.onFireProc)

def pause (w : World) (n : Nat) (t : State.Timer) (uv : UvAnswers) : World × Outcome :=
  checked w (checkUvHandleIsOpen t.uvHandle) fun _ =>
    if uv.timerStop ≠ 0 then (w, .raised (aeGetLastUvError uv))
    else (w.setTimer n { t with uvActive := false }, .value .true)

/-- `uv_timer_start` on the handle of the Timer, and what the method returns after it. -/
def uvTimerStart (w : World) (n : Nat) (t : State.Timer) (uvRepeat : Int) (uv : UvAnswers) :
    World × Outcome :=
  if uv.timerStart ≠ 0 then (w.setTimer n t, .raised (aeGetLastUvError uv))
  else
    (w.setTimer n { t with uvActive := true, uvTimeout := t.delay, uvRepeat := uvRepeat },
      .value .true)

def timerRestart (w : World) (n : Nat) (t : State.Timer) (args : Args) (uv : UvAnswers) :
    World × Outcome :=
  let check : Check (Option Int) := do
    checkUvHandleIsOpen t.uvHandle
    checkNumArgs args 0 1
    if isNil args.argv[0]? then pure none else some <$> delayOf args.argv[0]?
  checked w check fun delay =>
    uvTimerStart w n { t with delay := delay.getD t.delay } 0 uv

def periodicTimerRestart (w : World) (n : Nat) (t : State.Timer) (args : Args) (uv : UvAnswers) :
    World × Outcome :=
  let check : Check (Option Int) := do
    checkUvHandleIsOpen t.uvHandle
    checkNumArgs args 0 2
    if isNil args.argv[0]? then pure none else some <$> delayOf args.argv[0]?
  checked w check fun interval =>
    match interval with
    | none => uvTimerStart w n t t.interval uv
    | some interval =>
      -- The new interval is stored before the delay is converted.
      if isNil args.argv[1]? then
        uvTimerStart w n { t with interval := interval, delay := interval } interval uv
      else
        match delayOf args.argv[1]? with
        | .ok delay =>
          uvTimerStart w n { t with interval := interval, delay := delay } interval uv
        | .error result => (w.setTimer n { t with interval := interval }, .ends result)

def restart (w : World) (n : Nat) (t : State.Timer) (args : Args) (uv : UvAnswers) :
    World × Outcome :=
  if t.isPeriodicTimer then periodicTimerRestart w n t args uv else timerRestart w n t args uv

def delay (t : State.Timer) : Value :=
  if t.uvHandle then .float (Float.ofInt t.delay / 1000) else .false

def interval (t : State.Timer) : Value :=
  if t.uvHandle && t.isPeriodicTimer then .float (Float.ofInt t.uvRepeat / 1000) else .false

def isAlive (t : State.Timer) : Value := if t.uvHandle then .true else .false

def close (w : World) (n : Nat) (t : State.Timer) : World × Outcome :=
  checked w (checkUvHandleIsOpen t.uvHandle) fun _ => (closeHandle w n t, .value .true)

/-- `Timer#destroy` does what `Timer#close` does. -/
def destroy (w : World) (n : Nat) (t : State.Timer) : World × Outcome :=
  checked w (checkUvHandleIsOpen t.uvHandle) fun _ => (closeHandle w n t, .value .true)

end AsyncEngine.Engine.Timer
