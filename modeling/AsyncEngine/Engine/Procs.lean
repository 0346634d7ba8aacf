/- ae_dns.c, ae_next_tick.c and ae_call_from_other_thread.c: the procs that are not tied to a
   handle. -/

import AsyncEngine.Engine.State

set_option autoImplicit false
set_option relaxedAutoImplicit false

namespace AsyncEngine.Engine.Procs

open AsyncEngine.Engine.Ruby
open AsyncEngine.Engine.State

def resolveArgs (status : AeStatus) (args : Args) : Check Nat := do
  aeCheckStatus status
  checkNumArgs args 1 3
  let proc ← ensureBlockOrProc 3 args
  let _hostname ← stringValueCStr (← getString args.argv[0]? "hostname must be a String")
  match args.argv[1]? with
  | none => pure proc
  | some Value.nil => pure proc
  | some family =>
    let _aiFamily ← fix2int (← getFixnum (some family) "IP family must be a Fixnum")
    pure proc

def resolve (w : World) (args : Args) (uv : UvAnswers) : World × Outcome :=
  checked w (resolveArgs w.status args) fun proc =>
    if uv.getaddrinfo ≠ 0 then (w, .raised (aeGetLastUvError uv))
    else
      let w := aeStoreProc w proc
      let w := { w with lookups := w.lookups ++ [w.procLongId] }
      (w.push (.accepted (.proc w.procLongId) proc), .value .true)

def errorOf {α : Type} : Except RubyError α → Option RubyError
  | .ok _ => none
  | .error error => some error

/-- `_uv_getaddrinfo_callback` and `_ae_getaddrinfo_callback` for a request that is no longer
pending. -/
def uvGetaddrinfoCallback (w : World) (procId : Nat)
    (result : Except RubyError (List (List UInt8))) : World × Option Callback :=
  let w := w.push (.completed (.proc procId) (errorOf result) w.status)
  let (w, proc) := aeRemoveProc w procId
  if w.status = .releasing then (w, none)
  else
    match proc with
    | some proc => (w, some (.onResult procId proc result))
    | none => (w.abort .assertion, none)

def tickArgs (status : AeStatus) (args : Args) : Check Nat := do
  aeCheckStatus status
  checkNumArgs args 0 1
  ensureBlockOrProc 1 args

/-- The body of `next_tick` after its checks. `AE_ASSERT(r == 0)` on `uv_idle_start` holds: libuv
starts an idle handle without fail. -/
def pushNextTick (w : World) (tick : Tick) : World :=
  match w.nextTickUvIdle with
  | none => w.abort .assertion
  | some _ =>
    { w with nextTickProcs := w.nextTickProcs ++ [tick], nextTickUvIdle := some true }

def nextTick (w : World) (args : Args) : World × Outcome :=
  checked w (tickArgs w.status args) fun proc => (pushNextTick w (.user proc), .value .true)

/-- The body of `call_from_other_thread` after its checks. `AE_ASSERT(r == 0)` on `uv_async_send`
holds: libuv sends to an async handle without fail. -/
def pushCallFromOtherThread (w : World) (tick : Tick) : World :=
  match w.callFromOtherThreadUvAsync with
  | none => w.abort .useNull
  | some _ =>
    { w with
      callFromOtherThreadProcs := w.callFromOtherThreadProcs ++ [tick]
      callFromOtherThreadUvAsync := some true }

def callFromOtherThread (w : World) (args : Args) : World × Outcome :=
  checked w (tickArgs w.status args) fun proc =>
    (pushCallFromOtherThread w (.user proc), .value .true)

def aeIsRunningThread (w : World) : Bool := w.thread = some w.currentThread

def stop (w : World) : World × Outcome :=
  checked w (aeCheckStatus w.status) fun _ =>
    (if aeIsRunningThread w then pushNextTick w .releaseLoop
      else pushCallFromOtherThread w .releaseLoop, .value .true)

/-- The block of `AE.on_error` and of `AE.on_exit`. -/
def blockOf (args : Args) : Check Nat :=
  match args.argv with
  | [] | [.nil] | [.false] =>
    match args.block with
    | some proc => pure proc
    | none => rbRaise (.argument "no block given")
  | [.proc proc] => pure proc
  | [_] => rbRaise (.argument "no block given")
  | _ => rbRaise (.argument "wrong number of arguments")

def onError (w : World) (args : Args) : World × Outcome :=
  checked w (blockOf args) fun proc =>
    ({ w with userErrorHandler := some proc }, .value (.proc proc))

def unsetOnError (w : World) : World × Outcome :=
  ({ w with userErrorHandler := none }, .value .nil)

def onExit (w : World) (args : Args) : World × Outcome :=
  checked w (blockOf args) fun proc =>
    ({ w with onExitProcs := w.onExitProcs ++ [proc] }, .value .other)

def unsetOnExit (w : World) : World × Outcome := ({ w with onExitProcs := [] }, .value .other)

end AsyncEngine.Engine.Procs
