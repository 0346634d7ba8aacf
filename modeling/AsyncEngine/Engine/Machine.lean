/- asyncengine_ruby.c and the error handling of ae_handle_common.c: `AE.run`, the release of the
   loop, and the steps that user code, libuv and other threads take. -/

import AsyncEngine.Lib.Run
import AsyncEngine.Engine.Timer
import AsyncEngine.Engine.Udp
import AsyncEngine.Engine.Tcp
import AsyncEngine.Engine.Procs

set_option autoImplicit false
set_option relaxedAutoImplicit false

namespace AsyncEngine.Engine.Machine

open AsyncEngine.Lib.Run
open AsyncEngine.Engine.Ruby
open AsyncEngine.Engine.State

/-- What the frames of a stack stand on: a program outside of `uv_run` (the main program, or the
caller of `AE.run` whose epilogue runs), a callback of libuv, or the interrupt checks of
`rb_thread_call_without_gvl` before it enters `uv_run` or after it has left. -/
inductive Base
  | outside
  | loop
  | ints (entering : Bool)
deriving DecidableEq

/-- Where the thread of the loop is: in user code, which the frames wait for, in C code whose
callee has ended, or in `rb_thread_call_without_gvl`, about to enter `uv_run`, in it or about to
leave. `waking` is in `_uv_async_callback`, which waits for the GVL. -/
inductive Ctl
  | code (base : Base) (stack : List Frame)
  | back (result : Return) (base : Base) (stack : List Frame)
  | entering
  | inUv
  | waking
  | leaving

/-- `callers` holds, for each `AE.run` whose loop has not ended, the code that called it. -/
structure Config where
  world : World
  ctl : Ctl
  callers : List (Base × List Frame)

/-- What libuv reports, with the answers it gives to the calls of its callback. -/
inductive UvEvent
  | idle
  | callFromOtherThread
  | ubf
  | timer (n : Nat)
  | recv (n : Nat) (received : Option (List UInt8 × List UInt8))
  | sent (k : Nat) (error : Option Int)
  | resolved (k : Nat) (result : Except Int (List (List UInt8)))
  | connect (n : Nat) (error : Option Int) (uv : UvAnswers)
  | read (n : Nat) (read : Tcp.Read) (uv : UvAnswers)
  | write (k : Nat) (error : Option Int)
  | shutdown (n : Nat) (error : Option Int)
  | connectTimeout (n k : Nat)

/-- `finish` and `raise` end the running user code, `proceed` lets the C code go on,
`interrupt` makes Ruby run pending interrupts (signal handlers, or an exception for the thread)
at one of the two points where `rb_thread_call_without_gvl` does so, `other` is a call made by
another thread. -/
inductive Action
  | call (call : Call)
  | finish
  | raise (error : RubyError)
  | proceed
  | event (event : UvEvent)
  | uvReturn
  | interrupt
  | other (thread : Nat) (call : Call)
  | threadEnds
  | fork (pid : Int)

/-- `ae_release_loop` up to `rb_hash_foreach`. -/
def aeReleaseLoop (w : World) (base : Base) (stack : List Frame) : World × Ctl :=
  match w.status with
  | .running =>
    ({ w with status := .releasing, nextTickProcs := [], callFromOtherThreadProcs := [] },
      .back (.value .nil) base (.release w.handles :: stack))
  | _ => (w, .back (.value .nil) base stack)

/-- `destroy_handle`: the method `destroy` of the handle. -/
def destroyHandle (w : World) : Handle → World × Outcome
  | .timer n =>
    match w.timers[n]? with
    | some t => Timer.destroy w n t
    | none => (w, .value .nil)
  | .udp n =>
    match w.udps[n]? with
    | some u => Udp.destroy w n u
    | none => (w, .value .nil)
  | .tcp n =>
    match w.tcps[n]? with
    | some t => Tcp.destroy w n t
    | none => (w, .value .nil)

/-- `ae_release_loop` after `rb_hash_foreach`. -/
def closeInternalHandles (w : World) : World :=
  if w.nextTickUvIdle.isNone ∨ w.callFromOtherThreadUvAsync.isNone ∨ w.ubfUvAsync.isNone then
    w.abort .assertion
  else
    { w with
      nextTickUvIdle := none, callFromOtherThreadUvAsync := none, ubfUvAsync := none, procs := [] }

/-- `rb_hash_foreach` in `ae_release_loop`: keys that were deleted meanwhile are skipped. -/
def releaseNext (w : World) (keys : List Handle) (base : Base) (stack : List Frame) :
    World × Ctl :=
  match keys with
  | [] => (closeInternalHandles w, .back (.value .nil) base stack)
  | key :: keys =>
    if key ∈ w.handles then
      let stack := .protect :: .release keys :: stack
      match destroyHandle w key with
      | (w, .ends result) => (w, .back result base stack)
      | (w, .calls callback frame) => (w.start callback, .code base (frame :: stack))
    else (w, .back (.value .nil) base (.release keys :: stack))

def aeHandleError (w : World) (error : RubyError) (base : Base) (stack : List Frame) :
    World × Ctl :=
  match w.userErrorHandler, error.isStandard with
  | some handler, true =>
    (w.start (.errorHandler handler error), .code base (.handleError :: stack))
  | _, _ =>
    let error := if error = .killed then
        .interrupt ("Thread killed (AsyncEngine workaround for " ++
          "https://github.com/ibc/AsyncEngine/issues/4)")
      else error
    aeReleaseLoop { w with exitError := some error } base stack

/-- `_ae_idle_callback` and `_ae_async_callback` between two procs. -/
def batchNext (w : World) (fromOtherThread : Bool) (procs : List Tick) (base : Base)
    (stack : List Frame) : World × Ctl :=
  match procs with
  | [] => (w, .back (.value .nil) base stack)
  | tick :: procs =>
    if w.status ≠ .running then (w, .back (.value .nil) base stack)
    else
      let stack := .protect :: .batch fromOtherThread procs :: stack
      match tick with
      | .releaseLoop => aeReleaseLoop w base stack
      | .user proc =>
        (w.start (if fromOtherThread then .callFromOtherThread proc else .nextTick proc),
          .code base stack)

/-- `AsyncEngine_run` between two procs of `@_on_exit_procs`, and its end. -/
def onExitNext (w : World) (procs : List Nat) (capturedError : Option RubyError) (base : Base)
    (stack : List Frame) : World × Ctl :=
  match procs with
  | proc :: procs =>
    (w.start (.onExit proc capturedError), .code base (.onExit procs capturedError :: stack))
  | [] =>
    let result : Return := match capturedError with
      | none => .value .true
      | some .killed => .value .true
      | some error => .raised error
    (w.push (.ran result), .code base stack)

/-- The frame goes on after the function it waited for has ended. A batch and a release wait for
protected functions, which never raise. -/
def resume (w : World) (result : Return) (frame : Frame) (base : Base) (stack : List Frame) :
    World × Ctl :=
  match frame, result with
  | .protect, .value v => (w, .back (.value v) base stack)
  | .protect, .raised error =>
    if w.status = .releasing then (w, .back (.value .nil) base stack)
    else aeHandleError w error base stack
  | .batch fromOtherThread procs, _ => batchNext w fromOtherThread procs base stack
  | .handleError, .value _ => (w, .back (.value .nil) base stack)
  | .handleError, .raised error => aeReleaseLoop { w with exitError := some error } base stack
  | .release keys, _ => releaseNext w keys base stack
  | .destroying _, .value _ => (w, .back (.value .true) base stack)
  | .destroying _, .raised error => (w, .back (.raised error) base stack)
  | .closing n, .value _ => (w.push (.returned (.tcpClose n) (.value .true)), .code base stack)
  | .closing n, .raised error =>
    (w.push (.returned (.tcpClose n) (.raised error)), .code base stack)
  | .onExit procs capturedError, .value _ => onExitNext w procs capturedError base stack
  | .onExit _ _, .raised error => (w.push (.ran (.raised error)), .code base stack)

def answer (w : World) : Query → Option Value
  | .timerDelay n => w.timers[n]?.map Timer.delay
  | .timerInterval n => w.timers[n]?.map Timer.interval
  | .timerAlive n => w.timers[n]?.map Timer.isAlive
  | .udpIpType n => w.udps[n]?.map Udp.ipType
  | .udpIsPaused n => w.udps[n]?.map Udp.isPaused
  | .udpEncoding n => w.udps[n]?.map Udp.encoding
  | .udpAlive n => w.udps[n]?.map Udp.isAlive
  | .tcpStatus n => w.tcps[n]?.map Tcp.status
  | .tcpIsConnected n => w.tcps[n]?.map Tcp.isConnected
  | .tcpAlive n => w.tcps[n]?.map Tcp.isAlive
  | .isRunning => some (if w.status = .running then .true else .false)
  | .isRunningThread => some (if Procs.aeIsRunningThread w then .true else .false)

/-- The method for a call, if its receiver exists; `AE.run` is apart. -/
def dispatch (w : World) : Call → Option (World × Outcome)
  | .run _ _ => none
  | .stop => some (Procs.stop w)
  | .nextTick args => some (Procs.nextTick w args)
  | .callFromOtherThread args => some (Procs.callFromOtherThread w args)
  | .onError args => some (Procs.onError w args)
  | .unsetOnError => some (Procs.unsetOnError w)
  | .onExit args => some (Procs.onExit w args)
  | .unsetOnExit => some (Procs.unsetOnExit w)
  | .query question => (answer w question).map fun v => (w, .value v)
  | .timerNew args uv => some (Timer.new w args uv)
  | .periodicTimerNew args uv => some (Timer.periodicNew w args uv)
  | .timerPause n uv => w.timers[n]?.map fun t => Timer.pause w n t uv
  | .timerRestart n args uv => w.timers[n]?.map fun t => Timer.restart w n t args uv
  | .timerClose n => w.timers[n]?.map fun t => Timer.close w n t
  | .udpNew args uv => some (Udp.new w args uv)
  | .udpSendDatagram n args uv => w.udps[n]?.map fun u => Udp.sendDatagram w n u args uv
  | .udpLocalAddress n uv => w.udps[n]?.map fun u => Udp.localAddress w u uv
  | .udpPause n => w.udps[n]?.map fun u => Udp.pause w n u
  | .udpResume n => w.udps[n]?.map fun u => Udp.resume w n u
  | .udpSetEncoding n encoding => w.udps[n]?.map fun u => Udp.setEncoding w n u encoding
  | .udpClose n => w.udps[n]?.map fun u => Udp.close w n u
  | .dnsResolve args uv => some (Procs.resolve w args uv)
  | .tcpNew args uv => some (Tcp.new w args uv)
  | .tcpSendData n args uv => w.tcps[n]?.map fun t => Tcp.sendData w n t args uv
  | .tcpLocalAddress n uv => w.tcps[n]?.map fun t => Tcp.localAddress w t uv
  | .tcpPeerAddress n uv => w.tcps[n]?.map fun t => Tcp.peerAddress w t uv
  | .tcpSetConnectTimeout n timeout uv =>
    w.tcps[n]?.map fun t => Tcp.setConnectTimeout w n t timeout uv
  | .tcpClose n => w.tcps[n]?.map fun t => Tcp.close w n t
  | .tcpCloseGracefully n args uv => w.tcps[n]?.map fun t => Tcp.closeGracefully w n t args uv

/-- User code goes on after the call, or in the callback that the method started. -/
def afterCall (call : Call) (base : Base) (stack : List Frame) : World × Outcome → World × Ctl
  | (w, .ends result) => (w.push (.returned call result), .code base stack)
  | (w, .calls callback frame) => (w.start callback, .code base (frame :: stack))

/-- `ae_uv_num_active_handlers() == 0`. -/
def noActiveHandles (w : World) : Bool :=
  w.nextTickUvIdle.isNone && w.callFromOtherThreadUvAsync.isNone && w.ubfUvAsync.isNone &&
  w.timers.all (fun t => !t.uvInited || t.uvCloses != 0) &&
  w.udps.all (fun u => !u.uvInited || u.uvCloses != 0) &&
  w.tcps.all fun t => (!t.uvInited || t.uvCloses != 0) && t.uvTimers.all (·.closes != 0)

/-- `ae_uv_num_active_reqs() == 0`. -/
def noActiveReqs (w : World) : Bool :=
  w.tcpWrites.isEmpty && w.udpSends.isEmpty && w.lookups.isEmpty &&
  w.tcps.all fun t => !t.uvConnect && t.uvShutdowns == 0

def runArgs (args : Args) : Check Nat := do
  checkNumArgs args 0 1
  ensureBlockOrProc 1 args

/-- `AsyncEngine_run` when `AE_status` is `AE_RUNNING`. -/
def runWhileRunning (w : World) (proc : Nat) : World × Outcome :=
  if w.getpid ≠ w.pid then
    (w, .raised (.engine
      "cannot run AsyncEngine from a forked process while already running"))
  else if Procs.aeIsRunningThread w then (Procs.pushNextTick w (.user proc), .value .true)
  else (Procs.pushCallFromOtherThread w (.user proc), .value .true)

/-- `AsyncEngine_run` from the lock of `AE_mutex` to the call of
`rb_thread_call_without_gvl`. -/
def startLoop (w : World) (proc : Nat) (uv : UvAnswers) : World :=
  if w.nextTickUvIdle.isSome ∨ w.callFromOtherThreadUvAsync.isSome ∨ w.ubfUvAsync.isSome ∨
      uv.init ≠ 0 then
    w.abort .assertion
  else
    let w := Procs.pushNextTick
      { w with
        mutex := some w.currentThread, uvLoop := true, thread := some w.currentThread,
        pid := w.getpid, nextTickUvIdle := some false, callFromOtherThreadUvAsync := some false,
        ubfUvAsync := some false, status := .running } (.user proc)
    if noActiveReqs w then w else w.abort .assertion

/-- `AsyncEngine_run`; the call is refused while another thread holds `AE_mutex`. -/
def stepRun (c : Config) (base : Base) (stack : List Frame) (args : Args) (uv : UvAnswers) :
    Option Config :=
  let w := c.world
  let done (result : World × Outcome) : Option Config :=
    let (w, ctl) := afterCall (.run args uv) base stack result
    some { c with world := w, ctl := ctl }
  match runArgs args with
  | .error result => done (w, .ends result)
  | .ok proc =>
    if w.status = .running then done (runWhileRunning w proc)
    else
      match w.mutex with
      | some owner =>
        if owner = w.currentThread then
          done (w, .raised (.thread "deadlock; recursive locking"))
        else none
      | none =>
        if w.status = .releasing then done (w, .value .nil)
        else some {
          world := startLoop w proc uv, ctl := .entering, callers := (base, stack) :: c.callers }

/-- `AsyncEngine_run` from the end of the loop to the procs of `@_on_exit_procs`. -/
def endLoop (c : Config) (base : Base) (stack : List Frame)
    (callers : List (Base × List Frame)) : Config :=
  let w := c.world
  if noActiveHandles w && noActiveReqs w then
    { world := { w with
        uvLoop := false, thread := none, pid := -1, exitError := none, status := .stopped,
        mutex := none, onExitProcs := [] }
      ctl := .back (.value .nil) base (.onExit w.onExitProcs w.exitError :: stack)
      callers := callers }
  else { c with world := c.world.abort .assertion }

/-- User code can end, unless it is the main program. -/
def canEnd (base : Base) (stack : List Frame) : Bool :=
  match base, stack with
  | .ints _, _ => true
  | _, [] => false
  | _, _ => true

def stepCode (c : Config) (base : Base) (stack : List Frame) : Action → Option Config
  | .call (.run args uv) => stepRun c base stack args uv
  | .call call =>
    (dispatch c.world call).map fun result =>
      let (w, ctl) := afterCall call base stack result
      { c with world := w, ctl := ctl }
  | .finish =>
    if canEnd base stack then some { c with ctl := .back (.value .nil) base stack } else none
  | .raise error =>
    if canEnd base stack then some { c with ctl := .back (.raised error) base stack } else none
  | .threadEnds =>
    if base = .outside ∧ stack.isEmpty ∧ c.callers.isEmpty then
      let w := c.world
      some { c with world := { w with
        currentThread := w.currentThread + 1
        mutex := if w.mutex = some w.currentThread then none else w.mutex } }
    else none
  | .fork pid => some { c with world := { c.world with getpid := pid } }
  | _ => none

def stepBack (c : Config) (result : Return) (base : Base) : List Frame → Option Config
  | frame :: stack =>
    let (w, ctl) := resume c.world result frame base stack
    some { c with world := w, ctl := ctl }
  | [] =>
    match base, result with
    | .outside, _ => none
    | .loop, _ => some { c with ctl := .inUv }
    | .ints true, .value _ => some { c with ctl := .entering }
    | .ints false, .value _ => some { c with ctl := .leaving }
    | .ints _, .raised error =>
      -- The exception leaves `rb_thread_call_without_gvl` and `AsyncEngine_run`.
      match c.callers with
      | (base, stack) :: callers => some {
          world := c.world.push (.ran (.raised error)), ctl := .code base stack,
          callers := callers }
      | [] => none

/-- `ae_take_gvl_and_run_with_error_handler`, for the user code that the callback starts. -/
def takeGvl (c : Config) : World × Option Callback → Config
  | (w, none) => { c with world := w }
  | (w, some callback) =>
    if w.status = .stopped then { c with world := c.world.abort .assertion }
    else { c with world := w.start callback, ctl := .code .loop [.protect] }

/-- `_ae_idle_callback` and `_ae_async_callback` up to the first proc. -/
def takeBatch (c : Config) (w : World) (fromOtherThread : Bool) (procs : List Tick) : Config :=
  if w.status ≠ .running then { c with world := c.world.abort .assertion }
  else { c with
    world := w, ctl := .back (.value .nil) .loop [.batch fromOtherThread procs, .protect] }

/-- A request fails if its handle was closed first: `uv_close` cancels what is pending, as uv.h
says. -/
def mayEnd {α : Type} (uvCloses : Nat) (error : Option α) : Bool := uvCloses == 0 || error.isSome

/-- The callbacks libuv can call, of active handles and of pending requests: the world after the
C part and the user code to start. The callbacks of the two queues are apart. -/
def uvCallback (w : World) : UvEvent → Option (World × Option Callback)
  | .idle => none
  | .callFromOtherThread => none
  | .ubf =>
    if w.ubfUvAsync.isSome then
      some (w, if w.status = .running then some .checkInts else none)
    else none
  | .timer n =>
    match w.timers[n]? with
    | none => none
    | some t =>
      if t.uvActive then
        let t := { t with uvActive := decide (t.uvRepeat ≠ 0) }
        let (w, callback) := Timer.uvTimerCallback (w.setTimer n t) n t
        some (w, some callback)
      else none
  | .recv n received =>
    match w.udps[n]? with
    | none => none
    | some u => if u.uvReceiving then some (Udp.uvRecvCallback w n u received) else none
  | .sent k error =>
    match w.udpSends[k]? with
    | none => none
    | some send =>
      match w.udps[send.socket]? with
      | none => none
      | some u =>
        if mayEnd u.uvCloses error then
          some (Udp.uvSendCallback { w with udpSends := w.udpSends.eraseIdx k } send
            (error.map .uv))
        else none
  | .resolved k result =>
    match w.lookups[k]? with
    | none => none
    | some procId =>
      some (Procs.uvGetaddrinfoCallback { w with lookups := w.lookups.eraseIdx k } procId
        (result.mapError .uv))
  | .connect n error uv =>
    match w.tcps[n]? with
    | none => none
    | some t =>
      if t.uvConnect && mayEnd t.uvCloses error then
        some (Tcp.uvConnectCallback w n t error uv)
      else none
  | .read n read uv =>
    match w.tcps[n]? with
    | none => none
    | some t => if t.uvReading then some (Tcp.uvReadCallback w n t read uv) else none
  | .write k error =>
    match w.tcpWrites[k]? with
    | none => none
    | some write =>
      match w.tcps[write.socket]? with
      | none => none
      | some t =>
        if mayEnd t.uvCloses error then
          some (Tcp.uvWriteCallback { w with tcpWrites := w.tcpWrites.eraseIdx k } t write
            (error.map .uv))
        else none
  | .shutdown n error =>
    match w.tcps[n]? with
    | none => none
    | some t =>
      if t.uvShutdowns ≠ 0 ∧ mayEnd t.uvCloses error then
        some (Tcp.uvShutdownCallback w n { t with uvShutdowns := t.uvShutdowns - 1 })
      else none
  | .connectTimeout n k =>
    match w.tcps[n]? with
    | none => none
    | some t =>
      match t.uvTimers[k]? with
      | none => none
      | some timer =>
        if timer.active then
          let t := { t with uvTimers := t.uvTimers.set k { timer with active := false } }
          some (Tcp.uvTimerConnectTimeoutCallback w n t, none)
        else none

def stepEvent (c : Config) : UvEvent → Option Config
  | .idle =>
    if c.world.nextTickUvIdle = some true then
      let w := c.world
      some (takeBatch c { w with nextTickUvIdle := some false, nextTickProcs := [] } false
        w.nextTickProcs)
    else none
  | .callFromOtherThread =>
    if c.world.callFromOtherThreadUvAsync = some true then
      some { c with
        world := { c.world with callFromOtherThreadUvAsync := some false }, ctl := .waking }
    else none
  | event => (uvCallback c.world event).map (takeGvl c)

/-- A call that another thread makes, which does not touch the handles. -/
def stepOther (c : Config) (thread : Nat) (call : Call) : Option Config :=
  let w := { c.world with currentThread := thread }
  let done (result : World × Outcome) : Option Config :=
    some { c with world := { result.1 with currentThread := c.world.currentThread } }
  if thread = c.world.currentThread then none
  else
    match call with
    | .stop => done (Procs.stop w)
    | .callFromOtherThread args => done (Procs.callFromOtherThread w args)
    | .run args _ =>
      if w.status = .running then done (checked w (runArgs args) (runWhileRunning w)) else none
    | _ => none

/-- Pending interrupts run at no other points than the two of `rb_thread_call_without_gvl`, since
`rb_thread_call_with_gvl` checks for none, and user code ends by returning or by raising: it leaves
no method of the extension by `throw` or `break`. -/
def step (c : Config) (action : Action) : Option Config :=
  if c.world.fault.isSome then none
  else
    match c.ctl, action with
    | .code _ _, .other thread call => stepOther c thread call
    | .inUv, .other thread call => stepOther c thread call
    | .waking, .other thread call => stepOther c thread call
    | .code base stack, action => stepCode c base stack action
    | .back result base stack, .proceed => stepBack c result base stack
    | .entering, .proceed => some { c with ctl := .inUv }
    | .entering, .interrupt => some { c with ctl := .code (.ints true) [] }
    | .inUv, .event event => stepEvent c event
    | .waking, .proceed =>
      let w := c.world
      some (takeBatch c { w with callFromOtherThreadProcs := [] } true w.callFromOtherThreadProcs)
    -- `uv_run` returns when it has neither a handle nor a request left.
    | .inUv, .uvReturn =>
      if noActiveHandles c.world && noActiveReqs c.world then some { c with ctl := .leaving }
      else none
    | .leaving, .interrupt => some { c with ctl := .code (.ints false) [] }
    | .leaving, .proceed =>
      match c.callers with
      | (base, stack) :: callers => some (endLoop c base stack callers)
      | [] => none
    | _, _ => none

/-- The extension as its `Init` function leaves it, and user code about to call it. -/
def engine : System Config Action where
  init := { world := {}, ctl := .code .outside [], callers := [] }
  step := step

/-- A program that calls `AE.run`, up to its block. -/
def runBlock : List Action := [.call (.run ⟨[], some 0⟩ {}), .proceed, .event .idle, .proceed]

/-- Its block stops the loop, which then ends, up to the first step of its epilogue. -/
def stoppedLoop : List Action :=
  runBlock ++ [.call .stop, .finish, .proceed, .proceed, .proceed, .proceed, .event .idle,
    .proceed, .proceed, .proceed, .proceed, .proceed, .proceed, .uvReturn, .proceed, .proceed]

/-- Its block makes a TCPSocket to 127.0.0.1, and the loop goes on until that is connected. -/
def connectSocket : List Action :=
  runBlock ++ [
    .call (.tcpNew ⟨[.string [49, 50, 55, 46, 48, 46, 48, 46, 49], .fixnum 5060], none⟩ {}),
    .finish, .proceed, .proceed, .proceed, .proceed, .event (.connect 0 none {})]

end AsyncEngine.Engine.Machine
