/- What a step of the engine can be. Every invariant is derived from this one analysis. -/

import AsyncEngine.Engine.Effects

set_option autoImplicit false
set_option relaxedAutoImplicit false

namespace AsyncEngine.Engine.Steps

open AsyncEngine.Lib.Run
open AsyncEngine.Engine.Ruby
open AsyncEngine.Engine.State
open AsyncEngine.Engine.Machine
open AsyncEngine.Engine.Effects

/-- What `TCPSocket#close` makes of an open and connected socket. -/
def closedSocket (w : World) (n : Nat) (t : State.Tcp) : World :=
  aeRemoveHandle (w.setTcp n (Tcp.cancelTimerConnectTimeout (Tcp.closeUvHandle t))) (.tcp n)

/-- What `TCPSocket#destroy` makes of an open and connected socket. -/
def destroyedSocket (w : World) (n : Nat) (t : State.Tcp) : World :=
  aeRemoveHandle (w.setTcp n
    { Tcp.cancelTimerConnectTimeout (Tcp.closeUvHandle t) with releasing := true }) (.tcp n)

/-- The proc that a queue holds for the batch callback. -/
def tickCallback (fromOtherThread : Bool) (proc : Nat) : Callback :=
  if fromOtherThread then .callFromOtherThread proc else .nextTick proc

/-- The stack on which `ae_release_loop` runs, when it is called for a frame above `stack`. -/
def ReleaseStack (stack below : List Frame) : Prop :=
  below = stack ∨ ∃ o procs, below = .protect :: .batch o procs :: stack

/-- Frames that end without an effect of their own. -/
def silent : Frame → Prop
  | .protect => True
  | .batch _ _ => True
  | .handleError => True
  | .destroying _ => True
  | _ => False

/-- Frames that can call `ae_release_loop`. -/
def fatal : Frame → Prop
  | .protect => True
  | .batch _ _ => True
  | .handleError => True
  | _ => False

/-- What `TCPSocket#close` returns after `on_disconnected`. -/
def closeResult : Return → Return
  | .value _ => .value .true
  | .raised error => .raised error

inductive Step (c : Config) : Action → Config → Prop
  | other {thread : Nat} {call : Call} {w : World} (frame : QueueFrame c.world w) :
      Step c (.other thread call) { c with world := w }
  | call {base : Base} {stack : List Frame} {call : Call} {w : World} {result : Return}
      (ctl : c.ctl = .code base stack) (method : dispatch c.world call = some (w, .ends result)) :
      Step c (.call call)
        { c with world := w.push (.returned call result), ctl := .code base stack }
  | close {base : Base} {stack : List Frame} {n : Nat} {t : State.Tcp}
      (ctl : c.ctl = .code base stack) (socket : c.world.tcps[n]? = some t)
      (opened : t.uvHandle = true) (connected : t.status = .connected)
      (method : dispatch c.world (.tcpClose n) =
        some (closedSocket c.world n t, .calls (.onDisconnected n none) (.closing n))) :
      Step c (.call (.tcpClose n)) { c with
        world := (closedSocket c.world n t).start (.onDisconnected n none)
        ctl := .code base (.closing n :: stack) }
  | runReturns {base : Base} {stack : List Frame} {args : Args} {uv : UvAnswers} {w : World}
      {result : Return} (ctl : c.ctl = .code base stack) (frame : QueueFrame c.world w) :
      Step c (.call (.run args uv))
        { c with world := w.push (.returned (.run args uv) result), ctl := .code base stack }
  | runStarts {base : Base} {stack : List Frame} {args : Args} {uv : UvAnswers} {proc : Nat}
      (ctl : c.ctl = .code base stack) (stopped : c.world.status = .stopped)
      (free : c.world.mutex = none) :
      Step c (.call (.run args uv)) {
        world := startLoop c.world proc uv, ctl := .entering,
        callers := (base, stack) :: c.callers }
  | codeEnds {base : Base} {stack : List Frame} {a : Action} {result : Return}
      (ctl : c.ctl = .code base stack) (can : canEnd base stack = true) :
      Step c a { c with ctl := .back result base stack }
  | threadEnds {mutex : Option Nat} (ctl : c.ctl = .code .outside []) (alone : c.callers = [])
      (kept : mutex = none ∨ mutex = c.world.mutex) :
      Step c .threadEnds { c with world := { c.world with
        currentThread := c.world.currentThread + 1, mutex := mutex } }
  | fork {pid : Int} : Step c (.fork pid) { c with world := { c.world with getpid := pid } }
  | pops {result result' : Return} {base : Base} {frame : Frame} {stack : List Frame}
      (ctl : c.ctl = .back result base (frame :: stack)) (quiet : silent frame) :
      Step c .proceed { c with ctl := .back result' base stack }
  | handles {error : RubyError} {handler : Nat} {base : Base} {stack : List Frame}
      (ctl : c.ctl = .back (.raised error) base (.protect :: stack))
      (not_releasing : c.world.status ≠ .releasing) :
      Step c .proceed { c with
        world := c.world.start (.errorHandler handler error)
        ctl := .code base (.handleError :: stack) }
  | releases {result : Return} {base : Base} {frame : Frame} {stack below : List Frame}
      {exitError : Option RubyError} (ctl : c.ctl = .back result base (frame :: stack))
      (calls : fatal frame) (running : c.world.status = .running)
      (on : ReleaseStack stack below) :
      Step c .proceed { c with
        world := { c.world with
          exitError := exitError, status := .releasing, nextTickProcs := [],
          callFromOtherThreadProcs := [] }
        ctl := .back (.value .nil) base (.release c.world.handles :: below) }
  | releasesNot {result : Return} {base : Base} {frame : Frame} {stack below : List Frame}
      {exitError : Option RubyError} (ctl : c.ctl = .back result base (frame :: stack))
      (calls : fatal frame) (on : ReleaseStack stack below) :
      Step c .proceed { c with
        world := { c.world with exitError := exitError }, ctl := .back (.value .nil) base below }
  | tick {result : Return} {base : Base} {fromOtherThread : Bool} {proc : Nat}
      {procs : List Tick} {stack : List Frame}
      (ctl : c.ctl = .back result base (.batch fromOtherThread (.user proc :: procs) :: stack))
      (running : c.world.status = .running) :
      Step c .proceed { c with
        world := c.world.start (tickCallback fromOtherThread proc)
        ctl := .code base (.protect :: .batch fromOtherThread procs :: stack) }
  | skipsKey {result : Return} {base : Base} {key : Handle} {keys : List Handle}
      {stack : List Frame} (ctl : c.ctl = .back result base (.release (key :: keys) :: stack))
      (deleted : key ∉ c.world.handles) :
      Step c .proceed { c with ctl := .back (.value .nil) base (.release keys :: stack) }
  | destroys {result result' : Return} {base : Base} {key : Handle} {keys : List Handle}
      {stack : List Frame} {w : World}
      (ctl : c.ctl = .back result base (.release (key :: keys) :: stack))
      (stored : key ∈ c.world.handles)
      (method : destroyHandle c.world key = (w, .ends result')) :
      Step c .proceed { c with
        world := w, ctl := .back result' base (.protect :: .release keys :: stack) }
  | disconnects {result : Return} {base : Base} {n : Nat} {keys : List Handle}
      {stack : List Frame} {t : State.Tcp}
      (ctl : c.ctl = .back result base (.release (.tcp n :: keys) :: stack))
      (stored : .tcp n ∈ c.world.handles) (socket : c.world.tcps[n]? = some t)
      (opened : t.uvHandle = true) (connected : t.status = .connected)
      (method : destroyHandle c.world (.tcp n) =
        (destroyedSocket c.world n t, .calls (.onDisconnected n none) (.destroying n))) :
      Step c .proceed { c with
        world := (destroyedSocket c.world n t).start (.onDisconnected n none)
        ctl := .code base (.destroying n :: .protect :: .release keys :: stack) }
  | released {result : Return} {base : Base} {stack : List Frame}
      (ctl : c.ctl = .back result base (.release [] :: stack)) :
      Step c .proceed { c with
        world := closeInternalHandles c.world, ctl := .back (.value .nil) base stack }
  | closeReturns {result : Return} {base : Base} {n : Nat} {stack : List Frame}
      (ctl : c.ctl = .back result base (.closing n :: stack)) :
      Step c .proceed { c with
        world := c.world.push (.returned (.tcpClose n) (closeResult result))
        ctl := .code base stack }
  | exitProc {v : Value} {base : Base} {proc : Nat} {procs : List Nat}
      {error : Option RubyError} {stack : List Frame}
      (ctl : c.ctl = .back (.value v) base (.onExit (proc :: procs) error :: stack)) :
      Step c .proceed { c with
        world := c.world.start (.onExit proc error)
        ctl := .code base (.onExit procs error :: stack) }
  | runEnds {result result' : Return} {base : Base} {procs : List Nat}
      {error : Option RubyError} {stack : List Frame}
      (ctl : c.ctl = .back result base (.onExit procs error :: stack)) :
      Step c .proceed { c with world := c.world.push (.ran result'), ctl := .code base stack }
  | loops {result : Return} (ctl : c.ctl = .back result .loop []) :
      Step c .proceed { c with ctl := .inUv }
  | intsReturn {result : Return} {entering : Bool}
      (ctl : c.ctl = .back result (.ints entering) []) :
      Step c .proceed { c with ctl := if entering then .entering else .leaving }
  | intsRaise {error : RubyError} {entering : Bool} {base : Base} {stack : List Frame}
      {callers : List (Base × List Frame)}
      (ctl : c.ctl = .back (.raised error) (.ints entering) [])
      (caller : c.callers = (base, stack) :: callers) :
      Step c .proceed {
        world := c.world.push (.ran (.raised error)), ctl := .code base stack,
        callers := callers }
  | enters (ctl : c.ctl = .entering) : Step c .proceed { c with ctl := .inUv }
  | interrupts (entering : Bool) (ctl : c.ctl = if entering then .entering else .leaving) :
      Step c .interrupt { c with ctl := .code (.ints entering) [] }
  | idleBatch (ctl : c.ctl = .inUv) (running : c.world.status = .running)
      (active : c.world.nextTickUvIdle = some true) :
      Step c (.event .idle) { c with
        world := { c.world with nextTickUvIdle := some false, nextTickProcs := [] }
        ctl := .back (.value .nil) .loop [.batch false c.world.nextTickProcs, .protect] }
  | wakes (ctl : c.ctl = .inUv) (sent : c.world.callFromOtherThreadUvAsync = some true) :
      Step c (.event .callFromOtherThread) { c with
        world := { c.world with callFromOtherThreadUvAsync := some false }, ctl := .waking }
  | asyncBatch (ctl : c.ctl = .waking) (running : c.world.status = .running) :
      Step c .proceed { c with
        world := { c.world with callFromOtherThreadProcs := [] }
        ctl := .back (.value .nil) .loop
          [.batch true c.world.callFromOtherThreadProcs, .protect] }
  | uvQuiet {event : UvEvent} {w : World} (ctl : c.ctl = .inUv)
      (callback : uvCallback c.world event = some (w, none)) :
      Step c (.event event) { c with world := w }
  | uvCalls {event : UvEvent} {w : World} {callback : Callback} (ctl : c.ctl = .inUv)
      (reported : uvCallback c.world event = some (w, some callback)) :
      Step c (.event event) { c with
        world := w.start callback, ctl := .code .loop [.protect] }
  | uvReturns (ctl : c.ctl = .inUv) (handles : noActiveHandles c.world = true)
      (reqs : noActiveReqs c.world = true) : Step c .uvReturn { c with ctl := .leaving }
  | loopEnds {base : Base} {stack : List Frame} {callers : List (Base × List Frame)}
      (ctl : c.ctl = .leaving) (caller : c.callers = (base, stack) :: callers)
      (handles : noActiveHandles c.world = true) (reqs : noActiveReqs c.world = true) :
      Step c .proceed (endLoop c base stack callers)
  | aborts {a : Action} {fault : Fault} : Step c a { c with world := c.world.abort fault }

private theorem ends_only {w' : World} {r : World × Outcome} {cb : Callback} {f : Frame}
    (ends : Ends r) (h : r = (w', .calls cb f)) : False := by
  obtain ⟨q, hq⟩ := ends
  rw [h] at hq
  cases hq

/-- `TCPSocket#close` is the only method that calls user code. -/
theorem dispatch_calls {w w' : World} {call : Call} {callback : Callback} {frame : Frame}
    (h : dispatch w call = some (w', .calls callback frame)) :
    ∃ n t, call = .tcpClose n ∧ w.tcps[n]? = some t ∧ t.uvHandle = true ∧
      t.status = .connected ∧ w' = closedSocket w n t ∧ callback = .onDisconnected n none ∧
      frame = .closing n := by
  have some_ends {r : World × Outcome} (ends : Ends r)
      (h : some r = some (w', .calls callback frame)) : False :=
    ends_only ends (Option.some.inj h)
  have map_ends {α : Type} {o : Option α} {f : α → World × Outcome} (ends : ∀ x, Ends (f x))
      (h : o.map f = some (w', .calls callback frame)) : False := by
    obtain ⟨x, -, hx⟩ := Option.map_eq_some_iff.mp h
    exact ends_only (ends x) hx
  cases call with
  | run args uv => cases h
  | stop => exact (some_ends (stop_effect w).2 h).elim
  | nextTick args => exact (some_ends (nextTick_effect w args).2 h).elim
  | callFromOtherThread args => exact (some_ends (callFromOtherThread_effect w args).2 h).elim
  | onError args => exact (some_ends (onError_effect w args).2 h).elim
  | unsetOnError => exact (some_ends (unsetOnError_effect w).2 h).elim
  | onExit args => exact (some_ends (onExit_effect w args).2 h).elim
  | unsetOnExit => exact (some_ends (unsetOnExit_effect w).2 h).elim
  | query question => exact (map_ends (fun v => ⟨_, rfl⟩) h).elim
  | timerNew args uv => exact (some_ends (timerNew_effect w args uv).2 h).elim
  | periodicTimerNew args uv => exact (some_ends (periodicNew_effect w args uv).2 h).elim
  | timerPause n uv => exact (map_ends (fun t => (timerPause_effect w n t uv).2) h).elim
  | timerRestart n args uv =>
    exact (map_ends (fun t => (timerRestart_effect w n t args uv).2) h).elim
  | timerClose n => exact (map_ends (fun t => (timerClose_effect w n t).2) h).elim
  | udpNew args uv => exact (some_ends (udpNew_effect w args uv).2 h).elim
  | udpSendDatagram n args uv =>
    obtain ⟨u, found, h⟩ := Option.map_eq_some_iff.mp h
    exact (ends_only (sendDatagram_effect found args uv).2 h).elim
  | udpLocalAddress n uv => exact (map_ends (fun u => (udpLocalAddress_effect w u uv).2) h).elim
  | udpPause n => exact (map_ends (fun u => (udpPause_effect w n u).2) h).elim
  | udpResume n => exact (map_ends (fun u => (udpResume_effect w n u).2) h).elim
  | udpSetEncoding n encoding =>
    exact (map_ends (fun u => (udpSetEncoding_effect w n u encoding).2) h).elim
  | udpClose n => exact (map_ends (fun u => (udpClose_effect w n u).2) h).elim
  | dnsResolve args uv => exact (some_ends (resolve_effect w args uv).2 h).elim
  | tcpNew args uv => exact (some_ends (tcpNew_frame w args uv).2 h).elim
  | tcpSendData n args uv => exact (map_ends (fun t => (sendData_frame w n t args uv).2) h).elim
  | tcpLocalAddress n uv => exact (map_ends (fun t => (tcpLocalAddress_frame w t uv).2) h).elim
  | tcpPeerAddress n uv => exact (map_ends (fun t => (tcpPeerAddress_frame w t uv).2) h).elim
  | tcpSetConnectTimeout n timeout uv =>
    exact (map_ends (fun t => (setConnectTimeout_frame w n t timeout uv).2) h).elim
  | tcpClose n =>
    obtain ⟨t, ht, h⟩ := Option.map_eq_some_iff.mp h
    refine ⟨n, t, rfl, ht, ?_⟩
    unfold Tcp.close checked at h
    cases opened : t.uvHandle with
    | false => simp [opened, checkUvHandleIsOpen] at h
    | true =>
      by_cases connected : t.status = .connected
      · simp only [opened, checkUvHandleIsOpen, connected, if_true, pure, Except.pure,
          Prod.mk.injEq, Outcome.calls.injEq] at h
        exact ⟨rfl, connected, h.1.symm, h.2.1.symm, h.2.2.symm⟩
      · simp [opened, checkUvHandleIsOpen, connected, pure, Except.pure] at h
  | tcpCloseGracefully n args uv =>
    exact (map_ends (fun t => (closeGracefully_frame w n t args uv).2) h).elim

theorem destroyHandle_calls {w w' : World} {key : Handle} {callback : Callback} {frame : Frame}
    (h : destroyHandle w key = (w', .calls callback frame)) :
    ∃ n t, key = .tcp n ∧ w.tcps[n]? = some t ∧ t.uvHandle = true ∧ t.status = .connected ∧
      w' = destroyedSocket w n t ∧ callback = .onDisconnected n none ∧ frame = .destroying n := by
  cases key with
  | timer n =>
    rw [destroyHandle] at h
    cases ht : w.timers[n]? with
    | none =>
      rw [ht] at h
      cases h
    | some t =>
      rw [ht] at h
      exact (ends_only (timerDestroy_effect w n t).2 h).elim
  | udp n =>
    rw [destroyHandle] at h
    cases hu : w.udps[n]? with
    | none =>
      rw [hu] at h
      cases h
    | some u =>
      rw [hu] at h
      exact (ends_only (udpDestroy_effect w n u).2 h).elim
  | tcp n =>
    rw [destroyHandle] at h
    cases ht : w.tcps[n]? with
    | none =>
      rw [ht] at h
      cases h
    | some t =>
      rw [ht] at h
      refine ⟨n, t, rfl, ht, ?_⟩
      unfold Tcp.destroy checked at h
      cases opened : t.uvHandle with
      | false => simp [opened, checkUvHandleIsOpen] at h
      | true =>
        have kept := destroyed_status t
        by_cases connected : t.status = .connected
        · simp only [opened, checkUvHandleIsOpen, if_true, pure, Except.pure] at h
          rw [if_pos (kept.trans connected)] at h
          simp only [Prod.mk.injEq, Outcome.calls.injEq] at h
          exact ⟨rfl, connected, h.1.symm, h.2.1.symm, h.2.2.symm⟩
        · simp [opened, checkUvHandleIsOpen, kept, connected, pure, Except.pure] at h

/-- The callbacks that libuv can report, and what each of them does. -/
inductive Reports (w : World) : UvEvent → World × Option Callback → Prop
  | ubf (sent : w.ubfUvAsync.isSome = true) :
      Reports w .ubf (w, if w.status = .running then some .checkInts else none)
  | timer {n : Nat} {t : State.Timer} (found : w.timers[n]? = some t)
      (active : t.uvActive = true) : Reports w (.timer n)
        ((Timer.uvTimerCallback (w.setTimer n { t with uvActive := decide (t.uvRepeat ≠ 0) }) n
            { t with uvActive := decide (t.uvRepeat ≠ 0) }).1, some (.onFire n t.onFireProc))
  | recv {n : Nat} {u : State.Udp} {received : Option (List UInt8 × List UInt8)}
      (found : w.udps[n]? = some u) (receiving : u.uvReceiving = true) :
      Reports w (.recv n received) (Udp.uvRecvCallback w n u received)
  | sent {k : Nat} {error : Option Int} {send : UdpSend} {u : State.Udp}
      (found : w.udpSends[k]? = some send) (socket : w.udps[send.socket]? = some u)
      (may : mayEnd u.uvCloses error = true) : Reports w (.sent k error)
        (Udp.uvSendCallback { w with udpSends := w.udpSends.eraseIdx k } send (error.map .uv))
  | resolved {k procId : Nat} {result : Except Int (List (List UInt8))}
      (found : w.lookups[k]? = some procId) : Reports w (.resolved k result)
        (Procs.uvGetaddrinfoCallback { w with lookups := w.lookups.eraseIdx k } procId
          (result.mapError .uv))
  | connect {n : Nat} {error : Option Int} {uv : UvAnswers} {t : State.Tcp}
      (socket : w.tcps[n]? = some t) (pending : t.uvConnect = true)
      (may : mayEnd t.uvCloses error = true) :
      Reports w (.connect n error uv) (Tcp.uvConnectCallback w n t error uv)
  | read {n : Nat} {read : Tcp.Read} {uv : UvAnswers} {t : State.Tcp}
      (socket : w.tcps[n]? = some t) (reading : t.uvReading = true) :
      Reports w (.read n read uv) (Tcp.uvReadCallback w n t read uv)
  | write {k : Nat} {error : Option Int} {write : UvWrite} {t : State.Tcp}
      (found : w.tcpWrites[k]? = some write) (socket : w.tcps[write.socket]? = some t)
      (may : mayEnd t.uvCloses error = true) : Reports w (.write k error)
        (Tcp.uvWriteCallback { w with tcpWrites := w.tcpWrites.eraseIdx k } t write
          (error.map .uv))
  | shutdown {n : Nat} {error : Option Int} {t : State.Tcp} (socket : w.tcps[n]? = some t)
      (pending : t.uvShutdowns ≠ 0) (may : mayEnd t.uvCloses error = true) :
      Reports w (.shutdown n error)
        (Tcp.uvShutdownCallback w n { t with uvShutdowns := t.uvShutdowns - 1 })
  | connectTimeout {n k : Nat} {t : State.Tcp} {timer : UvTimer}
      (socket : w.tcps[n]? = some t) (fired : t.uvTimers[k]? = some timer)
      (active : timer.active = true) : Reports w (.connectTimeout n k)
        (Tcp.uvTimerConnectTimeoutCallback w n
          { t with uvTimers := t.uvTimers.set k { timer with active := false } }, none)

theorem uvCallback_inv {w : World} {event : UvEvent} {r : World × Option Callback}
    (h : uvCallback w event = some r) : Reports w event r := by
  cases event with
  | idle => cases h
  | callFromOtherThread => cases h
  | ubf =>
    unfold uvCallback at h
    dsimp only at h
    split at h
    · rename_i sent
      obtain rfl := Option.some.inj h
      exact .ubf sent
    · cases h
  | timer n =>
    unfold uvCallback at h
    dsimp only at h
    split at h
    · cases h
    · rename_i found
      split at h
      · rename_i active
        obtain rfl := Option.some.inj h
        exact .timer found active
      · cases h
  | recv n received =>
    unfold uvCallback at h
    dsimp only at h
    split at h
    · cases h
    · rename_i found
      split at h
      · rename_i receiving
        obtain rfl := Option.some.inj h
        exact .recv found receiving
      · cases h
  | sent k error =>
    unfold uvCallback at h
    dsimp only at h
    split at h
    · cases h
    · rename_i found
      split at h
      · cases h
      · rename_i socket
        split at h
        · rename_i may
          obtain rfl := Option.some.inj h
          exact .sent found socket may
        · cases h
  | resolved k result =>
    unfold uvCallback at h
    dsimp only at h
    split at h
    · cases h
    · rename_i found
      obtain rfl := Option.some.inj h
      exact .resolved found
  | connect n error uv =>
    unfold uvCallback at h
    dsimp only at h
    split at h
    · cases h
    · rename_i socket
      split at h
      · rename_i may
        obtain rfl := Option.some.inj h
        obtain ⟨pending, may⟩ := (Bool.and_eq_true _ _).mp may
        exact .connect socket pending may
      · cases h
  | read n read uv =>
    unfold uvCallback at h
    dsimp only at h
    split at h
    · cases h
    · rename_i socket
      split at h
      · rename_i reading
        obtain rfl := Option.some.inj h
        exact .read socket reading
      · cases h
  | write k error =>
    unfold uvCallback at h
    dsimp only at h
    split at h
    · cases h
    · rename_i found
      split at h
      · cases h
      · rename_i socket
        split at h
        · rename_i may
          obtain rfl := Option.some.inj h
          exact .write found socket may
        · cases h
  | shutdown n error =>
    unfold uvCallback at h
    dsimp only at h
    split at h
    · cases h
    · rename_i socket
      split at h
      · rename_i pending
        obtain rfl := Option.some.inj h
        exact .shutdown socket pending.1 pending.2
      · cases h
  | connectTimeout n k =>
    unfold uvCallback at h
    dsimp only at h
    split at h
    · cases h
    · rename_i socket
      split at h
      · cases h
      · rename_i fired
        split at h
        · rename_i active
          obtain rfl := Option.some.inj h
          exact .connectTimeout socket fired active
        · cases h

def fileOfEvent : UvEvent → File
  | .idle => .queue
  | .callFromOtherThread => .queue
  | .ubf => .udp
  | .timer _ => .timer
  | .recv _ _ => .udp
  | .sent _ _ => .proc
  | .resolved _ _ => .proc
  | .connect _ _ _ => .tcp
  | .read _ _ _ => .tcp
  | .write _ _ => .write
  | .shutdown _ _ => .tcp
  | .connectTimeout _ _ => .tcp

theorem reports_own {w : World} {event : UvEvent} {r : World × Option Callback}
    (h : Reports w event r) : FrameOf (fileOfEvent event) w r.1 := by
  cases h with
  | ubf sent => exact udpFrame_refl w
  | timer found active => exact uvTimerCallback_frame w _ _
  | recv found receiving => exact uvRecvCallback_frame found _
  | sent found socket may => exact uvSendCallback_frame w _ _ _
  | resolved found => exact uvGetaddrinfoCallback_frame w _ _ _
  | connect socket pending may => exact uvConnectCallback_frame w _ _ _ _
  | read socket reading => exact uvReadCallback_frame w _ _ _ _
  | write found socket may => exact uvWriteCallback_frame w _ _ _ _
  | shutdown socket pending may => exact uvShutdownCallback_frame w _ _
  | connectTimeout socket fired active => exact uvTimerConnectTimeoutCallback_frame w _ _

theorem reports_frame {w : World} {event : UvEvent} {r : World × Option Callback}
    (h : Reports w event r) : FileFrame w r.1 := fileFrame_own (reports_own h)

def calledBy : UvEvent → Callback → Prop
  | .idle, _ => False
  | .callFromOtherThread, _ => False
  | .ubf, callback => callback = .checkInts
  | .timer n, callback => ∃ proc, callback = .onFire n proc
  | .recv n _, callback =>
    ∃ datagram encoding source, callback = .onDatagramReceived n datagram encoding source
  | .sent _ _, callback => ∃ id proc error, callback = .onSend id proc error
  | .resolved _ _, callback => ∃ id proc result, callback = .onResult id proc result
  | .connect n _ _, callback =>
    callback = .onConnected n ∨ ∃ error, callback = .onConnectionError n error
  | .read n _ _, callback =>
    (∃ data encoding, callback = .onDataReceived n data encoding) ∨
      ∃ error, callback = .onDisconnected n error
  | .write _ _, callback => ∃ address proc error, callback = .onWrite address proc error
  | .shutdown n _, callback => ∃ error, callback = .onDisconnected n error
  | .connectTimeout _ _, _ => False

private theorem uvRecv_calls {w : World} {n : Nat} {u : State.Udp}
    {received : Option (List UInt8 × List UInt8)} {callback : Callback}
    (found : w.udps[n]? = some u)
    (h : (Udp.uvRecvCallback w n u received).2 = some callback) :
    ∃ datagram encoding source, callback = .onDatagramReceived n datagram encoding source := by
  obtain ⟨recvData, ⟨dropped, -⟩ | ⟨b, bytes, source, -, -, -, called⟩⟩ :=
    uvRecvCallback_cases found received
  · rw [dropped] at h
    cases h
  · rw [called] at h
    exact ⟨_, _, _, (Option.some.inj h).symm⟩

private theorem uvConnect_calls {w : World} {n : Nat} {t : State.Tcp} {error : Option Int}
    {uv : UvAnswers} {callback : Callback}
    (h : (Tcp.uvConnectCallback w n t error uv).2 = some callback) :
    callback = .onConnected n ∨ ∃ error, callback = .onConnectionError n error := by
  unfold Tcp.uvConnectCallback at h
  dsimp only at h
  split at h
  · split at h
    · split at h
      · cases h
      · split at h
        · cases h
        · exact .inl (Option.some.inj h).symm
    · split at h
      · cases h
      · exact .inl (Option.some.inj h).symm
  · exact .inr ⟨_, (Option.some.inj h).symm⟩

private theorem uvRead_calls {w : World} {n : Nat} {t : State.Tcp} {read : Tcp.Read}
    {uv : UvAnswers} {callback : Callback}
    (h : (Tcp.uvReadCallback w n t read uv).2 = some callback) :
    (∃ data encoding, callback = .onDataReceived n data encoding) ∨
      ∃ error, callback = .onDisconnected n error := by
  unfold Tcp.uvReadCallback at h
  split at h
  · cases h
  · dsimp only at h
    split at h
    · cases h
    · exact .inl ⟨_, _, (Option.some.inj h).symm⟩
  · split at h
    · cases h
    · split at h
      · cases h
      · cases h
  · exact .inr ⟨_, (Option.some.inj h).symm⟩

theorem reports_calls {w : World} {event : UvEvent} {r : World × Option Callback}
    {callback : Callback} (h : Reports w event r) (calls : r.2 = some callback) :
    calledBy event callback := by
  cases h with
  | ubf sent =>
    dsimp only at calls
    split at calls
    · exact (Option.some.inj calls).symm
    · cases calls
  | timer found active => exact ⟨_, (Option.some.inj calls).symm⟩
  | recv found receiving => exact uvRecv_calls found calls
  | sent found socket may =>
    rcases uvSendCallback_cases _ _ _ with unasked | ⟨id, -, called⟩
    · rw [unasked] at calls
      cases calls
    · obtain ⟨-, proc, rfl⟩ := called _ calls
      exact ⟨_, _, _, rfl⟩
  | resolved found =>
    obtain ⟨-, proc, rfl⟩ := (uvGetaddrinfoCallback_completes _ _ _).callback _ calls
    exact ⟨_, _, _, rfl⟩
  | connect socket pending may => exact uvConnect_calls calls
  | read socket reading => exact uvRead_calls calls
  | write found socket may =>
    unfold Tcp.uvWriteCallback at calls
    split at calls
    · cases calls
    · dsimp only at calls
      split at calls
      · cases calls
      · exact ⟨_, _, _, (Option.some.inj calls).symm⟩
  | shutdown socket pending may =>
    unfold Tcp.uvShutdownCallback at calls
    split at calls
    · exact ⟨_, (Option.some.inj calls).symm⟩
    · cases calls
  | connectTimeout socket fired active => cases calls

section Inversion

variable {c c' : Config} {a : Action}

/-- The loop ends when libuv has no active handle and no request left. -/
theorem endLoop_eq {base : Base} {stack : List Frame} {callers : List (Base × List Frame)}
    (handles : noActiveHandles c.world = true) (reqs : noActiveReqs c.world = true) :
    endLoop c base stack callers =
      { world := { c.world with
          uvLoop := false, thread := none, pid := -1, exitError := none, status := .stopped,
          mutex := none, onExitProcs := [] }
        ctl := .back (.value .nil) base (.onExit c.world.onExitProcs c.world.exitError :: stack)
        callers := callers } := by
  have quiet : (noActiveHandles c.world && noActiveReqs c.world) = true := by
    rw [handles, reqs]
    rfl
  exact if_pos quiet

private theorem step_releaseLoop {result : Return} {base : Base} {frame : Frame}
    {stack below : List Frame} {exitError : Option RubyError}
    (ctl : c.ctl = .back result base (frame :: stack)) (calls : fatal frame)
    (on : ReleaseStack stack below) {r : World × Ctl}
    (h : aeReleaseLoop { c.world with exitError := exitError } base below = r) :
    Step c .proceed { c with world := r.1, ctl := r.2 } := by
  subst h
  unfold aeReleaseLoop
  split
  · rename_i running
    exact .releases ctl calls running on
  · exact .releasesNot ctl calls on

private theorem step_resume {result : Return} {base : Base} {frame : Frame}
    {stack : List Frame} (ctl : c.ctl = .back result base (frame :: stack)) {r : World × Ctl}
    (h : resume c.world result frame base stack = r) :
    Step c .proceed { c with world := r.1, ctl := r.2 } := by
  cases frame with
  | protect =>
    cases result with
    | value v =>
      subst h
      exact .pops ctl trivial
    | raised error =>
      rw [resume] at h
      by_cases releasing : c.world.status = .releasing
      · rw [if_pos releasing] at h
        subst h
        exact .pops ctl trivial
      · rw [if_neg releasing] at h
        unfold aeHandleError at h
        split at h
        · subst h
          exact .handles ctl releasing
        · exact step_releaseLoop ctl trivial (.inl rfl) h
  | batch fromOtherThread procs =>
    rw [resume] at h
    cases procs with
    | nil =>
      subst h
      exact .pops ctl trivial
    | cons tick procs =>
      rw [batchNext] at h
      by_cases running : c.world.status = .running
      · rw [if_neg (by simpa using running)] at h
        cases tick with
        | user proc =>
          subst h
          exact .tick ctl running
        | releaseLoop =>
          have same : { c.world with exitError := c.world.exitError } = c.world := rfl
          rw [← same] at h
          exact step_releaseLoop ctl trivial (.inr ⟨fromOtherThread, procs, rfl⟩) h
      · rw [if_pos running] at h
        subst h
        exact .pops ctl trivial
  | handleError =>
    cases result with
    | value v =>
      subst h
      exact .pops ctl trivial
    | raised error =>
      rw [resume] at h
      exact step_releaseLoop ctl trivial (.inl rfl) h
  | release keys =>
    rw [resume] at h
    cases keys with
    | nil =>
      subst h
      exact .released ctl
    | cons key keys =>
      rw [releaseNext] at h
      by_cases stored : key ∈ c.world.handles
      · rw [if_pos stored] at h
        cases method : destroyHandle c.world key with
        | mk w outcome =>
          rw [method] at h
          cases outcome with
          | ends result' =>
            subst h
            exact .destroys ctl stored method
          | calls callback frame =>
            obtain ⟨n, t, rfl, socket, opened, connected, rfl, rfl, rfl⟩ :=
              destroyHandle_calls method
            subst h
            exact .disconnects ctl stored socket opened connected method
      · rw [if_neg stored] at h
        subst h
        exact .skipsKey ctl stored
  | destroying n =>
    cases result with
    | value v =>
      subst h
      exact .pops ctl trivial
    | raised error =>
      subst h
      exact .pops ctl trivial
  | closing n =>
    cases result with
    | value v =>
      subst h
      exact .closeReturns ctl
    | raised error =>
      subst h
      exact .closeReturns ctl
  | onExit procs capturedError =>
    cases result with
    | value v =>
      rw [resume] at h
      cases procs with
      | nil =>
        subst h
        exact .runEnds ctl
      | cons proc procs =>
        subst h
        exact .exitProc ctl
    | raised error =>
      subst h
      exact .runEnds ctl

private theorem step_back {result : Return} {base : Base} {stack : List Frame}
    (ctl : c.ctl = .back result base stack) (h : stepBack c result base stack = some c') :
    Step c .proceed c' := by
  cases stack with
  | cons frame stack =>
    obtain rfl := Option.some.inj h
    exact step_resume ctl rfl
  | nil =>
    cases base with
    | outside => cases h
    | loop =>
      obtain rfl := Option.some.inj h
      exact .loops ctl
    | ints entering =>
      cases result with
      | value v =>
        cases entering with
        | true =>
          obtain rfl := Option.some.inj h
          exact .intsReturn ctl
        | false =>
          obtain rfl := Option.some.inj h
          exact .intsReturn ctl
      | raised error =>
        cases caller : c.callers with
        | nil =>
          have caught : (none : Option Config) = some c' := by
            rw [← h]
            cases entering <;> simp only [stepBack, caller]
          cases caught
        | cons head callers =>
          obtain ⟨base, stack⟩ := head
          have caught : some ({
              world := c.world.push (.ran (.raised error)), ctl := .code base stack,
              callers := callers } : Config) = some c' := by
            rw [← h]
            cases entering <;> simp only [stepBack, caller]
          obtain rfl := Option.some.inj caught
          exact .intsRaise ctl caller

/-- What `AsyncEngine_run` does when user code calls it: it refuses its arguments, gives the proc to
the loop that runs, comes back without it, or starts a loop. -/
inductive RunStep (c : Config) (base : Base) (stack : List Frame) (args : Args) (uv : UvAnswers) :
    Config → Prop
  | refuses {result : Return} (refused : runArgs args = .error result) :
      RunStep c base stack args uv { c with
        world := c.world.push (.returned (.run args uv) result), ctl := .code base stack }
  | queues {proc : Nat} {w : World} {result : Return} (accepted : runArgs args = .ok proc)
      (running : c.world.status = .running)
      (runs : runWhileRunning c.world proc = (w, .ends result)) :
      RunStep c base stack args uv { c with
        world := w.push (.returned (.run args uv) result), ctl := .code base stack }
  | deadlocks {proc : Nat} (accepted : runArgs args = .ok proc)
      (idle : c.world.status ≠ .running)
      (held : c.world.mutex = some c.world.currentThread) :
      RunStep c base stack args uv { c with
        world := c.world.push (.returned (.run args uv)
          (.raised (.thread "deadlock; recursive locking")))
        ctl := .code base stack }
  | skips {proc : Nat} (accepted : runArgs args = .ok proc)
      (releasing : c.world.status = .releasing) (free : c.world.mutex = none) :
      RunStep c base stack args uv { c with
        world := c.world.push (.returned (.run args uv) (.value .nil)), ctl := .code base stack }
  | starts {proc : Nat} (accepted : runArgs args = .ok proc)
      (stopped : c.world.status = .stopped) (free : c.world.mutex = none) :
      RunStep c base stack args uv {
        world := startLoop c.world proc uv, ctl := .entering
        callers := (base, stack) :: c.callers }

theorem stepRun_inv {base : Base} {stack : List Frame} {args : Args} {uv : UvAnswers}
    (h : stepRun c base stack args uv = some c') : RunStep c base stack args uv c' := by
  unfold stepRun at h
  cases accepted : runArgs args with
  | error result =>
    rw [accepted] at h
    obtain rfl := Option.some.inj h
    exact .refuses accepted
  | ok proc =>
    rw [accepted] at h
    dsimp only at h
    by_cases running : c.world.status = .running
    · rw [if_pos running] at h
      obtain ⟨-, result, ends⟩ := runWhileRunning_effect c.world proc running
      cases runs : runWhileRunning c.world proc with
      | mk w outcome =>
        rw [runs] at h ends
        obtain rfl : outcome = .ends result := ends
        obtain rfl := Option.some.inj h
        exact .queues accepted running runs
    · rw [if_neg running] at h
      cases mutex : c.world.mutex with
      | some owner =>
        rw [mutex] at h
        dsimp only at h
        split at h
        · rename_i own
          obtain rfl := Option.some.inj h
          exact .deadlocks accepted running (mutex.trans (congrArg some own))
        · cases h
      | none =>
        rw [mutex] at h
        dsimp only at h
        by_cases releasing : c.world.status = .releasing
        · rw [if_pos releasing] at h
          obtain rfl := Option.some.inj h
          exact .skips accepted releasing mutex
        · rw [if_neg releasing] at h
          obtain rfl := Option.some.inj h
          have stopped : c.world.status = .stopped := by
            cases status : c.world.status
            · exact absurd status running
            · exact absurd status releasing
            · rfl
          exact .starts accepted stopped mutex

private theorem step_run {base : Base} {stack : List Frame} {args : Args} {uv : UvAnswers}
    (ctl : c.ctl = .code base stack) (h : stepRun c base stack args uv = some c') :
    Step c (.call (.run args uv)) c' := by
  have same : QueueFrame c.world c.world :=
    ⟨_, _, _, _, _, _, _, rfl, rfl, rfl, fun _ => ⟨rfl, rfl⟩⟩
  cases stepRun_inv h with
  | refuses refused => exact .runReturns ctl same
  | @queues proc w result accepted running runs =>
    have frame := (runWhileRunning_effect c.world proc running).1
    rw [runs] at frame
    exact .runReturns ctl frame
  | deadlocks accepted idle held => exact .runReturns ctl same
  | skips accepted releasing free => exact .runReturns ctl same
  | starts accepted stopped free => exact .runStarts ctl stopped free

private theorem step_call {base : Base} {stack : List Frame} {call : Call}
    (ctl : c.ctl = .code base stack)
    (h : ((dispatch c.world call).map fun result =>
      let (w, ctl) := afterCall call base stack result
      ({ c with world := w, ctl := ctl } : Config)) = some c') :
    Step c (.call call) c' := by
  obtain ⟨⟨w, outcome⟩, method, rfl⟩ := Option.map_eq_some_iff.mp h
  cases outcome with
  | ends result => exact .call ctl method
  | calls callback frame =>
    obtain ⟨n, t, rfl, socket, opened, connected, rfl, rfl, rfl⟩ := dispatch_calls method
    exact .close ctl socket opened connected method

private theorem step_code {base : Base} {stack : List Frame} (ctl : c.ctl = .code base stack)
    (h : stepCode c base stack a = some c') : Step c a c' := by
  cases a with
  | call call =>
    cases call with
    | run args uv => exact step_run ctl h
    | _ => exact step_call ctl h
  | finish =>
    simp only [stepCode] at h
    split at h
    · rename_i can
      obtain rfl := Option.some.inj h
      exact .codeEnds ctl can
    · cases h
  | raise error =>
    simp only [stepCode] at h
    split at h
    · rename_i can
      obtain rfl := Option.some.inj h
      exact .codeEnds ctl can
    · cases h
  | threadEnds =>
    simp only [stepCode] at h
    split at h
    · rename_i alone
      obtain ⟨rfl, empty, callers⟩ := alone
      obtain rfl := Option.some.inj h
      obtain rfl := List.isEmpty_iff.mp empty
      refine .threadEnds ctl (List.isEmpty_iff.mp callers) ?_
      split
      · exact .inl rfl
      · exact .inr rfl
    · cases h
  | fork pid =>
    obtain rfl := Option.some.inj h
    exact .fork
  | proceed => cases h
  | event event => cases h
  | uvReturn => cases h
  | interrupt => cases h
  | other thread call => cases h

private theorem queueFrame_self {w w' : World} (thread : Nat)
    (h : QueueFrame { w with currentThread := thread } w') :
    QueueFrame w { w' with currentThread := w.currentThread } := by
  obtain ⟨_, _, _, _, _, _, _, rfl, idle, async, queues⟩ := h
  exact ⟨_, _, _, _, _, _, _, rfl, idle, async, queues⟩

private theorem step_other {thread : Nat} {call : Call}
    (h : stepOther c thread call = some c') : Step c (.other thread call) c' := by
  have same : QueueFrame c.world c.world :=
    ⟨_, _, _, _, _, _, _, rfl, rfl, rfl, fun _ => ⟨rfl, rfl⟩⟩
  unfold stepOther at h
  dsimp only at h
  split at h
  · cases h
  · cases call with
    | stop =>
      obtain rfl := Option.some.inj h
      exact .other (queueFrame_self thread (stop_effect _).1)
    | callFromOtherThread args =>
      obtain rfl := Option.some.inj h
      exact .other (queueFrame_self thread (callFromOtherThread_effect _ args).1)
    | run args uv =>
      dsimp only at h
      split at h
      · rename_i running
        obtain rfl := Option.some.inj h
        refine .other (queueFrame_self thread ?_)
        unfold checked
        split
        · exact (runWhileRunning_effect { c.world with currentThread := thread } _ running).1
        · exact ⟨_, _, _, _, _, _, _, rfl, rfl, rfl, fun _ => ⟨rfl, rfl⟩⟩
      · cases h
    | _ => cases h

private theorem step_event (ctl : c.ctl = .inUv) {event : UvEvent}
    (h : stepEvent c event = some c') : Step c (.event event) c' := by
  have callback {event : UvEvent} (h : (uvCallback c.world event).map (takeGvl c) = some c') :
      Step c (.event event) c' := by
    obtain ⟨⟨w, started⟩, reported, rfl⟩ := Option.map_eq_some_iff.mp h
    cases started with
    | none => exact .uvQuiet ctl reported
    | some callback =>
      by_cases stopped : w.status = .stopped
      · have aborts : takeGvl c (w, some callback) = { c with world := c.world.abort .assertion } :=
          if_pos stopped
        rw [aborts]
        exact .aborts
      · have calls : takeGvl c (w, some callback) =
            { c with world := w.start callback, ctl := .code .loop [.protect] } :=
          if_neg stopped
        rw [calls]
        exact .uvCalls ctl reported
  cases event with
  | idle =>
    simp only [stepEvent] at h
    split at h
    · rename_i active
      obtain rfl := Option.some.inj h
      unfold takeBatch
      split
      · exact .aborts
      · rename_i running
        exact .idleBatch ctl (not_not.mp running) active
    · cases h
  | callFromOtherThread =>
    simp only [stepEvent] at h
    split at h
    · rename_i sent
      obtain rfl := Option.some.inj h
      exact .wakes ctl sent
    · cases h
  | _ => exact callback h

theorem step_inv (h : engine.step c a = some c') : c.world.fault = none ∧ Step c a c' := by
  change step c a = some c' at h
  unfold step at h
  split at h
  · cases h
  · rename_i running
    refine ⟨by simpa using running, ?_⟩
    split at h
    · exact step_other h
    · exact step_other h
    · exact step_other h
    · rename_i ctl _
      exact step_code ctl h
    · rename_i ctl
      exact step_back ctl h
    · rename_i ctl
      obtain rfl := Option.some.inj h
      exact .enters ctl
    · rename_i ctl
      obtain rfl := Option.some.inj h
      exact .interrupts true ctl
    · rename_i ctl
      exact step_event ctl h
    · rename_i ctl
      obtain rfl := Option.some.inj h
      unfold takeBatch
      split
      · exact .aborts
      · rename_i running
        exact .asyncBatch ctl (not_not.mp running)
    · rename_i ctl
      split at h
      · rename_i quiet
        obtain rfl := Option.some.inj h
        obtain ⟨handles, reqs⟩ := (Bool.and_eq_true _ _).mp quiet
        exact .uvReturns ctl handles reqs
      · cases h
    · rename_i ctl
      obtain rfl := Option.some.inj h
      exact .interrupts false ctl
    · rename_i ctl
      split at h
      · rename_i caller
        obtain rfl := Option.some.inj h
        by_cases quiet : (noActiveHandles c.world && noActiveReqs c.world) = true
        · obtain ⟨handles, reqs⟩ := (Bool.and_eq_true _ _).mp quiet
          exact .loopEnds ctl caller handles reqs
        · unfold endLoop
          dsimp only
          rw [if_neg quiet]
          exact .aborts
      · cases h
    · cases h

theorem code_inv {call : Call} (h : engine.step c (.call call) = some c') :
    ∃ base stack, c.ctl = .code base stack ∧ stepCode c base stack (.call call) = some c' := by
  replace h : step c (.call call) = some c' := h
  unfold step at h
  split at h
  · cases h
  · cases ctl : c.ctl with
    | code base stack =>
      rw [ctl] at h
      exact ⟨base, stack, rfl, h⟩
    | _ =>
      rw [ctl] at h
      cases h

theorem call_runs {call : Call} (h : engine.step c (.call call) = some c')
    (method : ∀ args uv, call ≠ .run args uv) :
    ∃ base stack r, c.ctl = .code base stack ∧ dispatch c.world call = some r ∧
      c' = { c with
        world := (afterCall call base stack r).1, ctl := (afterCall call base stack r).2 } := by
  obtain ⟨base, stack, ctl, h⟩ := code_inv h
  have runs : ((dispatch c.world call).map fun result =>
      let (w, ctl) := afterCall call base stack result
      ({ c with world := w, ctl := ctl } : Config)) = some c' := by
    cases call with
    | run args uv => exact absurd rfl (method args uv)
    | _ => exact h
  obtain ⟨r, called, rfl⟩ := Option.map_eq_some_iff.mp runs
  exact ⟨base, stack, r, ctl, called, rfl⟩

theorem call_inv {call : Call} (h : engine.step c (.call call) = some c')
    (method : ∀ args uv, call ≠ .run args uv) :
    ∃ base stack r, c.ctl = .code base stack ∧ dispatch c.world call = some r ∧
      c'.world = (afterCall call base stack r).1 := by
  obtain ⟨base, stack, r, ctl, called, rfl⟩ := call_runs h method
  exact ⟨base, stack, r, ctl, called, rfl⟩

theorem run_inv {args : Args} {uv : UvAnswers}
    (h : engine.step c (.call (.run args uv)) = some c') :
    ∃ base stack, c.ctl = .code base stack ∧ RunStep c base stack args uv c' := by
  obtain ⟨base, stack, ctl, h⟩ := code_inv h
  exact ⟨base, stack, ctl, stepRun_inv h⟩

theorem queue_event_inv {event : UvEvent} (h : engine.step c (.event event) = some c') :
    c.ctl = .inUv ∧ stepEvent c event = some c' := by
  replace h : step c (.event event) = some c' := h
  unfold step at h
  split at h
  · cases h
  · cases ctl : c.ctl with
    | inUv =>
      rw [ctl] at h
      exact ⟨rfl, h⟩
    | _ =>
      rw [ctl] at h
      cases h

theorem event_inv {event : UvEvent} (h : engine.step c (.event event) = some c')
    (idle : event ≠ .idle) (async : event ≠ .callFromOtherThread) :
    ∃ r, c.ctl = .inUv ∧ Reports c.world event r ∧ c' = takeGvl c r := by
  obtain ⟨ctl, h⟩ := queue_event_inv h
  have runs : (uvCallback c.world event).map (takeGvl c) = some c' := by
    cases event with
    | idle => exact absurd rfl idle
    | callFromOtherThread => exact absurd rfl async
    | _ => exact h
  obtain ⟨r, reported, rfl⟩ := Option.map_eq_some_iff.mp runs
  exact ⟨r, ctl, uvCallback_inv reported, rfl⟩

theorem return_inv (h : engine.step c .uvReturn = some c') :
    c.ctl = .inUv ∧ noActiveHandles c.world = true ∧ noActiveReqs c.world = true := by
  replace h : step c .uvReturn = some c' := h
  unfold step at h
  split at h
  · cases h
  · cases ctl : c.ctl with
    | inUv =>
      rw [ctl] at h
      dsimp only at h
      split at h
      · rename_i quiet
        exact ⟨rfl, (Bool.and_eq_true _ _).mp quiet⟩
      · cases h
    | _ =>
      rw [ctl] at h
      cases h

theorem other_inv {thread : Nat} {call : Call}
    (h : engine.step c (.other thread call) = some c') :
    (∀ result base stack, c.ctl ≠ .back result base stack) ∧
      stepOther c thread call = some c' := by
  replace h : step c (.other thread call) = some c' := h
  unfold step at h
  split at h
  · cases h
  · cases ctl : c.ctl with
    | code base stack =>
      rw [ctl] at h
      exact ⟨by simp, h⟩
    | inUv =>
      rw [ctl] at h
      exact ⟨by simp, h⟩
    | waking =>
      rw [ctl] at h
      exact ⟨by simp, h⟩
    | _ =>
      rw [ctl] at h
      cases h

/-- How C code goes on: the topmost frame does, or there is none. -/
inductive Proceeds (c : Config) : Config → Prop
  | frame {result : Return} {base : Base} {frame : Frame} {stack : List Frame}
      (ctl : c.ctl = .back result base (frame :: stack)) : Proceeds c { c with
        world := (resume c.world result frame base stack).1
        ctl := (resume c.world result frame base stack).2 }
  | loops {result : Return} (ctl : c.ctl = .back result .loop []) :
      Proceeds c { c with ctl := .inUv }
  | intsReturn {v : Value} {entering : Bool} (ctl : c.ctl = .back (.value v) (.ints entering) []) :
      Proceeds c { c with ctl := if entering then .entering else .leaving }
  | intsRaise {error : RubyError} {entering : Bool} {base : Base} {stack : List Frame}
      {callers : List (Base × List Frame)}
      (ctl : c.ctl = .back (.raised error) (.ints entering) [])
      (caller : c.callers = (base, stack) :: callers) : Proceeds c {
        world := c.world.push (.ran (.raised error)), ctl := .code base stack,
        callers := callers }
  | enters (ctl : c.ctl = .entering) : Proceeds c { c with ctl := .inUv }
  | takes (ctl : c.ctl = .waking) : Proceeds c (takeBatch c
      { c.world with callFromOtherThreadProcs := [] } true c.world.callFromOtherThreadProcs)
  | ends {base : Base} {stack : List Frame} {callers : List (Base × List Frame)}
      (ctl : c.ctl = .leaving) (caller : c.callers = (base, stack) :: callers) :
      Proceeds c (endLoop c base stack callers)

theorem proceed_inv (h : engine.step c .proceed = some c') : Proceeds c c' := by
  replace h : step c .proceed = some c' := h
  unfold step at h
  split at h
  · cases h
  · cases ctl : c.ctl with
    | code base stack =>
      rw [ctl] at h
      cases h
    | back result base stack =>
      rw [ctl] at h
      dsimp only at h
      cases stack with
      | cons frame stack =>
        obtain rfl := Option.some.inj h
        exact .frame ctl
      | nil =>
        cases base with
        | outside => cases h
        | loop =>
          obtain rfl := Option.some.inj h
          exact .loops ctl
        | ints entering =>
          cases result with
          | value v =>
            cases entering with
            | true =>
              obtain rfl := Option.some.inj h
              exact .intsReturn ctl
            | false =>
              obtain rfl := Option.some.inj h
              exact .intsReturn ctl
          | raised error =>
            cases caller : c.callers with
            | nil =>
              cases entering <;> simp [stepBack, caller] at h
            | cons below callers =>
              obtain ⟨base, stack⟩ := below
              cases entering <;> simp only [stepBack, caller] at h <;>
                obtain rfl := Option.some.inj h <;> exact .intsRaise ctl caller
    | entering =>
      rw [ctl] at h
      obtain rfl := Option.some.inj h
      exact .enters ctl
    | inUv =>
      rw [ctl] at h
      cases h
    | waking =>
      rw [ctl] at h
      obtain rfl := Option.some.inj h
      exact .takes ctl
    | leaving =>
      rw [ctl] at h
      dsimp only at h
      split at h
      · rename_i caller
        obtain rfl := Option.some.inj h
        exact .ends ctl caller
      · cases h

theorem proceed_of_back (h : engine.step c a = some c') {result : Return} {base : Base}
    {stack : List Frame} (ctl : c.ctl = .back result base stack) : a = .proceed := by
  replace h : step c a = some c' := h
  unfold step at h
  rw [ctl] at h
  split at h
  · cases h
  · cases a with
    | proceed => rfl
    | _ => cases h

theorem proceed_back {result : Return} {base : Base} {stack : List Frame}
    (ctl : c.ctl = .back result base stack) (h : engine.step c .proceed = some c') :
    stepBack c result base stack = some c' := by
  replace h : step c .proceed = some c' := h
  unfold step at h
  rw [ctl] at h
  split at h
  · cases h
  · exact h

end Inversion

section Data

/-- User code starts or ends: no handle and no request takes part. -/
def OfControl : Event → Prop
  | .started _ _ => True
  | .returned _ _ => True
  | .ran _ => True
  | _ => False

/-- The handles, the requests and the procs are the same, or the procs were dropped after the
internal handles were closed. -/
structure SameData (w w' : World) : Prop where
  handles : w'.handles = w.handles
  timers : w'.timers = w.timers
  udps : w'.udps = w.udps
  tcps : w'.tcps = w.tcps
  tcpWrites : w'.tcpWrites = w.tcpWrites
  udpSends : w'.udpSends = w.udpSends
  lookups : w'.lookups = w.lookups
  registered : w'.registered = w.registered
  nextAddress : w'.nextAddress = w.nextAddress
  procLongId : w'.procLongId = w.procLongId
  procs : w'.procs = w.procs ∨ w'.procs = [] ∧ w'.nextTickUvIdle = none
  trace : ∃ events, w'.trace = events ++ w.trace ∧ ∀ e ∈ events, OfControl e

/-- The function of one of the files that a step runs. -/
inductive Runs (c : Config) : Action → World → Prop
  | nothing {a : Action} : Runs c a c.world
  | method {call : Call} {r : World × Outcome} (called : dispatch c.world call = some r) :
      Runs c (.call call) r.1
  | queue {a : Action} {w : World} (frame : QueueFrame c.world w) : Runs c a w
  | callback {event : UvEvent} {r : World × Option Callback}
      (reported : Reports c.world event r) : Runs c (.event event) r.1
  | destroy {key : Handle} (stored : key ∈ c.world.handles) :
      Runs c .proceed (destroyHandle c.world key).1

private theorem sameData_refl (w : World) : SameData w w :=
  ⟨rfl, rfl, rfl, rfl, rfl, rfl, rfl, rfl, rfl, rfl, .inl rfl, [], rfl, by simp⟩

private theorem sameData_push (w : World) {e : Event} (control : OfControl e) :
    SameData w (w.push e) :=
  ⟨rfl, rfl, rfl, rfl, rfl, rfl, rfl, rfl, rfl, rfl, .inl rfl, [e], rfl, by simp [control]⟩

private theorem sameData_loop {w w' : World} (data : (w'.handles, w'.timers, w'.udps, w'.tcps,
      w'.tcpWrites, w'.udpSends, w'.lookups, w'.registered, w'.nextAddress, w'.procLongId) =
      (w.handles, w.timers, w.udps, w.tcps, w.tcpWrites, w.udpSends, w.lookups, w.registered,
        w.nextAddress, w.procLongId))
    (procs : w'.procs = w.procs ∨ w'.procs = [] ∧ w'.nextTickUvIdle = none)
    (trace : w'.trace = w.trace) : SameData w w' := by
  simp only [Prod.mk.injEq] at data
  obtain ⟨handles, timers, udps, tcps, tcpWrites, udpSends, lookups, registered, nextAddress,
    procLongId⟩ := data
  exact ⟨handles, timers, udps, tcps, tcpWrites, udpSends, lookups, registered, nextAddress,
    procLongId, procs, [], trace, by simp⟩

private theorem startLoop_data (w : World) (proc : Nat) (uv : UvAnswers) :
    SameData w (startLoop w proc uv) := by
  rcases startLoop_cases w proc uv with aborts | ⟨fault, runs⟩
  · rw [aborts]
    exact sameData_loop rfl (.inl rfl) rfl
  · rw [runs]
    exact sameData_loop rfl (.inl rfl) rfl

theorem runs_frame {c : Config} {a : Action} {w : World} (h : Runs c a w) :
    FileFrame c.world w := by
  cases h with
  | nothing => exact fileFrame_quiet (quietFrame_timer (timerFrame_refl _))
  | method called => exact dispatch_frame called
  | queue frame => exact fileFrame_quiet (quietFrame_queue frame)
  | callback reported => exact reports_frame reported
  | destroy stored => exact fileFrame_quiet (destroyHandle_frame _ _)

/-- A step runs at most one function of the files, and then only control goes on. -/
theorem step_data {c c' : Config} {a : Action} (h : Step c a c') :
    ∃ w, Runs c a w ∧ SameData w c'.world := by
  cases h with
  | other frame => exact ⟨_, .queue frame, sameData_refl _⟩
  | call ctl method => exact ⟨_, .method method, sameData_push _ trivial⟩
  | close ctl socket opened connected method =>
    exact ⟨_, .method method, sameData_push _ trivial⟩
  | runReturns ctl frame => exact ⟨_, .queue frame, sameData_push _ trivial⟩
  | runStarts ctl stopped free => exact ⟨_, .nothing, startLoop_data _ _ _⟩
  | codeEnds ctl can => exact ⟨_, .nothing, sameData_loop rfl (.inl rfl) rfl⟩
  | threadEnds ctl alone kept => exact ⟨_, .nothing, sameData_loop rfl (.inl rfl) rfl⟩
  | fork => exact ⟨_, .nothing, sameData_loop rfl (.inl rfl) rfl⟩
  | pops ctl quiet => exact ⟨_, .nothing, sameData_loop rfl (.inl rfl) rfl⟩
  | handles ctl not_releasing => exact ⟨_, .nothing, sameData_push _ trivial⟩
  | releases ctl calls running on => exact ⟨_, .nothing, sameData_loop rfl (.inl rfl) rfl⟩
  | releasesNot ctl calls on => exact ⟨_, .nothing, sameData_loop rfl (.inl rfl) rfl⟩
  | tick ctl running => exact ⟨_, .nothing, sameData_push _ trivial⟩
  | skipsKey ctl deleted => exact ⟨_, .nothing, sameData_loop rfl (.inl rfl) rfl⟩
  | destroys ctl stored method =>
    refine ⟨_, .destroy stored, ?_⟩
    rw [method]
    exact sameData_refl _
  | disconnects ctl stored socket opened connected method =>
    refine ⟨_, .destroy stored, ?_⟩
    rw [method]
    exact sameData_push _ trivial
  | released ctl =>
    refine ⟨_, .nothing, ?_⟩
    rcases closeInternalHandles_cases c.world with aborts | closes
    · rw [aborts]
      exact sameData_loop rfl (.inl rfl) rfl
    · rw [closes]
      exact sameData_loop rfl (.inr ⟨rfl, rfl⟩) rfl
  | closeReturns ctl => exact ⟨_, .nothing, sameData_push _ trivial⟩
  | exitProc ctl => exact ⟨_, .nothing, sameData_push _ trivial⟩
  | runEnds ctl => exact ⟨_, .nothing, sameData_push _ trivial⟩
  | loops ctl => exact ⟨_, .nothing, sameData_loop rfl (.inl rfl) rfl⟩
  | intsReturn ctl => exact ⟨_, .nothing, sameData_loop rfl (.inl rfl) rfl⟩
  | intsRaise ctl caller => exact ⟨_, .nothing, sameData_push _ trivial⟩
  | enters ctl => exact ⟨_, .nothing, sameData_loop rfl (.inl rfl) rfl⟩
  | interrupts entering ctl => exact ⟨_, .nothing, sameData_loop rfl (.inl rfl) rfl⟩
  | idleBatch ctl running active => exact ⟨_, .nothing, sameData_loop rfl (.inl rfl) rfl⟩
  | wakes ctl sent => exact ⟨_, .nothing, sameData_loop rfl (.inl rfl) rfl⟩
  | asyncBatch ctl running => exact ⟨_, .nothing, sameData_loop rfl (.inl rfl) rfl⟩
  | uvQuiet ctl reported => exact ⟨_, .callback (uvCallback_inv reported), sameData_refl _⟩
  | uvCalls ctl reported =>
    exact ⟨_, .callback (uvCallback_inv reported), sameData_push _ trivial⟩
  | uvReturns ctl handles reqs => exact ⟨_, .nothing, sameData_loop rfl (.inl rfl) rfl⟩
  | loopEnds ctl caller handles reqs =>
    rw [endLoop_eq handles reqs]
    exact ⟨_, .nothing, sameData_loop rfl (.inl rfl) rfl⟩
  | aborts => exact ⟨_, .nothing, sameData_loop rfl (.inl rfl) rfl⟩

/-- The user code that the C code starts when it goes on. -/
def resumes : Callback → Prop
  | .nextTick _ => True
  | .callFromOtherThread _ => True
  | .errorHandler _ _ => True
  | .onDisconnected _ _ => True
  | .onExit _ _ => True
  | _ => False

/-- What a step adds to the trace after the function of a file has run. -/
def Shows (s : AeStatus) : Action → Event → Prop
  | .call call, e => (∃ result, e = .returned call result) ∨
      ∃ n, call = .tcpClose n ∧ e = .started (.onDisconnected n none) s
  | .event event, e => ∃ callback, calledBy event callback ∧ e = .started callback s
  | .proceed, e => (∃ callback, resumes callback ∧ e = .started callback s) ∨
      (∃ n result, e = .returned (.tcpClose n) result) ∨ ∃ result, e = .ran result
  | _, _ => False

/-- A step adds at most one event of control to the trace. -/
theorem step_events {c c' : Config} {a : Action} (h : Step c a c') :
    ∃ w, FileFrame c.world w ∧
      (c'.world.trace = w.trace ∨
        ∃ e, Shows c.world.status a e ∧ c'.world.trace = e :: w.trace) := by
  have same : FileFrame c.world c.world := fileFrame_quiet (quietFrame_timer (timerFrame_refl _))
  have mute {w : World} (trace : w.trace = c.world.trace) :
      ∃ w', FileFrame c.world w' ∧
        (w.trace = w'.trace ∨ ∃ e, Shows c.world.status a e ∧ w.trace = e :: w'.trace) :=
    ⟨c.world, same, .inl trace⟩
  have shown {w w' : World} {e : Event} (frame : FileFrame c.world w)
      (trace : w'.trace = e :: w.trace) (shows : Shows c.world.status a e) :
      ∃ w, FileFrame c.world w ∧
        (w'.trace = w.trace ∨ ∃ e, Shows c.world.status a e ∧ w'.trace = e :: w.trace) :=
    ⟨w, frame, .inr ⟨e, shows, trace⟩⟩
  have started {w w' : World} {callback : Callback} (frame : FileFrame c.world w)
      (trace : w'.trace = .started callback w.status :: w.trace)
      (shows : Shows c.world.status a (.started callback c.world.status)) :
      ∃ w, FileFrame c.world w ∧
        (w'.trace = w.trace ∨ ∃ e, Shows c.world.status a e ∧ w'.trace = e :: w.trace) := by
    refine shown frame trace ?_
    rw [(sameLoop_of_frame frame).status]
    exact shows
  cases h with
  | other frame => exact ⟨_, fileFrame_quiet (quietFrame_queue frame), .inl rfl⟩
  | call ctl method =>
    refine shown (dispatch_frame method) rfl ?_
    exact .inl ⟨_, rfl⟩
  | close ctl socket opened connected method =>
    refine started (dispatch_frame method) rfl ?_
    exact .inr ⟨_, rfl, rfl⟩
  | runReturns ctl frame =>
    refine shown (fileFrame_quiet (quietFrame_queue frame)) rfl ?_
    exact .inl ⟨_, rfl⟩
  | runStarts ctl stopped free =>
    exact mute (startLoop_trace _ _ _)
  | codeEnds ctl can => exact mute rfl
  | threadEnds ctl alone kept => exact mute rfl
  | fork => exact mute rfl
  | pops ctl quiet => exact mute rfl
  | handles ctl not_releasing =>
    refine started same rfl ?_
    exact .inl ⟨.errorHandler _ _, trivial, rfl⟩
  | releases ctl calls running on => exact mute rfl
  | releasesNot ctl calls on => exact mute rfl
  | @tick _ _ fromOtherThread _ _ _ ctl running =>
    refine started same rfl ?_
    refine .inl ⟨_, ?_, rfl⟩
    cases fromOtherThread <;> trivial
  | skipsKey ctl deleted => exact mute rfl
  | @destroys _ _ _ key _ _ _ ctl stored method =>
    have frame := fileFrame_quiet (destroyHandle_frame c.world key)
    rw [method] at frame
    exact ⟨_, frame, .inl rfl⟩
  | @disconnects _ _ n _ _ _ ctl stored socket opened connected method =>
    have frame := fileFrame_quiet (destroyHandle_frame c.world (.tcp n))
    rw [method] at frame
    refine started frame rfl ?_
    exact .inl ⟨.onDisconnected _ _, trivial, rfl⟩
  | released ctl =>
    exact mute (closeInternalHandles_trace _)
  | closeReturns ctl =>
    refine shown same rfl ?_
    exact .inr (.inl ⟨_, _, rfl⟩)
  | exitProc ctl =>
    refine started same rfl ?_
    exact .inl ⟨.onExit _ _, trivial, rfl⟩
  | runEnds ctl =>
    refine shown same rfl ?_
    exact .inr (.inr ⟨_, rfl⟩)
  | loops ctl => exact mute rfl
  | intsReturn ctl => exact mute rfl
  | intsRaise ctl caller =>
    refine shown same rfl ?_
    exact .inr (.inr ⟨_, rfl⟩)
  | enters ctl => exact mute rfl
  | interrupts entering ctl => exact mute rfl
  | idleBatch ctl running active => exact mute rfl
  | wakes ctl sent => exact mute rfl
  | asyncBatch ctl running => exact mute rfl
  | uvQuiet ctl reported => exact ⟨_, reports_frame (uvCallback_inv reported), .inl rfl⟩
  | uvCalls ctl reported =>
    have report := uvCallback_inv reported
    refine started (reports_frame report) rfl ?_
    exact ⟨_, reports_calls report rfl, rfl⟩
  | uvReturns ctl handles reqs => exact mute rfl
  | loopEnds ctl caller handles reqs =>
    rw [endLoop_eq handles reqs]
    exact mute rfl
  | aborts => exact mute rfl

end Data

theorem shows_started {s s' : AeStatus} {a : Action} {callback : Callback}
    (h : Shows s a (.started callback s')) : s' = s ∧
      ((∃ event, a = .event event ∧ calledBy event callback) ∨
        (a = .proceed ∧ resumes callback) ∨
        ∃ n, a = .call (.tcpClose n) ∧ callback = .onDisconnected n none) := by
  cases a with
  | call call =>
    rcases h with ⟨_, other⟩ | ⟨n, rfl, started⟩
    · cases other
    · obtain ⟨rfl, rfl⟩ := Event.started.inj started
      exact ⟨rfl, .inr (.inr ⟨n, rfl, rfl⟩)⟩
  | event event =>
    obtain ⟨_, called, started⟩ := h
    obtain ⟨rfl, rfl⟩ := Event.started.inj started
    exact ⟨rfl, .inl ⟨event, rfl, called⟩⟩
  | proceed =>
    rcases h with ⟨_, resumed, started⟩ | ⟨_, _, other⟩ | ⟨_, other⟩
    · obtain ⟨rfl, rfl⟩ := Event.started.inj started
      exact ⟨rfl, .inr (.inl ⟨rfl, resumed⟩)⟩
    · cases other
    · cases other
  | _ => exact h.elim

theorem frame_filterMap {α : Type} {w w' : World} {f : Event → Option α}
    (blind : ∀ e, ¬ OfControl e → f e = none) (frame : FileFrame w w') :
    w'.trace.filterMap f = w.trace.filterMap f := by
  obtain ⟨events, trace, own⟩ := events_frame frame
  have silent : events.filterMap f = [] := by
    refine List.filterMap_eq_nil_iff.mpr fun e here => blind e ?_
    rcases own e here with ⟨key, rfl⟩ | ⟨x, y, rfl⟩ | rfl | ⟨m, b, rfl⟩ | ⟨r, proc, rfl⟩ |
      ⟨r, error, s, rfl⟩ <;> exact id
  rw [trace, List.filterMap_append, silent, List.nil_append]

theorem step_filterMap {α : Type} {c c' : Config} {a : Action} {f : Event → Option α}
    (blind : ∀ e, ¬ OfControl e → f e = none) (h : Step c a c') :
    c'.world.trace.filterMap f = c.world.trace.filterMap f ∨
      ∃ e x, Shows c.world.status a e ∧ f e = some x ∧
        c'.world.trace.filterMap f = x :: c.world.trace.filterMap f := by
  obtain ⟨w, frame, shown⟩ := step_events h
  have same := frame_filterMap blind frame
  rcases shown with trace | ⟨e, shows, trace⟩
  · left
    rw [trace, same]
  · cases value : f e with
    | none =>
      left
      rw [trace, List.filterMap_cons_none value, same]
    | some x =>
      right
      exact ⟨e, x, shows, value, by rw [trace, List.filterMap_cons_some value, same]⟩

end AsyncEngine.Engine.Steps
