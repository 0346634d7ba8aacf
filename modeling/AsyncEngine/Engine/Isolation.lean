/- What belongs to one handle, and that a step which is about another handle leaves it alone. -/

import AsyncEngine.Engine.LoopEnds

set_option autoImplicit false
set_option relaxedAutoImplicit false

namespace AsyncEngine.Engine.Isolation

open AsyncEngine.Lib.Run
open AsyncEngine.Lib.Measure
open AsyncEngine.IpParser.Machine
open AsyncEngine.Engine.Ruby
open AsyncEngine.Engine.State
open AsyncEngine.Engine.Machine
open AsyncEngine.Engine.Effects
open AsyncEngine.Engine.Steps
open AsyncEngine.Engine.Handles
open AsyncEngine.Engine.TimerMoves
open AsyncEngine.Engine.Release
open AsyncEngine.Engine.Outstanding
open AsyncEngine.Engine.LoopEnds

/-- What the engine and libuv have of a handle: its `cdata`, whether it is in `@_handles`, and the
requests on it that are pending. -/
inductive Belongings
  | timer (cdata : Option State.Timer) (stored : Prop)
  | udp (cdata : Option State.Udp) (stored : Prop) (sends : List UdpSend)
  | tcp (cdata : Option State.Tcp) (stored : Prop) (writes : List UvWrite)

def belongings (w : World) : Handle → Belongings
  | .timer n => .timer w.timers[n]? (.timer n ∈ w.handles)
  | .udp n => .udp w.udps[n]? (.udp n ∈ w.handles) (w.udpSends.filter (·.socket == n))
  | .tcp n => .tcp w.tcps[n]? (.tcp n ∈ w.handles) (w.tcpWrites.filter (·.socket == n))

/-- The handle whose method the call is, or that it makes. -/
def calledOn (w : World) : Call → Option Handle
  | .timerNew _ _ => some (.timer w.timers.length)
  | .periodicTimerNew _ _ => some (.timer w.timers.length)
  | .timerPause n _ => some (.timer n)
  | .timerRestart n _ _ => some (.timer n)
  | .timerClose n => some (.timer n)
  | .udpNew _ _ => some (.udp w.udps.length)
  | .udpSendDatagram n _ _ => some (.udp n)
  | .udpPause n => some (.udp n)
  | .udpResume n => some (.udp n)
  | .udpSetEncoding n _ => some (.udp n)
  | .udpClose n => some (.udp n)
  | .tcpNew _ _ => some (.tcp w.tcps.length)
  | .tcpSendData n _ _ => some (.tcp n)
  | .tcpSetConnectTimeout n _ _ => some (.tcp n)
  | .tcpClose n => some (.tcp n)
  | .tcpCloseGracefully n _ _ => some (.tcp n)
  | _ => none

/-- The handle that libuv reports something of. -/
def reportedOf (w : World) : UvEvent → Option Handle
  | .timer n => some (.timer n)
  | .sent k _ => w.udpSends[k]?.map fun send => .udp send.socket
  | .connect n _ _ => some (.tcp n)
  | .read n _ _ => some (.tcp n)
  | .write k _ => w.tcpWrites[k]?.map fun write => .tcp write.socket
  | .shutdown n _ => some (.tcp n)
  | .connectTimeout n _ => some (.tcp n)
  | _ => none

/-- The handle that the step is about; C code that goes on is about one only where
`ae_release_loop` destroys it. -/
def subject (c : Config) : Action → Option Handle
  | .call call => calledOn c.world call
  | .event event => reportedOf c.world event
  | .proceed =>
    match c.ctl with
    | .back _ _ (.release (key :: _) :: _) => some key
    | _ => none
  | _ => none

section Worlds

variable {w w' : World} {key : Handle} {n : Nat}

theorem belongings_congr (timers : w'.timers = w.timers) (udps : w'.udps = w.udps)
    (tcps : w'.tcps = w.tcps) (sends : w'.udpSends = w.udpSends)
    (writes : w'.tcpWrites = w.tcpWrites) (handles : w'.handles = w.handles) (key : Handle) :
    belongings w' key = belongings w key := by
  cases key <;> simp only [belongings, timers, udps, tcps, sends, writes, handles]

@[simp] theorem belongings_push (e : Event) : belongings (w.push e) key = belongings w key :=
  belongings_congr rfl rfl rfl rfl rfl rfl key

@[simp] theorem belongings_start (callback : Callback) :
    belongings (w.start callback) key = belongings w key := belongings_push _

@[simp] theorem belongings_abort (fault : Fault) :
    belongings (w.abort fault) key = belongings w key :=
  belongings_congr rfl rfl rfl rfl rfl rfl key

theorem belongings_setTimer (t : State.Timer) (other : .timer n ≠ key) :
    belongings (w.setTimer n t) key = belongings w key := by
  cases key with
  | timer m =>
    have ne : n ≠ m := fun same => other (congrArg _ same)
    simp [belongings, World.setTimer, ne]
  | _ => rfl

theorem belongings_setUdp (u : State.Udp) (other : .udp n ≠ key) :
    belongings (w.setUdp n u) key = belongings w key := by
  cases key with
  | udp m =>
    have ne : n ≠ m := fun same => other (congrArg _ same)
    simp [belongings, World.setUdp, ne]
  | _ => rfl

theorem belongings_setTcp (t : State.Tcp) (other : .tcp n ≠ key) :
    belongings (w.setTcp n t) key = belongings w key := by
  cases key with
  | tcp m =>
    have ne : n ≠ m := fun same => other (congrArg _ same)
    simp [belongings, World.setTcp, ne]
  | _ => rfl

private theorem belongings_handles {handles : List Handle}
    (same : key ∈ handles ↔ key ∈ w.handles) :
    belongings { w with handles := handles } key = belongings w key := by
  cases key <;> simp only [belongings, same]

theorem belongings_remove {h : Handle} (other : h ≠ key) :
    belongings (aeRemoveHandle w h) key = belongings w key :=
  belongings_handles (by simp [Ne.symm other])

theorem belongings_store {h : Handle} (other : h ≠ key) :
    belongings (aeStoreHandle w h) key = belongings w key := by
  unfold aeStoreHandle
  rw [belongings_push]
  refine belongings_handles ?_
  split
  · exact Iff.rfl
  · simp [Ne.symm other]

private theorem getElem?_snoc_ne {α : Type} {l : List α} {x : α} (other : l.length ≠ n) :
    (l ++ [x])[n]? = l[n]? := by
  rw [List.getElem?_append]
  split
  · rfl
  · rw [List.getElem?_eq_none (by simp; omega), List.getElem?_eq_none (by omega)]

theorem belongings_newTimer (t : State.Timer) (other : .timer w.timers.length ≠ key) :
    belongings { w with timers := w.timers ++ [t] } key = belongings w key := by
  cases key with
  | timer m =>
    have ne : w.timers.length ≠ m := fun same => other (congrArg _ same)
    simp only [belongings, getElem?_snoc_ne ne]
  | _ => rfl

theorem belongings_newUdp (u : State.Udp) (other : .udp w.udps.length ≠ key) :
    belongings { w with udps := w.udps ++ [u] } key = belongings w key := by
  cases key with
  | udp m =>
    have ne : w.udps.length ≠ m := fun same => other (congrArg _ same)
    simp only [belongings, getElem?_snoc_ne ne]
  | _ => rfl

theorem belongings_newTcp (t : State.Tcp) (other : .tcp w.tcps.length ≠ key) :
    belongings { w with tcps := w.tcps ++ [t] } key = belongings w key := by
  cases key with
  | tcp m =>
    have ne : w.tcps.length ≠ m := fun same => other (congrArg _ same)
    simp only [belongings, getElem?_snoc_ne ne]
  | _ => rfl

theorem queueFrame_belongings (frame : QueueFrame w w') : belongings w' key = belongings w key := by
  obtain ⟨_, _, _, _, _, _, _, rfl, -⟩ := frame
  exact belongings_congr rfl rfl rfl rfl rfl rfl key

theorem sameData_belongings (data : SameData w w') : belongings w' key = belongings w key :=
  belongings_congr data.timers data.udps data.tcps data.udpSends data.tcpWrites data.handles key

private theorem ipPort_belongings (address : List UInt8) (ipType : IpType) :
    belongings (aeIpUtilsGetIpPort w address ipType).1 key = belongings w key := by
  cases ipType <;> rfl

end Worlds

section Methods

variable {w : World} {key : Handle} {n : Nat}

section Timers

variable {t : State.Timer}

private theorem timerClose_belongings (id : ∀ m, t.aeHandleId = some m → m = n)
    (other : .timer n ≠ key) : belongings (Timer.closeHandle w n t) key = belongings w key := by
  unfold Timer.closeHandle
  split
  · split
    · rename_i m found
      obtain rfl := id m found
      rw [belongings_remove other, belongings_setTimer _ other]
    · exact belongings_abort _
  · exact belongings_abort _

/-- `Timer#close` and `Timer#destroy`: the key under which the Timer is stored is its own. -/
private theorem timerEnds_belongings (inv : TimersInv w) (found : w.timers[n]? = some t)
    (other : .timer n ≠ key) : belongings (Timer.close w n t).1 key = belongings w key := by
  refine checked_cases (P := fun r => belongings r.1 key = belongings w key) (fun _ _ => rfl)
    fun _ passed => ?_
  have own := (inv.table.good n t found (open_of_check passed)).1
  exact timerClose_belongings (fun m id => Option.some.inj (id.symm.trans own)) other

private theorem timerInit_belongings (b : Bool) (delay interval : Int) (proc : Nat) (uv : UvAnswers)
    (other : .timer w.timers.length ≠ key) :
    belongings (Timer.initInstance w b delay interval proc uv).1 key = belongings w key := by
  unfold Timer.initInstance
  split
  · exact belongings_newTimer _ other
  · dsimp only
    split
    · rw [timerClose_belongings (fun m found => (Option.some.inj found).symm) other,
        belongings_store other, belongings_newTimer _ other]
    · rw [belongings_setTimer _ other, belongings_store other, belongings_newTimer _ other]

end Timers

section Udps

variable {u : State.Udp}

private theorem udpClose_belongings (id : ∀ m, u.aeHandleId = some m → m = n)
    (other : .udp n ≠ key) : belongings (Udp.closeHandle w n u) key = belongings w key := by
  unfold Udp.closeHandle
  split
  · split
    · rename_i m found
      obtain rfl := id m found
      rw [belongings_remove other, belongings_setUdp _ other]
    · exact belongings_abort _
  · exact belongings_abort _

private theorem udpEnds_belongings (inv : UdpsInv w) (found : w.udps[n]? = some u)
    (other : .udp n ≠ key) : belongings (Udp.close w n u).1 key = belongings w key := by
  refine checked_cases (P := fun r => belongings r.1 key = belongings w key) (fun _ _ => rfl)
    fun _ passed => ?_
  have own := (inv.table.good n u found (open_of_check passed)).1
  exact udpClose_belongings (fun m id => Option.some.inj (id.symm.trans own)) other

private theorem udpInit_belongings (ipType : IpType) (uv : UvAnswers)
    (other : .udp w.udps.length ≠ key) :
    belongings (Udp.initInstance w ipType uv).1 key = belongings w key := by
  unfold Udp.initInstance
  dsimp only
  split
  · exact belongings_newUdp _ other
  · split
    · rw [udpClose_belongings (by rintro m ⟨⟩) other, belongings_push, belongings_newUdp _ other]
    · split
      · rw [udpClose_belongings (by rintro m ⟨⟩) other, belongings_push,
          belongings_newUdp _ other]
      · rw [belongings_store other, belongings_setUdp _ other, belongings_push,
          belongings_newUdp _ other]

private theorem setUdp_belongings (u' : State.Udp) (q : Return) {check : Check Unit}
    (other : .udp n ≠ key) :
    belongings (checked w check fun _ => (w.setUdp n u', .ends q)).1 key = belongings w key :=
  checked_cases (P := fun r => belongings r.1 key = belongings w key) (fun _ _ => rfl)
    fun _ _ => belongings_setUdp _ other

private theorem procFrame_belongings {w' : World} (frame : ProcFrame w w')
    (sends : ∀ m, .udp m = key →
      w'.udpSends.filter (·.socket == m) = w.udpSends.filter (·.socket == m)) :
    belongings w' key = belongings w key := by
  obtain ⟨_, _, _, _, _, _, rfl, -⟩ := frame
  cases key with
  | udp m => exact congrArg (Belongings.udp _ _) (sends m rfl)
  | _ => rfl

private theorem sendDatagram_belongings (found : w.udps[n]? = some u) (args : Args)
    (uv : UvAnswers) (other : .udp n ≠ key) :
    belongings (Udp.sendDatagram w n u args uv).1 key = belongings w key := by
  refine procFrame_belongings (sendDatagram_effect found args uv).1 ?_
  rintro m rfl
  have ne : n ≠ m := fun same => other (congrArg _ same)
  rcases (sendDatagram_sent w n u args uv).udpSends with same | ⟨send, socket, added⟩
  · rw [same]
  · rw [added]
    simp [socket, ne]

private theorem udpLocalAddress_belongings (uv : UvAnswers) :
    belongings (Udp.localAddress w u uv).1 key = belongings w key := by
  refine checked_cases (P := fun r => belongings r.1 key = belongings w key) (fun _ _ => rfl)
    fun _ _ => ?_
  split
  · rfl
  · exact ipPort_belongings _ _

end Udps

section Tcps

variable {t : State.Tcp}

private theorem tcpInit_belongings (p : Tcp.NewArgs) (uv : UvAnswers)
    (other : .tcp w.tcps.length ≠ key) :
    belongings (Tcp.initInstance w p uv).1 key = belongings w key := by
  unfold Tcp.initInstance
  dsimp only
  split
  · exact belongings_newTcp _ other
  · cases p.bindIp with
    | none =>
      dsimp only [Option.map_none]
      split
      · exact belongings_newTcp _ other
      · split
        · exact (belongings_newTcp (w := w.push _) _ other).trans (belongings_push _)
        · rw [belongings_store other]
          exact (belongings_newTcp (w := w.push _) _ other).trans (belongings_push _)
    | some ip =>
      dsimp only [Option.map_some]
      split
      · exact (belongings_newTcp (w := w.push _) _ other).trans (belongings_push _)
      · split
        · exact (belongings_newTcp (w := (w.push _).push _) _ other).trans (by simp)
        · rw [belongings_store other]
          exact (belongings_newTcp (w := (w.push _).push _) _ other).trans (by simp)

private theorem writeFrame_belongings {w' : World} (frame : WriteFrame w w')
    (writes : ∀ m, .tcp m = key →
      w'.tcpWrites.filter (·.socket == m) = w.tcpWrites.filter (·.socket == m)) :
    belongings w' key = belongings w key := by
  obtain ⟨_, _, _, _, rfl, -⟩ := frame
  cases key with
  | tcp m => exact congrArg (Belongings.tcp _ _) (writes m rfl)
  | _ => rfl

private theorem sendData_belongings (args : Args) (uv : UvAnswers) (other : .tcp n ≠ key) :
    belongings (Tcp.sendData w n t args uv).1 key = belongings w key := by
  refine writeFrame_belongings (sendData_frame w n t args uv).1 ?_
  rintro m rfl
  have ne : n ≠ m := fun same => other (congrArg _ same)
  refine checked_cases (P := fun r => r.1.tcpWrites.filter (·.socket == m) =
    w.tcpWrites.filter (·.socket == m)) (fun _ _ => rfl) fun p _ => ?_
  split
  · split
    · rfl
    · simp [ne]
  · dsimp only
    split
    · rfl
    · simp [World.push, ne]

private theorem tcpAddress_belongings (uv : UvAnswers) :
    belongings (Tcp.localAddress w t uv).1 key = belongings w key ∧
      belongings (Tcp.peerAddress w t uv).1 key = belongings w key := by
  constructor
  · refine checked_cases (P := fun r => belongings r.1 key = belongings w key) (fun _ _ => rfl)
      fun _ _ => ?_
    split
    · rfl
    · exact ipPort_belongings _ _
  · refine checked_cases (P := fun r => belongings r.1 key = belongings w key) (fun _ _ => rfl)
      fun _ _ => ?_
    split
    · rfl
    · split
      · rfl
      · exact ipPort_belongings _ _

private theorem setConnectTimeout_belongings (timeout : Value) (uv : UvAnswers)
    (other : .tcp n ≠ key) :
    belongings (Tcp.setConnectTimeout w n t timeout uv).1 key = belongings w key := by
  refine checked_cases (P := fun r => belongings r.1 key = belongings w key) (fun _ _ => rfl)
    fun _ _ => ?_
  dsimp only
  split <;> exact belongings_setTcp _ other

private theorem tcpClose_belongings (other : .tcp n ≠ key) :
    belongings (Tcp.close w n t).1 key = belongings w key := by
  refine checked_cases (P := fun r => belongings r.1 key = belongings w key) (fun _ _ => rfl)
    fun _ _ => ?_
  dsimp only
  split
  · rw [belongings_remove other, belongings_setTcp _ other]
  · exact belongings_setTcp _ other

private theorem closeGracefully_belongings (args : Args) (uv : UvAnswers) (other : .tcp n ≠ key) :
    belongings (Tcp.closeGracefully w n t args uv).1 key = belongings w key := by
  refine checked_cases (P := fun r => belongings r.1 key = belongings w key) (fun _ _ => rfl)
    fun _ _ => ?_
  split
  · split
    · exact belongings_abort _
    · dsimp only
      split
      · exact belongings_setTcp _ other
      · rw [belongings_setTcp _ other, belongings_push]
  · exact belongings_setTcp _ other

private theorem tcpDestroy_belongings (other : .tcp n ≠ key) :
    belongings (Tcp.destroy w n t).1 key = belongings w key := by
  refine checked_cases (P := fun r => belongings r.1 key = belongings w key) (fun _ _ => rfl)
    fun _ _ => ?_
  dsimp only
  split
  · rw [belongings_remove other, belongings_setTcp _ other]
  · exact belongings_setTcp _ other

private theorem connect_belongings (error : Option Int) (uv : UvAnswers) (other : .tcp n ≠ key) :
    belongings (Tcp.uvConnectCallback w n t error uv).1 key = belongings w key := by
  unfold Tcp.uvConnectCallback
  dsimp only
  split
  · split
    · split
      · exact belongings_abort _
      · split
        · exact belongings_abort _
        · rw [belongings_setTcp _ other, belongings_push]
    · split
      · exact belongings_abort _
      · exact belongings_setTcp _ other
  · rw [belongings_remove other, belongings_setTcp _ other]

private theorem read_belongings (read : Tcp.Read) (uv : UvAnswers) (other : .tcp n ≠ key) :
    belongings (Tcp.uvReadCallback w n t read uv).1 key = belongings w key := by
  unfold Tcp.uvReadCallback
  split
  · rfl
  · rfl
  · split
    · exact belongings_abort _
    · split
      · exact belongings_abort _
      · dsimp only
        rw [belongings_setTcp _ other, belongings_push]
  · rw [belongings_remove other, belongings_setTcp _ other]

private theorem connectTimeout_belongings (other : .tcp n ≠ key) :
    belongings (Tcp.uvTimerConnectTimeoutCallback w n t) key = belongings w key := by
  unfold Tcp.uvTimerConnectTimeoutCallback
  split
  · exact belongings_abort _
  · split
    · exact belongings_abort _
    · exact belongings_setTcp _ other

private theorem shutdown_belongings (other : .tcp n ≠ key) :
    belongings (Tcp.uvShutdownCallback w n t).1 key = belongings w key := by
  unfold Tcp.uvShutdownCallback
  split
  · rw [belongings_remove other, belongings_setTcp _ other]
  · exact belongings_setTcp _ other

end Tcps

variable {r : World × Outcome}

private theorem dispatch_belongings {call : Call} (inv : HandlesInv w)
    (h : dispatch w call = some r) (other : calledOn w call ≠ some key) :
    belongings r.1 key = belongings w key := by
  have only {k : Handle} (on : calledOn w call = some k) : k ≠ key := by
    rintro rfl
    exact other on
  have map {α : Type} {o : Option α} {f : α → World × Outcome} (h : o.map f = some r)
      (same : ∀ x, o = some x → belongings (f x).1 key = belongings w key) :
      belongings r.1 key = belongings w key := by
    obtain ⟨x, found, rfl⟩ := Option.map_eq_some_iff.mp h
    exact same x found
  have keeps {α : Type} {check : Check α} {go : α → World × Outcome}
      (h : some (checked w check go) = some r)
      (same : ∀ x, check = .ok x → belongings (go x).1 key = belongings w key) :
      belongings r.1 key = belongings w key := by
    obtain rfl := Option.some.inj h
    exact checked_cases (P := fun r => belongings r.1 key = belongings w key) (fun _ _ => rfl) same
  by_cases file : fileOf call = .queue
  · have frame := dispatch_own h
    rw [file] at frame
    exact queueFrame_belongings frame
  · cases call with
    | query question => exact map h fun _ _ => rfl
    | timerNew args uv =>
      exact keeps h fun p _ => timerInit_belongings _ _ _ _ _ (only rfl)
    | periodicTimerNew args uv =>
      exact keeps h fun p _ => timerInit_belongings _ _ _ _ _ (only rfl)
    | timerPause n uv =>
      refine map h fun t _ => ?_
      refine checked_cases (P := fun r => belongings r.1 key = belongings w key) (fun _ _ => rfl)
        fun _ _ => ?_
      split
      · rfl
      · exact belongings_setTimer _ (only rfl)
    | timerRestart n args uv =>
      refine map h fun t found => ?_
      cases opened : t.uvHandle with
      | false => rw [restart_closed opened]
      | true =>
        obtain ⟨t', q, result, -⟩ := restart_ends args uv found opened
        rw [result]
        exact belongings_setTimer _ (only rfl)
    | timerClose n => exact map h fun t found => timerEnds_belongings inv.timers found (only rfl)
    | udpNew args uv => exact keeps h fun p _ => udpInit_belongings _ _ (only rfl)
    | udpSendDatagram n args uv =>
      exact map h fun u found => sendDatagram_belongings found args uv (only rfl)
    | udpLocalAddress n uv => exact map h fun u _ => udpLocalAddress_belongings uv
    | udpPause n => exact map h fun u _ => setUdp_belongings _ _ (only rfl)
    | udpResume n => exact map h fun u _ => setUdp_belongings _ _ (only rfl)
    | udpSetEncoding n encoding => exact map h fun u _ => setUdp_belongings _ _ (only rfl)
    | udpClose n => exact map h fun u found => udpEnds_belongings inv.udps found (only rfl)
    | dnsResolve args uv =>
      obtain rfl := Option.some.inj h
      refine procFrame_belongings (resolve_effect w args uv).1 fun m _ => ?_
      refine checked_cases (P := fun r => r.1.udpSends.filter (·.socket == m) =
        w.udpSends.filter (·.socket == m)) (fun _ _ => rfl) fun p _ => ?_
      split <;> rfl
    | tcpNew args uv => exact keeps h fun p _ => tcpInit_belongings p uv (only rfl)
    | tcpSendData n args uv => exact map h fun t _ => sendData_belongings args uv (only rfl)
    | tcpLocalAddress n uv => exact map h fun t _ => (tcpAddress_belongings uv).1
    | tcpPeerAddress n uv => exact map h fun t _ => (tcpAddress_belongings uv).2
    | tcpSetConnectTimeout n timeout uv =>
      exact map h fun t _ => setConnectTimeout_belongings timeout uv (only rfl)
    | tcpClose n => exact map h fun t _ => tcpClose_belongings (only rfl)
    | tcpCloseGracefully n args uv =>
      exact map h fun t _ => closeGracefully_belongings args uv (only rfl)
    | _ => exact absurd rfl file

private theorem destroy_belongings {k : Handle} (inv : HandlesInv w) (other : k ≠ key) :
    belongings (destroyHandle w k).1 key = belongings w key := by
  cases k with
  | timer n =>
    unfold destroyHandle
    dsimp only
    split
    · rename_i t found
      exact timerEnds_belongings inv.timers found other
    · rfl
  | udp n =>
    unfold destroyHandle
    dsimp only
    split
    · rename_i u found
      exact udpEnds_belongings inv.udps found other
    · rfl
  | tcp n =>
    unfold destroyHandle
    dsimp only
    split
    · exact tcpDestroy_belongings other
    · rfl

private theorem filter_eraseIdx {α : Type} {l : List α} {k : Nat} {x : α} {p : α → Bool}
    (found : l[k]? = some x) (other : p x = false) : (l.eraseIdx k).filter p = l.filter p := by
  induction l generalizing k with
  | nil => cases found
  | cons y l ih =>
    cases k with
    | zero =>
      obtain rfl := Option.some.inj found
      simp [other]
    | succ k =>
      have rest : (l.eraseIdx k).filter p = l.filter p := ih found
      simp [List.filter_cons, rest]

private theorem reports_belongings {event : UvEvent} {r : World × Option Callback}
    (inv : HandlesInv w) (h : Reports w event r) (other : reportedOf w event ≠ some key) :
    belongings r.1 key = belongings w key := by
  have only {k : Handle} (on : reportedOf w event = some k) : k ≠ key := by
    rintro rfl
    exact other on
  have own := reports_own h
  cases h with
  | ubf sent => rfl
  | @timer n t found active =>
    have opened := inv.timers.idle t (List.mem_of_getElem? found) active
    have id := (inv.timers.table.good n t found opened).1
    unfold Timer.uvTimerCallback
    dsimp only
    split
    · exact belongings_setTimer _ (only rfl)
    · refine (timerClose_belongings (t := { t with uvActive := decide (t.uvRepeat ≠ 0) })
        (fun m id' => ?_) (only rfl)).trans (belongings_setTimer _ (only rfl))
      exact Option.some.inj (id'.symm.trans id)
  | @recv n u received found receiving =>
    obtain ⟨recvData, ⟨dropped, -⟩ | ⟨b, bytes, source, -, -, -, called⟩⟩ :=
      uvRecvCallback_cases found received
    · rw [dropped]
      exact belongings_congr rfl rfl rfl rfl rfl rfl key
    · rw [called]
      exact (ipPort_belongings _ _).trans (belongings_congr rfl rfl rfl rfl rfl rfl key)
  | @sent k error send u found socket may =>
    refine procFrame_belongings own ?_
    rintro m rfl
    have sends : (Udp.uvSendCallback { w with udpSends := w.udpSends.eraseIdx k } send
        (error.map .uv)).1.udpSends = w.udpSends.eraseIdx k := by
      rcases uvSendCallback_cases { w with udpSends := w.udpSends.eraseIdx k } send
        (error.map .uv) with unasked | ⟨id, ⟨fault, world⟩, -⟩
      · rw [unasked]
      · rw [world]
    have ne : send.socket ≠ m := by
      rintro rfl
      exact only (by simp [reportedOf, found]) rfl
    rw [sends]
    exact filter_eraseIdx found (beq_false_of_ne ne)
  | @resolved k procId result found =>
    refine procFrame_belongings own fun m _ => ?_
    obtain ⟨fault, world⟩ := (uvGetaddrinfoCallback_completes
      { w with lookups := w.lookups.eraseIdx k } procId (result.mapError .uv)).world
    rw [world]
  | connect socket pending may => exact connect_belongings _ _ (only rfl)
  | read socket reading => exact read_belongings _ _ (only rfl)
  | @write k error write t found socket may =>
    refine writeFrame_belongings own ?_
    rintro m rfl
    have writes : (Tcp.uvWriteCallback { w with tcpWrites := w.tcpWrites.eraseIdx k } t write
        (error.map .uv)).1.tcpWrites = w.tcpWrites.eraseIdx k := by
      unfold Tcp.uvWriteCallback
      split <;> rfl
    have ne : write.socket ≠ m := by
      rintro rfl
      exact only (by simp [reportedOf, found]) rfl
    rw [writes]
    exact filter_eraseIdx found (beq_false_of_ne ne)
  | shutdown socket pending may => exact shutdown_belongings (only rfl)
  | connectTimeout socket fired active => exact connectTimeout_belongings (only rfl)

end Methods

section Steps

variable {w : World} {c c' : Config} {a : Action} {key : Handle} {base : Base} {stack : List Frame}

private theorem releaseLoop_belongings :
    belongings (aeReleaseLoop w base stack).1 key = belongings w key := by
  unfold aeReleaseLoop
  split
  · exact belongings_congr rfl rfl rfl rfl rfl rfl key
  · rfl

private theorem handleError_belongings (error : RubyError) :
    belongings (aeHandleError w error base stack).1 key = belongings w key := by
  unfold aeHandleError
  split
  · exact belongings_start _
  · exact releaseLoop_belongings.trans (belongings_congr rfl rfl rfl rfl rfl rfl key)

private theorem batchNext_belongings (o : Bool) (procs : List Tick) :
    belongings (batchNext w o procs base stack).1 key = belongings w key := by
  unfold batchNext
  split
  · rfl
  · split
    · rfl
    · dsimp only
      split
      · exact releaseLoop_belongings
      · exact belongings_start _

private theorem onExitNext_belongings (procs : List Nat) (error : Option RubyError) :
    belongings (onExitNext w procs error base stack).1 key = belongings w key := by
  unfold onExitNext
  split
  · exact belongings_start _
  · exact belongings_push _

private theorem releaseNext_belongings {keys : List Handle} (inv : HandlesInv w)
    (other : keys.head? ≠ some key) :
    belongings (releaseNext w keys base stack).1 key = belongings w key := by
  cases keys with
  | nil =>
    change belongings (closeInternalHandles w) key = _
    rcases closeInternalHandles_cases w with aborts | closes
    · rw [aborts, belongings_abort]
    · rw [closes]
      exact belongings_congr rfl rfl rfl rfl rfl rfl key
  | cons k keys =>
    have ne : k ≠ key := fun same => other (congrArg some same)
    have destroyed := destroy_belongings inv ne
    unfold releaseNext
    dsimp only
    split
    · split
      · rename_i w' result ends
        rw [ends] at destroyed
        exact destroyed
      · rename_i w' callback frame calls
        rw [calls] at destroyed
        exact (belongings_start _).trans destroyed
    · rfl

private theorem resume_belongings {result : Return} {frame : Frame} (inv : HandlesInv w)
    (other : ∀ keys, frame = .release keys → keys.head? ≠ some key) :
    belongings (resume w result frame base stack).1 key = belongings w key := by
  unfold resume
  split
  · rfl
  · split
    · rfl
    · exact handleError_belongings _
  · exact batchNext_belongings _ _
  · rfl
  · exact releaseLoop_belongings.trans (belongings_congr rfl rfl rfl rfl rfl rfl key)
  · exact releaseNext_belongings inv (other _ rfl)
  · rfl
  · rfl
  · exact belongings_push _
  · exact belongings_push _
  · exact onExitNext_belongings _ _
  · exact belongings_push _

private theorem proceed_belongings (inv : HandlesInv c.world) (h : Proceeds c c')
    (other : subject c .proceed ≠ some key) : belongings c'.world key = belongings c.world key := by
  cases h with
  | @frame result base frame stack ctl =>
    refine resume_belongings inv ?_
    rintro keys rfl
    cases keys with
    | nil => simp
    | cons k keys =>
      have on : subject c .proceed = some k := by
        unfold subject
        rw [ctl]
      rw [on] at other
      exact other
  | loops ctl => rfl
  | intsReturn ctl => rfl
  | intsRaise ctl caller => exact belongings_push _
  | enters ctl => rfl
  | takes ctl =>
    unfold takeBatch
    split
    · exact belongings_abort _
    · exact belongings_congr rfl rfl rfl rfl rfl rfl key
  | ends ctl caller =>
    unfold endLoop
    dsimp only
    split
    · exact belongings_congr rfl rfl rfl rfl rfl rfl key
    · exact belongings_abort _

/-- A step that is about another handle, or about none, leaves the handle as it is. -/
theorem step_isolated (inv : HandlesInv c.world) (move : engine.step c a = some c')
    (other : subject c a ≠ some key) : belongings c'.world key = belongings c.world key := by
  by_cases proceeds : a = .proceed
  · subst proceeds
    exact proceed_belongings inv (proceed_inv move) other
  · obtain ⟨-, step⟩ := step_inv move
    obtain ⟨w, runs, data⟩ := step_data step
    rw [sameData_belongings data]
    cases runs with
    | nothing => rfl
    | method called => exact dispatch_belongings inv called other
    | queue frame => exact queueFrame_belongings frame
    | callback reported => exact reports_belongings inv reported other
    | destroy stored => exact absurd rfl proceeds

/-- In every run, from one step about a handle to the next, whatever is done to other handles, to
the queues and to the loop itself, the handle stays exactly as it is, in `@_handles` or not, with
the requests that are pending on it. -/
theorem handles_are_isolated {l : List (Config × Action)} (path : Path engine l c)
    {as : List Action} (segment : Segment
      (engine.only fun c a => decide (subject c a ≠ some key)) (fun _ => True) c as c') :
    belongings c'.world key = belongings c.world key := by
  have kept := segment.invariant (I := fun s => (∃ l, Path engine l s) ∧
    belongings s.world key = belongings c.world key) ⟨⟨l, path⟩, rfl⟩ ?_
  · exact kept.2
  · rintro s t a ⟨⟨l, path⟩, same⟩ move
    obtain ⟨other, move⟩ := only_step.mp move
    have handles := (endInv_of_path path).release.handles
    have still := step_isolated handles move (of_decide_eq_true other)
    exact ⟨⟨_, path.next move⟩, still.trans same⟩

/-- The block of `AE.run` has made a Timer. -/
private def makesTimer : List Action := runBlock ++ [.call (.timerNew ⟨[.float 0.1], some 7⟩ {})]

private def makesUdp : Action :=
  .call (.udpNew ⟨[.string [49, 50, 55, 46, 48, 46, 48, 46, 49], .fixnum 5060], none⟩ {})

/-- The Timer stays as it is. -/
theorem handles_are_isolated_timer : ∃ l c c', Path engine l c ∧ c.world.timers.length = 1 ∧
    engine.step c makesUdp = some c' ∧
    belongings c'.world (.timer 0) = belongings c.world (.timer 0) := by
  have reached : (engine.exec makesTimer).any (fun c => decide (c.world.timers.length = 1 ∧
      subject c makesUdp ≠ some (.timer 0)) && (engine.step c makesUdp).isSome) = true := by
    decide +kernel
  obtain ⟨l, c, path, seen⟩ := exists_path_of_exec engine _ _ reached
  obtain ⟨here, goes⟩ := Bool.and_eq_true_iff.mp seen
  obtain ⟨one, other⟩ := of_decide_eq_true here
  obtain ⟨c', move⟩ := Option.isSome_iff_exists.mp goes
  have allowed : (engine.only fun c a => decide (subject c a ≠ some (.timer 0))).step c makesUdp =
      some c' := only_step.mpr ⟨decide_eq_true other, move⟩
  exact ⟨l, c, c', path, one, move,
    handles_are_isolated path (Segment.next .empty trivial allowed)⟩

end Steps

end AsyncEngine.Engine.Isolation
