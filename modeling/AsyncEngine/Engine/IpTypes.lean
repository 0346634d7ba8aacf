/- The address families of the sockets, and what the switches over `ip_type` make of them. -/

import AsyncEngine.Engine.Handles
import AsyncEngine.Engine.TcpLife

set_option autoImplicit false
set_option relaxedAutoImplicit false

namespace AsyncEngine.Engine.IpTypes

open AsyncEngine.Lib.Run
open AsyncEngine.IpParser.Machine
open AsyncEngine.Engine.Ruby
open AsyncEngine.Engine.State
open AsyncEngine.Engine.Machine
open AsyncEngine.Engine.Effects
open AsyncEngine.Engine.Steps
open AsyncEngine.Engine.Handles
open AsyncEngine.Engine.TcpMoves
open AsyncEngine.Engine.TcpLife

/-- One of the two families for which the switches over `ip_type` call libuv. -/
def Family (ipType : IpType) : Prop := ipType = .ipv4 ∨ ipType = .ipv6

/-- A switch calls libuv once and assigns its answer to the variable that is tested, and no
address is written without a family. -/
def Fine : Event → Prop
  | .switched answers tested => answers = [tested]
  | .invalidIpType => False
  | _ => True

/-- A constructor accepts an address in brackets, and libuv initialises its handle. -/
def TakesReference (c : Config) : Action → Prop
  | .call (.udpNew args uv) => uv.init = 0 ∧
      ∃ p, Udp.newArgs c.world.status args = .ok p ∧ p.ipType = .ipv6Reference
  | .call (.tcpNew args uv) => uv.init = 0 ∧
      ∃ p, Tcp.newArgs c.world.status args = .ok p ∧ p.ipType = .ipv6Reference
  | _ => False

/-- Every open socket has one of the two families, and every switch was over one of them. -/
structure OneFamily (w : World) : Prop where
  udps : ∀ (n : Nat) (u : State.Udp), w.udps[n]? = some u → u.uvHandle = true →
    Family u.ipType
  tcps : ∀ (n : Nat) (t : State.Tcp), w.tcps[n]? = some t → t.uvHandle = true →
    Family t.ipType
  switches : ∀ answers tested, .switched answers tested ∈ w.trace → answers = [tested]
  addresses : .invalidIpType ∉ w.trace

/-- The UDPSockets and the trace; of the TCPSockets see their moves. -/
structure FamiliesInv (w : World) : Prop where
  udps : ∀ u ∈ w.udps, u.uvHandle = true → Family u.ipType
  trace : ∀ e ∈ w.trace, Fine e

private theorem switch_of_family {ipType : IpType} (family : Family ipType) (answer before : Int) :
    switchIpType ipType answer before = ([answer], answer) := by
  rcases family with rfl | rfl
  · rfl
  · rfl

private theorem ipPort_of_family {ipType : IpType} (family : Family ipType) (w : World)
    (address : List UInt8) : (aeIpUtilsGetIpPort w address ipType).1 = w := by
  rcases family with rfl | rfl
  · rfl
  · rfl

private theorem family_of_ne {ipType : IpType} (accepted : ipType ≠ .noIp)
    (plain : ipType ≠ .ipv6Reference) : Family ipType := by
  cases ipType with
  | ipv4 => exact .inl rfl
  | ipv6 => exact .inr rfl
  | ipv6Reference => exact absurd rfl plain
  | noIp => exact absurd rfl accepted

section Functions

variable {w w' : World} {n : Nat}

private theorem FamiliesInv.adds (inv : FamiliesInv w) (events : List Event)
    (udps : w'.udps = w.udps) (trace : w'.trace = events ++ w.trace)
    (fine : ∀ e ∈ events, Fine e) : FamiliesInv w' := by
  refine ⟨?_, ?_⟩
  · rw [udps]
    exact inv.udps
  · intro e here
    rw [trace] at here
    rcases List.mem_append.mp here with new | old
    · exact fine e new
    · exact inv.trace e old

private theorem FamiliesInv.congr (inv : FamiliesInv w) (udps : w'.udps = w.udps)
    (trace : w'.trace = w.trace) : FamiliesInv w' :=
  inv.adds [] udps trace (by simp)

private theorem families_timer (inv : FamiliesInv w) (frame : TimerFrame w w') :
    FamiliesInv w' := by
  obtain ⟨_, _, events, _, rfl, -, own⟩ := frame
  refine inv.adds events rfl rfl ?_
  intro e here
  obtain ⟨m, rfl⟩ := own e here
  trivial

private theorem families_queue (inv : FamiliesInv w) (frame : QueueFrame w w') :
    FamiliesInv w' := by
  obtain ⟨_, _, _, _, _, _, _, rfl, -⟩ := frame
  exact inv.congr rfl rfl

section Udps

variable {u u' : State.Udp}

private theorem families_setUdp (inv : FamiliesInv w)
    (fine : u'.uvHandle = true → Family u'.ipType) : FamiliesInv (w.setUdp n u') := by
  refine ⟨?_, inv.trace⟩
  intro x mem opened
  rcases List.mem_or_eq_of_mem_set mem with old | rfl
  · exact inv.udps x old opened
  · exact fine opened

private theorem udpClose_families (inv : FamiliesInv w) : FamiliesInv (Udp.closeHandle w n u) := by
  unfold Udp.closeHandle
  split
  · split
    · have closed : FamiliesInv (w.setUdp n
          { u with uvHandle := false, uvCloses := u.uvCloses + 1, uvReceiving := false }) :=
        families_setUdp inv fun opened => by cases opened
      exact closed.congr rfl rfl
    · exact inv.congr rfl rfl
  · exact inv.congr rfl rfl

private theorem udpInit_families {ipType : IpType} (inv : FamiliesInv w) (uv : UvAnswers)
    (fine : uv.init = 0 → Family ipType) : FamiliesInv (Udp.initInstance w ipType uv).1 := by
  have appended : FamiliesInv
      { w with udps := w.udps ++ [{ uvInited := decide (uv.init = 0) }] } := by
    refine ⟨?_, inv.trace⟩
    intro x mem opened
    rcases List.mem_append.mp mem with old | new
    · exact inv.udps x old opened
    · obtain rfl := List.mem_singleton.mp new
      cases opened
  unfold Udp.initInstance
  dsimp only
  split
  · exact appended
  · rename_i init
    have family := fine (not_not.mp init)
    simp only [switch_of_family family]
    have switched : FamiliesInv (World.push
        { w with udps := w.udps ++ [{ uvInited := decide (uv.init = 0) }] }
        (.switched [uv.bind] uv.bind)) := appended.adds [_] rfl rfl (by simp [Fine])
    have closed := udpClose_families (n := w.udps.length)
      (u := { uvInited := decide (uv.init = 0) }) switched
    split
    · exact closed
    · split
      · exact closed
      · exact (families_setUdp switched fun _ => family).adds [.inserted _ _] rfl rfl
          (by simp [Fine])

theorem udpNewArgs_spec {s : AeStatus} {args : Args} {p : Udp.NewArgs}
    (h : Udp.newArgs s args = .ok p) : p.ipType ≠ .noIp := by
  unfold Udp.newArgs at h
  obtain ⟨_, _, h⟩ := of_bind h
  obtain ⟨_, _, h⟩ := of_bind h
  obtain ⟨_, _, h⟩ := of_bind h
  obtain ⟨bindIp, _, h⟩ := of_bind h
  obtain ⟨_, _, h⟩ := of_bind h
  dsimp only at h
  generalize ipTypeOf bindIp = ipType at h
  split at h
  · cases h
  · rename_i accepted
    obtain rfl := Except.ok.inj h
    exact accepted

private theorem udpNew_families {c : Config} (inv : FamiliesInv c.world) {args : Args}
    {uv : UvAnswers} (plain : ¬ TakesReference c (.call (.udpNew args uv))) :
    FamiliesInv (Udp.new c.world args uv).1 := by
  refine checked_cases (P := fun r => FamiliesInv r.1) (fun _ _ => inv) fun p accepted => ?_
  refine udpInit_families inv uv fun init => ?_
  exact family_of_ne (udpNewArgs_spec accepted) fun reference =>
    plain ⟨init, p, accepted, reference⟩

private theorem open_of_sendArgs {args : Args} {p : Udp.SendArgs}
    (h : Udp.sendArgs u args = .ok p) : u.uvHandle = true := by
  obtain ⟨_, _, h⟩ := of_bind h
  obtain ⟨_, opened, _⟩ := of_bind h
  exact open_of_check opened

private theorem sendDatagram_families (inv : FamiliesInv w) (found : w.udps[n]? = some u)
    (args : Args) (uv : UvAnswers) : FamiliesInv (Udp.sendDatagram w n u args uv).1 := by
  refine checked_cases (P := fun r => FamiliesInv r.1) (fun _ _ => inv) fun p accepted => ?_
  have family := inv.udps u (List.mem_of_getElem? found) (open_of_sendArgs accepted)
  simp only [switch_of_family family]
  have either {r r' : World × Outcome} (condition : Prop) [Decidable condition]
      (yes : FamiliesInv r.1) (no : FamiliesInv r'.1) :
      FamiliesInv (if condition then r else r').1 := by
    split
    · exact yes
    · exact no
  cases p.proc with
  | none =>
    dsimp only [Option.map_none]
    apply either <;> dsimp only <;> split <;>
      exact inv.adds [.switched [uv.send] uv.send] rfl rfl (by simp [Fine])
  | some proc =>
    dsimp only [Option.map_some]
    apply either <;> dsimp only <;> split
    · exact inv.adds [.accepted _ _, .switched [uv.send] uv.send] rfl rfl
        (by simp [Fine])
    · exact inv.adds [.switched [uv.send] uv.send] rfl rfl (by simp [Fine])
    · exact inv.adds [.accepted _ _, .switched [uv.send] uv.send] rfl rfl
        (by simp [Fine])
    · exact inv.adds [.switched [uv.send] uv.send] rfl rfl (by simp [Fine])

private theorem udpLocalAddress_families (inv : FamiliesInv w) (found : w.udps[n]? = some u)
    (uv : UvAnswers) : FamiliesInv (Udp.localAddress w u uv).1 := by
  refine checked_cases (P := fun r => FamiliesInv r.1) (fun _ _ => inv) fun _ check => ?_
  have family := inv.udps u (List.mem_of_getElem? found) (open_of_check check)
  split
  · exact inv
  · dsimp only
    rw [ipPort_of_family family]
    exact inv

private theorem uvRecvCallback_families (inv : FamiliesInv w) (found : w.udps[n]? = some u)
    (opened : u.uvHandle = true) (received : Option (List UInt8 × List UInt8)) :
    FamiliesInv (Udp.uvRecvCallback w n u received).1 := by
  have family := inv.udps u (List.mem_of_getElem? found) opened
  obtain ⟨recvData, ⟨dropped, -⟩ | ⟨b, bytes, source, -, -, -, called⟩⟩ :=
    uvRecvCallback_cases found received
  · rw [dropped]
    exact inv.congr rfl rfl
  · rw [called, ipPort_of_family family]
    exact inv.congr rfl rfl

end Udps

section Tcps

variable {t : State.Tcp}

private theorem tcpInit_families {p : Tcp.NewArgs} (inv : FamiliesInv w) (uv : UvAnswers)
    (fine : uv.init = 0 → Family p.ipType) : FamiliesInv (Tcp.initInstance w p uv).1 := by
  unfold Tcp.initInstance
  dsimp only
  split
  · exact inv.congr rfl rfl
  · rename_i init
    have family := fine (not_not.mp init)
    cases p.bindIp with
    | none =>
      simp only [switch_of_family family, Option.map_none, Option.isSome_none, Bool.false_eq_true,
        false_and, if_false]
      split
      · exact inv.adds [.switched [uv.connect] uv.connect] rfl rfl (by simp [Fine])
      · exact inv.adds [.inserted _ _, .switched [uv.connect] uv.connect] rfl rfl
          (by simp [Fine])
    | some ip =>
      simp only [switch_of_family family, Option.map_some, Option.isSome_some, true_and]
      split
      · exact inv.adds [.switched [uv.bind] uv.bind] rfl rfl (by simp [Fine])
      · split
        · exact inv.adds [.switched [uv.connect] uv.connect,
            .switched [uv.bind] uv.bind] rfl rfl (by simp [Fine])
        · exact inv.adds [.inserted _ _, .switched [uv.connect] uv.connect,
            .switched [uv.bind] uv.bind] rfl rfl (by simp [Fine])

private theorem tcpNew_families {c : Config} (inv : FamiliesInv c.world) {args : Args}
    {uv : UvAnswers} (plain : ¬ TakesReference c (.call (.tcpNew args uv))) :
    FamiliesInv (Tcp.new c.world args uv).1 := by
  refine checked_cases (P := fun r => FamiliesInv r.1) (fun _ _ => inv) fun p accepted => ?_
  refine tcpInit_families inv uv fun init => ?_
  exact family_of_ne (tcpNewArgs_spec accepted).2.2 fun reference =>
    plain ⟨init, p, accepted, reference⟩

private theorem sendData_families (inv : FamiliesInv w) (args : Args) (uv : UvAnswers) :
    FamiliesInv (Tcp.sendData w n t args uv).1 := by
  refine checked_cases (P := fun r => FamiliesInv r.1) (fun _ _ => inv) fun p _ => ?_
  dsimp only
  split
  · split
    · exact inv
    · exact inv.congr rfl rfl
  · split
    · exact inv.congr rfl rfl
    · exact inv.adds [.accepted _ _] rfl rfl (by simp [Fine])

private theorem tcpLocalAddress_families (inv : FamiliesInv w)
    (family : t.uvHandle = true → Family t.ipType) (uv : UvAnswers) :
    FamiliesInv (Tcp.localAddress w t uv).1 := by
  refine checked_cases (P := fun r => FamiliesInv r.1) (fun _ _ => inv) fun _ check => ?_
  split
  · exact inv
  · dsimp only
    rw [ipPort_of_family (family (open_of_check check))]
    exact inv

private theorem tcpPeerAddress_families (inv : FamiliesInv w)
    (family : t.uvHandle = true → Family t.ipType) (uv : UvAnswers) :
    FamiliesInv (Tcp.peerAddress w t uv).1 := by
  refine checked_cases (P := fun r => FamiliesInv r.1) (fun _ _ => inv) fun _ check => ?_
  split
  · exact inv
  · split
    · exact inv
    · dsimp only
      rw [ipPort_of_family (family (open_of_check check))]
      exact inv

private theorem setConnectTimeout_families (inv : FamiliesInv w) (timeout : Value)
    (uv : UvAnswers) : FamiliesInv (Tcp.setConnectTimeout w n t timeout uv).1 := by
  refine checked_cases (P := fun r => FamiliesInv r.1) (fun _ _ => inv) fun _ _ => ?_
  dsimp only
  split
  · exact inv.congr rfl rfl
  · exact inv.congr rfl rfl

private theorem tcpClose_families (inv : FamiliesInv w) : FamiliesInv (Tcp.close w n t).1 := by
  refine checked_cases (P := fun r => FamiliesInv r.1) (fun _ _ => inv) fun _ _ => ?_
  dsimp only
  split
  · exact inv.congr rfl rfl
  · exact inv.congr rfl rfl

private theorem closeGracefully_families (inv : FamiliesInv w) (args : Args) (uv : UvAnswers) :
    FamiliesInv (Tcp.closeGracefully w n t args uv).1 := by
  refine checked_cases (P := fun r => FamiliesInv r.1) (fun _ _ => inv) fun _ _ => ?_
  split
  · split
    · exact inv.congr rfl rfl
    · dsimp only
      split
      · exact inv.congr rfl rfl
      · exact inv.adds [.shutdown _ _] rfl rfl (by simp [Fine])
  · exact inv.congr rfl rfl

private theorem tcpDestroy_families (inv : FamiliesInv w) :
    FamiliesInv (Tcp.destroy w n t).1 := by
  refine checked_cases (P := fun r => FamiliesInv r.1) (fun _ _ => inv) fun _ _ => ?_
  dsimp only
  split
  · exact inv.congr rfl rfl
  · exact inv.congr rfl rfl

private theorem uvConnectCallback_families (inv : FamiliesInv w) (error : Option Int)
    (uv : UvAnswers) : FamiliesInv (Tcp.uvConnectCallback w n t error uv).1 := by
  unfold Tcp.uvConnectCallback
  dsimp only
  split
  · split
    · split
      · exact inv.congr rfl rfl
      · split
        · exact inv.congr rfl rfl
        · exact inv.adds [.shutdown _ _] rfl rfl (by simp [Fine])
    · split
      · exact inv.congr rfl rfl
      · exact inv.congr rfl rfl
  · exact inv.congr rfl rfl

private theorem uvReadCallback_families (inv : FamiliesInv w) (read : Tcp.Read)
    (uv : UvAnswers) : FamiliesInv (Tcp.uvReadCallback w n t read uv).1 := by
  cases read with
  | nothing => exact inv
  | data bytes => exact inv
  | eof =>
    dsimp only [Tcp.uvReadCallback]
    split
    · exact inv.congr rfl rfl
    · split
      · exact inv.congr rfl rfl
      · exact inv.adds [.shutdown _ _] rfl rfl (by simp [Fine])
  | error errno => exact inv.congr rfl rfl

private theorem uvWriteCallback_families (inv : FamiliesInv w) (writes : List UvWrite)
    (write : UvWrite) (error : Option RubyError) :
    FamiliesInv (Tcp.uvWriteCallback { w with tcpWrites := writes } t write error).1 := by
  unfold Tcp.uvWriteCallback
  split
  · exact inv.congr rfl rfl
  · exact inv.adds [.completed _ _ _] rfl rfl (by simp [Fine])

private theorem uvTimerConnectTimeoutCallback_families (inv : FamiliesInv w) :
    FamiliesInv (Tcp.uvTimerConnectTimeoutCallback w n t) := by
  unfold Tcp.uvTimerConnectTimeoutCallback
  split
  · exact inv.congr rfl rfl
  · split
    · exact inv.congr rfl rfl
    · exact inv.congr rfl rfl

private theorem uvShutdownCallback_families (inv : FamiliesInv w) :
    FamiliesInv (Tcp.uvShutdownCallback w n t).1 := by
  unfold Tcp.uvShutdownCallback
  split
  · exact inv.congr rfl rfl
  · exact inv.congr rfl rfl

end Tcps

section Procs

private theorem resolve_families (inv : FamiliesInv w) (args : Args) (uv : UvAnswers) :
    FamiliesInv (Procs.resolve w args uv).1 := by
  refine checked_cases (P := fun r => FamiliesInv r.1) (fun _ _ => inv) fun _ _ => ?_
  split
  · exact inv
  · exact inv.adds [.accepted _ _] rfl rfl (by simp [Fine])

private theorem uvSendCallback_families (inv : FamiliesInv w) (sends : List UdpSend)
    (send : UdpSend) (error : Option RubyError) :
    FamiliesInv (Udp.uvSendCallback { w with udpSends := sends } send error).1 := by
  rcases uvSendCallback_cases { w with udpSends := sends } send error with
    unasked | ⟨id, ⟨fault, world⟩, -⟩
  · rw [unasked]
    exact inv.congr rfl rfl
  · rw [world]
    exact inv.adds [.completed _ _ _] rfl rfl (by simp [Fine])

private theorem uvGetaddrinfoCallback_families (inv : FamiliesInv w) (lookups : List Nat)
    (procId : Nat) (result : Except RubyError (List (List UInt8))) :
    FamiliesInv
      (Procs.uvGetaddrinfoCallback { w with lookups := lookups } procId result).1 := by
  obtain ⟨fault, world⟩ :=
    (uvGetaddrinfoCallback_completes { w with lookups := lookups } procId result).world
  rw [world]
  exact inv.adds [.completed _ _ _] rfl rfl (by simp [Fine])

end Procs

end Functions

section Steps

variable {c c' : Config} {a : Action}

private theorem families_dispatch {call : Call} {r : World × Outcome} (inv : FamiliesInv c.world)
    (tcps : ∀ t ∈ c.world.tcps, t.uvHandle = true → Family t.ipType)
    (plain : ¬ TakesReference c (.call call)) (h : dispatch c.world call = some r) :
    FamiliesInv r.1 := by
  have same {r r' : World × Outcome} (kept : FamiliesInv r.1) (h : some r = some r') :
      FamiliesInv r'.1 := Option.some.inj h ▸ kept
  have map {α : Type} {o : Option α} {f : α → World × Outcome} {r' : World × Outcome}
      (kept : ∀ x, o = some x → FamiliesInv (f x).1) (h : o.map f = some r') :
      FamiliesInv r'.1 := by
    obtain ⟨x, found, rfl⟩ := Option.map_eq_some_iff.mp h
    exact kept x found
  have timer {w : World} (frame : TimerFrame c.world w) : FamiliesInv w :=
    families_timer inv frame
  have queue {w : World} (frame : QueueFrame c.world w) : FamiliesInv w :=
    families_queue inv frame
  have socket {n : Nat} {t : State.Tcp} (found : c.world.tcps[n]? = some t) :
      t.uvHandle = true → Family t.ipType := tcps t (List.mem_of_getElem? found)
  have setUdp {n : Nat} {u v : State.Udp} (found : c.world.udps[n]? = some u)
      (handle : v.uvHandle = u.uvHandle) (family : v.ipType = u.ipType) :
      FamiliesInv (c.world.setUdp n v) := by
    refine families_setUdp inv ?_
    rw [handle, family]
    exact inv.udps u (List.mem_of_getElem? found)
  cases call with
  | run args uv => cases h
  | stop => exact same (queue (stop_effect _).1) h
  | nextTick args => exact same (queue (nextTick_effect _ args).1) h
  | callFromOtherThread args => exact same (queue (callFromOtherThread_effect _ args).1) h
  | onError args => exact same (queue (onError_effect _ args).1) h
  | unsetOnError => exact same (queue (unsetOnError_effect _).1) h
  | onExit args => exact same (queue (onExit_effect _ args).1) h
  | unsetOnExit => exact same (queue (unsetOnExit_effect _).1) h
  | query question => exact map (fun _ _ => inv) h
  | timerNew args uv => exact same (timer (timerNew_effect _ args uv).1) h
  | periodicTimerNew args uv => exact same (timer (periodicNew_effect _ args uv).1) h
  | timerPause n uv => exact map (fun t _ => timer (timerPause_effect _ n t uv).1) h
  | timerRestart n args uv =>
    exact map (fun t _ => timer (timerRestart_effect _ n t args uv).1) h
  | timerClose n => exact map (fun t _ => timer (timerClose_effect _ n t).1) h
  | udpNew args uv => exact same (udpNew_families inv plain) h
  | udpSendDatagram n args uv =>
    exact map (fun u found => sendDatagram_families inv found args uv) h
  | udpLocalAddress n uv => exact map (fun u found => udpLocalAddress_families inv found uv) h
  | udpPause n =>
    exact map (fun u found => checked_cases (P := fun r => FamiliesInv r.1) (fun _ _ => inv)
      fun _ _ => setUdp (v := { u with paused := true }) found rfl rfl) h
  | udpResume n =>
    exact map (fun u found => checked_cases (P := fun r => FamiliesInv r.1) (fun _ _ => inv)
      fun _ _ => setUdp (v := { u with paused := false }) found rfl rfl) h
  | udpSetEncoding n encoding =>
    exact map (fun u found => checked_cases (P := fun r => FamiliesInv r.1) (fun _ _ => inv)
      fun _ _ => setUdp (v := { u with encoding := encoding }) found rfl rfl) h
  | udpClose n =>
    exact map (fun u found => checked_cases (P := fun r => FamiliesInv r.1) (fun _ _ => inv)
      fun _ _ => udpClose_families inv) h
  | dnsResolve args uv => exact same (resolve_families inv args uv) h
  | tcpNew args uv => exact same (tcpNew_families inv plain) h
  | tcpSendData n args uv => exact map (fun t _ => sendData_families inv args uv) h
  | tcpLocalAddress n uv =>
    exact map (fun t found => tcpLocalAddress_families inv (socket found) uv) h
  | tcpPeerAddress n uv =>
    exact map (fun t found => tcpPeerAddress_families inv (socket found) uv) h
  | tcpSetConnectTimeout n timeout uv =>
    exact map (fun t _ => setConnectTimeout_families inv timeout uv) h
  | tcpClose n => exact map (fun t _ => tcpClose_families inv) h
  | tcpCloseGracefully n args uv =>
    exact map (fun t _ => closeGracefully_families inv args uv) h

private theorem families_reports {event : UvEvent} {r : World × Option Callback}
    (inv : FamiliesInv c.world) (handles : HandlesInv c.world) (h : Reports c.world event r) :
    FamiliesInv r.1 := by
  cases h with
  | ubf sent => exact inv
  | timer found active => exact families_timer inv (uvTimerCallback_frame _ _ _)
  | recv found receiving =>
    have opened := handles.udps.idle _ (List.mem_of_getElem? found) receiving
    exact uvRecvCallback_families inv found opened _
  | sent found socket may => exact uvSendCallback_families inv _ _ _
  | resolved found => exact uvGetaddrinfoCallback_families inv _ _ _
  | connect socket pending may => exact uvConnectCallback_families inv _ _
  | read socket reading => exact uvReadCallback_families inv _ _
  | write found socket may => exact uvWriteCallback_families inv _ _ _
  | shutdown socket pending may => exact uvShutdownCallback_families inv
  | connectTimeout socket fired active => exact uvTimerConnectTimeoutCallback_families inv

private theorem families_destroy (inv : FamiliesInv c.world) (key : Handle) :
    FamiliesInv (destroyHandle c.world key).1 := by
  unfold destroyHandle
  split
  · split
    · exact families_timer inv (timerDestroy_effect _ _ _).1
    · exact inv
  · split
    · exact checked_cases (P := fun r => FamiliesInv r.1) (fun _ _ => inv)
        fun _ _ => udpClose_families inv
    · exact inv
  · split
    · exact tcpDestroy_families inv
    · exact inv

private theorem families_step (inv : FamiliesInv c.world) (handles : HandlesInv c.world)
    (tcps : ∀ t ∈ c.world.tcps, t.uvHandle = true → Family t.ipType)
    (plain : ¬ TakesReference c a) (h : Step c a c') : FamiliesInv c'.world := by
  obtain ⟨w, runs, data⟩ := step_data h
  have before : FamiliesInv w := by
    cases runs with
    | nothing => exact inv
    | method called => exact families_dispatch inv tcps plain called
    | queue frame => exact families_queue inv frame
    | callback reported => exact families_reports inv handles reported
    | destroy stored => exact families_destroy inv _
  obtain ⟨events, trace, control⟩ := data.trace
  refine before.adds events data.udps trace ?_
  intro e here
  have own := control e here
  cases e with
  | switched answers tested => exact absurd own id
  | invalidIpType => exact absurd own id
  | _ => trivial

private theorem plain_move {n : Nat} {v v' : TcpView} {t' : State.Tcp}
    (move : TcpMove c n a v v') (inv : TcpInv v)
    (plain : ∀ t, v.tcp = some t → v.stored → Plain t) (allowed : ¬ TakesReference c a)
    (socket' : v'.tcp = some t') (stored : v'.stored) : Plain t' := by
  have same {t : State.Tcp} (socket : v.tcp = some t) (stored : v.stored)
      (family : t'.ipType = t.ipType) : Plain t' := by
    unfold Plain
    rw [family]
    exact plain t socket stored
  have cancelled (t : State.Tcp) : (Tcp.cancelTimerConnectTimeout t).ipType = t.ipType :=
    (cancel_fields t).2.2.2.2.2.1
  cases move with
  | runs stopped => exact plain t' socket' stored
  | releases running => exact plain t' socket' stored
  | stops idle unwritten => exact plain t' socket' stored
  | fails absent uvInited => exact absurd stored (inv.absent absent).1
  | opens absent call accepted init =>
    subst call
    cases socket'
    exact family_of_ne (tcpNewArgs_spec accepted).2.2 fun reference =>
      allowed ⟨init, _, accepted, reference⟩
  | connects socket pending live free =>
    cases socket'
    exact same socket stored (cancelled _)
  | connectsToShutdown socket pending live requested =>
    cases socket'
    exact same socket stored (cancelled _)
  | failsToConnect socket pending terminal => exact absurd stored id
  | receives socket reading => exact plain t' socket' stored
  | endsReading socket reading opened =>
    cases socket'
    exact same socket stored rfl
  | failsToRead socket reading terminal other => exact absurd stored id
  | writes socket opened => exact plain t' socket' stored
  | written fewer => exact plain t' socket' stored
  | setsTimeout socket opened connecting unset =>
    cases socket'
    exact same socket stored rfl
  | failsToSetTimeout socket opened connecting unset =>
    cases socket'
    exact same socket stored rfl
  | timesOut socket fired active opened set =>
    cases socket'
    exact same socket stored (cancelled _)
  | closes socket opened connecting =>
    cases socket'
    exact same socket stored (cancelled _)
  | disconnects socket opened connected terminal other => exact absurd stored id
  | shutsDown socket opened connected free call few answers =>
    cases socket'
    exact same socket stored rfl
  | failsToShutDown socket opened connected =>
    cases socket'
    exact same socket stored rfl
  | requestsShutdown socket opened connecting =>
    cases socket'
    exact same socket stored rfl
  | isShutDown socket pending opened live terminal => exact absurd stored id
  | wasClosed socket pending closed =>
    cases socket'
    exact same socket stored rfl
  | destroys socket opened connecting at_release =>
    cases socket'
    exact same socket stored (cancelled _)
  | destroysConnected socket opened connected terminal other at_release => exact absurd stored id
  | returns closing => exact plain t' socket' stored
  | unwinds closing => exact plain t' socket' stored

/-- As long as no constructor takes an address in brackets, every socket in `@_handles` has one
of the two families. -/
structure IpTypesInv (c : Config) : Prop where
  handles : HandlesInv c.world
  sockets : ∀ n, TcpInv (view n c)
  tcps : ∀ n t, c.world.tcps[n]? = some t → .tcp n ∈ c.world.handles → Plain t
  families : FamiliesInv c.world

theorem ipTypesInv_init : IpTypesInv engine.init := by
  refine ⟨handlesInv_init, fun n => tcpInv_of_path .start, ?_, ⟨?_, ?_⟩⟩
  · intro n t socket
    cases socket
  · intro u mem
    cases mem
  · intro e mem
    cases mem

private theorem IpTypesInv.open (inv : IpTypesInv c) {n : Nat} {t : State.Tcp}
    (socket : c.world.tcps[n]? = some t) (opened : t.uvHandle = true) : Family t.ipType :=
  inv.tcps n t socket (((inv.sockets n).known t socket).opened opened)

theorem ipTypesInv_step (inv : IpTypesInv c) (h : engine.step c a = some c')
    (plain : ¬ TakesReference c a) : IpTypesInv c' := by
  have step := (step_inv h).2
  refine ⟨handlesInv_step inv.handles step, fun n => tcpInv_step h (inv.sockets n), ?_, ?_⟩
  · intro n t' socket' stored
    rcases step_view (n := n) step with same | move
    · have tcp : c'.world.tcps[n]? = c.world.tcps[n]? := congrArg TcpView.tcp same
      have handles : (.tcp n ∈ c'.world.handles) = (.tcp n ∈ c.world.handles) :=
        congrArg TcpView.stored same
      exact inv.tcps n t' (tcp.symm.trans socket') (handles.mp stored)
    · exact plain_move move (inv.sockets n) (inv.tcps n) plain socket' stored
  · refine families_step inv.families inv.handles ?_ plain step
    intro t mem opened
    obtain ⟨n, socket⟩ := List.mem_iff_getElem?.mp mem
    exact inv.open socket opened

private theorem ipTypesInv_sound (inv : IpTypesInv c) : OneFamily c.world where
  udps := fun _ u found => inv.families.udps u (List.mem_of_getElem? found)
  tcps := fun _ _ => inv.open
  switches := fun _ _ => inv.families.trace _
  addresses := inv.families.trace .invalidIpType

/-- The switch of the constructor calls nothing, and it tests the variable as it was before. -/
private theorem udpNew_switches {w : World} {args : Args} {uv : UvAnswers} {p : Udp.NewArgs}
    (accepted : Udp.newArgs w.status args = .ok p) (reference : p.ipType = .ipv6Reference)
    (init : uv.init = 0) : .switched [] 0 ∈ (Udp.new w args uv).1.trace := by
  simp only [Udp.new, checked, accepted, Udp.initInstance, reference, init, switchIpType,
    ne_eq, not_true_eq_false, if_false]
  split
  · simp [Udp.closeHandle, World.abort, World.push]
  · simp [aeStoreHandle, World.push, World.setUdp]

private theorem tcpNew_switches {w : World} {args : Args} {uv : UvAnswers} {p : Tcp.NewArgs}
    (accepted : Tcp.newArgs w.status args = .ok p) (reference : p.ipType = .ipv6Reference)
    (init : uv.init = 0) : .switched [] uv.unassigned ∈ (Tcp.new w args uv).1.trace := by
  simp only [Tcp.new, checked, accepted, Tcp.initInstance, reference, init, switchIpType,
    ne_eq, not_true_eq_false, if_false]
  cases p.bindIp with
  | none =>
    simp only [Option.map_none, Option.isSome_none, Bool.false_eq_true, false_and, if_false]
    split
    · simp [World.push]
    · simp [aeStoreHandle, World.push]
  | some ip =>
    simp only [Option.map_some, Option.isSome_some, true_and]
    split
    · simp [World.push]
    · simp [aeStoreHandle, World.push]

private theorem ipTypesInv_sharp (_ : IpTypesInv c) (h : engine.step c a = some c')
    (after : OneFamily c'.world) : ¬ TakesReference c a := by
  intro takes
  have switches {call : Call} {r : World × Outcome} {x : Int} (call_eq : a = .call call)
      (other : ∀ args uv, call ≠ .run args uv) (method : dispatch c.world call = some r)
      (switched : .switched [] x ∈ r.1.trace) : False := by
    subst call_eq
    obtain ⟨base, stack, r', -, called, world⟩ := call_inv h other
    obtain rfl : r = r' := Option.some.inj (method.symm.trans called)
    obtain ⟨w, outcome⟩ := r
    have seen : .switched [] x ∈ c'.world.trace := by
      rw [world]
      cases outcome with
      | ends result => exact .tail _ switched
      | calls callback frame => exact .tail _ switched
    have answered := after.switches [] x seen
    cases answered
  unfold TakesReference at takes
  split at takes
  · obtain ⟨init, p, accepted, reference⟩ := takes
    exact switches rfl (by simp) rfl (udpNew_switches accepted reference init)
  · obtain ⟨init, p, accepted, reference⟩ := takes
    exact switches rfl (by simp) rfl (tcpNew_switches accepted reference init)
  · exact takes

/-- In every run, all open sockets have one of the two families and all switches call libuv
exactly when no constructor takes an address in brackets. -/
theorem one_family_iff {l : List (Config × Action)} (path : Path engine l c) :
    Always (fun c => OneFamily c.world) l c ↔ Each (fun c a => ¬ TakesReference c a) l :=
  path.always_iff_each ipTypesInv_init ipTypesInv_step ipTypesInv_sound ipTypesInv_sharp

end Steps

/-- A UDPSocket is made on the address `[::1]`. -/
theorem reference_not_one_family : ¬ ∀ l c, Path engine l c → OneFamily c.world := by
  intro all
  have reached : (engine.exec (runBlock ++
      [.call (.udpNew ⟨[.string [91, 58, 58, 49, 93], .fixnum 5060], none⟩ {})])).any (fun c =>
        c.world.udps[0]?.any fun u => u.uvHandle && decide (u.ipType = .ipv6Reference)) = true := by
    decide +kernel
  obtain ⟨l, c, path, made⟩ := exists_path_of_exec engine _ _ reached
  obtain ⟨u, found, seen⟩ := (Option.any_eq_true _ _).mp made
  obtain ⟨opened, reference⟩ := (Bool.and_eq_true _ _).mp seen
  rcases (all l c path).udps 0 u found opened with family | family
  · rw [family] at reference
    cases reference
  · rw [family] at reference
    cases reference

/-- A TCPSocket that connects to 127.0.0.1. -/
theorem one_family_iff_connected : ∃ l c t, Path engine l c ∧ c.world.tcps[0]? = some t ∧
    t.uvHandle = true ∧
    (Always (fun c => OneFamily c.world) l c ↔ Each (fun c a => ¬ TakesReference c a) l) := by
  have reached : (engine.exec connectSocket).any
      (fun c => c.world.tcps[0]?.any (·.uvHandle)) = true := by
    decide +kernel
  obtain ⟨l, c, path, made⟩ := exists_path_of_exec engine _ _ reached
  obtain ⟨t, socket, opened⟩ := (Option.any_eq_true _ _).mp made
  exact ⟨l, c, t, path, socket, opened, one_family_iff path⟩

end AsyncEngine.Engine.IpTypes
