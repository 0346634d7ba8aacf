/- The Timers and the UDPSockets: `@_handles` has exactly the open ones. -/

import AsyncEngine.Lib.Registry
import AsyncEngine.Engine.Steps

set_option autoImplicit false
set_option relaxedAutoImplicit false

namespace AsyncEngine.Engine.Handles

open AsyncEngine.Lib.Registry
open AsyncEngine.IpParser.Machine
open AsyncEngine.Engine.Ruby
open AsyncEngine.Engine.State
open AsyncEngine.Engine.Machine
open AsyncEngine.Engine.Effects
open AsyncEngine.Engine.Steps

variable {w w' : World} {n : Nat}

section Timers

/-- The handle of an open Timer is alive, and its key is the Timer's own. -/
def timerGood (n : Nat) (t : State.Timer) : Prop :=
  t.aeHandleId = some n ∧ t.uvInited = true ∧ t.uvCloses = 0

structure TimersInv (w : World) : Prop where
  table : Registered (·.uvHandle) timerGood w.timers (.timer · ∈ w.handles)
  idle : ∀ t ∈ w.timers, t.uvActive = true → t.uvHandle = true

variable {t t' : State.Timer}

private theorem TimersInv.congr (inv : TimersInv w) (timers : w'.timers = w.timers)
    (handles : ∀ n, .timer n ∈ w'.handles ↔ .timer n ∈ w.handles) : TimersInv w' := by
  refine ⟨?_, ?_⟩
  · rw [timers]
    exact inv.table.congr handles
  · rw [timers]
    exact inv.idle

private theorem TimersInv.good (inv : TimersInv w) (found : w.timers[n]? = some t)
    (opened : t.uvHandle = true) : timerGood n t := inv.table.good n t found opened

private theorem timersInv_set (inv : TimersInv w) (found : w.timers[n]? = some t)
    (handle : t'.uvHandle = t.uvHandle) (id : t'.aeHandleId = t.aeHandleId)
    (inited : t'.uvInited = t.uvInited) (closes : t'.uvCloses = t.uvCloses)
    (idle : t'.uvActive = true → t.uvHandle = true) : TimersInv (w.setTimer n t') := by
  refine ⟨inv.table.set found handle ?_, ?_⟩
  · intro opened
    unfold timerGood
    rw [id, inited, closes]
    exact inv.good found (handle.symm.trans opened)
  · intro u mem active
    rcases List.mem_or_eq_of_mem_set mem with old | rfl
    · exact inv.idle u old active
    · exact handle.trans (idle active)

theorem timersInv_close (inv : TimersInv w) (found : w.timers[n]? = some t) :
    TimersInv (Timer.closeHandle w n t) := by
  unfold Timer.closeHandle
  split
  · rename_i opened
    rw [(inv.good found opened).1]
    refine ⟨inv.table.close found rfl ?_, ?_⟩
    · intro m
      simp [aeRemoveHandle, World.setTimer]
    · intro u mem active
      rcases List.mem_or_eq_of_mem_set mem with old | rfl
      · exact inv.idle u old active
      · cases active
  · exact inv.congr rfl fun _ => Iff.rfl

private theorem timersInv_append (inv : TimersInv w) (closed : t.uvHandle = false)
    (idle : t.uvActive = false) : TimersInv { w with timers := w.timers ++ [t] } := by
  refine ⟨inv.table.append ?_ ?_, ?_⟩
  · intro opened
    rw [closed] at opened
    cases opened
  · intro m
    simp [closed]
  · intro u mem active
    rcases List.mem_append.mp mem with old | new
    · exact inv.idle u old active
    · obtain rfl := List.mem_singleton.mp new
      rw [idle] at active
      cases active

private theorem timersInv_store (inv : TimersInv w) (opened : t.uvHandle = true)
    (good : timerGood w.timers.length t) : TimersInv
      (aeStoreHandle { w with timers := w.timers ++ [t] } (.timer w.timers.length)) := by
  have fresh : .timer w.timers.length ∉ w.handles := inv.table.fresh
  refine ⟨inv.table.append (fun _ => good) ?_, ?_⟩
  · intro m
    simp [aeStoreHandle, World.push, fresh, opened]
  · intro u mem active
    rcases List.mem_append.mp mem with old | new
    · exact inv.idle u old active
    · obtain rfl := List.mem_singleton.mp new
      exact opened

private theorem getElem?_stored : (aeStoreHandle { w with timers := w.timers ++ [t] }
    (.timer w.timers.length)).timers[w.timers.length]? = some t :=
  List.getElem?_concat_length

private theorem timersInv_init (inv : TimersInv w) (b : Bool) (delay interval : Int)
    (proc : Nat) (uv : UvAnswers) :
    TimersInv (Timer.initInstance w b delay interval proc uv).1 := by
  unfold Timer.initInstance
  split
  · exact timersInv_append inv rfl rfl
  · dsimp only
    have stored := timersInv_store (t := {
      uvInited := true, uvHandle := true, aeHandleId := some w.timers.length,
      isPeriodicTimer := b, periodic := decide (interval ≠ 0), delay := delay,
      interval := interval, onFireProc := proc }) inv rfl ⟨rfl, rfl, rfl⟩
    split
    · exact timersInv_close stored getElem?_stored
    · exact timersInv_set stored getElem?_stored rfl rfl rfl rfl fun _ => rfl

theorem timerNew_inv (inv : TimersInv w) (args : Args) (uv : UvAnswers) :
    TimersInv (Timer.new w args uv).1 :=
  checked_cases (P := fun r => TimersInv r.1) (fun _ _ => inv)
    fun _ _ => timersInv_init inv _ _ _ _ _

theorem periodicNew_inv (inv : TimersInv w) (args : Args) (uv : UvAnswers) :
    TimersInv (Timer.periodicNew w args uv).1 :=
  checked_cases (P := fun r => TimersInv r.1) (fun _ _ => inv)
    fun _ _ => timersInv_init inv _ _ _ _ _

private theorem timerPause_inv (inv : TimersInv w) (found : w.timers[n]? = some t)
    (uv : UvAnswers) : TimersInv (Timer.pause w n t uv).1 := by
  refine checked_cases (P := fun r => TimersInv r.1) (fun _ _ => inv) fun _ _ => ?_
  split
  · exact inv
  · exact timersInv_set inv found rfl rfl rfl rfl fun active => by cases active

private theorem uvTimerStart_inv (inv : TimersInv w) (found : w.timers[n]? = some t)
    (opened : t.uvHandle = true) {delay interval : Int} (r : Int) (uv : UvAnswers) :
    TimersInv (Timer.uvTimerStart w n { t with delay := delay, interval := interval } r uv).1 := by
  unfold Timer.uvTimerStart
  split
  · exact timersInv_set inv found rfl rfl rfl rfl fun _ => opened
  · exact timersInv_set inv found rfl rfl rfl rfl fun _ => opened

private theorem timerRestart_inv (inv : TimersInv w) (found : w.timers[n]? = some t)
    (args : Args) (uv : UvAnswers) : TimersInv (Timer.restart w n t args uv).1 := by
  unfold Timer.restart
  split
  · refine checked_cases (P := fun r => TimersInv r.1) (fun _ _ => inv) fun interval h => ?_
    obtain ⟨_, opened, _⟩ := of_bind h
    have opened := open_of_check opened
    cases interval with
    | none => exact uvTimerStart_inv inv found opened _ _
    | some interval =>
      dsimp only
      split
      · exact uvTimerStart_inv inv found opened _ _
      · split
        · exact uvTimerStart_inv inv found opened _ _
        · exact timersInv_set inv found rfl rfl rfl rfl fun _ => opened
  · refine checked_cases (P := fun r => TimersInv r.1) (fun _ _ => inv) fun _ h => ?_
    obtain ⟨_, opened, _⟩ := of_bind h
    exact uvTimerStart_inv inv found (open_of_check opened) _ _

theorem timerClose_inv (inv : TimersInv w) (found : w.timers[n]? = some t) :
    TimersInv (Timer.close w n t).1 :=
  checked_cases (P := fun r => TimersInv r.1) (fun _ _ => inv)
    fun _ _ => timersInv_close inv found

theorem uvTimerCallback_inv (inv : TimersInv w) (found : w.timers[n]? = some t)
    (active : t.uvActive = true) {b : Bool} :
    TimersInv (Timer.uvTimerCallback (w.setTimer n { t with uvActive := b }) n
      { t with uvActive := b }).1 := by
  have opened : t.uvHandle = true := inv.idle t (List.mem_of_getElem? found) active
  have set : TimersInv (w.setTimer n { t with uvActive := b }) :=
    timersInv_set inv found rfl rfl rfl rfl fun _ => opened
  unfold Timer.uvTimerCallback
  split
  · exact set
  · have bound : n < w.timers.length := (List.getElem?_eq_some_iff.mp found).1
    exact timersInv_close set (List.getElem?_set_self bound)

end Timers

section Udps

/-- The handle of an open UDPSocket is alive, and its key is the socket's own. -/
def udpGood (n : Nat) (u : State.Udp) : Prop :=
  u.aeHandleId = some n ∧ u.uvInited = true ∧ u.uvCloses = 0

structure UdpsInv (w : World) : Prop where
  table : Registered (·.uvHandle) udpGood w.udps (.udp · ∈ w.handles)
  idle : ∀ u ∈ w.udps, u.uvReceiving = true → u.uvHandle = true

variable {u u' : State.Udp}

private theorem UdpsInv.congr (inv : UdpsInv w) (udps : w'.udps = w.udps)
    (handles : ∀ n, .udp n ∈ w'.handles ↔ .udp n ∈ w.handles) : UdpsInv w' := by
  refine ⟨?_, ?_⟩
  · rw [udps]
    exact inv.table.congr handles
  · rw [udps]
    exact inv.idle

private theorem udpsInv_set (inv : UdpsInv w) (found : w.udps[n]? = some u)
    (handle : u'.uvHandle = u.uvHandle) (id : u'.aeHandleId = u.aeHandleId)
    (inited : u'.uvInited = u.uvInited) (closes : u'.uvCloses = u.uvCloses)
    (receiving : u'.uvReceiving = u.uvReceiving) : UdpsInv (w.setUdp n u') := by
  refine ⟨inv.table.set found handle ?_, ?_⟩
  · intro opened
    unfold udpGood
    rw [id, inited, closes]
    exact inv.table.good n u found (handle.symm.trans opened)
  · intro x mem active
    rcases List.mem_or_eq_of_mem_set mem with old | rfl
    · exact inv.idle x old active
    · exact handle.trans (inv.idle u (List.mem_of_getElem? found) (receiving.symm.trans active))

private theorem udpsInv_close (inv : UdpsInv w) (found : w.udps[n]? = some u) :
    UdpsInv (Udp.closeHandle w n u) := by
  unfold Udp.closeHandle
  split
  · rename_i opened
    rw [(inv.table.good n u found opened).1]
    refine ⟨inv.table.close found rfl ?_, ?_⟩
    · intro m
      simp [aeRemoveHandle, World.setUdp]
    · intro x mem active
      rcases List.mem_or_eq_of_mem_set mem with old | rfl
      · exact inv.idle x old active
      · cases active
  · exact inv.congr rfl fun _ => Iff.rfl

private theorem udpsInv_append (inv : UdpsInv w) (closed : u.uvHandle = false)
    (idle : u.uvReceiving = false) : UdpsInv { w with udps := w.udps ++ [u] } := by
  refine ⟨inv.table.append ?_ ?_, ?_⟩
  · intro opened
    rw [closed] at opened
    cases opened
  · intro m
    simp [closed]
  · intro x mem active
    rcases List.mem_append.mp mem with old | new
    · exact inv.idle x old active
    · obtain rfl := List.mem_singleton.mp new
      rw [idle] at active
      cases active

private theorem udpsInv_store (inv : UdpsInv w) (opened : u.uvHandle = true)
    (good : udpGood w.udps.length u) (events : List Event) : UdpsInv
      (aeStoreHandle { w with udps := w.udps ++ [u], trace := events } (.udp w.udps.length)) := by
  have fresh : .udp w.udps.length ∉ w.handles := inv.table.fresh
  refine ⟨inv.table.append (fun _ => good) ?_, ?_⟩
  · intro m
    simp [aeStoreHandle, World.push, fresh, opened]
  · intro x mem active
    rcases List.mem_append.mp mem with old | new
    · exact inv.idle x old active
    · obtain rfl := List.mem_singleton.mp new
      exact opened

private theorem udpsInv_init (inv : UdpsInv w) (ipType : IpType) (uv : UvAnswers) :
    UdpsInv (Udp.initInstance w ipType uv).1 := by
  unfold Udp.initInstance
  dsimp only
  have appended := udpsInv_append (u := { uvInited := decide (uv.init = 0) }) inv rfl rfl
  split
  · exact appended
  · have switched : UdpsInv (World.push
        { w with udps := w.udps ++ [{ uvInited := decide (uv.init = 0) }] }
        (.switched (switchIpType ipType uv.bind uv.init).1
          (switchIpType ipType uv.bind uv.init).2)) := appended.congr rfl fun _ => Iff.rfl
    have found : (w.udps ++ [{ uvInited := decide (uv.init = 0) }])[w.udps.length]? =
        some ({ uvInited := decide (uv.init = 0) } : State.Udp) := List.getElem?_concat_length
    split
    · exact udpsInv_close switched found
    · split
      · exact udpsInv_close switched found
      · rename_i init _ _
        have inited : decide (uv.init = 0) = true := decide_eq_true (not_not.mp init)
        -- The fields of the fresh instance are filled in.
        have filled (u v : State.Udp) :
            (w.udps ++ [u]).set w.udps.length v = w.udps ++ [v] := by
          simp
        change UdpsInv (aeStoreHandle { w with
          udps := (w.udps ++ [_]).set w.udps.length _, trace := _ } (.udp w.udps.length))
        rw [filled]
        exact udpsInv_store inv rfl ⟨rfl, inited, rfl⟩ _

theorem udpNew_inv (inv : UdpsInv w) (args : Args) (uv : UvAnswers) :
    UdpsInv (Udp.new w args uv).1 :=
  checked_cases (P := fun r => UdpsInv r.1) (fun _ _ => inv) fun _ _ => udpsInv_init inv _ _

private theorem udpIpPort_inv (inv : UdpsInv w) (address : List UInt8) (ipType : IpType) :
    UdpsInv (aeIpUtilsGetIpPort w address ipType).1 := by
  cases ipType with
  | ipv4 => exact inv
  | ipv6 => exact inv
  | ipv6Reference => exact inv.congr rfl fun _ => Iff.rfl
  | noIp => exact inv.congr rfl fun _ => Iff.rfl

private theorem udpLocalAddress_inv (inv : UdpsInv w) (u : State.Udp) (uv : UvAnswers) :
    UdpsInv (Udp.localAddress w u uv).1 := by
  refine checked_cases (P := fun r => UdpsInv r.1) (fun _ _ => inv) fun _ _ => ?_
  split
  · exact inv
  · exact udpIpPort_inv inv _ _

private theorem udpPause_inv (inv : UdpsInv w) (found : w.udps[n]? = some u) :
    UdpsInv (Udp.pause w n u).1 :=
  checked_cases (P := fun r => UdpsInv r.1) (fun _ _ => inv)
    fun _ _ => udpsInv_set inv found rfl rfl rfl rfl rfl

private theorem udpResume_inv (inv : UdpsInv w) (found : w.udps[n]? = some u) :
    UdpsInv (Udp.resume w n u).1 :=
  checked_cases (P := fun r => UdpsInv r.1) (fun _ _ => inv)
    fun _ _ => udpsInv_set inv found rfl rfl rfl rfl rfl

private theorem udpSetEncoding_inv (inv : UdpsInv w) (found : w.udps[n]? = some u)
    (encoding : Encoding) : UdpsInv (Udp.setEncoding w n u encoding).1 :=
  checked_cases (P := fun r => UdpsInv r.1) (fun _ _ => inv)
    fun _ _ => udpsInv_set inv found rfl rfl rfl rfl rfl

theorem udpClose_inv (inv : UdpsInv w) (found : w.udps[n]? = some u) :
    UdpsInv (Udp.close w n u).1 :=
  checked_cases (P := fun r => UdpsInv r.1) (fun _ _ => inv)
    fun _ _ => udpsInv_close inv found

private theorem uvRecvCallback_inv (inv : UdpsInv w) (found : w.udps[n]? = some u)
    (received : Option (List UInt8 × List UInt8)) :
    UdpsInv (Udp.uvRecvCallback w n u received).1 := by
  obtain ⟨recvData, ⟨dropped, -⟩ | ⟨b, bytes, source, -, -, -, called⟩⟩ :=
    uvRecvCallback_cases found received
  · rw [dropped]
    exact inv.congr rfl fun _ => Iff.rfl
  · rw [called]
    have same : UdpsInv { w with recvData := recvData } := inv.congr rfl fun _ => Iff.rfl
    exact udpIpPort_inv same source u.ipType

end Udps

section Both

/-- `@_handles` has the open Timers and UDPSockets, and only open ones are active. -/
structure HandlesInv (w : World) : Prop where
  timers : TimersInv w
  udps : UdpsInv w

theorem HandlesInv.congr (inv : HandlesInv w) (timers : w'.timers = w.timers)
    (udps : w'.udps = w.udps)
    (handles : ∀ h, ¬ isTcp h → (h ∈ w'.handles ↔ h ∈ w.handles)) : HandlesInv w' :=
  ⟨inv.timers.congr timers fun _ => handles _ id, inv.udps.congr udps fun _ => handles _ id⟩

private theorem handlesInv_timer (inv : HandlesInv w) (frame : TimerFrame w w')
    (timers : TimersInv w') : HandlesInv w' := by
  obtain ⟨_, _, _, _, rfl, kept, -⟩ := frame
  exact ⟨timers, inv.udps.congr rfl fun _ => kept.1 _ id⟩

private theorem handlesInv_udp (inv : HandlesInv w) (frame : UdpFrame w w')
    (udps : UdpsInv w') : HandlesInv w' := by
  obtain ⟨_, _, _, _, _, rfl, kept, -⟩ := frame
  exact ⟨inv.timers.congr rfl fun _ => kept.1 _ id, udps⟩

private theorem handlesInv_proc (inv : HandlesInv w) (frame : ProcFrame w w') :
    HandlesInv w' := by
  obtain ⟨_, _, _, _, _, _, rfl, -⟩ := frame
  exact inv.congr rfl rfl fun _ _ => Iff.rfl

theorem handlesInv_queue (inv : HandlesInv w) (frame : QueueFrame w w') : HandlesInv w' := by
  obtain ⟨_, _, _, _, _, _, _, rfl, -⟩ := frame
  exact inv.congr rfl rfl fun _ _ => Iff.rfl

private theorem handlesInv_tcp (inv : HandlesInv w) (frame : TcpFrame w w') :
    HandlesInv w' := by
  obtain ⟨_, _, _, _, rfl, kept, -⟩ := frame
  exact inv.congr rfl rfl kept.1

private theorem handlesInv_write (inv : HandlesInv w) (frame : WriteFrame w w') :
    HandlesInv w' := by
  obtain ⟨_, _, _, _, rfl, -⟩ := frame
  exact inv.congr rfl rfl fun _ _ => Iff.rfl

theorem handlesInv_dispatch {call : Call} {r : World × Outcome} (inv : HandlesInv w)
    (h : dispatch w call = some r) : HandlesInv r.1 := by
  have same {r r' : World × Outcome} (kept : HandlesInv r.1) (h : some r = some r') :
      HandlesInv r'.1 := Option.some.inj h ▸ kept
  have map {α : Type} {o : Option α} {f : α → World × Outcome} {r' : World × Outcome}
      (kept : ∀ x, o = some x → HandlesInv (f x).1) (h : o.map f = some r') :
      HandlesInv r'.1 := by
    obtain ⟨x, found, rfl⟩ := Option.map_eq_some_iff.mp h
    exact kept x found
  cases call with
  | run args uv => cases h
  | stop => exact same (handlesInv_queue inv (stop_effect w).1) h
  | nextTick args => exact same (handlesInv_queue inv (nextTick_effect w args).1) h
  | callFromOtherThread args =>
    exact same (handlesInv_queue inv (callFromOtherThread_effect w args).1) h
  | onError args => exact same (handlesInv_queue inv (onError_effect w args).1) h
  | unsetOnError => exact same (handlesInv_queue inv (unsetOnError_effect w).1) h
  | onExit args => exact same (handlesInv_queue inv (onExit_effect w args).1) h
  | unsetOnExit => exact same (handlesInv_queue inv (unsetOnExit_effect w).1) h
  | query question => exact map (fun _ _ => inv) h
  | timerNew args uv =>
    exact same (handlesInv_timer inv (timerNew_effect w args uv).1
      (timerNew_inv inv.timers args uv)) h
  | periodicTimerNew args uv =>
    exact same (handlesInv_timer inv (periodicNew_effect w args uv).1
      (periodicNew_inv inv.timers args uv)) h
  | timerPause n uv =>
    exact map (fun t found => handlesInv_timer inv (timerPause_effect w n t uv).1
      (timerPause_inv inv.timers found uv)) h
  | timerRestart n args uv =>
    exact map (fun t found => handlesInv_timer inv (timerRestart_effect w n t args uv).1
      (timerRestart_inv inv.timers found args uv)) h
  | timerClose n =>
    exact map (fun t found => handlesInv_timer inv (timerClose_effect w n t).1
      (timerClose_inv inv.timers found)) h
  | udpNew args uv =>
    exact same (handlesInv_udp inv (udpNew_effect w args uv).1 (udpNew_inv inv.udps args uv)) h
  | udpSendDatagram n args uv =>
    exact map (fun u found => handlesInv_proc inv (sendDatagram_effect found args uv).1) h
  | udpLocalAddress n uv =>
    exact map (fun u _ => handlesInv_udp inv (udpLocalAddress_effect w u uv).1
      (udpLocalAddress_inv inv.udps u uv)) h
  | udpPause n =>
    exact map (fun u found => handlesInv_udp inv (udpPause_effect w n u).1
      (udpPause_inv inv.udps found)) h
  | udpResume n =>
    exact map (fun u found => handlesInv_udp inv (udpResume_effect w n u).1
      (udpResume_inv inv.udps found)) h
  | udpSetEncoding n encoding =>
    exact map (fun u found => handlesInv_udp inv (udpSetEncoding_effect w n u encoding).1
      (udpSetEncoding_inv inv.udps found encoding)) h
  | udpClose n =>
    exact map (fun u found => handlesInv_udp inv (udpClose_effect w n u).1
      (udpClose_inv inv.udps found)) h
  | dnsResolve args uv => exact same (handlesInv_proc inv (resolve_effect w args uv).1) h
  | tcpNew args uv => exact same (handlesInv_tcp inv (tcpNew_frame w args uv).1) h
  | tcpSendData n args uv =>
    exact map (fun t _ => handlesInv_write inv (sendData_frame w n t args uv).1) h
  | tcpLocalAddress n uv =>
    exact map (fun t _ => handlesInv_tcp inv (tcpLocalAddress_frame w t uv).1) h
  | tcpPeerAddress n uv =>
    exact map (fun t _ => handlesInv_tcp inv (tcpPeerAddress_frame w t uv).1) h
  | tcpSetConnectTimeout n timeout uv =>
    exact map (fun t _ => handlesInv_tcp inv (setConnectTimeout_frame w n t timeout uv).1) h
  | tcpClose n => exact map (fun t _ => handlesInv_tcp inv (tcpClose_frame w n t)) h
  | tcpCloseGracefully n args uv =>
    exact map (fun t _ => handlesInv_tcp inv (closeGracefully_frame w n t args uv).1) h

theorem handlesInv_reports {event : UvEvent} {r : World × Option Callback} (inv : HandlesInv w)
    (h : Reports w event r) : HandlesInv r.1 := by
  cases h with
  | ubf sent => exact inv
  | timer found active =>
    exact handlesInv_timer inv (uvTimerCallback_frame w _ _)
      (uvTimerCallback_inv inv.timers found active)
  | recv found receiving =>
    exact handlesInv_udp inv (uvRecvCallback_frame found _) (uvRecvCallback_inv inv.udps found _)
  | sent found socket may => exact handlesInv_proc inv (uvSendCallback_frame w _ _ _)
  | resolved found => exact handlesInv_proc inv (uvGetaddrinfoCallback_frame w _ _ _)
  | connect socket pending may => exact handlesInv_tcp inv (uvConnectCallback_frame w _ _ _ _)
  | read socket reading => exact handlesInv_tcp inv (uvReadCallback_frame w _ _ _ _)
  | write found socket may => exact handlesInv_write inv (uvWriteCallback_frame w _ _ _ _)
  | shutdown socket pending may => exact handlesInv_tcp inv (uvShutdownCallback_frame w _ _)
  | connectTimeout socket fired active =>
    exact handlesInv_tcp inv (uvTimerConnectTimeoutCallback_frame w _ _)

theorem handlesInv_destroy (inv : HandlesInv w) (key : Handle) :
    HandlesInv (destroyHandle w key).1 := by
  unfold destroyHandle
  split
  · split
    · rename_i found
      exact handlesInv_timer inv (timerDestroy_effect w _ _).1 (timerClose_inv inv.timers found)
    · exact inv
  · split
    · rename_i found
      exact handlesInv_udp inv (udpDestroy_effect w _ _).1 (udpClose_inv inv.udps found)
    · exact inv
  · split
    · exact handlesInv_tcp inv (tcpDestroy_frame w _ _)
    · exact inv

theorem handlesInv_step {c c' : Config} {a : Action} (inv : HandlesInv c.world)
    (h : Step c a c') : HandlesInv c'.world := by
  obtain ⟨w, runs, data⟩ := step_data h
  have before : HandlesInv w := by
    cases runs with
    | nothing => exact inv
    | method called => exact handlesInv_dispatch inv called
    | queue frame => exact handlesInv_queue inv frame
    | callback reported => exact handlesInv_reports inv reported
    | destroy stored => exact handlesInv_destroy inv _
  exact before.congr data.timers data.udps fun _ _ => by rw [data.handles]

theorem handlesInv_init : HandlesInv {} := by
  refine ⟨⟨.empty ?_, ?_⟩, ⟨.empty ?_, ?_⟩⟩
  · intro n here
    cases here
  · intro t mem
    cases mem
  · intro n here
    cases here
  · intro u mem
    cases mem

end Both

end AsyncEngine.Engine.Handles
