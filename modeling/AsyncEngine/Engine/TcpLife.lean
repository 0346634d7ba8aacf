/- The life of a TCPSocket: what its flags, its pending requests, its entry in `@_handles` and the
   callbacks it has made have to do with each other. -/

import AsyncEngine.Lib.Registry
import AsyncEngine.Engine.TcpMoves

set_option autoImplicit false
set_option relaxedAutoImplicit false

namespace AsyncEngine.Engine.TcpLife

open AsyncEngine.Lib.Run
open AsyncEngine.Lib.Registry
open AsyncEngine.IpParser.Machine
open AsyncEngine.Engine.Ruby
open AsyncEngine.Engine.State
open AsyncEngine.Engine.Machine
open AsyncEngine.Engine.Effects
open AsyncEngine.Engine.Steps
open AsyncEngine.Engine.TcpMoves

section Socket

/-- The fields of `struct_cdata` agree with each other and with what libuv holds. -/
structure Sane (t : State.Tcp) : Prop where
  handle : t.uvHandle = true ↔ t.uvInited = true ∧ t.uvCloses = 0
  reading : t.uvReading = true → t.uvHandle = true ∧ t.status = .connected ∧
    t.shutdownRequested = false ∧ t.eofReceived = false
  connecting : t.status = .connecting → t.uvShutdowns = 0 ∧ t.eofReceived = false
  pending : t.uvConnect = true → t.status = .connecting ∧ t.uvInited = true
  active : ∀ (k : Nat) (timer : UvTimer), t.uvTimers[k]? = some timer →
    timer.active = true → t.timerConnectTimeout = some k
  timer : t.timerConnectTimeout ≠ none → t.uvHandle = true ∧ t.status = .connecting

/-- No timer of `set_connect_timeout` can fire. -/
def Quiet (timers : List UvTimer) : Prop :=
  ∀ (k : Nat) (timer : UvTimer), timers[k]? = some timer → timer.active = false

variable {t : State.Tcp}

private theorem quiet_of_unset (active : ∀ (k : Nat) (timer : UvTimer),
      t.uvTimers[k]? = some timer → timer.active = true → t.timerConnectTimeout = some k)
    (unset : t.timerConnectTimeout = none) : Quiet t.uvTimers := by
  intro k timer at_k
  cases on : timer.active with
  | false => rfl
  | true =>
    have pointed := active k timer at_k on
    rw [unset] at pointed
    cases pointed

/-- `_ae_cancel_timer_connect_timeout` stops the only timer that can be active. -/
private theorem cancel_eq (active : ∀ (k : Nat) (timer : UvTimer),
      t.uvTimers[k]? = some timer → timer.active = true → t.timerConnectTimeout = some k) :
    ∃ timers, Tcp.cancelTimerConnectTimeout t =
        { t with uvTimers := timers, timerConnectTimeout := none } ∧ Quiet timers := by
  cases set : t.timerConnectTimeout with
  | none =>
    refine ⟨t.uvTimers, ?_, quiet_of_unset active set⟩
    simp only [Tcp.cancelTimerConnectTimeout, set]
    rw [← set]
  | some j =>
    refine ⟨t.uvTimers.modify j fun u => { active := false, closes := u.closes + 1 }, ?_, ?_⟩
    · simp only [Tcp.cancelTimerConnectTimeout, set]
    · intro k timer at_k
      rw [List.getElem?_modify] at at_k
      obtain ⟨old, at_old, same⟩ := Option.map_eq_some_iff.mp at_k
      by_cases here : j = k
      · rw [if_pos here] at same
        rw [← same]
      · rw [if_neg here] at same
        subst same
        cases on : old.active with
        | false => rfl
        | true =>
          have pointed := active k old at_old on
          rw [set] at pointed
          exact absurd (Option.some.inj pointed) here

private theorem Sane.unset (sane : Sane t) (connected : t.status = .connected) :
    t.timerConnectTimeout = none := by
  by_contra set
  have connecting := (sane.timer set).2
  rw [connected] at connecting
  cases connecting

private theorem Sane.closed (sane : Sane t) :
    Sane (Tcp.cancelTimerConnectTimeout (Tcp.closeUvHandle t)) := by
  obtain ⟨handle, reading, connecting, pending, active, timer⟩ := sane
  obtain ⟨timers, eq, off⟩ := cancel_eq (t := Tcp.closeUvHandle t) active
  rw [eq]
  constructor <;> grind [Quiet, Tcp.closeUvHandle]

private theorem Sane.released (sane : Sane t) : Sane { t with releasing := true } :=
  ⟨sane.handle, sane.reading, sane.connecting, sane.pending, sane.active, sane.timer⟩

private theorem Sane.connected (sane : Sane t) (pending : t.uvConnect = true)
    (live : t.uvCloses = 0) (free : t.shutdownRequested = false) :
    Sane { Tcp.cancelTimerConnectTimeout { t with uvConnect := false } with
      uvReading := true, status := .connected } := by
  obtain ⟨handle, reading, connecting, pends, active, timer⟩ := sane
  obtain ⟨timers, eq, off⟩ := cancel_eq (t := { t with uvConnect := false }) active
  rw [eq]
  constructor <;> grind [Quiet]

private theorem Sane.connectedToShutdown (sane : Sane t) (pending : t.uvConnect = true)
    (live : t.uvCloses = 0) :
    Sane (let t := Tcp.cancelTimerConnectTimeout { t with uvConnect := false }
      { t with uvReading := false, uvShutdowns := t.uvShutdowns + 1, status := .connected }) := by
  obtain ⟨handle, reading, connecting, pends, active, timer⟩ := sane
  obtain ⟨timers, eq, off⟩ := cancel_eq (t := { t with uvConnect := false }) active
  rw [eq]
  constructor <;> grind [Quiet]

private theorem Sane.refused (sane : Sane t) (pending : t.uvConnect = true) :
    Sane (let t := Tcp.cancelTimerConnectTimeout { t with uvConnect := false }
      if t.uvCloses ≠ 0 then t else Tcp.closeUvHandle t) := by
  obtain ⟨handle, reading, connecting, pends, active, timer⟩ := sane
  obtain ⟨timers, eq, off⟩ := cancel_eq (t := { t with uvConnect := false }) active
  rw [eq]
  constructor <;> grind [Quiet, Tcp.closeUvHandle]

private theorem Sane.timedOut (sane : Sane t) {k : Nat} {timer : UvTimer}
    (opened : t.uvHandle = true) : Sane (Tcp.closeUvHandle { Tcp.cancelTimerConnectTimeout
      { t with uvTimers := t.uvTimers.set k { timer with active := false } } with
        connectTimeout := true }) := by
  have active' : ∀ (j : Nat) (u : UvTimer),
      (t.uvTimers.set k { timer with active := false })[j]? = some u → u.active = true →
      t.timerConnectTimeout = some j := by
    intro j u at_j on
    rcases getElem?_set_cases at_j with ⟨-, rfl⟩ | ⟨-, old⟩
    · cases on
    · exact sane.active j u old on
  obtain ⟨timers, eq, off⟩ := cancel_eq
    (t := { t with uvTimers := t.uvTimers.set k { timer with active := false } }) active'
  obtain ⟨handle, reading, connecting, pends, active, timer⟩ := sane
  rw [eq]
  constructor <;> grind [Quiet, Tcp.closeUvHandle]

private theorem Sane.stopsReading (sane : Sane t) (connected : t.status = .connected)
    (shutdowns : Nat) (requested eof : Bool) :
    Sane { t with
      uvReading := false, uvShutdowns := shutdowns, shutdownRequested := requested
      eofReceived := eof } := by
  refine ⟨sane.handle, fun reading => ?_, fun connecting => ?_, sane.pending, sane.active,
    sane.timer⟩
  · cases reading
  · cases connecting.symm.trans connected

private theorem Sane.dropped (sane : Sane t) (connected : t.status = .connected)
    (shutdowns : Nat) : Sane (Tcp.closeUvHandle { t with uvShutdowns := shutdowns }) := by
  refine ⟨⟨fun opened => ?_, fun live => ?_⟩, fun reading => ?_, fun connecting => ?_,
    sane.pending, sane.active, fun set => absurd (sane.unset connected) set⟩
  · cases opened
  · cases live.2
  · cases reading
  · cases connecting.symm.trans connected

private theorem Sane.connected_of_shutdown (sane : Sane t) (pending : t.uvShutdowns ≠ 0) :
    t.status = .connected := by
  cases status : t.status with
  | connecting => exact absurd (sane.connecting status).1 pending
  | connected => rfl

private theorem Sane.shutdownFails (sane : Sane t) :
    Sane { t with uvShutdowns := t.uvShutdowns - 1 } := by
  refine ⟨sane.handle, sane.reading, fun connecting => ?_, sane.pending, sane.active, sane.timer⟩
  obtain ⟨none, eof⟩ := sane.connecting connecting
  exact ⟨by rw [none], eof⟩

private theorem Sane.requested (sane : Sane t) (connects : t.status = .connecting) :
    Sane { t with shutdownRequested := true } := by
  refine ⟨sane.handle, fun reading => ?_, sane.connecting, sane.pending, sane.active, sane.timer⟩
  have connected := (sane.reading reading).2.1
  cases connects.symm.trans connected

private theorem Sane.timeoutFails (sane : Sane t) :
    Sane { t with uvTimers := t.uvTimers ++ [{ active := false, closes := 1 }] } := by
  refine ⟨sane.handle, sane.reading, sane.connecting, sane.pending, ?_, sane.timer⟩
  intro k timer at_k on
  rcases getElem?_snoc_cases at_k with ⟨-, rfl⟩ | old
  · cases on
  · exact sane.active k timer old on

private theorem Sane.timeoutSet (sane : Sane t) (opened : t.uvHandle = true)
    (connects : t.status = .connecting) (unset : t.timerConnectTimeout = none) :
    Sane { t with
      uvTimers := t.uvTimers ++ [{}], timerConnectTimeout := some t.uvTimers.length } := by
  refine ⟨sane.handle, sane.reading, sane.connecting, sane.pending, ?_, fun _ =>
    ⟨opened, connects⟩⟩
  intro k timer at_k on
  rcases getElem?_snoc_cases at_k with ⟨rfl, -⟩ | old
  · rfl
  · rw [quiet_of_unset sane.active unset k timer old] at on
    cases on

theorem sane_move {c : Config} {n : Nat} {a : Action} {v v' : TcpView} {t' : State.Tcp}
    (move : TcpMove c n a v v') (sane : ∀ t, v.tcp = some t → Sane t)
    (socket' : v'.tcp = some t') : Sane t' := by
  cases move with
  | runs stopped => exact sane t' socket'
  | releases running => exact sane t' socket'
  | stops idle unwritten => exact sane t' socket'
  | fails absent uvInited =>
    cases socket'
    cases uvInited <;> constructor <;> simp
  | opens absent call accepted init =>
    cases socket'
    constructor <;> simp
  | @connects t socket pending live free =>
    cases socket'
    exact (sane t socket).connected pending live free
  | @connectsToShutdown t socket pending live requested =>
    cases socket'
    exact (sane t socket).connectedToShutdown pending live
  | @failsToConnect t socket pending terminal =>
    cases socket'
    exact (sane t socket).refused pending
  | receives socket reading => exact sane t' socket'
  | @endsReading t socket reads opened =>
    cases socket'
    exact (sane t socket).stopsReading ((sane t socket).reading reads).2.1 _ _ true
  | @failsToRead t socket reads terminal other =>
    cases socket'
    exact (sane t socket).dropped ((sane t socket).reading reads).2.1 _
  | writes socket opened => exact sane t' socket'
  | written fewer => exact sane t' socket'
  | @setsTimeout t socket opened connects unset =>
    cases socket'
    exact (sane t socket).timeoutSet opened connects unset
  | @failsToSetTimeout t socket opened connects unset =>
    cases socket'
    exact (sane t socket).timeoutFails
  | @timesOut t k timer socket fired active opened set =>
    cases socket'
    exact (sane t socket).timedOut opened
  | @closes t socket opened connects =>
    cases socket'
    exact (sane t socket).closed
  | @disconnects t socket opened connected terminal other =>
    cases socket'
    exact (sane t socket).closed
  | @shutsDown t args uv socket opened connected free call few answers =>
    cases socket'
    exact (sane t socket).stopsReading connected _ true _
  | @failsToShutDown t socket opened connected =>
    cases socket'
    exact (sane t socket).stopsReading connected _ _ _
  | @requestsShutdown t socket opened connects =>
    cases socket'
    exact (sane t socket).requested connects
  | @isShutDown t socket pending opened live terminal =>
    cases socket'
    exact (sane t socket).dropped ((sane t socket).connected_of_shutdown pending) _
  | @wasClosed t socket pending closed =>
    cases socket'
    exact (sane t socket).shutdownFails
  | @destroys t socket opened connects at_release =>
    cases socket'
    exact (sane t socket).closed.released
  | @destroysConnected t socket opened connected terminal other at_release =>
    cases socket'
    exact (sane t socket).closed.released
  | returns closing => exact sane t' socket'
  | unwinds closing => exact sane t' socket'

end Socket

section Life

/-- The address of the socket was classified as IPv4 or IPv6. -/
def Plain (t : State.Tcp) : Prop := t.ipType = .ipv4 ∨ t.ipType = .ipv6

def callbackOf : TcpEvent → Option TcpCallback
  | .callback callback => some callback
  | _ => none

def callbacks (log : List TcpEvent) : List TcpCallback := log.filterMap callbackOf

/-- Where a socket is in its life, with the callbacks it has made, newest first. -/
inductive Phase (t : State.Tcp) (stored : Prop) : List TcpCallback → Prop
  | connecting (pending : t.uvConnect = true) (here : stored) : Phase t stored []
  | connected (opened : t.uvHandle = true) (status : t.status = .connected) (here : stored)
      (k : Nat) : Phase t stored (List.replicate k .dataReceived ++ [.connected])
  | refused (closed : t.uvHandle = false) (idle : t.uvConnect = false)
      (status : t.status = .connecting) (gone : ¬ stored) : Phase t stored [.connectionError]
  | disconnected (closed : t.uvHandle = false) (status : t.status = .connected)
      (gone : ¬ stored) (k : Nat) :
      Phase t stored (.disconnected :: (List.replicate k .dataReceived ++ [.connected]))

/-- No data comes after `close` or `close_gracefully` has returned true. -/
def Hushed (log : List TcpEvent) : Prop :=
  ∀ newer older, log = newer ++ .returned :: older → .callback .dataReceived ∉ newer

/-- What the socket, its entry in `@_handles`, its log and a waiting `close` have in common. -/
structure Known (t : State.Tcp) (stored : Prop) (log : List TcpEvent) (waiting : Bool) :
    Prop where
  opened : t.uvHandle = true → stored
  releasing : t.releasing = true → t.uvHandle = false
  waiting : waiting = true → t.uvHandle = false
  returned : .returned ∈ log → t.uvHandle = false ∨ t.shutdownRequested = true
  hushed : Hushed log
  phase : Plain t → Phase t stored (callbacks log)

/-- What holds of every socket in every state of the engine. -/
structure TcpInv (v : TcpView) : Prop where
  absent : v.tcp = none → ¬ v.stored ∧ v.log = [] ∧ v.writes = [] ∧ v.waiting = false
  sane : ∀ t, v.tcp = some t → Sane t
  known : ∀ t, v.tcp = some t → Known t v.stored v.log v.waiting

variable {log : List TcpEvent} {e : TcpEvent}

private theorem hushed_cons (h : Hushed log) (quiet : e ≠ .callback .dataReceived) :
    Hushed (e :: log) := by
  intro newer older split
  cases newer with
  | nil => simp
  | cons x newer =>
    obtain ⟨rfl, rest⟩ := List.cons.inj split
    have before := h newer older rest
    simp [before, Ne.symm quiet]

private theorem hushed_data (fresh : .returned ∉ log) :
    Hushed (.callback .dataReceived :: log) := by
  intro newer older split
  cases newer with
  | nil => simp
  | cons x newer =>
    obtain ⟨rfl, rest⟩ := List.cons.inj split
    exact absurd (by rw [rest]; simp) fresh

private theorem callbacks_cons {callback : TcpCallback} :
    callbacks (.callback callback :: log) = callback :: callbacks log := rfl

variable {t : State.Tcp} {stored : Prop} {cbs : List TcpCallback}

private theorem Phase.of_pending (phase : Phase t stored cbs) (sane : Sane t)
    (pending : t.uvConnect = true) : cbs = [] ∧ stored := by
  have connecting := (sane.pending pending).1
  cases phase with
  | connecting pending here => exact ⟨rfl, here⟩
  | connected opened status here k =>
    rw [connecting] at status
    cases status
  | refused closed idle status gone =>
    rw [pending] at idle
    cases idle
  | disconnected closed status gone k =>
    rw [connecting] at status
    cases status

private theorem Phase.of_connecting (phase : Phase t stored cbs) (opened : t.uvHandle = true)
    (connecting : t.status = .connecting) : t.uvConnect = true := by
  cases phase with
  | connecting pending here => exact pending
  | connected opened status here k =>
    rw [connecting] at status
    cases status
  | refused closed idle status gone =>
    rw [opened] at closed
    cases closed
  | disconnected closed status gone k =>
    rw [opened] at closed
    cases closed

private theorem Phase.congr {t' : State.Tcp} (phase : Phase t stored cbs)
    (handle : t'.uvHandle = t.uvHandle) (connect : t'.uvConnect = t.uvConnect)
    (status : t'.status = t.status) : Phase t' stored cbs := by
  cases phase with
  | connecting pending here => exact .connecting (connect.trans pending) here
  | connected opened at_status here k =>
    exact .connected (handle.trans opened) (status.trans at_status) here k
  | refused closed idle at_status gone =>
    exact .refused (handle.trans closed) (connect.trans idle) (status.trans at_status) gone
  | disconnected closed at_status gone k =>
    exact .disconnected (handle.trans closed) (status.trans at_status) gone k

private theorem Phase.of_open (phase : Phase t stored cbs) (sane : Sane t)
    (opened : t.uvHandle = true) (connected : t.status = .connected) :
    ∃ k, cbs = List.replicate k .dataReceived ++ [.connected] := by
  cases phase with
  | connecting pending here =>
    rw [(sane.pending pending).1] at connected
    cases connected
  | connected opened status here k => exact ⟨k, rfl⟩
  | refused closed idle status gone =>
    rw [opened] at closed
    cases closed
  | disconnected closed status gone k =>
    rw [opened] at closed
    cases closed

theorem cancel_fields (t : State.Tcp) :
    let t' := Tcp.cancelTimerConnectTimeout t
    t'.uvHandle = t.uvHandle ∧ t'.status = t.status ∧ t'.uvConnect = t.uvConnect ∧
      t'.releasing = t.releasing ∧ t'.shutdownRequested = t.shutdownRequested ∧
      t'.ipType = t.ipType ∧ t'.uvCloses = t.uvCloses := by
  obtain ⟨uvTimers, timer, kept⟩ := cancel_keeps t
  rw [kept]
  exact ⟨rfl, rfl, rfl, rfl, rfl, rfl, rfl⟩

private theorem returned_mem_cons (other : e ≠ .returned) :
    TcpEvent.returned ∈ e :: log ↔ .returned ∈ log := by
  simp [Ne.symm other]

variable {c c' : Config} {n : Nat} {a : Action} {v v' : TcpView} {waiting : Bool}

theorem handle_move {t' : State.Tcp} (move : TcpMove c n a v v') (socket : v.tcp = some t)
    (socket' : v'.tcp = some t') (opened : t'.uvHandle = true) : t.uvHandle = true := by
  have same : ∀ {u : State.Tcp}, v.tcp = some u → u.uvHandle = true → t.uvHandle = true := by
    intro u at_u on
    obtain rfl : u = t := Option.some.inj (at_u.symm.trans socket)
    exact on
  cases move with
  | runs stopped => exact same socket' opened
  | releases running => exact same socket' opened
  | stops idle unwritten => exact same socket' opened
  | fails absent uvInited =>
    rw [absent] at socket
    cases socket
  | opens absent call accepted init =>
    rw [absent] at socket
    cases socket
  | @connects u at_u pending live free =>
    cases socket'
    exact same at_u ((cancel_fields { u with uvConnect := false }).1.symm.trans opened)
  | @connectsToShutdown u at_u pending live requested =>
    cases socket'
    exact same at_u ((cancel_fields { u with uvConnect := false }).1.symm.trans opened)
  | @failsToConnect u at_u pending terminal =>
    cases socket'
    dsimp only at opened
    split at opened
    · exact same at_u ((cancel_fields { u with uvConnect := false }).1.symm.trans opened)
    · cases opened
  | receives at_u reads => exact same socket' opened
  | endsReading at_u reads on => exact same at_u on
  | failsToRead at_u reads terminal other =>
    cases socket'
    cases opened
  | writes at_u on => exact same at_u on
  | written fewer => exact same socket' opened
  | setsTimeout at_u on connecting unset => exact same at_u on
  | failsToSetTimeout at_u on connecting unset => exact same at_u on
  | timesOut at_u fired active on set => exact same at_u on
  | closes at_u on connecting => exact same at_u on
  | disconnects at_u on connected terminal other => exact same at_u on
  | shutsDown at_u on connected free call few answers => exact same at_u on
  | failsToShutDown at_u on connected => exact same at_u on
  | requestsShutdown at_u on connecting => exact same at_u on
  | isShutDown at_u pending on live terminal => exact same at_u on
  | wasClosed at_u pending closed =>
    cases socket'
    exact same at_u opened
  | destroys at_u on connecting at_release => exact same at_u on
  | destroysConnected at_u on connected terminal other at_release => exact same at_u on
  | returns closing => exact same socket' opened
  | unwinds closing => exact same socket' opened

/-- The socket is closed while it is connecting: its connect request is still pending. -/
private theorem Known.closesEarly {t' : State.Tcp} (known : Known t stored log waiting)
    (sane : Sane t) (opened : t.uvHandle = true) (connecting : t.status = .connecting)
    (closed : t'.uvHandle = false) (pending : t'.uvConnect = t.uvConnect)
    (family : t'.ipType = t.ipType) {log' : List TcpEvent} (hushed : Hushed log')
    (same : callbacks log' = callbacks log) : Known t' stored log' waiting where
  opened := by simp [closed]
  releasing := fun _ => closed
  waiting := fun _ => closed
  returned := fun _ => .inl closed
  hushed := hushed
  phase := by
    intro plain
    have phase := known.phase (by unfold Plain at plain ⊢; rwa [family] at plain)
    have pends := phase.of_connecting opened connecting
    obtain ⟨none, here⟩ := phase.of_pending sane pends
    rw [same, none]
    exact .connecting (pending.trans pends) here

private theorem Known.keeps {t' : State.Tcp} {log' : List TcpEvent} {waiting' : Bool}
    (known : Known t stored log waiting) (handle : t'.uvHandle = t.uvHandle)
    (connect : t'.uvConnect = t.uvConnect) (status : t'.status = t.status)
    (family : t'.ipType = t.ipType) (releasing : t'.releasing = t.releasing)
    (waits : waiting' = true → waiting = true)
    (returned : .returned ∈ log' → t'.uvHandle = false ∨ t'.shutdownRequested = true)
    (hushed : Hushed log') (same : callbacks log' = callbacks log) :
    Known t' stored log' waiting' where
  opened := fun on => known.opened (handle.symm.trans on)
  releasing := fun on => handle.trans (known.releasing (releasing.symm.trans on))
  waiting := fun on => handle.trans (known.waiting (waits on))
  returned := returned
  hushed := hushed
  phase := by
    intro plain
    rw [same]
    exact (known.phase (by unfold Plain at plain ⊢; rwa [family] at plain)).congr handle connect
      status

private theorem Known.connects {t' : State.Tcp} {log' : List TcpEvent}
    (known : Known t stored log waiting) (sane : Sane t) (pending : t.uvConnect = true)
    (live : t.uvCloses = 0) (handle : t'.uvHandle = t.uvHandle) (status : t'.status = .connected)
    (family : t'.ipType = t.ipType) (releasing : t'.releasing = t.releasing)
    (requested : t'.shutdownRequested = t.shutdownRequested) (hushed : Hushed log')
    (before : .returned ∈ log' → .returned ∈ log)
    (made : callbacks log' = .connected :: callbacks log) :
    Known t' stored log' waiting where
  opened := fun on => known.opened (handle.symm.trans on)
  releasing := fun on => handle.trans (known.releasing (releasing.symm.trans on))
  waiting := fun on => handle.trans (known.waiting on)
  returned := by
    intro mem
    rw [handle, requested]
    exact known.returned (before mem)
  hushed := hushed
  phase := by
    intro plain
    have phase := known.phase (by unfold Plain at plain ⊢; rwa [family] at plain)
    have opened := sane.handle.mpr ⟨(sane.pending pending).2, live⟩
    obtain ⟨none, here⟩ := phase.of_pending sane pending
    rw [made, none]
    exact .connected (handle.trans opened) status here 0

private theorem Known.ends {t' : State.Tcp} {stored' : Prop} {waiting' : Bool}
    (known : Known t stored log waiting) (sane : Sane t) (opened : t.uvHandle = true)
    (connected : t.status = .connected) (closed : t'.uvHandle = false)
    (status : t'.status = t.status) (family : t'.ipType = t.ipType) (gone : ¬ stored') :
    Known t' stored' (.callback .disconnected :: log) waiting' where
  opened := by simp [closed]
  releasing := fun _ => closed
  waiting := fun _ => closed
  returned := fun _ => .inl closed
  hushed := hushed_cons known.hushed (by simp)
  phase := by
    intro plain
    have phase := known.phase (by unfold Plain at plain ⊢; rwa [family] at plain)
    obtain ⟨k, made⟩ := phase.of_open sane opened connected
    rw [callbacks_cons, made]
    exact .disconnected closed (status.trans connected) gone k

private theorem Known.refused {t' : State.Tcp} (known : Known t stored log waiting)
    (sane : Sane t) (pending : t.uvConnect = true) (closed : t'.uvHandle = false)
    (idle : t'.uvConnect = false) (status : t'.status = t.status)
    (family : t'.ipType = t.ipType) :
    Known t' False (.callback .connectionError :: log) waiting where
  opened := by simp [closed]
  releasing := fun _ => closed
  waiting := fun _ => closed
  returned := fun _ => .inl closed
  hushed := hushed_cons known.hushed (by simp)
  phase := by
    intro plain
    have phase := known.phase (by unfold Plain at plain ⊢; rwa [family] at plain)
    obtain ⟨none, here⟩ := phase.of_pending sane pending
    rw [callbacks_cons, none]
    exact .refused closed idle (status.trans (sane.pending pending).1) id

theorem known_move {t' : State.Tcp} (move : TcpMove c n a v v') (inv : TcpInv v)
    (socket' : v'.tcp = some t') : Known t' v'.stored v'.log v'.waiting := by
  cases move with
  | runs stopped => exact inv.known t' socket'
  | releases running => exact inv.known t' socket'
  | stops idle unwritten => exact inv.known t' socket'
  | fails absent uvInited =>
    cases socket'
    obtain ⟨gone, log, writes, waiting⟩ := inv.absent absent
    constructor <;> simp_all [Plain, Hushed]
  | opens absent call accepted init =>
    cases socket'
    obtain ⟨gone, log, writes, waiting⟩ := inv.absent absent
    refine ⟨fun _ => trivial, by simp, by simp [waiting], by simp [log], by simp [Hushed, log], ?_⟩
    intro plain
    rw [log]
    exact .connecting (decide_eq_true plain) trivial
  | @connects t socket pending live free =>
    cases socket'
    have known := inv.known t socket
    obtain ⟨handle, status, connect, releasing, requested, family, closes⟩ :=
      cancel_fields { t with uvConnect := false }
    exact known.connects (inv.sane t socket) pending live handle rfl family releasing requested
      (hushed_cons known.hushed (by simp)) (returned_mem_cons (by simp)).mp rfl
  | @connectsToShutdown t socket pending live requested =>
    cases socket'
    have known := inv.known t socket
    obtain ⟨handle, status, connect, releasing, requested, family, closes⟩ :=
      cancel_fields { t with uvConnect := false }
    exact known.connects (inv.sane t socket) pending live handle rfl family releasing requested
      (hushed_cons (hushed_cons known.hushed (by simp)) (by simp))
      (fun mem => (returned_mem_cons (by simp)).mp ((returned_mem_cons (by simp)).mp mem)) rfl
  | @failsToConnect t socket pending terminal =>
    cases socket'
    have known := inv.known t socket
    obtain ⟨handle, status, connect, releasing, requested, family, closes⟩ :=
      cancel_fields { t with uvConnect := false }
    by_cases closed : t.uvCloses = 0
    · rw [if_neg (by rw [closes]; exact not_not.mpr closed)]
      exact known.refused (inv.sane t socket) pending rfl connect status family
    · rw [if_pos (by rw [closes]; exact closed)]
      have already : t.uvHandle = false := by
        cases opened : t.uvHandle with
        | false => rfl
        | true => exact absurd ((inv.sane t socket).handle.mp opened).2 closed
      exact known.refused (inv.sane t socket) pending (handle.trans already) connect status family
  | @receives t socket reads =>
    have same : t' = t := Option.some.inj (socket'.symm.trans socket)
    subst same
    have known := inv.known t' socket
    obtain ⟨opened, connected, free, -⟩ := (inv.sane t' socket).reading reads
    have fresh : .returned ∉ v.log := by
      intro mem
      rcases known.returned mem with closed | requested
      · rw [opened] at closed
        cases closed
      · rw [free] at requested
        cases requested
    refine ⟨known.opened, known.releasing, known.waiting, ?_, hushed_data fresh, ?_⟩
    · exact fun mem => absurd ((returned_mem_cons (by simp)).mp mem) fresh
    · intro plain
      obtain ⟨k, made⟩ := (known.phase plain).of_open (inv.sane t' socket) opened connected
      rw [callbacks_cons, made]
      exact .connected opened connected (known.opened opened) (k + 1)
  | @endsReading t socket reads opened =>
    cases socket'
    have known := inv.known t socket
    exact known.keeps rfl rfl rfl rfl rfl id
      (fun mem => known.returned ((returned_mem_cons (by simp)).mp mem))
      (hushed_cons known.hushed (by simp)) rfl
  | @failsToRead t socket reads terminal other =>
    cases socket'
    have sane := inv.sane t socket
    obtain ⟨opened, connected, -, -⟩ := sane.reading reads
    exact (inv.known t socket).ends sane opened connected rfl rfl rfl id
  | writes socket opened => exact inv.known t' socket'
  | written fewer => exact inv.known t' socket'
  | @setsTimeout t socket opened connecting unset =>
    cases socket'
    have known := inv.known t socket
    exact known.keeps rfl rfl rfl rfl rfl id known.returned known.hushed rfl
  | @failsToSetTimeout t socket opened connecting unset =>
    cases socket'
    have known := inv.known t socket
    exact known.keeps rfl rfl rfl rfl rfl id known.returned known.hushed rfl
  | @timesOut t k timer socket fired active opened set =>
    cases socket'
    have known := inv.known t socket
    obtain ⟨handle, status, connect, releasing, requested, family, closes⟩ := cancel_fields
      { t with uvTimers := t.uvTimers.set k { timer with active := false } }
    have closed : (Tcp.closeUvHandle { Tcp.cancelTimerConnectTimeout
        { t with uvTimers := t.uvTimers.set k { timer with active := false } } with
        connectTimeout := true }).uvHandle = false := rfl
    exact known.closesEarly (inv.sane t socket) opened ((inv.sane t socket).timer set).2 closed
      connect family known.hushed rfl
  | @closes t socket opened connecting =>
    cases socket'
    have known := inv.known t socket
    obtain ⟨handle, status, connect, releasing, requested, family, closes⟩ :=
      cancel_fields (Tcp.closeUvHandle t)
    exact known.closesEarly (inv.sane t socket) opened connecting handle connect family
      (hushed_cons known.hushed (by simp)) rfl
  | @disconnects t socket opened connected terminal other =>
    cases socket'
    obtain ⟨handle, status, connect, releasing, requested, family, closes⟩ :=
      cancel_fields (Tcp.closeUvHandle t)
    exact (inv.known t socket).ends (inv.sane t socket) opened connected handle status family id
  | @shutsDown t args uv socket opened connected free call few answers =>
    cases socket'
    have known := inv.known t socket
    exact known.keeps rfl rfl rfl rfl rfl id (fun _ => .inr rfl)
      (hushed_cons (hushed_cons known.hushed (by simp)) (by simp)) rfl
  | @failsToShutDown t socket opened connected =>
    cases socket'
    have known := inv.known t socket
    exact known.keeps rfl rfl rfl rfl rfl id known.returned known.hushed rfl
  | @requestsShutdown t socket opened connecting =>
    cases socket'
    have known := inv.known t socket
    exact known.keeps rfl rfl rfl rfl rfl id (fun _ => .inr rfl)
      (hushed_cons known.hushed (by simp)) rfl
  | @isShutDown t socket pending opened live terminal =>
    cases socket'
    have sane := inv.sane t socket
    have connected : t.status = .connected := by
      cases status : t.status with
      | connecting => exact absurd (sane.connecting status).1 pending
      | connected => rfl
    exact (inv.known t socket).ends sane opened connected rfl rfl rfl id
  | @wasClosed t socket pending closed =>
    cases socket'
    have known := inv.known t socket
    exact known.keeps rfl rfl rfl rfl rfl id known.returned known.hushed rfl
  | @destroys t socket opened connecting at_release =>
    cases socket'
    have known := inv.known t socket
    obtain ⟨handle, status, connect, releasing, requested, family, closes⟩ :=
      cancel_fields (Tcp.closeUvHandle t)
    have closed : { Tcp.cancelTimerConnectTimeout (Tcp.closeUvHandle t) with
        releasing := true }.uvHandle = false := handle
    exact known.closesEarly (inv.sane t socket) opened connecting closed connect family
      known.hushed rfl
  | @destroysConnected t socket opened connected terminal other at_release =>
    cases socket'
    obtain ⟨handle, status, connect, releasing, requested, family, closes⟩ :=
      cancel_fields (Tcp.closeUvHandle t)
    have closed : { Tcp.cancelTimerConnectTimeout (Tcp.closeUvHandle t) with
        releasing := true }.uvHandle = false := handle
    exact (inv.known t socket).ends (inv.sane t socket) opened connected closed status family id
  | returns closing =>
    have known := inv.known t' socket'
    exact known.keeps rfl rfl rfl rfl rfl (fun _ => closing)
      (fun _ => .inl (known.waiting closing)) (hushed_cons known.hushed (by simp)) rfl
  | unwinds closing =>
    have known := inv.known t' socket'
    exact known.keeps rfl rfl rfl rfl rfl (fun _ => closing) known.returned known.hushed rfl

private theorem tcpInv_move (move : TcpMove c n a v v') (inv : TcpInv v) : TcpInv v' where
  absent := by
    intro none'
    cases move with
    | runs stopped => exact inv.absent none'
    | releases running => exact inv.absent none'
    | stops idle unwritten => exact inv.absent none'
    | receives socket reading =>
      rw [socket] at none'
      cases none'
    | writes socket opened =>
      rw [socket] at none'
      cases none'
    | written fewer =>
      obtain ⟨gone, log, writes, waiting⟩ := inv.absent none'
      rw [writes] at fewer
      exact ⟨gone, log, List.sublist_nil.mp fewer, waiting⟩
    | returns closing =>
      rw [(inv.absent none').2.2.2] at closing
      cases closing
    | unwinds closing =>
      rw [(inv.absent none').2.2.2] at closing
      cases closing
    | _ => cases none'
  sane := fun _ => sane_move move inv.sane
  known := fun _ => known_move move inv

theorem tcpInv_step (h : engine.step c a = some c') (inv : TcpInv (view n c)) :
    TcpInv (view n c') := by
  rcases step_view (step_inv h).2 with same | move
  · rw [same]
    exact inv
  · exact tcpInv_move move inv

theorem tcpInv_of_path {l : List (Config × Action)} (path : Path engine l c) :
    TcpInv (view n c) := by
  have start : TcpInv (view n engine.init) := by
    refine ⟨fun _ => ⟨?_, rfl, rfl, rfl⟩, ?_, ?_⟩
    · intro stored
      cases stored
    · intro t socket
      cases socket
    · intro t socket
      cases socket
  exact path.invariant (I := fun c => TcpInv (view n c)) start fun inv h => tcpInv_step h inv

end Life

section Lifecycle

/-- What has happened to a socket, oldest first. -/
def history (n : Nat) (w : World) : List TcpEvent := (w.trace.filterMap (tcpEvent n)).reverse

/-- The callbacks that end a socket. -/
def Terminal (callback : TcpCallback) : Prop :=
  callback = .connectionError ∨ callback = .disconnected

/-- The life of a TCPSocket as its application sees it. -/
structure Lifecycle (n : Nat) (w : World) (t : State.Tcp) : Prop where
  order : callbacks (history n w) <+: [.connectionError] ∨
    ∃ k, callbacks (history n w) <+:
      .connected :: (List.replicate k .dataReceived ++ [.disconnected])
  quiet : ∀ before after, history n w = before ++ .returned :: after →
    .callback .dataReceived ∉ after
  stored : .tcp n ∈ w.handles ↔ ∀ callback ∈ callbacks (history n w), ¬ Terminal callback
  closed : (∃ callback ∈ callbacks (history n w), Terminal callback) → t.uvHandle = false

private theorem callbacks_reverse (log : List TcpEvent) :
    callbacks log.reverse = (callbacks log).reverse :=
  List.filterMap_reverse

private theorem quiet_of_hushed {log : List TcpEvent} (hushed : Hushed log)
    {before after : List TcpEvent} (split : log.reverse = before ++ .returned :: after) :
    .callback .dataReceived ∉ after := by
  have newest_first : log = after.reverse ++ .returned :: before.reverse := by
    have reversed := congrArg List.reverse split
    simpa using reversed
  have fresh := hushed _ _ newest_first
  simpa using fresh

variable {n : Nat} {w : World} {t : State.Tcp}

private theorem order_of_phase {stored : Prop} {cbs : List TcpCallback}
    (phase : Phase t stored cbs) : cbs.reverse <+: [.connectionError] ∨
      ∃ k, cbs.reverse <+: .connected :: (List.replicate k .dataReceived ++ [.disconnected]) := by
  cases phase with
  | connecting pending here => exact .inl (List.nil_prefix)
  | connected opened status here k =>
    refine .inr ⟨k, [.disconnected], ?_⟩
    simp
  | refused closed idle status gone => exact .inl (List.prefix_refl _)
  | disconnected closed status gone k =>
    refine .inr ⟨k, [], ?_⟩
    simp

private theorem ended_of_phase {stored : Prop} {cbs : List TcpCallback}
    (phase : Phase t stored cbs) :
    (stored ∧ ∀ callback ∈ cbs, ¬ Terminal callback) ∨
      (¬ stored ∧ t.uvHandle = false ∧ ∃ callback ∈ cbs, Terminal callback) := by
  cases phase with
  | connecting pending here => exact .inl ⟨here, by simp⟩
  | connected opened status here k =>
    refine .inl ⟨here, ?_⟩
    intro callback made
    rcases List.mem_append.mp made with data | first
    · obtain rfl := List.eq_of_mem_replicate data
      simp [Terminal]
    · obtain rfl := List.mem_singleton.mp first
      simp [Terminal]
  | refused closed idle status gone =>
    exact .inr ⟨gone, closed, .connectionError, by simp, .inl rfl⟩
  | disconnected closed status gone k =>
    exact .inr ⟨gone, closed, .disconnected, by simp, .inr rfl⟩

/-- In every run a TCPSocket with a plain address makes its callbacks in the order of a
connection, and it is in `@_handles` until its last one. -/
theorem socket_lifecycle {l : List (Config × Action)} {c : Config} (path : Path engine l c)
    (n : Nat) : (c.world.tcps[n]? = none → .tcp n ∉ c.world.handles) ∧
      ∀ t, c.world.tcps[n]? = some t → Plain t → Lifecycle n c.world t := by
  have inv : TcpInv (view n c) := tcpInv_of_path path
  refine ⟨fun absent => (inv.absent absent).1, ?_⟩
  intro t socket plain
  have known := inv.known t socket
  have phase : Phase t (.tcp n ∈ c.world.handles)
      (callbacks (c.world.trace.filterMap (tcpEvent n))) := known.phase plain
  have ended := ended_of_phase phase
  refine ⟨?_, ?_, ?_, ?_⟩
  · rw [history, callbacks_reverse]
    exact order_of_phase phase
  · intro before after split
    exact quiet_of_hushed known.hushed split
  · rw [history, callbacks_reverse]
    simp only [List.mem_reverse]
    rcases ended with ⟨here, live⟩ | ⟨gone, closed, callback, made, last⟩
    · exact ⟨fun _ => live, fun _ => here⟩
    · exact ⟨fun here => absurd here gone, fun live => absurd last (live callback made)⟩
  · rw [history, callbacks_reverse]
    simp only [List.mem_reverse]
    rcases ended with ⟨here, live⟩ | ⟨gone, closed, ended⟩
    · rintro ⟨callback, made, last⟩
      exact absurd last (live callback made)
    · exact fun _ => closed

/-- A socket that connects, receives data and is closed. -/
theorem socket_lifecycle_closed : ∃ l c t, Path engine l c ∧ c.world.tcps[0]? = some t ∧
    callbacks (history 0 c.world) = [.connected, .dataReceived, .disconnected] ∧
    Lifecycle 0 c.world t := by
  have reached : (engine.exec (connectSocket ++ [.finish, .proceed, .proceed,
      .event (.read 0 (.data [65]) {}), .call (.tcpClose 0)])).any (fun c =>
        decide (callbacks (history 0 c.world) = [.connected, .dataReceived, .disconnected]) &&
        c.world.tcps[0]?.any fun t => decide (t.ipType = .ipv4)) = true := by
    decide +kernel
  obtain ⟨l, c, path, seen⟩ := exists_path_of_exec engine _ _ reached
  obtain ⟨made, plain⟩ := (Bool.and_eq_true _ _).mp seen
  obtain ⟨t, socket, ipv4⟩ := (Option.any_eq_true _ _).mp plain
  exact ⟨l, c, t, path, socket, of_decide_eq_true made,
    (socket_lifecycle path 0).2 t socket (.inl (of_decide_eq_true ipv4))⟩

end Lifecycle

end AsyncEngine.Engine.TcpLife
