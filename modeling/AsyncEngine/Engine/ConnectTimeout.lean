/- The timers of `TCPSocket#set_connect_timeout` and the handle of the socket: which of the two
   pointers are NULL, how often libuv is told to close what they point to, and which error
   `on_connection_error` gets. -/

import AsyncEngine.Engine.Release

set_option autoImplicit false
set_option relaxedAutoImplicit false

namespace AsyncEngine.Engine.ConnectTimeout

open AsyncEngine.Lib.Run
open AsyncEngine.Lib.Registry
open AsyncEngine.IpParser.Machine
open AsyncEngine.Engine.Ruby
open AsyncEngine.Engine.State
open AsyncEngine.Engine.Machine
open AsyncEngine.Engine.Effects
open AsyncEngine.Engine.Steps
open AsyncEngine.Engine.Loop
open AsyncEngine.Engine.TcpMoves
open AsyncEngine.Engine.TcpLife
open AsyncEngine.Engine.Release

/-- A timer has been closed once, unless `_uv_timer_connect_timeout` points to it. -/
def TimersClosed (timers : List UvTimer) (pointer : Option Nat) : Prop :=
  ∀ (k : Nat) (timer : UvTimer), timers[k]? = some timer →
    timer.closes = if pointer = some k then 0 else 1

/-- How often the handles of a socket have been closed. -/
structure Timed (t : State.Tcp) : Prop where
  closes : t.uvCloses ≤ 1
  timers : TimersClosed t.uvTimers t.timerConnectTimeout
  flag : t.connectTimeout = true → t.uvHandle = false ∧ t.status = .connecting
  inited : Plain t → t.uvInited = true

section Socket

variable {t : State.Tcp}

private theorem cancel_timers (timers : TimersClosed t.uvTimers t.timerConnectTimeout) :
    ∃ closed, Tcp.cancelTimerConnectTimeout t =
        { t with uvTimers := closed, timerConnectTimeout := none } ∧
      TimersClosed closed none := by
  unfold Tcp.cancelTimerConnectTimeout
  cases set : t.timerConnectTimeout with
  | none =>
    refine ⟨t.uvTimers, ?_, ?_⟩
    · show t = { t with timerConnectTimeout := none }
      rw [← set]
    · rw [set] at timers
      exact timers
  | some j =>
    refine ⟨t.uvTimers.modify j fun u => { active := false, closes := u.closes + 1 }, rfl, ?_⟩
    intro k timer at_k
    rw [List.getElem?_modify] at at_k
    obtain ⟨old, at_old, same⟩ := Option.map_eq_some_iff.mp at_k
    have before := timers k old at_old
    rw [set] at before
    rw [if_neg (by simp)]
    by_cases here : j = k
    · rw [if_pos here] at same
      rw [if_pos (congrArg some here)] at before
      rw [← same]
      show old.closes + 1 = 1
      omega
    · rw [if_neg here] at same
      rw [if_neg fun eq => here (Option.some.inj eq)] at before
      rw [← same]
      exact before

private theorem fired_timers (timers : TimersClosed t.uvTimers t.timerConnectTimeout) {k : Nat}
    {timer : UvTimer} (fired : t.uvTimers[k]? = some timer) :
    TimersClosed (t.uvTimers.set k { timer with active := false }) t.timerConnectTimeout := by
  intro j u at_j
  rcases getElem?_set_cases at_j with ⟨rfl, rfl⟩ | ⟨-, old⟩
  · exact timers j timer fired
  · exact timers j u old

private theorem Timed.unflagged {P : Prop} (timed : Timed t) (opened : t.uvHandle = true)
    (flag : t.connectTimeout = true) : P := by
  have closed := (timed.flag flag).1
  rw [opened] at closed
  cases closed

private theorem Timed.closed (timed : Timed t) (opened : t.uvHandle = true)
    (live : t.uvCloses = 0) :
    Timed (Tcp.cancelTimerConnectTimeout (Tcp.closeUvHandle t)) := by
  obtain ⟨timers, eq, closed⟩ := cancel_timers (t := Tcp.closeUvHandle t) timed.timers
  rw [eq]
  refine ⟨?_, closed, timed.unflagged opened, timed.inited⟩
  show t.uvCloses + 1 ≤ 1
  omega

theorem timed_move {c : Config} {n : Nat} {a : Action} {v v' : TcpView} {t' : State.Tcp}
    (move : TcpMove c n a v v') (sane : ∀ t, v.tcp = some t → Sane t)
    (timed : ∀ t, v.tcp = some t → Timed t) (socket' : v'.tcp = some t') : Timed t' := by
  have live {t : State.Tcp} (socket : v.tcp = some t) (opened : t.uvHandle = true) :
      t.uvCloses = 0 := ((sane t socket).handle.mp opened).2
  cases move with
  | runs stopped => exact timed t' socket'
  | releases running => exact timed t' socket'
  | stops idle unwritten => exact timed t' socket'
  | fails absent uvInited =>
    cases socket'
    cases uvInited <;> constructor <;> simp [TimersClosed, Plain]
  | opens absent call accepted init =>
    cases socket'
    constructor <;> simp [TimersClosed]
  | @connects t socket pending unclosed free =>
    cases socket'
    have old := timed t socket
    have opened := (sane t socket).handle.mpr ⟨((sane t socket).pending pending).2, unclosed⟩
    obtain ⟨timers, eq, closed⟩ := cancel_timers (t := { t with uvConnect := false }) old.timers
    rw [eq]
    exact ⟨old.closes, closed, old.unflagged opened, old.inited⟩
  | @connectsToShutdown t socket pending unclosed requested =>
    cases socket'
    have old := timed t socket
    have opened := (sane t socket).handle.mpr ⟨((sane t socket).pending pending).2, unclosed⟩
    obtain ⟨timers, eq, closed⟩ := cancel_timers (t := { t with uvConnect := false }) old.timers
    rw [eq]
    exact ⟨old.closes, closed, old.unflagged opened, old.inited⟩
  | @failsToConnect t socket pending terminal =>
    cases socket'
    have old := timed t socket
    have connecting := ((sane t socket).pending pending).1
    obtain ⟨timers, eq, closed⟩ := cancel_timers (t := { t with uvConnect := false }) old.timers
    rw [eq]
    dsimp only
    split
    · exact ⟨old.closes, closed, old.flag, old.inited⟩
    · rename_i unclosed
      refine ⟨?_, closed, fun _ => ⟨rfl, connecting⟩, old.inited⟩
      show t.uvCloses + 1 ≤ 1
      omega
  | receives socket reading => exact timed t' socket'
  | @endsReading t socket reads opened =>
    cases socket'
    obtain ⟨closes, timers, flag, inited⟩ := timed t socket
    exact ⟨closes, timers, flag, inited⟩
  | @failsToRead t socket reads terminal other =>
    cases socket'
    have old := timed t socket
    have opened := ((sane t socket).reading reads).1
    have unclosed := live socket opened
    refine ⟨?_, old.timers, old.unflagged opened, old.inited⟩
    show t.uvCloses + 1 ≤ 1
    omega
  | writes socket opened => exact timed t' socket'
  | written fewer => exact timed t' socket'
  | @setsTimeout t socket opened connects unset =>
    cases socket'
    obtain ⟨closes, timers, flag, inited⟩ := timed t socket
    refine ⟨closes, ?_, flag, inited⟩
    intro k timer at_k
    rcases getElem?_snoc_cases at_k with ⟨rfl, rfl⟩ | old
    · rw [if_pos rfl]
    · have bound := (List.getElem?_eq_some_iff.mp old).1
      rw [timers k timer old, unset, if_neg (by simp), if_neg]
      intro same
      have last := Option.some.inj same
      omega
  | @failsToSetTimeout t socket opened connects unset =>
    cases socket'
    obtain ⟨closes, timers, flag, inited⟩ := timed t socket
    refine ⟨closes, ?_, flag, inited⟩
    intro k timer at_k
    rcases getElem?_snoc_cases at_k with ⟨rfl, rfl⟩ | old
    · rw [if_neg (by rw [unset]; simp)]
    · exact timers k timer old
  | @timesOut t k timer socket fired active opened set =>
    cases socket'
    have old := timed t socket
    obtain ⟨timers, eq, closed⟩ := cancel_timers
      (t := { t with uvTimers := t.uvTimers.set k { timer with active := false } })
      (fired_timers old.timers fired)
    rw [eq]
    have unclosed := live socket opened
    refine ⟨?_, closed, fun _ => ⟨rfl, ((sane t socket).timer set).2⟩, old.inited⟩
    show t.uvCloses + 1 ≤ 1
    omega
  | @closes t socket opened connects =>
    cases socket'
    exact (timed t socket).closed opened (live socket opened)
  | @disconnects t socket opened connected terminal other =>
    cases socket'
    exact (timed t socket).closed opened (live socket opened)
  | @shutsDown t args uv socket opened connected free call few answers =>
    cases socket'
    obtain ⟨closes, timers, flag, inited⟩ := timed t socket
    exact ⟨closes, timers, flag, inited⟩
  | @failsToShutDown t socket opened connected =>
    cases socket'
    obtain ⟨closes, timers, flag, inited⟩ := timed t socket
    exact ⟨closes, timers, flag, inited⟩
  | @requestsShutdown t socket opened connects =>
    cases socket'
    obtain ⟨closes, timers, flag, inited⟩ := timed t socket
    exact ⟨closes, timers, flag, inited⟩
  | @isShutDown t socket pending opened unclosed terminal =>
    cases socket'
    have old := timed t socket
    refine ⟨?_, old.timers, old.unflagged opened, old.inited⟩
    show t.uvCloses + 1 ≤ 1
    omega
  | @wasClosed t socket pending closed =>
    cases socket'
    obtain ⟨closes, timers, flag, inited⟩ := timed t socket
    exact ⟨closes, timers, flag, inited⟩
  | @destroys t socket opened connects at_release =>
    cases socket'
    obtain ⟨closes, timers, flag, inited⟩ := (timed t socket).closed opened (live socket opened)
    exact ⟨closes, timers, flag, inited⟩
  | @destroysConnected t socket opened connected terminal other at_release =>
    cases socket'
    obtain ⟨closes, timers, flag, inited⟩ := (timed t socket).closed opened (live socket opened)
    exact ⟨closes, timers, flag, inited⟩
  | returns closing => exact timed t' socket'
  | unwinds closing => exact timed t' socket'

/-- The handle of the socket is closed only while the pointer to it is not NULL, which it is then;
and the pointer to the timer comes to point to a new timer only. -/
private structure Closings (t t' : State.Tcp) : Prop where
  handle : t'.uvCloses = t.uvCloses ∨ (t.uvHandle = true ∧ t'.uvHandle = false)
  pointer : ∀ k < t.uvTimers.length, t'.timerConnectTimeout = some k →
    t.timerConnectTimeout = some k

private theorem cancel_unset (t : State.Tcp) :
    (Tcp.cancelTimerConnectTimeout t).timerConnectTimeout = none := by
  unfold Tcp.cancelTimerConnectTimeout
  split
  · assumption
  · rfl

private theorem Closings.same {t' : State.Tcp} (handle : t'.uvCloses = t.uvCloses)
    (pointer : t'.timerConnectTimeout = t.timerConnectTimeout) : Closings t t' := by
  refine ⟨.inl handle, fun k _ set => ?_⟩
  rw [← pointer]
  exact set

private theorem Closings.unset {t' : State.Tcp}
    (handle : t'.uvCloses = t.uvCloses ∨ (t.uvHandle = true ∧ t'.uvHandle = false))
    (pointer : t'.timerConnectTimeout = none) : Closings t t' := by
  refine ⟨handle, fun k _ set => ?_⟩
  rw [pointer] at set
  cases set

private theorem Closings.closed (opened : t.uvHandle = true) :
    Closings t (Tcp.cancelTimerConnectTimeout (Tcp.closeUvHandle t)) :=
  .unset (.inr ⟨opened, (cancel_fields (Tcp.closeUvHandle t)).1⟩) (cancel_unset _)

private theorem closings_move {c : Config} {n : Nat} {a : Action} {v v' : TcpView}
    {t' : State.Tcp} (move : TcpMove c n a v v') (sane : Sane t) (socket : v.tcp = some t)
    (socket' : v'.tcp = some t') : Closings t t' := by
  have same {u : State.Tcp} (at_u : v.tcp = some u) : u = t :=
    Option.some.inj (at_u.symm.trans socket)
  have stays (kept : v'.tcp = v.tcp) : Closings t t' := by
    obtain rfl := same (kept.symm.trans socket')
    exact .same rfl rfl
  cases move with
  | runs stopped => exact stays rfl
  | releases running => exact stays rfl
  | stops idle unwritten => exact stays rfl
  | fails absent uvInited =>
    rw [absent] at socket
    cases socket
  | opens absent call accepted init =>
    rw [absent] at socket
    cases socket
  | @connects u at_u pending unclosed free =>
    obtain rfl := same at_u
    cases socket'
    obtain ⟨-, -, -, -, -, -, closes⟩ := cancel_fields { u with uvConnect := false }
    exact .unset (.inl closes) (cancel_unset _)
  | @connectsToShutdown u at_u pending unclosed requested =>
    obtain rfl := same at_u
    cases socket'
    obtain ⟨-, -, -, -, -, -, closes⟩ := cancel_fields { u with uvConnect := false }
    exact .unset (.inl closes) (cancel_unset _)
  | @failsToConnect u at_u pending terminal =>
    obtain rfl := same at_u
    cases socket'
    obtain ⟨-, -, -, -, -, -, closes⟩ := cancel_fields { u with uvConnect := false }
    dsimp only
    split
    · exact .unset (.inl closes) (cancel_unset _)
    · rename_i unclosed
      rw [closes] at unclosed
      have opened := sane.handle.mpr ⟨(sane.pending pending).2, not_not.mp unclosed⟩
      exact .unset (.inr ⟨opened, rfl⟩) (cancel_unset _)
  | receives at_u reads => exact stays rfl
  | @endsReading u at_u reads opened =>
    obtain rfl := same at_u
    cases socket'
    exact .same rfl rfl
  | @failsToRead u at_u reads terminal other =>
    obtain rfl := same at_u
    cases socket'
    exact ⟨.inr ⟨(sane.reading reads).1, rfl⟩, fun _ _ => id⟩
  | writes at_u opened => exact stays rfl
  | written fewer => exact stays rfl
  | @setsTimeout u at_u opened connects unset =>
    obtain rfl := same at_u
    cases socket'
    refine ⟨.inl rfl, fun k old set => ?_⟩
    have last := Option.some.inj set
    omega
  | @failsToSetTimeout u at_u opened connects unset =>
    obtain rfl := same at_u
    cases socket'
    exact .same rfl rfl
  | @timesOut u k timer at_u fired active opened set =>
    obtain rfl := same at_u
    cases socket'
    exact .unset (.inr ⟨opened, rfl⟩) (cancel_unset _)
  | @closes u at_u opened connects =>
    obtain rfl := same at_u
    cases socket'
    exact .closed opened
  | @disconnects u at_u opened connected terminal other =>
    obtain rfl := same at_u
    cases socket'
    exact .closed opened
  | @shutsDown u args uv at_u opened connected free call few answers =>
    obtain rfl := same at_u
    cases socket'
    exact .same rfl rfl
  | @failsToShutDown u at_u opened connected =>
    obtain rfl := same at_u
    cases socket'
    exact .same rfl rfl
  | @requestsShutdown u at_u opened connects =>
    obtain rfl := same at_u
    cases socket'
    exact .same rfl rfl
  | @isShutDown u at_u pending opened unclosed terminal =>
    obtain rfl := same at_u
    cases socket'
    exact ⟨.inr ⟨opened, rfl⟩, fun _ _ => id⟩
  | @wasClosed u at_u pending closed =>
    obtain rfl := same at_u
    cases socket'
    exact .same rfl rfl
  | @destroys u at_u opened connects at_release =>
    obtain rfl := same at_u
    cases socket'
    obtain ⟨handle, pointer⟩ := Closings.closed opened
    exact ⟨handle, pointer⟩
  | @destroysConnected u at_u opened connected terminal other at_release =>
    obtain rfl := same at_u
    cases socket'
    obtain ⟨handle, pointer⟩ := Closings.closed opened
    exact ⟨handle, pointer⟩
  | returns closing => exact stays rfl
  | unwinds closing => exact stays rfl

end Socket

section Flags

variable {w w' : World} {n : Nat} {t t' : State.Tcp}

/-- The CONNECT_TIMEOUT flags of all TCPSockets. -/
def flags (w : World) : List Bool := w.tcps.map (·.connectTimeout)

/-- No flag of a socket is changed; a new socket has none. -/
def SameFlags (w w' : World) : Prop := flags w' = flags w ∨ flags w' = flags w ++ [false]

private theorem sameFlags_tcps (same : w'.tcps = w.tcps) : SameFlags w w' := by
  left
  rw [flags, same, flags]

private theorem sameFlags_append (made : w'.tcps = w.tcps ++ [t])
    (unset : t.connectTimeout = false) : SameFlags w w' := by
  right
  rw [flags, made, List.map_append, List.map_singleton, unset, flags]

private theorem sameFlags_setTcp (socket : w.tcps[n]? = some t)
    (kept : t'.connectTimeout = t.connectTimeout) : SameFlags w (w.setTcp n t') := by
  obtain ⟨bound, rfl⟩ := List.getElem?_eq_some_iff.mp socket
  left
  show (w.tcps.set n t').map _ = _
  rw [List.map_set, kept, ← List.map_set (f := fun t : State.Tcp => t.connectTimeout),
    List.set_getElem_self, flags]

private theorem cancel_flag (t : State.Tcp) :
    (Tcp.cancelTimerConnectTimeout t).connectTimeout = t.connectTimeout := by
  obtain ⟨uvTimers, timer, kept⟩ := cancel_keeps t
  rw [kept]

private theorem ipPort_tcps (address : List UInt8) (ipType : IpType) :
    (aeIpUtilsGetIpPort w address ipType).1.tcps = w.tcps := by
  cases ipType <;> rfl

private theorem initInstance_flags (p : Tcp.NewArgs) (uv : UvAnswers) :
    SameFlags w (Tcp.initInstance w p uv).1 := by
  unfold Tcp.initInstance
  dsimp only
  split
  · exact sameFlags_append rfl rfl
  · cases p.bindIp with
    | none =>
      simp only [Option.map_none, Option.isSome_none, Bool.false_eq_true, false_and, if_false]
      split
      · exact sameFlags_append rfl rfl
      · exact sameFlags_append rfl rfl
    | some ip =>
      simp only [Option.map_some, Option.isSome_some, true_and]
      split
      · exact sameFlags_append rfl rfl
      · split
        · exact sameFlags_append rfl rfl
        · exact sameFlags_append rfl rfl

private theorem setConnectTimeout_flags (timeout : Value) (uv : UvAnswers)
    (socket : w.tcps[n]? = some t) :
    SameFlags w (Tcp.setConnectTimeout w n t timeout uv).1 := by
  refine checked_cases (P := fun r => SameFlags w r.1) (fun _ _ => .inl rfl) fun _ _ => ?_
  dsimp only
  split
  · exact sameFlags_setTcp socket (cancel_flag _)
  · exact sameFlags_setTcp socket rfl

private theorem close_flags (socket : w.tcps[n]? = some t) :
    SameFlags w (Tcp.close w n t).1 := by
  refine checked_cases (P := fun r => SameFlags w r.1) (fun _ _ => .inl rfl) fun _ _ => ?_
  dsimp only
  split
  · exact sameFlags_setTcp socket (cancel_flag _)
  · exact sameFlags_setTcp socket (cancel_flag _)

private theorem closeGracefully_flags (args : Args) (uv : UvAnswers)
    (socket : w.tcps[n]? = some t) :
    SameFlags w (Tcp.closeGracefully w n t args uv).1 := by
  refine checked_cases (P := fun r => SameFlags w r.1) (fun _ _ => .inl rfl) fun _ _ => ?_
  split
  · split
    · exact .inl rfl
    · dsimp only
      split
      · exact sameFlags_setTcp socket rfl
      · exact sameFlags_setTcp (w := w.push _) socket rfl
  · exact sameFlags_setTcp socket rfl

private theorem destroy_flags (socket : w.tcps[n]? = some t) :
    SameFlags w (Tcp.destroy w n t).1 := by
  refine checked_cases (P := fun r => SameFlags w r.1) (fun _ _ => .inl rfl) fun _ _ => ?_
  dsimp only
  split
  · exact sameFlags_setTcp socket (cancel_flag _)
  · exact sameFlags_setTcp socket (cancel_flag _)

private theorem uvConnectCallback_flags (error : Option Int) (uv : UvAnswers)
    (socket : w.tcps[n]? = some t) :
    SameFlags w (Tcp.uvConnectCallback w n t error uv).1 := by
  unfold Tcp.uvConnectCallback
  dsimp only
  split
  · split
    · split
      · exact .inl rfl
      · split
        · exact .inl rfl
        · exact sameFlags_setTcp (w := w.push _) socket (cancel_flag _)
    · split
      · exact .inl rfl
      · exact sameFlags_setTcp socket (cancel_flag _)
  · refine sameFlags_setTcp socket ?_
    split
    · exact cancel_flag _
    · exact cancel_flag _

private theorem uvReadCallback_flags (read : Tcp.Read) (uv : UvAnswers)
    (socket : w.tcps[n]? = some t) : SameFlags w (Tcp.uvReadCallback w n t read uv).1 := by
  cases read with
  | nothing => exact .inl rfl
  | data bytes => exact .inl rfl
  | eof =>
    dsimp only [Tcp.uvReadCallback]
    split
    · exact .inl rfl
    · split
      · exact .inl rfl
      · exact sameFlags_setTcp (w := w.push _) socket rfl
  | error errno => exact sameFlags_setTcp socket rfl

private theorem uvShutdownCallback_flags (socket : w.tcps[n]? = some t)
    (kept : t'.connectTimeout = t.connectTimeout) :
    SameFlags w (Tcp.uvShutdownCallback w n t').1 := by
  unfold Tcp.uvShutdownCallback
  split
  · exact sameFlags_setTcp socket kept
  · exact sameFlags_setTcp socket kept

private theorem dispatch_flags {call : Call} {r : World × Outcome}
    (h : dispatch w call = some r) : SameFlags w r.1 := by
  by_cases file : fileOf call = .tcp
  · cases call with
    | tcpNew args uv =>
      obtain rfl := Option.some.inj h
      exact checked_cases (P := fun r => SameFlags w r.1) (fun _ _ => .inl rfl)
        fun p _ => initInstance_flags p uv
    | tcpLocalAddress n uv =>
      obtain ⟨t, -, rfl⟩ := Option.map_eq_some_iff.mp h
      refine checked_cases (P := fun r => SameFlags w r.1) (fun _ _ => .inl rfl) fun _ _ => ?_
      split
      · exact .inl rfl
      · exact sameFlags_tcps (ipPort_tcps _ _)
    | tcpPeerAddress n uv =>
      obtain ⟨t, -, rfl⟩ := Option.map_eq_some_iff.mp h
      refine checked_cases (P := fun r => SameFlags w r.1) (fun _ _ => .inl rfl) fun _ _ => ?_
      split
      · exact .inl rfl
      · split
        · exact .inl rfl
        · exact sameFlags_tcps (ipPort_tcps _ _)
    | tcpSetConnectTimeout n timeout uv =>
      obtain ⟨t, socket, rfl⟩ := Option.map_eq_some_iff.mp h
      exact setConnectTimeout_flags timeout uv socket
    | tcpClose n =>
      obtain ⟨t, socket, rfl⟩ := Option.map_eq_some_iff.mp h
      exact close_flags socket
    | tcpCloseGracefully n args uv =>
      obtain ⟨t, socket, rfl⟩ := Option.map_eq_some_iff.mp h
      exact closeGracefully_flags args uv socket
    | _ => cases file
  · exact sameFlags_tcps ((untouched_own (dispatch_own h)).tcps file)

private theorem reports_flags {event : UvEvent} {r : World × Option Callback}
    (h : Reports w event r) (other : ∀ n k, event ≠ .connectTimeout n k) :
    SameFlags w r.1 := by
  by_cases file : fileOfEvent event = .tcp
  · cases h with
    | connect socket pending may => exact uvConnectCallback_flags _ _ socket
    | read socket reading => exact uvReadCallback_flags _ _ socket
    | shutdown socket pending may => exact uvShutdownCallback_flags socket rfl
    | connectTimeout socket fired active => exact absurd rfl (other _ _)
    | _ => cases file
  · exact sameFlags_tcps ((untouched_own (reports_own h)).tcps file)

private theorem destroyHandle_flags (key : Handle) : SameFlags w (destroyHandle w key).1 := by
  cases key with
  | tcp n =>
    unfold destroyHandle
    dsimp only
    split
    · rename_i socket
      exact destroy_flags socket
    · exact .inl rfl
  | timer n =>
    have kept := untouched_own (destroyHandle_own w (.timer n))
    exact sameFlags_tcps (kept.tcps (by simp [fileOfKey]))
  | udp n =>
    have kept := untouched_own (destroyHandle_own w (.udp n))
    exact sameFlags_tcps (kept.tcps (by simp [fileOfKey]))

private theorem flags_step {c c' : Config} {a : Action} (h : Step c a c')
    (other : ∀ n k, a ≠ .event (.connectTimeout n k)) : SameFlags c.world c'.world := by
  obtain ⟨w, runs, data⟩ := step_data h
  have same : SameFlags c.world w := by
    cases runs with
    | nothing => exact .inl rfl
    | method called => exact dispatch_flags called
    | queue frame =>
      have kept := untouched_own (show FrameOf .queue c.world w from frame)
      exact sameFlags_tcps (kept.tcps (by simp))
    | callback reported =>
      refine reports_flags reported fun n k => ?_
      rintro rfl
      exact other n k rfl
    | destroy stored => exact destroyHandle_flags _
  rcases same with kept | grown
  · exact .inl (by rw [← kept, flags, data.tcps, flags])
  · exact .inr (by rw [← grown, flags, data.tcps, flags])

end Flags

section Refused

variable {c c' : Config} {n : Nat} {a : Action} {v v' : TcpView}

/-- The application has been told that the socket could not connect. -/
def Refused (v : TcpView) : Prop := .callback .connectionError ∈ v.log

private theorem refused_cons {log : List TcpEvent} {e : TcpEvent}
    (other : e ≠ .callback .connectionError) (refused : .callback .connectionError ∈ e :: log) :
    .callback .connectionError ∈ log := by
  rcases List.mem_cons.mp refused with same | before
  · exact absurd same.symm other
  · exact before

private theorem refused_move (move : TcpMove c n a v v') (sane : ∀ t, v.tcp = some t → Sane t)
    (refused : Refused v') : Refused v ∨ ∀ t', v'.tcp = some t' → t'.uvHandle = false := by
  cases move with
  | connects socket pending live free => exact .inl (refused_cons (by simp) refused)
  | connectsToShutdown socket pending live requested =>
    exact .inl (refused_cons (by simp) (refused_cons (by simp) refused))
  | @failsToConnect t socket pending terminal =>
    refine .inr fun t' socket' => ?_
    cases socket'
    have fields := cancel_fields { t with uvConnect := false }
    obtain ⟨handle, -, -, -, -, -, closes⟩ := fields
    dsimp only
    split
    · rename_i closed
      refine handle.trans ?_
      cases opened : t.uvHandle with
      | false => rfl
      | true =>
        rw [closes] at closed
        exact absurd ((sane t socket).handle.mp opened).2 closed
    · rfl
  | receives socket reading => exact .inl (refused_cons (by simp) refused)
  | endsReading socket reads opened => exact .inl (refused_cons (by simp) refused)
  | failsToRead socket reads terminal other => exact .inl (refused_cons (by simp) refused)
  | closes socket opened connecting => exact .inl (refused_cons (by simp) refused)
  | disconnects socket opened connected terminal other =>
    exact .inl (refused_cons (by simp) refused)
  | shutsDown socket opened connected free call few answers =>
    exact .inl (refused_cons (by simp) (refused_cons (by simp) refused))
  | requestsShutdown socket opened connecting => exact .inl (refused_cons (by simp) refused)
  | isShutDown socket pending opened live terminal =>
    exact .inl (refused_cons (by simp) refused)
  | destroysConnected socket opened connected terminal other at_release =>
    exact .inl (refused_cons (by simp) refused)
  | returns closing => exact .inl (refused_cons (by simp) refused)
  | _ => exact .inl refused

private theorem refused_closed (move : TcpMove c n a v v') (inv : TcpInv v)
    (closed : Refused v → ∀ t, v.tcp = some t → t.uvHandle = false) (refused : Refused v')
    {t' : State.Tcp} (socket' : v'.tcp = some t') : t'.uvHandle = false := by
  rcases refused_move move inv.sane refused with before | now
  · cases opened : t'.uvHandle with
    | false => rfl
    | true =>
      cases socket : v.tcp with
      | none =>
        rw [Refused, (inv.absent socket).2.1] at before
        cases before
      | some t =>
        have old := handle_move move socket socket' opened
        rw [closed before t socket] at old
        cases old
  · exact now t' socket'

private theorem tcpEvent_refused {e : Event}
    (seen : tcpEvent n e = some (.callback .connectionError)) :
    ∃ error s, e = .started (.onConnectionError n error) s := by
  unfold tcpEvent at seen
  split at seen
  case h_2 m error s =>
    split at seen
    · rename_i same
      exact ⟨error, s, by rw [same]⟩
    · cases seen
  case h_8 => cases seen
  all_goals
    split at seen
    · cases Option.some.inj seen
    · cases seen

private theorem refused_iff : Refused (view n c) ↔
    ∃ error s, .started (.onConnectionError n error) s ∈ c.world.trace := by
  constructor
  · intro refused
    obtain ⟨e, here, seen⟩ := List.mem_filterMap.mp refused
    obtain ⟨error, s, rfl⟩ := tcpEvent_refused seen
    exact ⟨error, s, here⟩
  · rintro ⟨error, s, here⟩
    exact List.mem_filterMap.mpr ⟨_, here, by simp [tcpEvent]⟩

end Refused

section Errors

variable {c c' : Config} {a : Action} {n : Nat} {error : RubyError} {s : AeStatus}

/-- `on_connection_error` is given ETIMEDOUT if the flag is set, and otherwise what libuv
reports. -/
private theorem uvConnect_error {w : World} {m : Nat} {t : State.Tcp} {reported : Option Int}
    {uv : UvAnswers} (called : (Tcp.uvConnectCallback w m t reported uv).2 =
      some (.onConnectionError n error)) :
    m = n ∧ ∃ errno, reported = some errno ∧
      error = if t.connectTimeout then .uv Tcp.uvEtimedout else .uv errno := by
  unfold Tcp.uvConnectCallback at called
  dsimp only at called
  split at called
  · split at called
    · split at called
      · cases called
      · split at called
        · cases called
        · cases Option.some.inj called
    · split at called
      · cases called
      · cases Option.some.inj called
  · rename_i errno
    obtain ⟨rfl, rfl⟩ := Callback.onConnectionError.inj (Option.some.inj called)
    refine ⟨rfl, errno, rfl, ?_⟩
    have same : (if (Tcp.cancelTimerConnectTimeout { t with uvConnect := false }).uvCloses ≠ 0 then
        Tcp.cancelTimerConnectTimeout { t with uvConnect := false }
      else Tcp.closeUvHandle (Tcp.cancelTimerConnectTimeout { t with uvConnect := false })
      ).connectTimeout = t.connectTimeout := by
      split
      · exact cancel_flag _
      · exact cancel_flag _
    rw [same]

private theorem takeGvl_started {callback : Callback} {r : World × Option Callback}
    (frame : FileFrame c.world r.1)
    (seen : .started callback s ∈ (takeGvl c r).world.trace) :
    .started callback s ∈ c.world.trace ∨ r.2 = some callback := by
  obtain ⟨w, called⟩ := r
  cases called with
  | none => exact .inl (started_frame frame seen)
  | some started =>
    unfold takeGvl at seen
    dsimp only at seen
    split at seen
    · exact .inl seen
    · rcases List.mem_cons.mp seen with new | old
      · obtain ⟨rfl, -⟩ := Event.started.inj new
        exact .inr rfl
      · exact .inl (started_frame frame old)

private theorem error_step (h : engine.step c a = some c')
    (seen : .started (.onConnectionError n error) s ∈ c'.world.trace) :
    .started (.onConnectionError n error) s ∈ c.world.trace ∨
      ∃ errno uv t, a = .event (.connect n (some errno) uv) ∧ c.world.tcps[n]? = some t ∧
        error = if t.connectTimeout then .uv Tcp.uvEtimedout else .uv errno := by
  by_cases connect : ∃ m reported uv, a = .event (.connect m reported uv)
  · obtain ⟨m, reported, uv, rfl⟩ := connect
    obtain ⟨r, -, report, rfl⟩ := event_inv h (by simp) (by simp)
    rcases takeGvl_started (reports_frame report) seen with old | called
    · exact .inl old
    · cases report with
      | @connect _ _ _ t socket pending may =>
        obtain ⟨rfl, errno, rfl, given⟩ := uvConnect_error called
        exact .inr ⟨errno, uv, t, rfl, socket, given⟩
  · left
    obtain ⟨w, frame, shown⟩ := step_events (step_inv h).2
    rcases shown with trace | ⟨e, shows, trace⟩
    · rw [trace] at seen
      exact started_frame frame seen
    · rw [trace] at seen
      rcases List.mem_cons.mp seen with new | old
      · subst new
        obtain ⟨-, ⟨event, rfl, called⟩ | ⟨-, resumed⟩ | ⟨m, -, other⟩⟩ := shows_started shows
        · cases event with
          | connect m reported uv => exact absurd ⟨m, reported, uv, rfl⟩ connect
          | _ => simp [calledBy] at called
        · exact absurd resumed id
        · cases other
      · exact started_frame frame old

end Errors

/-- The TCPSockets whose connect timer has expired, the latest first. -/
abbrev Expired := List Nat

def Expired.note (expired : Expired) (_ : Config) (a : Action) (_ : Config) : Expired :=
  match a with
  | .event (.connectTimeout n _) => n :: expired
  | _ => expired

/-- The engine with the expired timers noted beside it. -/
def expiring : System (Config × Expired) Action := engine.annotate Expired.note []

/-- The pointers of the `n`-th TCPSocket in a reachable state, what libuv has been told to close,
and what `on_connection_error` was given. -/
structure Consistent (c : Config) (expired : Expired) (n : Nat) (t : State.Tcp) : Prop where
  pending : t.timerConnectTimeout ≠ none →
    t.status = .connecting ∧ t.uvHandle = true ∧ t.connectTimeout = false
  closes : t.uvCloses ≤ 1
  timers : ∀ timer ∈ t.uvTimers, timer.closes ≤ 1
  /-- `ae_release_loop` has come to its end. -/
  ended : c.world.status ≠ .running → ¬ Draining (stackOf c.ctl) →
    t.uvCloses = 1 ∧ ∀ timer ∈ t.uvTimers, timer.closes = 1
  told : n ∈ expired → ∀ error s, .started (.onConnectionError n error) s ∈ c.world.trace →
    error = .uv Tcp.uvEtimedout

/-- What a step does with the pointers of the `n`-th TCPSocket, and which error it reports. -/
structure Careful (c : Config) (expired : Expired) (a : Action) (c' : Config) (n : Nat)
    (t : State.Tcp) : Prop where
  /-- `uv_close` is called for the `uv_tcp_t` only while `_uv_handle` is not NULL. -/
  handle {t' : State.Tcp} : c'.world.tcps[n]? = some t' → t'.uvCloses ≠ t.uvCloses →
    t.uvHandle = true ∧ t'.uvHandle = false
  /-- `uv_close` is called for the `uv_timer_t` to which `_uv_timer_connect_timeout` points. -/
  timer {t' : State.Tcp} {k : Nat} {timer timer' : UvTimer} : c'.world.tcps[n]? = some t' →
    t.uvTimers[k]? = some timer → t'.uvTimers[k]? = some timer' → timer'.closes ≠ timer.closes →
      t.timerConnectTimeout = some k ∧ t'.timerConnectTimeout ≠ some k
  /-- `_uv_timer_connect_timeout_callback` and `_ae_cancel_timer_connect_timeout` in it. -/
  asserts {k : Nat} : a = .event (.connectTimeout n k) → c'.world.fault = none
  error {error : RubyError} {s : AeStatus} :
    .started (.onConnectionError n error) s ∈ c'.world.trace →
      .started (.onConnectionError n error) s ∈ c.world.trace ∨
        ∃ errno uv, a = .event (.connect n (some errno) uv) ∧
          error = if n ∈ expired then .uv Tcp.uvEtimedout else .uv errno
  /-- `uv_run` returns. -/
  returns : a = .uvReturn → t.uvCloses = 1 ∧ (∀ timer ∈ t.uvTimers, timer.closes = 1) ∧
    (n ∈ expired →
      ∃ s, .started (.onConnectionError n (.uv Tcp.uvEtimedout)) s ∈ c.world.trace)

section Step

variable {c c' : Config} {a : Action} {expired : Expired} {n : Nat} {t : State.Tcp}

private structure TimersInv (c : Config) (expired : Expired) : Prop where
  release : ReleaseInv c
  timed : ∀ (n : Nat) (t : State.Tcp), c.world.tcps[n]? = some t → Timed t
  refused : ∀ (n : Nat) (t : State.Tcp), c.world.tcps[n]? = some t → Refused (view n c) →
    t.uvHandle = false
  stopped : c.world.status = .stopped → ∀ n, ¬ Open c.world (.tcp n)
  noted : ∀ n, n ∈ expired ↔ (flags c.world)[n]? = some true
  told : ∀ n ∈ expired, ∀ error s, .started (.onConnectionError n error) s ∈ c.world.trace →
    error = .uv Tcp.uvEtimedout

private theorem TimersInv.flag (inv : TimersInv c expired) (socket : c.world.tcps[n]? = some t) :
    n ∈ expired ↔ t.connectTimeout = true := by
  have flag : (flags c.world)[n]? = some t.connectTimeout := by
    rw [flags, List.getElem?_map, socket]
    rfl
  rw [inv.noted n, flag, Option.some.injEq]

private theorem timed_step (inv : TimersInv c expired) (h : Step c a c')
    (socket' : c'.world.tcps[n]? = some t) : Timed t := by
  rcases step_view h with same | move
  · have tcp : c'.world.tcps[n]? = c.world.tcps[n]? := congrArg TcpView.tcp same
    exact inv.timed n t (tcp.symm.trans socket')
  · exact timed_move move (inv.release.tcps n).sane (inv.timed n) socket'

private theorem refused_step (inv : TimersInv c expired) (h : Step c a c')
    (socket' : c'.world.tcps[n]? = some t) (refused : Refused (view n c')) :
    t.uvHandle = false := by
  rcases step_view h with same | move
  · have tcp : c'.world.tcps[n]? = c.world.tcps[n]? := congrArg TcpView.tcp same
    rw [same] at refused
    exact inv.refused n t (tcp.symm.trans socket') refused
  · exact refused_closed move (inv.release.tcps n) (fun before t socket =>
      inv.refused n t socket before) refused socket'

private theorem closings_step {t' : State.Tcp} (sane : Sane t) (h : Step c a c')
    (socket : c.world.tcps[n]? = some t) (socket' : c'.world.tcps[n]? = some t') :
    Closings t t' := by
  rcases step_view h with same | move
  · have tcp : c'.world.tcps[n]? = c.world.tcps[n]? := congrArg TcpView.tcp same
    rw [tcp, socket] at socket'
    obtain rfl := Option.some.inj socket'
    exact .same rfl rfl
  · exact closings_move move sane socket socket'

private theorem stopped_step (inv : TimersInv c expired) (live : c.world.fault = none)
    (h : Step c a c') (stopped : c'.world.status = .stopped) (n : Nat) :
    ¬ Open c'.world (.tcp n) := by
  intro opened
  cases status_step h with
  | same status =>
    have before := status.symm.trans stopped
    exact inv.stopped before n (open_step inv.release.tcps h (by simp [before]) _ opened)
  | starts before running =>
    rw [running] at stopped
    cases stopped
  | releases running releasing =>
    rw [releasing] at stopped
    cases stopped
  | ends ctl handles reqs ended =>
    have releasing := releasing_of_noActiveHandles inv.release.loop inv.release.vars live
      (by rw [ctl]; trivial) handles
    have drained := not_draining (by rw [ctl]; rfl)
    exact inv.release.closed releasing drained _
      (open_step inv.release.tcps h (by simp [releasing]) _ opened)

private theorem expire_runs (w : World) (n : Nat) (t : State.Tcp)
    (set : t.timerConnectTimeout ≠ none) (opened : t.uvHandle = true) :
    Tcp.uvTimerConnectTimeoutCallback w n t = w.setTcp n
      (Tcp.closeUvHandle { Tcp.cancelTimerConnectTimeout t with connectTimeout := true }) := by
  unfold Tcp.uvTimerConnectTimeoutCallback
  rw [if_neg (by simpa using set), if_neg (by simp [opened])]

private theorem expires (inv : TimersInv c expired) {k : Nat}
    (h : engine.step c (.event (.connectTimeout n k)) = some c') :
    ∃ t t', c.world.tcps[n]? = some t ∧ t.uvHandle = true ∧ t'.connectTimeout = true ∧
      c'.world = c.world.setTcp n t' := by
  obtain ⟨r, -, report, rfl⟩ := event_inv h (by simp) (by simp)
  cases report with
  | @connectTimeout _ _ t timer socket fired active =>
    have sane := (inv.release.tcps n).sane t socket
    have set := sane.active k timer fired active
    have opened := (sane.timer (by simp [set])).1
    have runs := expire_runs c.world n
      { t with uvTimers := t.uvTimers.set k { timer with active := false } } (by simp [set]) opened
    exact ⟨t, _, socket, opened, rfl, runs⟩

private theorem note_other (other : ∀ n k, a ≠ .event (.connectTimeout n k)) :
    expired.note c a c' = expired := by
  unfold Expired.note
  split
  · rename_i n k
    exact absurd rfl (other n k)
  · rfl

private theorem noted_step (inv : TimersInv c expired) (h : engine.step c a = some c') (n : Nat) :
    n ∈ expired.note c a c' ↔ (flags c'.world)[n]? = some true := by
  by_cases fires : ∃ m k, a = .event (.connectTimeout m k)
  · obtain ⟨m, k, rfl⟩ := fires
    obtain ⟨t, t', socket, -, flag, world⟩ := expires inv h
    have bound : m < (flags c.world).length := by
      rw [flags, List.length_map]
      exact (List.getElem?_eq_some_iff.mp socket).1
    have set : flags c'.world = (flags c.world).set m true := by
      rw [flags, world, ← flag]
      exact List.map_set
    show n ∈ m :: expired ↔ _
    rw [set, List.mem_cons, inv.noted n]
    by_cases same : n = m
    · subst same
      rw [List.getElem?_set_self bound]
      exact iff_of_true (.inl rfl) rfl
    · rw [List.getElem?_set_ne (Ne.symm same)]
      exact or_iff_right same
  · have other : ∀ m k, a ≠ .event (.connectTimeout m k) := fun m k eq => fires ⟨m, k, eq⟩
    rw [note_other other, inv.noted n]
    rcases flags_step (step_inv h).2 other with same | grown
    · rw [same]
    · rw [grown]
      constructor
      · intro old
        rw [List.getElem?_append_left (List.getElem?_eq_some_iff.mp old).1]
        exact old
      · intro new
        rcases getElem?_snoc_cases new with ⟨-, unset⟩ | old
        · cases unset
        · exact old

private theorem told_step (inv : TimersInv c expired) (h : engine.step c a = some c') :
    ∀ n ∈ expired.note c a c', ∀ error s,
      .started (.onConnectionError n error) s ∈ c'.world.trace → error = .uv Tcp.uvEtimedout := by
  intro n noted error s seen
  by_cases fires : ∃ m k, a = .event (.connectTimeout m k)
  · obtain ⟨m, k, rfl⟩ := fires
    obtain ⟨t, t', socket, opened, -, world⟩ := expires inv h
    rw [world] at seen
    replace seen : .started (.onConnectionError n error) s ∈ c.world.trace := seen
    rcases List.mem_cons.mp noted with rfl | before
    · have closed := inv.refused n t socket (refused_iff.mpr ⟨error, s, seen⟩)
      rw [opened] at closed
      cases closed
    · exact inv.told n before error s seen
  · rw [note_other fun m k eq => fires ⟨m, k, eq⟩] at noted
    rcases error_step h seen with before | ⟨errno, uv, t, -, socket, given⟩
    · exact inv.told n noted error s before
    · rw [given, if_pos ((inv.flag socket).mp noted)]

private theorem timersInv_step (inv : TimersInv c expired) (h : engine.step c a = some c') :
    TimersInv c' (expired.note c a c') := by
  obtain ⟨live, step⟩ := step_inv h
  exact ⟨releaseInv_step inv.release h, fun _ _ => timed_step inv step,
    fun _ _ => refused_step inv step, stopped_step inv live step, noted_step inv h,
    told_step inv h⟩

private theorem timersInv_init : TimersInv engine.init [] := by
  refine ⟨releaseInv_init, ?_, ?_, ?_, ?_, ?_⟩
  · intro n t socket
    cases socket
  · intro n t socket
    cases socket
  · intro _ n opened
    obtain ⟨-, t, socket, -⟩ := opened
    cases socket
  · intro n
    simp [engine, flags]
  · intro n noted
    cases noted

private theorem TimersClosed.at_most_once {timers : List UvTimer} {pointer : Option Nat}
    (closed : TimersClosed timers pointer) : ∀ timer ∈ timers, timer.closes ≤ 1 := by
  intro timer here
  obtain ⟨k, at_k⟩ := List.mem_iff_getElem?.mp here
  rw [closed k timer at_k]
  split
  · exact Nat.zero_le 1
  · exact Nat.le_refl 1

private theorem TimersClosed.once {timers : List UvTimer} (closed : TimersClosed timers none) :
    ∀ timer ∈ timers, timer.closes = 1 := by
  intro timer here
  obtain ⟨k, at_k⟩ := List.mem_iff_getElem?.mp here
  have closes := closed k timer at_k
  rwa [if_neg (by simp)] at closes

private theorem TimersInv.timersOnce (inv : TimersInv c expired)
    (socket : c.world.tcps[n]? = some t) (null : t.uvHandle = false) :
    ∀ timer ∈ t.uvTimers, timer.closes = 1 := by
  have unset : t.timerConnectTimeout = none := by
    by_contra set
    have opened := (((inv.release.tcps n).sane t socket).timer set).1
    rw [null] at opened
    cases opened
  have timers := (inv.timed n t socket).timers
  rw [unset] at timers
  exact timers.once

theorem connect_timers_closed {l : List (Config × Action)} (path : Path engine l c)
    (socket : c.world.tcps[n]? = some t) (null : t.uvHandle = false) :
    ∀ timer ∈ t.uvTimers, timer.closes = 1 := by
  obtain ⟨expired, inv⟩ : ∃ expired, TimersInv c expired := by
    refine path.invariant (I := fun c => ∃ expired, TimersInv c expired) ⟨[], timersInv_init⟩ ?_
    rintro c c' a ⟨expired, inv⟩ move
    exact ⟨_, timersInv_step inv move⟩
  exact inv.timersOnce socket null

private theorem TimersInv.closed (inv : TimersInv c expired) (socket : c.world.tcps[n]? = some t)
    (plain : Plain t) (null : t.uvHandle = false) :
    t.uvCloses = 1 ∧ ∀ timer ∈ t.uvTimers, timer.closes = 1 := by
  have sane := (inv.release.tcps n).sane t socket
  have timed := inv.timed n t socket
  constructor
  · have some : t.uvCloses ≠ 0 := by
      intro none
      have opened := sane.handle.mpr ⟨timed.inited plain, none⟩
      rw [null] at opened
      cases opened
    have most := timed.closes
    omega
  · exact inv.timersOnce socket null

private theorem TimersInv.null (inv : TimersInv c expired) (socket : c.world.tcps[n]? = some t)
    (idle : c.world.status ≠ .running) (drained : ¬ Draining (stackOf c.ctl)) :
    t.uvHandle = false := by
  cases opened : t.uvHandle with
  | false => rfl
  | true =>
    have stored := ((inv.release.tcps n).known t socket).opened opened
    have here : Open c.world (.tcp n) := ⟨stored, t, socket, opened⟩
    cases status : c.world.status with
    | running => exact absurd status idle
    | releasing => exact absurd here (inv.release.closed status drained _)
    | stopped => exact absurd here (inv.stopped status n)

private theorem consistent_of_inv (inv : TimersInv c expired)
    (socket : c.world.tcps[n]? = some t) (plain : Plain t) : Consistent c expired n t := by
  have sane := (inv.release.tcps n).sane t socket
  have timed := inv.timed n t socket
  refine ⟨?_, timed.closes, timed.timers.at_most_once, ?_, inv.told n⟩
  · intro set
    obtain ⟨opened, connecting⟩ := sane.timer set
    exact ⟨connecting, opened, Bool.eq_false_iff.mpr (timed.unflagged opened)⟩
  · intro idle drained
    exact inv.closed socket plain (inv.null socket idle drained)

/-- A socket whose timer has expired has been refused when libuv holds no request any more. -/
private theorem refused_of_phase {stored : Prop} {cbs : List TcpCallback}
    (phase : Phase t stored cbs) (timed : Timed t) (flag : t.connectTimeout = true)
    (idle : t.uvConnect = false) : .connectionError ∈ cbs := by
  obtain ⟨null, connecting⟩ := timed.flag flag
  cases phase with
  | connecting pending here =>
    rw [idle] at pending
    cases pending
  | connected opened status here k =>
    rw [null] at opened
    cases opened
  | refused closed idle status gone => exact .head _
  | disconnected closed status gone k =>
    rw [connecting] at status
    cases status

private theorem returns_of_inv (inv : TimersInv c expired)
    (h : engine.step c .uvReturn = some c') (socket : c.world.tcps[n]? = some t)
    (plain : Plain t) : t.uvCloses = 1 ∧ (∀ timer ∈ t.uvTimers, timer.closes = 1) ∧
      (n ∈ expired →
        ∃ s, .started (.onConnectionError n (.uv Tcp.uvEtimedout)) s ∈ c.world.trace) := by
  obtain ⟨ctl, handles, reqs⟩ := return_inv h
  have drained := not_draining (by rw [ctl]; rfl)
  have null := inv.null socket (inv.release.vars.not_running handles) drained
  obtain ⟨once, timers⟩ := inv.closed socket plain null
  refine ⟨once, timers, fun noted => ?_⟩
  have idle : t.uvConnect = false := by
    simp only [noActiveReqs, Bool.and_eq_true, List.all_eq_true] at reqs
    simpa using (reqs.2 t (List.mem_of_getElem? socket)).1
  have phase := ((inv.release.tcps n).known t socket).phase plain
  have made := refused_of_phase phase (inv.timed n t socket) ((inv.flag socket).mp noted) idle
  obtain ⟨e, here, callback⟩ := List.mem_filterMap.mp made
  have refused : Refused (view n c) := by
    cases e with
    | callback kind =>
      obtain rfl := Option.some.inj callback
      exact here
    | _ => cases callback
  obtain ⟨error, s, seen⟩ := refused_iff.mp refused
  rw [inv.told n noted error s seen] at seen
  exact ⟨s, seen⟩

private theorem careful_of_inv (inv : TimersInv c expired) (h : engine.step c a = some c')
    (socket : c.world.tcps[n]? = some t) (plain : Plain t) : Careful c expired a c' n t := by
  have inv' := timersInv_step inv h
  have closings {t' : State.Tcp} (socket' : c'.world.tcps[n]? = some t') : Closings t t' :=
    closings_step ((inv.release.tcps n).sane t socket) (step_inv h).2 socket socket'
  refine ⟨?_, ?_, ?_, ?_, ?_⟩
  · intro t' socket' closes
    exact (closings socket').handle.resolve_left closes
  · intro t' k timer timer' socket' at_k at_k' closes
    have before := (inv.timed n t socket).timers k timer at_k
    have after := (inv'.timed n t' socket').timers k timer' at_k'
    have old := (List.getElem?_eq_some_iff.mp at_k).1
    by_cases points : t'.timerConnectTimeout = some k
    · rw [if_pos points] at after
      rw [if_pos ((closings socket').pointer k old points)] at before
      omega
    · rw [if_neg points] at after
      refine ⟨?_, points⟩
      by_contra other
      rw [if_neg other] at before
      omega
  · rintro k rfl
    obtain ⟨u, u', -, -, -, world⟩ := expires inv h
    rw [world]
    exact (step_inv h).1
  · intro error s seen
    rcases error_step h seen with before | ⟨errno, uv, u, rfl, at_n, given⟩
    · exact .inl before
    · refine .inr ⟨errno, uv, rfl, ?_⟩
      simp only [given, inv.flag at_n]
  · rintro rfl
    exact returns_of_inv inv h socket plain

end Step

/-- In every run the two pointers of a TCPSocket with a plain address are consistent: its connect
timer is set only while it connects, libuv closes its handle and each of its timers once until the
loop ends, no assertion on the timer fails, and the error of a refused connection is ETIMEDOUT if
the timer has expired, and otherwise the one that libuv reports. -/
theorem connect_timeout {l : List ((Config × Expired) × Action)} {p : Config × Expired}
    (path : Path expiring l p) :
    Always (fun q => ∀ n t, q.1.world.tcps[n]? = some t → Plain t → Consistent q.1 q.2 n t) l p ∧
      Each (fun q a => ∀ c', engine.step q.1 a = some c' → ∀ n t,
        q.1.world.tcps[n]? = some t → Plain t → Careful q.1 q.2 a c' n t) l := by
  have keep {p q : Config × Expired} {a : Action} (inv : TimersInv p.1 p.2)
      (move : expiring.step p a = some q) : TimersInv q.1 q.2 := by
    obtain ⟨step, noted⟩ := annotate_step move
    rw [noted]
    exact timersInv_step inv step
  constructor
  · refine path.always (I := fun q => TimersInv q.1 q.2) timersInv_init
      (fun inv move (_ : True) => keep inv move) ?_ fun _ _ => trivial
    intro q inv n t socket plain
    exact consistent_of_inv inv socket plain
  · refine path.each (I := fun q => TimersInv q.1 q.2) timersInv_init keep ?_
    intro p q a inv move c' step n t socket plain
    exact careful_of_inv inv step socket plain

/-- A program whose block makes a TCPSocket to 127.0.0.1, calls a method of it and ends. -/
private def connecting (method : List Action) : List Action :=
  runBlock ++ [
    .call (.tcpNew ⟨[.string [49, 50, 55, 46, 48, 46, 48, 46, 49], .fixnum 5060], none⟩ {})] ++
    method ++ [.finish, .proceed, .proceed, .proceed, .proceed]

/-- The first socket was refused with ETIMEDOUT. -/
private def timedOut (w : World) : Bool :=
  w.trace.head? matches some (.started (.onConnectionError 0 (.uv 40)) .running)

private theorem refused_of_timedOut {w : World} (seen : timedOut w = true) :
    .started (.onConnectionError 0 (.uv Tcp.uvEtimedout)) .running ∈ w.trace := by
  unfold timedOut at seen
  split at seen
  · rename_i first
    exact List.mem_of_mem_head? first
  · cases seen

/-- Without any timer the operating system gives up the connection, and libuv reports ETIMEDOUT. -/
theorem timed_out_without_timer : ¬ ∀ l p, Path expiring l p → ∀ n t error s,
    p.1.world.tcps[n]? = some t → Plain t →
      .started (.onConnectionError n error) s ∈ p.1.world.trace →
        (error = .uv Tcp.uvEtimedout ↔ n ∈ p.2) := by
  intro exactly
  have reached : (expiring.exec (connecting [] ++ [.event (.connect 0 (some 40) {})])).any
      (fun p => decide (p.2 = []) && timedOut p.1.world &&
        p.1.world.tcps[0]?.any fun t => decide (t.ipType = .ipv4)) = true := by
    decide +kernel
  obtain ⟨l, p, path, last⟩ := exists_path_of_exec expiring _ _ reached
  obtain ⟨last, plain⟩ := (Bool.and_eq_true _ _).mp last
  obtain ⟨unset, seen⟩ := (Bool.and_eq_true _ _).mp last
  obtain ⟨t, socket, ipv4⟩ := (Option.any_eq_true _ _).mp plain
  have noted := (exactly l p path 0 t _ _ socket (.inl (of_decide_eq_true ipv4))
    (refused_of_timedOut seen)).mp rfl
  rw [of_decide_eq_true unset] at noted
  cases noted

/-- The timer of a socket expires, and libuv then fails its connect request. -/
theorem connect_timeout_expires : ∃ l p, Path expiring l p ∧ p.2 = [0] ∧
    timedOut p.1.world = true ∧
    Always (fun q => ∀ n t, q.1.world.tcps[n]? = some t → Plain t → Consistent q.1 q.2 n t) l p ∧
      Each (fun q a => ∀ c', engine.step q.1 a = some c' → ∀ n t,
        q.1.world.tcps[n]? = some t → Plain t → Careful q.1 q.2 a c' n t) l := by
  have reached : (expiring.exec (connecting [.call (.tcpSetConnectTimeout 0 (.fixnum 1) {})] ++ [
      .event (.connectTimeout 0 0), .event (.connect 0 (some 17) {})])).any
      (fun p => decide (p.2 = [0]) && timedOut p.1.world) = true := by
    decide +kernel
  obtain ⟨l, p, path, last⟩ := exists_path_of_exec expiring _ _ reached
  obtain ⟨noted, seen⟩ := (Bool.and_eq_true _ _).mp last
  exact ⟨l, p, path, of_decide_eq_true noted, seen, connect_timeout path⟩

end AsyncEngine.Engine.ConnectTimeout
