/- One TCPSocket in the engine: what can be seen of it, and how a step of the engine moves it. -/

import AsyncEngine.Engine.Steps

set_option autoImplicit false
set_option relaxedAutoImplicit false

namespace AsyncEngine.Engine.TcpMoves

open AsyncEngine.Lib.Run
open AsyncEngine.IpParser.Machine
open AsyncEngine.Engine.Ruby
open AsyncEngine.Engine.State
open AsyncEngine.Engine.Machine
open AsyncEngine.Engine.Effects
open AsyncEngine.Engine.Steps

inductive TcpCallback
  | connected
  | connectionError
  | dataReceived
  | disconnected
deriving DecidableEq

/-- What happens to a socket: a callback is started, `close` or `close_gracefully` returns true,
or a shutdown request is issued, on a handle that was closed or not. -/
inductive TcpEvent
  | callback (callback : TcpCallback)
  | returned
  | shutdown (closed : Bool)
deriving DecidableEq

def tcpEvent (n : Nat) : Event → Option TcpEvent
  | .started (.onConnected m) _ => if m = n then some (.callback .connected) else none
  | .started (.onConnectionError m _) _ =>
    if m = n then some (.callback .connectionError) else none
  | .started (.onDataReceived m _ _) _ => if m = n then some (.callback .dataReceived) else none
  | .started (.onDisconnected m _) _ => if m = n then some (.callback .disconnected) else none
  | .returned (.tcpClose m) (.value .true) => if m = n then some .returned else none
  | .returned (.tcpCloseGracefully m _ _) (.value .true) =>
    if m = n then some .returned else none
  | .shutdown m closed => if m = n then some (.shutdown closed) else none
  | _ => none

/-- The frames of the user code that runs and of the code that called `AE.run`. -/
def frames (c : Config) : List Frame :=
  (match c.ctl with
    | .code _ stack => stack
    | .back _ _ stack => stack
    | _ => []) ++ c.callers.flatMap (·.2)

/-- `TCPSocket#close` of the socket waits for `on_disconnected`. -/
def isClosing (n : Nat) : Frame → Bool
  | .closing m => m == n
  | _ => false

/-- What can be seen of a socket; the log is newest first. -/
structure TcpView where
  ae : AeStatus
  tcp : Option State.Tcp
  stored : Prop
  writes : List UvWrite
  log : List TcpEvent
  waiting : Bool

def viewOf (n : Nat) (w : World) (stack : List Frame) : TcpView where
  ae := w.status
  tcp := w.tcps[n]?
  stored := .tcp n ∈ w.handles
  writes := w.tcpWrites.filter (·.socket == n)
  log := w.trace.filterMap (tcpEvent n)
  waiting := stack.any (isClosing n)

def view (n : Nat) (c : Config) : TcpView := viewOf n c.world (frames c)

/-- The step is one that takes the socket out of `@_handles` to call its last callback. -/
def terminates (c : Config) (n : Nat) : Action → Prop
  | .event (.connect m (some _) _) => m = n
  | .event (.read m (.error _ _) _) => m = n
  | .event (.shutdown m _) => m = n ∧ ∃ t, c.world.tcps[n]? = some t ∧ t.uvHandle = true
  | .call (.tcpClose m) =>
    m = n ∧ ∃ t, c.world.tcps[n]? = some t ∧ t.uvHandle = true ∧ t.status = .connected
  | .proceed =>
    (∃ result base keys stack, c.ctl = .back result base (.release (.tcp n :: keys) :: stack)) ∧
      .tcp n ∈ c.world.handles ∧
      ∃ t, c.world.tcps[n]? = some t ∧ t.uvHandle = true ∧ t.status = .connected
  | _ => False

/-- How many of the pending shutdown requests of the socket the step completes. -/
def completes (n : Nat) : Action → Nat
  | .event (.shutdown m _) => if m = n then 1 else 0
  | _ => 0

/-- A step of the engine as the socket sees it. -/
inductive TcpMove (c : Config) (n : Nat) (a : Action) (v : TcpView) : TcpView → Prop
  | runs (stopped : v.ae = .stopped) : TcpMove c n a v { v with ae := .running }
  | releases (running : v.ae = .running) : TcpMove c n a v { v with ae := .releasing }
  | stops (idle : ∀ t, v.tcp = some t → t.uvConnect = false ∧ t.uvShutdowns = 0 ∧
        (t.uvInited = true → t.uvCloses ≠ 0) ∧ ∀ timer ∈ t.uvTimers, timer.closes ≠ 0)
      (unwritten : v.writes = []) : TcpMove c n a v { v with ae := .stopped }
  | fails (absent : v.tcp = none) (uvInited : Bool) : TcpMove c n a v
      { v with tcp := some { uvInited := uvInited, uvCloses := if uvInited then 1 else 0 } }
  | opens {args : Args} {uv : UvAnswers} {p : Tcp.NewArgs} (absent : v.tcp = none)
      (call : a = .call (.tcpNew args uv))
      (accepted : Tcp.newArgs c.world.status args = .ok p) (init : uv.init = 0) :
      TcpMove c n a v { v with
        tcp := some {
          uvInited := true, uvHandle := true, ipType := p.ipType,
          uvConnect := decide (p.ipType = .ipv4 ∨ p.ipType = .ipv6) }
        stored := True }
  | connects {t : State.Tcp} (socket : v.tcp = some t) (pending : t.uvConnect = true)
      (live : t.uvCloses = 0) (free : t.shutdownRequested = false) : TcpMove c n a v { v with
        tcp := some { Tcp.cancelTimerConnectTimeout { t with uvConnect := false } with
          uvReading := true, status := .connected }
        log := .callback .connected :: v.log }
  | connectsToShutdown {t : State.Tcp} (socket : v.tcp = some t) (pending : t.uvConnect = true)
      (live : t.uvCloses = 0) (requested : t.shutdownRequested = true) :
      TcpMove c n a v { v with
        tcp := some (let t := Tcp.cancelTimerConnectTimeout { t with uvConnect := false }
          { t with uvReading := false, uvShutdowns := t.uvShutdowns + 1, status := .connected })
        log := .callback .connected :: .shutdown false :: v.log }
  | failsToConnect {t : State.Tcp} (socket : v.tcp = some t) (pending : t.uvConnect = true)
      (terminal : terminates c n a) : TcpMove c n a v { v with
        tcp := some (let t := Tcp.cancelTimerConnectTimeout { t with uvConnect := false }
          if t.uvCloses ≠ 0 then t else Tcp.closeUvHandle t)
        stored := False, log := .callback .connectionError :: v.log }
  | receives {t : State.Tcp} (socket : v.tcp = some t) (reading : t.uvReading = true) :
      TcpMove c n a v { v with log := .callback .dataReceived :: v.log }
  | endsReading {t : State.Tcp} (socket : v.tcp = some t) (reading : t.uvReading = true)
      (opened : t.uvHandle = true) : TcpMove c n a v { v with
        tcp := some { t with
          uvReading := false, uvShutdowns := t.uvShutdowns + 1, eofReceived := true }
        log := .shutdown (decide (t.uvCloses ≠ 0)) :: v.log }
  | failsToRead {t : State.Tcp} (socket : v.tcp = some t) (reading : t.uvReading = true)
      (terminal : terminates c n a) (other : completes n a = 0) : TcpMove c n a v { v with
        tcp := some (Tcp.closeUvHandle t)
        stored := False, log := .callback .disconnected :: v.log }
  | writes {t : State.Tcp} {write : UvWrite} (socket : v.tcp = some t)
      (opened : t.uvHandle = true) : TcpMove c n a v { v with writes := v.writes ++ [write] }
  | written {writes : List UvWrite} (fewer : writes.Sublist v.writes) :
      TcpMove c n a v { v with writes := writes }
  | setsTimeout {t : State.Tcp} (socket : v.tcp = some t) (opened : t.uvHandle = true)
      (connecting : t.status = .connecting) (unset : t.timerConnectTimeout = none) :
      TcpMove c n a v { v with tcp := some { t with
        uvTimers := t.uvTimers ++ [{}], timerConnectTimeout := some t.uvTimers.length } }
  | failsToSetTimeout {t : State.Tcp} (socket : v.tcp = some t) (opened : t.uvHandle = true)
      (connecting : t.status = .connecting) (unset : t.timerConnectTimeout = none) :
      TcpMove c n a v { v with tcp := some { t with
        uvTimers := t.uvTimers ++ [{ active := false, closes := 1 }] } }
  | timesOut {t : State.Tcp} {k : Nat} {timer : UvTimer} (socket : v.tcp = some t)
      (fired : t.uvTimers[k]? = some timer) (active : timer.active = true)
      (opened : t.uvHandle = true) (set : t.timerConnectTimeout ≠ none) :
      TcpMove c n a v { v with
        tcp := some (Tcp.closeUvHandle { Tcp.cancelTimerConnectTimeout
          { t with uvTimers := t.uvTimers.set k { timer with active := false } } with
          connectTimeout := true }) }
  | closes {t : State.Tcp} (socket : v.tcp = some t) (opened : t.uvHandle = true)
      (connecting : t.status = .connecting) : TcpMove c n a v { v with
        tcp := some (Tcp.cancelTimerConnectTimeout (Tcp.closeUvHandle t))
        log := .returned :: v.log }
  | disconnects {t : State.Tcp} (socket : v.tcp = some t) (opened : t.uvHandle = true)
      (connected : t.status = .connected) (terminal : terminates c n a)
      (other : completes n a = 0) : TcpMove c n a v { v with
        tcp := some (Tcp.cancelTimerConnectTimeout (Tcp.closeUvHandle t))
        stored := False, log := .callback .disconnected :: v.log, waiting := true }
  | shutsDown {t : State.Tcp} {args : Args} {uv : UvAnswers} (socket : v.tcp = some t)
      (opened : t.uvHandle = true) (connected : t.status = .connected)
      (free : t.shutdownRequested = false) (call : a = .call (.tcpCloseGracefully n args uv))
      (few : args.argv.length ≤ 1) (answers : uv.readStop = 0 ∧ uv.shutdown = 0) :
      TcpMove c n a v { v with
        tcp := some { t with
          uvReading := false, uvShutdowns := t.uvShutdowns + 1, shutdownRequested := true }
        log := .returned :: .shutdown (decide (t.uvCloses ≠ 0)) :: v.log }
  | failsToShutDown {t : State.Tcp} (socket : v.tcp = some t) (opened : t.uvHandle = true)
      (connected : t.status = .connected) :
      TcpMove c n a v { v with tcp := some { t with uvReading := false } }
  | requestsShutdown {t : State.Tcp} (socket : v.tcp = some t) (opened : t.uvHandle = true)
      (connecting : t.status = .connecting) : TcpMove c n a v { v with
        tcp := some { t with shutdownRequested := true }, log := .returned :: v.log }
  | isShutDown {t : State.Tcp} (socket : v.tcp = some t) (pending : t.uvShutdowns ≠ 0)
      (opened : t.uvHandle = true) (live : t.uvCloses = 0) (terminal : terminates c n a) :
      TcpMove c n a v { v with
        tcp := some (Tcp.closeUvHandle { t with uvShutdowns := t.uvShutdowns - 1 })
        stored := False, log := .callback .disconnected :: v.log }
  | wasClosed {t : State.Tcp} (socket : v.tcp = some t) (pending : t.uvShutdowns ≠ 0)
      (closed : ¬ (t.uvHandle = true ∧ t.uvCloses = 0)) :
      TcpMove c n a v { v with tcp := some { t with uvShutdowns := t.uvShutdowns - 1 } }
  | destroys {t : State.Tcp} (socket : v.tcp = some t) (opened : t.uvHandle = true)
      (connecting : t.status = .connecting) (at_release : ∃ keys, .release keys ∈ frames c) :
      TcpMove c n a v { v with
        tcp := some { Tcp.cancelTimerConnectTimeout (Tcp.closeUvHandle t) with
          releasing := true } }
  | destroysConnected {t : State.Tcp} (socket : v.tcp = some t) (opened : t.uvHandle = true)
      (connected : t.status = .connected) (terminal : terminates c n a)
      (other : completes n a = 0) (at_release : ∃ keys, .release keys ∈ frames c) :
      TcpMove c n a v { v with
        tcp := some { Tcp.cancelTimerConnectTimeout (Tcp.closeUvHandle t) with releasing := true }
        stored := False, log := .callback .disconnected :: v.log }
  | returns {waiting : Bool} (closing : v.waiting = true) :
      TcpMove c n a v { v with log := .returned :: v.log, waiting := waiting }
  | unwinds {waiting : Bool} (closing : v.waiting = true) :
      TcpMove c n a v { v with waiting := waiting }

section Views

variable {n : Nat} {w : World} {stack : List Frame}

@[simp] theorem viewOf_push (e : Event) (silent : tcpEvent n e = none) :
    viewOf n (w.push e) stack = viewOf n w stack := by
  simp [viewOf, World.push, silent]

theorem viewOf_push_some {e : Event} {x : TcpEvent} (seen : tcpEvent n e = some x) :
    viewOf n (w.push e) stack =
      { viewOf n w stack with log := x :: (viewOf n w stack).log } := by
  simp [viewOf, World.push, seen]

theorem viewOf_setTcp_ne {m : Nat} (t : State.Tcp) (h : m ≠ n) :
    viewOf n (w.setTcp m t) stack = viewOf n w stack := by
  simp [viewOf, World.setTcp, h]

theorem viewOf_setTcp {t : State.Tcp} (t' : State.Tcp) (h : w.tcps[n]? = some t) :
    viewOf n (w.setTcp n t') stack = { viewOf n w stack with tcp := some t' } := by
  have bound : n < w.tcps.length := (List.getElem?_eq_some_iff.mp h).1
  simp [viewOf, World.setTcp, bound]

theorem viewOf_remove_ne {m : Nat} (h : m ≠ n) :
    viewOf n (aeRemoveHandle w (.tcp m)) stack = viewOf n w stack := by
  simp [viewOf, aeRemoveHandle, Ne.symm h]

theorem viewOf_remove :
    viewOf n (aeRemoveHandle w (.tcp n)) stack = { viewOf n w stack with stored := False } := by
  simp [viewOf, aeRemoveHandle]

end Views

section Frames

variable {n : Nat} {w w' : World} {stack : List Frame}

private theorem viewOf_kept {events : List Event} {handles : List Handle}
    (kept : .tcp n ∈ handles ↔ .tcp n ∈ w.handles) (silent : ∀ e ∈ events, tcpEvent n e = none)
    (status : w'.status = w.status) (tcps : w'.tcps = w.tcps)
    (writes : w'.tcpWrites = w.tcpWrites) (stored : w'.handles = handles)
    (trace : w'.trace = events ++ w.trace) : viewOf n w' stack = viewOf n w stack := by
  have quiet : events.filterMap (tcpEvent n) = [] := List.filterMap_eq_nil_iff.mpr silent
  simp [viewOf, status, tcps, writes, stored, trace, kept, quiet]

theorem timerFrame_view (h : TimerFrame w w') : viewOf n w' stack = viewOf n w stack := by
  obtain ⟨timers, handles, events, fault, rfl, kept, own⟩ := h
  refine viewOf_kept (kept.1 _ id) ?_ rfl rfl rfl rfl rfl
  intro e he
  obtain ⟨m, rfl⟩ := own e he
  rfl

theorem udpFrame_view (h : UdpFrame w w') : viewOf n w' stack = viewOf n w stack := by
  obtain ⟨udps, handles, recvData, events, fault, rfl, kept, own⟩ := h
  refine viewOf_kept (kept.1 _ id) ?_ rfl rfl rfl rfl rfl
  intro e he
  rcases own e he with ⟨m, rfl⟩ | ⟨x, y, rfl⟩ | rfl
  · rfl
  · rfl
  · rfl

theorem procFrame_view (h : ProcFrame w w') : viewOf n w' stack = viewOf n w stack := by
  obtain ⟨_, _, _, _, events, _, rfl, -, own⟩ := h
  refine viewOf_kept Iff.rfl ?_ rfl rfl rfl rfl rfl
  intro e he
  rcases own e he with ⟨x, y, rfl⟩ | ⟨id, proc, rfl⟩ | ⟨id, error, s, rfl⟩
  · rfl
  · rfl
  · rfl

theorem queueFrame_view (h : QueueFrame w w') : viewOf n w' stack = viewOf n w stack := by
  obtain ⟨_, _, _, _, _, _, _, rfl, -⟩ := h
  rfl

end Frames

/-- The step does nothing to the socket, or it is one of its moves. -/
def Sees (c : Config) (n : Nat) (a : Action) (v v' : TcpView) : Prop :=
  v' = v ∨ TcpMove c n a v v'

section Methods

variable {c : Config} {n m : Nat} {a : Action} {w : World} {stack : List Frame} {t : State.Tcp}

private theorem viewOf_returned {call : Call} {q : Return}
    (silent : tcpEvent n (.returned call q) = none) :
    viewOf n (w.push (.returned call q)) stack = viewOf n w stack :=
  viewOf_push _ silent

private theorem shutdown_event {closed : Bool} :
    tcpEvent n (.shutdown n closed) = some (.shutdown closed) := by
  simp [tcpEvent]

private theorem viewOf_append_ne {t : State.Tcp} (h : w.tcps.length ≠ n) :
    viewOf n { w with tcps := w.tcps ++ [t] } stack = viewOf n w stack := by
  have same : (w.tcps ++ [t])[n]? = w.tcps[n]? := by
    rcases Nat.lt_or_gt_of_ne h with short | long
    · rw [List.getElem?_eq_none (by simp; omega), List.getElem?_eq_none (by omega)]
    · exact List.getElem?_append_left long
  simp [viewOf, same]

private theorem viewOf_append {t : State.Tcp} :
    viewOf w.tcps.length { w with tcps := w.tcps ++ [t] } stack =
      { viewOf w.tcps.length w stack with tcp := some t } := by
  simp [viewOf]

private theorem viewOf_store_ne (h : m ≠ n) :
    viewOf n (aeStoreHandle w (.tcp m)) stack = viewOf n w stack := by
  have member : Handle.tcp n ∈ (if .tcp m ∈ w.handles then w.handles else w.handles ++ [.tcp m]) ↔
      Handle.tcp n ∈ w.handles := by
    split
    · exact Iff.rfl
    · simp [Ne.symm h]
  unfold aeStoreHandle
  rw [viewOf_push _ rfl]
  simp [viewOf, member]

private theorem viewOf_store :
    viewOf n (aeStoreHandle w (.tcp n)) stack = { viewOf n w stack with stored := True } := by
  have member :
      Handle.tcp n ∈ (if .tcp n ∈ w.handles then w.handles else w.handles ++ [.tcp n]) := by
    split
    · assumption
    · simp
  unfold aeStoreHandle
  rw [viewOf_push _ rfl]
  simp [viewOf, member]

private theorem viewOf_switched (x : List Int) (y : Int) :
    viewOf n (w.push (.switched x y)) stack = viewOf n w stack :=
  viewOf_push _ rfl

theorem ipPort_view (address : List UInt8) (ipType : IpType) :
    viewOf n (aeIpUtilsGetIpPort w address ipType).1 stack = viewOf n w stack := by
  cases ipType with
  | ipv4 => rfl
  | ipv6 => rfl
  | ipv6Reference => exact viewOf_push _ rfl
  | noIp => exact viewOf_push _ rfl

/-- A fresh instance, of which the constructor has stored nothing. -/
private theorem fails_view (uvInited : Bool) :
    Sees c n a (viewOf n w stack) (viewOf n { w with tcps := w.tcps ++
      [{ uvInited := uvInited, uvCloses := if uvInited then 1 else 0 }] } stack) := by
  by_cases h : w.tcps.length = n
  · subst h
    rw [viewOf_append]
    exact .inr (.fails (by simp [viewOf]) uvInited)
  · exact .inl (viewOf_append_ne h)

private theorem opens_view {args : Args} {uv : UvAnswers} {p : Tcp.NewArgs}
    (accepted : Tcp.newArgs c.world.status args = .ok p) (init : uv.init = 0) :
    Sees c n (.call (.tcpNew args uv)) (viewOf n w stack)
      (viewOf n (aeStoreHandle { w with tcps := w.tcps ++
        [{ uvInited := true, uvHandle := true, ipType := p.ipType,
           uvConnect := decide (p.ipType = .ipv4 ∨ p.ipType = .ipv6) }] }
        (.tcp w.tcps.length)) stack) := by
  by_cases h : w.tcps.length = n
  · subst h
    rw [viewOf_store, viewOf_append]
    exact .inr (.opens (by simp [viewOf]) rfl accepted init)
  · rw [viewOf_store_ne h]
    exact .inl (viewOf_append_ne h)

private theorem tcpInit_view {args : Args} {p : Tcp.NewArgs} (uv : UvAnswers)
    (accepted : Tcp.newArgs c.world.status args = .ok p) :
    Sees c n (.call (.tcpNew args uv)) (viewOf n w stack)
      (viewOf n (Tcp.initInstance w p uv).1 stack) := by
  have connected : ∀ {v : World} {before : Int},
      viewOf n v stack = viewOf n w stack → v.tcps.length = w.tcps.length → uv.init = 0 →
      (switchIpType p.ipType uv.connect before).2 = 0 →
      Sees c n (.call (.tcpNew args uv)) (viewOf n w stack)
        (viewOf n (aeStoreHandle { v with tcps := v.tcps ++
          [{ uvInited := true
             uvConnect := decide ((switchIpType p.ipType uv.connect before).1 = [0])
             uvHandle := true, ipType := p.ipType, status := .connecting, encoding := .ascii }] }
          (.tcp w.tcps.length)) stack) := by
    intro v before same length init ok
    rw [← same, ← length]
    have pending : decide ((switchIpType p.ipType uv.connect before).1 = [0]) =
        decide (p.ipType = .ipv4 ∨ p.ipType = .ipv6) := by
      cases h : p.ipType <;> rw [h] at ok <;> simp [switchIpType] at ok ⊢ <;> exact ok
    rw [pending]
    exact opens_view accepted init
  have switched : ∀ (v : World) (x : List Int) (y : Int),
      viewOf n (v.push (.switched x y)) stack = viewOf n v stack :=
    fun _ => viewOf_switched
  unfold Tcp.initInstance
  dsimp only
  split
  · exact fails_view false
  · rename_i init
    replace init := not_not.mp init
    cases p.bindIp with
    | none =>
      simp only [Option.map_none, Option.isSome_none, Bool.false_eq_true, false_and, if_false]
      split
      · rw [← switched w]
        exact fails_view true
      · rename_i ok
        exact connected (viewOf_switched _ _) rfl init (not_not.mp ok)
    | some ip =>
      simp only [Option.map_some, Option.isSome_some, true_and]
      split
      · rw [← switched w]
        exact fails_view true
      · split
        · rw [← switched w, ← switched]
          exact fails_view true
        · rename_i ok
          exact connected ((viewOf_switched _ _).trans (viewOf_switched _ _)) rfl init
            (not_not.mp ok)

theorem tcpNew_view (args : Args) (uv : UvAnswers) :
    Sees c n (.call (.tcpNew args uv)) (viewOf n c.world stack)
      (viewOf n (Tcp.new c.world args uv).1 stack) :=
  checked_cases (P := fun r => Sees c n (.call (.tcpNew args uv)) (viewOf n c.world stack)
      (viewOf n r.1 stack))
    (fun _ _ => .inl rfl) fun _ h => tcpInit_view uv h

private theorem write_view {data : List UInt8} {block : Option WriteBlock}
    (socket : w.tcps[m]? = some t) (opened : t.uvHandle = true) :
    Sees c n a (viewOf n w stack)
      (viewOf n { w with tcpWrites := w.tcpWrites ++ [⟨m, data, block⟩] } stack) := by
  by_cases h : m = n
  · subst h
    refine .inr ?_
    have grown : viewOf m { w with tcpWrites := w.tcpWrites ++ [⟨m, data, block⟩] } stack =
        { viewOf m w stack with writes := (viewOf m w stack).writes ++ [⟨m, data, block⟩] } := by
      simp [viewOf]
    rw [grown]
    exact .writes socket opened
  · exact .inl (by simp [viewOf, h])

theorem sendData_view (args : Args) (uv : UvAnswers) (socket : w.tcps[m]? = some t) :
    Sees c n a (viewOf n w stack) (viewOf n (Tcp.sendData w m t args uv).1 stack) := by
  refine checked_cases (P := fun r => Sees c n a (viewOf n w stack) (viewOf n r.1 stack))
    (fun _ _ => .inl rfl) fun p h => ?_
  have opened : t.uvHandle = true := by
    obtain ⟨_, _, h⟩ := of_bind h
    obtain ⟨_, opened, _⟩ := of_bind h
    exact open_of_check opened
  dsimp only
  split
  · split
    · exact .inl rfl
    · exact write_view socket opened
  · split
    · exact .inl rfl
    · rename_i proc _ _
      have same : viewOf n (({ w with
          nextAddress := w.nextAddress + 1, registered := w.registered ++ [w.nextAddress]
          }).push (.accepted (.block w.nextAddress) proc)) stack = viewOf n w stack :=
        viewOf_push _ rfl
      rw [← same]
      exact write_view socket opened

theorem tcpLocalAddress_view (uv : UvAnswers) :
    viewOf n (Tcp.localAddress w t uv).1 stack = viewOf n w stack := by
  refine checked_cases (P := fun r => viewOf n r.1 stack = viewOf n w stack)
    (fun _ _ => rfl) fun _ _ => ?_
  split
  · rfl
  · exact ipPort_view _ _

theorem tcpPeerAddress_view (uv : UvAnswers) :
    viewOf n (Tcp.peerAddress w t uv).1 stack = viewOf n w stack := by
  refine checked_cases (P := fun r => viewOf n r.1 stack = viewOf n w stack)
    (fun _ _ => rfl) fun _ _ => ?_
  split
  · rfl
  · split
    · rfl
    · exact ipPort_view _ _

private theorem setTcp_sees {t' : State.Tcp} (socket : w.tcps[m]? = some t)
    (own : m = n → TcpMove c n a (viewOf n w stack) { viewOf n w stack with tcp := some t' }) :
    Sees c n a (viewOf n w stack) (viewOf n (w.setTcp m t') stack) := by
  by_cases h : m = n
  · subst h
    rw [viewOf_setTcp t' socket]
    exact .inr (own rfl)
  · exact .inl (viewOf_setTcp_ne t' h)

theorem cancel_fresh {active : Bool} (unset : t.timerConnectTimeout = none) :
    Tcp.cancelTimerConnectTimeout { t with
        uvTimers := t.uvTimers ++ [{ active := active }]
        timerConnectTimeout := some t.uvTimers.length } =
      { t with uvTimers := t.uvTimers ++ [{ active := false, closes := 1 }] } := by
  simp [Tcp.cancelTimerConnectTimeout, unset, List.modify_eq_set_getElem?]

theorem timeoutCheck_spec {timeout : Value} {delay : Int} (h : (do
      checkUvHandleIsOpen t.uvHandle
      if t.status = .connected ∨ t.timerConnectTimeout.isSome then .error (.value .nil)
      else delayOf (some timeout) : Check Int) = .ok delay) :
    t.uvHandle = true ∧ t.status = .connecting ∧ t.timerConnectTimeout = none := by
  obtain ⟨_, opened, h⟩ := of_bind h
  refine ⟨open_of_check opened, ?_⟩
  split at h
  · cases h
  · rename_i neither
    cases hs : t.status <;> cases ht : t.timerConnectTimeout <;> simp_all

theorem setConnectTimeout_view (timeout : Value) (uv : UvAnswers)
    (socket : w.tcps[m]? = some t) : Sees c n a (viewOf n w stack)
      (viewOf n (Tcp.setConnectTimeout w m t timeout uv).1 stack) := by
  refine checked_cases (P := fun r => Sees c n a (viewOf n w stack) (viewOf n r.1 stack))
    (fun _ _ => .inl rfl) fun p h => ?_
  obtain ⟨opened, connecting, unset⟩ := timeoutCheck_spec h
  dsimp only
  split
  · rename_i failed
    refine setTcp_sees socket fun own => ?_
    subst own
    rw [cancel_fresh unset]
    exact .failsToSetTimeout socket opened connecting unset
  · rename_i started
    refine setTcp_sees socket fun own => ?_
    subst own
    rw [not_not.mp started]
    exact .setsTimeout socket opened connecting unset

private theorem returned_sees {call : Call} {v : World} {q : Return}
    (h : Sees c n a (viewOf n w stack) (viewOf n v stack))
    (silent : tcpEvent n (.returned call q) = none) :
    Sees c n a (viewOf n w stack) (viewOf n (v.push (.returned call q)) stack) := by
  rw [viewOf_returned silent]
  exact h

theorem tcpClose_view {v : World} {q : Return} (socket : w.tcps[m]? = some t)
    (h : Tcp.close w m t = (v, .ends q)) :
    Sees c n a (viewOf n w stack) (viewOf n (v.push (.returned (.tcpClose m) q)) stack) := by
  unfold Tcp.close checked at h
  cases opened : t.uvHandle with
  | false =>
    simp only [opened, checkUvHandleIsOpen, Bool.false_eq_true, if_false, Prod.mk.injEq,
      Outcome.ends.injEq] at h
    obtain ⟨rfl, rfl⟩ := h
    exact .inl (viewOf_returned rfl)
  | true =>
    by_cases connected : t.status = .connected
    · simp [opened, checkUvHandleIsOpen, connected, pure, Except.pure] at h
    · simp only [opened, checkUvHandleIsOpen, if_true, pure, Except.pure, if_neg connected,
        Prod.mk.injEq, Outcome.ends.injEq] at h
      obtain ⟨rfl, rfl⟩ := h
      have connecting : t.status = .connecting := by
        cases hs : t.status
        · rfl
        · exact absurd hs connected
      by_cases own : m = n
      · subst own
        rw [viewOf_push_some (x := .returned) (by simp [tcpEvent]), viewOf_setTcp _ socket]
        exact .inr (.closes socket opened connecting)
      · rw [viewOf_returned (by simp [tcpEvent, own]), viewOf_setTcp_ne _ own]
        exact .inl rfl

def gracefulCheck (t : State.Tcp) (args : Args) : Check Unit := do
  checkUvHandleIsOpen t.uvHandle
  checkNumArgs args 0 1
  if t.shutdownRequested then .error (.value .false) else pure ()

theorem gracefulCheck_spec {args : Args} {u : Unit} (h : gracefulCheck t args = .ok u) :
    t.uvHandle = true ∧ args.argv.length ≤ 1 ∧ t.shutdownRequested = false := by
  obtain ⟨_, opened, h⟩ := of_bind h
  obtain ⟨_, few, h⟩ := of_bind h
  refine ⟨open_of_check opened, ?_, ?_⟩
  · unfold checkNumArgs at few
    split at few
    · cases few
    · omega
  · split at h
    · cases h
    · rename_i free
      exact Bool.eq_false_iff.mpr free

private theorem gracefulCheck_error {args : Args} {q : Return}
    (h : gracefulCheck t args = .error q) : q ≠ .value .true := by
  cases opened : t.uvHandle
  · rw [gracefulCheck, opened] at h
    cases h
    simp
  · by_cases few : args.argv.length ≤ 1
    · cases requested : t.shutdownRequested <;>
        simp [gracefulCheck, opened, requested, checkUvHandleIsOpen, checkNumArgs,
          Nat.not_lt.mpr few, bind, Except.bind, pure, Except.pure] at h
      simp [← h]
    · have many : args.argv.length < 0 ∨ args.argv.length > 1 := .inr (Nat.lt_of_not_le few)
      simp only [gracefulCheck, opened, checkUvHandleIsOpen, checkNumArgs, if_pos many, bind,
        Except.bind, if_true, pure, Except.pure, rbRaise, Except.error.injEq] at h
      simp [← h]

theorem closeGracefully_view {args : Args} {uv : UvAnswers} {v : World} {q : Return}
    (socket : w.tcps[m]? = some t) (h : Tcp.closeGracefully w m t args uv = (v, .ends q)) :
    Sees c n (.call (.tcpCloseGracefully m args uv)) (viewOf n w stack)
      (viewOf n (v.push (.returned (.tcpCloseGracefully m args uv) q)) stack) := by
  have quiet : ∀ {q' : Return}, q' ≠ .value .true →
      tcpEvent n (.returned (.tcpCloseGracefully m args uv) q') = none := by
    intro q' other
    unfold tcpEvent
    split <;> simp_all
  change checked w (gracefulCheck t args) _ = _ at h
  unfold checked at h
  cases check : gracefulCheck t args with
  | error q' =>
    rw [check] at h
    obtain ⟨rfl, hq⟩ := Prod.mk.inj h
    cases hq
    exact .inl (viewOf_returned (quiet (gracefulCheck_error check)))
  | ok u =>
    obtain ⟨opened, few, free⟩ := gracefulCheck_spec check
    rw [check] at h
    dsimp only at h
    split at h
    · rename_i connected
      split at h
      · obtain ⟨rfl, hq⟩ := Prod.mk.inj h
        cases hq
        exact .inl (viewOf_returned rfl)
      · rename_i readStop
        split at h
        · obtain ⟨rfl, hq⟩ := Prod.mk.inj h
          cases hq
          refine returned_sees (setTcp_sees socket fun own => ?_) rfl
          subst own
          exact .failsToShutDown socket opened connected
        · rename_i shutdown
          obtain ⟨rfl, hq⟩ := Prod.mk.inj h
          cases hq
          by_cases own : m = n
          · subst own
            rw [viewOf_push_some (x := .returned) (by simp [tcpEvent]),
              viewOf_setTcp _ (show (w.push _).tcps[m]? = some t from socket),
              viewOf_push_some shutdown_event]
            exact .inr (.shutsDown socket opened connected free rfl few
              ⟨not_not.mp readStop, not_not.mp shutdown⟩)
          · rw [viewOf_returned (by simp [tcpEvent, own]), viewOf_setTcp_ne _ own,
              viewOf_push _ (by simp [tcpEvent, own])]
            exact .inl rfl
    · rename_i unconnected
      obtain ⟨rfl, hq⟩ := Prod.mk.inj h
      cases hq
      have connecting : t.status = .connecting := by
        cases hs : t.status
        · rfl
        · exact absurd hs unconnected
      by_cases own : m = n
      · subst own
        rw [viewOf_push_some (x := .returned) (by simp [tcpEvent]), viewOf_setTcp _ socket]
        exact .inr (.requestsShutdown socket opened connecting)
      · rw [viewOf_returned (by simp [tcpEvent, own]), viewOf_setTcp_ne _ own]
        exact .inl rfl

theorem tcpDestroy_view {v : World} {q : Return} (socket : w.tcps[m]? = some t)
    (at_release : ∃ keys, .release keys ∈ frames c) (h : Tcp.destroy w m t = (v, .ends q)) :
    Sees c n a (viewOf n w stack) (viewOf n v stack) := by
  unfold Tcp.destroy checked at h
  cases opened : t.uvHandle with
  | false =>
    simp only [opened, checkUvHandleIsOpen, Bool.false_eq_true, if_false, Prod.mk.injEq] at h
    obtain ⟨rfl, -⟩ := h
    exact .inl rfl
  | true =>
    have kept := destroyed_status t
    by_cases connected : t.status = .connected
    · simp [opened, checkUvHandleIsOpen, kept, connected, pure, Except.pure] at h
    · simp only [opened, checkUvHandleIsOpen, if_true, pure, Except.pure] at h
      rw [if_neg (kept ▸ connected)] at h
      obtain ⟨rfl, -⟩ := Prod.mk.inj h
      have connecting : t.status = .connecting := by
        cases hs : t.status
        · rfl
        · exact absurd hs connected
      refine setTcp_sees socket fun own => ?_
      subst own
      exact .destroys socket opened connecting at_release

/-- The world in which the callback of libuv leaves the thread. -/
def startedBy : World × Option Callback → World
  | (w, none) => w
  | (w, some callback) => w.start callback

private theorem live_of_mayEnd {closes : Nat} (h : mayEnd closes (none : Option Int) = true) :
    closes = 0 := by
  simpa [mayEnd] using h

private theorem cancel_frame (t : State.Tcp) :
    (Tcp.cancelTimerConnectTimeout t).shutdownRequested = t.shutdownRequested ∧
      (Tcp.cancelTimerConnectTimeout t).uvCloses = t.uvCloses := by
  obtain ⟨uvTimers, timer, kept⟩ := cancel_keeps t
  rw [kept]
  exact ⟨rfl, rfl⟩

theorem uvConnectCallback_view {error : Option Int} {uv : UvAnswers}
    (socket : w.tcps[m]? = some t) (pending : t.uvConnect = true)
    (may : mayEnd t.uvCloses error = true) :
    Sees c n (.event (.connect m error uv)) (viewOf n w stack)
      (viewOf n (startedBy (Tcp.uvConnectCallback w m t error uv)) stack) := by
  obtain ⟨requested, closes⟩ := cancel_frame { t with uvConnect := false }
  unfold Tcp.uvConnectCallback
  dsimp only
  cases error with
  | none =>
    have live := live_of_mayEnd may
    dsimp only
    split
    · rename_i later
      split
      · exact .inl rfl
      · split
        · exact .inl rfl
        · by_cases own : m = n
          · subst own
            refine .inr ?_
            rw [startedBy, World.start,
              viewOf_push_some (x := .callback .connected) (by simp [tcpEvent]),
              viewOf_setTcp _ (show (w.push _).tcps[m]? = some t from socket),
              viewOf_push_some shutdown_event]
            rw [decide_eq_false (not_not.mpr (closes.trans live))]
            exact .connectsToShutdown socket pending live (requested ▸ later)
          · refine .inl ?_
            rw [startedBy, World.start, viewOf_push _ (by simp [tcpEvent, own]),
              viewOf_setTcp_ne _ own, viewOf_push _ (by simp [tcpEvent, own])]
    · rename_i free
      split
      · exact .inl rfl
      · by_cases own : m = n
        · subst own
          refine .inr ?_
          rw [startedBy, World.start,
            viewOf_push_some (x := .callback .connected) (by simp [tcpEvent]),
            viewOf_setTcp _ socket]
          exact .connects socket pending live (requested ▸ Bool.eq_false_iff.mpr free)
        · refine .inl ?_
          rw [startedBy, World.start, viewOf_push _ (by simp [tcpEvent, own]),
            viewOf_setTcp_ne _ own]
  | some errno =>
    dsimp only
    by_cases own : m = n
    · subst own
      refine .inr ?_
      rw [startedBy, World.start,
        viewOf_push_some (x := .callback .connectionError) (by simp [tcpEvent]), viewOf_remove,
        viewOf_setTcp _ socket]
      exact .failsToConnect socket pending rfl
    · refine .inl ?_
      rw [startedBy, World.start, viewOf_push _ (by simp [tcpEvent, own]), viewOf_remove_ne own,
        viewOf_setTcp_ne _ own]

theorem uvReadCallback_view {read : Tcp.Read} {uv : UvAnswers} (socket : w.tcps[m]? = some t)
    (reading : t.uvReading = true) :
    Sees c n (.event (.read m read uv)) (viewOf n w stack)
      (viewOf n (startedBy (Tcp.uvReadCallback w m t read uv)) stack) := by
  cases read with
  | nothing => exact .inl rfl
  | data bytes =>
    unfold Tcp.uvReadCallback
    cases t.paused with
    | true => exact .inl rfl
    | false =>
      by_cases own : m = n
      · subst own
        refine .inr ?_
        change TcpMove c m _ _ (viewOf m (w.push (.started (.onDataReceived m bytes _) _)) stack)
        rw [viewOf_push_some (x := .callback .dataReceived) (by simp [tcpEvent])]
        exact .receives socket reading
      · exact .inl (viewOf_push _ (by simp [tcpEvent, own]))
  | eof =>
    dsimp only [Tcp.uvReadCallback]
    split
    · exact .inl rfl
    · rename_i opened
      split
      · exact .inl rfl
      · by_cases own : m = n
        · subst own
          refine .inr ?_
          rw [startedBy, viewOf_setTcp _ (show (w.push _).tcps[m]? = some t from socket),
            viewOf_push_some shutdown_event]
          exact .endsReading socket reading (not_not.mp opened)
        · refine .inl ?_
          rw [startedBy, viewOf_setTcp_ne _ own, viewOf_push _ (by simp [tcpEvent, own])]
  | error errno =>
    dsimp only [Tcp.uvReadCallback]
    by_cases own : m = n
    · subst own
      refine .inr ?_
      rw [startedBy, World.start,
        viewOf_push_some (x := .callback .disconnected) (by simp [tcpEvent]), viewOf_remove,
        viewOf_setTcp _ socket]
      exact .failsToRead socket reading rfl rfl
    · refine .inl ?_
      rw [startedBy, World.start, viewOf_push _ (by simp [tcpEvent, own]), viewOf_remove_ne own,
        viewOf_setTcp_ne _ own]

theorem uvShutdownCallback_view {error : Option Int} (socket : c.world.tcps[m]? = some t)
    (pending : t.uvShutdowns ≠ 0) :
    Sees c n (.event (.shutdown m error)) (viewOf n c.world stack)
      (viewOf n (startedBy (Tcp.uvShutdownCallback c.world m
        { t with uvShutdowns := t.uvShutdowns - 1 })) stack) := by
  unfold Tcp.uvShutdownCallback
  dsimp only
  split
  · rename_i live
    by_cases own : m = n
    · subst own
      refine .inr ?_
      rw [startedBy, World.start,
        viewOf_push_some (x := .callback .disconnected) (by simp [tcpEvent]), viewOf_remove,
        viewOf_setTcp _ socket]
      exact .isShutDown socket pending live.1 live.2 ⟨rfl, t, socket, live.1⟩
    · refine .inl ?_
      rw [startedBy, World.start, viewOf_push _ (by simp [tcpEvent, own]), viewOf_remove_ne own,
        viewOf_setTcp_ne _ own]
  · rename_i closed
    refine setTcp_sees socket fun own => ?_
    subst own
    exact .wasClosed socket pending closed

theorem uvTimerConnectTimeoutCallback_view {k : Nat} {timer : UvTimer}
    (socket : w.tcps[m]? = some t) (fired : t.uvTimers[k]? = some timer)
    (active : timer.active = true) : Sees c n a (viewOf n w stack)
      (viewOf n (Tcp.uvTimerConnectTimeoutCallback w m
        { t with uvTimers := t.uvTimers.set k { timer with active := false } }) stack) := by
  unfold Tcp.uvTimerConnectTimeoutCallback
  dsimp only
  split
  · exact .inl rfl
  · rename_i set
    split
    · exact .inl rfl
    · rename_i opened
      refine setTcp_sees socket fun own => ?_
      subst own
      refine .timesOut socket fired active (not_not.mp opened) ?_
      intro unset
      rw [unset] at set
      exact set rfl

theorem uvWriteCallback_view {k : Nat} {write : UvWrite} {error : Option RubyError} :
    Sees c n a (viewOf n w stack) (viewOf n (startedBy (Tcp.uvWriteCallback
      { w with tcpWrites := w.tcpWrites.eraseIdx k } t write error)) stack) := by
  have erased : viewOf n { w with tcpWrites := w.tcpWrites.eraseIdx k } stack =
      { viewOf n w stack with writes := (w.tcpWrites.eraseIdx k).filter (·.socket == n) } := rfl
  have fewer : ((w.tcpWrites.eraseIdx k).filter (·.socket == n)).Sublist
      (viewOf n w stack).writes :=
    (List.eraseIdx_sublist _ _).filter _
  have seen : viewOf n (startedBy (Tcp.uvWriteCallback
      { w with tcpWrites := w.tcpWrites.eraseIdx k } t write error)) stack =
      viewOf n { w with tcpWrites := w.tcpWrites.eraseIdx k } stack := by
    unfold Tcp.uvWriteCallback
    split
    · rfl
    · cases t.releasing <;> rfl
  rw [seen, erased]
  exact .inr (.written fewer)

private theorem startedBy_view {r : World × Option Callback}
    (frame : viewOf n r.1 stack = viewOf n w stack)
    (silent : ∀ callback, r.2 = some callback → ∀ s, tcpEvent n (.started callback s) = none) :
    Sees c n a (viewOf n w stack) (viewOf n (startedBy r) stack) := by
  obtain ⟨v, callback⟩ := r
  cases callback with
  | none => exact .inl frame
  | some callback => exact .inl ((viewOf_push _ (silent callback rfl _)).trans frame)

private theorem uvRecv_silent {u : State.Udp} {received : Option (List UInt8 × List UInt8)}
    {callback : Callback} (found : w.udps[m]? = some u)
    (h : (Udp.uvRecvCallback w m u received).2 = some callback)
    (s : AeStatus) : tcpEvent n (.started callback s) = none := by
  obtain ⟨recvData, ⟨dropped, -⟩ | ⟨b, bytes, source, -, -, -, called⟩⟩ :=
    uvRecvCallback_cases found received
  · rw [dropped] at h
    cases h
  · rw [called] at h
    obtain rfl := Option.some.inj h
    rfl

private theorem uvSend_silent {send : UdpSend} {error : Option RubyError} {callback : Callback}
    (h : (Udp.uvSendCallback w send error).2 = some callback) (s : AeStatus) :
    tcpEvent n (.started callback s) = none := by
  rcases uvSendCallback_cases w send error with unasked | ⟨id, -, called⟩
  · rw [unasked] at h
    cases h
  · obtain ⟨-, proc, rfl⟩ := called _ h
    rfl

private theorem uvGetaddrinfo_silent {procId : Nat}
    {result : Except RubyError (List (List UInt8))} {callback : Callback}
    (h : (Procs.uvGetaddrinfoCallback w procId result).2 = some callback) (s : AeStatus) :
    tcpEvent n (.started callback s) = none := by
  obtain ⟨-, proc, rfl⟩ := (uvGetaddrinfoCallback_completes w procId result).callback _ h
  rfl

private theorem uvTimerCallback_view (t : State.Timer) :
    viewOf n (Timer.uvTimerCallback (w.setTimer m t) m t).1 stack = viewOf n w stack :=
  timerFrame_view (uvTimerCallback_frame w m t)

theorem uvCallback_view {event : UvEvent} {r : World × Option Callback}
    (h : uvCallback c.world event = some r) :
    Sees c n (.event event) (viewOf n c.world stack) (viewOf n (startedBy r) stack) := by
  cases uvCallback_inv h with
  | ubf sent =>
    refine startedBy_view rfl ?_
    intro callback hc s
    split at hc
    · obtain rfl := Option.some.inj hc
      rfl
    · cases hc
  | timer found active =>
    refine startedBy_view (uvTimerCallback_view _) ?_
    intro callback hc s
    obtain rfl := Option.some.inj hc
    rfl
  | recv found receiving =>
    exact startedBy_view (udpFrame_view (uvRecvCallback_frame found _))
      fun _ hc => uvRecv_silent found hc
  | sent found socket may =>
    exact startedBy_view (procFrame_view (uvSendCallback_frame _ _ _ _))
      fun _ hc => uvSend_silent hc
  | resolved found =>
    exact startedBy_view (procFrame_view (uvGetaddrinfoCallback_frame _ _ _ _))
      fun _ hc => uvGetaddrinfo_silent hc
  | connect socket pending may => exact uvConnectCallback_view socket pending may
  | read socket reading => exact uvReadCallback_view socket reading
  | write found socket may => exact uvWriteCallback_view
  | shutdown socket pending may => exact uvShutdownCallback_view socket pending
  | connectTimeout socket fired active =>
    exact uvTimerConnectTimeoutCallback_view socket fired active

/-- A call that ends by itself. -/
theorem dispatch_view {call : Call} {v : World} {q : Return}
    (h : dispatch c.world call = some (v, .ends q)) :
    Sees c n (.call call) (viewOf n c.world stack)
      (viewOf n (v.push (.returned call q)) stack) := by
  have quiet {r : World × Outcome} (same : viewOf n r.1 stack = viewOf n c.world stack)
      (h : some r = some (v, .ends q)) (silent : tcpEvent n (.returned call q) = none) :
      Sees c n (.call call) (viewOf n c.world stack)
        (viewOf n (v.push (.returned call q)) stack) := by
    obtain rfl := Option.some.inj h
    exact .inl ((viewOf_returned silent).trans same)
  have quietMap {α : Type} {o : Option α} {f : α → World × Outcome}
      (same : ∀ x, viewOf n (f x).1 stack = viewOf n c.world stack)
      (h : o.map f = some (v, .ends q)) (silent : tcpEvent n (.returned call q) = none) :
      Sees c n (.call call) (viewOf n c.world stack)
        (viewOf n (v.push (.returned call q)) stack) := by
    obtain ⟨x, -, hx⟩ := Option.map_eq_some_iff.mp h
    exact quiet (same x) (congrArg some hx) silent
  cases call with
  | run args uv => cases h
  | stop => exact quiet (queueFrame_view (stop_effect _).1) h rfl
  | nextTick args => exact quiet (queueFrame_view (nextTick_effect _ args).1) h rfl
  | callFromOtherThread args =>
    exact quiet (queueFrame_view (callFromOtherThread_effect _ args).1) h rfl
  | onError args => exact quiet (queueFrame_view (onError_effect _ args).1) h rfl
  | unsetOnError => exact quiet (queueFrame_view (unsetOnError_effect _).1) h rfl
  | onExit args => exact quiet (queueFrame_view (onExit_effect _ args).1) h rfl
  | unsetOnExit => exact quiet (queueFrame_view (unsetOnExit_effect _).1) h rfl
  | query question => exact quietMap (fun _ => rfl) h rfl
  | timerNew args uv => exact quiet (timerFrame_view (timerNew_effect _ args uv).1) h rfl
  | periodicTimerNew args uv =>
    exact quiet (timerFrame_view (periodicNew_effect _ args uv).1) h rfl
  | timerPause m uv =>
    exact quietMap (fun t => timerFrame_view (timerPause_effect _ m t uv).1) h rfl
  | timerRestart m args uv =>
    exact quietMap (fun t => timerFrame_view (timerRestart_effect _ m t args uv).1) h rfl
  | timerClose m => exact quietMap (fun t => timerFrame_view (timerClose_effect _ m t).1) h rfl
  | udpNew args uv => exact quiet (udpFrame_view (udpNew_effect _ args uv).1) h rfl
  | udpSendDatagram m args uv =>
    obtain ⟨u, found, h⟩ := Option.map_eq_some_iff.mp h
    exact quiet (procFrame_view (sendDatagram_effect found args uv).1) (congrArg some h) rfl
  | udpLocalAddress m uv =>
    exact quietMap (fun u => udpFrame_view (udpLocalAddress_effect _ u uv).1) h rfl
  | udpPause m => exact quietMap (fun u => udpFrame_view (udpPause_effect _ m u).1) h rfl
  | udpResume m => exact quietMap (fun u => udpFrame_view (udpResume_effect _ m u).1) h rfl
  | udpSetEncoding m encoding =>
    exact quietMap (fun u => udpFrame_view (udpSetEncoding_effect _ m u encoding).1) h rfl
  | udpClose m => exact quietMap (fun u => udpFrame_view (udpClose_effect _ m u).1) h rfl
  | dnsResolve args uv => exact quiet (procFrame_view (resolve_effect _ args uv).1) h rfl
  | tcpNew args uv =>
    obtain ⟨rfl, -⟩ := Prod.mk.inj (Option.some.inj h)
    exact returned_sees (tcpNew_view args uv) rfl
  | tcpSendData m args uv =>
    obtain ⟨t, socket, h⟩ := Option.map_eq_some_iff.mp h
    have moved : Sees c n (.call (.tcpSendData m args uv)) (viewOf n c.world stack)
        (viewOf n (Tcp.sendData c.world m t args uv).1 stack) := sendData_view args uv socket
    rw [h] at moved
    exact returned_sees moved rfl
  | tcpLocalAddress m uv => exact quietMap (fun t => tcpLocalAddress_view uv) h rfl
  | tcpPeerAddress m uv => exact quietMap (fun t => tcpPeerAddress_view uv) h rfl
  | tcpSetConnectTimeout m timeout uv =>
    obtain ⟨t, socket, h⟩ := Option.map_eq_some_iff.mp h
    have moved : Sees c n (.call (.tcpSetConnectTimeout m timeout uv)) (viewOf n c.world stack)
        (viewOf n (Tcp.setConnectTimeout c.world m t timeout uv).1 stack) :=
      setConnectTimeout_view timeout uv socket
    rw [h] at moved
    exact returned_sees moved rfl
  | tcpClose m =>
    obtain ⟨t, socket, h⟩ := Option.map_eq_some_iff.mp h
    exact tcpClose_view socket h
  | tcpCloseGracefully m args uv =>
    obtain ⟨t, socket, h⟩ := Option.map_eq_some_iff.mp h
    exact closeGracefully_view socket h

end Methods

section Step

variable {c c' : Config} {n : Nat} {a : Action}

private theorem viewOf_stack {w : World} {stack stack' : List Frame}
    (h : stack'.any (isClosing n) = stack.any (isClosing n)) :
    viewOf n w stack' = viewOf n w stack := by
  simp [viewOf, h]

private theorem kept (world : viewOf n c'.world (frames c) = view n c)
    (stack : (frames c').any (isClosing n) = (frames c).any (isClosing n)) :
    Sees c n a (view n c) (view n c') :=
  .inl ((viewOf_stack stack).trans world)

private theorem kept_of_sees (world : Sees c n a (view n c) (viewOf n c'.world (frames c)))
    (stack : (frames c').any (isClosing n) = (frames c).any (isClosing n)) :
    Sees c n a (view n c) (view n c') := by
  rw [show view n c' = viewOf n c'.world (frames c) from viewOf_stack stack]
  exact world

private theorem silent_any {frame : Frame} {stack : List Frame} (h : silent frame) :
    (frame :: stack).any (isClosing n) = stack.any (isClosing n) := by
  cases frame with
  | protect => rfl
  | batch fromOtherThread procs => rfl
  | handleError => rfl
  | destroying m => rfl
  | release keys => cases h
  | closing m => cases h
  | onExit procs error => cases h

private theorem fatal_any {frame : Frame} {stack : List Frame} (h : fatal frame) :
    (frame :: stack).any (isClosing n) = stack.any (isClosing n) := by
  cases frame with
  | protect => rfl
  | batch fromOtherThread procs => rfl
  | handleError => rfl
  | destroying m => cases h
  | release keys => cases h
  | closing m => cases h
  | onExit procs error => cases h

private theorem releaseStack_any {stack below : List Frame} (h : ReleaseStack stack below) :
    below.any (isClosing n) = stack.any (isClosing n) := by
  rcases h with rfl | ⟨o, procs, rfl⟩
  · rfl
  · rfl

private theorem frames_code {w : World} {callers : List (Base × List Frame)} {base : Base}
    {stack : List Frame} :
    frames ⟨w, .code base stack, callers⟩ = stack ++ callers.flatMap (·.2) := rfl

private theorem frames_back {w : World} {callers : List (Base × List Frame)} {base : Base}
    {stack : List Frame} {result : Return} :
    frames ⟨w, .back result base stack, callers⟩ = stack ++ callers.flatMap (·.2) := rfl

private theorem frames_of_code {base : Base} {stack : List Frame} (h : c.ctl = .code base stack) :
    frames c = stack ++ c.callers.flatMap (·.2) := by
  rw [frames, h]

private theorem frames_of_back {result : Return} {base : Base} {stack : List Frame}
    (h : c.ctl = .back result base stack) : frames c = stack ++ c.callers.flatMap (·.2) := by
  rw [frames, h]

private theorem startLoop_view {w : World} {stack : List Frame} {proc : Nat} {uv : UvAnswers}
    (stopped : w.status = .stopped) :
    Sees c n a (viewOf n w stack) (viewOf n (startLoop w proc uv) stack) := by
  have runs : Sees c n a (viewOf n w stack) { viewOf n w stack with ae := .running } :=
    .inr (.runs stopped)
  rcases startLoop_cases w proc uv with aborts | ⟨fault, starts⟩
  · rw [aborts]
    exact .inl rfl
  · have started : viewOf n (startLoop w proc uv) stack = viewOf n (startedLoop w proc) stack := by
      rw [starts]
      rfl
    rw [started, startedLoop, queueFrame_view (pushNextTick_frame _ _ rfl)]
    exact runs

private theorem closedSocket_view {m : Nat} {t : State.Tcp} (socket : c.world.tcps[m]? = some t)
    (opened : t.uvHandle = true) (connected : t.status = .connected)
    (terminal : m = n → terminates c n a) (other : completes n a = 0) : Sees c n a (view n c)
      (viewOf n ((closedSocket c.world m t).start (.onDisconnected m none))
        (.closing m :: frames c)) := by
  unfold closedSocket
  by_cases own : m = n
  · subst own
    refine .inr ?_
    rw [World.start, viewOf_push_some (x := .callback .disconnected) (by simp [tcpEvent]),
      viewOf_remove, viewOf_setTcp _ socket]
    have waiting : ∀ w : World, viewOf m w (.closing m :: frames c) =
        { viewOf m w (frames c) with waiting := true } := by
      intro w
      simp [viewOf, isClosing]
    rw [waiting]
    exact .disconnects socket opened connected (terminal rfl) other
  · have same : (Frame.closing m :: frames c).any (isClosing n) = (frames c).any (isClosing n) := by
      simp [isClosing, own]
    refine .inl ?_
    rw [viewOf_stack same, World.start, viewOf_push _ (by simp [tcpEvent, own]),
      viewOf_remove_ne own, viewOf_setTcp_ne _ own]
    rfl

private theorem destroyedSocket_view {m : Nat} {t : State.Tcp}
    (socket : c.world.tcps[m]? = some t) (opened : t.uvHandle = true)
    (connected : t.status = .connected) (terminal : m = n → terminates c n a)
    (other : completes n a = 0) (at_release : ∃ keys, .release keys ∈ frames c) :
    Sees c n a (view n c)
      (viewOf n ((destroyedSocket c.world m t).start (.onDisconnected m none)) (frames c)) := by
  unfold destroyedSocket
  by_cases own : m = n
  · subst own
    refine .inr ?_
    rw [World.start, viewOf_push_some (x := .callback .disconnected) (by simp [tcpEvent]),
      viewOf_remove, viewOf_setTcp _ socket]
    exact .destroysConnected socket opened connected (terminal rfl) other at_release
  · refine .inl ?_
    rw [World.start, viewOf_push _ (by simp [tcpEvent, own]), viewOf_remove_ne own,
      viewOf_setTcp_ne _ own]
    rfl

private theorem destroyHandle_view {key : Handle} {w : World} {q : Return}
    (at_release : ∃ keys, .release keys ∈ frames c)
    (h : destroyHandle c.world key = (w, .ends q)) :
    Sees c n a (view n c) (viewOf n w (frames c)) := by
  unfold destroyHandle at h
  split at h
  · split at h
    · rename_i n _ t _
      have frame := (timerDestroy_effect c.world n t).1
      rw [h] at frame
      exact .inl (timerFrame_view frame)
    · obtain rfl := (Prod.mk.inj h).1
      exact .inl rfl
  · split at h
    · rename_i n _ u _
      have frame := (udpDestroy_effect c.world n u).1
      rw [h] at frame
      exact .inl (udpFrame_view frame)
    · obtain rfl := (Prod.mk.inj h).1
      exact .inl rfl
  · split at h
    · rename_i socket
      exact tcpDestroy_view socket at_release h
    · obtain rfl := (Prod.mk.inj h).1
      exact .inl rfl

private theorem closeReturns_view {result : Return} {base : Base} {m : Nat} {stack : List Frame}
    (ctl : c.ctl = .back result base (.closing m :: stack)) {q : Return} :
    Sees c n a (view n c) (viewOf n (c.world.push (.returned (.tcpClose m) q))
      (stack ++ c.callers.flatMap (·.2))) := by
  have here := frames_of_back ctl
  by_cases own : m = n
  · subst own
    have waits : (view m c).waiting = true := by
      simp [view, viewOf, here, isClosing]
    have at_tail : ∀ w : World, viewOf m w (stack ++ c.callers.flatMap (·.2)) =
        { viewOf m w (frames c) with
          waiting := (stack ++ c.callers.flatMap (·.2)).any (isClosing m) } := fun _ => rfl
    rw [at_tail]
    refine .inr ?_
    by_cases done : q = .value .true
    · rw [viewOf_push_some (x := .returned) (by simp [tcpEvent, done])]
      exact .returns waits
    · have silent : tcpEvent m (.returned (.tcpClose m) q) = none := by
        unfold tcpEvent
        split <;> simp_all
      rw [viewOf_push _ silent]
      exact .unwinds waits
  · have silent : tcpEvent n (.returned (.tcpClose m) q) = none := by
      unfold tcpEvent
      split <;> simp_all
    have same : (stack ++ c.callers.flatMap (·.2)).any (isClosing n) =
        (frames c).any (isClosing n) := by
      rw [here]
      simp [isClosing, own]
    exact .inl ((viewOf_push _ silent).trans (viewOf_stack same))

private theorem stops_view {base : Base} {stack : List Frame}
    {callers : List (Base × List Frame)} (handles : noActiveHandles c.world = true)
    (reqs : noActiveReqs c.world = true) :
    Sees c n a (view n c) (viewOf n (endLoop c base stack callers).world (frames c)) := by
  have ended : viewOf n (endLoop c base stack callers).world (frames c) =
      { view n c with ae := .stopped } := by
    rw [endLoop_eq handles reqs]
    rfl
  rw [ended]
  simp only [noActiveHandles, noActiveReqs, Bool.and_eq_true, List.all_eq_true,
    List.isEmpty_iff] at handles reqs
  refine .inr (.stops ?_ ?_)
  · intro t socket
    have member : t ∈ c.world.tcps := List.mem_of_getElem? socket
    have closed := handles.2 t member
    have quiet := reqs.2 t member
    simp only [Bool.or_eq_true, Bool.not_eq_true', bne_iff_ne] at closed
    simp only [Bool.not_eq_true', beq_iff_eq] at quiet
    refine ⟨quiet.1, quiet.2, ?_, closed.2⟩
    intro inited
    rcases closed.1 with off | closes
    · rw [inited] at off
      cases off
    · exact closes
  · have unwritten : c.world.tcpWrites = [] := reqs.1.1.1
    simp [view, viewOf, unwritten]

theorem step_view (h : Step c a c') : Sees c n a (view n c) (view n c') := by
  cases h with
  | other frame => exact kept (queueFrame_view frame) rfl
  | call ctl method =>
    refine kept_of_sees (dispatch_view method) ?_
    rw [frames_of_code ctl, frames_code]
  | close ctl socket opened connected method =>
    rename_i m t
    have terminal : m = n → terminates c n (.call (.tcpClose m)) := by
      intro own
      subst own
      exact ⟨rfl, t, socket, opened, connected⟩
    have moved := closedSocket_view socket opened connected terminal rfl
    rw [frames_of_code ctl] at moved
    exact moved
  | runReturns ctl frame =>
    refine kept ((viewOf_push _ rfl).trans (queueFrame_view frame)) ?_
    rw [frames_of_code ctl, frames_code]
  | runStarts ctl stopped free =>
    refine kept_of_sees (startLoop_view stopped) ?_
    rw [frames_of_code ctl]
    rfl
  | codeEnds ctl can =>
    refine kept rfl ?_
    rw [frames_of_code ctl, frames_back]
  | threadEnds ctl alone kept => exact .inl rfl
  | fork => exact .inl rfl
  | pops ctl quiet =>
    refine kept rfl ?_
    rw [frames_of_back ctl, frames_back, List.cons_append, silent_any quiet]
  | handles ctl not_releasing =>
    refine kept (viewOf_push _ rfl) ?_
    rw [frames_of_back ctl, frames_code]
    rfl
  | releases ctl calls running on =>
    refine kept_of_sees (.inr (.releases running)) ?_
    rw [frames_of_back ctl, frames_back, List.cons_append, List.cons_append, fatal_any calls,
      List.any_cons, List.any_append, releaseStack_any on, List.any_append]
    rfl
  | releasesNot ctl calls on =>
    refine kept rfl ?_
    rw [frames_of_back ctl, frames_back, List.cons_append, fatal_any calls, List.any_append,
      releaseStack_any on, List.any_append]
  | tick ctl running =>
    refine kept (viewOf_push _ ?_) ?_
    · unfold tickCallback
      split <;> rfl
    · rw [frames_of_back ctl, frames_code]
      rfl
  | skipsKey ctl deleted =>
    refine kept rfl ?_
    rw [frames_of_back ctl, frames_back]
    rfl
  | destroys ctl stored method =>
    have here := frames_of_back ctl
    refine kept_of_sees (destroyHandle_view ⟨_, by rw [here]; exact .head _⟩ method) ?_
    rw [here, frames_back]
    rfl
  | disconnects ctl stored socket opened connected method =>
    have here := frames_of_back ctl
    refine kept_of_sees (destroyedSocket_view socket opened connected ?_ rfl
      ⟨_, by rw [here]; exact .head _⟩) ?_
    · intro own
      subst own
      exact ⟨⟨_, _, _, _, ctl⟩, stored, _, socket, opened, connected⟩
    · rw [here, frames_code]
      rfl
  | released ctl =>
    refine kept ?_ ?_
    · rcases closeInternalHandles_cases c.world with aborts | closes
      · rw [aborts]
        rfl
      · rw [closes]
        rfl
    · rw [frames_of_back ctl, frames_back]
      rfl
  | closeReturns ctl => exact closeReturns_view ctl
  | exitProc ctl =>
    refine kept (viewOf_push _ rfl) ?_
    rw [frames_of_back ctl, frames_code]
    rfl
  | runEnds ctl =>
    refine kept (viewOf_push _ rfl) ?_
    rw [frames_of_back ctl, frames_code]
    rfl
  | loops ctl =>
    refine kept rfl ?_
    rw [frames_of_back ctl]
    rfl
  | intsReturn ctl =>
    rename_i entering
    refine kept rfl ?_
    rw [frames_of_back ctl]
    cases entering <;> rfl
  | intsRaise ctl caller =>
    refine kept (viewOf_push _ rfl) ?_
    rw [frames_of_back ctl, frames_code, caller]
    rfl
  | enters ctl =>
    refine kept rfl ?_
    simp only [frames, ctl]
  | interrupts entering ctl =>
    refine kept rfl ?_
    cases entering <;> simp only [frames, ctl] <;> rfl
  | idleBatch ctl running active =>
    refine kept rfl ?_
    simp only [frames, ctl]
    rfl
  | wakes ctl sent =>
    refine kept rfl ?_
    simp only [frames, ctl]
  | asyncBatch ctl running =>
    refine kept rfl ?_
    simp only [frames, ctl]
    rfl
  | uvQuiet ctl reported => exact uvCallback_view reported
  | uvCalls ctl reported =>
    refine kept_of_sees (uvCallback_view reported) ?_
    simp only [frames, ctl]
    rfl
  | uvReturns ctl handles reqs =>
    refine kept rfl ?_
    simp only [frames, ctl]
  | loopEnds ctl caller handles reqs =>
    refine kept_of_sees (stops_view handles reqs) ?_
    rw [endLoop_eq handles reqs]
    rw [frames_back]
    simp only [frames, ctl, caller]
    rfl
  | aborts => exact .inl rfl

end Step

end AsyncEngine.Engine.TcpMoves
