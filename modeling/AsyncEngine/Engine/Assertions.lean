/- The assertions of the extension and its uses of NULL handles: which steps fail them. -/

import AsyncEngine.Engine.LoopEnds
import AsyncEngine.Engine.Requests

set_option autoImplicit false
set_option relaxedAutoImplicit false

namespace AsyncEngine.Engine.Assertions

open AsyncEngine.Lib.Run
open AsyncEngine.Lib.Pending
open AsyncEngine.Engine.Ruby
open AsyncEngine.Engine.State
open AsyncEngine.Engine.Machine
open AsyncEngine.Engine.Effects
open AsyncEngine.Engine.Handles
open AsyncEngine.Engine.Steps
open AsyncEngine.Engine.Loop
open AsyncEngine.Engine.Release
open AsyncEngine.Engine.Stopped
open AsyncEngine.Engine.Requests
open AsyncEngine.Engine.Outstanding
open AsyncEngine.Engine.InternalHandles
open AsyncEngine.Engine.LoopEnds

/-- libuv refuses a call that the extension takes to succeed: one on an internal handle that
`AE.run` makes, or one on a TCPSocket that starts or stops to read or is shut down in a callback; or
it refuses the address or the start of a UDPSocket, whose `init_instance` then closes a handle that
it has not stored yet. -/
inductive Refused (w : World) : Action → Prop
  | internalHandle {args : Args} {uv : UvAnswers} {proc : Nat}
      (accepted : runArgs args = .ok proc) (stopped : w.status = .stopped)
      (refused : uv.init ≠ 0) : Refused w (.call (.run args uv))
  | udpSocket {args : Args} {uv : UvAnswers} {p : Udp.NewArgs}
      (accepted : Udp.newArgs w.status args = .ok p) (inited : uv.init = 0)
      (refused : (switchIpType p.ipType uv.bind uv.init).2 ≠ 0 ∨ uv.recvStart ≠ 0) :
      Refused w (.call (.udpNew args uv))
  | gracefulClose {n : Nat} {args : Args} {uv : UvAnswers} {t : State.Tcp}
      (socket : w.tcps[n]? = some t) (opened : t.uvHandle = true)
      (accepted : checkNumArgs args 0 1 = .ok ()) (first : t.shutdownRequested = false)
      (connected : t.status = .connected) (refused : uv.readStop ≠ 0) :
      Refused w (.call (.tcpCloseGracefully n args uv))
  | connected {n : Nat} {uv : UvAnswers} {t : State.Tcp} (socket : w.tcps[n]? = some t)
      (refused : if t.shutdownRequested then uv.readStop ≠ 0 ∨ uv.shutdown ≠ 0
        else uv.readStart ≠ 0) : Refused w (.event (.connect n none uv))
  | eof {n : Nat} {uv : UvAnswers} (refused : uv.readStop ≠ 0 ∨ uv.shutdown ≠ 0) :
      Refused w (.event (.read n .eof uv))

section Methods

variable {w : World} {n : Nat}

private theorem checked_fault {α : Type} {check : Check α} {go : α → World × Outcome}
    (pass : ∀ x, check = .ok x → (go x).1.fault = w.fault) :
    (checked w check go).1.fault = w.fault :=
  checked_cases (P := fun r => r.1.fault = w.fault) (fun _ _ => rfl) pass

section Queues

-- While the engine runs, its internal handles are there.
variable (loaded : w.status = .running →
  w.nextTickUvIdle.isSome = true ∧ w.callFromOtherThreadUvAsync.isSome = true)

private theorem pushNextTick_fault (tick : Tick) (idle : w.nextTickUvIdle.isSome = true) :
    (Procs.pushNextTick w tick).fault = w.fault := by
  obtain ⟨active, idle⟩ := Option.isSome_iff_exists.mp idle
  unfold Procs.pushNextTick
  rw [idle]

private theorem pushCallFromOtherThread_fault (tick : Tick)
    (async : w.callFromOtherThreadUvAsync.isSome = true) :
    (Procs.pushCallFromOtherThread w tick).fault = w.fault := by
  obtain ⟨sent, async⟩ := Option.isSome_iff_exists.mp async
  unfold Procs.pushCallFromOtherThread
  rw [async]

include loaded

private theorem stop_fault : (Procs.stop w).1.fault = w.fault := by
  apply checked_fault
  intro _ passed
  obtain ⟨idle, async⟩ := loaded (running_of_check passed)
  dsimp only
  split
  · exact pushNextTick_fault _ idle
  · exact pushCallFromOtherThread_fault _ async

private theorem nextTick_fault (args : Args) : (Procs.nextTick w args).1.fault = w.fault := by
  apply checked_fault
  intro proc passed
  exact pushNextTick_fault _ (loaded (running_of_bind passed)).1

private theorem callFromOtherThread_fault (args : Args) :
    (Procs.callFromOtherThread w args).1.fault = w.fault := by
  apply checked_fault
  intro proc passed
  exact pushCallFromOtherThread_fault _ (loaded (running_of_bind passed)).2

private theorem runWhileRunning_fault (proc : Nat) (running : w.status = .running) :
    (runWhileRunning w proc).1.fault = w.fault := by
  obtain ⟨idle, async⟩ := loaded running
  unfold runWhileRunning
  split
  · rfl
  · split
    · exact pushNextTick_fault _ idle
    · exact pushCallFromOtherThread_fault _ async

end Queues

private theorem timerInit_fault (isPeriodicTimer : Bool) (delay interval : Int) (proc : Nat)
    (uv : UvAnswers) :
    (Timer.initInstance w isPeriodicTimer delay interval proc uv).1.fault = w.fault := by
  unfold Timer.initInstance
  dsimp only
  split
  · rfl
  · split
    · rfl
    · rfl

private theorem uvTimerStart_fault (t : State.Timer) (uvRepeat : Int) (uv : UvAnswers) :
    (Timer.uvTimerStart w n t uvRepeat uv).1.fault = w.fault := by
  unfold Timer.uvTimerStart
  split
  · rfl
  · rfl

private theorem timerRestart_fault (t : State.Timer) (args : Args) (uv : UvAnswers) :
    (Timer.restart w n t args uv).1.fault = w.fault := by
  unfold Timer.restart
  split
  · apply checked_fault
    intro interval _
    cases interval with
    | none => exact uvTimerStart_fault _ _ _
    | some interval =>
      dsimp only
      split
      · exact uvTimerStart_fault _ _ _
      · split
        · exact uvTimerStart_fault _ _ _
        · rfl
  · exact checked_fault fun _ _ => uvTimerStart_fault _ _ _

private theorem timerPause_fault (t : State.Timer) (uv : UvAnswers) :
    (Timer.pause w n t uv).1.fault = w.fault := by
  apply checked_fault
  intro _ _
  split
  · rfl
  · rfl

private theorem timerCloseHandle_fault {t t' : State.Timer} (inv : TimersInv w)
    (found : w.timers[n]? = some t) (opened : t.uvHandle = true) (handle : t'.uvHandle = true)
    (key : t'.aeHandleId = t.aeHandleId) : (Timer.closeHandle w n t').fault = w.fault := by
  have stored := (inv.table.good n t found opened).1
  unfold Timer.closeHandle
  rw [if_pos handle, key, stored]
  rfl

private theorem udpCloseHandle_fault {u : State.Udp} (inv : UdpsInv w)
    (found : w.udps[n]? = some u) (opened : u.uvHandle = true) :
    (Udp.closeHandle w n u).fault = w.fault := by
  have stored := (inv.table.good n u found opened).1
  unfold Udp.closeHandle
  rw [if_pos opened, stored]
  rfl

private theorem udpInit_fault {p : Udp.NewArgs} {uv : UvAnswers}
    (answers : uv.init = 0 →
      (switchIpType p.ipType uv.bind uv.init).2 = 0 ∧ uv.recvStart = 0) :
    (Udp.initInstance w p.ipType uv).1.fault = w.fault := by
  unfold Udp.initInstance
  dsimp only
  split
  · rfl
  · rename_i inited
    obtain ⟨bound, started⟩ := answers (not_not.mp inited)
    rw [if_neg (not_not.mpr bound), if_neg (not_not.mpr started)]
    rfl

private theorem sendDatagram_fault (u : State.Udp) (args : Args) (uv : UvAnswers) :
    (Udp.sendDatagram w n u args uv).1.fault = w.fault := by
  apply checked_fault
  intro p _
  cases p.proc with
  | none =>
    dsimp only [Option.map_none]
    split <;> (dsimp only; split <;> rfl)
  | some proc =>
    dsimp only [Option.map_some]
    split <;> (dsimp only; split <;> rfl)

private theorem ipPort_fault (address : List UInt8) (ipType : IpParser.Machine.IpType) :
    (aeIpUtilsGetIpPort w address ipType).1.fault = w.fault := by
  cases ipType <;> rfl

private theorem resolve_fault (args : Args) (uv : UvAnswers) :
    (Procs.resolve w args uv).1.fault = w.fault := by
  apply checked_fault
  intro _ _
  split
  · rfl
  · rfl

private theorem tcpInit_fault (p : Tcp.NewArgs) (uv : UvAnswers) :
    (Tcp.initInstance w p uv).1.fault = w.fault := by
  unfold Tcp.initInstance
  dsimp only
  split
  · rfl
  · cases p.bindIp with
    | none =>
      dsimp only [Option.map_none]
      split
      · rfl
      · split <;> rfl
    | some ip =>
      dsimp only [Option.map_some]
      split
      · rfl
      · split <;> rfl

private theorem sendData_fault (t : State.Tcp) (args : Args) (uv : UvAnswers) :
    (Tcp.sendData w n t args uv).1.fault = w.fault := by
  apply checked_fault
  intro p _
  split
  · split <;> rfl
  · dsimp only
    split <;> rfl

private theorem tcpAddress_fault (t : State.Tcp) (uv : UvAnswers) :
    (Tcp.localAddress w t uv).1.fault = w.fault ∧
      (Tcp.peerAddress w t uv).1.fault = w.fault := by
  constructor
  · apply checked_fault
    intro _ _
    split
    · rfl
    · exact ipPort_fault _ _
  · apply checked_fault
    intro _ _
    split
    · rfl
    · split
      · rfl
      · exact ipPort_fault _ _

private theorem setConnectTimeout_fault (t : State.Tcp) (timeout : Value) (uv : UvAnswers) :
    (Tcp.setConnectTimeout w n t timeout uv).1.fault = w.fault := by
  apply checked_fault
  intro _ _
  dsimp only
  split
  · rfl
  · rfl

private theorem tcpClose_fault (t : State.Tcp) : (Tcp.close w n t).1.fault = w.fault := by
  apply checked_fault
  intro _ _
  dsimp only
  split
  · rfl
  · rfl

private theorem closeGracefully_fault {t : State.Tcp} {args : Args} {uv : UvAnswers}
    (answers : t.uvHandle = true → checkNumArgs args 0 1 = .ok () →
      t.shutdownRequested = false → t.status = .connected → uv.readStop = 0) :
    (Tcp.closeGracefully w n t args uv).1.fault = w.fault := by
  apply checked_fault
  intro _ passed
  obtain ⟨_, opened, passed⟩ := of_bind passed
  obtain ⟨_, accepted, passed⟩ := of_bind passed
  have first : t.shutdownRequested = false := by
    cases requested : t.shutdownRequested with
    | false => rfl
    | true =>
      rw [if_pos requested] at passed
      cases passed
  split
  · rename_i connected
    rw [if_neg (not_not.mpr (answers (open_of_check opened) accepted first connected))]
    split
    · rfl
    · rfl
  · rfl

private theorem dispatch_fault (handles : HandlesInv w) (loaded : w.status = .running →
      w.nextTickUvIdle.isSome = true ∧ w.callFromOtherThreadUvAsync.isSome = true)
    {call : Call} {r : World × Outcome} (method : dispatch w call = some r)
    (answers : ¬ Refused w (.call call)) : r.1.fault = w.fault := by
  have here {o : World × Outcome} (same : o.1.fault = w.fault) (is : some o = some r) :
      r.1.fault = w.fault := by
    rw [← Option.some.inj is]
    exact same
  have of {α : Type} {o : Option α} {f : α → World × Outcome}
      (same : ∀ x, o = some x → (f x).1.fault = w.fault) (is : o.map f = some r) :
      r.1.fault = w.fault := by
    obtain ⟨x, found, rfl⟩ := Option.map_eq_some_iff.mp is
    exact same x found
  cases call with
  | run args uv => cases method
  | stop => exact here (stop_fault loaded) method
  | nextTick args => exact here (nextTick_fault loaded args) method
  | callFromOtherThread args => exact here (callFromOtherThread_fault loaded args) method
  | onError args => exact here (checked_fault fun _ _ => rfl) method
  | unsetOnError => exact here rfl method
  | onExit args => exact here (checked_fault fun _ _ => rfl) method
  | unsetOnExit => exact here rfl method
  | query question => exact of (fun _ _ => rfl) method
  | timerNew args uv => exact here (checked_fault fun _ _ => timerInit_fault _ _ _ _ _) method
  | periodicTimerNew args uv =>
    exact here (checked_fault fun _ _ => timerInit_fault _ _ _ _ _) method
  | timerPause n uv => exact of (fun t _ => timerPause_fault t uv) method
  | timerRestart n args uv => exact of (fun t _ => timerRestart_fault t args uv) method
  | timerClose n =>
    refine of (fun t found => checked_fault fun _ passed => ?_) method
    have opened := open_of_check passed
    exact timerCloseHandle_fault handles.timers found opened opened rfl
  | udpNew args uv =>
    refine here (checked_fault fun p accepted => udpInit_fault fun inited => ?_) method
    by_contra refused
    exact answers (.udpSocket accepted inited (by
      by_cases bound : (switchIpType p.ipType uv.bind uv.init).2 = 0
      · exact .inr fun started => refused ⟨bound, started⟩
      · exact .inl bound))
  | udpSendDatagram n args uv => exact of (fun u _ => sendDatagram_fault u args uv) method
  | udpLocalAddress n uv =>
    refine of (fun u _ => checked_fault fun _ _ => ?_) method
    split
    · rfl
    · exact ipPort_fault _ _
  | udpPause n => exact of (fun _ _ => checked_fault fun _ _ => rfl) method
  | udpResume n => exact of (fun _ _ => checked_fault fun _ _ => rfl) method
  | udpSetEncoding n encoding => exact of (fun _ _ => checked_fault fun _ _ => rfl) method
  | udpClose n =>
    refine of (fun u found => checked_fault fun _ passed => ?_) method
    exact udpCloseHandle_fault handles.udps found (open_of_check passed)
  | dnsResolve args uv => exact here (resolve_fault args uv) method
  | tcpNew args uv => exact here (checked_fault fun _ _ => tcpInit_fault _ _) method
  | tcpSendData n args uv => exact of (fun t _ => sendData_fault t args uv) method
  | tcpLocalAddress n uv => exact of (fun t _ => (tcpAddress_fault t uv).1) method
  | tcpPeerAddress n uv => exact of (fun t _ => (tcpAddress_fault t uv).2) method
  | tcpSetConnectTimeout n timeout uv =>
    exact of (fun t _ => setConnectTimeout_fault t timeout uv) method
  | tcpClose n => exact of (fun t _ => tcpClose_fault t) method
  | tcpCloseGracefully n args uv =>
    refine of (fun t socket => closeGracefully_fault fun opened accepted first connected => ?_)
      method
    by_contra refused
    exact answers (.gracefulClose socket opened accepted first connected refused)

private theorem dispatch_refused {call : Call} {r : World × Outcome}
    (method : dispatch w call = some r) (refused : Refused w (.call call)) :
    r.1.fault ≠ none := by
  cases refused with
  | internalHandle accepted stopped refused => cases method
  | @udpSocket args uv p accepted inited refused =>
    obtain rfl := Option.some.inj method
    have made : Udp.new w args uv = Udp.initInstance w p.ipType uv := by
      unfold Udp.new
      rw [accepted]
      rfl
    rw [made]
    unfold Udp.initInstance
    dsimp only
    rw [if_neg (not_not.mpr inited)]
    split
    · exact Option.some_ne_none _
    · rename_i bound
      rw [if_pos (refused.resolve_left bound)]
      exact Option.some_ne_none _
  | @gracefulClose n args uv t socket opened accepted first connected refused =>
    obtain ⟨t', found, rfl⟩ := Option.map_eq_some_iff.mp method
    obtain rfl := Option.some.inj (socket.symm.trans found)
    have passes : (do
        checkUvHandleIsOpen t.uvHandle
        checkNumArgs args 0 1
        if t.shutdownRequested then .error (.value .false) else pure () : Check Unit) =
        .ok () := by
      rw [opened, accepted, first]
      rfl
    unfold Tcp.closeGracefully
    dsimp only
    rw [passes]
    dsimp only [checked]
    rw [if_pos connected, if_pos refused]
    exact Option.some_ne_none _

end Methods

section Procs

variable {w w' : World} {c c' : Config} {a : Action}

/-- Each request that libuv holds and that has a proc has a key of its own, and until the release
its proc is in `@_procs`. -/
structure Backed (w : World) : Prop where
  stored : w.status ≠ .releasing → ∀ id ∈ pendingProcs w, id ∈ w.procs.map (·.1)
  distinct : (pendingProcs w).Nodup
  older : ∀ id ∈ pendingProcs w, id ≤ w.procLongId

/-- What a function does with `@_procs` and with the requests that have a proc. -/
inductive ProcMove (w w' : World) : Prop
  | same (procs : w'.procs = w.procs) (longId : w'.procLongId = w.procLongId)
      (pending : pendingProcs w' = pendingProcs w) : ProcMove w w'
  | stores {proc : Nat} (procs : w'.procs = w.procs ++ [(w.procLongId + 1, proc)])
      (longId : w'.procLongId = w.procLongId + 1)
      (pending : pendingProcs w' = pendingProcs w ∨
        (pendingProcs w').Perm ((w.procLongId + 1) :: pendingProcs w)) : ProcMove w w'
  | completes {id : Nat} (procs : w'.procs = w.procs.filter (·.1 ≠ id))
      (longId : w'.procLongId = w.procLongId)
      (one : (pendingProcs w).Perm (id :: pendingProcs w')) : ProcMove w w'

private theorem ProcMove.keys (move : ProcMove w w') (distinct : (pendingProcs w).Nodup)
    (older : ∀ id ∈ pendingProcs w, id ≤ w.procLongId) :
    (pendingProcs w').Nodup ∧ ∀ id ∈ pendingProcs w', id ≤ w'.procLongId := by
  cases move with
  | same procs longId pending =>
    rw [pending, longId]
    exact ⟨distinct, older⟩
  | stores procs longId pending =>
    rw [longId]
    have fresh : w.procLongId + 1 ∉ pendingProcs w := fun here => by
      have old := older _ here
      omega
    rcases pending with same | more
    · rw [same]
      exact ⟨distinct, fun id here => Nat.le_succ_of_le (older id here)⟩
    · refine ⟨more.nodup_iff.mpr (List.nodup_cons.mpr ⟨fresh, distinct⟩), fun id here => ?_⟩
      rcases List.mem_cons.mp (more.subset here) with rfl | old
      · exact Nat.le_refl _
      · exact Nat.le_succ_of_le (older id old)
  | completes procs longId one =>
    rw [longId]
    exact ⟨(List.nodup_cons.mp (one.nodup_iff.mp distinct)).2,
      fun id here => older id (one.symm.subset (.tail _ here))⟩

private theorem ProcMove.stored (move : ProcMove w w') (distinct : (pendingProcs w).Nodup)
    (stored : ∀ id ∈ pendingProcs w, id ∈ w.procs.map (·.1)) :
    ∀ id ∈ pendingProcs w', id ∈ w'.procs.map (·.1) := by
  cases move with
  | same procs longId pending =>
    rw [pending, procs]
    exact stored
  | stores procs longId pending =>
    intro id here
    rw [procs, List.map_append, List.mem_append]
    rcases pending with same | more
    · rw [same] at here
      exact .inl (stored id here)
    · rcases List.mem_cons.mp (more.subset here) with rfl | old
      · exact .inr (by simp)
      · exact .inl (stored id old)
  | @completes id' procs longId one =>
    intro id here
    obtain ⟨gone, -⟩ := List.nodup_cons.mp (one.nodup_iff.mp distinct)
    have other : id ≠ id' := fun same => gone (same ▸ here)
    obtain ⟨p, mem, rfl⟩ := List.mem_map.mp (stored id (one.symm.subset (.tail _ here)))
    rw [procs]
    exact List.mem_map.mpr ⟨p, List.mem_filter.mpr ⟨mem, by simpa using other⟩, rfl⟩

private theorem sendDatagram_moves (n : Nat) (u : State.Udp) (args : Args) (uv : UvAnswers) :
    ProcMove w (Udp.sendDatagram w n u args uv).1 := by
  cases accepted : Udp.sendArgs u args with
  | error result =>
    unfold Udp.sendDatagram checked
    rw [accepted]
    exact .same rfl rfl rfl
  | ok p =>
    have world := sendDatagram_world w n uv accepted
    cases proc : p.proc with
    | none =>
      rw [proc] at world
      exact .same (congrArg (·.procs) world) (congrArg (·.procLongId) world)
        (congrArg (·.pendingProcs) world)
    | some proc' =>
      rw [proc] at world
      dsimp only at world
      split at world
      · refine .stores (congrArg (·.procs) world) (congrArg (·.procLongId) world) (.inr ?_)
        have pending : pendingProcs (Udp.sendDatagram w n u args uv).1 =
            w.udpSends.filterMap (·.onSendProcId) ++ [w.procLongId + 1] ++ w.lookups :=
          congrArg (·.pendingProcs) world
        rw [pending, List.append_assoc]
        exact List.perm_middle
      · exact .stores (congrArg (·.procs) world) (congrArg (·.procLongId) world)
          (.inl (congrArg (·.pendingProcs) world))

private theorem resolve_moves (args : Args) (uv : UvAnswers) :
    ProcMove w (Procs.resolve w args uv).1 := by
  apply checked_cases (P := fun r => ProcMove w r.1)
  · exact fun _ _ => .same rfl rfl rfl
  · intro proc _
    split
    · exact .same rfl rfl rfl
    · refine .stores rfl rfl (.inr ?_)
      show (w.udpSends.filterMap (·.onSendProcId) ++ (w.lookups ++ [w.procLongId + 1])).Perm _
      rw [← List.append_assoc]
      exact List.perm_append_singleton _ _

private theorem moves_own {file : File} (frame : FrameOf file w w') (other : file ≠ .proc) :
    ProcMove w w' := by
  have same := untouched_own frame
  refine .same (same.procs other) (same.procLongId other) ?_
  unfold pendingProcs
  rw [same.udpSends other, same.lookups other]

private theorem dispatch_moves {call : Call} {r : World × Outcome}
    (method : dispatch w call = some r) : ProcMove w r.1 := by
  by_cases file : fileOf call = .proc
  · cases call with
    | udpSendDatagram n args uv =>
      obtain ⟨u, found, rfl⟩ := Option.map_eq_some_iff.mp method
      exact sendDatagram_moves n u args uv
    | dnsResolve args uv =>
      obtain rfl := Option.some.inj method
      exact resolve_moves args uv
    | _ => cases file
  · exact moves_own (dispatch_own method) file

private theorem reports_moves {event : UvEvent} {r : World × Option Callback}
    (reported : Reports w event r) : ProcMove w r.1 := by
  by_cases file : fileOfEvent event = .proc
  · cases reported with
    | @sent k error send u found socket may =>
      unfold Udp.uvSendCallback
      cases key : send.onSendProcId with
      | none =>
        refine .same rfl rfl ?_
        have rest := filterMap_eraseIdx_none (f := (·.onSendProcId)) found key
        exact congrArg (· ++ w.lookups) rest
      | some id =>
        have one := (filterMap_eraseIdx (f := (·.onSendProcId)) found key).append_right w.lookups
        dsimp only
        split
        · exact .completes rfl rfl one
        · split
          · exact .completes rfl rfl one
          · exact .completes rfl rfl one
    | @resolved k procId result found =>
      obtain ⟨bound, rfl⟩ := List.getElem?_eq_some_iff.mp found
      have one := ((List.getElem_cons_eraseIdx_perm bound).symm.append_left
        (w.udpSends.filterMap (·.onSendProcId))).trans List.perm_middle
      unfold Procs.uvGetaddrinfoCallback
      dsimp only
      split
      · exact .completes rfl rfl one
      · split
        · exact .completes rfl rfl one
        · exact .completes rfl rfl one
    | _ => cases file
  · exact moves_own (reports_own reported) file

private theorem runs_moves (runs : Runs c a w) : ProcMove c.world w := by
  cases runs with
  | nothing => exact .same rfl rfl rfl
  | method called => exact dispatch_moves called
  | queue frame => exact moves_own (show FrameOf .queue c.world w from frame) (by simp)
  | callback reported => exact reports_moves reported
  | @destroy key stored =>
    exact moves_own (destroyHandle_own c.world key) (by cases key <;> simp [fileOfKey])

private theorem pendingProcs_nil (idle : outstanding w = 0) : pendingProcs w = [] := by
  obtain ⟨-, sends, lookups⟩ := lists_of_outstanding idle
  unfold pendingProcs
  rw [sends, lookups]
  rfl

private theorem backed_step {l : List (Config × Action)} (path : Path engine l c)
    (backed : Backed c.world) (h : engine.step c a = some c') : Backed c'.world := by
  have later := stoppedInv_of_path (path.next h)
  obtain ⟨-, step⟩ := step_inv h
  obtain ⟨w, runs, data⟩ := step_data step
  have move := runs_moves runs
  have pending : pendingProcs c'.world = pendingProcs w := by
    unfold pendingProcs
    rw [data.udpSends, data.lookups]
  obtain ⟨distinct, older⟩ := move.keys backed.distinct backed.older
  refine ⟨fun kept => ?_, ?_, ?_⟩
  · by_cases stopped : c'.world.status = .stopped
    · rw [pendingProcs_nil (later.reqs stopped)]
      exact fun id here => by cases here
    · have running := running_of_busy stopped kept
      have before : c.world.status ≠ .releasing := by
        intro releasing
        cases status_step step with
        | same status =>
          rw [status, releasing] at running
          cases running
        | starts stopped _ =>
          rw [releasing] at stopped
          cases stopped
        | releases _ releasing' =>
          rw [running] at releasing'
          cases releasing'
        | ends _ _ _ after =>
          rw [running] at after
          cases after
      rcases data.procs with same | ⟨-, closed⟩
      · rw [pending, same]
        exact move.stored backed.distinct (backed.stored before)
      · have loaded := (later.release.vars.running running).1
        rw [closed] at loaded
        cases loaded
  · rw [pending]
    exact distinct
  · rw [pending, data.procLongId]
    exact older

private theorem backed_of_path {l : List (Config × Action)} (path : Path engine l c) :
    Backed c.world := by
  induction path with
  | start =>
    have none : pendingProcs engine.init.world = [] := rfl
    refine ⟨fun _ => ?_, List.nodup_nil, ?_⟩ <;> simp [none]
  | next before move ih => exact backed_step before ih move

end Procs

section Events

variable {w : World} {event : UvEvent} {r : World × Option Callback}

private theorem lookup_of_key {id : Nat} (key : id ∈ w.procs.map (·.1)) :
    ∃ proc, w.procs.lookup id = some proc := by
  obtain ⟨p, mem, rfl⟩ := List.mem_map.mp key
  exact Option.isSome_iff_exists.mp (List.lookup_isSome_iff.mpr ⟨p, mem, by simp⟩)

private theorem uvSendCallback_fault {k : Nat} {send : UdpSend} (backed : Backed w)
    (found : w.udpSends[k]? = some send) (error : Option RubyError) :
    (Udp.uvSendCallback { w with udpSends := w.udpSends.eraseIdx k } send error).1.fault =
      w.fault := by
  unfold Udp.uvSendCallback
  cases key : send.onSendProcId with
  | none => rfl
  | some id =>
    have pending : id ∈ pendingProcs w := by
      refine List.mem_append_left _ (List.mem_filterMap.mpr ⟨send, ?_, key⟩)
      exact List.mem_of_getElem? found
    dsimp only
    split
    · rfl
    · rename_i kept
      obtain ⟨proc, stored⟩ := lookup_of_key (backed.stored kept id pending)
      split
      · rfl
      · rename_i absent
        exact absurd (stored.symm.trans absent) (Option.some_ne_none _)

private theorem uvGetaddrinfoCallback_fault {k procId : Nat} (backed : Backed w)
    (found : w.lookups[k]? = some procId) (result : Except RubyError (List (List UInt8))) :
    (Procs.uvGetaddrinfoCallback { w with lookups := w.lookups.eraseIdx k } procId
      result).1.fault = w.fault := by
  have pending : procId ∈ pendingProcs w :=
    List.mem_append_right _ (List.mem_of_getElem? found)
  unfold Procs.uvGetaddrinfoCallback
  dsimp only
  split
  · rfl
  · rename_i kept
    obtain ⟨proc, stored⟩ := lookup_of_key (backed.stored kept procId pending)
    split
    · rfl
    · rename_i absent
      exact absurd (stored.symm.trans absent) (Option.some_ne_none _)

private theorem open_of_connected {t : State.Tcp} (sane : TcpLife.Sane t)
    (pending : t.uvConnect = true) (may : mayEnd t.uvCloses (none : Option Int) = true) :
    t.uvHandle = true :=
  sane.handle.mpr ⟨(sane.pending pending).2, by simpa [mayEnd] using may⟩

private theorem reports_fault (handles : HandlesInv w)
    (sane : ∀ t ∈ w.tcps, TcpLife.Sane t) (backed : Backed w) (reported : Reports w event r)
    (answers : ¬ Refused w (.event event)) : r.1.fault = w.fault := by
  cases reported with
  | ubf sent => rfl
  | @timer n t found active =>
    have opened := handles.timers.idle t (List.mem_of_getElem? found) active
    have stored := (handles.timers.table.good n t found opened).1
    unfold Timer.uvTimerCallback Timer.closeHandle
    dsimp only
    rw [if_pos opened, stored]
    split
    · rfl
    · rfl
  | @recv n u received found receiving =>
    obtain ⟨recvData, ⟨dropped, -⟩ | ⟨b, bytes, source, -, -, -, called⟩⟩ :=
      uvRecvCallback_cases found received
    · rw [dropped]
    · rw [called]
      exact ipPort_fault _ _
  | sent found socket may => exact uvSendCallback_fault backed found _
  | resolved found => exact uvGetaddrinfoCallback_fault backed found _
  | @connect n error uv t socket waits may =>
    obtain ⟨uvTimers, timer, kept⟩ := cancel_keeps { t with uvConnect := false }
    unfold Tcp.uvConnectCallback
    dsimp only
    rw [kept]
    cases error with
    | some errno => rfl
    | none =>
      have opened := open_of_connected (sane t (List.mem_of_getElem? socket)) waits may
      have accepts : ¬ (if t.shutdownRequested then uv.readStop ≠ 0 ∨ uv.shutdown ≠ 0
          else uv.readStart ≠ 0) := fun refused => answers (.connected socket refused)
      dsimp only
      by_cases requested : t.shutdownRequested = true
      · rw [if_pos requested] at accepts ⊢
        rw [if_neg (not_not.mpr opened), if_neg accepts]
        rfl
      · rw [if_neg requested] at accepts ⊢
        rw [if_neg accepts]
        rfl
  | @read n read uv t socket reading =>
    cases read with
    | nothing => rfl
    | data bytes => rfl
    | error errno => rfl
    | eof =>
      have opened := ((sane t (List.mem_of_getElem? socket)).reading reading).1
      unfold Tcp.uvReadCallback
      dsimp only
      rw [if_neg (not_not.mpr opened), if_neg fun refused => answers (.eof refused)]
      rfl
  | @write k error write t found socket may =>
    unfold Tcp.uvWriteCallback
    split
    · rfl
    · rfl
  | @shutdown n error t socket pending may =>
    unfold Tcp.uvShutdownCallback
    split
    · rfl
    · rfl
  | @connectTimeout n k t timer socket fired active =>
    have good := sane t (List.mem_of_getElem? socket)
    have set := good.active k timer fired active
    have opened := (good.timer (by simp [set])).1
    unfold Tcp.uvTimerConnectTimeoutCallback
    rw [if_neg (by simp [set]), if_neg (not_not.mpr opened)]
    rfl

private theorem reports_refused (sane : ∀ t ∈ w.tcps, TcpLife.Sane t)
    (reported : Reports w event r) (refused : Refused w (.event event)) : r.1.fault ≠ none := by
  cases refused with
  | @connected n uv t socket refused =>
    cases reported with
    | @connect _ _ _ t' found waits may =>
      obtain rfl := Option.some.inj (socket.symm.trans found)
      have opened := open_of_connected (sane t (List.mem_of_getElem? socket)) waits may
      obtain ⟨uvTimers, timer, kept⟩ := cancel_keeps { t with uvConnect := false }
      unfold Tcp.uvConnectCallback
      dsimp only
      rw [kept]
      dsimp only
      by_cases requested : t.shutdownRequested = true
      · rw [if_pos requested] at refused ⊢
        rw [if_neg (not_not.mpr opened), if_pos refused]
        exact Option.some_ne_none _
      · rw [if_neg requested] at refused ⊢
        rw [if_pos refused]
        exact Option.some_ne_none _
  | @eof n uv refused =>
    cases reported with
    | @read _ _ _ t found reading =>
      have opened := ((sane t (List.mem_of_getElem? found)).reading reading).1
      unfold Tcp.uvReadCallback
      dsimp only
      rw [if_neg (not_not.mpr opened), if_pos refused]
      exact Option.some_ne_none _

end Events

section Frames

variable {w : World} {c : Config} {base : Base} {stack : List Frame}

private theorem releaseLoop_fault : (aeReleaseLoop w base stack).1.fault = w.fault := by
  unfold aeReleaseLoop
  split
  · rfl
  · rfl

private theorem handleError_fault (error : RubyError) :
    (aeHandleError w error base stack).1.fault = w.fault := by
  unfold aeHandleError
  split
  · rfl
  · exact releaseLoop_fault

private theorem batchNext_fault (fromOtherThread : Bool) (procs : List Tick) :
    (batchNext w fromOtherThread procs base stack).1.fault = w.fault := by
  unfold batchNext
  split
  · rfl
  · split
    · rfl
    · dsimp only
      split
      · exact releaseLoop_fault
      · rfl

private theorem releaseNext_fault (handles : HandlesInv w) (keys : List Handle)
    (loaded : keys = [] → AllLoaded w) :
    (releaseNext w keys base stack).1.fault = w.fault := by
  cases keys with
  | nil =>
    have present {α : Type} {o : Option α} (some : o.isSome = true) : o.isNone = false := by
      rw [← Option.not_isSome, some]
      rfl
    obtain ⟨idle, async, ubf⟩ := loaded rfl
    unfold releaseNext closeInternalHandles
    dsimp only
    rw [if_neg (by simp [present idle, present async, present ubf])]
  | cons key keys =>
    have destroyed := destroyHandle_live handles key
    unfold releaseNext
    dsimp only
    split
    · split
      · rename_i method
        rw [method] at destroyed
        exact destroyed
      · rename_i method
        rw [method] at destroyed
        exact destroyed
    · rfl

private theorem resume_fault (inv : EndInv c) (live : c.world.fault = none) {result : Return}
    {frame : Frame} (ctl : c.ctl = .back result base (frame :: stack)) :
    (resume c.world result frame base stack).1.fault = c.world.fault := by
  cases frame with
  | protect =>
    cases result with
    | value v => rfl
    | raised error =>
      unfold resume
      dsimp only
      split
      · rfl
      · exact handleError_fault error
  | batch fromOtherThread procs => exact batchNext_fault fromOtherThread procs
  | handleError =>
    cases result with
    | value v => rfl
    | raised error => exact releaseLoop_fault
  | release keys =>
    refine releaseNext_fault inv.release.handles keys ?_
    rintro rfl
    obtain ⟨counts, pointers⟩ := inv.pointers
    exact (closes_all pointers live ctl).1
  | destroying n => cases result <;> rfl
  | closing n => cases result <;> rfl
  | onExit procs error =>
    cases result with
    | value v => cases procs <;> rfl
    | raised error => rfl

end Frames

section Steps

variable {c c' : Config} {a : Action} {l : List (Config × Action)}

private theorem loaded_of_inv (inv : ReleaseInv c) (running : c.world.status = .running) :
    c.world.nextTickUvIdle.isSome = true ∧ c.world.callFromOtherThreadUvAsync.isSome = true :=
  ⟨(inv.vars.running running).1, (inv.vars.running running).2.1⟩

private theorem quiet_fault (h : engine.step c a = some c') (call : ∀ call, a ≠ .call call)
    (event : ∀ event, a ≠ .event event) (proceed : a ≠ .proceed)
    (other : ∀ thread call, a ≠ .other thread call) : c'.world.fault = c.world.fault := by
  replace h : step c a = some c' := h
  unfold step at h
  split at h
  · cases h
  · cases a with
    | call call' => exact absurd rfl (call call')
    | event event' => exact absurd rfl (event event')
    | proceed => exact absurd rfl proceed
    | other thread call' => exact absurd rfl (other thread call')
    | _ =>
      cases ctl : c.ctl <;> rw [ctl] at h <;> dsimp only [stepCode] at h <;>
        (try split at h) <;> cases h <;> rfl

private theorem other_fault (inv : ReleaseInv c) {thread : Nat} {call : Call}
    (h : engine.step c (.other thread call) = some c') : c'.world.fault = c.world.fault := by
  have loaded (running : c.world.status = .running) := loaded_of_inv inv running
  have done {r : World × Outcome} (same : r.1.fault = c.world.fault)
      (is : some { c with world := { r.1 with currentThread := c.world.currentThread } } =
        some c') : c'.world.fault = c.world.fault := by
    rw [← Option.some.inj is]
    exact same
  have calls (h : stepOther c thread call = some c') : c'.world.fault = c.world.fault := by
    unfold stepOther at h
    dsimp only at h
    split at h
    · cases h
    · split at h
      · exact done (stop_fault (w := { c.world with currentThread := thread }) loaded) h
      · exact done
          (callFromOtherThread_fault (w := { c.world with currentThread := thread }) loaded _) h
      · rename_i args _ _
        split at h
        · rename_i running
          have queues (w : World) (loaded : w.status = .running → w.nextTickUvIdle.isSome = true ∧
              w.callFromOtherThreadUvAsync.isSome = true) (running : w.status = .running) :
              (checked w (runArgs args) (runWhileRunning w)).1.fault = w.fault :=
            checked_fault fun proc _ => runWhileRunning_fault loaded proc running
          exact done (queues { c.world with currentThread := thread } loaded running) h
        · cases h
      · cases h
  replace h : step c (.other thread call) = some c' := h
  unfold step at h
  split at h
  · cases h
  · cases ctl : c.ctl with
    | code base stack =>
      rw [ctl] at h
      exact calls h
    | inUv =>
      rw [ctl] at h
      exact calls h
    | waking =>
      rw [ctl] at h
      exact calls h
    | _ =>
      rw [ctl] at h
      cases h

private theorem startLoop_fault (stopped : StoppedInv c) (status : c.world.status = .stopped)
    (live : c.world.fault = none) (proc : Nat) (uv : UvAnswers) :
    (startLoop c.world proc uv).fault ≠ none ↔ uv.init ≠ 0 := by
  have reset := stopped.release.vars.stopped status
  unfold startLoop
  by_cases refused : uv.init ≠ 0
  · rw [if_pos (by simp [refused])]
    exact iff_of_true (Option.some_ne_none _) refused
  · rw [if_neg (by simp [reset.idle, reset.async, reset.ubf, not_not.mp refused])]
    dsimp only
    split
    · exact iff_of_false (fun failed => failed live) refused
    · rename_i reqs
      exact absurd ((noActiveReqs_iff _).mpr (stopped.reqs status)) reqs

private theorem run_fault (stopped : StoppedInv c) {args : Args} {uv : UvAnswers}
    (h : engine.step c (.call (.run args uv)) = some c') :
    c'.world.fault ≠ none ↔ Refused c.world (.call (.run args uv)) := by
  have live := (step_inv h).1
  obtain ⟨base, stack, -, runs⟩ := run_inv h
  have never (same : c'.world.fault = c.world.fault) (busy : ∀ proc, runArgs args = .ok proc →
      c.world.status ≠ .stopped) :
      c'.world.fault ≠ none ↔ Refused c.world (.call (.run args uv)) := by
    refine iff_of_false (fun failed => failed (same.trans live)) fun refused => ?_
    cases refused with
    | internalHandle accepted stopped refused => exact busy _ accepted stopped
  cases runs with
  | refuses refused =>
    refine never rfl fun proc accepted => ?_
    rw [refused] at accepted
    cases accepted
  | @queues proc w result accepted running runs =>
    have same := runWhileRunning_fault (loaded_of_inv stopped.release) proc running
    rw [runs] at same
    exact never same fun _ _ => by simp [running]
  | deadlocks accepted idle held =>
    refine never rfl fun _ _ stopped' => ?_
    rw [(stopped.release.vars.stopped stopped').mutex] at held
    cases held
  | skips accepted releasing free => exact never rfl fun _ _ => by simp [releasing]
  | @starts proc accepted status free =>
    refine (startLoop_fault stopped status live proc uv).trans ?_
    constructor
    · exact fun refused => .internalHandle accepted status refused
    · intro refused
      cases refused with
      | internalHandle _ _ refused => exact refused

private theorem call_fault (stopped : StoppedInv c) {call : Call}
    (h : engine.step c (.call call) = some c') :
    c'.world.fault ≠ none ↔ Refused c.world (.call call) := by
  by_cases run : ∃ args uv, call = .run args uv
  · obtain ⟨args, uv, rfl⟩ := run
    exact run_fault stopped h
  · push Not at run
    have live := (step_inv h).1
    obtain ⟨base, stack, r, -, method, world⟩ := call_inv h run
    have same : c'.world.fault = r.1.fault := by
      rw [world]
      obtain ⟨w, outcome⟩ := r
      cases outcome <;> rfl
    rw [same]
    constructor
    · intro failed
      by_contra answers
      have calm := dispatch_fault stopped.release.handles (loaded_of_inv stopped.release) method
        answers
      exact failed (calm.trans live)
    · exact dispatch_refused method

private theorem takeBatch_fault {w : World} {fromOtherThread : Bool} {procs : List Tick}
    (running : w.status = .running) :
    (takeBatch c w fromOtherThread procs).world.fault = w.fault := by
  unfold takeBatch
  rw [if_neg (not_not.mpr running)]

private theorem event_fault (path : Path engine l c) {event : UvEvent}
    (h : engine.step c (.event event) = some c') :
    c'.world.fault ≠ none ↔ Refused c.world (.event event) := by
  have inv := (endInv_of_path path).release
  have live := (step_inv h).1
  obtain ⟨ctl, runs⟩ := queue_event_inv h
  have inside : Inside c.ctl := by simp [ctl, Inside]
  by_cases queue : event = .idle ∨ event = .callFromOtherThread
  · refine iff_of_false (fun failed => failed ?_) fun refused => ?_
    · rcases queue with rfl | rfl
      · unfold stepEvent at runs
        dsimp only at runs
        split at runs
        · rename_i active
          have running : c.world.status = .running := by
            refine running_of_busy (inv.loop.busy inside live) fun releasing => ?_
            have done := (inv.done releasing live).resolve_left (not_draining (by rw [ctl]; rfl))
            rw [done.2.1] at active
            cases active
          obtain rfl := Option.some.inj runs
          refine (takeBatch_fault ?_).trans live
          exact running
        · cases runs
      · unfold stepEvent at runs
        dsimp only at runs
        split at runs
        · obtain rfl := Option.some.inj runs
          exact live
        · cases runs
    · rcases queue with rfl | rfl <;> cases refused
  · obtain ⟨idle, async⟩ := not_or.mp queue
    obtain ⟨r, reported, world⟩ := event_starts inv.loop h idle async
    have sane : ∀ t ∈ c.world.tcps, TcpLife.Sane t := by
      intro t mem
      obtain ⟨n, socket⟩ := List.mem_iff_getElem?.mp mem
      exact (inv.tcps n).sane t socket
    have same : c'.world.fault = r.1.fault := by
      rw [world]
      obtain ⟨w, callback⟩ := r
      cases callback <;> rfl
    rw [same]
    constructor
    · intro failed
      by_contra answers
      exact failed
        ((reports_fault inv.handles sane (backed_of_path path) reported answers).trans live)
    · exact reports_refused sane reported

private theorem proceed_fault (path : Path engine l c) (h : engine.step c .proceed = some c') :
    c'.world.fault = none := by
  have inv := endInv_of_path path
  have live := (step_inv h).1
  cases proceed_inv h with
  | frame ctl => exact (resume_fault inv live ctl).trans live
  | loops ctl => exact live
  | intsReturn ctl => exact live
  | intsRaise ctl caller => exact live
  | enters ctl => exact live
  | takes ctl =>
    obtain ⟨counts, pointers⟩ := inv.pointers
    refine (takeBatch_fault ?_).trans live
    exact pointers.waking ctl live
  | ends ctl caller =>
    have late := inv.late (by rw [ctl]; trivial) live
    have inside : Inside c.ctl := by simp [ctl, Inside]
    obtain ⟨handles, reqs⟩ := quiet_leaving inv ⟨inside, late.1, live⟩ ctl
    rw [endLoop_eq handles reqs]
    exact live

/-- A step fails exactly when libuv refuses it so. -/
theorem step_fails_iff (path : Path engine l c) (h : engine.step c a = some c') :
    c'.world.fault ≠ none ↔ Refused c.world a := by
  have stopped := stoppedInv_of_path path
  have live := (step_inv h).1
  cases a with
  | call call => exact call_fault stopped h
  | event event => exact event_fault path h
  | proceed =>
    refine iff_of_false (fun failed => failed (proceed_fault path h)) fun refused => ?_
    cases refused
  | other thread call =>
    have same := other_fault stopped.release h
    refine iff_of_false (fun failed => failed (same.trans live)) fun refused => ?_
    cases refused
  | _ =>
    have same := quiet_fault h (by simp) (by simp) (by simp) (by simp)
    refine iff_of_false (fun failed => failed (same.trans live)) fun refused => ?_
    cases refused

/-- No assertion of the extension has failed in a run, and no NULL handle has been used, exactly
when libuv has accepted what the extension takes it to accept. -/
theorem assertions_hold (path : Path engine l c) :
    c.world.fault = none ↔ Each (fun c a => ¬ Refused c.world a) l := by
  induction path with
  | start =>
    refine iff_of_true rfl fun p here => ?_
    cases here
  | @next l s t a before move ih =>
    have live := (step_inv move).1
    rw [each_snoc, ← step_fails_iff before move, not_not]
    exact ⟨fun calm => ⟨ih.mp live, calm⟩, And.right⟩

/-- A socket is connected, and nothing has failed; then libuv refuses to stop its reading. -/
theorem assertions_hold_connected : ∃ l c l' c', Path engine l c ∧ c.world.tcps.length = 1 ∧
    c.world.fault = none ∧ Each (fun c a => ¬ Refused c.world a) l ∧
    Path engine l' c' ∧ c'.world.fault ≠ none ∧
    ¬ Each (fun c a => ¬ Refused c.world a) l' := by
  have reached : (engine.exec connectSocket).any (fun c =>
      decide (c.world.tcps.length = 1 ∧ c.world.fault = none)) = true := by
    decide +kernel
  have refused : (engine.exec (connectSocket ++
      [.call (.tcpCloseGracefully 0 {} { readStop := -1 })])).any (fun c =>
      decide (c.world.fault ≠ none)) = true := by
    decide +kernel
  obtain ⟨l, c, path, seen⟩ := exists_path_of_exec engine _ _ reached
  obtain ⟨l', c', path', failed⟩ := exists_path_of_exec engine _ _ refused
  obtain ⟨one, live⟩ := of_decide_eq_true seen
  replace failed := of_decide_eq_true failed
  exact ⟨l, c, l', c', path, one, live, (assertions_hold path).mp live, path', failed,
    fun accepted => failed ((assertions_hold path').mpr accepted)⟩

end Steps

end AsyncEngine.Engine.Assertions
