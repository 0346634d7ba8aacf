/- The requests that libuv has accepted and not completed, and what the methods add to them. -/

import AsyncEngine.Lib.Measure
import AsyncEngine.Engine.Effects

set_option autoImplicit false
set_option relaxedAutoImplicit false

namespace AsyncEngine.Engine.Outstanding

open AsyncEngine.Lib.Measure
open AsyncEngine.Engine.Ruby
open AsyncEngine.Engine.State
open AsyncEngine.Engine.Machine
open AsyncEngine.Engine.Effects

/-- The connect request and the shutdown requests of a TCPSocket. -/
def pending (t : State.Tcp) : Nat := (if t.uvConnect then 1 else 0) + t.uvShutdowns

/-- The requests that libuv has still to complete. -/
def outstanding (w : World) : Nat :=
  w.tcpWrites.length + w.udpSends.length + w.lookups.length + (w.tcps.map pending).sum

/-- The engine does not run, and no socket is open. -/
structure Shut (w : World) : Prop where
  idle : w.status ≠ .running
  udps : ∀ u ∈ w.udps, u.uvHandle = false
  tcps : ∀ t ∈ w.tcps, t.uvHandle = false

/-- The method adds one request at most, and none when everything is shut. -/
def Grows (w : World) (r : World × Outcome) : Prop :=
  outstanding r.1 ≤ outstanding w + 1 ∧ (Shut w → outstanding r.1 ≤ outstanding w)

variable {w w' : World} {n : Nat} {t t' : State.Tcp}

theorem pending_eq_zero : pending t = 0 ↔ (!t.uvConnect && t.uvShutdowns == 0) = true := by
  unfold pending
  cases t.uvConnect <;> simp

/-- `ae_uv_num_active_reqs` finds none exactly when none is outstanding. -/
theorem noActiveReqs_iff (w : World) : noActiveReqs w = true ↔ outstanding w = 0 := by
  unfold noActiveReqs outstanding
  simp only [Bool.and_eq_true, List.isEmpty_iff, List.all_eq_true, Nat.add_eq_zero_iff,
    List.length_eq_zero_iff, List.sum_eq_zero_iff_forall_eq_nat, List.mem_map,
    forall_exists_index, and_imp, forall_apply_eq_imp_iff₂, pending_eq_zero]

theorem lists_of_outstanding (none : outstanding w = 0) :
    w.tcpWrites = [] ∧ w.udpSends = [] ∧ w.lookups = [] := by
  unfold outstanding at none
  refine ⟨?_, ?_, ?_⟩
  · exact List.length_eq_zero_iff.mp (by omega)
  · exact List.length_eq_zero_iff.mp (by omega)
  · exact List.length_eq_zero_iff.mp (by omega)

theorem outstanding_congr (tcps : w'.tcps = w.tcps) (tcpWrites : w'.tcpWrites = w.tcpWrites)
    (udpSends : w'.udpSends = w.udpSends) (lookups : w'.lookups = w.lookups) :
    outstanding w' = outstanding w := by
  unfold outstanding
  rw [tcps, tcpWrites, udpSends, lookups]

theorem outstanding_setTcp (socket : w.tcps[n]? = some t) (t' : State.Tcp) :
    outstanding (w.setTcp n t') + pending t = outstanding w + pending t' := by
  have sums := sum_map_set (y := t') pending socket
  unfold outstanding World.setTcp
  dsimp only
  omega

theorem outstanding_kept (socket : w.tcps[n]? = some t) (same : pending t' = pending t) :
    outstanding (w.setTcp n t') = outstanding w := by
  have sums := outstanding_setTcp socket t'
  omega

theorem outstanding_own {file : File} (h : FrameOf file w w') (tcp : file ≠ .tcp)
    (write : file ≠ .write) (proc : file ≠ .proc) : outstanding w' = outstanding w := by
  have same := untouched_own h
  exact outstanding_congr (same.tcps tcp) (same.tcpWrites write) (same.udpSends proc)
    (same.lookups proc)

theorem pending_closed (t : State.Tcp) :
    pending (Tcp.cancelTimerConnectTimeout (Tcp.closeUvHandle t)) = pending t := by
  obtain ⟨uvTimers, timer, kept⟩ := cancel_keeps (Tcp.closeUvHandle t)
  rw [kept]
  rfl

section Methods

private theorem grows_same {r : World × Outcome} (same : outstanding r.1 = outstanding w) :
    Grows w r :=
  ⟨by omega, fun _ => by omega⟩

private theorem grows_checked {α : Type} {check : Check α} {go : α → World × Outcome}
    (pass : ∀ x, check = .ok x → outstanding (go x).1 ≤ outstanding w + 1 ∧ ¬ Shut w) :
    Grows w (checked w check go) := by
  apply checked_cases
  · intro q _
    exact grows_same rfl
  · intro x passed
    obtain ⟨most, opened⟩ := pass x passed
    exact ⟨most, fun shut => absurd shut opened⟩

private theorem not_shut_tcp (socket : w.tcps[n]? = some t) (opened : t.uvHandle = true) :
    ¬ Shut w := by
  intro shut
  rw [shut.tcps t (List.mem_of_getElem? socket)] at opened
  cases opened

private theorem not_shut_running (running : w.status = .running) : ¬ Shut w :=
  fun shut => shut.idle running

/-- `send_datagram` adds one request of its own socket, or none. -/
structure Sent (n : Nat) (w w' : World) : Prop where
  tcps : w'.tcps = w.tcps
  tcpWrites : w'.tcpWrites = w.tcpWrites
  lookups : w'.lookups = w.lookups
  udpSends : w'.udpSends = w.udpSends ∨
    ∃ send, send.socket = n ∧ w'.udpSends = w.udpSends ++ [send]

theorem sendDatagram_sent (w : World) (n : Nat) (u : State.Udp) (args : Args)
    (uv : UvAnswers) : Sent n w (Udp.sendDatagram w n u args uv).1 := by
  have ends {r r' : World × Outcome} (condition : Prop) [Decidable condition]
      (yes : Sent n w r.1) (no : Sent n w r'.1) : Sent n w (if condition then r else r').1 := by
    split
    · exact yes
    · exact no
  apply checked_cases (P := fun r => Sent n w r.1)
  · intro q _
    exact ⟨rfl, rfl, rfl, .inl rfl⟩
  · intro p _
    cases p.proc with
    | none =>
      apply ends <;> dsimp only [Option.map_none] <;> split
      · exact ⟨rfl, rfl, rfl, .inr ⟨_, rfl, rfl⟩⟩
      · exact ⟨rfl, rfl, rfl, .inl rfl⟩
      · exact ⟨rfl, rfl, rfl, .inr ⟨_, rfl, rfl⟩⟩
      · exact ⟨rfl, rfl, rfl, .inl rfl⟩
    | some proc =>
      apply ends <;> dsimp only [Option.map_some] <;> split
      · exact ⟨rfl, rfl, rfl, .inr ⟨_, rfl, rfl⟩⟩
      · exact ⟨rfl, rfl, rfl, .inl rfl⟩
      · exact ⟨rfl, rfl, rfl, .inr ⟨_, rfl, rfl⟩⟩
      · exact ⟨rfl, rfl, rfl, .inl rfl⟩

private theorem Sent.outstanding (sent : Sent n w w') : outstanding w' ≤ outstanding w + 1 := by
  unfold Outstanding.outstanding
  rw [sent.tcps, sent.tcpWrites, sent.lookups]
  rcases sent.udpSends with same | ⟨send, -, added⟩
  · rw [same]
    omega
  · rw [added, List.length_append, List.length_singleton]
    omega

private theorem sendDatagram_grows {u : State.Udp} (found : w.udps[n]? = some u) (args : Args)
    (uv : UvAnswers) : Grows w (Udp.sendDatagram w n u args uv) := by
  refine ⟨(sendDatagram_sent w n u args uv).outstanding, fun shut => ?_⟩
  have closed := shut.udps u (List.mem_of_getElem? found)
  apply checked_cases (P := fun r => outstanding r.1 ≤ outstanding w)
  · intro q _
    exact Nat.le_refl _
  · intro p passed
    obtain ⟨_, _, passed⟩ := of_bind passed
    obtain ⟨_, opened, _⟩ := of_bind passed
    rw [open_of_check opened] at closed
    cases closed

private theorem resolve_grows (args : Args) (uv : UvAnswers) :
    Grows w (Procs.resolve w args uv) := by
  apply grows_checked
  intro proc passed
  refine ⟨?_, not_shut_running (running_of_bind passed)⟩
  split
  · exact Nat.le_succ _
  · simp only [outstanding, World.push, aeStoreProc, List.length_append, List.length_singleton]
    omega

private theorem sendData_grows (socket : w.tcps[n]? = some t) (args : Args) (uv : UvAnswers) :
    Grows w (Tcp.sendData w n t args uv) := by
  apply grows_checked
  intro p passed
  have opened : t.uvHandle = true := by
    obtain ⟨_, _, passed⟩ := of_bind passed
    obtain ⟨_, opened, _⟩ := of_bind passed
    exact open_of_check opened
  refine ⟨?_, not_shut_tcp socket opened⟩
  split
  · split
    · exact Nat.le_succ _
    · simp only [outstanding, List.length_append, List.length_singleton]
      omega
  · dsimp only
    split
    · simp only [outstanding]
      omega
    · simp only [outstanding, World.push, List.length_append, List.length_singleton]
      omega

private theorem ipPort_outstanding (address : List UInt8) (ipType : IpParser.Machine.IpType) :
    outstanding (aeIpUtilsGetIpPort w address ipType).1 = outstanding w := by
  cases ipType <;> rfl

private theorem tcpInit_outstanding (p : Tcp.NewArgs) (uv : UvAnswers) :
    outstanding (Tcp.initInstance w p uv).1 ≤ outstanding w + 1 := by
  have appended {w' : World} {t' : State.Tcp} (tcps : w'.tcps = w.tcps ++ [t'])
      (tcpWrites : w'.tcpWrites = w.tcpWrites) (udpSends : w'.udpSends = w.udpSends)
      (lookups : w'.lookups = w.lookups) (least : pending t' ≤ 1) :
      outstanding w' ≤ outstanding w + 1 := by
    unfold outstanding
    rw [tcps, tcpWrites, udpSends, lookups, List.map_append, List.sum_append]
    simp only [List.map_cons, List.map_nil, List.sum_singleton]
    omega
  unfold Tcp.initInstance
  dsimp only
  split
  · exact appended rfl rfl rfl rfl (Nat.zero_le 1)
  · cases p.bindIp with
    | none =>
      dsimp only [Option.map_none]
      split
      · exact appended rfl rfl rfl rfl (Nat.zero_le 1)
      · split
        · exact appended rfl rfl rfl rfl (Nat.zero_le 1)
        · refine appended rfl rfl rfl rfl ?_
          unfold pending
          dsimp only
          split <;> omega
    | some ip =>
      dsimp only [Option.map_some]
      split
      · exact appended rfl rfl rfl rfl (Nat.zero_le 1)
      · split
        · exact appended rfl rfl rfl rfl (Nat.zero_le 1)
        · refine appended rfl rfl rfl rfl ?_
          unfold pending
          dsimp only
          split <;> omega

private theorem tcpNew_grows (args : Args) (uv : UvAnswers) : Grows w (Tcp.new w args uv) := by
  apply grows_checked
  intro p passed
  exact ⟨tcpInit_outstanding p uv, not_shut_running (running_of_bind passed)⟩

private theorem localAddress_grows (socket : w.tcps[n]? = some t) (uv : UvAnswers) :
    Grows w (Tcp.localAddress w t uv) := by
  apply grows_checked
  intro _ passed
  refine ⟨?_, not_shut_tcp socket (open_of_check passed)⟩
  split
  · exact Nat.le_succ _
  · dsimp only
    rw [ipPort_outstanding]
    exact Nat.le_succ _

private theorem peerAddress_grows (socket : w.tcps[n]? = some t) (uv : UvAnswers) :
    Grows w (Tcp.peerAddress w t uv) := by
  apply grows_checked
  intro _ passed
  refine ⟨?_, not_shut_tcp socket (open_of_check passed)⟩
  split
  · exact Nat.le_succ _
  · split
    · exact Nat.le_succ _
    · dsimp only
      rw [ipPort_outstanding]
      exact Nat.le_succ _

private theorem setTcp_outstanding (socket : w.tcps[n]? = some t)
    (more : pending t' ≤ pending t + 1) : outstanding (w.setTcp n t') ≤ outstanding w + 1 := by
  have sums := outstanding_setTcp socket t'
  omega

private theorem setConnectTimeout_grows (socket : w.tcps[n]? = some t) (timeout : Value)
    (uv : UvAnswers) : Grows w (Tcp.setConnectTimeout w n t timeout uv) := by
  apply grows_checked
  intro delay passed
  obtain ⟨_, opened, _⟩ := of_bind passed
  refine ⟨?_, not_shut_tcp socket (open_of_check opened)⟩
  dsimp only
  split
  · apply setTcp_outstanding socket
    obtain ⟨uvTimers, timer, kept⟩ := cancel_keeps { t with
      uvTimers := t.uvTimers ++ [{ active := decide (uv.timerStart = 0) }],
      timerConnectTimeout := some t.uvTimers.length }
    rw [kept]
    exact Nat.le_succ _
  · exact setTcp_outstanding socket (Nat.le_succ _)

private theorem tcpClose_grows (socket : w.tcps[n]? = some t) : Grows w (Tcp.close w n t) := by
  apply grows_checked
  intro _ passed
  refine ⟨?_, not_shut_tcp socket (open_of_check passed)⟩
  have kept := outstanding_kept socket (pending_closed t)
  dsimp only
  split
  · show outstanding (w.setTcp n _) ≤ outstanding w + 1
    omega
  · show outstanding (w.setTcp n _) ≤ outstanding w + 1
    omega

private theorem closeGracefully_grows (socket : w.tcps[n]? = some t) (args : Args)
    (uv : UvAnswers) : Grows w (Tcp.closeGracefully w n t args uv) := by
  apply grows_checked
  intro _ passed
  obtain ⟨_, opened, _⟩ := of_bind passed
  refine ⟨?_, not_shut_tcp socket (open_of_check opened)⟩
  split
  · split
    · exact Nat.le_succ _
    · dsimp only
      split
      · exact setTcp_outstanding socket (Nat.le_succ _)
      · show outstanding (w.setTcp n _) ≤ outstanding w + 1
        exact setTcp_outstanding socket (Nat.le_refl _)
  · exact setTcp_outstanding socket (Nat.le_succ _)

/-- Every method adds one request at most, and none when everything is shut. -/
theorem dispatch_grows {call : Call} {r : World × Outcome} (h : dispatch w call = some r) :
    Grows w r := by
  have map {α : Type} {o : Option α} {f : α → World × Outcome} (grows : ∀ x, o = some x →
      Grows w (f x)) (h : o.map f = some r) : Grows w r := by
    obtain ⟨x, found, rfl⟩ := Option.map_eq_some_iff.mp h
    exact grows x found
  by_cases own : fileOf call ≠ .tcp ∧ fileOf call ≠ .write ∧ fileOf call ≠ .proc
  · exact grows_same (outstanding_own (dispatch_own h) own.1 own.2.1 own.2.2)
  · cases call with
    | udpSendDatagram n args uv => exact map (fun u found => sendDatagram_grows found args uv) h
    | dnsResolve args uv =>
      obtain rfl := Option.some.inj h
      exact resolve_grows args uv
    | tcpNew args uv =>
      obtain rfl := Option.some.inj h
      exact tcpNew_grows args uv
    | tcpSendData n args uv => exact map (fun t socket => sendData_grows socket args uv) h
    | tcpLocalAddress n uv => exact map (fun t socket => localAddress_grows socket uv) h
    | tcpPeerAddress n uv => exact map (fun t socket => peerAddress_grows socket uv) h
    | tcpSetConnectTimeout n timeout uv =>
      exact map (fun t socket => setConnectTimeout_grows socket timeout uv) h
    | tcpClose n => exact map (fun t socket => tcpClose_grows socket) h
    | tcpCloseGracefully n args uv =>
      exact map (fun t socket => closeGracefully_grows socket args uv) h
    | _ => exact absurd ⟨by simp [fileOf], by simp [fileOf], by simp [fileOf]⟩ own

theorem dispatch_sends {call : Call} {r : World × Outcome} (h : dispatch w call = some r) :
    ∀ send ∈ r.1.udpSends, send ∈ w.udpSends ∨ send.socket < w.udps.length := by
  by_cases file : fileOf call = .proc
  · cases call with
    | udpSendDatagram n args uv =>
      obtain ⟨u, found, rfl⟩ := Option.map_eq_some_iff.mp h
      intro send here
      rcases (sendDatagram_sent w n u args uv).udpSends with same | ⟨new, socket, added⟩
      · rw [same] at here
        exact .inl here
      · rw [added] at here
        rcases List.mem_append.mp here with old | new
        · exact .inl old
        · obtain rfl := List.mem_singleton.mp new
          rw [socket]
          exact .inr (List.getElem?_eq_some_iff.mp found).1
    | dnsResolve args uv =>
      obtain rfl := Option.some.inj h
      apply checked_cases (P := fun r => ∀ send ∈ r.1.udpSends,
        send ∈ w.udpSends ∨ send.socket < w.udps.length)
      · exact fun _ _ send here => .inl here
      · intro proc _
        split
        · exact fun send here => .inl here
        · exact fun send here => .inl here
    | _ => cases file
  · rw [(untouched_own (dispatch_own h)).udpSends file]
    exact fun send here => .inl here

theorem destroyHandle_outstanding (w : World) (key : Handle) :
    outstanding (destroyHandle w key).1 = outstanding w := by
  cases key with
  | timer n =>
    exact outstanding_own (destroyHandle_own w (.timer n)) (by simp [fileOfKey])
      (by simp [fileOfKey]) (by simp [fileOfKey])
  | udp n =>
    exact outstanding_own (destroyHandle_own w (.udp n)) (by simp [fileOfKey])
      (by simp [fileOfKey]) (by simp [fileOfKey])
  | tcp n =>
    unfold destroyHandle
    dsimp only
    split
    · rename_i t socket
      apply checked_cases (P := fun r => outstanding r.1 = outstanding w)
      · intro q _
        rfl
      · intro _ _
        dsimp only
        split
        · exact outstanding_kept socket (pending_closed t)
        · exact outstanding_kept socket (pending_closed t)
    · rfl

end Methods

end AsyncEngine.Engine.Outstanding
