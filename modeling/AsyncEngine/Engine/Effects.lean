/- What the functions of each file can change: everything else of the world is as before. -/

import AsyncEngine.Engine.Machine

set_option autoImplicit false
set_option relaxedAutoImplicit false

namespace AsyncEngine.Engine.Effects

open AsyncEngine.IpParser.Machine
open AsyncEngine.Engine.Ruby
open AsyncEngine.Engine.State

/-- A method that ends without calling user code. -/
def Ends (result : World × Outcome) : Prop := ∃ q, result.2 = .ends q

theorem checked_inv {α : Type} {w : World} {check : Check α} {go : α → World × Outcome}
    {r : World × Outcome} (h : checked w check go = r) :
    (∃ q, check = .error q ∧ r = (w, .ends q)) ∨ ∃ a, check = .ok a ∧ go a = r := by
  cases check with
  | ok a => exact .inr ⟨a, rfl, h⟩
  | error q => exact .inl ⟨q, rfl, h.symm⟩

theorem checked_cases {α : Type} {w : World} {check : Check α} {go : α → World × Outcome}
    {P : World × Outcome → Prop} (stop : ∀ q, check = .error q → P (w, .ends q))
    (pass : ∀ a, check = .ok a → P (go a)) : P (checked w check go) := by
  unfold checked
  cases h : check with
  | ok a => exact pass a h
  | error q => exact stop q h

theorem of_bind {α β : Type} {x : Check α} {f : α → Check β} {b : β} (h : x >>= f = .ok b) :
    ∃ a, x = .ok a ∧ f a = .ok b := by
  cases x with
  | ok a => exact ⟨a, rfl, h⟩
  | error e => cases h

/-- Every result with which the check is cut short has the property. -/
def Stops (P : Return → Prop) {α : Type} (x : Check α) : Prop := ∀ q, x = .error q → P q

section Stops

variable {P : Return → Prop} {α β : Type}

theorem Stops.bind {x : Check α} {f : α → Check β} (first : Stops P x)
    (rest : ∀ a, Stops P (f a)) : Stops P (x >>= f) := by
  intro q h
  cases x with
  | ok a => exact rest a q h
  | error e =>
    obtain rfl : e = q := Except.error.inj h
    exact first e rfl

theorem stops_pure (a : α) : Stops P (pure a : Check α) := by
  intro q h
  cases h

theorem stops_raise {error : RubyError} (raised : P (.raised error)) :
    Stops P (rbRaise error : Check α) := by
  intro q h
  obtain rfl := Except.error.inj h
  exact raised

theorem stops_ite {Q : Prop} [Decidable Q] {x y : Check α} (hx : Stops P x) (hy : Stops P y) :
    Stops P (if Q then x else y) := by
  split
  · exact hx
  · exact hy

theorem stops_count {args : Args} {min max : Nat}
    (wrong : P (.raised (.argument "wrong number of arguments"))) :
    Stops P (checkNumArgs args min max) :=
  stops_ite (stops_raise wrong) (stops_pure _)

theorem stops_open {uvHandle : Bool} (closed : P (.value .false)) :
    Stops P (checkUvHandleIsOpen uvHandle) := by
  refine stops_ite (stops_pure _) fun q h => ?_
  obtain rfl := Except.error.inj h
  exact closed

theorem stops_block {k : Nat} {args : Args}
    (noProc : P (.raised (.type s!"argument {k} is not a Proc"))) :
    Stops P (getBlockOrProc k args) := by
  unfold getBlockOrProc
  split
  · exact stops_pure _
  · split
    · exact stops_pure _
    · exact stops_pure _
    · exact stops_raise noProc

end Stops

theorem open_of_check {b : Bool} {u : Unit} (h : checkUvHandleIsOpen b = .ok u) : b = true := by
  cases b
  · cases h
  · rfl

theorem running_of_check {s : AeStatus} {u : Unit} (h : aeCheckStatus s = .ok u) :
    s = .running := by
  cases s
  · rfl
  · cases h
  · cases h

theorem running_of_bind {α : Type} {s : AeStatus} {f : Unit → Check α} {a : α}
    (h : aeCheckStatus s >>= f = .ok a) : s = .running := by
  obtain ⟨_, running, -⟩ := of_bind h
  exact running_of_check running

/-- Membership of the handles outside the given kind is unchanged, and handles are inserted only
while running. -/
def HandlesKept (own : Handle → Prop) (status : AeStatus) (before after : List Handle) : Prop :=
  (∀ h, ¬ own h → (h ∈ after ↔ h ∈ before)) ∧
    (status ≠ .running → ∀ h ∈ after, h ∈ before)

private theorem handlesKept_refl {own : Handle → Prop} {s : AeStatus} {l : List Handle} :
    HandlesKept own s l l :=
  ⟨fun _ _ => Iff.rfl, fun _ _ here => here⟩

private theorem handlesKept_filter {own : Handle → Prop} {s : AeStatus} {h : Handle}
    {l : List Handle} (hh : own h) : HandlesKept own s l (l.filter (· ≠ h)) := by
  refine ⟨?_, fun _ g here => (List.mem_filter.mp here).1⟩
  intro g hg
  have different : g ≠ h := fun e => hg (e ▸ hh)
  simp [different]

private theorem handlesKept_insert {own : Handle → Prop} {s : AeStatus} {h : Handle}
    {l : List Handle} (hh : own h) (running : s = .running) :
    HandlesKept own s l (if h ∈ l then l else l ++ [h]) := by
  refine ⟨?_, fun other => absurd running other⟩
  intro g hg
  have different : g ≠ h := fun e => hg (e ▸ hh)
  split <;> simp [different]

private theorem HandlesKept.trans {own : Handle → Prop} {s : AeStatus} {a b c : List Handle}
    (hab : HandlesKept own s a b) (hbc : HandlesKept own s b c) : HandlesKept own s a c :=
  ⟨fun h hh => (hbc.1 h hh).trans (hab.1 h hh),
    fun other h here => hab.2 other h (hbc.2 other h here)⟩

def isTimer : Handle → Prop
  | .timer _ => True
  | _ => False

def isUdp : Handle → Prop
  | .udp _ => True
  | _ => False

def isTcp : Handle → Prop
  | .tcp _ => True
  | _ => False

section Timers

/-- The functions of ae_timer.c change only the Timers, their keys in `@_handles` and the trace,
to which they add nothing but insertions. -/
def TimerFrame (w w' : World) : Prop :=
  ∃ timers handles events fault,
    w' = { w with
      timers := timers, handles := handles, trace := events ++ w.trace, fault := fault } ∧
    HandlesKept isTimer w.status w.handles handles ∧
    ∀ e ∈ events, ∃ n, e = .inserted (.timer n) .running

/-- What a method of a Timer does to the world, and that it ends by itself. -/
def TimerEffect (w : World) (result : World × Outcome) : Prop :=
  TimerFrame w result.1 ∧ Ends result

theorem setTimer_frame (w : World) (n : Nat) (t : State.Timer) : TimerFrame w (w.setTimer n t) :=
  ⟨_, _, [], _, rfl, handlesKept_refl, by simp⟩

theorem timerFrame_refl (w : World) : TimerFrame w w :=
  ⟨_, _, [], _, rfl, handlesKept_refl, by simp⟩

private theorem timer_same (w : World) (q : Return) : TimerEffect w (w, .ends q) :=
  ⟨timerFrame_refl w, _, rfl⟩

theorem timerCloseHandle_frame (w : World) (n : Nat) (t : State.Timer) :
    TimerFrame w (Timer.closeHandle w n t) := by
  unfold Timer.closeHandle
  split
  · split
    · exact ⟨_, _, [], _, rfl, handlesKept_filter trivial, by simp⟩
    · exact ⟨_, _, [], _, rfl, handlesKept_refl, by simp⟩
  · exact ⟨_, _, [], _, rfl, handlesKept_refl, by simp⟩

private theorem timerInit_effect (w : World) (b : Bool) (delay interval : Int) (proc : Nat)
    (uv : UvAnswers) (running : w.status = .running) :
    TimerEffect w (Timer.initInstance w b delay interval proc uv) := by
  unfold Timer.initInstance
  split
  · exact ⟨⟨_, _, [], _, rfl, handlesKept_refl, by simp⟩, _, rfl⟩
  · dsimp only
    split
    · exact ⟨⟨_, _, [.inserted (.timer w.timers.length) w.status], _, rfl,
        (handlesKept_insert (h := .timer w.timers.length) trivial running).trans
          (handlesKept_filter trivial), by simp [running]⟩, _, rfl⟩
    · exact ⟨⟨_, _, [.inserted (.timer w.timers.length) w.status], _, rfl,
        handlesKept_insert trivial running, by simp [running]⟩, _, rfl⟩

theorem timerNew_effect (w : World) (args : Args) (uv : UvAnswers) :
    TimerEffect w (Timer.new w args uv) :=
  checked_cases (fun q _ => timer_same w q) fun _ h =>
    timerInit_effect w _ _ _ _ _ (running_of_bind h)

theorem periodicNew_effect (w : World) (args : Args) (uv : UvAnswers) :
    TimerEffect w (Timer.periodicNew w args uv) :=
  checked_cases (fun q _ => timer_same w q) fun _ h =>
    timerInit_effect w _ _ _ _ _ (running_of_bind h)

theorem timerPause_effect (w : World) (n : Nat) (t : State.Timer) (uv : UvAnswers) :
    TimerEffect w (Timer.pause w n t uv) := by
  refine checked_cases (fun q _ => timer_same w q) fun _ _ => ?_
  split
  · exact timer_same w _
  · exact ⟨setTimer_frame w _ _, _, rfl⟩

private theorem uvTimerStart_effect (w : World) (n : Nat) (t : State.Timer) (r : Int)
    (uv : UvAnswers) : TimerEffect w (Timer.uvTimerStart w n t r uv) := by
  unfold Timer.uvTimerStart
  split
  · exact ⟨setTimer_frame w _ _, _, rfl⟩
  · exact ⟨setTimer_frame w _ _, _, rfl⟩

theorem timerRestart_effect (w : World) (n : Nat) (t : State.Timer) (args : Args)
    (uv : UvAnswers) : TimerEffect w (Timer.restart w n t args uv) := by
  unfold Timer.restart
  split
  · refine checked_cases (fun q _ => timer_same w q) fun interval _ => ?_
    cases interval with
    | none => exact uvTimerStart_effect w _ _ _ _
    | some interval =>
      dsimp only
      split
      · exact uvTimerStart_effect w _ _ _ _
      · split
        · exact uvTimerStart_effect w _ _ _ _
        · exact ⟨setTimer_frame w _ _, _, rfl⟩
  · exact checked_cases (fun q _ => timer_same w q) fun _ _ => uvTimerStart_effect w _ _ _ _

theorem timerClose_effect (w : World) (n : Nat) (t : State.Timer) :
    TimerEffect w (Timer.close w n t) :=
  checked_cases (fun q _ => timer_same w q) fun _ _ => ⟨timerCloseHandle_frame w _ _, _, rfl⟩

theorem uvTimerCallback_frame (w : World) (n : Nat) (t : State.Timer) :
    TimerFrame w (Timer.uvTimerCallback (w.setTimer n t) n t).1 := by
  unfold Timer.uvTimerCallback
  split
  · exact setTimer_frame w n t
  · obtain ⟨timers, handles, events, fault, after, kept, own⟩ :=
      timerCloseHandle_frame (w.setTimer n t) n t
    exact ⟨timers, handles, events, fault, after, kept, own⟩

theorem timerDestroy_effect (w : World) (n : Nat) (t : State.Timer) :
    TimerEffect w (Timer.destroy w n t) :=
  timerClose_effect w n t

end Timers

section Udps

/-- The functions of ae_udp.c other than those on send requests. -/
def UdpFrame (w w' : World) : Prop :=
  ∃ udps handles recvData events fault,
    w' = { w with
      udps := udps, handles := handles, recvData := recvData, trace := events ++ w.trace,
      fault := fault } ∧
    HandlesKept isUdp w.status w.handles handles ∧
    ∀ e ∈ events, (∃ n, e = .inserted (.udp n) .running) ∨ (∃ a t, e = .switched a t) ∨
      e = .invalidIpType

def UdpEffect (w : World) (result : World × Outcome) : Prop :=
  UdpFrame w result.1 ∧ Ends result

theorem udpFrame_refl (w : World) : UdpFrame w w :=
  ⟨_, _, _, [], _, rfl, handlesKept_refl, by simp⟩

private theorem udp_same (w : World) (q : Return) : UdpEffect w (w, .ends q) :=
  ⟨udpFrame_refl w, _, rfl⟩

private theorem setUdp_effect (w : World) (n : Nat) (u : State.Udp) (q : Return) :
    UdpEffect w (w.setUdp n u, .ends q) :=
  ⟨⟨_, _, _, [], _, rfl, handlesKept_refl, by simp⟩, _, rfl⟩

private theorem udpIpPort_frame (w : World) (address : List UInt8) (ipType : IpType) :
    UdpFrame w (aeIpUtilsGetIpPort w address ipType).1 := by
  cases ipType with
  | ipv4 => exact udpFrame_refl w
  | ipv6 => exact udpFrame_refl w
  | ipv6Reference => exact ⟨_, _, _, [.invalidIpType], _, rfl, handlesKept_refl, by simp⟩
  | noIp => exact ⟨_, _, _, [.invalidIpType], _, rfl, handlesKept_refl, by simp⟩

private theorem udpInit_effect (w : World) (ipType : IpType) (uv : UvAnswers)
    (running : w.status = .running) : UdpEffect w (Udp.initInstance w ipType uv) := by
  unfold Udp.initInstance
  dsimp only
  split
  · exact ⟨⟨_, _, _, [], _, rfl, handlesKept_refl, by simp⟩, _, rfl⟩
  · split
    · exact ⟨⟨_, _, _, [.switched _ _], _, rfl, handlesKept_refl, by simp⟩, _, rfl⟩
    · split
      · exact ⟨⟨_, _, _, [.switched _ _], _, rfl, handlesKept_refl, by simp⟩, _, rfl⟩
      · exact ⟨⟨_, _, _, [.inserted (.udp w.udps.length) w.status, .switched _ _], _, rfl,
          handlesKept_insert trivial running, by simp [running]⟩, _, rfl⟩

theorem udpNew_effect (w : World) (args : Args) (uv : UvAnswers) :
    UdpEffect w (Udp.new w args uv) :=
  checked_cases (fun q _ => udp_same w q) fun _ h => udpInit_effect w _ _ (running_of_bind h)

theorem udpLocalAddress_effect (w : World) (u : State.Udp) (uv : UvAnswers) :
    UdpEffect w (Udp.localAddress w u uv) := by
  refine checked_cases (fun q _ => udp_same w q) fun _ _ => ?_
  split
  · exact udp_same w _
  · exact ⟨udpIpPort_frame w _ _, _, rfl⟩

theorem udpPause_effect (w : World) (n : Nat) (u : State.Udp) :
    UdpEffect w (Udp.pause w n u) :=
  checked_cases (fun q _ => udp_same w q) fun _ _ => setUdp_effect w _ _ _

theorem udpResume_effect (w : World) (n : Nat) (u : State.Udp) :
    UdpEffect w (Udp.resume w n u) :=
  checked_cases (fun q _ => udp_same w q) fun _ _ => setUdp_effect w _ _ _

theorem udpSetEncoding_effect (w : World) (n : Nat) (u : State.Udp) (encoding : Encoding) :
    UdpEffect w (Udp.setEncoding w n u encoding) :=
  checked_cases (fun q _ => udp_same w q) fun _ _ => setUdp_effect w _ _ _

theorem udpClose_effect (w : World) (n : Nat) (u : State.Udp) :
    UdpEffect w (Udp.close w n u) := by
  refine checked_cases (fun q _ => udp_same w q) fun _ _ => ⟨?_, _, rfl⟩
  unfold Udp.closeHandle
  split
  · split
    · exact ⟨_, _, _, [], _, rfl, handlesKept_filter trivial, by simp⟩
    · exact ⟨_, _, _, [], _, rfl, handlesKept_refl, by simp⟩
  · exact ⟨_, _, _, [], _, rfl, handlesKept_refl, by simp⟩

theorem udpDestroy_effect (w : World) (n : Nat) (u : State.Udp) :
    UdpEffect w (Udp.destroy w n u) :=
  udpClose_effect w n u

/-- A datagram is dropped, or given to the callback whole, with the address of its sender. -/
theorem uvRecvCallback_cases {w : World} {n : Nat} {u : State.Udp} (found : w.udps[n]? = some u)
    (received : Option (List UInt8 × List UInt8)) : ∃ recvData,
    (Udp.uvRecvCallback w n u received = ({ w with recvData := recvData }, none) ∧
      ∀ b bytes source, received = some (b :: bytes, source) →
        w.status = .releasing ∨ u.paused = true) ∨
      ∃ b bytes source, w.status ≠ .releasing ∧ u.paused = false ∧
        received = some (b :: bytes, source) ∧ Udp.uvRecvCallback w n u received =
          ((aeIpUtilsGetIpPort { w with recvData := recvData } source u.ipType).1,
            some (.onDatagramReceived n (b :: bytes) u.encoding
              (aeIpUtilsGetIpPort { w with recvData := recvData } source u.ipType).2)) := by
  cases received with
  | none =>
    refine ⟨w.recvData, .inl ⟨?_, by simp⟩⟩
    unfold Udp.uvRecvCallback
    dsimp only
    split <;> rfl
  | some r =>
    obtain ⟨datagram, source⟩ := r
    cases datagram with
    | nil =>
      refine ⟨Udp.uvAllocCallback w.recvData n [], .inl ⟨?_, by simp⟩⟩
      unfold Udp.uvRecvCallback
      dsimp only
      split <;> rfl
    | cons b bytes =>
      by_cases releasing : w.status = .releasing
      · refine ⟨Udp.uvAllocCallback w.recvData n (b :: bytes), .inl ⟨?_, by simp [releasing]⟩⟩
        unfold Udp.uvRecvCallback
        dsimp only
        rw [if_pos releasing]
      · cases paused : u.paused with
        | true =>
          refine ⟨Udp.uvAllocCallback w.recvData n (b :: bytes), .inl ⟨?_, by simp⟩⟩
          unfold Udp.uvRecvCallback
          dsimp only
          rw [if_neg releasing, paused, if_pos rfl]
        | false =>
          refine ⟨{ Udp.uvAllocCallback w.recvData n (b :: bytes) with
            cdata := n, nread := (b :: bytes).length, addr := source },
            .inr ⟨b, bytes, source, releasing, rfl, rfl, ?_⟩⟩
          unfold Udp.uvRecvCallback Udp.aeRecvCallback
          dsimp only
          rw [if_neg releasing, paused, if_neg (by simp), found]
          -- Whatever an earlier datagram has left in the buffer lies behind this one.
          have own : ((Udp.uvAllocCallback w.recvData n (b :: bytes)).recvBuffers n).take
              (b :: bytes).length = b :: bytes := by
            simp [Udp.uvAllocCallback]
          dsimp only
          rw [own]

theorem uvRecvCallback_frame {w : World} {n : Nat} {u : State.Udp} (found : w.udps[n]? = some u)
    (received : Option (List UInt8 × List UInt8)) :
    UdpFrame w (Udp.uvRecvCallback w n u received).1 := by
  obtain ⟨recvData, ⟨dropped, -⟩ | ⟨b, bytes, source, -, -, -, called⟩⟩ :=
    uvRecvCallback_cases found received
  · rw [dropped]
    exact ⟨_, _, _, [], _, rfl, handlesKept_refl, by simp⟩
  · rw [called]
    obtain ⟨_, _, _, events, _, same, kept, own⟩ :=
      udpIpPort_frame { w with recvData := recvData } source u.ipType
    exact ⟨_, _, _, events, _, same, kept, own⟩

end Udps

section Procs

/-- The functions on requests whose procs are in `@_procs`. A proc is stored only while running, or
for a socket that is open. -/
def ProcFrame (w w' : World) : Prop :=
  ∃ procs procLongId udpSends lookups events fault,
    w' = { w with
      procs := procs, procLongId := procLongId, udpSends := udpSends, lookups := lookups,
      trace := events ++ w.trace, fault := fault } ∧
    (w.status ≠ .running → (∀ u ∈ w.udps, u.uvHandle = false) → ∀ p ∈ procs, p ∈ w.procs) ∧
    ∀ e ∈ events, (∃ a t, e = .switched a t) ∨ (∃ id proc, e = .accepted (.proc id) proc) ∨
      ∃ id error s, e = .completed (.proc id) error s

def ProcEffect (w : World) (result : World × Outcome) : Prop :=
  ProcFrame w result.1 ∧ Ends result

private theorem procFrame_refl (w : World) : ProcFrame w w :=
  ⟨_, _, _, _, [], _, rfl, fun _ _ _ here => here, by simp⟩

private theorem proc_same (w : World) (q : Return) : ProcEffect w (w, .ends q) :=
  ⟨procFrame_refl w, _, rfl⟩

theorem sendDatagram_effect {w : World} {n : Nat} {u : State.Udp} (found : w.udps[n]? = some u)
    (args : Args) (uv : UvAnswers) : ProcEffect w (Udp.sendDatagram w n u args uv) := by
  refine checked_cases (fun q _ => proc_same w q) fun p h => ?_
  have opened : u.uvHandle = true := by
    obtain ⟨_, _, h⟩ := of_bind h
    obtain ⟨_, opened, _⟩ := of_bind h
    exact open_of_check opened
  have stores {procs : List (Nat × Nat)} : w.status ≠ .running →
      (∀ u ∈ w.udps, u.uvHandle = false) → ∀ p ∈ procs, p ∈ w.procs := by
    intro _ closed
    rw [closed u (List.mem_of_getElem? found)] at opened
    cases opened
  have ends : ∀ {a b : World × Outcome} (c : Prop) [Decidable c], ProcEffect w a →
      ProcEffect w b → ProcEffect w (if c then a else b) := by
    intro a b c _ ha hb
    split
    · exact ha
    · exact hb
  cases p.proc with
  | none =>
    dsimp only [Option.map_none]
    refine ends _ ?_ ?_ <;> refine ⟨?_, _, rfl⟩ <;> dsimp only <;> split <;>
      exact ⟨_, _, _, _, [.switched _ _], _, rfl, stores, by simp⟩
  | some proc =>
    dsimp only [Option.map_some]
    refine ends _ ?_ ?_ <;> refine ⟨?_, _, rfl⟩ <;> dsimp only <;> split
    · exact ⟨_, _, _, _, [.accepted (.proc _) _, .switched _ _], _, rfl, stores, by simp⟩
    · exact ⟨_, _, _, _, [.switched _ _], _, rfl, stores, by simp⟩
    · exact ⟨_, _, _, _, [.accepted (.proc _) _, .switched _ _], _, rfl, stores, by simp⟩
    · exact ⟨_, _, _, _, [.switched _ _], _, rfl, stores, by simp⟩

private theorem mem_of_removed {procs : List (Nat × Nat)} {procId : Nat} {s : AeStatus}
    {P : Prop} : s ≠ .running → P →
      ∀ p ∈ procs.filter (·.1 ≠ procId), p ∈ procs :=
  fun _ _ _ here => (List.mem_filter.mp here).1

/-- How a request of `@_procs` is completed: its proc is taken out, and called unless the loop is
released. -/
structure CompletesProc (w : World) (id : Nat) (error : Option RubyError) (calls : Nat → Callback)
    (r : World × Option Callback) : Prop where
  world : ∃ fault, r.1 = { w with
    procs := w.procs.filter (·.1 ≠ id), trace := .completed (.proc id) error w.status :: w.trace
    fault := fault }
  callback : ∀ callback, r.2 = some callback →
    w.status ≠ .releasing ∧ ∃ proc, callback = calls proc

private theorem completesProc (w : World) (id : Nat) (error : Option RubyError)
    (calls : Nat → Callback) :
    let removed := aeRemoveProc (w.push (.completed (.proc id) error w.status)) id
    CompletesProc w id error calls (if w.status = .releasing then (removed.1, none)
      else match removed.2 with
        | some proc => (removed.1, some (calls proc))
        | none => (removed.1.abort .assertion, none)) := by
  dsimp only
  split
  · refine ⟨⟨_, rfl⟩, fun callback called => ?_⟩
    cases called
  · rename_i not_releasing
    split
    · rename_i proc _
      refine ⟨⟨_, rfl⟩, fun callback called => ⟨not_releasing, proc, ?_⟩⟩
      exact (Option.some.inj called).symm
    · refine ⟨⟨_, rfl⟩, fun callback called => ?_⟩
      cases called

theorem uvSendCallback_cases (w : World) (send : UdpSend) (error : Option RubyError) :
    Udp.uvSendCallback w send error = (w, none) ∨
      ∃ id, CompletesProc w id error (fun proc => .onSend id proc error)
        (Udp.uvSendCallback w send error) := by
  unfold Udp.uvSendCallback
  split
  · exact .inl rfl
  · exact .inr ⟨_, completesProc w _ error _⟩

theorem uvGetaddrinfoCallback_completes (w : World) (procId : Nat)
    (result : Except RubyError (List (List UInt8))) :
    CompletesProc w procId (Procs.errorOf result) (fun proc => .onResult procId proc result)
      (Procs.uvGetaddrinfoCallback w procId result) :=
  completesProc w procId _ _

theorem uvSendCallback_frame (w : World) (sends : List UdpSend) (send : UdpSend)
    (error : Option RubyError) :
    ProcFrame w (Udp.uvSendCallback { w with udpSends := sends } send error).1 := by
  rcases uvSendCallback_cases { w with udpSends := sends } send error with
    unasked | ⟨id, ⟨fault, world⟩, -⟩
  · rw [unasked]
    exact ⟨_, _, _, _, [], _, rfl, fun _ _ _ here => here, by simp⟩
  · rw [world]
    exact ⟨_, _, _, _, [.completed (.proc _) _ _], _, rfl, mem_of_removed, by simp⟩

theorem resolve_effect (w : World) (args : Args) (uv : UvAnswers) :
    ProcEffect w (Procs.resolve w args uv) := by
  refine checked_cases (fun q _ => proc_same w q) fun _ h => ?_
  have running := running_of_bind h
  split
  · exact proc_same w _
  · exact ⟨⟨_, _, _, _, [.accepted (.proc _) _], _, rfl, fun idle => absurd running idle, by simp⟩,
      _, rfl⟩

theorem uvGetaddrinfoCallback_frame (w : World) (lookups : List Nat) (procId : Nat)
    (result : Except RubyError (List (List UInt8))) :
    ProcFrame w (Procs.uvGetaddrinfoCallback { w with lookups := lookups } procId result).1 := by
  obtain ⟨fault, world⟩ :=
    (uvGetaddrinfoCallback_completes { w with lookups := lookups } procId result).world
  rw [world]
  exact ⟨_, _, _, _, [.completed (.proc _) _ _], _, rfl, mem_of_removed, by simp⟩

end Procs

section Queues

/-- The functions on the queues and on the procs that the module keeps. -/
def QueueFrame (w w' : World) : Prop :=
  ∃ nextTickProcs callFromOtherThreadProcs idle async handler onExitProcs fault,
    w' = { w with
      nextTickProcs := nextTickProcs, callFromOtherThreadProcs := callFromOtherThreadProcs,
      nextTickUvIdle := idle, callFromOtherThreadUvAsync := async,
      userErrorHandler := handler, onExitProcs := onExitProcs, fault := fault } ∧
    idle.isSome = w.nextTickUvIdle.isSome ∧
    async.isSome = w.callFromOtherThreadUvAsync.isSome ∧
    (w.status ≠ .running → nextTickProcs = w.nextTickProcs ∧
      callFromOtherThreadProcs = w.callFromOtherThreadProcs)

def QueueEffect (w : World) (result : World × Outcome) : Prop :=
  QueueFrame w result.1 ∧ Ends result

private theorem queue_same (w : World) (q : Return) : QueueEffect w (w, .ends q) :=
  ⟨⟨_, _, _, _, _, _, _, rfl, rfl, rfl, fun _ => ⟨rfl, rfl⟩⟩, _, rfl⟩

theorem pushNextTick_frame (w : World) (tick : Tick) (running : w.status = .running) :
    QueueFrame w (Procs.pushNextTick w tick) := by
  unfold Procs.pushNextTick
  cases h : w.nextTickUvIdle with
  | none => exact ⟨_, _, _, _, _, _, _, rfl, h ▸ rfl, rfl, fun no => absurd running no⟩
  | some b =>
    exact ⟨_, _, _, _, _, _, _, rfl, by rw [h]; rfl, rfl, fun no => absurd running no⟩

theorem pushCallFromOtherThread_frame (w : World) (tick : Tick) (running : w.status = .running) :
    QueueFrame w (Procs.pushCallFromOtherThread w tick) := by
  unfold Procs.pushCallFromOtherThread
  cases h : w.callFromOtherThreadUvAsync with
  | none => exact ⟨_, _, _, _, _, _, _, rfl, rfl, h ▸ rfl, fun no => absurd running no⟩
  | some b =>
    exact ⟨_, _, _, _, _, _, _, rfl, rfl, by rw [h]; rfl, fun no => absurd running no⟩

private theorem running_of_tickArgs {s : AeStatus} {args : Args} {proc : Nat}
    (h : Procs.tickArgs s args = .ok proc) : s = .running := by
  cases s
  · rfl
  · cases h
  · cases h

theorem nextTick_effect (w : World) (args : Args) : QueueEffect w (Procs.nextTick w args) :=
  checked_cases (fun q _ => queue_same w q) fun _ h =>
    ⟨pushNextTick_frame w _ (running_of_tickArgs h), _, rfl⟩

theorem callFromOtherThread_effect (w : World) (args : Args) :
    QueueEffect w (Procs.callFromOtherThread w args) :=
  checked_cases (fun q _ => queue_same w q) fun _ h =>
    ⟨pushCallFromOtherThread_frame w _ (running_of_tickArgs h), _, rfl⟩

theorem stop_effect (w : World) : QueueEffect w (Procs.stop w) := by
  refine checked_cases (fun q _ => queue_same w q) fun _ h => ⟨?_, _, rfl⟩
  split
  · exact pushNextTick_frame w _ (running_of_check h)
  · exact pushCallFromOtherThread_frame w _ (running_of_check h)

theorem onError_effect (w : World) (args : Args) : QueueEffect w (Procs.onError w args) :=
  checked_cases (fun q _ => queue_same w q) fun _ _ =>
    ⟨⟨_, _, _, _, _, _, _, rfl, rfl, rfl, fun _ => ⟨rfl, rfl⟩⟩, _, rfl⟩

theorem unsetOnError_effect (w : World) : QueueEffect w (Procs.unsetOnError w) :=
  ⟨⟨_, _, _, _, _, _, _, rfl, rfl, rfl, fun _ => ⟨rfl, rfl⟩⟩, _, rfl⟩

theorem onExit_effect (w : World) (args : Args) : QueueEffect w (Procs.onExit w args) :=
  checked_cases (fun q _ => queue_same w q) fun _ _ =>
    ⟨⟨_, _, _, _, _, _, _, rfl, rfl, rfl, fun _ => ⟨rfl, rfl⟩⟩, _, rfl⟩

theorem unsetOnExit_effect (w : World) : QueueEffect w (Procs.unsetOnExit w) :=
  ⟨⟨_, _, _, _, _, _, _, rfl, rfl, rfl, fun _ => ⟨rfl, rfl⟩⟩, _, rfl⟩

theorem runWhileRunning_effect (w : World) (proc : Nat) (running : w.status = .running) :
    QueueEffect w (Machine.runWhileRunning w proc) := by
  unfold Machine.runWhileRunning
  split
  · exact queue_same w _
  · split
    · exact ⟨pushNextTick_frame w _ running, _, rfl⟩
    · exact ⟨pushCallFromOtherThread_frame w _ running, _, rfl⟩

end Queues

section Loops

/-- A loop that starts, with the proc on its first queue. -/
def startedLoop (w : World) (proc : Nat) : World :=
  Procs.pushNextTick
    { w with
      mutex := some w.currentThread, uvLoop := true, thread := some w.currentThread,
      pid := w.getpid, nextTickUvIdle := some false, callFromOtherThreadUvAsync := some false,
      ubfUvAsync := some false, status := .running } (.user proc)

/-- The loop starts, unless an assertion fails before or after. -/
theorem startLoop_cases (w : World) (proc : Nat) (uv : UvAnswers) :
    Machine.startLoop w proc uv = w.abort .assertion ∨
      ∃ fault, Machine.startLoop w proc uv = { startedLoop w proc with fault := fault } := by
  unfold Machine.startLoop
  split
  · exact .inl rfl
  · dsimp only
    split
    · exact .inr ⟨_, rfl⟩
    · exact .inr ⟨_, rfl⟩

theorem startLoop_trace (w : World) (proc : Nat) (uv : UvAnswers) :
    (Machine.startLoop w proc uv).trace = w.trace := by
  rcases startLoop_cases w proc uv with aborts | ⟨fault, runs⟩
  · rw [aborts]
    rfl
  · rw [runs]
    rfl

/-- `ae_release_loop` closes the internal handles and drops the procs, or an assertion fails. -/
theorem closeInternalHandles_cases (w : World) :
    Machine.closeInternalHandles w = w.abort .assertion ∨
      Machine.closeInternalHandles w = { w with
        nextTickUvIdle := none, callFromOtherThreadUvAsync := none, ubfUvAsync := none
        procs := [] } := by
  unfold Machine.closeInternalHandles
  split
  · exact .inl rfl
  · exact .inr rfl

theorem closeInternalHandles_trace (w : World) :
    (Machine.closeInternalHandles w).trace = w.trace := by
  rcases closeInternalHandles_cases w with aborts | closes
  · rw [aborts]
    rfl
  · rw [closes]

theorem closeInternalHandles_status (w : World) :
    (Machine.closeInternalHandles w).status = w.status := by
  rcases closeInternalHandles_cases w with aborts | closes
  · rw [aborts]
    rfl
  · rw [closes]

end Loops

section Tcps

theorem cancel_keeps (t : State.Tcp) : ∃ uvTimers timer,
    Tcp.cancelTimerConnectTimeout t =
      { t with uvTimers := uvTimers, timerConnectTimeout := timer } := by
  unfold Tcp.cancelTimerConnectTimeout
  split
  · exact ⟨_, _, rfl⟩
  · exact ⟨_, _, rfl⟩

theorem destroyed_status (t : State.Tcp) :
    (Tcp.cancelTimerConnectTimeout (Tcp.closeUvHandle t)).status = t.status := by
  obtain ⟨uvTimers, timer, kept⟩ := cancel_keeps (Tcp.closeUvHandle t)
  rw [kept]
  rfl

private theorem tcpNewTypes_spec {destIp : List UInt8} {destPort bindPort : Int}
    {bindIp : Option (List UInt8)} {p : Tcp.NewArgs}
    (h : (if ipTypeOf destIp = .noIp then
        rbRaise (.type "destination IP is not valid IPv4 or IPv6")
      else
        match bindIp with
        | none => pure ⟨destIp, destPort, none, bindPort, ipTypeOf destIp⟩
        | some ip =>
          if ipTypeOf ip = .noIp then rbRaise (.type "bind IP is not valid IPv4 or IPv6")
          else if ipTypeOf ip ≠ ipTypeOf destIp then rbRaise (.type
            "bind IP does not belong to the same IP family of the destination IP")
          else pure ⟨destIp, destPort, some ip, bindPort, ipTypeOf destIp⟩ :
        Check Tcp.NewArgs) = .ok p) : p.ipType = ipTypeOf p.destIp ∧ p.ipType ≠ .noIp := by
  generalize family : ipTypeOf destIp = ipType at h
  split at h
  · cases h
  · rename_i plain
    split at h
    · obtain rfl := Except.ok.inj h
      exact ⟨family.symm, plain⟩
    · split at h
      · cases h
      · split at h
        · cases h
        · obtain rfl := Except.ok.inj h
          exact ⟨family.symm, plain⟩

theorem tcpNewArgs_spec {s : AeStatus} {args : Args} {p : Tcp.NewArgs}
    (h : Tcp.newArgs s args = .ok p) :
    s = .running ∧ p.ipType = ipTypeOf p.destIp ∧ p.ipType ≠ .noIp := by
  unfold Tcp.newArgs at h
  obtain ⟨_, running, h⟩ := of_bind h
  obtain ⟨_, _, h⟩ := of_bind h
  obtain ⟨_, _, h⟩ := of_bind h
  obtain ⟨_, _, h⟩ := of_bind h
  obtain ⟨_, _, h⟩ := of_bind h
  obtain ⟨_, _, h⟩ := of_bind h
  refine ⟨running_of_check running, ?_⟩
  dsimp only at h
  split at h
  · obtain ⟨_, _, h⟩ := of_bind h
    exact tcpNewTypes_spec h
  · obtain ⟨_, _, h⟩ := of_bind h
    exact tcpNewTypes_spec h

/-- The functions of ae_tcp.c other than those on write requests. -/
def TcpFrame (w w' : World) : Prop :=
  ∃ tcps handles events fault,
    w' = { w with
      tcps := tcps, handles := handles, trace := events ++ w.trace, fault := fault } ∧
    HandlesKept isTcp w.status w.handles handles ∧
    ∀ e ∈ events, (∃ n, e = .inserted (.tcp n) .running) ∨ (∃ a t, e = .switched a t) ∨
      e = .invalidIpType ∨ ∃ n closed, e = .shutdown n closed

/-- The functions on write requests, whose blocks are registered. -/
def WriteFrame (w w' : World) : Prop :=
  ∃ tcpWrites registered nextAddress events,
    w' = { w with
      tcpWrites := tcpWrites, registered := registered, nextAddress := nextAddress,
      trace := events ++ w.trace } ∧
    ∀ e ∈ events, (∃ a proc, e = .accepted (.block a) proc) ∨
      ∃ a error s, e = .completed (.block a) error s

private theorem writeFrame_refl (w : World) : WriteFrame w w :=
  ⟨_, _, _, [], rfl, by simp⟩

theorem tcpFrame_refl (w : World) : TcpFrame w w :=
  ⟨_, _, [], _, rfl, handlesKept_refl, by simp⟩

private theorem setTcp_frame (w : World) (n : Nat) (t : State.Tcp) : TcpFrame w (w.setTcp n t) :=
  ⟨_, _, [], _, rfl, handlesKept_refl, by simp⟩

private theorem abort_frame (w : World) (fault : Fault) : TcpFrame w (w.abort fault) :=
  ⟨_, _, [], _, rfl, handlesKept_refl, by simp⟩

private theorem remove_frame (w : World) (n : Nat) (t : State.Tcp) :
    TcpFrame w (aeRemoveHandle (w.setTcp n t) (.tcp n)) :=
  ⟨_, _, [], _, rfl, handlesKept_filter trivial, by simp⟩

private theorem shutdown_frame (w : World) (n : Nat) (t : State.Tcp) (closed : Bool) :
    TcpFrame w ((w.push (.shutdown n closed)).setTcp n t) :=
  ⟨_, _, [.shutdown n closed], _, rfl, handlesKept_refl,
    fun _ he => .inr (.inr (.inr ⟨n, closed, List.mem_singleton.mp he⟩))⟩

private theorem tcpIpPort_frame (w : World) (address : List UInt8) (ipType : IpType) :
    TcpFrame w (aeIpUtilsGetIpPort w address ipType).1 := by
  cases ipType with
  | ipv4 => exact tcpFrame_refl w
  | ipv6 => exact tcpFrame_refl w
  | ipv6Reference => exact ⟨_, _, [.invalidIpType], _, rfl, handlesKept_refl, by simp⟩
  | noIp => exact ⟨_, _, [.invalidIpType], _, rfl, handlesKept_refl, by simp⟩

private theorem tcpInit_frame (w : World) (p : Tcp.NewArgs) (uv : UvAnswers)
    (running : w.status = .running) :
    TcpFrame w (Tcp.initInstance w p uv).1 ∧ Ends (Tcp.initInstance w p uv) := by
  unfold Tcp.initInstance
  dsimp only
  split
  · exact ⟨⟨_, _, [], _, rfl, handlesKept_refl, by simp⟩, _, rfl⟩
  · cases p.bindIp with
    | none =>
      simp only [Option.map_none, Option.isSome_none, Bool.false_eq_true, false_and, if_false]
      split
      · exact ⟨⟨_, _, [.switched _ _], _, rfl, handlesKept_refl, by simp⟩, _, rfl⟩
      · exact ⟨⟨_, _, [.inserted (.tcp w.tcps.length) w.status, .switched _ _], _, rfl,
          handlesKept_insert trivial running, by simp [running]⟩, _, rfl⟩
    | some ip =>
      simp only [Option.map_some, Option.isSome_some, true_and]
      split
      · exact ⟨⟨_, _, [.switched _ _], _, rfl, handlesKept_refl, by simp⟩, _, rfl⟩
      · split
        · exact ⟨⟨_, _, [.switched _ _, .switched _ _], _, rfl, handlesKept_refl,
            by simp⟩, _, rfl⟩
        · exact ⟨⟨_, _, [.inserted (.tcp w.tcps.length) w.status, .switched _ _,
            .switched _ _], _, rfl, handlesKept_insert trivial running, by simp [running]⟩, _, rfl⟩

theorem tcpNew_frame (w : World) (args : Args) (uv : UvAnswers) :
    TcpFrame w (Tcp.new w args uv).1 ∧ Ends (Tcp.new w args uv) :=
  checked_cases (P := fun r => TcpFrame w r.1 ∧ Ends r)
    (fun _ _ => ⟨tcpFrame_refl w, _, rfl⟩) fun p h => tcpInit_frame w p uv (tcpNewArgs_spec h).1

theorem sendData_frame (w : World) (n : Nat) (t : State.Tcp) (args : Args) (uv : UvAnswers) :
    WriteFrame w (Tcp.sendData w n t args uv).1 ∧ Ends (Tcp.sendData w n t args uv) := by
  refine checked_cases (P := fun r => WriteFrame w r.1 ∧ Ends r)
    (fun _ _ => ⟨writeFrame_refl w, _, rfl⟩) fun p _ => ?_
  dsimp only
  split
  · split
    · exact ⟨writeFrame_refl w, _, rfl⟩
    · exact ⟨⟨_, _, _, [], rfl, by simp⟩, _, rfl⟩
  · split
    · exact ⟨⟨_, _, _, [], rfl, by simp⟩, _, rfl⟩
    · exact ⟨⟨_, _, _, [.accepted (.block _) _], rfl, by simp⟩, _, rfl⟩

theorem tcpLocalAddress_frame (w : World) (t : State.Tcp) (uv : UvAnswers) :
    TcpFrame w (Tcp.localAddress w t uv).1 ∧ Ends (Tcp.localAddress w t uv) := by
  refine checked_cases (P := fun r => TcpFrame w r.1 ∧ Ends r)
    (fun _ _ => ⟨tcpFrame_refl w, _, rfl⟩) fun _ _ => ?_
  split
  · exact ⟨tcpFrame_refl w, _, rfl⟩
  · exact ⟨tcpIpPort_frame w _ _, _, rfl⟩

theorem tcpPeerAddress_frame (w : World) (t : State.Tcp) (uv : UvAnswers) :
    TcpFrame w (Tcp.peerAddress w t uv).1 ∧ Ends (Tcp.peerAddress w t uv) := by
  refine checked_cases (P := fun r => TcpFrame w r.1 ∧ Ends r)
    (fun _ _ => ⟨tcpFrame_refl w, _, rfl⟩) fun _ _ => ?_
  split
  · exact ⟨tcpFrame_refl w, _, rfl⟩
  · split
    · exact ⟨tcpFrame_refl w, _, rfl⟩
    · exact ⟨tcpIpPort_frame w _ _, _, rfl⟩

theorem setConnectTimeout_frame (w : World) (n : Nat) (t : State.Tcp) (timeout : Value)
    (uv : UvAnswers) :
    TcpFrame w (Tcp.setConnectTimeout w n t timeout uv).1 ∧
      Ends (Tcp.setConnectTimeout w n t timeout uv) := by
  refine checked_cases (P := fun r => TcpFrame w r.1 ∧ Ends r)
    (fun _ _ => ⟨tcpFrame_refl w, _, rfl⟩) fun _ _ => ?_
  dsimp only
  split
  · exact ⟨setTcp_frame w _ _, _, rfl⟩
  · exact ⟨setTcp_frame w _ _, _, rfl⟩

theorem tcpClose_frame (w : World) (n : Nat) (t : State.Tcp) :
    TcpFrame w (Tcp.close w n t).1 := by
  refine checked_cases (P := fun r => TcpFrame w r.1) (fun _ _ => tcpFrame_refl w) fun _ _ => ?_
  dsimp only
  split
  · exact remove_frame w _ _
  · exact setTcp_frame w _ _

theorem closeGracefully_frame (w : World) (n : Nat) (t : State.Tcp) (args : Args)
    (uv : UvAnswers) :
    TcpFrame w (Tcp.closeGracefully w n t args uv).1 ∧
      Ends (Tcp.closeGracefully w n t args uv) := by
  refine checked_cases (P := fun r => TcpFrame w r.1 ∧ Ends r)
    (fun _ _ => ⟨tcpFrame_refl w, _, rfl⟩) fun _ _ => ?_
  split
  · split
    · exact ⟨abort_frame w _, _, rfl⟩
    · dsimp only
      split
      · exact ⟨setTcp_frame w _ _, _, rfl⟩
      · exact ⟨shutdown_frame w _ _ _, _, rfl⟩
  · exact ⟨setTcp_frame w _ _, _, rfl⟩

theorem tcpDestroy_frame (w : World) (n : Nat) (t : State.Tcp) :
    TcpFrame w (Tcp.destroy w n t).1 := by
  refine checked_cases (P := fun r => TcpFrame w r.1) (fun _ _ => tcpFrame_refl w) fun _ _ => ?_
  dsimp only
  split
  · exact remove_frame w _ _
  · exact setTcp_frame w _ _

theorem uvConnectCallback_frame (w : World) (n : Nat) (t : State.Tcp) (error : Option Int)
    (uv : UvAnswers) : TcpFrame w (Tcp.uvConnectCallback w n t error uv).1 := by
  unfold Tcp.uvConnectCallback
  dsimp only
  split
  · split
    · split
      · exact abort_frame w _
      · split
        · exact abort_frame w _
        · exact shutdown_frame w _ _ _
    · split
      · exact abort_frame w _
      · exact setTcp_frame w _ _
  · exact remove_frame w _ _

theorem uvReadCallback_frame (w : World) (n : Nat) (t : State.Tcp) (read : Tcp.Read)
    (uv : UvAnswers) : TcpFrame w (Tcp.uvReadCallback w n t read uv).1 := by
  cases read with
  | nothing => exact tcpFrame_refl w
  | data bytes => exact tcpFrame_refl w
  | eof =>
    dsimp only [Tcp.uvReadCallback]
    split
    · exact abort_frame w _
    · split
      · exact abort_frame w _
      · exact shutdown_frame w _ _ _
  | error errno => exact remove_frame w _ _

theorem uvWriteCallback_frame (w : World) (writes : List UvWrite) (t : State.Tcp)
    (write : UvWrite) (error : Option RubyError) :
    WriteFrame w (Tcp.uvWriteCallback { w with tcpWrites := writes } t write error).1 := by
  unfold Tcp.uvWriteCallback
  split
  · exact ⟨_, _, _, [], rfl, by simp⟩
  · exact ⟨_, _, _, [.completed (.block _) _ _], rfl, by simp⟩

theorem uvTimerConnectTimeoutCallback_frame (w : World) (n : Nat) (t : State.Tcp) :
    TcpFrame w (Tcp.uvTimerConnectTimeoutCallback w n t) := by
  unfold Tcp.uvTimerConnectTimeoutCallback
  split
  · exact abort_frame w _
  · split
    · exact abort_frame w _
    · exact setTcp_frame w _ _

theorem uvShutdownCallback_frame (w : World) (n : Nat) (t : State.Tcp) :
    TcpFrame w (Tcp.uvShutdownCallback w n t).1 := by
  unfold Tcp.uvShutdownCallback
  split
  · exact remove_frame w _ _
  · exact setTcp_frame w _ _

end Tcps

section Methods

open AsyncEngine.Engine.Machine

/-- A function that neither makes nor completes a request changes only what belongs to its
file. -/
def QuietFrame (w w' : World) : Prop :=
  TimerFrame w w' ∨ UdpFrame w w' ∨ QueueFrame w w' ∨ TcpFrame w w'

/-- A function of one of the files changes only what belongs to that file. -/
def FileFrame (w w' : World) : Prop := QuietFrame w w' ∨ ProcFrame w w' ∨ WriteFrame w w'

theorem quietFrame_timer {w w' : World} (h : TimerFrame w w') : QuietFrame w w' := .inl h

theorem quietFrame_udp {w w' : World} (h : UdpFrame w w') : QuietFrame w w' := .inr (.inl h)

theorem quietFrame_queue {w w' : World} (h : QueueFrame w w') : QuietFrame w w' :=
  .inr (.inr (.inl h))

theorem quietFrame_tcp {w w' : World} (h : TcpFrame w w') : QuietFrame w w' :=
  .inr (.inr (.inr h))

theorem fileFrame_quiet {w w' : World} (h : QuietFrame w w') : FileFrame w w' := .inl h

theorem fileFrame_proc {w w' : World} (h : ProcFrame w w') : FileFrame w w' := .inr (.inl h)

theorem fileFrame_write {w w' : World} (h : WriteFrame w w') : FileFrame w w' := .inr (.inr h)

/-- The files, by what their functions change. -/
inductive File
  | timer
  | udp
  | queue
  | tcp
  | proc
  | write
deriving DecidableEq

def FrameOf : File → World → World → Prop
  | .timer => TimerFrame
  | .udp => UdpFrame
  | .queue => QueueFrame
  | .tcp => TcpFrame
  | .proc => ProcFrame
  | .write => WriteFrame

def fileOf : Call → File
  | .timerNew _ _ => .timer
  | .periodicTimerNew _ _ => .timer
  | .timerPause _ _ => .timer
  | .timerRestart _ _ _ => .timer
  | .timerClose _ => .timer
  | .udpNew _ _ => .udp
  | .udpLocalAddress _ _ => .udp
  | .udpPause _ => .udp
  | .udpResume _ => .udp
  | .udpSetEncoding _ _ => .udp
  | .udpClose _ => .udp
  | .udpSendDatagram _ _ _ => .proc
  | .dnsResolve _ _ => .proc
  | .tcpSendData _ _ _ => .write
  | .tcpNew _ _ => .tcp
  | .tcpLocalAddress _ _ => .tcp
  | .tcpPeerAddress _ _ => .tcp
  | .tcpSetConnectTimeout _ _ _ => .tcp
  | .tcpClose _ => .tcp
  | .tcpCloseGracefully _ _ _ => .tcp
  -- A question changes nothing, so any file would do.
  | .query _ => .udp
  | .run _ _ => .queue
  | .stop => .queue
  | .nextTick _ => .queue
  | .callFromOtherThread _ => .queue
  | .onError _ => .queue
  | .unsetOnError => .queue
  | .onExit _ => .queue
  | .unsetOnExit => .queue

theorem dispatch_own {w : World} {call : Call} {r : World × Outcome}
    (h : dispatch w call = some r) : FrameOf (fileOf call) w r.1 := by
  have same (file : File) {r : World × Outcome} (frame : FrameOf file w r.1)
      {r' : World × Outcome} (h : some r = some r') : FrameOf file w r'.1 :=
    Option.some.inj h ▸ frame
  have map (file : File) {α : Type} {o : Option α} {f : α → World × Outcome}
      (frame : ∀ x, o = some x → FrameOf file w (f x).1) {r' : World × Outcome}
      (h : o.map f = some r') : FrameOf file w r'.1 := by
    obtain ⟨x, found, rfl⟩ := Option.map_eq_some_iff.mp h
    exact frame x found
  cases call with
  | run args uv => cases h
  | stop => exact same .queue (stop_effect w).1 h
  | nextTick args => exact same .queue (nextTick_effect w args).1 h
  | callFromOtherThread args => exact same .queue (callFromOtherThread_effect w args).1 h
  | onError args => exact same .queue (onError_effect w args).1 h
  | unsetOnError => exact same .queue (unsetOnError_effect w).1 h
  | onExit args => exact same .queue (onExit_effect w args).1 h
  | unsetOnExit => exact same .queue (unsetOnExit_effect w).1 h
  | query question =>
    obtain ⟨v, -, rfl⟩ := Option.map_eq_some_iff.mp h
    exact udpFrame_refl w
  | timerNew args uv => exact same .timer (timerNew_effect w args uv).1 h
  | periodicTimerNew args uv => exact same .timer (periodicNew_effect w args uv).1 h
  | timerPause n uv => exact map .timer (fun t _ => (timerPause_effect w n t uv).1) h
  | timerRestart n args uv =>
    exact map .timer (fun t _ => (timerRestart_effect w n t args uv).1) h
  | timerClose n => exact map .timer (fun t _ => (timerClose_effect w n t).1) h
  | udpNew args uv => exact same .udp (udpNew_effect w args uv).1 h
  | udpSendDatagram n args uv =>
    exact map .proc (fun _ found => (sendDatagram_effect found args uv).1) h
  | udpLocalAddress n uv => exact map .udp (fun u _ => (udpLocalAddress_effect w u uv).1) h
  | udpPause n => exact map .udp (fun u _ => (udpPause_effect w n u).1) h
  | udpResume n => exact map .udp (fun u _ => (udpResume_effect w n u).1) h
  | udpSetEncoding n encoding =>
    exact map .udp (fun u _ => (udpSetEncoding_effect w n u encoding).1) h
  | udpClose n => exact map .udp (fun u _ => (udpClose_effect w n u).1) h
  | dnsResolve args uv => exact same .proc (resolve_effect w args uv).1 h
  | tcpNew args uv => exact same .tcp (tcpNew_frame w args uv).1 h
  | tcpSendData n args uv => exact map .write (fun t _ => (sendData_frame w n t args uv).1) h
  | tcpLocalAddress n uv => exact map .tcp (fun t _ => (tcpLocalAddress_frame w t uv).1) h
  | tcpPeerAddress n uv => exact map .tcp (fun t _ => (tcpPeerAddress_frame w t uv).1) h
  | tcpSetConnectTimeout n timeout uv =>
    exact map .tcp (fun t _ => (setConnectTimeout_frame w n t timeout uv).1) h
  | tcpClose n => exact map .tcp (fun t _ => tcpClose_frame w n t) h
  | tcpCloseGracefully n args uv =>
    exact map .tcp (fun t _ => (closeGracefully_frame w n t args uv).1) h

/-- What a function of one of the files leaves as it was. -/
structure Untouched (file : File) (w w' : World) : Prop where
  timers : file ≠ .timer → w'.timers = w.timers
  udps : file ≠ .udp → w'.udps = w.udps
  tcps : file ≠ .tcp → w'.tcps = w.tcps
  tcpWrites : file ≠ .write → w'.tcpWrites = w.tcpWrites
  udpSends : file ≠ .proc → w'.udpSends = w.udpSends
  lookups : file ≠ .proc → w'.lookups = w.lookups
  onExitProcs : file ≠ .queue → w'.onExitProcs = w.onExitProcs
  registered : file ≠ .write → w'.registered = w.registered
  nextAddress : file ≠ .write → w'.nextAddress = w.nextAddress
  procs : file ≠ .proc → w'.procs = w.procs
  procLongId : file ≠ .proc → w'.procLongId = w.procLongId

theorem untouched_own {w w' : World} {file : File} (h : FrameOf file w w') :
    Untouched file w w' := by
  -- A component that the file owns is not compared, since the hypothesis on it is absurd.
  cases file with
  | timer =>
    obtain ⟨_, _, _, _, rfl, -⟩ := h
    constructor <;> first | exact fun _ => rfl | exact absurd rfl
  | udp =>
    obtain ⟨_, _, _, _, _, rfl, -⟩ := h
    constructor <;> first | exact fun _ => rfl | exact absurd rfl
  | queue =>
    obtain ⟨_, _, _, _, _, _, _, rfl, -⟩ := h
    constructor <;> first | exact fun _ => rfl | exact absurd rfl
  | tcp =>
    obtain ⟨_, _, _, _, rfl, -⟩ := h
    constructor <;> first | exact fun _ => rfl | exact absurd rfl
  | proc =>
    obtain ⟨_, _, _, _, _, _, rfl, -⟩ := h
    constructor <;> first | exact fun _ => rfl | exact absurd rfl
  | write =>
    obtain ⟨_, _, _, _, rfl, -⟩ := h
    constructor <;> first | exact fun _ => rfl | exact absurd rfl

theorem fileFrame_own {w w' : World} {file : File} (h : FrameOf file w w') : FileFrame w w' := by
  cases file with
  | timer => exact fileFrame_quiet (quietFrame_timer h)
  | udp => exact fileFrame_quiet (quietFrame_udp h)
  | queue => exact fileFrame_quiet (quietFrame_queue h)
  | tcp => exact fileFrame_quiet (quietFrame_tcp h)
  | proc => exact fileFrame_proc h
  | write => exact fileFrame_write h

theorem quietFrame_own {w w' : World} {file : File} (h : FrameOf file w w')
    (proc : file ≠ .proc) (write : file ≠ .write) : QuietFrame w w' := by
  cases file with
  | timer => exact quietFrame_timer h
  | udp => exact quietFrame_udp h
  | queue => exact quietFrame_queue h
  | tcp => exact quietFrame_tcp h
  | proc => exact absurd rfl proc
  | write => exact absurd rfl write

/-- The calls that make a request. -/
def Requests : Call → Prop
  | .udpSendDatagram _ _ _ => True
  | .dnsResolve _ _ => True
  | .tcpSendData _ _ _ => True
  | _ => False

theorem dispatch_quiet {w : World} {call : Call} {r : World × Outcome} (other : ¬ Requests call)
    (h : dispatch w call = some r) : QuietFrame w r.1 := by
  refine quietFrame_own (dispatch_own h) ?_ ?_
  · intro proc
    cases call <;> first | exact other trivial | cases proc
  · intro write
    cases call <;> first | exact other trivial | cases write

theorem dispatch_frame {w : World} {call : Call} {r : World × Outcome}
    (h : dispatch w call = some r) : FileFrame w r.1 := fileFrame_own (dispatch_own h)

def fileOfKey : Handle → File
  | .timer _ => .timer
  | .udp _ => .udp
  | .tcp _ => .tcp

theorem destroyHandle_own (w : World) (key : Handle) :
    FrameOf (fileOfKey key) w (destroyHandle w key).1 := by
  unfold destroyHandle
  split
  · split
    · exact (timerDestroy_effect w _ _).1
    · exact timerFrame_refl w
  · split
    · exact (udpDestroy_effect w _ _).1
    · exact udpFrame_refl w
  · split
    · exact tcpDestroy_frame w _ _
    · exact tcpFrame_refl w

theorem destroyHandle_frame (w : World) (key : Handle) :
    QuietFrame w (destroyHandle w key).1 := by
  refine quietFrame_own (destroyHandle_own w key) ?_ ?_
  · cases key <;> simp [fileOfKey]
  · cases key <;> simp [fileOfKey]

theorem handles_frame {w w' : World} (h : FileFrame w w') (idle : w.status ≠ .running) :
    ∀ key ∈ w'.handles, key ∈ w.handles := by
  rcases h with (h | h | h | h) | h | h
  · obtain ⟨_, _, _, _, rfl, kept, -⟩ := h
    exact kept.2 idle
  · obtain ⟨_, _, _, _, _, rfl, kept, -⟩ := h
    exact kept.2 idle
  · obtain ⟨_, _, _, _, _, _, _, rfl, -⟩ := h
    exact fun _ here => here
  · obtain ⟨_, _, _, _, rfl, kept, -⟩ := h
    exact kept.2 idle
  · obtain ⟨_, _, _, _, _, _, rfl, -⟩ := h
    exact fun _ here => here
  · obtain ⟨_, _, _, _, rfl, -⟩ := h
    exact fun _ here => here

theorem procs_frame {w w' : World} (h : FileFrame w w') (idle : w.status ≠ .running)
    (closed : ∀ u ∈ w.udps, u.uvHandle = false) : ∀ p ∈ w'.procs, p ∈ w.procs := by
  rcases h with (h | h | h | h) | h | h
  · obtain ⟨_, _, _, _, rfl, -⟩ := h
    exact fun _ here => here
  · obtain ⟨_, _, _, _, _, rfl, -⟩ := h
    exact fun _ here => here
  · obtain ⟨_, _, _, _, _, _, _, rfl, -⟩ := h
    exact fun _ here => here
  · obtain ⟨_, _, _, _, rfl, -⟩ := h
    exact fun _ here => here
  · obtain ⟨_, _, _, _, _, _, rfl, kept, -⟩ := h
    exact kept idle closed
  · obtain ⟨_, _, _, _, rfl, -⟩ := h
    exact fun _ here => here

theorem events_frame {w w' : World} (h : FileFrame w w') : ∃ events,
    w'.trace = events ++ w.trace ∧ ∀ e ∈ events, (∃ key, e = .inserted key .running) ∨
      (∃ a t, e = .switched a t) ∨ e = .invalidIpType ∨ (∃ n closed, e = .shutdown n closed) ∨
      (∃ request proc, e = .accepted request proc) ∨
      ∃ request error s, e = .completed request error s := by
  rcases h with (h | h | h | h) | h | h
  · obtain ⟨_, _, events, _, rfl, -, own⟩ := h
    refine ⟨events, rfl, fun e here => ?_⟩
    obtain ⟨n, rfl⟩ := own e here
    exact .inl ⟨_, rfl⟩
  · obtain ⟨_, _, _, events, _, rfl, -, own⟩ := h
    refine ⟨events, rfl, fun e here => ?_⟩
    rcases own e here with ⟨n, rfl⟩ | ⟨x, y, rfl⟩ | rfl <;> simp
  · obtain ⟨_, _, _, _, _, _, _, rfl, -⟩ := h
    exact ⟨[], rfl, by simp⟩
  · obtain ⟨_, _, events, _, rfl, -, own⟩ := h
    refine ⟨events, rfl, fun e here => ?_⟩
    rcases own e here with ⟨n, rfl⟩ | ⟨x, y, rfl⟩ | rfl | ⟨n, b, rfl⟩ <;> simp
  · obtain ⟨_, _, _, _, events, _, rfl, -, own⟩ := h
    refine ⟨events, rfl, fun e here => ?_⟩
    rcases own e here with ⟨x, y, rfl⟩ | ⟨id, proc, rfl⟩ | ⟨id, error, t, rfl⟩ <;> simp
  · obtain ⟨_, _, _, events, rfl, own⟩ := h
    refine ⟨events, rfl, fun e here => ?_⟩
    rcases own e here with ⟨a, proc, rfl⟩ | ⟨a, error, t, rfl⟩ <;> simp

theorem inserted_frame {w w' : World} {key : Handle} {s : AeStatus} (h : FileFrame w w')
    (seen : .inserted key s ∈ w'.trace) : .inserted key s ∈ w.trace ∨ s = .running := by
  obtain ⟨events, trace, own⟩ := events_frame h
  rw [trace] at seen
  rcases List.mem_append.mp seen with new | old
  · have running := own _ new
    simp only [Event.inserted.injEq, reduceCtorEq, exists_false, or_false, exists_eq_left']
      at running
    exact .inr running
  · exact .inl old

theorem started_frame {w w' : World} {callback : Callback} {s : AeStatus} (h : FileFrame w w')
    (seen : .started callback s ∈ w'.trace) : .started callback s ∈ w.trace := by
  obtain ⟨events, trace, own⟩ := events_frame h
  rw [trace] at seen
  rcases List.mem_append.mp seen with new | old
  · exact absurd (own _ new) (by simp)
  · exact old

/-- What belongs to no file: the state of the loop. The queues grow only while running. -/
structure SameLoop (w w' : World) : Prop where
  status : w'.status = w.status
  uvLoop : w'.uvLoop = w.uvLoop
  thread : w'.thread = w.thread
  pid : w'.pid = w.pid
  mutex : w'.mutex = w.mutex
  exitError : w'.exitError = w.exitError
  idle : w'.nextTickUvIdle.isSome = w.nextTickUvIdle.isSome
  async : w'.callFromOtherThreadUvAsync.isSome = w.callFromOtherThreadUvAsync.isSome
  ubf : w'.ubfUvAsync = w.ubfUvAsync
  queues : w.status ≠ .running → w'.nextTickProcs = w.nextTickProcs ∧
    w'.callFromOtherThreadProcs = w.callFromOtherThreadProcs

theorem sameLoop_queue {w w' : World} (h : QueueFrame w w') : SameLoop w w' := by
  obtain ⟨_, _, _, _, _, _, _, rfl, idle, async, queues⟩ := h
  exact ⟨rfl, rfl, rfl, rfl, rfl, rfl, idle, async, rfl, queues⟩

theorem sameLoop_of_frame {w w' : World} (h : FileFrame w w') : SameLoop w w' := by
  rcases h with (h | h | h | h) | h | h
  · obtain ⟨_, _, _, _, rfl, -⟩ := h
    exact ⟨rfl, rfl, rfl, rfl, rfl, rfl, rfl, rfl, rfl, fun _ => ⟨rfl, rfl⟩⟩
  · obtain ⟨_, _, _, _, _, rfl, -⟩ := h
    exact ⟨rfl, rfl, rfl, rfl, rfl, rfl, rfl, rfl, rfl, fun _ => ⟨rfl, rfl⟩⟩
  · exact sameLoop_queue h
  · obtain ⟨_, _, _, _, rfl, -⟩ := h
    exact ⟨rfl, rfl, rfl, rfl, rfl, rfl, rfl, rfl, rfl, fun _ => ⟨rfl, rfl⟩⟩
  · obtain ⟨_, _, _, _, _, _, rfl, -⟩ := h
    exact ⟨rfl, rfl, rfl, rfl, rfl, rfl, rfl, rfl, rfl, fun _ => ⟨rfl, rfl⟩⟩
  · obtain ⟨_, _, _, _, rfl, -⟩ := h
    exact ⟨rfl, rfl, rfl, rfl, rfl, rfl, rfl, rfl, rfl, fun _ => ⟨rfl, rfl⟩⟩

end Methods

end AsyncEngine.Engine.Effects
