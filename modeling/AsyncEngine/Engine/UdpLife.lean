/- The life of a UDPSocket: its entry in `@_handles`, the closing of its handle, its family, and the
   calls of `on_datagram_received`. -/

import AsyncEngine.Engine.Release

set_option autoImplicit false
set_option relaxedAutoImplicit false

namespace AsyncEngine.Engine.UdpLife

open AsyncEngine.Lib.Run
open AsyncEngine.Lib.Registry
open AsyncEngine.IpParser.Machine
open AsyncEngine.Engine.Ruby
open AsyncEngine.Engine.State
open AsyncEngine.Engine.Machine
open AsyncEngine.Engine.Effects
open AsyncEngine.Engine.Steps
open AsyncEngine.Engine.Handles
open AsyncEngine.Engine.Loop
open AsyncEngine.Engine.IpTypes
open AsyncEngine.Engine.Release

/-- A call of `on_datagram_received`. -/
structure Delivery where
  datagram : List UInt8
  encoding : Encoding
  status : AeStatus

/-- The call of `on_datagram_received` of the `n`-th UDPSocket, if the event is one. -/
def delivery (n : Nat) : Event → Option Delivery
  | .started (.onDatagramReceived m datagram encoding _) s =>
    if m = n then some ⟨datagram, encoding, s⟩ else none
  | _ => none

/-- The calls of `on_datagram_received` of the `n`-th UDPSocket, newest first. -/
def deliveries (n : Nat) (w : World) : List Delivery := w.trace.filterMap (delivery n)

/-- What holds of the `n`-th UDPSocket in every state. -/
structure UdpLaw (n : Nat) (c : Config) : Prop where
  stored : .udp n ∈ c.world.handles ↔ ∃ u, c.world.udps[n]? = some u ∧ u.uvHandle = true
  closes : ∀ u, c.world.udps[n]? = some u → u.uvCloses ≤ 1
  ended : c.world.status = .stopped → ∀ u, c.world.udps[n]? = some u → u.uvInited = true →
    u.uvCloses = 1
  receiving : ∀ u, c.world.udps[n]? = some u → u.uvReceiving = u.uvHandle
  running : ∀ d ∈ deliveries n c.world, d.status = .running

/-- The `n`-th UDPSocket is closed, or the release of the loop has begun. -/
def Over (n : Nat) (c : Config) : Prop :=
  ∃ u, c.world.udps[n]? = some u ∧ (u.uvHandle = false ∨ c.world.status ≠ .running)

def receiver : Call → Option Nat
  | .udpSendDatagram n _ _ => some n
  | .udpLocalAddress n _ => some n
  | .udpPause n => some n
  | .udpResume n => some n
  | .udpSetEncoding n _ => some n
  | .udpClose n => some n
  | .query (.udpIpType n) => some n
  | .query (.udpIsPaused n) => some n
  | .query (.udpEncoding n) => some n
  | .query (.udpAlive n) => some n
  | _ => none

/-- What a method of a closed UDPSocket ends with: `send_datagram` counts its arguments first. -/
def refusal : Call → Return
  | .udpSendDatagram _ args _ =>
    if args.argv.length < 3 ∨ args.argv.length > 4 then
      .raised (.argument "wrong number of arguments")
    else .value .false
  | _ => .value .false

/-- A UDPSocket keeps its family, and a closed one stays as it is and refuses every method. -/
def Keeps (n : Nat) (c : Config) (a : Action) : Prop :=
  ∀ u c', c.world.udps[n]? = some u → engine.step c a = some c' →
    (∃ u', c'.world.udps[n]? = some u' ∧ u'.ipType = u.ipType ∧ (u.uvHandle = false → u' = u)) ∧
    (u.uvHandle = false → ∀ call, a = .call call → receiver call = some n →
      c'.world = c.world.push (.returned call (refusal call)))

/-- `on_datagram_received` is called only with a datagram that libuv reports, in the encoding set
last, while the socket is open and not paused. -/
def Delivers (n : Nat) (c : Config) (a : Action) : Prop :=
  ∀ c', engine.step c a = some c' → deliveries n c'.world = deliveries n c.world ∨
    ∃ b bytes source u, a = .event (.recv n (some (b :: bytes, source))) ∧
      c.world.udps[n]? = some u ∧ u.uvHandle = true ∧ u.paused = false ∧
      c.world.status = .running ∧
      deliveries n c'.world = ⟨b :: bytes, u.encoding, .running⟩ :: deliveries n c.world

section Moves

def shut (u : State.Udp) : State.Udp :=
  { u with uvHandle := false, uvCloses := u.uvCloses + 1, uvReceiving := false }

def made (n : Nat) (ipType : IpType) : State.Udp where
  uvInited := true
  uvReceiving := true
  uvHandle := true
  aeHandleId := some n
  ipType := ipType

/-- What becomes of the `n`-th UDPSocket in a step to the world. -/
inductive UdpMove (n : Nat) (w' : World) : Option State.Udp → Option State.Udp → Prop
  | still (u : Option State.Udp) : UdpMove n w' u u
  | refused : UdpMove n w' none (some {})
  -- `close_handle` is called before `_uv_handle` is set: the process is gone.
  | aborted (gone : w'.fault ≠ none) (running : w'.status = .running) :
      UdpMove n w' none (some { uvInited := true })
  | opens {ipType : IpType} (ip : ipType ≠ .noIp) : UdpMove n w' none (some (made n ipType))
  | turns {u : State.Udp} (paused : Bool) (encoding : Encoding) (opened : u.uvHandle = true) :
      UdpMove n w' (some u) (some { u with paused := paused, encoding := encoding })
  | closes {u : State.Udp} (opened : u.uvHandle = true) : UdpMove n w' (some u) (some (shut u))

variable {w w' : World} {n m : Nat} {u u' : State.Udp}

private theorem UdpMove.keep {w'' : World} {o o' : Option State.Udp} (move : UdpMove n w' o o')
    (fault : w'.fault ≠ none → w''.fault ≠ none) (status : w''.status = w'.status) :
    UdpMove n w'' o o' := by
  cases move with
  | still => exact .still _
  | refused => exact .refused
  | aborted gone running => exact .aborted (fault gone) (status.trans running)
  | opens ip => exact .opens ip
  | turns paused encoding opened => exact .turns paused encoding opened
  | closes opened => exact .closes opened

private theorem move_set (found : w.udps[m]? = some u)
    (move : m = n → UdpMove n w' (some u) (some u')) :
    UdpMove n w' w.udps[n]? (w.udps.set m u')[n]? := by
  by_cases own : m = n
  · subst own
    obtain ⟨bound, -⟩ := List.getElem?_eq_some_iff.mp found
    rw [found, List.getElem?_set_self bound]
    exact move rfl
  · rw [List.getElem?_set_ne own]
    exact .still _

private theorem move_append (move : n = w.udps.length → UdpMove n w' none (some u')) :
    UdpMove n w' w.udps[n]? (w.udps ++ [u'])[n]? := by
  by_cases own : n = w.udps.length
  · have absent : w.udps[n]? = none := List.getElem?_eq_none (by omega)
    have last : (w.udps ++ [u'])[n]? = some u' := by
      rw [own]
      exact List.getElem?_concat_length
    rw [absent, last]
    exact move own
  · by_cases old : n < w.udps.length
    · rw [List.getElem?_append_left old]
      exact .still _
    · rw [List.getElem?_eq_none (by omega), List.getElem?_eq_none (by simp; omega)]
      exact .still _

private theorem closeHandle_udps (w : World) (opened : u.uvHandle = true)
    (key : u.aeHandleId = some m) : (Udp.closeHandle w m u).udps = w.udps.set m (shut u) := by
  unfold Udp.closeHandle
  rw [if_pos opened]
  split
  · rfl
  · rename_i missing
    rw [key] at missing
    cases missing

private theorem init_move {ipType : IpType} (uv : UvAnswers) (running : w.status = .running)
    (ip : ipType ≠ .noIp) : UdpMove n (Udp.initInstance w ipType uv).1 w.udps[n]?
      (Udp.initInstance w ipType uv).1.udps[n]? := by
  have filled (u u' : State.Udp) : (w.udps ++ [u]).set w.udps.length u' = w.udps ++ [u'] := by
    simp
  unfold Udp.initInstance
  dsimp only
  split
  · rename_i refused
    rw [decide_eq_false refused]
    exact move_append fun _ => .refused
  · rename_i accepted
    rw [decide_eq_true (not_not.mp accepted)]
    split
    · exact move_append fun _ => .aborted (by simp [Udp.closeHandle, World.abort]) running
    · split
      · exact move_append fun _ => .aborted (by simp [Udp.closeHandle, World.abort]) running
      · change UdpMove n _ w.udps[n]? ((w.udps ++ [_]).set w.udps.length _)[n]?
        rw [filled]
        apply move_append
        intro own
        subst own
        exact .opens ip

private theorem close_move (inv : UdpsInv w) (found : w.udps[m]? = some u) :
    UdpMove n w' w.udps[n]? (Udp.close w m u).1.udps[n]? := by
  apply checked_cases (P := fun r => UdpMove n w' w.udps[n]? r.1.udps[n]?)
  · intro q _
    exact .still _
  · intro _ passed
    have opened := open_of_check passed
    have key := (inv.table.good m u found opened).1
    dsimp only
    rw [closeHandle_udps w opened key]
    exact move_set found fun _ => .closes opened

private theorem ipPort_udps (w : World) (address : List UInt8) (ipType : IpType) :
    (aeIpUtilsGetIpPort w address ipType).1.udps = w.udps := by
  cases ipType <;> rfl

private theorem turn_move (found : w.udps[m]? = some u) {paused : Bool} {encoding : Encoding} :
    UdpMove n w' w.udps[n]? (checked w (checkUvHandleIsOpen u.uvHandle) fun _ =>
      (w.setUdp m { u with paused := paused, encoding := encoding }, .value .true)).1.udps[n]? := by
  apply checked_cases (P := fun r => UdpMove n w' w.udps[n]? r.1.udps[n]?)
  · intro q _
    exact .still _
  · intro _ passed
    exact move_set found fun _ => .turns paused encoding (open_of_check passed)

private theorem dispatch_move {call : Call} {r : World × Outcome} (inv : UdpsInv w)
    (h : dispatch w call = some r) : UdpMove n r.1 w.udps[n]? r.1.udps[n]? := by
  by_cases file : fileOf call = .udp
  · cases call with
    | udpNew args uv =>
      obtain rfl := Option.some.inj h
      apply checked_cases (P := fun r => UdpMove n r.1 w.udps[n]? r.1.udps[n]?)
      · intro q _
        exact .still _
      · intro p accepted
        exact init_move uv (running_of_bind accepted) (udpNewArgs_spec accepted)
    | udpLocalAddress m uv =>
      obtain ⟨u, found, rfl⟩ := Option.map_eq_some_iff.mp h
      apply checked_cases (P := fun r => UdpMove n r.1 w.udps[n]? r.1.udps[n]?)
      · intro q _
        exact .still _
      · intro _ _
        dsimp only
        split
        · exact .still _
        · dsimp only
          rw [ipPort_udps]
          exact .still _
    | udpPause m =>
      obtain ⟨u, found, rfl⟩ := Option.map_eq_some_iff.mp h
      exact turn_move found
    | udpResume m =>
      obtain ⟨u, found, rfl⟩ := Option.map_eq_some_iff.mp h
      exact turn_move found
    | udpSetEncoding m encoding =>
      obtain ⟨u, found, rfl⟩ := Option.map_eq_some_iff.mp h
      exact turn_move found
    | udpClose m =>
      obtain ⟨u, found, rfl⟩ := Option.map_eq_some_iff.mp h
      exact close_move inv found
    | query question =>
      obtain ⟨v, -, rfl⟩ := Option.map_eq_some_iff.mp h
      exact .still _
    | _ => cases file
  · rw [(untouched_own (dispatch_own h)).udps file]
    exact .still _

private theorem reports_udps {event : UvEvent} {r : World × Option Callback}
    (h : Reports w event r) : r.1.udps = w.udps := by
  by_cases file : fileOfEvent event = .udp
  · cases h with
    | ubf sent => rfl
    | @recv n u received found receiving =>
      obtain ⟨recvData, ⟨dropped, -⟩ | ⟨b, bytes, source, -, -, -, called⟩⟩ :=
        uvRecvCallback_cases found received
      · rw [dropped]
      · rw [called]
        exact ipPort_udps _ source u.ipType
    | _ => cases file
  · exact (untouched_own (reports_own h)).udps file

private theorem destroy_move {key : Handle} (inv : UdpsInv w) :
    UdpMove n w' w.udps[n]? (destroyHandle w key).1.udps[n]? := by
  cases key with
  | udp m =>
    unfold destroyHandle
    dsimp only
    split
    · rename_i u found
      exact close_move inv found
    · exact .still _
  | timer m =>
    rw [(untouched_own (destroyHandle_own w (.timer m))).udps (by simp [fileOfKey])]
    exact .still _
  | tcp m =>
    rw [(untouched_own (destroyHandle_own w (.tcp m))).udps (by simp [fileOfKey])]
    exact .still _

theorem udp_move {c c' : Config} {a : Action} (inv : HandlesInv c.world)
    (h : engine.step c a = some c') (n : Nat) :
    UdpMove n c'.world c.world.udps[n]? c'.world.udps[n]? := by
  obtain ⟨-, step⟩ := step_inv h
  by_cases method : ∃ call, a = .call call ∧ ∀ args uv, call ≠ .run args uv
  · obtain ⟨call, rfl, method⟩ := method
    obtain ⟨base, stack, r, -, called, world⟩ := call_inv h method
    have move := dispatch_move (n := n) inv.udps called
    obtain ⟨w, outcome⟩ := r
    rw [world]
    cases outcome <;> exact move.keep id rfl
  · obtain ⟨w, runs, data⟩ := step_data step
    rw [data.udps]
    cases runs with
    | nothing => exact .still _
    | @method call r called =>
      refine absurd ⟨call, rfl, ?_⟩ method
      rintro args uv rfl
      cases called
    | queue frame =>
      rw [(untouched_own (show FrameOf .queue c.world w from frame)).udps (by simp)]
      exact .still _
    | callback reported =>
      rw [reports_udps reported]
      exact .still _
    | destroy stored => exact destroy_move inv.udps

end Moves

section Sockets

/-- The process is gone while the engine was running. -/
def Gone (w : World) : Prop := w.fault ≠ none ∧ w.status = .running

structure Sound (w : World) (u : State.Udp) : Prop where
  receiving : u.uvReceiving = u.uvHandle
  opened : u.uvHandle = true → u.uvInited = true ∧ u.uvCloses = 0 ∧ u.ipType ≠ .noIp
  closed : u.uvHandle = false →
    (u.uvCloses = if u.uvInited then 1 else 0) ∨ (Gone w ∧ u.uvCloses = 0)

variable {w w' : World} {n : Nat} {u u' : State.Udp} {o o' : Option State.Udp}

theorem Sound.live (sound : Sound w u) (live : w.fault = none) (closed : u.uvHandle = false) :
    u.uvCloses = if u.uvInited then 1 else 0 := by
  rcases sound.closed closed with done | ⟨⟨gone, -⟩, -⟩
  · exact done
  · exact absurd live gone

private theorem Sound.closes (sound : Sound w u) : u.uvCloses ≤ 1 := by
  cases opened : u.uvHandle with
  | true =>
    rw [(sound.opened opened).2.1]
    exact Nat.zero_le 1
  | false =>
    rcases sound.closed opened with done | ⟨-, none⟩
    · rw [done]
      split <;> omega
    · rw [none]
      exact Nat.zero_le 1

private theorem sound_move (live : w.fault = none) (sound : ∀ u, o = some u → Sound w u)
    (move : UdpMove n w' o o') (found : o' = some u') : Sound w' u' := by
  cases move with
  | still =>
    have before := sound u' found
    exact ⟨before.receiving, before.opened, fun closed => .inl (before.live live closed)⟩
  | refused =>
    obtain rfl := Option.some.inj found
    refine ⟨rfl, fun on => ?_, fun _ => .inl rfl⟩
    cases on
  | aborted gone running =>
    obtain rfl := Option.some.inj found
    refine ⟨rfl, fun on => ?_, fun _ => .inr ⟨⟨gone, running⟩, rfl⟩⟩
    cases on
  | opens ip =>
    obtain rfl := Option.some.inj found
    refine ⟨rfl, fun _ => ⟨rfl, rfl, ip⟩, fun closed => ?_⟩
    cases closed
  | @turns u paused encoding opened =>
    obtain rfl := Option.some.inj found
    have before := sound u rfl
    refine ⟨before.receiving, before.opened, fun closed => ?_⟩
    rw [opened] at closed
    cases closed
  | @closes u opened =>
    obtain rfl := Option.some.inj found
    obtain ⟨inited, none, -⟩ := (sound u rfl).opened opened
    refine ⟨rfl, fun on => ?_, fun _ => .inl ?_⟩
    · cases on
    · simp [shut, inited, none]

private theorem kept_move (move : UdpMove n w' (some u) o') :
    ∃ u', o' = some u' ∧ u'.ipType = u.ipType ∧ (u.uvHandle = false → u' = u) := by
  have changes {u' : State.Udp} (opened : u.uvHandle = true) (same : u'.ipType = u.ipType) :
      ∃ x, some u' = some x ∧ x.ipType = u.ipType ∧ (u.uvHandle = false → x = u) := by
    refine ⟨u', rfl, same, fun closed => ?_⟩
    rw [opened] at closed
    cases closed
  cases move with
  | still => exact ⟨u, rfl, rfl, fun _ => rfl⟩
  | turns paused encoding opened => exact changes opened rfl
  | closes opened => exact changes opened rfl

end Sockets

section Step

variable {c c' : Config} {a : Action} {n : Nat}

structure UdpInv (n : Nat) (c : Config) : Prop where
  release : ReleaseInv c
  sound : ∀ u, c.world.udps[n]? = some u → Sound c.world u
  ended : c.world.status = .stopped → ∀ u, c.world.udps[n]? = some u → u.uvHandle = false
  running : ∀ d ∈ deliveries n c.world, d.status = .running

private theorem ended_step (inv : UdpInv n c) (h : engine.step c a = some c')
    (stopped : c'.world.status = .stopped) {u' : State.Udp}
    (found : c'.world.udps[n]? = some u') : u'.uvHandle = false := by
  by_contra on
  have opened := Bool.of_not_eq_false on
  obtain ⟨live, step⟩ := step_inv h
  have stored : .udp n ∈ c'.world.handles :=
    ((handlesInv_step inv.release.handles step).udps.table.stored_iff n).mpr ⟨u', found, opened⟩
  -- Nothing is opened unless the engine is running.
  have before (idle : c.world.status ≠ .running) :
      ∃ u, c.world.udps[n]? = some u ∧ u.uvHandle = true := by
    have old : .udp n ∈ c.world.handles := open_step inv.release.tcps step idle (.udp n) stored
    exact (inv.release.handles.udps.table.stored_iff n).mp old
  cases status_step step with
  | same same =>
    have halted : c.world.status = .stopped := same.symm.trans stopped
    obtain ⟨u, found, opened⟩ := before (by simp [halted])
    rw [inv.ended halted u found] at opened
    cases opened
  | starts halted running => cases running.symm.trans stopped
  | releases running releasing => cases releasing.symm.trans stopped
  | ends ctl handles reqs halted =>
    obtain ⟨u, found, opened⟩ := before (inv.release.vars.not_running handles)
    obtain ⟨inited, none, -⟩ := (inv.sound u found).opened opened
    simp only [noActiveHandles, Bool.and_eq_true, List.all_eq_true] at handles
    have closed := handles.1.2 u (List.mem_of_getElem? found)
    simp [inited, none] at closed

private theorem recv_step {received : Option (List UInt8 × List UInt8)} (inv : ReleaseInv c)
    (h : engine.step c (.event (.recv n received)) = some c') :
    deliveries n c'.world = deliveries n c.world ∨
      ∃ b bytes source u, received = some (b :: bytes, source) ∧
        c.world.udps[n]? = some u ∧ u.uvHandle = true ∧ u.paused = false ∧
        c.world.status = .running ∧
        deliveries n c'.world = ⟨b :: bytes, u.encoding, .running⟩ :: deliveries n c.world := by
  obtain ⟨r, ctl, reported, rfl⟩ := event_inv h (by simp) (by simp)
  have busy := inv.loop.busy (by rw [ctl]; trivial) (step_inv h).1
  cases reported with
  | @recv _ u _ found receiving =>
    have opened := inv.handles.udps.idle u (List.mem_of_getElem? found) receiving
    obtain ⟨recvData, ⟨dropped, -⟩ | ⟨b, bytes, source, not_releasing, active, rfl, called⟩⟩ :=
      uvRecvCallback_cases found received
    · rw [dropped]
      exact .inl rfl
    · have running := running_of_busy busy not_releasing
      refine .inr ⟨b, bytes, source, u, rfl, found, opened, active, running, ?_⟩
      have status (w : World) (alive : w.status = .running) :
          (aeIpUtilsGetIpPort w source u.ipType).1.status = .running := by
        cases u.ipType <;> exact alive
      have quiet (w : World) : deliveries n (aeIpUtilsGetIpPort w source u.ipType).1 =
          deliveries n w := by
        cases u.ipType <;> rfl
      have added (w : World) (e : Event) (d : Delivery) (seen : delivery n e = some d) :
          deliveries n (w.push e) = d :: deliveries n w :=
        List.filterMap_cons_some seen
      have alive := status { c.world with recvData := recvData } running
      rw [called]
      dsimp only [takeGvl]
      rw [if_neg (by simp [alive])]
      refine (added _ _ ⟨b :: bytes, u.encoding, .running⟩ ?_).trans ?_
      · simp [delivery, alive]
      · rw [quiet]
        rfl

private theorem delivers_step (inv : ReleaseInv c) (h : engine.step c a = some c') :
    deliveries n c'.world = deliveries n c.world ∨
      ∃ b bytes source u, a = .event (.recv n (some (b :: bytes, source))) ∧
        c.world.udps[n]? = some u ∧ u.uvHandle = true ∧ u.paused = false ∧
        c.world.status = .running ∧
        deliveries n c'.world = ⟨b :: bytes, u.encoding, .running⟩ :: deliveries n c.world := by
  have blind : ∀ e, ¬ OfControl e → delivery n e = none := by
    intro e other
    cases e <;> first | rfl | exact absurd trivial other
  rcases step_filterMap blind (step_inv h).2 with same | ⟨e, d, shows, seen, -⟩
  · exact .inl same
  · unfold delivery at seen
    split at seen
    · rename_i m datagram encoding source s
      split at seen
      · rename_i own
        subst own
        obtain ⟨rfl, ⟨event, rfl, called⟩ | ⟨-, resumed⟩ | ⟨_, -, other⟩⟩ := shows_started shows
        · cases event with
          | recv k received =>
            obtain ⟨_, _, _, same⟩ := called
            obtain rfl := (Callback.onDatagramReceived.inj same).1
            rcases recv_step inv h with kept | ⟨b, bytes, source, u, rfl, rest⟩
            · exact .inl kept
            · exact .inr ⟨b, bytes, source, u, rfl, rest⟩
          | _ => simp_all [calledBy]
        · exact resumed.elim
        · cases other
      · cases seen
    · cases seen

private theorem udpInv_step (inv : UdpInv n c) (h : engine.step c a = some c') :
    UdpInv n c' := by
  have move := udp_move inv.release.handles h n
  refine ⟨releaseInv_step inv.release h, ?_, fun stopped u => ended_step inv h stopped, ?_⟩
  · intro u' found
    exact sound_move (step_inv h).1 inv.sound move found
  · intro d here
    rcases delivers_step (n := n) inv.release h with
      same | ⟨b, bytes, source, u, -, -, -, -, -, added⟩
    · rw [same] at here
      exact inv.running d here
    · rw [added] at here
      rcases List.mem_cons.mp here with rfl | older
      · rfl
      · exact inv.running d older

private theorem udpInv_init : UdpInv n engine.init := by
  refine ⟨releaseInv_init, ?_, ?_, ?_⟩
  · intro u found
    cases found
  · intro _ u found
    cases found
  · intro d here
    cases here

theorem udpInv_of_path {l : List (Config × Action)} (path : Path engine l c) : UdpInv n c :=
  path.invariant udpInv_init udpInv_step

private theorem UdpInv.law (inv : UdpInv n c) : UdpLaw n c where
  stored := inv.release.handles.udps.table.stored_iff n
  closes := fun u found => (inv.sound u found).closes
  ended := by
    intro stopped u found inited
    rcases (inv.sound u found).closed (inv.ended stopped u found) with done | ⟨⟨-, running⟩, -⟩
    · rw [done, inited]
      rfl
    · cases running.symm.trans stopped
  receiving := fun u found => (inv.sound u found).receiving
  running := inv.running

private theorem closed_method {w : World} {u : State.Udp} {call : Call} {r : World × Outcome}
    (found : w.udps[n]? = some u) (closed : u.uvHandle = false) (own : receiver call = some n)
    (h : dispatch w call = some r) : r = (w, .ends (refusal call)) := by
  have check : checkUvHandleIsOpen u.uvHandle = .error (.value .false) := by
    rw [closed]
    rfl
  have map {f : State.Udp → World × Outcome} {q : Return} (refuses : f u = (w, .ends q))
      (h : w.udps[n]?.map f = some r) : r = (w, .ends q) := by
    rw [found] at h
    exact (Option.some.inj h).symm.trans refuses
  have asks {f : State.Udp → Value} (refuses : f u = .false)
      (h : (w.udps[n]?.map f).map (fun v => (w, Outcome.value v)) = some r) :
      r = (w, .value .false) := by
    rw [found, Option.map_some, refuses] at h
    exact (Option.some.inj h).symm
  have checks {go : Unit → World × Outcome} :
      checked w (checkUvHandleIsOpen u.uvHandle) go = (w, .value .false) := by
    unfold checked
    rw [check]
  cases call with
  | udpSendDatagram m args uv =>
    obtain rfl := Option.some.inj own
    refine map ?_ h
    by_cases wrong : args.argv.length < 3 ∨ args.argv.length > 4
    · have refused : refusal (.udpSendDatagram m args uv) =
          .raised (.argument "wrong number of arguments") := if_pos wrong
      unfold Udp.sendDatagram Udp.sendArgs checked checkNumArgs
      rw [refused, if_pos wrong]
      rfl
    · have refused : refusal (.udpSendDatagram m args uv) = .value .false := if_neg wrong
      unfold Udp.sendDatagram Udp.sendArgs checked checkNumArgs
      rw [refused, check, if_neg wrong]
      rfl
  | udpLocalAddress m uv =>
    obtain rfl := Option.some.inj own
    exact map checks h
  | udpPause m =>
    obtain rfl := Option.some.inj own
    exact map checks h
  | udpResume m =>
    obtain rfl := Option.some.inj own
    exact map checks h
  | udpSetEncoding m encoding =>
    obtain rfl := Option.some.inj own
    exact map checks h
  | udpClose m =>
    obtain rfl := Option.some.inj own
    exact map checks h
  | query question =>
    cases question with
    | udpIpType m =>
      obtain rfl := Option.some.inj own
      exact asks (by simp [Udp.ipType, closed]) h
    | udpIsPaused m =>
      obtain rfl := Option.some.inj own
      exact asks (by simp [Udp.isPaused, closed]) h
    | udpEncoding m =>
      obtain rfl := Option.some.inj own
      exact asks (by simp [Udp.encoding, closed]) h
    | udpAlive m =>
      obtain rfl := Option.some.inj own
      exact asks (by simp [Udp.isAlive, closed]) h
    | _ => cases own
  | _ => cases own

theorem keeps_step (inv : UdpInv n c) : Keeps n c a := by
  intro u c' found h
  refine ⟨?_, ?_⟩
  · have move := udp_move inv.release.handles h n
    rw [found] at move
    exact kept_move move
  · rintro closed call rfl own
    obtain ⟨base, stack, r, -, called, world⟩ := call_inv h (by rintro args uv rfl; cases own)
    rw [closed_method found closed own called] at world
    exact world

private theorem over_step (inv : UdpInv n c) (h : engine.step c a = some c') (ended : Over n c) :
    Over n c' ∧ deliveries n c'.world = deliveries n c.world := by
  obtain ⟨u, found, ended⟩ := ended
  obtain ⟨u', found', -, same⟩ := (keeps_step inv u c' found h).1
  refine ⟨⟨u', found', ?_⟩, ?_⟩
  · cases status : c'.world.status with
    | running =>
      left
      have closed : u.uvHandle = false := by
        rcases ended with closed | idle
        · exact closed
        · cases status_step (step_inv h).2 with
          | same kept => exact absurd (kept.symm.trans status) idle
          | starts stopped running => exact inv.ended stopped u found
          | releases running releasing => exact absurd running idle
          | ends ctl handles reqs stopped => cases status.symm.trans stopped
      rw [same closed]
      exact closed
    | releasing => exact .inr (by simp)
    | stopped => exact .inr (by simp)
  · rcases delivers_step (n := n) inv.release h with
      kept | ⟨b, bytes, source, x, -, found', opened, -, running, -⟩
    · exact kept
    · obtain rfl := Option.some.inj (found.symm.trans found')
      rcases ended with closed | idle
      · rw [opened] at closed
        cases closed
      · exact absurd running idle

end Step

/-- In every run, the key of a UDPSocket is stored just while its handle is open and receives, and
the handle is closed at most once and, when the loop has ended, exactly once if it was initialised;
the socket keeps its family, and a closed one stays closed and refuses every method; its
`on_datagram_received` is called only with datagrams that libuv reports while it is open and not
paused, and no more once it is closed or the release has begun. -/
theorem udp_life_cycle {l : List (Config × Action)} {c : Config} (path : Path engine l c)
    (n : Nat) : Always (UdpLaw n) l c ∧ Each (Keeps n) l ∧ Each (Delivers n) l ∧
      ∀ p ∈ l, Over n p.1 → Over n c ∧ deliveries n c.world = deliveries n p.1.world := by
  refine ⟨?_, ?_, ?_, ?_⟩
  · exact path.always udpInv_init (fun inv h (_ : True) => udpInv_step inv h) UdpInv.law
      fun _ _ => trivial
  · exact path.each udpInv_init udpInv_step fun inv _ => keeps_step inv
  · exact path.each (I := UdpInv n) udpInv_init udpInv_step fun inv _ _ h =>
      delivers_step inv.release h
  · exact path.settled (f := fun c => deliveries n c.world) udpInv_init udpInv_step over_step

/-- A datagram is delivered to a socket, which then closes itself. -/
theorem udp_life_cycle_closed : ∃ l c, Path engine l c ∧ c.world.handles = [] ∧
    (deliveries 0 c.world).length = 1 ∧ Always (UdpLaw 0) l c ∧ Each (Keeps 0) l ∧
      Each (Delivers 0) l ∧
      ∀ p ∈ l, Over 0 p.1 → Over 0 c ∧ deliveries 0 c.world = deliveries 0 p.1.world := by
  have reached : (engine.exec (runBlock ++
      [.call (.udpNew ⟨[.string [49, 50, 55, 46, 48, 46, 48, 46, 49], .fixnum 5060], none⟩ {}),
        .finish, .proceed, .proceed, .proceed, .proceed,
        .event (.recv 0 (some ([65], [1]))), .call (.udpClose 0)])).any (fun c =>
          decide (c.world.handles = []) && decide ((deliveries 0 c.world).length = 1)) = true := by
    decide +kernel
  obtain ⟨l, c, path, seen⟩ := exists_path_of_exec engine _ _ reached
  obtain ⟨removed, delivered⟩ := (Bool.and_eq_true _ _).mp seen
  exact ⟨l, c, path, of_decide_eq_true removed, of_decide_eq_true delivered,
    udp_life_cycle path 0⟩

end AsyncEngine.Engine.UdpLife
