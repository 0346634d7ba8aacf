/- Datagrams: what `on_datagram_received` is called with, against what has arrived. -/

import AsyncEngine.Engine.IpTypes

set_option autoImplicit false
set_option relaxedAutoImplicit false

namespace AsyncEngine.Engine.Datagrams

open AsyncEngine.Lib.Run
open AsyncEngine.IpParser.Machine
open AsyncEngine.Engine.Ruby
open AsyncEngine.Engine.State
open AsyncEngine.Engine.Machine
open AsyncEngine.Engine.Effects
open AsyncEngine.Engine.Steps
open AsyncEngine.Engine.Handles
open AsyncEngine.Engine.IpTypes

/-- A datagram of the `socket`-th UDPSocket: its bytes, and the address it came from. -/
structure Datagram where
  socket : Nat
  bytes : List UInt8
  source : Value

/-- The datagram that `on_datagram_received` is called with while running. -/
def received : Event → Option Datagram
  | .started (.onDatagramReceived n datagram _ source) .running => some ⟨n, datagram, source⟩
  | _ => none

/-- The calls of `on_datagram_received`, newest first. -/
def calls (w : World) : List Datagram := w.trace.filterMap received

/-- The datagram that arrives at an open socket which is not paused, while running. -/
def arrival (c : Config) : Action → Option Datagram
  | .event (.recv n (some (bytes, source))) =>
    match c.world.udps[n]? with
    | none => none
    | some u =>
      if c.world.status = .running ∧ u.uvHandle = true ∧ u.paused = false then
        some ⟨n, bytes, .ipPort source u.ipType⟩
      else none
  | _ => none

/-- The engine with the datagrams that have arrived noted beside it, newest first. -/
def noted : System (Config × List Datagram) Action :=
  engine.annotate (fun arrived c a _ => (arrival c a).toList ++ arrived) []

/-- A datagram arrives that is empty, or at a socket on a reference. -/
def Misses (c : Config) (a : Action) : Prop :=
  ∃ n bytes source u, a = .event (.recv n (some (bytes, source))) ∧
    c.world.udps[n]? = some u ∧ c.world.status = .running ∧ u.uvHandle = true ∧
    u.paused = false ∧ (bytes = [] ∨ ¬ Family u.ipType)

section Step

variable {c c' : Config} {a : Action}

private theorem calls_kept (h : Step c a c') (other : ∀ n r, a ≠ .event (.recv n r)) :
    calls c'.world = calls c.world := by
  have blind : ∀ e, ¬ OfControl e → received e = none := by
    intro e other
    cases e <;> first | rfl | exact absurd trivial other
  rcases step_filterMap blind h with same | ⟨e, x, shows, seen, -⟩
  · exact same
  · unfold received at seen
    split at seen
    · obtain ⟨-, ⟨event, rfl, called⟩ | ⟨-, resumed⟩ | ⟨_, -, same⟩⟩ := shows_started shows
      · cases event with
        | recv n r => exact absurd rfl (other n r)
        | _ => simp [calledBy] at called
      · exact resumed.elim
      · cases same
    · cases seen

private def sourceOf (source : List UInt8) : IpType → Value
  | .ipv4 => .ipPort source .ipv4
  | .ipv6 => .ipPort source .ipv6
  | _ => .other

private def given (n : Nat) (u : State.Udp) : Option (List UInt8 × List UInt8) → Option Datagram
  | none => none
  | some ([], _) => none
  | some (b :: bytes, source) => some ⟨n, b :: bytes, sourceOf source u.ipType⟩

private theorem sourceOf_iff {source : List UInt8} {ipType : IpType} :
    sourceOf source ipType = .ipPort source ipType ↔ Family ipType := by
  cases ipType <;> simp [sourceOf, Family]

private theorem getIpPort_status (w : World) (source : List UInt8) (ipType : IpType) :
    (aeIpUtilsGetIpPort w source ipType).1.status = w.status := by
  cases ipType <;> rfl

private theorem calls_start {w : World} {n : Nat} {datagram source : List UInt8} {ipType : IpType}
    {encoding : Encoding} (running : w.status = .running) :
    calls ((aeIpUtilsGetIpPort w source ipType).1.start (.onDatagramReceived n datagram encoding
      (aeIpUtilsGetIpPort w source ipType).2)) =
      ⟨n, datagram, sourceOf source ipType⟩ :: calls w := by
  rw [World.start, getIpPort_status, running]
  cases ipType <;> exact List.filterMap_cons_some rfl

private theorem recv_calls {n : Nat} {r : Option (List UInt8 × List UInt8)}
    (h : engine.step c (.event (.recv n r)) = some c') :
    ∃ u, c.world.udps[n]? = some u ∧ u.uvReceiving = true ∧
      calls c'.world =
        (if c.world.status = .running ∧ u.paused = false then given n u r else none).toList ++
          calls c.world := by
  obtain ⟨_, ctl, reported, rfl⟩ := event_inv h (by simp) (by simp)
  cases reported with
  | @recv _ u _ found receiving =>
    refine ⟨u, found, receiving, ?_⟩
    obtain ⟨recvData, ⟨dropped, why⟩ | ⟨b, bytes, source, alive, active, rfl, called⟩⟩ :=
      uvRecvCallback_cases found r
    · have silent : (if c.world.status = .running ∧ u.paused = false then given n u r else none) =
          none := by
        match r with
        | none => exact ite_self _
        | some ([], source) => exact ite_self _
        | some (b :: bytes, source) =>
          refine if_neg fun heard => ?_
          rcases why b bytes source rfl with releasing | paused
          · rw [heard.1] at releasing
            cases releasing
          · rw [heard.2] at paused
            cases paused
      rw [dropped, silent]
      rfl
    · rw [called]
      dsimp only [takeGvl]
      rw [getIpPort_status]
      by_cases running : c.world.status = .running
      · have unstopped : ¬ { c.world with recvData := recvData }.status = .stopped := by
          simp [running]
        have heard : c.world.status = .running ∧ u.paused = false := ⟨running, active⟩
        rw [if_neg unstopped, if_pos heard]
        exact calls_start running
      · have stopped : { c.world with recvData := recvData }.status = .stopped := by
          cases status : c.world.status with
          | running => exact absurd status running
          | releasing => exact absurd status alive
          | stopped => rfl
        have unheard : ¬ (c.world.status = .running ∧ u.paused = false) :=
          fun heard => running heard.1
        rw [if_pos stopped, if_neg unheard]
        rfl

private theorem arrival_recv {n : Nat} {r : Option (List UInt8 × List UInt8)} {u : State.Udp}
    (found : c.world.udps[n]? = some u) (opened : u.uvHandle = true) :
    arrival c (.event (.recv n r)) =
      if c.world.status = .running ∧ u.paused = false then
        r.map fun p => ⟨n, p.1, .ipPort p.2 u.ipType⟩
      else none := by
  cases r with
  | none => simp [arrival]
  | some p => simp [arrival, found, opened]

private theorem not_recv_arrival (other : ∀ n r, a ≠ .event (.recv n r)) : arrival c a = none := by
  unfold arrival
  split
  · exact absurd rfl (other _ _)
  · rfl

/-- The calls and the arrivals stay the same list exactly in the steps that miss no datagram. -/
private theorem delivers_iff (inv : HandlesInv c.world) (h : engine.step c a = some c') :
    calls c'.world = (arrival c a).toList ++ calls c.world ↔ ¬ Misses c a := by
  by_cases recv : ∃ n r, a = .event (.recv n r)
  · obtain ⟨n, r, rfl⟩ := recv
    obtain ⟨u, found, receiving, called⟩ := recv_calls h
    have opened := inv.udps.idle u (List.mem_of_getElem? found) receiving
    rw [called, arrival_recv found opened, List.append_cancel_right_eq]
    by_cases heard : c.world.status = .running ∧ u.paused = false
    · have misses : Misses c (.event (.recv n r)) ↔
          ∃ bytes source, r = some (bytes, source) ∧ (bytes = [] ∨ ¬ Family u.ipType) := by
        constructor
        · rintro ⟨m, bytes, source, u', same, found', -, -, -, bad⟩
          obtain ⟨rfl, rfl⟩ := by simpa using same
          obtain rfl : u = u' := Option.some.inj (found.symm.trans found')
          exact ⟨bytes, source, rfl, bad⟩
        · rintro ⟨bytes, source, rfl, bad⟩
          exact ⟨n, bytes, source, u, rfl, found, heard.1, opened, heard.2, bad⟩
      rw [if_pos heard, if_pos heard, misses]
      match r with
      | none => simp [given]
      | some ([], source) => simp [given]
      | some (b :: bytes, source) => simp [given, sourceOf_iff]
    · rw [if_neg heard, if_neg heard]
      refine iff_of_true rfl ?_
      rintro ⟨m, bytes, source, u', same, found', running, -, paused, -⟩
      obtain ⟨rfl, rfl⟩ := by simpa using same
      obtain rfl : u = u' := Option.some.inj (found.symm.trans found')
      exact heard ⟨running, paused⟩
  · have other : ∀ n r, a ≠ .event (.recv n r) := fun n r same => recv ⟨n, r, same⟩
    rw [calls_kept (step_inv h).2 other, not_recv_arrival other]
    refine iff_of_true rfl ?_
    rintro ⟨n, bytes, source, u, same, -⟩
    exact other _ _ same

end Step

/-- What is known of the engine and of the notes as long as nothing is missed. -/
private structure NotedInv (p : Config × List Datagram) : Prop where
  handles : HandlesInv p.1.world
  delivered : calls p.1.world = p.2

/-- In every state the calls of `on_datagram_received` are the datagrams that have arrived, each
with its own bytes and its own source, exactly when no step misses a datagram. -/
theorem delivered_iff {l : List ((Config × List Datagram) × Action)} {p : Config × List Datagram}
    (path : Path noted l p) :
    Always (fun p => calls p.1.world = p.2) l p ↔ Each (fun p a => ¬ Misses p.1 a) l := by
  refine path.always_iff_each (I := NotedInv) ⟨handlesInv_init, rfl⟩ ?_
    (fun inv => inv.delivered) ?_
  · intro p q a inv move heard
    obtain ⟨step, note⟩ := annotate_step move
    refine ⟨handlesInv_step inv.handles (step_inv step).2, ?_⟩
    rw [note, ← inv.delivered]
    exact (delivers_iff inv.handles step).mpr heard
  · intro p q a inv move delivered
    obtain ⟨step, note⟩ := annotate_step move
    rw [note, ← inv.delivered] at delivered
    exact (delivers_iff inv.handles step).mp delivered

/-- The block makes a UDPSocket on 127.0.0.1. -/
private def openSocket : List Action :=
  runBlock ++ [.call (.udpNew ⟨[.string [49, 50, 55, 46, 48, 46, 48, 46, 49], .fixnum 5060], none⟩
    {}), .finish, .proceed, .proceed, .proceed, .proceed]

/-- Two datagrams, and the socket is paused in the first call. -/
theorem delivered_iff_paused : ∃ l p, Path noted l p ∧ (calls p.1.world).length = 1 ∧
    (Always (fun p => calls p.1.world = p.2) l p ↔ Each (fun p a => ¬ Misses p.1 a) l) := by
  have reached : (noted.exec (openSocket ++ [.event (.recv 0 (some ([65], [1]))),
      .call (.udpPause 0), .finish, .proceed, .proceed,
      .event (.recv 0 (some ([66], [1])))])).any
        (fun p => decide ((calls p.1.world).length = 1)) = true := by
    decide +kernel
  obtain ⟨l, p, path, one⟩ := exists_path_of_exec noted _ _ reached
  exact ⟨l, p, path, of_decide_eq_true one, delivered_iff path⟩

/-- An empty datagram arrives at an open socket. -/
theorem empty_datagram_missed : ¬ ∀ l p, Path noted l p →
    Always (fun p => calls p.1.world = p.2) l p := by
  intro delivered
  have reached : (noted.exec (openSocket ++ [.event (.recv 0 (some ([], [1])))])).any
      (fun p => decide ((calls p.1.world).length ≠ p.2.length)) = true := by
    decide +kernel
  obtain ⟨l, p, path, differ⟩ := exists_path_of_exec noted _ _ reached
  exact of_decide_eq_true differ (congrArg List.length (delivered l p path).2)

end AsyncEngine.Engine.Datagrams
