/- Constructors that fail: what `init_instance` has done is undone before the constructor
   raises. -/

import AsyncEngine.Engine.IpTypes

set_option autoImplicit false
set_option relaxedAutoImplicit false

namespace AsyncEngine.Engine.Constructors

open AsyncEngine.Lib.Run
open AsyncEngine.IpParser.Machine
open AsyncEngine.Engine.Ruby
open AsyncEngine.Engine.State
open AsyncEngine.Engine.Machine
open AsyncEngine.Engine.Effects
open AsyncEngine.Engine.Steps
open AsyncEngine.Engine.Handles
open AsyncEngine.Engine.IpTypes

def Constructs : Call → Prop
  | .timerNew _ _ => True
  | .periodicTimerNew _ _ => True
  | .udpNew _ _ => True
  | .tcpNew _ _ => True
  | _ => False

/-- `uv_close` was called once on the handle if it was initialised, and else never. -/
def Closed (uvInited : Bool) (uvCloses : Nat) : Prop := uvCloses = if uvInited then 1 else 0

/-- The world is as it was, but for instances that nothing refers to: their handles are closed and
libuv holds nothing for them. -/
structure Clean (w w' : World) : Prop where
  handles : w'.handles = w.handles
  fault : w'.fault = w.fault
  timers : ∃ left, w'.timers = w.timers ++ left ∧
    ∀ t ∈ left, Closed t.uvInited t.uvCloses ∧ t.uvActive = false
  udps : ∃ left, w'.udps = w.udps ++ left ∧
    ∀ u ∈ left, Closed u.uvInited u.uvCloses ∧ u.uvReceiving = false
  tcps : ∃ left, w'.tcps = w.tcps ++ left ∧ ∀ t ∈ left, Closed t.uvInited t.uvCloses ∧
    t.uvConnect = false ∧ t.uvReading = false ∧ t.uvShutdowns = 0 ∧ t.uvTimers = []
  requests : w'.tcpWrites = w.tcpWrites ∧ w'.udpSends = w.udpSends ∧ w'.lookups = w.lookups

def Raises (call : Call) (w : World) : Prop :=
  ∃ error older, w.trace = .returned call (.raised error) :: older

/-- If the step is a constructor that raises, then it has left nothing behind. -/
def RaisesClean (c : Config) (a : Action) : Prop :=
  ∀ call c', a = .call call → Constructs call → engine.step c a = some c' →
    Raises call c'.world → Clean c.world c'.world

/-- `UDPSocket.new` fails after the handle was initialised: `uv_udp_bind` or `uv_udp_recv_start`
returns an error. -/
def FailsOpen (c : Config) : Action → Prop
  | .call (.udpNew args uv) => uv.init = 0 ∧ ∃ p, Udp.newArgs c.world.status args = .ok p ∧
      (Family p.ipType ∧ uv.bind ≠ 0 ∨ uv.recvStart ≠ 0)
  | _ => False

section Clean

variable {w : World}

private theorem clean_refl (w : World) : Clean w w :=
  ⟨rfl, rfl, ⟨[], by simp, by simp⟩, ⟨[], by simp, by simp⟩, ⟨[], by simp, by simp⟩,
    rfl, rfl, rfl⟩

private theorem clean_timer {w' : World} {t : State.Timer} (handles : w'.handles = w.handles)
    (timers : w'.timers = w.timers ++ [t]) (closed : Closed t.uvInited t.uvCloses)
    (idle : t.uvActive = false)
    (rest : (w'.fault, w'.udps, w'.tcps, w'.tcpWrites, w'.udpSends, w'.lookups) =
      (w.fault, w.udps, w.tcps, w.tcpWrites, w.udpSends, w.lookups)) : Clean w w' := by
  simp only [Prod.mk.injEq] at rest
  obtain ⟨fault, udps, tcps, requests⟩ := rest
  exact ⟨handles, fault, ⟨[t], timers, by simp [closed, idle]⟩, ⟨[], by simp [udps], by simp⟩,
    ⟨[], by simp [tcps], by simp⟩, requests⟩

private theorem handles_restored {h : Handle} {l : List Handle} (fresh : h ∉ l) :
    (if h ∈ l then l else l ++ [h]).filter (· ≠ h) = l := by
  rw [if_neg fresh, List.filter_append]
  have kept : l.filter (· ≠ h) = l := by
    refine List.filter_eq_self.mpr fun g here => ?_
    have different : g ≠ h := by
      rintro rfl
      exact fresh here
    simpa using different
  rw [kept]
  simp

private theorem set_last {α : Type} (l : List α) (a b : α) :
    (l ++ [a]).set l.length b = l ++ [b] := by
  simp

private theorem timerInit_clean (fresh : .timer w.timers.length ∉ w.handles) {b : Bool}
    {delay interval : Int} {proc : Nat} {uv : UvAnswers} {error : RubyError}
    (raised : (Timer.initInstance w b delay interval proc uv).2 = .raised error) :
    Clean w (Timer.initInstance w b delay interval proc uv).1 := by
  unfold Timer.initInstance at raised ⊢
  split
  · exact clean_timer rfl rfl rfl rfl rfl
  · rename_i init
    rw [if_neg init] at raised
    dsimp only at raised ⊢
    split
    · exact clean_timer (handles_restored fresh) (set_last _ _ _) rfl rfl rfl
    · rename_i start
      rw [if_neg start] at raised
      cases raised

private theorem checked_raised {α : Type} {check : Check α} {go : α → World × Outcome}
    {error : RubyError} (raised : (checked w check go).2 = .raised error)
    (clean : ∀ a, check = .ok a → (go a).2 = .raised error → Clean w (go a).1) :
    Clean w (checked w check go).1 := by
  unfold checked at raised ⊢
  cases passed : check with
  | error q => exact clean_refl w
  | ok a =>
    rw [passed] at raised
    exact clean a passed raised

private theorem udpInit_clean {ipType : IpType} {uv : UvAnswers} {error : RubyError}
    (allowed : uv.init = 0 → ¬ (Family ipType ∧ uv.bind ≠ 0) ∧ uv.recvStart = 0)
    (raised : (Udp.initInstance w ipType uv).2 = .raised error) :
    Clean w (Udp.initInstance w ipType uv).1 := by
  unfold Udp.initInstance at raised ⊢
  dsimp only at raised ⊢
  split
  · rename_i init
    have closed : Closed (decide (uv.init = 0)) 0 := by
      rw [decide_eq_false init]
      rfl
    exact ⟨rfl, rfl, ⟨[], by simp, by simp⟩, ⟨[_], rfl, by simpa using closed⟩,
      ⟨[], by simp, by simp⟩, rfl, rfl, rfl⟩
  · rename_i init
    obtain ⟨bound, started⟩ := allowed (not_not.mp init)
    have binds : (switchIpType ipType uv.bind uv.init).2 = 0 := by
      unfold switchIpType
      split
      · exact not_not.mp fun fails => bound ⟨.inl rfl, fails⟩
      · exact not_not.mp fun fails => bound ⟨.inr rfl, fails⟩
      · exact not_not.mp init
    rw [if_neg init, if_neg (not_not.mpr binds), if_neg (not_not.mpr started)] at raised
    cases raised

private theorem tcpInit_clean {p : Tcp.NewArgs} {uv : UvAnswers} {error : RubyError}
    (raised : (Tcp.initInstance w p uv).2 = .raised error) :
    Clean w (Tcp.initInstance w p uv).1 := by
  have left {w' : World} {uvInited : Bool} {uvCloses : Nat} (closed : Closed uvInited uvCloses)
      (same : (w'.handles, w'.fault, w'.timers, w'.udps, w'.tcps, w'.tcpWrites, w'.udpSends,
        w'.lookups) = (w.handles, w.fault, w.timers, w.udps, w.tcps, w.tcpWrites, w.udpSends,
        w.lookups)) : Clean w { w' with
          tcps := w'.tcps ++ [{ uvInited := uvInited, uvCloses := uvCloses }] } := by
    simp only [Prod.mk.injEq] at same
    obtain ⟨handles, fault, timers, udps, tcps, requests⟩ := same
    exact ⟨handles, fault, ⟨[], by simp [timers], by simp⟩, ⟨[], by simp [udps], by simp⟩,
      ⟨[_], by rw [tcps], by simp [closed]⟩, requests⟩
  unfold Tcp.initInstance at raised ⊢
  dsimp only at raised ⊢
  split
  · exact left rfl rfl
  · rename_i init
    rw [if_neg init] at raised
    generalize p.bindIp = bindIp at raised ⊢
    cases bindIp with
    | none =>
      simp only [Option.map_none, Option.isSome_none, Bool.false_eq_true, false_and, if_false]
        at raised ⊢
      split
      · exact left rfl rfl
      · rename_i connected
        rw [if_neg connected] at raised
        cases raised
    | some ip =>
      simp only [Option.map_some, Option.isSome_some, true_and] at raised ⊢
      split
      · exact left rfl rfl
      · rename_i bound
        rw [if_neg bound] at raised
        split
        · exact left rfl rfl
        · rename_i connected
          rw [if_neg connected] at raised
          cases raised

end Clean

section Step

variable {c c' : Config} {a : Action}

private theorem dispatch_clean (inv : HandlesInv c.world) {call : Call} {r : World × Outcome}
    {error : RubyError} (constructs : Constructs call) (allowed : ¬ FailsOpen c (.call call))
    (h : dispatch c.world call = some r) (raised : r.2 = .raised error) : Clean c.world r.1 := by
  have fresh : .timer c.world.timers.length ∉ c.world.handles := inv.timers.table.fresh
  cases call with
  | timerNew args uv =>
    obtain rfl := Option.some.inj h
    exact checked_raised raised fun _ _ => timerInit_clean fresh
  | periodicTimerNew args uv =>
    obtain rfl := Option.some.inj h
    exact checked_raised raised fun _ _ => timerInit_clean fresh
  | udpNew args uv =>
    obtain rfl := Option.some.inj h
    refine checked_raised raised fun p accepted => udpInit_clean fun init => ?_
    have fine := fun fails => allowed ⟨init, p, accepted, fails⟩
    exact ⟨fun fails => fine (.inl fails), not_not.mp fun fails => fine (.inr fails)⟩
  | tcpNew args uv =>
    obtain rfl := Option.some.inj h
    exact checked_raised raised fun _ _ => tcpInit_clean
  | _ => exact absurd constructs id

/-- `uv_close` is called with the `_uv_handle` of the instance, which is still NULL. -/
private theorem failsOpen_aborts {w : World} {args : Args} {uv : UvAnswers} {p : Udp.NewArgs}
    (accepted : Udp.newArgs w.status args = .ok p) (init : uv.init = 0)
    (fails : Family p.ipType ∧ uv.bind ≠ 0 ∨ uv.recvStart ≠ 0) :
    (Udp.new w args uv).1.fault = some .closeNull ∧
      (Udp.new w args uv).2 = .raised (aeGetLastUvError uv) := by
  simp only [Udp.new, checked, accepted, Udp.initInstance]
  rw [if_neg (not_not.mpr init)]
  split
  · exact ⟨rfl, rfl⟩
  · rename_i bound
    have started : uv.recvStart ≠ 0 := by
      rcases fails with ⟨family, bind⟩ | started
      · refine absurd bind ?_
        rcases family with plain | plain
        · rw [plain] at bound
          exact bound
        · rw [plain] at bound
          exact bound
      · exact started
    rw [if_pos started]
    exact ⟨rfl, rfl⟩

theorem raised_inv {call : Call} (h : engine.step c (.call call) = some c')
    (method : ∀ args uv, call ≠ .run args uv) (raises : Raises call c'.world) :
    ∃ w error, dispatch c.world call = some (w, .raised error) ∧
      c'.world = w.push (.returned call (.raised error)) := by
  obtain ⟨error, older, trace⟩ := raises
  obtain ⟨base, stack, ⟨w, outcome⟩, -, called, world⟩ := call_inv h method
  cases outcome with
  | ends result =>
    replace world : c'.world = w.push (.returned call result) := world
    rw [world] at trace
    obtain rfl := (Event.returned.inj (List.cons.inj trace).1).2
    exact ⟨w, error, called, world⟩
  | calls callback frame =>
    replace world : c'.world = w.start callback := world
    rw [world] at trace
    exact absurd (List.cons.inj trace).1 (by simp)

private theorem constructors_sound (inv : HandlesInv c.world) (h : engine.step c a = some c')
    (allowed : ¬ FailsOpen c a) : RaisesClean c a := by
  rintro call c'' rfl constructs h' ⟨error, older, trace⟩
  have other : ∀ args uv, call ≠ .run args uv := by
    rintro args uv rfl
    exact constructs
  obtain ⟨w, error, called, world⟩ := raised_inv h' other ⟨error, older, trace⟩
  have clean := dispatch_clean inv constructs allowed called rfl
  rw [world]
  exact ⟨clean.handles, clean.fault, clean.timers, clean.udps, clean.tcps, clean.requests⟩

private theorem constructors_sharp (_ : HandlesInv c.world) (h : engine.step c a = some c')
    (clean : RaisesClean c a) : ¬ FailsOpen c a := by
  intro fails
  have live := (step_inv h).1
  unfold FailsOpen at fails
  split at fails
  · rename_i args uv
    obtain ⟨init, p, accepted, error⟩ := fails
    obtain ⟨fault, raised⟩ := failsOpen_aborts (w := c.world) accepted init error
    obtain ⟨base, stack, r, -, called, world⟩ := call_inv h (by simp)
    obtain rfl := Option.some.inj called
    generalize Udp.new c.world args uv = r at fault raised world
    obtain ⟨w, outcome⟩ := r
    obtain rfl : outcome = .raised (aeGetLastUvError uv) := raised
    replace world : c'.world = w.push (.returned (.udpNew args uv) _) := world
    have kept := (clean _ c' rfl trivial h ⟨_, w.trace, by rw [world]; rfl⟩).fault
    rw [world, live] at kept
    exact absurd (fault.symm.trans kept) (by simp)
  · exact fails

/-- In every run, each constructor that raises leaves nothing behind exactly when no
`UDPSocket.new` fails after its handle was initialised. -/
theorem raises_clean_iff {l : List (Config × Action)} {c : Config} (path : Path engine l c) :
    Each RaisesClean l ↔ Each (fun c a => ¬ FailsOpen c a) l :=
  path.each_iff_each (I := fun c => HandlesInv c.world) handlesInv_init
    (fun inv h _ => handlesInv_step inv (step_inv h).2) constructors_sound constructors_sharp

end Step

/-- `uv_udp_bind` fails for a UDPSocket on 127.0.0.1. -/
theorem bind_failure_not_clean : ¬ ∀ l c, Path engine l c → Each RaisesClean l := by
  intro clean
  have reached : (engine.exec runBlock).any (fun c =>
      (match Udp.newArgs c.world.status
          ⟨[.string [49, 50, 55, 46, 48, 46, 48, 46, 49], .fixnum 5060], none⟩ with
        | .ok p => decide (p.ipType = .ipv4)
        | .error _ => false) &&
      (engine.step c (.call (.udpNew
        ⟨[.string [49, 50, 55, 46, 48, 46, 48, 46, 49], .fixnum 5060], none⟩
        { bind := -1 }))).isSome) = true := by
    decide +kernel
  obtain ⟨l, c, path, seen⟩ := exists_path_of_exec engine _ _ reached
  obtain ⟨accepted, steps⟩ := (Bool.and_eq_true _ _).mp seen
  obtain ⟨c', move⟩ := Option.isSome_iff_exists.mp steps
  split at accepted
  · rename_i p passed
    have inv := path.invariant (I := fun c => HandlesInv c.world) handlesInv_init
      fun inv h => handlesInv_step inv (step_inv h).2
    have step := clean _ c' (path.next move) _ (List.mem_append_right _ (.head _))
    exact constructors_sharp inv move step
      ⟨rfl, p, passed, .inl ⟨.inl (of_decide_eq_true accepted), by simp⟩⟩
  · cases accepted

/-- A Timer cannot be started: its handle is closed and its key is taken out again. -/
theorem raises_clean_iff_timer : ∃ l c, Path engine l c ∧ c.world.handles = [] ∧
    c.world.timers.length = 1 ∧
    (Each RaisesClean l ↔ Each (fun c a => ¬ FailsOpen c a) l) := by
  have reached : (engine.exec (runBlock ++
      [.call (.timerNew ⟨[.fixnum 1], some 7⟩ { timerStart := -1 })])).any (fun c =>
        decide (c.world.handles = []) && decide (c.world.timers.length = 1)) = true := by
    decide +kernel
  obtain ⟨l, c, path, seen⟩ := exists_path_of_exec engine _ _ reached
  obtain ⟨none, one⟩ := (Bool.and_eq_true _ _).mp seen
  exact ⟨l, c, path, of_decide_eq_true none, of_decide_eq_true one, raises_clean_iff path⟩

end AsyncEngine.Engine.Constructors
