/- What is left when a loop has ended: debug.rb with the counters that it reads, the last callback
   of each TCPSocket, and the end of every request. -/

import AsyncEngine.Engine.LoopEnds
import AsyncEngine.Engine.Queues
import AsyncEngine.Engine.Requests

set_option autoImplicit false
set_option relaxedAutoImplicit false

namespace AsyncEngine.Engine.Finished

open AsyncEngine.Lib.Run
open AsyncEngine.Engine.Ruby
open AsyncEngine.Engine.State
open AsyncEngine.Engine.Machine
open AsyncEngine.Engine.Effects
open AsyncEngine.Engine.Steps
open AsyncEngine.Engine.Loop
open AsyncEngine.Engine.TcpMoves
open AsyncEngine.Engine.TcpLife
open AsyncEngine.Engine.IpTypes
open AsyncEngine.Engine.Release
open AsyncEngine.Engine.Requests
open AsyncEngine.Engine.Queues
open AsyncEngine.Engine.Stopped
open AsyncEngine.Engine.InternalHandles
open AsyncEngine.Engine.Outstanding

/-- `AE.num_uv_active_handles`; libuv keeps `active_handles` itself. -/
def numUvActiveHandles (w : World) (activeHandles : Nat) : Nat :=
  if w.status = .stopped then 0 else activeHandles

/-- `AE.num_uv_active_reqs`: the length of `active_reqs`. -/
def numUvActiveReqs (w : World) : Nat :=
  if w.status = .stopped then 0 else outstanding w

/-- `raise AE::Error, message unless ok`. -/
def ensure (ok : Bool) (message : String) : Check Unit :=
  if ok then pure () else rbRaise (.engine message)

def ensureReleased (w : World) (activeHandles : Nat) : Check Value := do
  ensure (w.status ≠ .running) "still running"
  let handles := numUvActiveHandles w activeHandles
  ensure (handles = 0) s!"num_uv_active_handles = {handles} (> 0)"
  let reqs := numUvActiveReqs w
  ensure (reqs = 0) s!"num_uv_active_reqs = {reqs} (> 0)"
  ensure w.handles.isEmpty "@_handles not empty"
  ensure w.procs.isEmpty "@_procs not empty"
  ensure w.nextTickProcs.isEmpty "@_next_tick_procs not empty"
  ensure w.callFromOtherThreadProcs.isEmpty "@_call_from_other_thread_procs not empty"
  pure .true

variable {c c' : Config} {a : Action}

section EnsureReleased

/-- In a run whose sockets have plain addresses, `@_handles` is empty when the loop has ended. -/
private theorem handles_step (inv : PlainInv c) (h : engine.step c a = some c')
    (handles : c.world.status = .stopped → c.world.handles = [])
    (stopped : c'.world.status = .stopped) : c'.world.handles = [] := by
  obtain ⟨live, step⟩ := step_inv h
  obtain ⟨w, runs, data⟩ := step_data step
  have before : c.world.status ≠ .running ∧ c.world.handles = [] := by
    cases status_step step with
    | same status =>
      have old := status.symm.trans stopped
      exact ⟨by simp [old], handles old⟩
    | starts _ running =>
      rw [stopped] at running
      cases running
    | releases _ releasing =>
      rw [stopped] at releasing
      cases releasing
    | ends ctl active reqs _ =>
      have inside : Inside c.ctl := by
        rw [ctl]
        trivial
      have releasing := releasing_of_noActiveHandles inv.release.loop inv.release.vars live inside
        active
      exact ⟨by simp [releasing], handles_released inv releasing
        (not_draining (by rw [ctl]; rfl)) reqs⟩
  obtain ⟨idle, empty⟩ := before
  refine List.eq_nil_iff_forall_not_mem.mpr fun key here => ?_
  rw [data.handles] at here
  have older := handles_frame (runs_frame runs) idle key here
  rw [empty] at older
  cases older

private theorem handles_of_path {l : List (Config × Action)} (path : Path engine l c)
    (plain : Each (fun c a => ¬ TakesReference c a) l) :
    PlainInv c ∧ (c.world.status = .stopped → c.world.handles = []) :=
  path.guarded (I := fun c => PlainInv c ∧ (c.world.status = .stopped → c.world.handles = []))
    ⟨plainInv_init, fun _ => rfl⟩
    (fun inv move kept => ⟨plainInv_step inv.1 move kept, handles_step inv.1 move inv.2⟩) plain

private theorem ensure_passes {ok : Bool} {message : String} (passes : ok = true) :
    ensure ok message = pure () := by
  unfold ensure
  rw [if_pos passes]

/-- In every state of a run whose sockets have plain addresses, `AE.ensure_released` fails only
because the engine runs, or because libuv still has a handle or a request; its checks of the tables
always pass. -/
theorem ensure_released_outcome {l : List (Config × Action)} (path : Path engine l c)
    (plain : Each (fun c a => ¬ TakesReference c a) l) (live : c.world.fault = none)
    (activeHandles : Nat)
    (counted : c.world.callFromOtherThreadUvAsync ≠ none → 0 < activeHandles) :
    ensureReleased c.world activeHandles =
      if c.world.status = .running then rbRaise (.engine "still running")
      else
        let handles := numUvActiveHandles c.world activeHandles
        let reqs := numUvActiveReqs c.world
        if handles ≠ 0 then rbRaise (.engine s!"num_uv_active_handles = {handles} (> 0)")
        else if reqs ≠ 0 then rbRaise (.engine s!"num_uv_active_reqs = {reqs} (> 0)")
        else pure .true := by
  obtain ⟨inv, stopped⟩ := handles_of_path path plain
  -- Once the counters are zero, the tables are empty.
  have tables (idle : c.world.status ≠ .running)
      (handles : numUvActiveHandles c.world activeHandles = 0)
      (reqs : numUvActiveReqs c.world = 0) : c.world.handles = [] ∧ c.world.procs = [] ∧
        c.world.nextTickProcs = [] ∧ c.world.callFromOtherThreadProcs = [] := by
    have queues : c.world.nextTickProcs = [] ∧ c.world.callFromOtherThreadProcs = [] :=
      ⟨idle_of_path path false idle, idle_of_path path true idle⟩
    cases status : c.world.status with
    | running => exact absurd status idle
    | stopped => exact ⟨stopped status, (stoppedInv_of_path path).procs status, queues⟩
    | releasing =>
      have none : activeHandles = 0 := by simpa [numUvActiveHandles, status] using handles
      have done : outstanding c.world = 0 := by simpa [numUvActiveReqs, status] using reqs
      have closed : c.world.callFromOtherThreadUvAsync = .none := by
        by_contra async
        have some := counted async
        omega
      obtain ⟨counts, pointers⟩ := pointersInv_of_path path
      have drained : ¬ Draining (stackOf c.ctl) := by
        intro draining
        have loaded := (pointers.loaded live draining).2.1
        rw [closed] at loaded
        cases loaded
      have procs := ((inv.release.done status live).resolve_left drained).1
      exact ⟨handles_released inv status drained ((noActiveReqs_iff _).mpr done), procs, queues⟩
  unfold ensureReleased
  by_cases running : c.world.status = .running
  · rw [if_pos running]
    simp [ensure, running, rbRaise, bind, Except.bind]
  · rw [if_neg running, ensure_passes (by simp [running])]
    dsimp only
    by_cases handles : numUvActiveHandles c.world activeHandles = 0
    · rw [if_neg (not_not.mpr handles), ensure_passes (by simp [handles])]
      by_cases reqs : numUvActiveReqs c.world = 0
      · obtain ⟨none, procs, next, other⟩ := tables running handles reqs
        rw [if_neg (not_not.mpr reqs), ensure_passes (by simp [reqs]), none, procs, next, other]
        rfl
      · rw [if_pos reqs]
        simp [ensure, reqs, rbRaise, bind, Except.bind, pure, Except.pure]
    · rw [if_pos handles]
      simp [ensure, handles, rbRaise, bind, Except.bind, pure, Except.pure]

/-- A socket is destroyed before its last write is complete. -/
private def writesLate : List Action :=
  connectSocket ++ [.call (.tcpSendData 0 ⟨[.string [65]], some 8⟩ {}), .call .stop, .finish,
    .proceed, .proceed, .event .idle, .proceed, .proceed, .finish, .proceed, .proceed, .proceed,
    .proceed, .proceed, .proceed, .proceed]

/-- libuv has closed its handles, and holds the request of the write. -/
theorem ensure_released_outcome_pending : ∃ l c, Path engine l c ∧
    ensureReleased c.world 0 = rbRaise (.engine "num_uv_active_reqs = 1 (> 0)") := by
  have reached : ((engine.only takesPlain).exec writesLate).any (fun c =>
      decide (c.world.status = .releasing ∧ c.world.fault = none ∧
        c.world.callFromOtherThreadUvAsync = none ∧ outstanding c.world = 1)) = true := by
    decide +kernel
  obtain ⟨l, c, path, seen⟩ := exists_path_of_exec (engine.only takesPlain) _ _ reached
  obtain ⟨releasing, live, async, one⟩ := of_decide_eq_true seen
  obtain ⟨path, plain⟩ := path_of_only path
  have outcome := ensure_released_outcome path (fun p here => not_takesReference (plain p here))
    live 0 (fun loaded => absurd async loaded)
  refine ⟨l, c, path, outcome.trans ?_⟩
  simp only [releasing, numUvActiveHandles, numUvActiveReqs, one]
  rfl

end EnsureReleased

section Sockets

/-- The callbacks of a TCPSocket that has come to its end. -/
inductive Ended : List TcpCallback → Prop
  | refused : Ended [.connectionError]
  | disconnected (k : Nat) :
      Ended (.connected :: (List.replicate k .dataReceived ++ [.disconnected]))

private theorem ended_of_phase {t : State.Tcp} {stored : Prop} {cbs : List TcpCallback}
    (phase : Phase t stored cbs) (closed : ¬ (stored ∧ t.uvHandle = true))
    (idle : t.uvConnect = false) : Ended cbs.reverse ∧ ¬ stored := by
  cases phase with
  | connecting pending here =>
    rw [idle] at pending
    cases pending
  | connected opened status here k => exact absurd ⟨here, opened⟩ closed
  | refused null idle status gone => exact ⟨.refused, gone⟩
  | disconnected null status gone k =>
    refine ⟨?_, gone⟩
    have ended := Ended.disconnected k
    simpa using ended

/-- In every run, once a loop has ended, each TCPSocket with a plain address that was made in it
has called exactly one of `on_connection_error` and `on_disconnected`, as its last callback, and it
has left `@_handles`. -/
theorem sockets_ended {l : List (Config × Action)} (path : Path engine l c)
    (stopped : c.world.status = .stopped) {n : Nat} {t : State.Tcp}
    (socket : c.world.tcps[n]? = some t) (plain : Plain t) :
    Ended (callbacks (history n c.world)) ∧ .tcp n ∉ c.world.handles := by
  have inv := stoppedInv_of_path path
  have closed : ¬ (.tcp n ∈ c.world.handles ∧ t.uvHandle = true) := by
    rintro ⟨stored, opened⟩
    exact inv.closed stopped (.tcp n) ⟨stored, t, socket, opened⟩
  have idle : t.uvConnect = false := by
    have reqs := (noActiveReqs_iff _).mpr (inv.reqs stopped)
    simp only [noActiveReqs, Bool.and_eq_true, List.all_eq_true] at reqs
    simpa using (reqs.2 t (List.mem_of_getElem? socket)).1
  have phase : Phase t (.tcp n ∈ c.world.handles)
      (callbacks (c.world.trace.filterMap (tcpEvent n))) :=
    ((inv.release.tcps n).known t socket).phase plain
  have ended := ended_of_phase phase closed idle
  have reversed : callbacks (history n c.world) =
      (callbacks (c.world.trace.filterMap (tcpEvent n))).reverse := List.filterMap_reverse
  rw [reversed]
  exact ended

/-- `AE.stop` is called while a socket is connected, and the loop ends. -/
theorem sockets_ended_stopped : ∃ l c t, Path engine l c ∧ c.world.tcps[0]? = some t ∧
    Ended (callbacks (history 0 c.world)) ∧ .tcp 0 ∉ c.world.handles := by
  have reached : (engine.exec (writesLate ++ [.event (.write 0 (some 1)), .uvReturn,
      .proceed])).any (fun c => decide (c.world.status = .stopped) &&
        c.world.tcps[0]?.any fun t => decide (t.ipType = .ipv4)) = true := by
    decide +kernel
  obtain ⟨l, c, path, seen⟩ := exists_path_of_exec engine _ _ reached
  obtain ⟨stopped, plain⟩ := (Bool.and_eq_true _ _).mp seen
  obtain ⟨t, socket, ipv4⟩ := (Option.any_eq_true _ _).mp plain
  exact ⟨l, c, t, path, socket, sockets_ended path (of_decide_eq_true stopped) socket
    (.inl (of_decide_eq_true ipv4))⟩

end Sockets

section Requests

def Held (w : World) : Request → Prop
  | .proc id => id ∈ pendingProcs w
  | .block address => address ∈ (pendingBlocks w).map (·.address)

/-- The request was accepted and completed, and its proc was called at most once. -/
inductive Completed : List Stage → Prop
  | dropped (proc : Nat) (error : Option RubyError) {s : AeStatus} (idle : s ≠ .running) :
      Completed [.completed error s, .accepted proc]
  | called (proc : Nat) (error : Option RubyError) (s : AeStatus) :
      Completed [.called proc error s, .completed error s, .accepted proc]

/-- A request that was accepted and is not complete is pending. -/
structure Tracked (v : RequestView) : Prop where
  procs : ∀ {id proc : Nat}, stagesOf (.proc id) v.stages = [.accepted proc] → id ∈ v.pendingProcs
  blocks : ∀ {address proc : Nat}, stagesOf (.block address) v.stages = [.accepted proc] →
    address ∈ v.pendingBlocks.map (·.address)

variable {v v' : RequestView}

private theorem mem_of_perm {α : Type} {l l' : List α} {x y : α} (one : l.Perm (x :: l'))
    (other : x ≠ y) (mem : y ∈ l) : y ∈ l' := by
  rcases List.mem_cons.mp (one.subset mem) with same | rest
  · exact absurd same.symm other
  · exact rest

private theorem tracked_procEnds (added : List Stage) (tracked : Tracked v) {id : Nat}
    {pending : List Nat} {procs : List (Nat × Nat)} (one : v.pendingProcs.Perm (id :: pending))
    (ended : ∀ log proc, added ++ log ≠ [Stage.accepted proc]) : Tracked { v with
      procs := procs, pendingProcs := pending
      stages := added.map (Prod.mk (.proc id)) ++ v.stages } := by
  constructor
  · intro id' proc log
    by_cases same : id = id'
    · subst same
      rw [stagesOf_self] at log
      exact absurd log (ended _ _)
    · rw [stagesOf_ne _ _ (proc_ne same)] at log
      exact mem_of_perm one same (tracked.procs log)
  · intro address proc log
    rw [stagesOf_ne _ _ (by simp)] at log
    exact tracked.blocks log

private theorem tracked_blockEnds (added : List Stage) (tracked : Tracked v)
    {block : WriteBlock} {pending : List WriteBlock} {registered : List Nat}
    (one : v.pendingBlocks.Perm (block :: pending))
    (ended : ∀ log proc, added ++ log ≠ [Stage.accepted proc]) : Tracked { v with
      registered := registered, pendingBlocks := pending
      stages := added.map (Prod.mk (.block block.address)) ++ v.stages } := by
  constructor
  · intro id proc log
    rw [stagesOf_ne _ _ (by simp)] at log
    exact tracked.procs log
  · intro address proc log
    by_cases same : block.address = address
    · subst same
      rw [stagesOf_self] at log
      exact absurd log (ended _ _)
    · rw [stagesOf_ne _ _ (block_ne same)] at log
      exact mem_of_perm (one.map (·.address)) same (tracked.blocks log)

private theorem tracked_move (move : RequestMove v v') (tracked : Tracked v) : Tracked v' := by
  cases move with
  | runs stopped => exact ⟨tracked.procs, tracked.blocks⟩
  | releases running => exact ⟨tracked.procs, tracked.blocks⟩
  | drops releasing => exact ⟨tracked.procs, tracked.blocks⟩
  | stops procs pending => exact ⟨tracked.procs, tracked.blocks⟩
  | stores proc releasing => exact ⟨tracked.procs, tracked.blocks⟩
  | refuses => exact ⟨tracked.procs, tracked.blocks⟩
  | @accepts pending proc alive more =>
    constructor
    · intro id proc' log
      by_cases same : v.procLongId + 1 = id
      · exact more.symm.subset (same ▸ List.mem_cons_self ..)
      · replace log : stagesOf (.proc id)
            ([.accepted proc].map (Prod.mk (.proc (v.procLongId + 1))) ++ v.stages) =
              [.accepted proc'] := log
        rw [stagesOf_ne _ _ (proc_ne same)] at log
        exact more.symm.subset (List.mem_cons_of_mem _ (tracked.procs log))
    · intro address proc' log
      replace log : stagesOf (.block address)
          ([.accepted proc].map (Prod.mk (.proc (v.procLongId + 1))) ++ v.stages) =
            [.accepted proc'] := log
      rw [stagesOf_ne _ _ (by simp)] at log
      exact tracked.blocks log
  | writes proc =>
    constructor
    · intro id proc' log
      replace log : stagesOf (.proc id)
          ([.accepted proc].map (Prod.mk (.block v.nextAddress)) ++ v.stages) =
            [.accepted proc'] := log
      rw [stagesOf_ne _ _ (by simp)] at log
      exact tracked.procs log
    · intro address proc' log
      show address ∈ (v.pendingBlocks ++ [(⟨v.nextAddress, proc⟩ : WriteBlock)]).map (·.address)
      rw [List.map_append]
      by_cases same : v.nextAddress = address
      · exact List.mem_append_right _ (by simp [same])
      · replace log : stagesOf (.block address)
            ([.accepted proc].map (Prod.mk (.block v.nextAddress)) ++ v.stages) =
              [.accepted proc'] := log
        rw [stagesOf_ne _ _ (block_ne same)] at log
        exact List.mem_append_left _ (tracked.blocks log)
  | dropsProc error releasing one =>
    exact tracked_procEnds [.completed error v.status] tracked one (by simp)
  | @calls id proc pending error stored running one =>
    exact tracked_procEnds [.called proc error v.status, .completed error v.status] tracked one
      (by simp)
  | written error idle one =>
    exact tracked_blockEnds [.completed error v.status] tracked one (by simp)
  | @writtenCalls block pending error one =>
    exact tracked_blockEnds [.called block.proc error v.status, .completed error v.status] tracked
      one (by simp)

private theorem tracked_of_path {l : List (Config × Action)} (path : Path engine l c)
    (kept : Each (fun c a => ¬ LeavesProc c a) l) :
    AccountInv c ∧ Tracked (requestView c.world) := by
  refine path.guarded (I := fun c => AccountInv c ∧ Tracked (requestView c.world))
    ⟨accountInv_init, ⟨?_, ?_⟩⟩ ?_ kept
  · intro id proc log
    cases log
  · intro address proc log
    cases log
  · rintro c c' a ⟨inv, tracked⟩ move kept
    obtain ⟨live, step⟩ := step_inv move
    refine ⟨accountInv_step inv move kept, ?_⟩
    rcases requests_view inv live kept step with same | moved
    · rw [same]
      exact tracked
    · exact tracked_move moved tracked

/-- In every run in which no datagram with a block is refused, nor sent on a UDPSocket made with a
reference, which gives it to nobody, libuv holds exactly the requests that were accepted and are not
complete; and once a loop has ended, each request that was accepted has been completed exactly once,
its proc called at most once and with the error of its completion. -/
theorem requests_completed {l : List (Config × Action)} (path : Path engine l c)
    (kept : Each (fun c a => ¬ LeavesProc c a) l) (r : Request) :
    (Held c.world r ↔ ∃ proc, log r c.world = [.accepted proc]) ∧
      (c.world.status = .stopped → log r c.world ≠ [] → Completed (log r c.world)) := by
  obtain ⟨inv, tracked⟩ := tracked_of_path path kept
  have held : Held c.world r ↔ ∃ proc, log r c.world = [.accepted proc] := by
    cases r with
    | proc id =>
      constructor
      · exact inv.requests.known id
      · rintro ⟨proc, waits⟩
        exact tracked.procs waits
    | block address =>
      constructor
      · intro here
        obtain ⟨block, mem, rfl⟩ := List.mem_map.mp here
        exact ⟨block.proc, inv.requests.accepted block mem⟩
      · rintro ⟨proc, waits⟩
        exact tracked.blocks waits
  refine ⟨held, fun stopped known => ?_⟩
  have none : ¬ Held c.world r := by
    obtain ⟨writes, sends, lookups⟩ :=
      lists_of_outstanding ((stoppedInv_of_path path).reqs stopped)
    cases r with
    | proc id => simp [Held, pendingProcs, sends, lookups]
    | block address => simp [Held, pendingBlocks, writes]
  have served : Served (log r c.world) := inv.requests.served r
  cases stages : log r c.world with
  | nil => exact absurd stages known
  | cons last older =>
    rw [stages] at served
    cases served with
    | pending proc => exact absurd (held.mpr ⟨proc, stages⟩) none
    | dropped proc error idle => exact .dropped proc error idle
    | called proc error s => exact .called proc error s

private def sendsNone (_ : Config) : Action → Bool
  | .call (.udpSendDatagram _ _ _) => false
  | _ => true

/-- The write of a destroyed socket fails, and its block is not called. -/
theorem requests_completed_late : ∃ l c, Path engine l c ∧
    (log (.block 0) c.world).length = 2 ∧ Completed (log (.block 0) c.world) := by
  have reached : ((engine.only sendsNone).exec (writesLate ++
      [.event (.write 0 (some 1)), .uvReturn, .proceed])).any (fun c =>
        decide (c.world.status = .stopped ∧ (log (.block 0) c.world).length = 2)) = true := by
    decide +kernel
  obtain ⟨l, c, path, seen⟩ := exists_path_of_exec (engine.only sendsNone) _ _ reached
  obtain ⟨stopped, two⟩ := of_decide_eq_true seen
  obtain ⟨path, sends⟩ := path_of_only path
  have kept : Each (fun c a => ¬ LeavesProc c a) l := by
    intro p here leaves
    have none := sends p here
    unfold LeavesProc at leaves
    split at leaves
    · rename_i sent
      rw [sent] at none
      cases none
    · exact leaves
  have known : log (.block 0) c.world ≠ [] := by
    intro empty
    rw [empty] at two
    cases two
  exact ⟨l, c, path, two, (requests_completed path kept (.block 0)).2 stopped known⟩

end Requests

end AsyncEngine.Engine.Finished
