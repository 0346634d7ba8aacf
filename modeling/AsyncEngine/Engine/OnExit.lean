/- `AE.on_exit`: which call of `AE.run` calls a proc, in which order, how often and with which
   error, where procs and runs can be started from within the procs. -/

import AsyncEngine.Lib.Batches
import AsyncEngine.Engine.ErrorExit

set_option autoImplicit false
set_option relaxedAutoImplicit false

namespace AsyncEngine.Engine.OnExit

open AsyncEngine.Lib.Run
open AsyncEngine.Lib.Batches
open AsyncEngine.Engine.Ruby
open AsyncEngine.Engine.State
open AsyncEngine.Engine.Machine
open AsyncEngine.Engine.Effects
open AsyncEngine.Engine.Steps
open AsyncEngine.Engine.Loop
open AsyncEngine.Engine.RunExit
open AsyncEngine.Engine.ErrorExit

/-- What a step shows, if it shows one event. -/
def shown (c c' : Config) : Option Event :=
  match c'.world.trace with
  | e :: earlier => if earlier.length = c.world.trace.length then some e else none
  | [] => none

/-- What a step does to the procs given to `on_exit`: the first run to reach its epilogue takes
all that wait, with the error that it has captured, and leaves them when it ends. -/
def noteProcs (error : Option RubyError) (ledger : Ledger Nat (Option RubyError)) (c : Config)
    (a : Action) (c' : Config) : Ledger Nat (Option RubyError) :=
  match a with
  | .call (.onExit args) =>
    match Procs.blockOf args with
    | .ok proc => ledger.register proc
    | .error _ => ledger
  | .call .unsetOnExit => ledger.clear
  | .proceed =>
    match c.ctl, shown c c' with
    | .leaving, _ => if c'.world.status = .stopped then ledger.take error else ledger
    -- `AE.run` ends without its epilogue.
    | .back _ (.ints _) [], _ => ledger
    | _, some (.started (.onExit _ _) _) => ledger.call
    | _, some (.ran _) => ledger.leave
    | _, _ => ledger
  | _ => ledger

/-- The fatal errors of the runs that have not ended, and the procs given to `on_exit`. -/
structure Notes where
  fatals : Fatals := []
  ledger : Ledger Nat (Option RubyError) := {}

def Notes.note (notes : Notes) (c : Config) (a : Action) (c' : Config) : Notes where
  fatals := notes.fatals.note fatalError c a c'
  ledger := noteProcs (notes.fatals.headD none) notes.ledger c a c'

def exitNoted : System (Config × Notes) Action := engine.annotate Notes.note {}

/-- What the epilogue of `AE.run` does in a step. -/
structure Epilogue (notes : Notes) (c : Config) (a : Action) (c' : Config) : Prop where
  /-- A proc that is called is the first of those left to the run that took it, with the error of
  that run. It was not called before, and it was registered before those after it. -/
  calls {proc : Nat} {error : Option RubyError} {status : AeStatus} :
    c'.world.trace = .started (.onExit proc error) status :: c.world.trace →
      ∃ k rest outer, notes.ledger.batches = ⟨error, (k, proc) :: rest⟩ :: outer ∧
        k ∉ notes.ledger.called ∧ ∀ later ∈ rest, k < later.1
  /-- `AE.run` ends when none of its procs is left, or when one of them raises. -/
  ends {result : Return} : c'.world.trace = .ran result :: c.world.trace →
    RaisesOut c a ∨ ∃ batch outer, notes.ledger.batches = batch :: outer ∧
      ((batch.rest = [] ∧ result = runResult batch.tag) ∨
        ∃ error base procs captured stack, result = .raised error ∧
          c.ctl = .back (.raised error) base (.onExit procs captured :: stack))

/-- What the engine holds for those who wait for the end of a call of `AE.run`. -/
def taken : List Frame → List (List Nat × Option RubyError)
  | [] => []
  | .onExit procs error :: stack => (procs, error) :: taken stack
  | _ :: stack => taken stack

/-- The procs that the engine goes through. -/
def openEpilogues (c : Config) : List (List Nat × Option RubyError) :=
  match c.callers with
  | [] => taken (stackOf c.ctl)
  | (_, stack) :: _ => taken stack

structure NotesInv (c : Config) (notes : Notes) : Prop where
  errors : ErrorInv c
  fatals : notes.fatals = openRuns c
  waiting : notes.ledger.waiting.map Prod.snd = c.world.onExitProcs
  batches : notes.ledger.batches.map (fun batch => (batch.rest.map Prod.snd, batch.tag)) =
    openEpilogues c
  order : notes.ledger.InOrder

section World

variable {w : World}

private theorem pushNextTick_procs (tick : Tick) :
    (Procs.pushNextTick w tick).onExitProcs = w.onExitProcs := by
  unfold Procs.pushNextTick
  split <;> rfl

private theorem pushCallFromOtherThread_procs (tick : Tick) :
    (Procs.pushCallFromOtherThread w tick).onExitProcs = w.onExitProcs := by
  unfold Procs.pushCallFromOtherThread
  split <;> rfl

private theorem checked_procs {α : Type} {check : Check α} {go : α → World × Outcome}
    (kept : ∀ x, (go x).1.onExitProcs = w.onExitProcs) :
    (checked w check go).1.onExitProcs = w.onExitProcs := by
  unfold checked
  split
  · exact kept _
  · rfl

private theorem stop_procs : (Procs.stop w).1.onExitProcs = w.onExitProcs := by
  apply checked_procs
  intro _
  show (if _ then _ else _ : World).onExitProcs = _
  split
  · exact pushNextTick_procs _
  · exact pushCallFromOtherThread_procs _

private theorem callFromOtherThread_procs (args : Args) :
    (Procs.callFromOtherThread w args).1.onExitProcs = w.onExitProcs := by
  apply checked_procs
  intro proc
  exact pushCallFromOtherThread_procs _

private theorem runWhileRunning_procs (proc : Nat) :
    (runWhileRunning w proc).1.onExitProcs = w.onExitProcs := by
  unfold runWhileRunning
  split
  · rfl
  · split
    · exact pushNextTick_procs _
    · exact pushCallFromOtherThread_procs _

private theorem method_procs {call : Call} {r : World × Outcome}
    (registers : ∀ args, call ≠ .onExit args) (clears : call ≠ .unsetOnExit)
    (called : dispatch w call = some r) : r.1.onExitProcs = w.onExitProcs := by
  cases call with
  | run args uv => cases called
  | stop =>
    obtain rfl := Option.some.inj called
    exact stop_procs
  | nextTick args =>
    obtain rfl := Option.some.inj called
    apply checked_procs
    intro proc
    exact pushNextTick_procs _
  | callFromOtherThread args =>
    obtain rfl := Option.some.inj called
    exact callFromOtherThread_procs args
  | onError args =>
    obtain rfl := Option.some.inj called
    exact checked_procs fun _ => rfl
  | unsetOnError =>
    obtain rfl := Option.some.inj called
    rfl
  | onExit args => exact absurd rfl (registers args)
  | unsetOnExit => exact absurd rfl clears
  | _ => exact (untouched_own (dispatch_own called)).onExitProcs (by simp [fileOf])

private theorem reports_procs {event : UvEvent} {r : World × Option Callback}
    (h : Reports w event r) : r.1.onExitProcs = w.onExitProcs := by
  refine (untouched_own (reports_own h)).onExitProcs ?_
  cases h <;> simp [fileOfEvent]

private theorem destroyHandle_procs (key : Handle) :
    (destroyHandle w key).1.onExitProcs = w.onExitProcs := by
  refine (untouched_own (destroyHandle_own w key)).onExitProcs ?_
  cases key <;> simp [fileOfKey]

private theorem startLoop_procs (proc : Nat) (uv : UvAnswers) :
    (startLoop w proc uv).onExitProcs = w.onExitProcs := by
  rcases startLoop_cases w proc uv with aborts | ⟨fault, runs⟩
  · rw [aborts]
    rfl
  · rw [runs]
    exact pushNextTick_procs _

/-- The C code that goes on leaves the procs of `on_exit` as they are, and no others wait above
these frames. -/
private def Quiet (w : World) (stack : List Frame) (r : World × Ctl) : Prop :=
  r.1.onExitProcs = w.onExitProcs ∧ taken (stackOf r.2) = taken stack

private theorem aeReleaseLoop_quiet {w' : World} (base : Base) (stack : List Frame)
    (same : w'.onExitProcs = w.onExitProcs) : Quiet w stack (aeReleaseLoop w' base stack) := by
  unfold aeReleaseLoop
  split <;> exact ⟨same, rfl⟩

private theorem aeHandleError_quiet (error : RubyError) (base : Base) (stack : List Frame) :
    Quiet w stack (aeHandleError w error base stack) := by
  unfold aeHandleError
  split
  · exact ⟨rfl, rfl⟩
  · exact aeReleaseLoop_quiet base stack rfl

private theorem batchNext_quiet (o : Bool) (procs : List Tick) (base : Base)
    (stack : List Frame) : Quiet w stack (batchNext w o procs base stack) := by
  unfold batchNext
  split
  · exact ⟨rfl, rfl⟩
  · split
    · exact ⟨rfl, rfl⟩
    · dsimp only
      split
      · exact aeReleaseLoop_quiet base (.protect :: .batch o _ :: stack) rfl
      · exact ⟨rfl, rfl⟩

private theorem releaseNext_quiet (keys : List Handle) (base : Base) (stack : List Frame) :
    Quiet w stack (releaseNext w keys base stack) := by
  unfold releaseNext
  split
  · refine ⟨?_, rfl⟩
    rcases closeInternalHandles_cases w with aborts | closes
    · rw [aborts]
      rfl
    · rw [closes]
  · rename_i key keys
    split
    · have procs := destroyHandle_procs (w := w) key
      dsimp only
      split
      · rename_i method
        rw [method] at procs
        exact ⟨procs, rfl⟩
      · rename_i callback frame method
        rw [method] at procs
        obtain ⟨n, -, -, -, -, -, -, -, rfl⟩ := destroyHandle_calls method
        exact ⟨procs, rfl⟩
    · exact ⟨rfl, rfl⟩

private theorem resume_quiet (result : Return) {frame : Frame} (base : Base) (stack : List Frame)
    (other : ∀ procs error, frame ≠ .onExit procs error) :
    Quiet w stack (resume w result frame base stack) := by
  cases frame with
  | protect =>
    cases result with
    | value v => exact ⟨rfl, rfl⟩
    | raised error =>
      simp only [resume]
      split
      · exact ⟨rfl, rfl⟩
      · exact aeHandleError_quiet error base stack
  | batch o procs => cases result <;> exact batchNext_quiet o procs base stack
  | handleError =>
    cases result with
    | value v => exact ⟨rfl, rfl⟩
    | raised error => exact aeReleaseLoop_quiet base stack rfl
  | release keys => cases result <;> exact releaseNext_quiet keys base stack
  | destroying n => cases result <;> exact ⟨rfl, rfl⟩
  | closing n => cases result <;> exact ⟨rfl, rfl⟩
  | onExit procs error => exact absurd rfl (other procs error)

end World

section Step

variable {c c' : Config} {a : Action} {notes : Notes}

private theorem trace_of_shown {e : Event} (h : Step c a c') (seen : shown c c' = some e) :
    c'.world.trace = e :: c.world.trace := by
  have suffix : c.world.trace <:+ c'.world.trace := by
    obtain ⟨w, frame, shows⟩ := step_events h
    obtain ⟨events, trace, -⟩ := events_frame frame
    have earlier : c.world.trace <:+ w.trace := trace ▸ List.suffix_append _ _
    rcases shows with same | ⟨e, -, more⟩
    · exact same ▸ earlier
    · exact more ▸ earlier.trans (List.suffix_cons e _)
  unfold shown at seen
  split at seen
  · rename_i first earlier trace
    split at seen
    · rename_i one
      obtain rfl := Option.some.inj seen
      rw [trace] at suffix ⊢
      rcases List.suffix_cons_iff.mp suffix with all | below
      · rw [all, List.length_cons] at one
        omega
      · rw [below.eq_of_length one.symm]
    · cases seen
  · cases seen

private theorem shown_of_trace {e : Event} (trace : c'.world.trace = e :: c.world.trace) :
    shown c c' = some e := by
  unfold shown
  rw [trace]
  exact if_pos rfl

private theorem note_still {error : Option RubyError} {ledger : Ledger Nat (Option RubyError)}
    (h : Step c .proceed c') (goes_on : c.ctl = .leaving → c'.world.status ≠ .stopped)
    (other : ∀ result base procs captured stack,
      c.ctl ≠ .back result base (.onExit procs captured :: stack)) :
    noteProcs error ledger c .proceed c' = ledger := by
  have outside {e : Event} (seen : shown c c' = some e) (exit : isExit e) :
      RaisesOut c .proceed ∧ ∃ result, e = .ran result := by
    rcases exit_step h exit (trace_of_shown h seen) with ⟨_, _, _, _, _, ctl⟩ | raises
    · exact absurd ctl (other _ _ _ _ _)
    · exact raises
  unfold noteProcs
  dsimp only
  split
  · rename_i leaving
    exact if_neg (goes_on leaving)
  · rfl
  · rename_i seen _ _
    obtain ⟨-, _, not_ran⟩ := outside seen trivial
    cases not_ran
  · rename_i seen _ not_ints
    obtain ⟨⟨error, entering, ctl⟩, -⟩ := outside seen trivial
    exact absurd ctl (not_ints _ _)
  · rfl

private theorem openEpilogues_congr (callers : c'.callers = c.callers)
    (stack : taken (stackOf c'.ctl) = taken (stackOf c.ctl)) :
    openEpilogues c' = openEpilogues c := by
  rw [openEpilogues, openEpilogues, callers, stack]

private theorem NotesInv.after (inv : NotesInv c notes) (h : engine.step c a = some c')
    {ledger : Ledger Nat (Option RubyError)}
    (noted : noteProcs (notes.fatals.headD none) notes.ledger c a c' = ledger)
    (waiting : ledger.waiting.map Prod.snd = c'.world.onExitProcs)
    (batches : ledger.batches.map (fun batch => (batch.rest.map Prod.snd, batch.tag)) =
      openEpilogues c')
    (order : ledger.InOrder) : NotesInv c' (notes.note c a c') := by
  subst noted
  refine ⟨errorInv_step inv.errors h, ?_, waiting, batches, order⟩
  rw [openRuns_note inv.errors h, ← inv.fatals]
  rfl

private theorem NotesInv.still (inv : NotesInv c notes) (h : engine.step c a = some c')
    (ledger : noteProcs (notes.fatals.headD none) notes.ledger c a c' = notes.ledger)
    (procs : c'.world.onExitProcs = c.world.onExitProcs)
    (epilogues : openEpilogues c' = openEpilogues c) : NotesInv c' (notes.note c a c') :=
  inv.after h ledger (inv.waiting.trans procs.symm) (inv.batches.trans epilogues.symm) inv.order

private theorem NotesInv.goes_on (inv : NotesInv c notes)
    (h : engine.step c .proceed = some c')
    (loops : c.ctl = .leaving → c'.world.status ≠ .stopped)
    (other : ∀ result base procs captured stack,
      c.ctl ≠ .back result base (.onExit procs captured :: stack))
    (procs : c'.world.onExitProcs = c.world.onExitProcs)
    (epilogues : openEpilogues c' = openEpilogues c) :
    NotesInv c' (notes.note c .proceed c') :=
  inv.still h (note_still (step_inv h).2 loops other) procs epilogues

private theorem NotesInv.ends {base : Base} {stack : List Frame}
    {callers : List (Base × List Frame)} (inv : NotesInv c notes) (ctl : c.ctl = .leaving)
    (caller : c.callers = (base, stack) :: callers)
    (h : engine.step c .proceed = some (endLoop c base stack callers)) :
    NotesInv (endLoop c base stack callers)
      (notes.note c .proceed (endLoop c base stack callers)) := by
  obtain ⟨live, -⟩ := step_inv h
  have inside : Inside c.ctl := by simp [ctl, Inside]
  obtain ⟨_, only, runs⟩ := openRuns_inside inv.errors.loop inside
  rw [caller] at only
  obtain ⟨⟨rfl, rfl⟩, rfl⟩ := by simpa using only
  by_cases quiet : noActiveHandles c.world = true ∧ noActiveReqs c.world = true
  · have ended := @endLoop_eq c .outside stack [] quiet.1 quiet.2
    have error : notes.fatals.headD none = c.world.exitError := by
      rw [inv.fatals, runs]
      rfl
    have epilogues : openEpilogues c = taken stack := by rw [openEpilogues, caller]
    have noted : noteProcs (notes.fatals.headD none) notes.ledger c .proceed
        (endLoop c .outside stack []) = notes.ledger.take c.world.exitError := by
      rw [noteProcs, ctl, error]
      dsimp only
      rw [if_pos]
      rw [ended]
    refine inv.after h noted ?_ ?_ (inv.order.take _)
    · rw [ended]
      rfl
    · rw [ended]
      show (notes.ledger.waiting.map Prod.snd, c.world.exitError) :: _ =
        (c.world.onExitProcs, c.world.exitError) :: taken stack
      rw [inv.waiting, inv.batches, epilogues]
  · have aborted : endLoop c .outside stack [] = { c with world := c.world.abort .assertion } := by
      unfold endLoop
      rw [← Bool.and_eq_true] at quiet
      exact if_neg quiet
    rw [aborted] at h ⊢
    refine inv.goes_on h (fun _ => ?_) (by simp [ctl]) rfl rfl
    exact inv.errors.loop.busy inside live

private theorem NotesInv.batch (inv : NotesInv c notes) {result : Return} {base : Base}
    {procs : List Nat} {captured : Option RubyError} {stack : List Frame}
    (ctl : c.ctl = .back result base (.onExit procs captured :: stack)) :
    ∃ rest outer, notes.ledger.batches = ⟨captured, rest⟩ :: outer ∧
      rest.map Prod.snd = procs ∧
      outer.map (fun batch => (batch.rest.map Prod.snd, batch.tag)) = taken stack := by
  obtain ⟨alone, -⟩ := inv.errors.loop.alone (exit_outside inv.errors.loop ctl)
  have batches := inv.batches
  rw [openEpilogues, alone, ctl] at batches
  obtain ⟨batch, outer, same, first, others⟩ := List.map_eq_cons_iff.mp batches
  obtain ⟨tag, rest⟩ := batch
  obtain ⟨rest_eq, rfl⟩ := Prod.mk.inj first
  exact ⟨rest, outer, same, rest_eq, others⟩

theorem exit_inv {result : Return} {base : Base} {procs : List Nat}
    {captured : Option RubyError} {stack : List Frame}
    (ctl : c.ctl = .back result base (.onExit procs captured :: stack))
    (h : engine.step c .proceed = some c') :
    (∃ v proc rest, result = .value v ∧ procs = proc :: rest ∧ c' = { c with
      world := c.world.start (.onExit proc captured)
      ctl := .code base (.onExit rest captured :: stack) }) ∨
    (∃ result', c' = { c with world := c.world.push (.ran result'), ctl := .code base stack } ∧
      ((procs = [] ∧ result' = runResult captured) ∨
        ∃ error, result = .raised error ∧ result' = .raised error)) := by
  have resumed := Option.some.inj (proceed_back ctl h)
  cases result with
  | value v =>
    cases procs with
    | nil =>
      refine .inr ⟨_, resumed.symm, .inl ⟨rfl, ?_⟩⟩
      cases captured with
      | none => rfl
      | some error => cases error <;> rfl
    | cons proc procs => exact .inl ⟨v, proc, procs, rfl, rfl, resumed.symm⟩
  | raised error => exact .inr ⟨_, resumed.symm, .inr ⟨error, rfl, rfl⟩⟩

private theorem NotesInv.epilogue (inv : NotesInv c notes) {result : Return} {base : Base}
    {procs : List Nat} {captured : Option RubyError} {stack : List Frame}
    (ctl : c.ctl = .back result base (.onExit procs captured :: stack))
    (h : engine.step c .proceed = some c') : NotesInv c' (notes.note c .proceed c') := by
  obtain ⟨rest, outer, batches, rest_eq, others⟩ := inv.batch ctl
  obtain ⟨alone, -⟩ := inv.errors.loop.alone (exit_outside inv.errors.loop ctl)
  have below {stack' : List Frame} {w : World} (same : c' = { c with
      world := w, ctl := .code base stack' }) : openEpilogues c' = taken stack' := by
    rw [openEpilogues, same]
    dsimp only
    rw [alone]
    rfl
  rcases exit_inv ctl h with ⟨v, proc, procs, -, rfl, calls⟩ | ⟨result', ended, -⟩
  · obtain ⟨⟨k, x⟩, left, rfl, rfl, left_eq⟩ := List.map_eq_cons_iff.mp rest_eq
    have noted : noteProcs (notes.fatals.headD none) notes.ledger c .proceed c' =
        notes.ledger.call := by
      have seen : shown c c' = some (.started (.onExit x captured) c.world.status) :=
        shown_of_trace (by rw [calls]; rfl)
      simp only [noteProcs, ctl, seen]
    refine inv.after h noted ?_ ?_ inv.order.call
    · rw [Ledger.call_eq batches, calls]
      exact inv.waiting
    · rw [Ledger.call_eq batches, below calls]
      show (left.map Prod.snd, captured) :: outer.map _ = (procs, captured) :: taken stack
      rw [left_eq, others]
  · have noted : noteProcs (notes.fatals.headD none) notes.ledger c .proceed c' =
        notes.ledger.leave := by
      have seen : shown c c' = some (.ran result') := shown_of_trace (by rw [ended]; rfl)
      simp only [noteProcs, ctl, seen]
    refine inv.after h noted ?_ ?_ inv.order.leave
    · rw [ended]
      exact inv.waiting
    · rw [below ended, Ledger.leave, batches]
      exact others

private theorem NotesInv.method (inv : NotesInv c notes) {call : Call}
    (own : (∃ args, call = .onExit args) ∨ call = .unsetOnExit)
    (h : engine.step c (.call call) = some c') : NotesInv c' (notes.note c (.call call) c') := by
  have other : ∀ args uv, call ≠ .run args uv := by
    rintro args uv rfl
    rcases own with ⟨_, other⟩ | other <;> cases other
  obtain ⟨base, stack, r, ctl, called, runs⟩ := call_runs h other
  have epilogues {w : World} (same : c' = { c with world := w, ctl := .code base stack }) :
      openEpilogues c' = openEpilogues c := by
    refine openEpilogues_congr (by rw [same]) ?_
    rw [same, ctl]
  rcases own with ⟨args, rfl⟩ | rfl
  · obtain rfl := Option.some.inj called
    cases block : Procs.blockOf args with
    | error result =>
      simp only [Procs.onExit, checked, block, afterCall] at runs
      refine inv.still h ?_ ?_ (epilogues runs)
      · simp only [noteProcs, block]
      · rw [runs]
        rfl
    | ok proc =>
      simp only [Procs.onExit, checked, block, afterCall] at runs
      have noted : noteProcs (notes.fatals.headD none) notes.ledger c (.call (.onExit args)) c' =
          notes.ledger.register proc := by
        simp only [noteProcs, block]
      refine inv.after h noted ?_ (inv.batches.trans (epilogues runs).symm)
        (inv.order.register proc)
      rw [Ledger.register, List.map_append, inv.waiting, runs]
      rfl
  · obtain rfl := Option.some.inj called
    refine inv.after h rfl ?_ (inv.batches.trans (epilogues runs).symm) inv.order.clear
    rw [runs]
    rfl

private theorem run_procs {args : Args} {uv : UvAnswers}
    (h : engine.step c (.call (.run args uv)) = some c') :
    c'.world.onExitProcs = c.world.onExitProcs := by
  obtain ⟨base, stack, -, runs⟩ := run_inv h
  cases runs with
  | @queues proc w result accepted running runs =>
    have procs := runWhileRunning_procs (w := c.world) proc
    rw [runs] at procs
    exact procs
  | starts => exact startLoop_procs _ _
  | _ => rfl

private theorem NotesInv.elsewhere (inv : NotesInv c notes) (h : engine.step c a = some c')
    (proceeds : a ≠ .proceed) (registers : ∀ args, a ≠ .call (.onExit args))
    (clears : a ≠ .call .unsetOnExit) : NotesInv c' (notes.note c a c') := by
  obtain ⟨live, step⟩ := step_inv h
  have noted : noteProcs (notes.fatals.headD none) notes.ledger c a c' = notes.ledger := by
    cases a with
    | proceed => exact absurd rfl proceeds
    | call call =>
      cases call with
      | onExit args => exact absurd rfl (registers args)
      | unsetOnExit => exact absurd rfl clears
      | _ => rfl
    | _ => rfl
  have still (procs : c'.world.onExitProcs = c.world.onExitProcs)
      (callers : c'.callers = c.callers)
      (stack : taken (stackOf c'.ctl) = taken (stackOf c.ctl)) :
      NotesInv c' (notes.note c a c') :=
    inv.still h noted procs (openEpilogues_congr callers stack)
  cases step with
  | @other thread call w frame =>
    refine still ?_ rfl rfl
    obtain ⟨-, runs⟩ := other_inv h
    unfold stepOther at runs
    dsimp only at runs
    split at runs
    · cases runs
    · split at runs
      · rw [← Option.some.inj runs]
        exact stop_procs (w := { c.world with currentThread := thread })
      · rw [← Option.some.inj runs]
        exact callFromOtherThread_procs (w := { c.world with currentThread := thread }) _
      · split at runs
        · rw [← Option.some.inj runs]
          exact checked_procs (w := { c.world with currentThread := thread })
            fun _ => runWhileRunning_procs _
        · cases runs
      · cases runs
  | call ctl method =>
    have procs := method_procs (fun args same => registers args (same ▸ rfl))
      (fun same => clears (same ▸ rfl)) method
    exact still procs rfl (by rw [ctl])
  | close ctl socket opened connected method =>
    have procs := method_procs (by simp) (by simp) method
    exact still procs rfl (by rw [ctl]; rfl)
  | runReturns ctl frame =>
    exact still (run_procs h) rfl (by rw [ctl])
  | @runStarts base stack args uv proc ctl stopped free =>
    have outside : ¬ Inside c.ctl := fun inside => inv.errors.loop.busy inside live stopped
    obtain ⟨alone, -⟩ := inv.errors.loop.alone outside
    refine inv.still h noted (startLoop_procs proc uv) ?_
    rw [openEpilogues, openEpilogues, alone, ctl]
    rfl
  | codeEnds ctl can => exact still rfl rfl (by rw [ctl]; rfl)
  | interrupts entering ctl => exact still rfl rfl (by cases entering <;> simp [ctl, stackOf])
  | idleBatch ctl running active => exact still rfl rfl (by simp [ctl, stackOf, taken])
  | wakes ctl sent => exact still rfl rfl (by simp [ctl, stackOf])
  | uvQuiet ctl reported => exact still (reports_procs (uvCallback_inv reported)) rfl rfl
  | uvCalls ctl reported =>
    exact still (reports_procs (uvCallback_inv reported)) rfl (by simp [ctl, stackOf, taken])
  | uvReturns ctl handles reqs => exact still rfl rfl (by simp [ctl, stackOf])
  | _ => first | exact still rfl rfl rfl | exact absurd rfl proceeds

theorem notesInv_step (inv : NotesInv c notes) (h : engine.step c a = some c') :
    NotesInv c' (notes.note c a c') := by
  by_cases proceeds : a = .proceed
  · subst proceeds
    cases proceed_inv h with
    | @frame result base frame stack ctl =>
      by_cases exit : ∃ procs captured, frame = .onExit procs captured
      · obtain ⟨procs, captured, rfl⟩ := exit
        exact inv.epilogue ctl h
      · have other : ∀ procs captured, frame ≠ .onExit procs captured :=
          fun procs captured same => exit ⟨procs, captured, same⟩
        have quiet := resume_quiet (w := c.world) result base stack other
        have below : taken (stackOf c.ctl) = taken stack := by
          rw [ctl]
          cases frame with
          | onExit procs captured => exact absurd rfl (other procs captured)
          | _ => rfl
        refine inv.goes_on h (by simp [ctl]) ?_ quiet.1 ?_
        · intro result' base' procs captured stack' same
          rw [ctl] at same
          obtain ⟨-, -, frames⟩ := Ctl.back.inj same
          exact other procs captured (List.cons.inj frames).1
        · exact openEpilogues_congr rfl (quiet.2.trans below.symm)
    | loops ctl =>
      exact inv.goes_on h (by simp [ctl]) (by simp [ctl]) rfl
        (openEpilogues_congr rfl (by simp [ctl, stackOf]))
    | @intsReturn v entering ctl =>
      refine inv.goes_on h (by simp [ctl]) (by simp [ctl]) rfl (openEpilogues_congr rfl ?_)
      cases entering <;> simp [ctl, stackOf]
    | @intsRaise error entering base stack callers ctl caller =>
      obtain ⟨_, only, -⟩ := openRuns_inside inv.errors.loop (by simp [ctl, Inside])
      rw [caller] at only
      obtain ⟨⟨rfl, rfl⟩, rfl⟩ := by simpa using only
      refine inv.goes_on h (by simp [ctl]) (by simp [ctl]) rfl ?_
      rw [openEpilogues, openEpilogues, caller]
      rfl
    | enters ctl =>
      exact inv.goes_on h (by simp [ctl]) (by simp [ctl]) rfl
        (openEpilogues_congr rfl (by simp [ctl, stackOf]))
    | takes ctl =>
      refine inv.goes_on h (by simp [ctl]) (by simp [ctl]) ?_ (openEpilogues_congr ?_ ?_)
      · unfold takeBatch
        split <;> rfl
      · unfold takeBatch
        split <;> rfl
      · unfold takeBatch
        split <;> simp [ctl, stackOf, taken]
    | ends ctl caller => exact inv.ends ctl caller h
  · by_cases own : (∃ args, a = .call (.onExit args)) ∨ a = .call .unsetOnExit
    · rcases own with ⟨args, rfl⟩ | rfl
      · exact inv.method (.inl ⟨args, rfl⟩) h
      · exact inv.method (.inr rfl) h
    · rw [not_or, not_exists] at own
      exact inv.elsewhere h proceeds own.1 own.2

private theorem epilogue_step (inv : NotesInv c notes) (h : engine.step c a = some c') :
    Epilogue notes c a c' := by
  obtain ⟨live, step⟩ := step_inv h
  constructor
  · intro proc error status seen
    have exits : isExit (.started (.onExit proc error) status) := trivial
    rcases exit_step step exits seen with
      ⟨result, base, procs, captured, stack, ctl⟩ | ⟨-, _, not_ran⟩
    · obtain rfl := proceed_of_back h ctl
      obtain ⟨rest, outer, batches, rest_eq, -⟩ := inv.batch ctl
      rcases exit_inv ctl h with ⟨v, first, procs, -, rfl, calls⟩ | ⟨result', ended, -⟩
      · rw [calls] at seen
        obtain ⟨⟨rfl, rfl⟩, -⟩ := by simpa [World.start, World.push] using seen
        obtain ⟨⟨k, x⟩, left, rfl, rfl, -⟩ := List.map_eq_cons_iff.mp rest_eq
        exact ⟨k, left, outer, batches, inv.order.first batches⟩
      · rw [ended] at seen
        cases (List.cons.inj seen).1
    · cases not_ran
  · intro result seen
    have exits : isExit (.ran result) := trivial
    rcases exit_step step exits seen with
      ⟨last, base, procs, captured, stack, ctl⟩ | ⟨raises, -⟩
    · obtain rfl := proceed_of_back h ctl
      obtain ⟨rest, outer, batches, rest_eq, -⟩ := inv.batch ctl
      refine .inr ⟨_, outer, batches, ?_⟩
      rcases exit_inv ctl h with ⟨v, first, procs, -, rfl, calls⟩ | ⟨result', ended, how⟩
      · rw [calls] at seen
        cases (List.cons.inj seen).1
      · rw [ended] at seen
        obtain rfl := Event.ran.inj (List.cons.inj seen).1
        rcases how with ⟨rfl, same⟩ | ⟨error, rfl, same⟩
        · exact .inl ⟨List.map_eq_nil_iff.mp rest_eq, same⟩
        · exact .inr ⟨error, base, procs, captured, stack, same, ctl⟩
    · exact .inl raises

end Step

theorem notesInv_init : NotesInv engine.init {} :=
  ⟨errorInv_init, rfl, rfl, rfl, Ledger.inOrder_empty⟩

/-- In every run each proc given to `on_exit` is called once at most, by the first call of `AE.run`
to come to its epilogue and with its error, in the order of registration, and none of them is left
out unless one raises. -/
theorem on_exit_procs_called {l : List ((Config × Notes) × Action)} {p : Config × Notes}
    (path : Path exitNoted l p) :
    Each (fun q a => ∀ c', engine.step q.1 a = some c' → Epilogue q.2 q.1 a c') l := by
  refine path.each (I := fun p => NotesInv p.1 p.2) notesInv_init ?_ ?_
  · intro p q a inv move
    obtain ⟨step, noted⟩ := annotate_step move
    rw [noted]
    exact notesInv_step inv step
  · intro p q a inv move c' step
    exact epilogue_step inv step

/-- The first of two procs registers a third and runs a loop of its own, which calls it. -/
theorem on_exit_procs_called_nested : ∃ l p, Path exitNoted l p ∧
    p.2.ledger.called = [0, 2, 1] ∧
    Each (fun q a => ∀ c', engine.step q.1 a = some c' → Epilogue q.2 q.1 a c') l := by
  have reached : (exitNoted.exec (
      [.call (.onExit ⟨[], some 7⟩), .call (.onExit ⟨[], some 8⟩)] ++ stoppedLoop ++
      [.call (.onExit ⟨[], some 9⟩)] ++ stoppedLoop ++
      [.finish, .proceed, .finish, .proceed, .finish, .proceed])).any
      (fun p => decide (p.2.ledger.called = [0, 2, 1])) = true := by
    decide +kernel
  obtain ⟨l, p, path, called⟩ := exists_path_of_exec exitNoted _ _ reached
  exact ⟨l, p, path, of_decide_eq_true called, on_exit_procs_called path⟩

end AsyncEngine.Engine.OnExit
