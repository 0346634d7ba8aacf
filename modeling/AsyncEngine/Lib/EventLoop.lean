/- A reactor: handles that are opened and closed and queues of work, under a loop that is started,
   released and ended again and again. -/

import Mathlib.Data.Set.Insert
import Mathlib.Order.BooleanAlgebra.Set
import Mathlib.Logic.Function.Basic
import Mathlib.Data.List.Chain

set_option autoImplicit false
set_option relaxedAutoImplicit false

namespace AsyncEngine.Lib.EventLoop

inductive Phase
  | stopped
  | running
  | releasing

/-- The phase of the loop, the handles that are open, and what waits in each queue. -/
structure Reactor (H Q T : Type) where
  phase : Phase
  opened : Set H
  waiting : Q → List T

variable {H Q T : Type} {s t : Reactor H Q T}

/-- Before the first loop. -/
def Reactor.idle : Reactor H Q T := ⟨.stopped, ∅, fun _ => []⟩

/-- What happens to the handles in a turn: one is opened, in a running loop only, or one is
closed. -/
inductive HandleTurn (s : Reactor H Q T) : Set H → Prop
  | same : HandleTurn s s.opened
  | opens (h : H) (running : s.phase = .running) : HandleTurn s (insert h s.opened)
  | closes (h : H) : HandleTurn s (s.opened \ {h})

/-- What happens to a queue in a turn: one thing is put at its end, or all of it is taken, in a
running loop only. -/
inductive QueueTurn (s : Reactor H Q T) (q : Q) : List T → Prop
  | same : QueueTurn s q (s.waiting q)
  | pushes (x : T) (running : s.phase = .running) : QueueTurn s q (s.waiting q ++ [x])
  | takes (running : s.phase = .running) : QueueTurn s q []

inductive Turn [DecidableEq Q] (s : Reactor H Q T) : Reactor H Q T → Prop
  | works {opened : Set H} {waiting : Q → List T} (handles : HandleTurn s opened)
      (queues : ∀ q, QueueTurn s q (waiting q)) :
      Turn s { s with opened := opened, waiting := waiting }
  | starts (first : Q) (x : T) (stopped : s.phase = .stopped) : Turn s { s with
      phase := .running
      waiting := Function.update s.waiting first (s.waiting first ++ [x]) }
  | releases (running : s.phase = .running) :
      Turn s { s with phase := .releasing, waiting := fun _ => [] }
  | ends (releasing : s.phase = .releasing) (closed : s.opened = ∅) :
      Turn s { s with phase := .stopped }

/-- Reactors one after the other: the first one is idle, and each one comes by one turn from the
one before it. -/
structure History [DecidableEq Q] (states : List (Reactor H Q T)) : Prop where
  begins : states.head? = some .idle
  turns : states.IsChain Turn

/-- Nothing waits unless the loop runs, and nothing is open between two loops. -/
structure Tidy (s : Reactor H Q T) : Prop where
  waiting : s.phase ≠ .running → ∀ q, s.waiting q = []
  opened : s.phase = .stopped → s.opened = ∅

theorem tidy_idle : Tidy (Reactor.idle : Reactor H Q T) := ⟨fun _ _ => rfl, fun _ => rfl⟩

theorem QueueTurn.idle {q : Q} {after : List T} (turn : QueueTurn s q after)
    (idle : s.phase ≠ .running) : after = s.waiting q := by
  cases turn with
  | same => rfl
  | pushes x running => exact absurd running idle
  | takes running => exact absurd running idle

theorem HandleTurn.idle {opened : Set H} (turn : HandleTurn s opened) (idle : s.phase ≠ .running) :
    opened ⊆ s.opened := by
  cases turn with
  | same => exact Set.Subset.rfl
  | opens h running => exact absurd running idle
  | closes h => exact Set.sdiff_subset

variable [DecidableEq Q]

theorem Turn.tidy (turn : Turn s t) (tidy : Tidy s) : Tidy t := by
  cases turn with
  | works handles queues =>
    refine ⟨fun idle q => ?_, fun stopped => ?_⟩
    · exact ((queues q).idle idle).trans (tidy.waiting idle q)
    · have idle : s.phase ≠ .running := by
        rw [show s.phase = .stopped from stopped]
        exact fun same => by cases same
      exact Set.subset_eq_empty (handles.idle idle) (tidy.opened stopped)
  | starts first x stopped =>
    exact ⟨fun idle => absurd rfl idle, fun stopped => by cases stopped⟩
  | releases running => exact ⟨fun _ _ => rfl, fun stopped => by cases stopped⟩
  | ends releasing closed =>
    refine ⟨fun _ q => tidy.waiting ?_ q, fun _ => closed⟩
    rw [releasing]
    exact fun same => by cases same

variable {states : List (Reactor H Q T)}

theorem history_idle : History [(Reactor.idle : Reactor H Q T)] := ⟨rfl, .singleton _⟩

theorem History.next (history : History (states ++ [s])) (turn : Turn s t) :
    History (states ++ [s] ++ [t]) := by
  refine ⟨?_, history.turns.append (.singleton t) ?_⟩
  · rw [List.head?_append, history.begins]
    rfl
  · intro x last y first
    rw [List.getLast?_concat] at last
    obtain rfl := Option.some.inj last
    obtain rfl := Option.some.inj first
    exact turn

theorem History.tidy (history : History states) : ∀ s ∈ states, Tidy s := by
  refine history.turns.induction Tidy states (fun _ _ turn => turn.tidy) fun some => ?_
  have first : states.head some = .idle :=
    Option.some.inj ((List.head?_eq_some_head some).symm.trans history.begins)
  rw [first]
  exact tidy_idle

end AsyncEngine.Lib.EventLoop
