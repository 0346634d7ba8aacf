/- The type `ae_ip_parser_execute` returns: exact on the grammar, save for the texts that stop in
   the middle of an address after having been an IPv6 address. -/

import AsyncEngine.IpParser.Recognition

set_option autoImplicit false
set_option relaxedAutoImplicit false

namespace AsyncEngine.IpParser.Classification

open AsyncEngine.Lib.Presentation
open AsyncEngine.IpParser.Grammar
open AsyncEngine.IpParser.Machine
open AsyncEngine.IpParser.Recognition

/-- The variable `ip_type` after the machine has read a text: the action executed last. -/
def sticky : Nat → IpType → List UInt8 → IpType
  | _, ipType, [] => ipType
  | cs, ipType, b :: w =>
    match goto cs b with
    | none => ipType
    | some (cs', action) => sticky cs' (action.getD ipType) w

private theorem run_cons (cs : Nat) (a : Option IpType) (b : UInt8) (w : List UInt8) :
    machine.run (cs, a) (b :: w) = (goto cs b).bind (machine.run · w) := by
  rw [Table.run_cons]
  rfl

private theorem exec_live {cs : Nat} {a : Option IpType} {w : List UInt8} (hw : w ≠ [])
    (h : (machine.run (cs, a) w).isSome = true) (ipType : IpType) (p : Int) :
    exec (p + w.length) cs ipType p w = (p + w.length, sticky cs ipType w) := by
  induction w generalizing cs a ipType p with
  | nil => exact absurd rfl hw
  | cons b w ih =>
    rw [run_cons] at h
    cases hg : goto cs b with
    | none => simp [hg] at h
    | some q =>
      obtain ⟨cs', action⟩ := q
      rw [hg, Option.bind_some] at h
      have length : p + (b :: w).length = p + 1 + w.length := by
        simp only [List.length_cons]
        omega
      simp only [exec, sticky, hg, length]
      cases w with
      | nil => simp [sticky]
      | cons c w =>
        rw [if_neg (by simp only [List.length_cons]; omega)]
        exact ih (by simp) h _ _

private theorem exec_dead {cs : Nat} {a : Option IpType} {w : List UInt8}
    (h : machine.run (cs, a) w = none) (ipType : IpType) (p : Int) :
    (exec (p + w.length) cs ipType p w).1 < p + w.length := by
  induction w generalizing cs a ipType p with
  | nil => simp at h
  | cons b w ih =>
    rw [run_cons] at h
    have length : p + (b :: w).length = p + 1 + w.length := by
      simp only [List.length_cons]
      omega
    cases hg : goto cs b with
    | none =>
      simp only [exec, hg, length]
      omega
    | some q =>
      obtain ⟨cs', action⟩ := q
      rw [hg, Option.bind_some] at h
      simp only [exec, hg, length]
      have later : p + 1 ≠ p + 1 + w.length := by
        intro equal
        obtain rfl : w = [] := List.length_eq_zero_iff.mp (by omega)
        simp at h
      rw [if_neg later]
      exact ih h _ _

theorem execute_eq (s : List UInt8) :
    aeIpParserExecute s s.length =
      if (machine.run (1, none) s).isSome then sticky 1 .noIp s else .noIp := by
  cases s with
  | nil => rfl
  | cons b w =>
    have nonzero : ((b :: w).length : Int) ≠ 0 := by
      simp only [List.length_cons]
      omega
    rw [aeIpParserExecute, if_neg nonzero]
    cases hr : machine.run (1, none) (b :: w) with
    | none =>
      have short := exec_dead hr .noIp 0
      rw [Int.zero_add] at short
      rw [if_pos (by omega)]
      rfl
    | some q =>
      have whole := exec_live (List.cons_ne_nil b w) (by rw [hr]; rfl) .noIp 0
      rw [Int.zero_add] at whole
      rw [whole]
      simp

private theorem exec_take (w : List UInt8) (m : Nat) (hm : m ≤ w.length) (hpos : 0 < m) (cs : Nat)
    (ipType : IpType) (p : Int) :
    exec (p + m) cs ipType p w = exec (p + m) cs ipType p (w.take m) := by
  induction w generalizing m cs ipType p with
  | nil => exact absurd hm (by simp only [List.length_nil]; omega)
  | cons b w ih =>
    obtain ⟨k, rfl⟩ := Nat.exists_eq_succ_of_ne_zero (Nat.ne_of_gt hpos)
    have length : p + (k.succ : Nat) = p + 1 + k := by
      omega
    simp only [exec, List.take_succ_cons, length]
    cases goto cs b with
    | none => rfl
    | some q =>
      by_cases last : p + 1 = p + 1 + k
      · simp only [if_pos last]
      · simp only [if_neg last]
        refine ih k ?_ ?_ _ _ _
        · simpa using hm
        · omega

private theorem exec_ge (pe : Int) (w : List UInt8) (cs : Nat) (ipType : IpType) (p : Int) :
    p ≤ (exec pe cs ipType p w).1 := by
  induction w generalizing cs ipType p with
  | nil => exact le_rfl
  | cons b w ih =>
    simp only [exec]
    cases goto cs b with
    | none => exact le_rfl
    | some q =>
      dsimp only
      split
      · show p ≤ p + 1
        omega
      · have next := ih q.1 (q.2.getD ipType) (p + 1)
        omega

/-- Called with a shorter length, the parser reads that much of the text; with a negative one it
finds no address. -/
theorem execute_take (s : List UInt8) (len : Int) (h : len ≤ s.length) :
    aeIpParserExecute s len =
      aeIpParserExecute (s.take len.toNat) (s.take len.toNat).length := by
  rcases Int.lt_trichotomy len 0 with negative | rfl | positive
  · have start := exec_ge len s 1 .noIp 0
    have stopped : aeIpParserExecute s len = .noIp := by
      simp only [aeIpParserExecute, if_neg (show ¬ len = 0 by omega)]
      exact if_pos (by omega)
    rw [stopped, Int.toNat_of_nonpos (by omega), List.take_zero]
    rfl
  · rfl
  · have size : ((s.take len.toNat).length : Int) = len := by
      rw [List.length_take]
      omega
    have same := exec_take s len.toNat (by omega) (by omega) 1 .noIp 0
    rw [Int.zero_add, Int.toNat_of_nonneg (by omega)] at same
    rw [size, aeIpParserExecute, aeIpParserExecute, same]

/-- What the table says of one `tr` block: its action is never `ip_type_no_ip`, and after the
actions of IPv4 addresses and references only the same action can follow. -/
private def transitionOk (x : Nat × IpType × Nat) : Bool :=
  x.2.1 != .noIp && (x.2.1 == .ipv6 || (arms x.2.2).all fun
    | .byte _ (.tr n) | .range _ _ (.tr n) | .hexdigit (.tr n) | .letter (.tr n) =>
      (transitions.lookup n).all fun t => t.1 == x.2.1
    | _ => false)

private theorem transitions_ok : transitions.all transitionOk = true := by
  decide +kernel

private theorem mem_of_lookup {β : Type} {l : List (Nat × β)} {n : Nat} {v : β}
    (h : l.lookup n = some v) : (n, v) ∈ l := by
  induction l with
  | nil => simp at h
  | cons x l ih =>
    rw [List.lookup_cons] at h
    split at h
    · rename_i equal
      obtain ⟨rfl⟩ := Option.some.inj h
      rw [beq_iff_eq] at equal
      subst equal
      exact List.mem_cons_self
    · exact List.mem_cons_of_mem _ (ih h)

private theorem action_transition {cs cs' : Nat} {b : UInt8} {t : IpType}
    (h : goto cs b = some (cs', some t)) : ∃ n, (n, t, cs') ∈ transitions := by
  unfold goto at h
  cases hl : (arms cs).findSome? fun arm : Arm => arm.fire b with
  | none => simp [hl] at h
  | some label =>
    cases label with
    | st n => simp [hl] at h
    | tr n =>
      rw [hl] at h
      obtain ⟨x, hx, equal⟩ := Option.map_eq_some_iff.mp h
      obtain ⟨rfl, rfl⟩ : x.2 = cs' ∧ x.1 = t := by simpa using equal
      exact ⟨n, mem_of_lookup hx⟩

private theorem fire_goto {arm : Arm} {b : UInt8} {label : Label} (h : arm.fire b = some label) :
    (∃ c, arm = .byte c label) ∨ (∃ lo hi, arm = .range lo hi label) ∨ arm = .hexdigit label ∨
      arm = .letter label := by
  cases arm <;> simp only [Arm.fire, cond_eq_ite, Option.ite_none_right_eq_some] at h <;>
    simp [Option.some.inj h.2]

/-- After the action of an IPv4 address or a reference every transition repeats it. -/
private theorem action_repeats {cs cs' : Nat} {b c : UInt8} {t : IpType} {q : Control}
    (h : goto cs b = some (cs', some t)) (ht : t ≠ .ipv6) (next : goto cs' c = some q) :
    q.2 = some t := by
  obtain ⟨n, hn⟩ := action_transition h
  have ok := List.all_eq_true.mp transitions_ok _ hn
  simp only [transitionOk, Bool.and_eq_true, Bool.or_eq_true, beq_iff_eq, ht, false_or,
    List.all_eq_true] at ok
  unfold goto at next
  cases hl : (arms cs').findSome? fun arm : Arm => arm.fire c with
  | none => simp [hl] at next
  | some label =>
    obtain ⟨arm, harm, fire⟩ := List.exists_of_findSome?_eq_some hl
    have row := ok.2 arm harm
    rw [hl] at next
    cases label with
    | st m => rcases fire_goto fire with ⟨_, rfl⟩ | ⟨_, _, rfl⟩ | rfl | rfl <;> simp at row
    | tr m =>
      obtain ⟨x, hx, rfl⟩ := Option.map_eq_some_iff.mp next
      rcases fire_goto fire with ⟨_, rfl⟩ | ⟨_, _, rfl⟩ | rfl | rfl <;> simpa [hx] using row

private theorem run_repeats {cs cs' : Nat} {b : UInt8} {t : IpType}
    (h : goto cs b = some (cs', some t)) (ht : t ≠ .ipv6) {v : List UInt8} {q : Control}
    (hr : machine.run (cs', some t) v = some q) : q.2 = some t := by
  induction v generalizing cs cs' b with
  | nil =>
    obtain rfl := Option.some.inj hr
    rfl
  | cons c v ih =>
    rw [run_cons] at hr
    cases hg : goto cs' c with
    | none => simp [hg] at hr
    | some q' =>
      obtain ⟨cs'', action⟩ := q'
      obtain rfl : action = some t := action_repeats h ht hg
      rw [hg, Option.bind_some] at hr
      exact ih hg hr

/-- A nonempty run ends with the transition that executed its last action. -/
private theorem run_last {cs : Nat} {a : Option IpType} {w : List UInt8} {q : Control}
    (hw : w ≠ []) (h : machine.run (cs, a) w = some q) : ∃ c b, goto c b = some q := by
  obtain ⟨u, b, rfl⟩ := (List.eq_nil_or_concat w).resolve_left hw
  rw [List.concat_eq_append, Table.run_append] at h
  cases hu : machine.run (cs, a) u with
  | none => simp [hu] at h
  | some q' =>
    rw [hu, Option.bind_some, run_cons] at h
    cases hg : goto q'.1 b with
    | none => simp [hg] at h
    | some q'' =>
      rw [hg, Option.bind_some] at h
      exact ⟨q'.1, b, by rw [hg, ← h]; rfl⟩

private theorem sticky_append {cs : Nat} {a : Option IpType} {u : List UInt8} {q : Control}
    (h : machine.run (cs, a) u = some q) (ipType : IpType) (v : List UInt8) :
    sticky cs ipType (u ++ v) = sticky q.1 (sticky cs ipType u) v := by
  induction u generalizing cs a ipType with
  | nil =>
    obtain rfl := Option.some.inj h
    rfl
  | cons b u ih =>
    rw [run_cons] at h
    cases hg : goto cs b with
    | none => simp [hg] at h
    | some q' =>
      rw [hg, Option.bind_some] at h
      simp only [List.cons_append, sticky, hg]
      exact ih h _

private theorem sticky_of_action {cs : Nat} {a : Option IpType} {w : List UInt8} {q : Control}
    {t : IpType} (hw : w ≠ []) (h : machine.run (cs, a) w = some q) (ht : q.2 = some t)
    (ipType : IpType) : sticky cs ipType w = t := by
  obtain ⟨u, b, rfl⟩ := (List.eq_nil_or_concat w).resolve_left hw
  rw [List.concat_eq_append, Table.run_append] at h
  cases hu : machine.run (cs, a) u with
  | none => simp [hu] at h
  | some r =>
    rw [hu, Option.bind_some, run_cons] at h
    cases hg : goto r.1 b with
    | none => simp [hg] at h
    | some r' =>
      obtain rfl : r' = q := by simpa [hg] using h
      rw [List.concat_eq_append, sticky_append hu]
      simp [sticky, hg, ht]

/-- The variable is unset only if no action has been executed, and otherwise names a type
under which some beginning of the text was accepted. -/
private theorem sticky_cases (cs : Nat) (a : Option IpType) (w : List UInt8)
    (h : (machine.run (cs, a) w).isSome = true) :
    (sticky cs .noIp w = .noIp ∧
      ∀ u, u ≠ [] → u <+: w → ∀ q, machine.run (cs, a) u = some q → q.2 = none) ∨
    ∃ u q, u ≠ [] ∧ u <+: w ∧ machine.run (cs, a) u = some q ∧ q.2 = some (sticky cs .noIp w) := by
  induction w using List.reverseRecOn with
  | nil => exact .inl ⟨rfl, fun u hu hp => absurd (List.prefix_nil.mp hp) hu⟩
  | append_singleton w b ih =>
    rw [Table.run_append] at h
    cases hw : machine.run (cs, a) w with
    | none => simp [hw] at h
    | some q =>
      cases hg : goto q.1 b with
      | none =>
        rw [hw, Option.bind_some, run_cons, hg] at h
        simp at h
      | some q' =>
        obtain ⟨cs', action⟩ := q'
        have whole : machine.run (cs, a) (w ++ [b]) = some (cs', action) := by
          rw [Table.run_append, hw, Option.bind_some, run_cons, hg]
          rfl
        have value : sticky cs .noIp (w ++ [b]) = action.getD (sticky cs .noIp w) := by
          rw [sticky_append hw]
          simp only [sticky, hg]
        cases action with
        | some t =>
          exact .inr ⟨w ++ [b], (cs', some t), by simp, List.prefix_rfl, whole, by simp [value]⟩
        | none =>
          rw [value, Option.getD_none]
          rcases ih (by rw [hw]; rfl) with ⟨unset, silent⟩ | ⟨u, r, hu, hp, hr, act⟩
          · refine .inl ⟨unset, fun u hu hp r hr => ?_⟩
            rcases List.prefix_concat_iff.mp hp with rfl | hp
            · rw [whole] at hr
              exact (Option.some.inj hr) ▸ rfl
            · exact silent u hu hp r hr
          · exact .inr ⟨u, r, hu, hp.trans (List.prefix_append w [b]), hr, act⟩

/-- The texts that are no address but begin with an IPv6 address and are the beginning of one. -/
def Unfinished (s : List UInt8) : Prop :=
  (∀ t, s ∉ address t) ∧ (∃ u, u <+: s ∧ u ∈ ipv6Address) ∧ ∃ t v, s ++ v ∈ address t

theorem empty_notMem_address (t : IpType) : [] ∉ address t := by
  rw [(machine_run []).1 t]
  rintro ⟨q, hq, ht⟩
  rw [← Option.some.inj hq] at ht
  cases ht

/-- Every type but `ip_type_ipv6` is returned for the words of its rule only; `ip_type_ipv6` is
also returned for the unfinished texts. -/
theorem execute_eq_iff (s : List UInt8) (t : IpType) (ht : t ≠ .noIp) :
    aeIpParserExecute s s.length = t ↔ s ∈ address t ∨ (t = .ipv6 ∧ Unfinished s) := by
  have run := machine_run s
  rw [execute_eq]
  cases hr : machine.run (1, none) s with
  | none =>
    have dead : ¬ ∃ t v, s ++ v ∈ address t := by simp [run.2, hr]
    have out : s ∉ address t := by simp [run.1 t, hr]
    simp only [Option.isSome_none, Bool.false_eq_true, if_false, out, false_or]
    exact iff_of_false (Ne.symm ht) fun h => dead h.2.2.2
  | some q =>
    have live : ∃ t v, s ++ v ∈ address t := run.2.mpr (by rw [hr]; rfl)
    have member (t : IpType) : s ∈ address t ↔ q.2 = some t := by simp [run.1 t, hr]
    simp only [Option.isSome_some, if_true, member]
    -- Where the variable was set by a proper beginning, only `ip_type_ipv6` can have been set.
    have set_before {u : List UInt8} {r : Control} {x : IpType} (hu : u ≠ []) (hp : u <+: s)
        (hur : machine.run (1, none) u = some r) (hx : r.2 = some x) (hx6 : x ≠ .ipv6) :
        q.2 = some x := by
      obtain ⟨v, rfl⟩ := hp
      obtain ⟨c, b, hg⟩ := run_last hu hur
      obtain ⟨cs, action⟩ := r
      subst hx
      rw [Table.run_append, hur, Option.bind_some] at hr
      exact run_repeats hg hx6 hr
    have unfinished_out (h : Unfinished s) : q.2 = none := by
      rw [Option.eq_none_iff_forall_ne_some]
      exact fun x hx => h.1 x ((member x).mpr hx)
    rcases sticky_cases 1 none s (by rw [hr]; rfl) with ⟨unset, silent⟩ | ⟨u, r, hu, hp, hur, hx⟩
    · rw [unset]
      refine iff_of_false (Ne.symm ht) ?_
      rintro (hq | ⟨-, -, ⟨u, hp, hu⟩, -⟩)
      · have hs : s ≠ [] := by
          rintro rfl
          exact empty_notMem_address t ((member t).mpr hq)
        rw [silent s hs List.prefix_rfl q hr] at hq
        cases hq
      · have nonempty : u ≠ [] := by
          rintro rfl
          exact empty_notMem_address .ipv6 hu
        obtain ⟨r, hur, hx⟩ := ((machine_run u).1 .ipv6).mp hu
        rw [silent u nonempty hp r hur] at hx
        cases hx
    · by_cases h6 : sticky 1 .noIp s = .ipv6
      · cases hq : q.2 with
        | some y =>
          have hs : s ≠ [] := by
            rintro rfl
            exact empty_notMem_address y ((member y).mpr hq)
          rw [sticky_of_action hs hr hq]
          refine ⟨fun h => .inl (by rw [h]), fun h => h.elim Option.some.inj fun h => ?_⟩
          rw [unfinished_out h.2] at hq
          cases hq
        | none =>
          rw [h6] at hx ⊢
          have prefix_ipv6 : u ∈ ipv6Address := ((machine_run u).1 .ipv6).mpr ⟨r, hur, hx⟩
          have out : ∀ t, s ∉ address t := fun t hs => by
            rw [member, hq] at hs
            cases hs
          exact ⟨fun h => .inr ⟨h.symm, out, ⟨u, hp, prefix_ipv6⟩, live⟩,
            fun h => h.elim (fun h => by cases h) fun h => h.1.symm⟩
      · have hq := set_before hu hp hur hx h6
        rw [hq]
        refine ⟨fun h => .inl (by rw [h]), fun h => h.elim Option.some.inj fun h => ?_⟩
        rw [unfinished_out h.2] at hq
        cases hq

/-- The result for a text is its type in the grammar. -/
def ClassifiedExactly (s : List UInt8) : Prop :=
  (aeIpParserExecute s s.length = .ipv4 ↔ s ∈ ipv4Address) ∧
  (aeIpParserExecute s s.length = .ipv6 ↔ s ∈ ipv6Address) ∧
  (aeIpParserExecute s s.length = .ipv6Reference ↔ s ∈ ipv6Reference) ∧
  (aeIpParserExecute s s.length = .noIp ↔
    s ∉ ipv4Address ∧ s ∉ ipv6Address ∧ s ∉ ipv6Reference)

/-- The parser is exact on a text precisely when the text is not an unfinished one. -/
theorem classifiedExactly_iff (s : List UInt8) : ClassifiedExactly s ↔ ¬ Unfinished s := by
  have ipv4 := execute_eq_iff s .ipv4 (by decide)
  have ipv6 := execute_eq_iff s .ipv6 (by decide)
  have reference := execute_eq_iff s .ipv6Reference (by decide)
  simp only [address, reduceCtorEq, false_and, or_false, true_and] at ipv4 ipv6 reference
  constructor
  · rintro ⟨-, exact6, -, -⟩ unfinished
    exact unfinished.1 .ipv6 (exact6.mp (ipv6.mpr (.inr unfinished)))
  · intro finished
    simp only [finished, or_false] at ipv6
    refine ⟨ipv4, ipv6, reference, ?_⟩
    rw [← ipv4, ← ipv6, ← reference]
    cases aeIpParserExecute s s.length <;> simp

/-- `::1:` is taken for an IPv6 address. -/
theorem trailing_colon_not_exact :
    ¬ ∀ s : List UInt8, ClassifiedExactly s := by
  intro h
  have text := (h [58, 58, 49, 58]).2.1.mp (by decide +kernel)
  obtain ⟨q, hq, ht⟩ := ((machine_run _).1 .ipv6).mp text
  have stop : machine.run (1, none) [58, 58, 49, 58] = some (84, none) := by decide +kernel
  rw [stop] at hq
  obtain rfl := Option.some.inj hq
  cases ht

end AsyncEngine.IpParser.Classification
