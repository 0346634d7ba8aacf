/- Lengths of Strings, which are a `long` in Ruby and are stored in an `int` here: what a method
   makes of a String that is too long for it. -/

import AsyncEngine.Engine.Effects
import AsyncEngine.Engine.IpUtils

set_option autoImplicit false
set_option relaxedAutoImplicit false

namespace AsyncEngine.Engine.Lengths

open AsyncEngine.Engine.Ruby
open AsyncEngine.Engine.State
open AsyncEngine.Engine.Effects
open AsyncEngine.Engine.IpUtils
open AsyncEngine.IpParser.Address
open AsyncEngine.IpParser.Classification
open AsyncEngine.IpParser.Grammar
open AsyncEngine.IpParser.Machine
open AsyncEngine.IpParser.Recognition

/-- The method raises, or returns `false` or `nil`. -/
def Rejects : Return → Prop
  | .raised _ => True
  | .value v => v = .false ∨ v = .nil

/-- The type of a text is that of the whole text. -/
def TypedWhole (s : List UInt8) : Prop := ipTypeOf s = aeIpParserExecute s s.length

/-- What the parser sees of a text is an address or an unfinished one. -/
def Taken (s : List UInt8) : Prop := Derived (seen s) ∨ Unfinished (seen s)

/-- The text does not fit in an `int`, and what the parser sees of it passes for an IP. -/
def Misfit (s : List UInt8) : Prop := 2147483647 < s.length ∧ Taken s

/-- The length of the data leaves something else than a negative `int`, and less than it was. -/
def Cut (data : List UInt8) : Prop := 4294967296 ≤ data.length ∧ 0 ≤ toInt data.length

/-- The arguments that `compare_ips` calls `compare_pure_ips` with, if it does. -/
def entered (args : Args) : Option (PureIp × PureIp) :=
  match compareArgs args with
  | .error _ => none
  | .ok (str1, str2, allowIpv6Reference) =>
    if ipTypeOf str1 = .noIp ∨ ipTypeOf str2 = .noIp then none
    else
      let ip1 := pureIp str1 (ipTypeOf str1)
      let ip2 := pureIp str2 (ipTypeOf str2)
      if ip1.references + ip2.references = 1 ∧ allowIpv6Reference = false then none
      else some (ip1, ip2)

/-- `compare_ips` rejects its arguments, or compares two texts as a whole in arrays that are not
overrun. -/
structure ComparesWhole (aeInetPton : InetPton) (args : Args) : Prop where
  rejects : entered args = none →
    ∃ result, asyncEngineIpUtilsCompareIps aeInetPton args = some result ∧ Rejects result
  compares : ∀ ip1 ip2, entered args = some (ip1, ip2) →
    asyncEngineIpUtilsCompareIps aeInetPton args =
      (comparePureIps aeInetPton ip1.str ip1.len ip1.ipType ip2.str ip2.len ip2.ipType).map
        fun equal => .value (if equal then .true else .false)
  within : ∀ ip1 ip2, entered args = some (ip1, ip2) →
    (0 ≤ ip1.len ∧ ip1.len < 46) ∧ 0 ≤ ip2.len ∧ ip2.len < 46
  typed : ∀ a b allow, compareArgs args = .ok (a, b, allow) → entered args ≠ none →
    TypedWhole a ∧ TypedWhole b

/-- `compare_ips` is called with two texts that pass for IPs and are compared, and one of them
does not fit in an `int`. -/
def ComparesMisfit (args : Args) : Prop :=
  ∃ a b allow, compareArgs args = .ok (a, b, allow) ∧ Taken a ∧ Taken b ∧
    (2147483647 < a.length ∨ 2147483647 < b.length) ∧
    ((seen a ∈ ipv6Reference ↔ seen b ∈ ipv6Reference) ∨ allow = true)

/-- What a method that hands data to libuv asks of its arguments, up to the data. -/
structure TakesData (t : State.Tcp) (args : Args) (data : List UInt8) : Prop where
  count : checkNumArgs args 1 2 = .ok ()
  opened : t.uvHandle = true
  block : ∃ block, getBlockOrProc 2 args = .ok block
  first : args.argv[0]? = some (.string data)

structure TakesDatagram (u : State.Udp) (args : Args) (datagram ip : List UInt8) : Prop where
  count : checkNumArgs args 3 4 = .ok ()
  opened : u.uvHandle = true
  block : ∃ block, getBlockOrProc 4 args = .ok block
  first : args.argv[0]? = some (.string datagram)
  second : args.argv[1]? = some (.string ip)
  noNul : 0 ∉ ip
  port : ∃ port : Int, args.argv[2]? = some (.fixnum port) ∧ 0 ≤ port ∧ port ≤ 65535
  family : ipTypeOf ip = u.ipType

/-- `send_data` rejects its arguments, or the buffer it hands to `uv_write` holds the data. -/
def SendsWhole (w : World) (n : Nat) (t : State.Tcp) (args : Args) (uv : UvAnswers) : Prop :=
  (∃ result, (Tcp.sendData w n t args uv).2 = .ends result ∧ Rejects result) ∨
    ∃ data block, args.argv[0]? = some (.string data) ∧
      (Tcp.sendData w n t args uv).1.tcpWrites = w.tcpWrites ++ [⟨n, data, block⟩]

/-- `send_datagram` rejects its arguments, or the type of the whole address is that of the socket
and the buffer it hands to libuv, if the socket is not on a reference, holds the datagram. -/
def SendsDatagramWhole (w : World) (n : Nat) (u : State.Udp) (args : Args) (uv : UvAnswers) :
    Prop :=
  (∃ result, (Udp.sendDatagram w n u args uv).2 = .ends result ∧ Rejects result) ∨
    ∃ datagram ip, args.argv[0]? = some (.string datagram) ∧ args.argv[1]? = some (.string ip) ∧
      aeIpParserExecute ip ip.length = u.ipType ∧
      (u.ipType = .ipv4 ∨ u.ipType = .ipv6 → ∃ port procId,
        (Udp.sendDatagram w n u args uv).1.udpSends =
          w.udpSends ++ [⟨n, datagram, ip, port, procId⟩])

/-- Data is accepted that is cut. -/
def SendsCut (t : State.Tcp) (args : Args) (uv : UvAnswers) : Prop :=
  ∃ data, TakesData t args data ∧ Cut data ∧ uv.write = 0

/-- A datagram is accepted that is cut, or an address that does not fit in an `int`. -/
def SendsDatagramCut (u : State.Udp) (args : Args) (uv : UvAnswers) : Prop :=
  ∃ datagram ip, TakesDatagram u args datagram ip ∧ 0 ≤ toInt datagram.length ∧
    (switchIpType u.ipType uv.send uv.unassigned).2 = 0 ∧
    (Misfit ip ∨ Cut datagram ∧ (u.ipType = .ipv4 ∨ u.ipType = .ipv6))

/-! ### Types of texts -/

private theorem typedWhole_iff (s : List UInt8) : TypedWhole s ↔ ¬ Misfit s := by
  rw [Misfit, Taken, ← taken_iff, TypedWhole]
  by_cases long : 2147483647 < s.length
  · have none : aeIpParserExecute s s.length = .noIp := by
      by_contra other
      have short := length_le_longest other rfl
      have bound (t : IpType) : longest t ≤ 47 := by cases t <;> decide
      have := bound (aeIpParserExecute s s.length)
      omega
    rw [none]
    simp [long]
  · rw [ipTypeOf, toInt_of_int (Nat.le_of_not_lt long)]
    simp [long]

private theorem reference_of_taken (s : List UInt8) :
    seen s ∈ ipv6Reference ↔ ipTypeOf s = .ipv6Reference := by
  rw [ipTypeOf_eq_iff s _ (by decide)]
  simp [address]

private theorem rejects_symbol (t : IpType) : Rejects (.value (ipTypeSymbol t)) ↔ t = .noIp := by
  cases t <;> simp [Rejects, ipTypeSymbol]

private theorem ipType_whole_iff (s : List UInt8) :
    Rejects (asyncEngineIpUtilsIpType (.string s)) ∨ TypedWhole s ↔ ¬ Misfit s := by
  rw [typedWhole_iff, asyncEngineIpUtilsIpType, rejects_symbol]
  refine or_iff_right_of_imp fun none misfit => ?_
  exact (taken_iff s).mpr misfit.2 none

/-! ### `compare_ips` -/

private theorem compareIps_eq (aeInetPton : InetPton) {args : Args} {ip1 ip2 : PureIp}
    (h : entered args = some (ip1, ip2)) :
    asyncEngineIpUtilsCompareIps aeInetPton args =
      (comparePureIps aeInetPton ip1.str ip1.len ip1.ipType ip2.str ip2.len ip2.ipType).map
        fun equal => .value (if equal then .true else .false) := by
  unfold entered at h
  unfold asyncEngineIpUtilsCompareIps
  cases accepted : compareArgs args with
  | error result =>
    rw [accepted] at h
    cases h
  | ok strings =>
    obtain ⟨str1, str2, allow⟩ := strings
    rw [accepted] at h
    dsimp only at h ⊢
    split at h
    · cases h
    · rename_i types
      obtain ⟨type1, type2⟩ := not_or.mp types
      split at h
      · cases h
      · rename_i goes_on
        obtain ⟨rfl, rfl⟩ := Prod.mk.inj (Option.some.inj h)
        rw [if_neg type1, if_neg type2, if_neg goes_on]

private theorem compareArgs_rejects {args : Args} : Stops Rejects (compareArgs args) := by
  unfold compareArgs
  refine (stops_count trivial).bind fun _ => ?_
  split
  · exact stops_pure _
  · exact stops_raise trivial

private theorem compareIps_rejects (aeInetPton : InetPton) {args : Args}
    (h : entered args = none) :
    ∃ result, asyncEngineIpUtilsCompareIps aeInetPton args = some result ∧ Rejects result := by
  unfold entered at h
  unfold asyncEngineIpUtilsCompareIps
  cases accepted : compareArgs args with
  | error result => exact ⟨result, rfl, compareArgs_rejects result accepted⟩
  | ok strings =>
    obtain ⟨str1, str2, allow⟩ := strings
    rw [accepted] at h
    dsimp only at h ⊢
    by_cases type1 : ipTypeOf str1 = .noIp
    · exact ⟨.value .nil, by rw [if_pos type1], .inr rfl⟩
    by_cases type2 : ipTypeOf str2 = .noIp
    · exact ⟨.value .nil, by rw [if_neg type1, if_pos type2], .inr rfl⟩
    rw [if_neg (not_or.mpr ⟨type1, type2⟩)] at h
    split at h
    · rename_i stops
      exact ⟨.value .false, by rw [if_neg type1, if_neg type2, if_pos stops], .inl rfl⟩
    · cases h

private theorem references_iff (t1 t2 : IpType) (str1 str2 : List UInt8) (allow : Bool) :
    ((pureIp str1 t1).references + (pureIp str2 t2).references = 1 ∧ allow = false) ↔
      ¬ ((t1 = .ipv6Reference ↔ t2 = .ipv6Reference) ∨ allow = true) := by
  cases t1 <;> cases t2 <;> cases allow <;> simp [pureIp]

private theorem entered_iff {args : Args} {a b : List UInt8} {allow : Bool}
    (h : compareArgs args = .ok (a, b, allow)) :
    entered args ≠ none ↔ Taken a ∧ Taken b ∧
      ((seen a ∈ ipv6Reference ↔ seen b ∈ ipv6Reference) ∨ allow = true) := by
  rw [Taken, Taken, ← taken_iff, ← taken_iff, reference_of_taken, reference_of_taken, entered, h]
  dsimp only
  by_cases types : ipTypeOf a = .noIp ∨ ipTypeOf b = .noIp
  · rw [if_pos types]
    exact iff_of_false (by simp) fun both => types.elim both.1 both.2.1
  · rw [if_neg types]
    obtain ⟨type1, type2⟩ := not_or.mp types
    by_cases stops : (pureIp a (ipTypeOf a)).references + (pureIp b (ipTypeOf b)).references = 1 ∧
        allow = false
    · rw [if_pos stops]
      exact iff_of_false (by simp) fun both => (references_iff _ _ _ _ _).mp stops both.2.2
    · rw [if_neg stops]
      rw [references_iff, not_not] at stops
      exact iff_of_true (by simp) ⟨type1, type2, stops⟩

private theorem fits_of_int {s : List UInt8} (int : s.length ≤ 2147483647)
    (taken : ipTypeOf s ≠ .noIp) :
    0 ≤ (pureIp s (ipTypeOf s)).len ∧ (pureIp s (ipTypeOf s)).len < 46 := by
  obtain ⟨copy, text⟩ := copied_isSome (toInt_of_int int) taken
  unfold copied at text
  split at text
  · rename_i fits
    exact fits
  · cases text

private theorem entered_inv {args : Args} {ip1 ip2 : PureIp} (h : entered args = some (ip1, ip2)) :
    ∃ a b allow, compareArgs args = .ok (a, b, allow) ∧ ip1 = pureIp a (ipTypeOf a) ∧
      ip2 = pureIp b (ipTypeOf b) := by
  unfold entered at h
  split at h
  · cases h
  · rename_i a b allow accepted
    split at h
    · cases h
    · dsimp only at h
      split at h
      · cases h
      · obtain ⟨rfl, rfl⟩ := Prod.mk.inj (Option.some.inj h)
        exact ⟨a, b, allow, accepted, rfl, rfl⟩

private theorem comparesWhole_iff (aeInetPton : InetPton) (args : Args) :
    ComparesWhole aeInetPton args ↔ ¬ ComparesMisfit args := by
  constructor
  · rintro whole ⟨a, b, allow, accepted, taken1, taken2, long, references⟩
    have enters := (entered_iff accepted).mpr ⟨taken1, taken2, references⟩
    obtain ⟨typed1, typed2⟩ := whole.typed a b allow accepted enters
    rw [typedWhole_iff] at typed1 typed2
    exact long.elim (fun long => typed1 ⟨long, taken1⟩) fun long => typed2 ⟨long, taken2⟩
  · intro fit
    have ints {a b : List UInt8} {allow : Bool} (accepted : compareArgs args = .ok (a, b, allow))
        (enters : entered args ≠ none) : a.length ≤ 2147483647 ∧ b.length ≤ 2147483647 := by
      obtain ⟨taken1, taken2, references⟩ := (entered_iff accepted).mp enters
      by_contra long
      rw [not_and_or, Nat.not_le, Nat.not_le] at long
      exact fit ⟨a, b, allow, accepted, taken1, taken2, long, references⟩
    refine ⟨compareIps_rejects aeInetPton, fun ip1 ip2 => compareIps_eq aeInetPton, ?_, ?_⟩
    · intro ip1 ip2 enters
      have goes_on : entered args ≠ none := by simp [enters]
      obtain ⟨a, b, allow, accepted, first, second⟩ := entered_inv enters
      obtain ⟨int1, int2⟩ := ints accepted goes_on
      obtain ⟨taken1, taken2, -⟩ := (entered_iff accepted).mp goes_on
      rw [first, second]
      exact ⟨fits_of_int int1 ((taken_iff a).mpr taken1),
        fits_of_int int2 ((taken_iff b).mpr taken2)⟩
    · intro a b allow accepted enters
      obtain ⟨int1, int2⟩ := ints accepted enters
      rw [typedWhole_iff, typedWhole_iff]
      exact ⟨fun misfit => Nat.not_lt.mpr int1 misfit.1,
        fun misfit => Nat.not_lt.mpr int2 misfit.1⟩

/-! ### Data -/

private theorem copyBytes_eq (s : List UInt8) :
    copyBytes s = if toInt s.length < 0 then .error (.raised .noMemory)
      else .ok (s.take (toInt s.length).toNat) := rfl

theorem copyBytes_inv {s copy : List UInt8} (h : copyBytes s = .ok copy) :
    0 ≤ toInt s.length ∧ copy = s.take (toInt s.length).toNat := by
  rw [copyBytes_eq] at h
  split at h
  · cases h
  · rename_i nonneg
    exact ⟨not_lt.mp nonneg, (Except.ok.inj h).symm⟩

private theorem copyBytes_ok {s : List UInt8} (nonneg : 0 ≤ toInt s.length) :
    copyBytes s = .ok (s.take (toInt s.length).toNat) := by
  rw [copyBytes_eq, if_neg (not_lt.mpr nonneg)]

private theorem le_toInt_iff {n : Nat} (nonneg : 0 ≤ toInt n) :
    n ≤ (toInt n).toNat ↔ ¬ 4294967296 ≤ n := by
  simp only [toInt, Int.bmod] at nonneg ⊢
  split at nonneg <;> split <;> omega

private theorem take_whole_iff {s : List UInt8} (nonneg : 0 ≤ toInt s.length) :
    s.take (toInt s.length).toNat = s ↔ ¬ Cut s := by
  rw [List.take_eq_self_iff, le_toInt_iff nonneg, Cut]
  exact not_congr (and_iff_left nonneg).symm

theorem ok_bind {α β : Type} (a : α) (f : α → Check β) :
    ((Except.ok a : Check α) >>= f) = f a := rfl

/-! A check that does not pass rejects the arguments. -/

private theorem rejects_count (args : Args) (min max : Nat) :
    Stops Rejects (checkNumArgs args min max) := stops_count trivial

private theorem rejects_open (uvHandle : Bool) :
    Stops Rejects (checkUvHandleIsOpen uvHandle) := stops_open (.inl rfl)

private theorem rejects_block (k : Nat) (args : Args) : Stops Rejects (getBlockOrProc k args) :=
  stops_block trivial

private theorem rejects_string (v : Option Value) (message : String) :
    Stops Rejects (getString v message) := by
  unfold getString
  split
  · exact stops_pure _
  · exact stops_raise trivial

private theorem rejects_port (v : Option Value) (notFixnum invalid : String) :
    Stops Rejects (checkPort v notFixnum invalid) := by
  refine Stops.bind ?_ fun n => .bind ?_ fun port => ?_
  · unfold getFixnum
    split
    · exact stops_pure _
    · exact stops_raise trivial
  · exact stops_ite (stops_raise trivial) (stops_pure _)
  · exact stops_ite (stops_pure _) (stops_raise trivial)

private theorem rejects_copy (s : List UInt8) : Stops Rejects (copyBytes s) :=
  stops_ite (stops_raise trivial) (stops_pure _)

theorem string_of_get {v : Option Value} {message : String} {s : List UInt8}
    (h : getString v message = .ok s) : v = some (.string s) := by
  unfold getString at h
  split at h
  · rw [Except.ok.inj h]
  · cases h

private theorem checked_rejects {α : Type} (w : World) {check : Check α}
    (go : α → World × Outcome) {q : Return} (h : check = .error q) (stops : Stops Rejects check) :
    ∃ result, (checked w check go).2 = .ends result ∧ Rejects result := by
  rw [h]
  exact ⟨q, rfl, stops q h⟩

section Tcp

variable {t : State.Tcp} {args : Args}

private theorem tcpSendArgs_inv {p : Tcp.SendArgs} (h : Tcp.sendArgs t args = .ok p) :
    ∃ data, TakesData t args data ∧ copyBytes data = .ok p.data := by
  obtain ⟨_, count, h⟩ := of_bind h
  obtain ⟨_, opened, h⟩ := of_bind h
  obtain ⟨block, gets, h⟩ := of_bind h
  obtain ⟨data, first, h⟩ := of_bind h
  obtain ⟨copy, copies, h⟩ := of_bind h
  obtain rfl := Except.ok.inj h
  exact ⟨data, ⟨count, open_of_check opened, ⟨block, gets⟩, string_of_get first⟩, copies⟩

private theorem tcpSendArgs_ok {data copy : List UInt8} (takes : TakesData t args data)
    (copies : copyBytes data = .ok copy) : ∃ p, Tcp.sendArgs t args = .ok p := by
  obtain ⟨block, gets⟩ := takes.block
  have opens : checkUvHandleIsOpen t.uvHandle = .ok () := by
    rw [takes.opened]
    rfl
  have first : getString args.argv[0]? "data must be a String" = .ok data := by
    rw [takes.first]
    rfl
  refine ⟨⟨copy, block⟩, ?_⟩
  rw [Tcp.sendArgs, takes.count, ok_bind, opens, ok_bind, gets, ok_bind, first, ok_bind, copies,
    ok_bind]
  rfl

theorem rejects_tcpSendArgs : Stops Rejects (Tcp.sendArgs t args) :=
  (rejects_count args 1 2).bind fun _ => (rejects_open _).bind fun _ =>
    (rejects_block 2 args).bind fun _ => (rejects_string _ _).bind fun _ =>
      (rejects_copy _).bind fun _ => stops_pure _

theorem sendData_accepted (w : World) (n : Nat) {p : Tcp.SendArgs} (uv : UvAnswers)
    (h : Tcp.sendArgs t args = .ok p) :
    (uv.write ≠ 0 → ∃ error, (Tcp.sendData w n t args uv).2 = .raised error) ∧
      (uv.write = 0 → (Tcp.sendData w n t args uv).2 = .value .true ∧
        ∃ block, (Tcp.sendData w n t args uv).1.tcpWrites =
          w.tcpWrites ++ [⟨n, p.data, block⟩]) := by
  unfold Tcp.sendData checked
  rw [h]
  obtain ⟨data, block⟩ := p
  constructor
  · intro fails
    cases block with
    | none => exact ⟨aeGetLastUvError uv, by simp [fails]⟩
    | some proc => exact ⟨aeGetLastUvError uv, by simp [fails]⟩
  · intro writes
    cases block with
    | none => exact ⟨by simp [writes], none, by simp [writes]⟩
    | some proc => exact ⟨by simp [writes], _, by simp [writes, World.push]; rfl⟩

private theorem sendsWhole_iff (w : World) (n : Nat) (t : State.Tcp) (args : Args)
    (uv : UvAnswers) : SendsWhole w n t args uv ↔ ¬ SendsCut t args uv := by
  cases accepted : Tcp.sendArgs t args with
  | error q =>
    refine iff_of_true (.inl (checked_rejects w _ accepted rejects_tcpSendArgs)) ?_
    rintro ⟨data, takes, cut, -⟩
    obtain ⟨p, accepts⟩ := tcpSendArgs_ok takes (copyBytes_ok cut.2)
    rw [accepted] at accepts
    cases accepts
  | ok p =>
    obtain ⟨data, takes, copies⟩ := tcpSendArgs_inv accepted
    obtain ⟨fails, writes⟩ := sendData_accepted w n uv accepted
    obtain ⟨nonneg, copy⟩ := copyBytes_inv copies
    by_cases write : uv.write = 0
    · obtain ⟨returned, block, pending⟩ := writes write
      have whole : SendsWhole w n t args uv ↔ p.data = data := by
        constructor
        · rintro (⟨result, ends, rejects⟩ | ⟨data', block', first, handed⟩)
          · rw [returned] at ends
            obtain rfl := Outcome.ends.inj ends
            simp [Rejects] at rejects
          · obtain rfl : data = data' := by simpa [takes.first] using first
            rw [pending] at handed
            exact congrArg UvWrite.data (List.cons.inj (List.append_cancel_left handed)).1
        · rintro same
          exact .inr ⟨data, block, takes.first, by rw [pending, same]⟩
      rw [whole, copy, take_whole_iff nonneg]
      refine not_congr ⟨fun cut => ⟨data, takes, cut, write⟩, ?_⟩
      rintro ⟨data', takes', cut, -⟩
      obtain rfl : data = data' := by simpa [takes.first] using takes'.first
      exact cut
    · obtain ⟨error, raises⟩ := fails write
      refine iff_of_true (.inl ⟨_, raises, trivial⟩) ?_
      rintro ⟨_, -, -, succeeds⟩
      exact write succeeds

end Tcp

section Udp

variable {u : State.Udp} {args : Args}

theorem port_inv {v : Option Value} {notFixnum invalid : String} {port : Int}
    (h : checkPort v notFixnum invalid = .ok port) :
    v = some (.fixnum port) ∧ 0 ≤ port ∧ port ≤ 65535 := by
  obtain ⟨n, given, h⟩ := of_bind h
  obtain ⟨m, fits, h⟩ := of_bind h
  unfold getFixnum at given
  unfold fix2int at fits
  split at given
  · rename_i k
    obtain rfl : k = n := Except.ok.inj given
    split at fits
    · cases fits
    · obtain rfl : k = m := Except.ok.inj fits
      split at h
      · rename_i valid
        obtain rfl : k = port := Except.ok.inj h
        simpa [aeIpUtilsIsValidPort] using valid
      · cases h
  · cases given

theorem port_ok {port : Int} (notFixnum invalid : String) (least : 0 ≤ port)
    (most : port ≤ 65535) : checkPort (some (.fixnum port)) notFixnum invalid = .ok port := by
  have int : fix2int port = .ok port := if_neg (by omega)
  have valid : aeIpUtilsIsValidPort port = true := by simp [aeIpUtilsIsValidPort, least, most]
  have given : getFixnum (some (.fixnum port)) notFixnum = .ok port := rfl
  rw [checkPort, given, ok_bind, int, ok_bind, if_pos valid]
  rfl

theorem cString_inv {s text : List UInt8} (h : stringValueCStr s = .ok text) :
    text = s ∧ 0 ∉ s := by
  unfold stringValueCStr at h
  split at h
  · cases h
  · rename_i noNul
    exact ⟨(Except.ok.inj h).symm, noNul⟩

private theorem udpSendArgs_inv {p : Udp.SendArgs} (h : Udp.sendArgs u args = .ok p) :
    ∃ datagram, TakesDatagram u args datagram p.ip ∧ copyBytes datagram = .ok p.datagram := by
  obtain ⟨_, count, h⟩ := of_bind h
  obtain ⟨_, opened, h⟩ := of_bind h
  obtain ⟨block, gets, h⟩ := of_bind h
  obtain ⟨datagram, first, h⟩ := of_bind h
  obtain ⟨given, second, h⟩ := of_bind h
  obtain ⟨ip, plain, h⟩ := of_bind h
  obtain ⟨port, third, h⟩ := of_bind h
  obtain ⟨same, noNul⟩ := cString_inv plain
  rw [← same] at second noNul
  split at h
  · cases h
  · rename_i family
    obtain ⟨copy, copies, h⟩ := of_bind h
    obtain rfl := Except.ok.inj h
    exact ⟨datagram, ⟨count, open_of_check opened, ⟨block, gets⟩, string_of_get first,
      string_of_get second, noNul, ⟨port, port_inv third⟩, (not_not.mp family).symm⟩, copies⟩

private theorem udpSendArgs_ok {datagram copy ip : List UInt8}
    (takes : TakesDatagram u args datagram ip) (copies : copyBytes datagram = .ok copy) :
    ∃ p, Udp.sendArgs u args = .ok p := by
  obtain ⟨block, gets⟩ := takes.block
  obtain ⟨port, third, least, most⟩ := takes.port
  have opens : checkUvHandleIsOpen u.uvHandle = .ok () := by
    rw [takes.opened]
    rfl
  have first : getString args.argv[0]? "datagram must be a String" = .ok datagram := by
    rw [takes.first]
    rfl
  have second : getString args.argv[1]? "destination IP must be a String" = .ok ip := by
    rw [takes.second]
    rfl
  have plain : stringValueCStr ip = .ok ip := if_neg takes.noNul
  refine ⟨⟨copy, ip, port, block⟩, ?_⟩
  rw [Udp.sendArgs, takes.count, ok_bind, opens, ok_bind, gets, ok_bind, first, ok_bind, second,
    ok_bind, plain, ok_bind, third, port_ok _ _ least most, ok_bind,
    if_neg (not_not.mpr takes.family.symm), copies, ok_bind]
  rfl

theorem rejects_udpSendArgs : Stops Rejects (Udp.sendArgs u args) :=
  (rejects_count args 3 4).bind fun _ => (rejects_open _).bind fun _ =>
    (rejects_block 4 args).bind fun _ => (rejects_string _ _).bind fun _ =>
      (rejects_string _ _).bind fun _ =>
        (stops_ite (stops_raise trivial) (stops_pure _)).bind fun _ =>
          (rejects_port _ _ _).bind fun _ =>
            stops_ite (stops_raise trivial) ((rejects_copy _).bind fun _ => stops_pure _)

theorem sendDatagram_accepted (w : World) (n : Nat) {p : Udp.SendArgs} (uv : UvAnswers)
    (h : Udp.sendArgs u args = .ok p) :
    ((switchIpType u.ipType uv.send uv.unassigned).2 ≠ 0 →
        ∃ error, (Udp.sendDatagram w n u args uv).2 = .raised error) ∧
      ((switchIpType u.ipType uv.send uv.unassigned).2 = 0 →
        (Udp.sendDatagram w n u args uv).2 = .value .true ∧
        (u.ipType = .ipv4 ∨ u.ipType = .ipv6 →
          ∃ procId, (Udp.sendDatagram w n u args uv).1.udpSends =
            w.udpSends ++ [⟨n, p.datagram, p.ip, p.port, procId⟩])) := by
  unfold Udp.sendDatagram checked
  rw [h]
  dsimp only
  constructor
  · intro fails
    exact ⟨aeGetLastUvError uv, by rw [if_pos fails]⟩
  · intro sends
    rw [if_neg (not_not.mpr sends)]
    refine ⟨rfl, fun family => ?_⟩
    have called : (switchIpType u.ipType uv.send uv.unassigned).1 = [0] := by
      rcases family with type | type <;> rw [type] at sends ⊢ <;> exact congrArg (· :: []) sends
    simp only [called, if_true]
    cases p.proc with
    | none => exact ⟨none, rfl⟩
    | some proc => exact ⟨some (w.procLongId + 1), rfl⟩

private theorem sendsDatagramWhole_iff (w : World) (n : Nat) (u : State.Udp) (args : Args)
    (uv : UvAnswers) : SendsDatagramWhole w n u args uv ↔ ¬ SendsDatagramCut u args uv := by
  cases accepted : Udp.sendArgs u args with
  | error q =>
    refine iff_of_true (.inl (checked_rejects w _ accepted rejects_udpSendArgs)) ?_
    rintro ⟨datagram, ip, takes, nonneg, -⟩
    obtain ⟨p, accepts⟩ := udpSendArgs_ok takes (copyBytes_ok nonneg)
    rw [accepted] at accepts
    cases accepts
  | ok p =>
    obtain ⟨datagram, takes, copies⟩ := udpSendArgs_inv accepted
    obtain ⟨fails, sends⟩ := sendDatagram_accepted w n uv accepted
    obtain ⟨nonneg, copy⟩ := copyBytes_inv copies
    by_cases sent : (switchIpType u.ipType uv.send uv.unassigned).2 = 0
    · obtain ⟨returned, pending⟩ := sends sent
      have whole : SendsDatagramWhole w n u args uv ↔
          TypedWhole p.ip ∧ (u.ipType = .ipv4 ∨ u.ipType = .ipv6 → p.datagram = datagram) := by
        rw [TypedWhole, takes.family]
        constructor
        · rintro (⟨result, ends, rejects⟩ | ⟨datagram', ip', first, second, typed, handed⟩)
          · rw [returned] at ends
            obtain rfl := Outcome.ends.inj ends
            simp [Rejects] at rejects
          · obtain rfl : datagram = datagram' := by simpa [takes.first] using first
            obtain rfl : p.ip = ip' := by simpa [takes.second] using second
            refine ⟨typed.symm, fun family => ?_⟩
            obtain ⟨procId, pends⟩ := pending family
            obtain ⟨port, procId', hands⟩ := handed family
            rw [pends] at hands
            exact congrArg UdpSend.datagram (List.cons.inj (List.append_cancel_left hands)).1
        · rintro ⟨typed, same⟩
          refine .inr ⟨datagram, p.ip, takes.first, takes.second, typed.symm, fun family => ?_⟩
          obtain ⟨procId, pends⟩ := pending family
          exact ⟨p.port, procId, by rw [pends, same family]⟩
      rw [whole, typedWhole_iff, copy, take_whole_iff nonneg]
      constructor
      · rintro ⟨fit, uncut⟩ ⟨datagram', ip', takes', -, -, bad⟩
        obtain rfl : datagram = datagram' := by simpa [takes.first] using takes'.first
        obtain rfl : p.ip = ip' := by simpa [takes.second] using takes'.second
        exact bad.elim fit fun cut => uncut cut.2 cut.1
      · intro good
        exact ⟨fun misfit => good ⟨datagram, p.ip, takes, nonneg, sent, .inl misfit⟩,
          fun family cut => good ⟨datagram, p.ip, takes, nonneg, sent, .inr ⟨cut, family⟩⟩⟩
    · obtain ⟨error, raises⟩ := fails sent
      refine iff_of_true (.inl ⟨_, raises, trivial⟩) ?_
      rintro ⟨_, _, -, -, succeeds, -⟩
      exact sent succeeds

end Udp

/-- Each method rejects its Strings or works on all of their bytes exactly when no String that is
too long for an `int` is taken for a shorter one. -/
theorem whole_or_rejected_iff (aeInetPton : InetPton) (s : List UInt8) (args : Args) (w : World)
    (n : Nat) (t : State.Tcp) (u : State.Udp) (uv : UvAnswers) :
    (Rejects (asyncEngineIpUtilsIpType (.string s)) ∨ TypedWhole s ↔ ¬ Misfit s) ∧
      (ComparesWhole aeInetPton args ↔ ¬ ComparesMisfit args) ∧
      (SendsWhole w n t args uv ↔ ¬ SendsCut t args uv) ∧
      (SendsDatagramWhole w n u args uv ↔ ¬ SendsDatagramCut u args uv) :=
  ⟨ipType_whole_iff s, comparesWhole_iff aeInetPton args, sendsWhole_iff w n t args uv,
    sendsDatagramWhole_iff w n u args uv⟩

/-- 2^32 bytes behind `::1` are not seen. -/
theorem trailing_bytes_unseen : ¬ ∀ s : List UInt8, s.length < 2 ^ 63 →
    Rejects (asyncEngineIpUtilsIpType (.string s)) ∨ TypedWhole s := by
  intro whole
  have misfit (rest : List UInt8) (long : rest.length = 4294967296) :
      Misfit ([58, 58, 49] ++ rest) := by
    have length : ([58, 58, 49] ++ rest).length = 4294967299 := by
      rw [List.length_append, long]
      rfl
    have three : (toInt (4294967299 : Nat)).toNat = 3 := by decide +kernel
    have three_seen : seen ([58, 58, 49] ++ rest) = [58, 58, 49] := by
      rw [seen, length, three]
      rfl
    refine ⟨by omega, .inl ?_⟩
    rw [three_seen]
    exact .inr (.inl ((recognises_iff .ipv6 [58, 58, 49]).mp (by decide +kernel)))
  have long : (List.replicate 4294967296 (0 : UInt8)).length = 4294967296 :=
    List.length_replicate
  refine (ipType_whole_iff _).mp (whole _ ?_) (misfit _ long)
  rw [List.length_append, long]
  decide

end AsyncEngine.Engine.Lengths
