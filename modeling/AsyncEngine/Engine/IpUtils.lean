/- `ae_ip_utils.c`: the comparison of two IP texts, and when its result is the comparison of the
   addresses they denote. -/

import Mathlib.Data.List.TakeWhile
import AsyncEngine.Engine.Ruby
import AsyncEngine.IpParser.Address
import AsyncEngine.IpParser.Classification

set_option autoImplicit false
set_option relaxedAutoImplicit false

namespace AsyncEngine.Engine.IpUtils

open AsyncEngine.Lib.Fields
open AsyncEngine.Engine.Ruby
open AsyncEngine.IpParser.Address
open AsyncEngine.IpParser.Classification
open AsyncEngine.IpParser.Grammar
open AsyncEngine.IpParser.Machine
open AsyncEngine.IpParser.Recognition

/-- The `switch` of `AsyncEngineIpUtils_ip_type`. -/
def ipTypeSymbol : IpType → Value
  | .ipv4 => .symbol "ipv4"
  | .ipv6 => .symbol "ipv6"
  | .ipv6Reference => .symbol "ipv6_reference"
  | .noIp => .false

def asyncEngineIpUtilsIpType : Value → Return
  | .string s => .value (ipTypeSymbol (ipTypeOf s))
  | _ => .raised (.type "argument must be a String")

/-- `inet_pton` for `AF_INET` and for `AF_INET6`: the address it writes, or none for 0. -/
structure InetPton where
  inet : List UInt8 → Option InAddr
  inet6 : List UInt8 → Option In6Addr

/-- The copy of an IP in a `char[46]`, up to its first NUL; none for a write past the array. -/
def copied (ip : List UInt8) (len : Int) : Option (List UInt8) :=
  if 0 ≤ len ∧ len < 46 then some ((ip.take len.toNat).takeWhile (· ≠ 0)) else none

/-- `compare_pure_ips`; none when one of its arrays is overrun. -/
def comparePureIps (aeInetPton : InetPton) (ip1 : List UInt8) (len1 : Int) (ip1Type : IpType)
    (ip2 : List UInt8) (len2 : Int) (ip2Type : IpType) : Option Bool :=
  if ip1Type ≠ ip2Type then some false
  else
    (copied ip1 len1).bind fun copy1 => (copied ip2 len2).map fun copy2 =>
      match ip1Type with
      | .ipv4 =>
        match aeInetPton.inet copy1, aeInetPton.inet copy2 with
        | some inAddr1, some inAddr2 => inAddr1 == inAddr2
        | _, _ => false
      | .ipv6 =>
        match aeInetPton.inet6 copy1, aeInetPton.inet6 copy2 with
        | some in6Addr1, some in6Addr2 => in6Addr1 == in6Addr2
        | _, _ => false
      | _ => false

/-- `str`, `len` and `ip_type` of one argument and what it adds to `ipv6_references_found`. -/
structure PureIp where
  str : List UInt8
  len : Int
  ipType : IpType
  references : Nat

/-- The `switch` on the type of an argument that is some IP. -/
def pureIp (str : List UInt8) : IpType → PureIp
  | .ipv6Reference => ⟨str.drop 1, str.length - 2, .ipv6, 1⟩
  | ipType => ⟨str, str.length, ipType, 0⟩

/-- The two strings and `allow_ipv6_reference`. -/
def compareArgs (args : Args) : Check (List UInt8 × List UInt8 × Bool) := do
  checkNumArgs args 2 3
  match args.argv[0]?, args.argv[1]? with
  | some (Value.string str1), some (Value.string str2) =>
    pure (str1, str2, args.argv[2]? == some .true)
  | _, _ => rbRaise (.type "first and second arguments must be String")

def asyncEngineIpUtilsCompareIps (aeInetPton : InetPton) (args : Args) : Option Return :=
  match compareArgs args with
  | .error result => some result
  | .ok (str1, str2, allowIpv6Reference) =>
    let ip1Type := ipTypeOf str1
    if ip1Type = .noIp then some (.value .nil)
    else
      let ip2Type := ipTypeOf str2
      if ip2Type = .noIp then some (.value .nil)
      else
        let ip1 := pureIp str1 ip1Type
        let ip2 := pureIp str2 ip2Type
        if ip1.references + ip2.references = 1 ∧ allowIpv6Reference = false then
          some (.value .false)
        else
          (comparePureIps aeInetPton ip1.str ip1.len ip1.ipType ip2.str ip2.len ip2.ipType).map
            fun equal => .value (if equal then .true else .false)

/-- `inet_pton` converts the text representations of addresses and fails on other texts. -/
structure Converts (aeInetPton : InetPton) : Prop where
  inet : ∀ s v, aeInetPton.inet s = some v ↔ Dotted s v
  inet6 : ∀ s v, aeInetPton.inet6 s = some v ↔ Denotes s v

/-- Both texts denote one address, and are both references or both none unless that is allowed. -/
def Same (a b : List UInt8) (allow : Bool) : Prop :=
  (∃ v, Names a v ∧ Names b v) ∧ ((a ∈ ipv6Reference ↔ b ∈ ipv6Reference) ∨ allow = true)

/-- The result for two texts is the comparison of the addresses they denote. -/
def Compared (a b : List UInt8) (allow : Bool) (result : Option Return) : Prop :=
  (result = some (.value .nil) ↔ ¬ (Derived a ∧ Derived b)) ∧
  (result = some (.value .true) ↔ Same a b allow) ∧
  (result = some (.value .false) ↔ (Derived a ∧ Derived b) ∧ ¬ Same a b allow)

/-- The part of a text that is left when its length is stored in an `int`. -/
def seen (s : List UInt8) : List UInt8 := s.take (toInt s.length).toNat

/-- The text is no address, but what the parser sees of it is one or an unfinished one. -/
def Misread (s : List UInt8) : Prop := ¬ Derived s ∧ (Derived (seen s) ∨ Unfinished (seen s))

/-- The text is an address or passes for one. -/
def Passes (s : List UInt8) : Prop := Derived s ∨ Misread s

def callArgs (a b : List UInt8) (allow : Bool) : Args :=
  ⟨[.string a, .string b, if allow then .true else .false], none⟩

/-! ### The type of an argument -/

private theorem toInt_le (s : List UInt8) : toInt s.length ≤ s.length := by
  simp only [toInt, Int.bmod]
  split <;> omega

private theorem seen_of_short {s : List UInt8} (h : s.length ≤ 47) : seen s = s := by
  have exact : toInt s.length = s.length := by
    simp only [toInt, Int.bmod]
    split <;> omega
  rw [seen, exact, Int.toNat_natCast, List.take_length]

theorem ipTypeOf_eq_iff (s : List UInt8) (t : IpType) (ht : t ≠ .noIp) :
    ipTypeOf s = t ↔ seen s ∈ address t ∨ (t = .ipv6 ∧ Unfinished (seen s)) := by
  rw [ipTypeOf, execute_take s _ (toInt_le s)]
  exact execute_eq_iff (seen s) t ht

private theorem type_of_member {s : List UInt8} {t : IpType} (ht : t ≠ .noIp)
    (h : s ∈ address t) (short : s.length ≤ 47) : ipTypeOf s = t := by
  rw [ipTypeOf_eq_iff s t ht, seen_of_short short]
  exact .inl h

private theorem reference_iff {s : List UInt8} (h : Derived s) :
    s ∈ ipv6Reference ↔ ipTypeOf s = .ipv6Reference := by
  rw [ipTypeOf_eq_iff s _ (by decide), seen_of_short h.short]
  simp [address]

/-- An argument passes for an IP when what the parser sees of it is one or an unfinished one. -/
theorem taken_iff (s : List UInt8) :
    ipTypeOf s ≠ .noIp ↔ Derived (seen s) ∨ Unfinished (seen s) := by
  have ipv4 := ipTypeOf_eq_iff s .ipv4 (by decide)
  have ipv6 := ipTypeOf_eq_iff s .ipv6 (by decide)
  have reference := ipTypeOf_eq_iff s .ipv6Reference (by decide)
  simp only [address, reduceCtorEq, false_and, or_false, true_and] at ipv4 ipv6 reference
  have kinds : Derived (seen s) ∨ Unfinished (seen s) ↔
      ipTypeOf s = .ipv4 ∨ ipTypeOf s = .ipv6 ∨ ipTypeOf s = .ipv6Reference := by
    rw [ipv4, ipv6, reference, Derived]
    constructor
    · rintro ((first | second | third) | unfinished)
      · exact .inl first
      · exact .inr (.inl (.inl second))
      · exact .inr (.inr third)
      · exact .inr (.inl (.inr unfinished))
    · rintro (first | (second | unfinished) | third)
      · exact .inl (.inl first)
      · exact .inl (.inr (.inl second))
      · exact .inr unfinished
      · exact .inl (.inr (.inr third))
  rw [kinds]
  cases ipTypeOf s <;> simp

private theorem taken_of_derived {s : List UInt8} (h : Derived s) : ipTypeOf s ≠ .noIp := by
  rw [taken_iff, seen_of_short h.short]
  exact .inl h

private theorem passes_iff (s : List UInt8) : Passes s ↔ ipTypeOf s ≠ .noIp := by
  constructor
  · rintro (derived | misread)
    · exact taken_of_derived derived
    · exact (taken_iff s).mpr misread.2
  · intro taken
    by_cases derived : Derived s
    · exact .inl derived
    · exact .inr ⟨derived, (taken_iff s).mp taken⟩

/-! ### The comparison of pure IPs -/

private theorem copied_whole {t r : List UInt8} (free : ∀ b ∈ t, b ≠ 0) (short : t.length ≤ 45) :
    copied (t ++ r) t.length = some t := by
  rw [copied, if_pos (by omega), Int.toNat_natCast, List.take_left]
  congr 1
  rw [List.takeWhile_eq_self_iff]
  simpa using free

/-- What `inet_pton` is called with for an argument, and what it makes of it. -/
private def Converted (aeInetPton : InetPton) (ip : PureIp) (v : IpAddress) : Prop :=
  ∃ copy, copied ip.str ip.len = some copy ∧
    match v with
    | .inet inAddr => ip.ipType = .ipv4 ∧ aeInetPton.inet copy = some inAddr
    | .inet6 in6Addr => ip.ipType = .ipv6 ∧ aeInetPton.inet6 copy = some in6Addr

private theorem converted_of_names {aeInetPton : InetPton} (h : Converts aeInetPton)
    {s : List UInt8} {v : IpAddress} (hv : Names s v) :
    Converted aeInetPton (pureIp s (ipTypeOf s)) v := by
  have short := ((derived_iff s).mpr ⟨v, hv⟩).short
  cases hv with
  | @ipv4 s inAddr dotted =>
    have member := (mem_ipv4Address_iff s).mpr ⟨_, dotted⟩
    obtain ⟨free, -, size⟩ := within_ipv4Address s member
    rw [type_of_member (t := .ipv4) (by decide) member short]
    refine ⟨s, ?_, rfl, (h.inet s inAddr).mpr dotted⟩
    show copied s s.length = some s
    simpa using copied_whole (r := []) free (by omega)
  | @ipv6 s in6Addr denotes =>
    have member := (mem_ipv6Address_iff s).mpr ⟨_, denotes⟩
    obtain ⟨free, -, size⟩ := within_ipv6Address s member
    rw [type_of_member (t := .ipv6) (by decide) member short]
    refine ⟨s, ?_, rfl, (h.inet6 s in6Addr).mpr denotes⟩
    show copied s s.length = some s
    simpa using copied_whole (r := []) free size
  | @reference s in6Addr denotes =>
    have inner := (mem_ipv6Address_iff s).mpr ⟨_, denotes⟩
    have member := (mem_ipv6Reference (91 :: s ++ [93])).mpr ⟨s, inner, rfl⟩
    obtain ⟨free, -, size⟩ := within_ipv6Address s inner
    rw [type_of_member (t := .ipv6Reference) (by decide) member short]
    refine ⟨s, ?_, rfl, (h.inet6 s in6Addr).mpr denotes⟩
    have length : ((91 :: s ++ [93]).length : Int) - 2 = s.length := by
      simp only [List.length_append, List.length_cons, List.length_nil]
      omega
    rw [pureIp, length]
    exact copied_whole free size

private theorem converted_unique {aeInetPton : InetPton} {ip : PureIp} {v w : IpAddress}
    (hv : Converted aeInetPton ip v) (hw : Converted aeInetPton ip w) : v = w := by
  obtain ⟨copy, text, first⟩ := hv
  obtain ⟨copy', text', second⟩ := hw
  obtain rfl : copy = copy' := Option.some.inj (text.symm.trans text')
  cases v <;> cases w <;> simp_all

private theorem comparePureIps_eq {aeInetPton : InetPton} {ip1 ip2 : PureIp} {v w : IpAddress}
    (hv : Converted aeInetPton ip1 v) (hw : Converted aeInetPton ip2 w) :
    comparePureIps aeInetPton ip1.str ip1.len ip1.ipType ip2.str ip2.len ip2.ipType =
      some (v == w) := by
  obtain ⟨copy1, text1, first⟩ := hv
  obtain ⟨copy2, text2, second⟩ := hw
  cases v with
  | inet a =>
    cases w with
    | inet b => simp [comparePureIps, text1, text2, first.1, second.1, first.2, second.2,
        Subtype.ext_iff]
    | inet6 b => simp [comparePureIps, first.1, second.1]
  | inet6 a =>
    cases w with
    | inet b => simp [comparePureIps, first.1, second.1]
    | inet6 b => simp [comparePureIps, text1, text2, first.1, second.1, first.2, second.2,
        Subtype.ext_iff]

/-! ### The result -/

private theorem compareArgs_call (a b : List UInt8) (allow : Bool) :
    compareArgs (callArgs a b allow) = .ok (a, b, allow) := by
  cases allow <;> rfl

private theorem compareIps_nil_iff (aeInetPton : InetPton) (a b : List UInt8) (allow : Bool) :
    asyncEngineIpUtilsCompareIps aeInetPton (callArgs a b allow) = some (.value .nil) ↔
      ¬ (Passes a ∧ Passes b) := by
  rw [asyncEngineIpUtilsCompareIps, compareArgs_call, passes_iff, passes_iff]
  dsimp only
  by_cases ha : ipTypeOf a = .noIp
  · simp [ha]
  by_cases hb : ipTypeOf b = .noIp
  · simp [ha, hb]
  simp only [ha, hb, if_false, ne_eq, not_false_eq_true, and_self, not_true_eq_false, iff_false]
  split_ifs
  · simp
  · intro equal
    obtain ⟨same, -, value⟩ := Option.map_eq_some_iff.mp equal
    cases same <;> simp at value

private theorem references_eq (s : List UInt8) :
    (pureIp s (ipTypeOf s)).references = if ipTypeOf s = .ipv6Reference then 1 else 0 := by
  cases ipTypeOf s <;> rfl

private theorem compareIps_names {aeInetPton : InetPton} (h : Converts aeInetPton)
    {a b : List UInt8} {v w : IpAddress} (ha : Names a v) (hb : Names b w) (allow : Bool) :
    (asyncEngineIpUtilsCompareIps aeInetPton (callArgs a b allow) = some (.value .true) ↔
        v = w ∧ ((a ∈ ipv6Reference ↔ b ∈ ipv6Reference) ∨ allow = true)) ∧
      (asyncEngineIpUtilsCompareIps aeInetPton (callArgs a b allow) = some (.value .false) ↔
        ¬ (v = w ∧ ((a ∈ ipv6Reference ↔ b ∈ ipv6Reference) ∨ allow = true))) := by
  have derived_a := (derived_iff a).mpr ⟨v, ha⟩
  have derived_b := (derived_iff b).mpr ⟨w, hb⟩
  have equal := comparePureIps_eq (converted_of_names h ha) (converted_of_names h hb)
  rw [asyncEngineIpUtilsCompareIps, compareArgs_call, reference_iff derived_a,
    reference_iff derived_b]
  simp only [taken_of_derived derived_a, taken_of_derived derived_b, if_false, references_eq,
    equal, Option.map_some]
  by_cases ra : ipTypeOf a = .ipv6Reference <;> by_cases rb : ipTypeOf b = .ipv6Reference <;>
    cases allow <;> by_cases same : v = w <;> simp [ra, rb, same]

theorem names_unique {aeInetPton : InetPton} (h : Converts aeInetPton) {s : List UInt8}
    {v w : IpAddress} (hv : Names s v) (hw : Names s w) : v = w :=
  converted_unique (converted_of_names h hv) (converted_of_names h hw)

theorem same_iff {aeInetPton : InetPton} (h : Converts aeInetPton) {a b : List UInt8}
    {v w : IpAddress} (ha : Names a v) (hb : Names b w) (allow : Bool) :
    Same a b allow ↔ v = w ∧ ((a ∈ ipv6Reference ↔ b ∈ ipv6Reference) ∨ allow = true) := by
  refine and_congr_left' ⟨?_, ?_⟩
  · rintro ⟨x, hx, hx'⟩
    exact (names_unique h ha hx).trans (names_unique h hb hx').symm
  · rintro rfl
    exact ⟨v, ha, hb⟩

private theorem derived_of_same {a b : List UInt8} {allow : Bool} (h : Same a b allow) :
    Derived a ∧ Derived b := by
  obtain ⟨⟨v, ha, hb⟩, -⟩ := h
  exact ⟨(derived_iff a).mpr ⟨v, ha⟩, (derived_iff b).mpr ⟨v, hb⟩⟩

/-- The result is the comparison of the addresses exactly when no text that merely passes for an
IP is compared with one that passes. -/
theorem compared_iff (aeInetPton : InetPton) (h : Converts aeInetPton) (a b : List UInt8)
    (allow : Bool) :
    Compared a b allow (asyncEngineIpUtilsCompareIps aeInetPton (callArgs a b allow)) ↔
      (Misread a → ¬ Passes b) ∧ (Misread b → ¬ Passes a) := by
  have nil := compareIps_nil_iff aeInetPton a b allow
  constructor
  · rintro ⟨exactly, -, -⟩
    rw [nil, not_iff_not] at exactly
    exact ⟨fun misread passes => misread.1 (exactly.mp ⟨.inr misread, passes⟩).1,
      fun misread passes => misread.1 (exactly.mp ⟨passes, .inr misread⟩).2⟩
  · rintro ⟨first, second⟩
    have exactly : Passes a ∧ Passes b ↔ Derived a ∧ Derived b := by
      constructor
      · rintro ⟨ha, hb⟩
        exact ⟨ha.resolve_right fun misread => first misread hb,
          hb.resolve_right fun misread => second misread ha⟩
      · rintro ⟨ha, hb⟩
        exact ⟨.inl ha, .inl hb⟩
    refine ⟨nil.trans (not_congr exactly), ?_⟩
    by_cases derived : Derived a ∧ Derived b
    · obtain ⟨v, ha⟩ := (derived_iff a).mp derived.1
      obtain ⟨w, hb⟩ := (derived_iff b).mp derived.2
      have result := compareIps_names h ha hb allow
      rw [← same_iff h ha hb allow] at result
      exact ⟨result.1, result.2.trans (by simp [derived])⟩
    · have absent := nil.mpr (mt exactly.mp derived)
      rw [absent]
      refine ⟨iff_of_false (by simp) fun same => derived (derived_of_same same),
        iff_of_false (by simp) fun other => derived other.1⟩

/-! ### Two comparisons -/

def recognises (t : IpType) (s : List UInt8) : Bool :=
  (machine.run (1, none) s).any fun q => q.2 == some t

theorem recognises_iff (t : IpType) (s : List UInt8) :
    recognises t s = true ↔ s ∈ address t := by
  rw [(machine_run s).1 t, recognises, Option.any_eq_true]
  simp only [beq_iff_eq]

private theorem quad_length {s : List UInt8} (h : recognises .ipv4 s = true) :
    (quadBytes s).length = 4 := by
  obtain ⟨v, dotted⟩ := (mem_ipv4Address_iff s).mp ((recognises_iff .ipv4 s).mp h)
  rw [quadBytes_eq dotted, v.2]

private theorem read_length {s : List UInt8} (h : recognises .ipv6 s = true) :
    (read s).length = 16 := by
  obtain ⟨v, denotes⟩ := (mem_ipv6Address_iff s).mp ((recognises_iff .ipv6 s).mp h)
  rw [read_eq denotes, v.2]

/-- A function that converts: the bytes read from the texts of the rules. -/
def textToBinary : InetPton where
  inet s := if h : recognises .ipv4 s = true then some ⟨quadBytes s, quad_length h⟩ else none
  inet6 s := if h : recognises .ipv6 s = true then some ⟨read s, read_length h⟩ else none

private theorem checked_iff {n : Nat}
    {R : List UInt8 → {bytes : List UInt8 // bytes.length = n} → Prop}
    {check : List UInt8 → Bool} {value : List UInt8 → List UInt8}
    (length : ∀ {s}, check s = true → (value s).length = n)
    (member : ∀ s, check s = true ↔ ∃ v, R s v) (unique : ∀ {s v}, R s v → value s = v.1)
    (s : List UInt8) (v : {bytes : List UInt8 // bytes.length = n}) :
    (if h : check s = true then some ⟨value s, length h⟩ else none) = some v ↔ R s v := by
  rw [Option.dite_none_right_eq_some]
  constructor
  · rintro ⟨checked, equal⟩
    obtain ⟨w, related⟩ := (member s).mp checked
    have same : v = w := Subtype.ext
      ((congrArg Subtype.val (Option.some.inj equal)).symm.trans (unique related))
    rw [same]
    exact related
  · intro related
    exact ⟨(member s).mpr ⟨v, related⟩, congrArg some (Subtype.ext (unique related))⟩

theorem textToBinary_converts : Converts textToBinary where
  inet := checked_iff quad_length
    (fun s => (recognises_iff .ipv4 s).trans (mem_ipv4Address_iff s)) quadBytes_eq
  inet6 := checked_iff read_length
    (fun s => (recognises_iff .ipv6 s).trans (mem_ipv6Address_iff s)) read_eq

/-- `::1` against `[0:0:0:0:0:0:0:1]` with references allowed. -/
theorem compared_iff_reference :
    let a : List UInt8 := [58, 58, 49]
    let b : List UInt8 := [91, 48, 58, 48, 58, 48, 58, 48, 58, 48, 58, 48, 58, 48, 58, 49, 93]
    asyncEngineIpUtilsCompareIps textToBinary (callArgs a b true) = some (.value .true) ∧
      (Compared a b true (asyncEngineIpUtilsCompareIps textToBinary (callArgs a b true)) ↔
        (Misread a → ¬ Passes b) ∧ (Misread b → ¬ Passes a)) :=
  ⟨by decide +kernel, compared_iff textToBinary textToBinary_converts _ _ true⟩

/-- `::1:` is no address, yet its comparison with `::1` is `false`, not `nil`. -/
theorem trailing_colon_not_nil :
    ¬ ∀ aeInetPton, Converts aeInetPton → ∀ (a b : List UInt8) (allow : Bool),
      Compared a b allow (asyncEngineIpUtilsCompareIps aeInetPton (callArgs a b allow)) := by
  intro h
  have compared := h textToBinary textToBinary_converts [58, 58, 49, 58] [58, 58, 49] false
  have result : asyncEngineIpUtilsCompareIps textToBinary
      (callArgs [58, 58, 49, 58] [58, 58, 49] false) = some (.value .false) := by
    decide +kernel
  obtain ⟨derived, -⟩ := (compared.2.2.mp result).1
  have out (t : IpType) : [58, 58, 49, 58] ∉ address t := by
    rw [← recognises_iff]
    cases t <;> decide +kernel
  exact derived.elim (out .ipv4) fun other => other.elim (out .ipv6) (out .ipv6Reference)

/-! ### Lengths -/

/-- What follows a finished IPv6 address in an unfinished text is a part of a longer one. -/
private theorem unfinished_short {s : List UInt8} (h : Unfinished s) : s.length ≤ 45 := by
  obtain ⟨-, ⟨u, begins, inner⟩, t, v, whole⟩ := h
  have part : s.length ≤ (s ++ v).length := by
    rw [List.length_append]
    exact Nat.le_add_right _ _
  cases t with
  | noIp => exact whole.elim
  | ipv4 => exact part.trans ((within_ipv4Address _ whole).2.2.trans (by omega))
  | ipv6 => exact part.trans (within_ipv6Address _ whole).2.2
  | ipv6Reference =>
    obtain ⟨w, -, brackets⟩ := (mem_ipv6Reference _).mp whole
    obtain ⟨rest, rfl⟩ := begins
    cases u with
    | nil => exact absurd inner (empty_notMem_address .ipv6)
    | cons b u =>
      obtain rfl : b = 91 := (List.cons.inj brackets).1
      exact absurd (.head _) (bracket_notMem_ipv6Address inner)

/-- The longest text of each type. -/
def longest : IpType → Nat
  | .noIp => 0
  | .ipv4 => 15
  | .ipv6 => 45
  | .ipv6Reference => 47

theorem length_le_longest {s : List UInt8} {t : IpType} (ht : t ≠ .noIp)
    (h : aeIpParserExecute s s.length = t) : s.length ≤ longest t := by
  rcases (execute_eq_iff s t ht).mp h with word | ⟨rfl, unfinished⟩
  · cases t with
    | noIp => exact absurd rfl ht
    | ipv4 => exact (within_ipv4Address s word).2.2
    | ipv6 => exact (within_ipv6Address s word).2.2
    | ipv6Reference =>
      obtain ⟨inner, inside, rfl⟩ := (mem_ipv6Reference s).mp word
      have short := (within_ipv6Address inner inside).2.2
      simp only [longest, List.length_append, List.length_cons, List.length_nil]
      omega
  · exact unfinished_short unfinished

theorem copied_isSome {s : List UInt8} (int : toInt s.length = s.length)
    (passes : ipTypeOf s ≠ .noIp) :
    ∃ copy, copied (pureIp s (ipTypeOf s)).str (pureIp s (ipTypeOf s)).len = some copy := by
  have type : aeIpParserExecute s s.length = ipTypeOf s := by rw [ipTypeOf, int]
  have short := length_le_longest passes type
  have fits : 0 ≤ (pureIp s (ipTypeOf s)).len ∧ (pureIp s (ipTypeOf s)).len < 46 := by
    cases t : ipTypeOf s with
    | noIp => exact absurd t passes
    | ipv4 =>
      rw [t, longest] at short
      simp only [pureIp]
      omega
    | ipv6 =>
      rw [t, longest] at short
      simp only [pureIp]
      omega
    | ipv6Reference =>
      rw [t, longest] at short
      rw [t] at type
      have word := (execute_eq_iff s _ (by decide)).mp type
      obtain ⟨inner, -, brackets⟩ := (mem_ipv6Reference s).mp (by simpa [address] using word)
      have least : 2 ≤ s.length := by simp [brackets]
      simp only [pureIp]
      omega
  exact ⟨_, if_pos fits⟩

theorem toInt_of_int {s : List UInt8} (int : s.length ≤ 2147483647) :
    toInt s.length = s.length := by
  simp only [toInt, Int.bmod]
  split <;> omega

private theorem compareArgs_strings {args : Args} {a b : List UInt8} {allow : Bool}
    (h : compareArgs args = .ok (a, b, allow)) :
    .string a ∈ args.argv ∧ .string b ∈ args.argv := by
  unfold compareArgs at h
  cases counted : checkNumArgs args 2 3 with
  | error result =>
    rw [counted] at h
    cases h
  | ok passed =>
    rw [counted] at h
    replace h : (match args.argv[0]?, args.argv[1]? with
      | some (Value.string str1), some (Value.string str2) =>
        pure (str1, str2, args.argv[2]? == some .true)
      | _, _ => rbRaise (.type "first and second arguments must be String")) =
        (Except.ok (a, b, allow) : Check (List UInt8 × List UInt8 × Bool)) := h
    split at h
    · rename_i str1 str2 first second
      obtain ⟨rfl, rfl, -⟩ := by simpa using Except.ok.inj h
      exact ⟨List.mem_of_getElem? first, List.mem_of_getElem? second⟩
    · cases h

/-- The parser takes no longer texts for addresses, also where it stops in the middle of one, and
so `compare_pure_ips` writes within its arrays when the lengths of the texts fit in an `int`. -/
theorem lengths_within (aeInetPton : InetPton) :
    (∀ s : List UInt8,
      (aeIpParserExecute s s.length = .ipv4 → s.length ≤ 15) ∧
      (aeIpParserExecute s s.length = .ipv6 → s.length ≤ 45) ∧
      (aeIpParserExecute s s.length = .ipv6Reference → s.length ≤ 47)) ∧
    ∀ args : Args, (∀ s, .string s ∈ args.argv → s.length ≤ 2147483647) →
      (asyncEngineIpUtilsCompareIps aeInetPton args).isSome = true := by
  refine ⟨fun s => ⟨length_le_longest (by decide), length_le_longest (by decide),
    length_le_longest (by decide)⟩, ?_⟩
  intro args ints
  unfold asyncEngineIpUtilsCompareIps
  split
  · rfl
  · rename_i str1 str2 allow accepted
    obtain ⟨first, second⟩ := compareArgs_strings accepted
    dsimp only
    split
    · rfl
    · rename_i passes1
      obtain ⟨copy1, text1⟩ := copied_isSome (toInt_of_int (ints str1 first)) passes1
      split
      · rfl
      · rename_i passes2
        obtain ⟨copy2, text2⟩ := copied_isSome (toInt_of_int (ints str2 second)) passes2
        split
        · rfl
        · rw [Option.isSome_map, comparePureIps, text1, text2]
          split <;> rfl

/-- The longest text, which leaves no byte of the array for another character. -/
theorem lengths_within_longest :
    let s : List UInt8 := join 58 (List.replicate 6 [102, 102, 102, 102] ++
      [join 46 (List.replicate 4 [50, 53, 53])])
    aeIpParserExecute s s.length = .ipv6 ∧ s.length = 45 ∧
      (aeIpParserExecute s s.length = .ipv6 → s.length ≤ 45) ∧
      (asyncEngineIpUtilsCompareIps textToBinary (callArgs s s true)).isSome = true := by
  intro s
  obtain ⟨lengths, written⟩ := lengths_within textToBinary
  refine ⟨by decide +kernel, by decide +kernel, (lengths s).2.1, written _ ?_⟩
  intro t here
  have small : s.length ≤ 2147483647 := by decide +kernel
  simp only [callArgs, List.mem_cons, Value.string.injEq, List.not_mem_nil, or_false] at here
  rcases here with rfl | rfl | other
  · exact small
  · exact small
  · cases other

/-! ### The relation -/

/-- `compare_ips` returns true for the two texts. -/
def Equal (aeInetPton : InetPton) (allow : Bool) (a b : List UInt8) : Prop :=
  asyncEngineIpUtilsCompareIps aeInetPton (callArgs a b allow) = some (.value .true)

private theorem converted_of_equal {aeInetPton : InetPton} {ip1 ip2 : PureIp}
    (equal : comparePureIps aeInetPton ip1.str ip1.len ip1.ipType ip2.str ip2.len ip2.ipType =
      some true) :
    ∃ v, Converted aeInetPton ip1 v ∧ Converted aeInetPton ip2 v := by
  unfold comparePureIps at equal
  split at equal
  · cases equal
  · rename_i same
    replace same : ip1.ipType = ip2.ipType := not_not.mp same
    obtain ⟨copy1, text1, rest⟩ := Option.bind_eq_some_iff.mp equal
    obtain ⟨copy2, text2, value⟩ := Option.map_eq_some_iff.mp rest
    cases type : ip1.ipType with
    | ipv4 =>
      rw [type] at value same
      dsimp only at value
      split at value
      · rename_i v w first second
        obtain rfl : v = w := Subtype.ext (by simpa using value)
        exact ⟨.inet v, ⟨copy1, text1, type, first⟩, copy2, text2, same.symm, second⟩
      · cases value
    | ipv6 =>
      rw [type] at value same
      dsimp only at value
      split at value
      · rename_i v w first second
        obtain rfl : v = w := Subtype.ext (by simpa using value)
        exact ⟨.inet6 v, ⟨copy1, text1, type, first⟩, copy2, text2, same.symm, second⟩
      · cases value
    | noIp =>
      rw [type] at value
      cases value
    | ipv6Reference =>
      rw [type] at value
      cases value

private theorem length_of_copied {s copy : List UInt8}
    (text : copied (pureIp s (ipTypeOf s)).str (pureIp s (ipTypeOf s)).len = some copy) :
    s.length ≤ 47 := by
  unfold copied at text
  split at text
  · rename_i fits
    cases type : ipTypeOf s with
    | ipv6Reference =>
      rw [type] at fits
      replace fits : 0 ≤ (s.length : Int) - 2 ∧ (s.length : Int) - 2 < 46 := fits
      omega
    | _ =>
      rw [type] at fits
      replace fits : 0 ≤ (s.length : Int) ∧ (s.length : Int) < 46 := fits
      omega
  · cases text

private theorem unfinished_plain {s : List UInt8} (h : Unfinished s) (b : UInt8) (mem : b ∈ s) :
    b ≠ 0 := by
  obtain ⟨-, -, t, v, whole⟩ := h
  have inside : b ∈ s ++ v := List.mem_append_left _ mem
  cases t with
  | noIp => exact whole.elim
  | ipv4 => exact (within_ipv4Address _ whole).1 b inside
  | ipv6 => exact (within_ipv6Address _ whole).1 b inside
  | ipv6Reference =>
    obtain ⟨w, inner, brackets⟩ := (mem_ipv6Reference _).mp whole
    rw [brackets] at inside
    simp only [List.cons_append, List.mem_cons, List.mem_append, List.not_mem_nil,
      or_false] at inside
    rcases inside with rfl | here | rfl
    · decide
    · exact (within_ipv6Address _ inner).1 b here
    · decide

private theorem derived_of_converted {aeInetPton : InetPton} (h : Converts aeInetPton)
    {s : List UInt8} {v : IpAddress} (taken : ipTypeOf s ≠ .noIp)
    (converted : Converted aeInetPton (pureIp s (ipTypeOf s)) v) : Derived s := by
  obtain ⟨copy, text, result⟩ := converted
  have short := length_of_copied text
  have passes := (taken_iff s).mp taken
  rw [seen_of_short short] at passes
  rcases passes with derived | unfinished
  · exact derived
  · -- An unfinished text is taken for an IPv6 address, and is copied as a whole.
    have type : ipTypeOf s = .ipv6 := by
      rw [ipTypeOf_eq_iff s .ipv6 (by decide), seen_of_short short]
      exact .inr ⟨rfl, unfinished⟩
    rw [type] at text result
    replace text : copied s s.length = some copy := text
    have whole := copied_whole (r := []) (unfinished_plain unfinished) (unfinished_short unfinished)
    rw [List.append_nil] at whole
    obtain rfl : copy = s := Option.some.inj (text.symm.trans whole)
    cases v with
    | inet inAddr => cases result.1
    | inet6 in6Addr =>
      exact .inr (.inl ((mem_ipv6Address_iff _).mpr ⟨_, (h.inet6 _ _).mp result.2⟩))

private theorem derived_of_equal {aeInetPton : InetPton} (h : Converts aeInetPton) {allow : Bool}
    {a b : List UInt8} (equal : Equal aeInetPton allow a b) : Derived a ∧ Derived b := by
  unfold Equal asyncEngineIpUtilsCompareIps at equal
  rw [compareArgs_call] at equal
  dsimp only at equal
  split at equal
  · cases equal
  · rename_i first
    split at equal
    · cases equal
    · rename_i second
      split at equal
      · cases equal
      · obtain ⟨same, compared, value⟩ := Option.map_eq_some_iff.mp equal
        cases same with
        | false => cases value
        | true =>
          obtain ⟨v, left, right⟩ := converted_of_equal compared
          exact ⟨derived_of_converted h first left, derived_of_converted h second right⟩

theorem equal_iff {aeInetPton : InetPton} (h : Converts aeInetPton) (allow : Bool)
    (a b : List UInt8) : Equal aeInetPton allow a b ↔ Same a b allow := by
  constructor
  · intro equal
    obtain ⟨first, second⟩ := derived_of_equal h equal
    obtain ⟨v, left⟩ := (derived_iff a).mp first
    obtain ⟨w, right⟩ := (derived_iff b).mp second
    exact (same_iff h left right allow).mpr ((compareIps_names h left right allow).1.mp equal)
  · intro same
    obtain ⟨⟨v, left, right⟩, kinds⟩ := same
    exact (compareIps_names h left right allow).1.mpr ⟨rfl, kinds⟩

/-- For all texts whatsoever, `compare_ips` returns true exactly for two texts of one address; so
the texts that it finds equal to themselves are the addresses, and on them it is an equivalence. -/
theorem compare_ips_equivalence (aeInetPton : InetPton) (h : Converts aeInetPton) (allow : Bool) :
    (∀ a b, Equal aeInetPton allow a b ↔ Same a b allow) ∧
      (∀ a, Equal aeInetPton allow a a ↔ Derived a) ∧
      (∀ a b, Equal aeInetPton allow a b → Equal aeInetPton allow b a) ∧
      ∀ a b c, Equal aeInetPton allow a b → Equal aeInetPton allow b c →
        Equal aeInetPton allow a c := by
  refine ⟨equal_iff h allow, ?_, ?_, ?_⟩
  · intro a
    rw [equal_iff h]
    constructor
    · exact fun same => (derived_of_same same).1
    · intro derived
      obtain ⟨v, names⟩ := (derived_iff a).mp derived
      exact ⟨⟨v, names, names⟩, .inl Iff.rfl⟩
  · intro a b
    rw [equal_iff h, equal_iff h]
    rintro ⟨⟨v, left, right⟩, kinds⟩
    exact ⟨⟨v, right, left⟩, kinds.imp_left Iff.symm⟩
  · intro a b c
    rw [equal_iff h, equal_iff h, equal_iff h]
    rintro ⟨⟨v, left, middle⟩, kinds⟩ ⟨⟨w, middle', right⟩, kinds'⟩
    obtain rfl := names_unique h middle middle'
    refine ⟨⟨v, left, right⟩, ?_⟩
    rcases kinds with same | allowed
    · rcases kinds' with same' | allowed
      · exact .inl (same.trans same')
      · exact .inr allowed
    · exact .inr allowed

/-- `::1` and `[::1]`, with references allowed. -/
theorem compare_ips_equivalence_reference :
    Equal textToBinary true [58, 58, 49] [91, 58, 58, 49, 93] ∧
      Equal textToBinary true [91, 58, 58, 49, 93] [58, 58, 49] := by
  have equal : Equal textToBinary true [58, 58, 49] [91, 58, 58, 49, 93] := by
    unfold Equal
    decide +kernel
  obtain ⟨-, -, symmetric, -⟩ := compare_ips_equivalence textToBinary textToBinary_converts true
  exact ⟨equal, symmetric _ _ equal⟩

end AsyncEngine.Engine.IpUtils
