/- The texts that `inet_ntop` prints for addresses: dotted quads, and groups in lower case with
   the longest run of zeros elided. They are representations of the addresses they print. -/

import Mathlib.Data.List.MinMax
import AsyncEngine.IpParser.Address

set_option autoImplicit false
set_option relaxedAutoImplicit false

namespace AsyncEngine.IpParser.Printing

open AsyncEngine.Lib.Extent
open AsyncEngine.Lib.Fields
open AsyncEngine.IpParser.Address
open AsyncEngine.IpParser.Grammar

def letter (d : Nat) : UInt8 := (Nat.digitChar d).toUInt8

/-- The numeral without leading zeros. -/
def text (base n : Nat) : List UInt8 := (Nat.toDigits base n).map Char.toUInt8

/-- The numbers of 16 bits that two bytes in network order make. -/
def groups : List UInt8 → List Nat
  | a :: b :: bytes => (256 * a.toNat + b.toNat) :: groups bytes
  | _ => []

def hexTexts (gs : List Nat) : List (List UInt8) := gs.map (text 16)

noncomputable def dottedText (bytes : List UInt8) : List UInt8 :=
  join 46 (bytes.map fun b => text 10 b.toNat)

/-- `len` groups from `base` on are zero. -/
def ZeroRun (gs : List Nat) (base len : Nat) : Prop :=
  base + len ≤ gs.length ∧ (gs.drop base).take len = List.replicate len 0

instance (gs : List Nat) (base len : Nat) : Decidable (ZeroRun gs base len) :=
  inferInstanceAs (Decidable (_ ∧ _))

/-- The run that is elided. -/
structure LongestRun (gs : List Nat) (base len : Nat) : Prop where
  zeros : ZeroRun gs base len
  several : 2 ≤ len
  longest : ∀ base' len', ZeroRun gs base' len' → len' ≤ len

/-- The run of a compatible address, or that of a mapped one. -/
def DottedTail (gs : List Nat) (base len : Nat) : Prop :=
  base = 0 ∧ (len = 6 ∨ len = 5 ∧ gs[5]? = some 0xffff)

instance (gs : List Nat) (base len : Nat) : Decidable (DottedTail gs base len) :=
  inferInstanceAs (Decidable (_ ∧ _))

/-- What `inet_ntop` prints for an IPv6 address; of two runs of one length it may take any. -/
inductive Printed (v : In6Addr) : List UInt8 → Prop
  | full (none : ∀ base len, ZeroRun (groups v.1) base len → len < 2) :
      Printed v (join 58 (hexTexts (groups v.1)))
  | elided {base len : Nat} (run : LongestRun (groups v.1) base len)
      (plain : ¬ DottedTail (groups v.1) base len) :
      Printed v (join 58 (hexTexts ((groups v.1).take base)) ++
        58 :: 58 :: join 58 (hexTexts ((groups v.1).drop (base + len))))
  | dotted {base len : Nat} (run : LongestRun (groups v.1) base len)
      (tail : DottedTail (groups v.1) base len) :
      Printed v (58 :: 58 ::
        join 58 (hexTexts (((groups v.1).take 6).drop len) ++ [dottedText (v.1.drop 12)]))

/-! ### Numerals -/

private theorem digitValue_letter : ∀ d < 16, digitValue (letter d) = d := by decide

private theorem toNat_letter : ∀ d < 10, (letter d).toNat = 48 + d := by decide

private theorem letter_hexdig : ∀ d < 16, (48 ≤ (letter d).toNat ∧ (letter d).toNat ≤ 57) ∨
    97 ≤ (letter d).toNat ∧ (letter d).toNat ≤ 102 := by decide

private theorem text_lt {base n : Nat} (h : n < base) : text base n = [letter n] := by
  rw [text, Nat.toDigits_of_lt_base h]
  rfl

private theorem text_ge {base n : Nat} (hb : 1 < base) (h : base ≤ n) :
    text base n = text base (n / base) ++ [letter (n % base)] := by
  rw [text, Nat.toDigits_of_base_le hb h, List.map_append]
  rfl

private theorem numeral_snoc (base : Nat) (w : List UInt8) (b : UInt8) :
    numeral base (w ++ [b]) = base * numeral base w + digitValue b := by
  rw [numeral, List.foldl_append]
  rfl

theorem numeral_text {base : Nat} (hb : 1 < base) (small : base ≤ 16) (n : Nat) :
    numeral base (text base n) = n := by
  induction n using Nat.strong_induction_on with
  | _ n ih =>
    by_cases h : n < base
    · have value := digitValue_letter n (by omega)
      rw [text_lt h, numeral, List.foldl_cons, List.foldl_nil, value]
      omega
    · have least : base ≤ n := Nat.le_of_not_lt h
      have digit : n % base < base := Nat.mod_lt n (by omega)
      have value := digitValue_letter (n % base) (by omega)
      have smaller : n / base < n := Nat.div_lt_self (by omega) hb
      rw [text_ge hb least, numeral_snoc, ih (n / base) smaller, value]
      exact Nat.div_add_mod n base

private theorem letters_text {base : Nat} (hb : 1 < base) (n : Nat) :
    ∀ b ∈ text base n, ∃ d < base, b = letter d := by
  induction n using Nat.strong_induction_on with
  | _ n ih =>
    intro b here
    by_cases h : n < base
    · rw [text_lt h, List.mem_singleton] at here
      exact ⟨n, h, here⟩
    · have least : base ≤ n := Nat.le_of_not_lt h
      rw [text_ge hb least, List.mem_append, List.mem_singleton] at here
      rcases here with front | last
      · exact ih (n / base) (Nat.div_lt_self (by omega) hb) b front
      · exact ⟨n % base, Nat.mod_lt n (by omega), last⟩

/-! ### Words of the grammar -/

private theorem mem_range {lo hi : Nat} {b : UInt8} (least : lo ≤ b.toNat)
    (most : b.toNat ≤ hi) : [b] ∈ range lo hi := ⟨b, rfl, least, most⟩

private theorem mem_digits {lo hi d : Nat} (small : d < 10) (least : lo ≤ 48 + d)
    (most : 48 + d ≤ hi) : [letter d] ∈ range lo hi := by
  have value := toNat_letter d small
  exact mem_range (by omega) (by omega)

private theorem mem_hexdig {d : Nat} (small : d < 16) : [letter d] ∈ hexdig := by
  rw [hexdig, Language.mem_add, Language.mem_add]
  rcases letter_hexdig d small with ⟨least, most⟩ | ⟨least, most⟩
  · exact .inl (mem_range least most)
  · exact .inr (.inr (mem_range least most))

private theorem text_decOctet {n : Nat} (h : n < 256) : text 10 n ∈ decOctet := by
  have ten : 1 < 10 := by decide
  simp only [decOctet, Language.mem_add]
  by_cases one : n < 10
  · rw [text_lt one]
    exact .inl (.inl (.inl (.inl (mem_digits one (by omega) (by omega)))))
  by_cases two : n < 100
  · rw [text_ge ten (by omega), text_lt (by omega : n / 10 < 10)]
    refine .inl (.inl (.inl (.inr (Language.append_mem_mul ?_ ?_))))
    · exact mem_digits (by omega) (by omega) (by omega)
    · exact mem_digits (by omega) (by omega) (by omega)
  have first : n / 10 / 10 < 10 := by omega
  rw [text_ge ten (by omega), text_ge ten (by omega : 10 ≤ n / 10), text_lt first]
  by_cases hundreds : n < 200
  · rw [List.append_assoc]
    refine .inl (.inl (.inr (Language.append_mem_mul ?_ ?_)))
    · exact mem_digits (by omega) (by omega) (by omega)
    · rw [pow_two]
      refine Language.append_mem_mul ?_ ?_
      · exact mem_digits (by omega) (by omega) (by omega)
      · exact mem_digits (by omega) (by omega) (by omega)
  by_cases fifties : n < 250
  · refine .inl (.inr (Language.append_mem_mul (Language.append_mem_mul ?_ ?_) ?_))
    · exact mem_digits (by omega) (by omega) (by omega)
    · exact mem_digits (by omega) (by omega) (by omega)
    · exact mem_digits (by omega) (by omega) (by omega)
  · refine .inr (Language.append_mem_mul (Language.append_mem_mul ?_ ?_) ?_)
    · exact mem_digits (by omega) (by omega) (by omega)
    · exact mem_digits (by omega) (by omega) (by omega)
    · exact mem_digits (by omega) (by omega) (by omega)

private theorem mem_pow {w : List UInt8} (h : ∀ b ∈ w, [b] ∈ hexdig) : w ∈ hexdig ^ w.length := by
  induction w with
  | nil => simp [Language.mem_one]
  | cons b w ih =>
    rw [List.length_cons, pow_succ']
    exact Language.append_mem_mul (h b (.head _)) (ih fun c hc => h c (.tail _ hc))

private theorem text_h16 {n : Nat} (h : n < 65536) : text 16 n ∈ h16 := by
  rw [h16, times, mem_sum]
  have size : (text 16 n).length = (Nat.toDigits 16 n).length := List.length_map ..
  have least : 0 < (Nat.toDigits 16 n).length := Nat.length_toDigits_pos
  have most : (Nat.toDigits 16 n).length ≤ 4 :=
    (Nat.length_toDigits_le_iff (by decide) (by decide)).mpr h
  refine ⟨(text 16 n).length, Finset.mem_Icc.mpr ⟨by omega, by omega⟩, mem_pow fun b hb => ?_⟩
  obtain ⟨d, small, rfl⟩ := letters_text (by decide) n b hb
  exact mem_hexdig small

/-! ### Groups and their bytes -/

/-- The two bytes of each group. -/
private def pairs (gs : List Nat) : List UInt8 :=
  gs.flatMap fun g => [UInt8.ofNat (g / 256), UInt8.ofNat (g % 256)]

private theorem pairs_append (gs hs : List Nat) : pairs (gs ++ hs) = pairs gs ++ pairs hs :=
  List.flatMap_append

private theorem pairs_groups {bytes : List UInt8} (k : Nat) (h : bytes.length = 2 * k) :
    pairs (groups bytes) = bytes := by
  induction k generalizing bytes with
  | zero =>
    rw [List.length_eq_zero_iff.mp h]
    rfl
  | succ k ih =>
    match bytes, h with
    | a :: b :: bytes, h =>
      have rest : bytes.length = 2 * k := by
        simp only [List.length_cons] at h
        omega
      have high : (256 * a.toNat + b.toNat) / 256 = a.toNat := by
        have := b.toNat_lt
        omega
      have low : (256 * a.toNat + b.toNat) % 256 = b.toNat := by
        have := b.toNat_lt
        omega
      rw [groups, pairs, List.flatMap_cons, ← pairs, ih rest, high, low]
      simp

private theorem groups_lt (bytes : List UInt8) : ∀ g ∈ groups bytes, g < 65536 := by
  induction bytes using groups.induct with
  | case1 a b bytes ih =>
    intro g here
    rw [groups, List.mem_cons] at here
    rcases here with rfl | later
    · have := a.toNat_lt
      have := b.toNat_lt
      omega
    · exact ih g later
  | case2 bytes short =>
    intro g here
    rw [groups] at here
    · cases here
    · exact short

private theorem groups_drop (bytes : List UInt8) (k : Nat) :
    (groups bytes).drop k = groups (bytes.drop (2 * k)) := by
  induction k generalizing bytes with
  | zero => rfl
  | succ k ih =>
    match bytes with
    | [] => simp [groups]
    | [a] =>
      have none : [a].drop (2 * (k + 1)) = [] := List.drop_eq_nil_of_le (by simp; omega)
      rw [none]
      simp [groups]
    | a :: b :: bytes =>
      rw [groups, List.drop_succ_cons, ih]
      rfl

private theorem bytesOf_hexTexts {gs : List Nat} (h : ∀ g ∈ gs, g < 65536) :
    bytesOf (hexTexts gs) = pairs gs := by
  induction gs with
  | nil => rfl
  | cons g gs ih =>
    have rest := ih fun g' hg => h g' (.tail _ hg)
    have word := text_h16 (h g (.head _))
    rw [hexTexts, List.map_cons, bytesOf, List.flatMap_cons, ← bytesOf, ← hexTexts, rest,
      fieldBytes_h16 word, groupBytes, numeral_text (by decide) (by decide)]
    rfl

private theorem groups_hexTexts {gs : List Nat} (h : ∀ g ∈ gs, g < 65536) :
    Groups (hexTexts gs) := by
  intro f hf
  obtain ⟨g, hg, rfl⟩ := List.mem_map.mp hf
  exact text_h16 (h g hg)

private theorem trailing_of_groups {fs : List (List UInt8)} (h : Groups fs) : Trailing fs := by
  rcases fs.eq_nil_or_concat' with rfl | ⟨gs, f, rfl⟩
  · exact .inl rfl
  · exact .inr ⟨gs, f, rfl, fun g hg => h g (by simp [hg]), .inl (h f (by simp))⟩

private theorem pairs_zeros (n : Nat) : pairs (List.replicate n 0) = List.replicate (2 * n) 0 := by
  induction n with
  | zero => rfl
  | succ n ih =>
    rw [List.replicate_succ, pairs, List.flatMap_cons, ← pairs, ih, Nat.mul_succ,
      List.replicate_succ, List.replicate_succ]
    rfl

private theorem split_run {gs : List Nat} {base len : Nat} (h : ZeroRun gs base len) :
    gs = gs.take base ++ List.replicate len 0 ++ gs.drop (base + len) := by
  rw [← h.2, ← List.drop_drop, List.append_assoc, List.take_append_drop, List.take_append_drop]

/-! ### The printed texts are representations -/

theorem dotted_dottedText (v : InAddr) : Dotted (dottedText v.1) v := by
  refine ⟨v.1.map fun b => text 10 b.toNat, by rw [List.length_map, v.2], ?_, rfl, ?_⟩
  · intro f hf
    obtain ⟨b, -, rfl⟩ := List.mem_map.mp hf
    exact text_decOctet b.toNat_lt
  · rw [List.map_map]
    symm
    refine List.map_id'' (fun b => ?_) v.1
    show UInt8.ofNat (numeral 10 (text 10 b.toNat)) = b
    rw [numeral_text (by decide) (by decide)]
    simp

theorem denotes_printed {v : In6Addr} {s : List UInt8} (h : Printed v s) : Denotes s v := by
  have whole : pairs (groups v.1) = v.1 := pairs_groups 8 v.2
  have small := groups_lt v.1
  cases h with
  | full none =>
    refine .full (trailing_of_groups (groups_hexTexts small)) ?_
    rw [bytesOf_hexTexts small, whole]
  | @elided base len run plain =>
    have front : ∀ g ∈ (groups v.1).take base, g < 65536 :=
      fun g hg => small g (List.mem_of_mem_take hg)
    have back : ∀ g ∈ (groups v.1).drop (base + len), g < 65536 :=
      fun g hg => small g (List.mem_of_mem_drop hg)
    have several := run.several
    refine .elided (n := len) (groups_hexTexts front) (trailing_of_groups (groups_hexTexts back))
      (by omega) ?_
    rw [bytesOf_hexTexts front, bytesOf_hexTexts back, ← pairs_zeros, ← pairs_append,
      ← pairs_append, ← split_run run.zeros, whole]
  | @dotted base len run tail =>
    obtain ⟨rfl, length⟩ := tail
    have few : len ≤ 6 := by
      rcases length with rfl | ⟨rfl, -⟩ <;> omega
    have several := run.several
    let low : InAddr := ⟨v.1.drop 12, by rw [List.length_drop, v.2]⟩
    have quad := dotted_dottedText low
    have between : ∀ g ∈ ((groups v.1).take 6).drop len, g < 65536 :=
      fun g hg => small g (List.mem_of_mem_take (List.mem_of_mem_drop hg))
    have zeros : ((groups v.1).take 6).take len = List.replicate len 0 := by
      rw [List.take_take, Nat.min_eq_left few]
      exact run.zeros.2
    have last : pairs ((groups v.1).drop 6) = v.1.drop 12 := by
      rw [groups_drop]
      exact pairs_groups 2 low.2
    have bytes : v.1 = List.replicate (2 * len) 0 ++
        (pairs (((groups v.1).take 6).drop len) ++ v.1.drop 12) := by
      rw [← pairs_zeros, ← zeros, ← List.append_assoc, ← pairs_append, List.take_append_drop,
        ← last, ← pairs_append, List.take_append_drop, whole]
    have elided := Denotes.elided (l := []) (n := len) (v := v)
      (r := hexTexts (((groups v.1).take 6).drop len) ++ [dottedText low.1])
      (fun f hf => by cases hf)
      (.inr ⟨_, _, rfl, groups_hexTexts between, .inr ((mem_ipv4Address_iff _).mpr ⟨low, quad⟩)⟩)
      (by omega) (by
        rw [bytesOf_snoc, bytesOf_hexTexts between, fieldBytes_dotted quad]
        exact bytes)
    rwa [join_nil, List.nil_append] at elided

/-! ### A function that prints -/

/-- The runs of zeros of eight groups. -/
def runs (gs : List Nat) : List (Nat × Nat) :=
  ((List.range 9).product (List.range 9)).filter fun run => decide (ZeroRun gs run.1 run.2)

/-- The first of the longest runs is elided. -/
noncomputable def print6 (v : In6Addr) : List UInt8 :=
  match (runs (groups v.1)).argmax Prod.snd with
  | none => join 58 (hexTexts (groups v.1))
  | some (base, len) =>
    if len < 2 then join 58 (hexTexts (groups v.1))
    else if DottedTail (groups v.1) base len then
      58 :: 58 :: join 58 (hexTexts (((groups v.1).take 6).drop len) ++ [dottedText (v.1.drop 12)])
    else
      join 58 (hexTexts ((groups v.1).take base)) ++
        58 :: 58 :: join 58 (hexTexts ((groups v.1).drop (base + len)))

private theorem length_groups (bytes : List UInt8) : (groups bytes).length = bytes.length / 2 := by
  induction bytes using groups.induct with
  | case1 a b bytes ih =>
    rw [groups, List.length_cons, ih, List.length_cons, List.length_cons]
    omega
  | case2 bytes short =>
    match bytes, short with
    | [], _ => rfl
    | [a], _ => simp [groups]
    | a :: b :: bytes, short => exact absurd rfl (short a b bytes)

private theorem mem_runs {v : In6Addr} {base len : Nat} :
    (base, len) ∈ runs (groups v.1) ↔ ZeroRun (groups v.1) base len := by
  rw [runs, List.mem_filter, decide_eq_true_iff, and_iff_right_iff_imp]
  intro zeros
  have inside := zeros.1
  rw [length_groups, v.2] at inside
  exact List.pair_mem_product.mpr ⟨List.mem_range.mpr (by omega), List.mem_range.mpr (by omega)⟩

theorem printed_print6 (v : In6Addr) : Printed v (print6 v) := by
  unfold print6
  split
  · rename_i none
    have empty := List.argmax_eq_none.mp none
    refine .full fun base len zeros => ?_
    have here := mem_runs.mpr zeros
    rw [empty] at here
    cases here
  · rename_i base len best
    have zeros := mem_runs.mp (List.argmax_mem best)
    have longest : ∀ base' len', ZeroRun (groups v.1) base' len' → len' ≤ len :=
      fun base' len' other => List.le_of_mem_argmax (mem_runs.mpr other) best
    split
    · rename_i short
      exact .full fun base' len' other => (longest base' len' other).trans_lt short
    · rename_i several
      have run : LongestRun (groups v.1) base len := ⟨zeros, Nat.le_of_not_lt several, longest⟩
      split
      · rename_i tail
        exact .dotted run tail
      · rename_i plain
        exact .elided run plain

end AsyncEngine.IpParser.Printing
