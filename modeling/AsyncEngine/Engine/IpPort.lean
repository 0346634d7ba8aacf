/- `ae_ip_utils_get_ip_port`: the IP and the port of a socket address, which can be given back to
   the methods that take a destination. -/

import AsyncEngine.Engine.Lengths
import AsyncEngine.IpParser.Printing

set_option autoImplicit false
set_option relaxedAutoImplicit false

namespace AsyncEngine.Engine.IpPort

open AsyncEngine.Engine.Ruby
open AsyncEngine.Engine.State
open AsyncEngine.Engine.Effects
open AsyncEngine.Engine.IpUtils
open AsyncEngine.Engine.Lengths
open AsyncEngine.IpParser.Address
open AsyncEngine.IpParser.Classification
open AsyncEngine.IpParser.Grammar
open AsyncEngine.IpParser.Machine
open AsyncEngine.IpParser.Printing
open AsyncEngine.IpParser.Recognition

/-- The byte order of the machine. -/
inductive ByteOrder
  | little
  | big
deriving DecidableEq

/-- The bytes of a `struct sockaddr_storage`. -/
abbrev SockaddrStorage := {bytes : List UInt8 // bytes.length = 128}

/-- The value of a `uint16_t` with these bytes in memory. -/
def loadUint16 (a b : UInt8) : ByteOrder → Nat
  | .little => a.toNat + 256 * b.toNat
  | .big => 256 * a.toNat + b.toNat

def htons (n : Nat) : ByteOrder → Nat
  | .little => n % 256 * 256 + n / 256
  | .big => n

/-- `sin_port`, and `sin6_port` at the same place. -/
def sinPort (addr : SockaddrStorage) (order : ByteOrder) : Nat :=
  loadUint16 (addr.1.getD 2 0) (addr.1.getD 3 0) order

def sinAddr (addr : SockaddrStorage) : InAddr :=
  ⟨(addr.1.drop 4).take 4, by rw [List.length_take, List.length_drop, addr.2]; rfl⟩

def sin6Addr (addr : SockaddrStorage) : In6Addr :=
  ⟨(addr.1.drop 8).take 16, by rw [List.length_take, List.length_drop, addr.2]; rfl⟩

/-- The texts of `inet_ntop` for `AF_INET` and for `AF_INET6`. -/
structure InetNtop where
  inet : InAddr → List UInt8
  inet6 : In6Addr → List UInt8

/-- `AE_ASSERT(ae_inet_ntop(..., size))` and `rb_str_new2`: the text must leave room for a NUL. -/
def printed (text : List UInt8) (size : Nat) : Except Fault (List UInt8) :=
  if text.length < size then .ok (text.takeWhile (· ≠ 0)) else .error .assertion

/-- The elements of the array that is returned; for other types `ip` is read uninitialised. -/
def aeIpUtilsGetIpPort (aeInetNtop : InetNtop) (addr : SockaddrStorage) (ipType : IpType)
    (order : ByteOrder) : Except Fault (List UInt8 × Int) :=
  match ipType with
  | .ipv4 => do
    let ip ← printed (aeInetNtop.inet (sinAddr addr)) 16
    pure (ip, htons (sinPort addr order) order)
  | .ipv6 => do
    let ip ← printed (aeInetNtop.inet6 (sin6Addr addr)) 46
    pure (ip, htons (sinPort addr order) order)
  | _ => .error .uninitialised

/-- `inet_ntop` prints dotted quads and IPv6 addresses in their usual form. -/
structure Prints (aeInetNtop : InetNtop) : Prop where
  inet : ∀ v, aeInetNtop.inet v = dottedText v.1
  inet6 : ∀ v, Printed v (aeInetNtop.inet6 v)

/-- The bytes of an address as `inet_pton` makes them of a text of this type. -/
def parsed (aeInetPton : InetPton) (ip : List UInt8) : IpType → Option (List UInt8)
  | .ipv4 => (aeInetPton.inet ip).map (·.1)
  | .ipv6 => (aeInetPton.inet6 ip).map (·.1)
  | _ => none

/-- The bytes of the address in a socket address of this type. -/
def addressBytes (addr : SockaddrStorage) : IpType → List UInt8
  | .ipv4 => (sinAddr addr).1
  | .ipv6 => (sin6Addr addr).1
  | _ => []

/-- The number whose two bytes stand in network order in the address. -/
def networkPort (addr : SockaddrStorage) : Int :=
  256 * (addr.1.getD 2 0).toNat + (addr.1.getD 3 0).toNat

/-- What `send_datagram` raises about a destination. -/
def destinationErrors : List Return := [
  .raised (.type "destination IP must be a String"),
  .raised (.argument "string contains null byte"),
  .raised (.type "destination port must be a Fixnum"),
  .raised .range,
  .raised (.argument "invalid destination port value"),
  .raised (.type "invalid destination IP family")]

/-- The pair stands for the socket address, and is a destination for the sockets of its type. -/
structure StandsFor (aeInetPton : InetPton) (addr : SockaddrStorage) (ipType : IpType)
    (ip : List UInt8) (port : Int) : Prop where
  classified : aeIpParserExecute ip ip.length = ipType
  bytes : parsed aeInetPton ip ipType = some (addressBytes addr ipType)
  hostOrder : port = networkPort addr
  valid : aeIpUtilsIsValidPort port = true
  destination {u : State.Udp} {args : Args} : u.ipType = ipType →
    args.argv[1]? = some (.string ip) → args.argv[2]? = some (.fixnum port) →
      ∀ q, Udp.sendArgs u args = .error q → q ∉ destinationErrors

/-! ### Ports -/

private theorem htons_sinPort (addr : SockaddrStorage) (order : ByteOrder) :
    (htons (sinPort addr order) order : Int) = networkPort addr := by
  have := (addr.1.getD 2 0).toNat_lt
  have := (addr.1.getD 3 0).toNat_lt
  cases order with
  | little =>
    simp only [htons, sinPort, loadUint16, networkPort]
    omega
  | big => simp [htons, sinPort, loadUint16, networkPort]

private theorem valid_networkPort (addr : SockaddrStorage) :
    aeIpUtilsIsValidPort (networkPort addr) = true := by
  have := (addr.1.getD 2 0).toNat_lt
  have := (addr.1.getD 3 0).toNat_lt
  have range : 0 ≤ networkPort addr ∧ networkPort addr ≤ 65535 := by
    unfold networkPort
    omega
  simpa [aeIpUtilsIsValidPort] using range

/-! ### The destination of a datagram -/

private theorem destination_passes {u : State.Udp} {args : Args} {ip : List UInt8} {port : Int}
    (family : ipTypeOf ip = u.ipType) (noNul : 0 ∉ ip) (valid : 0 ≤ port ∧ port ≤ 65535)
    (first : args.argv[1]? = some (.string ip)) (second : args.argv[2]? = some (.fixnum port)) :
    Stops (· ∉ destinationErrors) (Udp.sendArgs u args) := by
  have text : getString args.argv[1]? "destination IP must be a String" = .ok ip := by
    rw [first]
    rfl
  have number : checkPort args.argv[2]? "destination port must be a Fixnum"
      "invalid destination port value" = .ok port := by
    rw [second]
    exact port_ok _ _ valid.1 valid.2
  have plain : stringValueCStr ip = .ok ip := if_neg noNul
  rw [Udp.sendArgs, text, number]
  refine (stops_count (by decide)).bind fun _ => (stops_open (by decide)).bind fun _ =>
    (stops_block (by decide)).bind fun proc => ?_
  refine Stops.bind ?_ fun datagram => ?_
  · unfold getString
    split
    · exact stops_pure _
    · exact stops_raise (by decide)
  · rw [ok_bind, plain, ok_bind, ok_bind, if_neg (not_not.mpr family.symm)]
    exact (stops_ite (stops_raise (by decide)) (stops_pure _)).bind fun _ => stops_pure _

private theorem standsFor {aeInetPton : InetPton} {addr : SockaddrStorage} {ipType : IpType}
    {ip : List UInt8} (short : ip.length ≤ 47) (noNul : ∀ b ∈ ip, b ≠ 0)
    (classified : aeIpParserExecute ip ip.length = ipType)
    (bytes : parsed aeInetPton ip ipType = some (addressBytes addr ipType)) :
    StandsFor aeInetPton addr ipType ip (networkPort addr) := by
  have valid := valid_networkPort addr
  refine ⟨classified, bytes, rfl, valid, fun family first second => ?_⟩
  refine destination_passes ?_ (fun inside => noNul 0 inside rfl) ?_ first second
  · rw [ipTypeOf, toInt_of_int (short.trans (by omega)), classified, family]
  · simpa [aeIpUtilsIsValidPort] using valid

private theorem printed_whole {text : List UInt8} {size : Nat} (noNul : ∀ b ∈ text, b ≠ 0)
    (fits : text.length < size) : printed text size = .ok text := by
  rw [printed, if_pos fits, List.takeWhile_eq_self_iff.mpr (by simpa using noNul)]

/-- For every IPv4 and IPv6 socket address the IP and the port stand for it: the parser gives the
text its type, reading it gives the bytes back, and it can be sent to. -/
theorem ip_port_round_trip (aeInetNtop : InetNtop) (prints : Prints aeInetNtop)
    (aeInetPton : InetPton) (converts : Converts aeInetPton) (addr : SockaddrStorage)
    (order : ByteOrder) (ipType : IpType) (plain : ipType = .ipv4 ∨ ipType = .ipv6) :
    ∃ ip port, aeIpUtilsGetIpPort aeInetNtop addr ipType order = .ok (ip, port) ∧
      StandsFor aeInetPton addr ipType ip port := by
  have port := htons_sinPort addr order
  rcases plain with rfl | rfl
  · have dotted := dotted_dottedText (sinAddr addr)
    rw [← prints.inet] at dotted
    have member := (mem_ipv4Address_iff _).mpr ⟨_, dotted⟩
    obtain ⟨noNul, -, short⟩ := within_ipv4Address _ member
    refine ⟨aeInetNtop.inet (sinAddr addr), networkPort addr, ?_, ?_⟩
    · rw [aeIpUtilsGetIpPort, printed_whole noNul (by omega), port]
      rfl
    · refine standsFor (by omega) noNul ?_ ?_
      · exact (execute_eq_iff _ .ipv4 (by decide)).mpr (.inl member)
      · rw [parsed, (converts.inet _ _).mpr dotted]
        rfl
  · have denotes := denotes_printed (prints.inet6 (sin6Addr addr))
    have member := (mem_ipv6Address_iff _).mpr ⟨_, denotes⟩
    obtain ⟨noNul, -, short⟩ := within_ipv6Address _ member
    refine ⟨aeInetNtop.inet6 (sin6Addr addr), networkPort addr, ?_, ?_⟩
    · rw [aeIpUtilsGetIpPort, printed_whole noNul (by omega), port]
      rfl
    · refine standsFor (by omega) noNul ?_ ?_
      · exact (execute_eq_iff _ .ipv6 (by decide)).mpr (.inl member)
      · rw [parsed, (converts.inet6 _ _).mpr denotes]
        rfl

/-- A function that prints. -/
noncomputable def binaryToText : InetNtop where
  inet v := dottedText v.1
  inet6 := print6

theorem binaryToText_prints : Prints binaryToText where
  inet _ := rfl
  inet6 := printed_print6

/-- `::ffff:192.0.2.1`, port 5060, on a little-endian machine. -/
theorem ip_port_round_trip_mapped :
    let addr : SockaddrStorage := ⟨[10, 0, 19, 196, 0, 0, 0, 0] ++ List.replicate 10 0 ++
      [255, 255, 192, 0, 2, 1] ++ List.replicate 104 0, by simp⟩
    aeIpUtilsGetIpPort binaryToText addr .ipv6 .little =
        .ok ([58, 58, 102, 102, 102, 102, 58, 49, 57, 50, 46, 48, 46, 50, 46, 49], 5060) ∧
      ∃ ip port, aeIpUtilsGetIpPort binaryToText addr .ipv6 .little = .ok (ip, port) ∧
        StandsFor textToBinary addr .ipv6 ip port :=
  ⟨by decide +kernel, ip_port_round_trip binaryToText binaryToText_prints textToBinary
    textToBinary_converts _ .little .ipv6 (.inr rfl)⟩

/-! ### The text as a key -/

/-- The address in a socket address of this type. -/
def addressOf (addr : SockaddrStorage) : IpType → Option IpAddress
  | .ipv4 => some (.inet (sinAddr addr))
  | .ipv6 => some (.inet6 (sin6Addr addr))
  | _ => none

def textOf (aeInetNtop : InetNtop) : IpAddress → List UInt8
  | .inet v => aeInetNtop.inet v
  | .inet6 v => aeInetNtop.inet6 v

private theorem not_reference {s : List UInt8} {t : IpType} (member : s ∈ address t)
    (plain : t = .ipv4 ∨ t = .ipv6) : s ∉ ipv6Reference := by
  intro reference
  have some_ip : t ≠ .noIp := by rcases plain with rfl | rfl <;> decide
  have classified := (execute_eq_iff s t some_ip).mpr (.inl member)
  have other := (execute_eq_iff s .ipv6Reference (by decide)).mpr (.inl reference)
  rw [classified] at other
  rcases plain with rfl | rfl <;> cases other

private theorem getIpPort_names {aeInetNtop : InetNtop} (prints : Prints aeInetNtop)
    (addr : SockaddrStorage) (order : ByteOrder) {ipType : IpType}
    (plain : ipType = .ipv4 ∨ ipType = .ipv6) :
    ∃ v, addressOf addr ipType = some v ∧ Names (textOf aeInetNtop v) v ∧
      textOf aeInetNtop v ∉ ipv6Reference ∧
      aeIpUtilsGetIpPort aeInetNtop addr ipType order =
        .ok (textOf aeInetNtop v, networkPort addr) := by
  have port := htons_sinPort addr order
  rcases plain with rfl | rfl
  · have dotted := dotted_dottedText (sinAddr addr)
    rw [← prints.inet] at dotted
    have member := (mem_ipv4Address_iff _).mpr ⟨_, dotted⟩
    obtain ⟨noNul, -, short⟩ := within_ipv4Address _ member
    refine ⟨_, rfl, .ipv4 dotted, not_reference (t := .ipv4) member (.inl rfl), ?_⟩
    rw [aeIpUtilsGetIpPort, printed_whole noNul (by omega), port]
    rfl
  · have denotes := denotes_printed (prints.inet6 (sin6Addr addr))
    have member := (mem_ipv6Address_iff _).mpr ⟨_, denotes⟩
    obtain ⟨noNul, -, short⟩ := within_ipv6Address _ member
    refine ⟨_, rfl, .ipv6 denotes, not_reference (t := .ipv6) member (.inr rfl), ?_⟩
    rw [aeIpUtilsGetIpPort, printed_whole noNul (by omega), port]
    rfl

/-- The IPs that two socket addresses are given to Ruby as can be compared as strings: they are one
string exactly when `compare_ips` finds them equal, and when the addresses are of one type and
equal. And `compare_ips` finds another text equal to such an IP exactly when that text is an IP of
the address, without brackets unless they are allowed. -/
theorem ips_are_canonical (aeInetNtop : InetNtop) (prints : Prints aeInetNtop)
    (aeInetPton : InetPton) (converts : Converts aeInetPton) (addr addr' : SockaddrStorage)
    (order : ByteOrder) (ipType ipType' : IpType) (allow : Bool)
    (plain : ipType = .ipv4 ∨ ipType = .ipv6) (plain' : ipType' = .ipv4 ∨ ipType' = .ipv6) :
    ∃ ip port ip' port', aeIpUtilsGetIpPort aeInetNtop addr ipType order = .ok (ip, port) ∧
      aeIpUtilsGetIpPort aeInetNtop addr' ipType' order = .ok (ip', port') ∧
      (ip = ip' ↔ Equal aeInetPton allow ip ip') ∧
      (ip = ip' ↔ addressOf addr ipType = addressOf addr' ipType') ∧
      ∀ text, Equal aeInetPton allow text ip ↔
        (∃ v, addressOf addr ipType = some v ∧ Names text v) ∧
          (text ∉ ipv6Reference ∨ allow = true) := by
  obtain ⟨v, address, names, bare, gives⟩ := getIpPort_names prints addr order plain
  obtain ⟨v', address', names', bare', gives'⟩ := getIpPort_names prints addr' order plain'
  have same_text : textOf aeInetNtop v = textOf aeInetNtop v' ↔ v = v' := by
    constructor
    · intro same
      rw [← same] at names'
      exact names_unique converts names names'
    · exact congrArg (textOf aeInetNtop)
  refine ⟨_, _, _, _, gives, gives', ?_, ?_, fun text => ?_⟩
  · rw [same_text, equal_iff converts, same_iff converts names names']
    exact ⟨fun same => ⟨same, .inl (iff_of_false bare bare')⟩, And.left⟩
  · rw [same_text, address, address', Option.some.injEq]
  · rw [equal_iff converts, address]
    constructor
    · rintro ⟨⟨w, there, here⟩, kinds⟩
      obtain rfl := names_unique converts names here
      exact ⟨⟨v, rfl, there⟩, kinds.imp_left fun kinds => mt kinds.mp bare⟩
    · rintro ⟨⟨w, found, there⟩, kinds⟩
      obtain rfl := Option.some.inj found
      exact ⟨⟨v, there, names⟩, kinds.imp_left fun other => iff_of_false other bare⟩

/-- The same IPv4 address with two ports. -/
theorem ips_are_canonical_ports :
    let addr : SockaddrStorage := ⟨[2, 0, 19, 196, 192, 0, 2, 1] ++ List.replicate 120 0, by simp⟩
    let addr' : SockaddrStorage := ⟨[2, 0, 19, 197, 192, 0, 2, 1] ++ List.replicate 120 0, by simp⟩
    ∃ ip port ip' port', aeIpUtilsGetIpPort binaryToText addr .ipv4 .little = .ok (ip, port) ∧
      aeIpUtilsGetIpPort binaryToText addr' .ipv4 .little = .ok (ip', port') ∧ ip = ip' ∧
      Equal textToBinary false ip ip' := by
  intro addr addr'
  obtain ⟨ip, port, ip', port', gives, gives', equal, addresses, -⟩ := ips_are_canonical
    binaryToText binaryToText_prints textToBinary textToBinary_converts addr addr' .little .ipv4
    .ipv4 false (.inl rfl) (.inl rfl)
  have same : ip = ip' := addresses.mpr rfl
  exact ⟨ip, port, ip', port', gives, gives', same, equal.mp same⟩

end AsyncEngine.Engine.IpPort
