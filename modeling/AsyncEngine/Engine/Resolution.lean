/- The socket addresses that `getaddrinfo` and `uv_interface_addresses` give:
   `_ae_getaddrinfo_callback` and `get_network_interfaces`, which print them all through one
   buffer. -/

import AsyncEngine.Engine.IpPort
import AsyncEngine.Engine.Machine

set_option autoImplicit false
set_option relaxedAutoImplicit false

namespace AsyncEngine.Engine.Resolution

open AsyncEngine.Engine.Ruby
open AsyncEngine.Engine.State
open AsyncEngine.Engine.IpUtils
open AsyncEngine.Engine.IpPort
open AsyncEngine.Engine.Lengths
open AsyncEngine.IpParser.Address
open AsyncEngine.IpParser.Classification
open AsyncEngine.IpParser.Machine
open AsyncEngine.IpParser.Printing

/-- `AF_INET` and `AF_INET6`, as Linux has them. -/
def afInet : Nat := 2

def afInet6 : Nat := 10

/-- `sa_family`, and `sin_family` at the same place. -/
def saFamily (addr : SockaddrStorage) (order : ByteOrder) : Nat :=
  loadUint16 (addr.1.getD 0 0) (addr.1.getD 1 0) order

/-- `uv_ip4_name` and `uv_ip6_name`, whose result is not looked at: a text that does not fit leaves
`ip` as it is. -/
def uvIpName (text : List UInt8) (size : Nat) (ip : Option (List UInt8)) : Option (List UInt8) :=
  if text.length < size then some text else ip

/-- `rb_str_new2(ip)`; nothing is in `ip` before the first name. -/
def rbStrNew2 : Option (List UInt8) → Except Fault (List UInt8)
  | none => .error .uninitialised
  | some ip => .ok (ip.takeWhile (· ≠ 0))

/-- The switch on the family: the type of the address, and what is then in `ip`. -/
def nameOf (uvInetNtop : InetNtop) (order : ByteOrder) (addr : SockaddrStorage)
    (ip : Option (List UInt8)) : Option (IpType × Option (List UInt8)) :=
  if saFamily addr order = afInet then
    some (.ipv4, uvIpName (uvInetNtop.inet (sinAddr addr)) 16 ip)
  else if saFamily addr order = afInet6 then
    some (.ipv6, uvIpName (uvInetNtop.inet6 (sin6Addr addr)) 46 ip)
  else none

/-- An entry of the list that `getaddrinfo` makes. -/
structure Addrinfo where
  aiAddrlen : Nat
  aiAddr : SockaddrStorage

/-- The loop of `_ae_getaddrinfo_callback`. -/
def pushIps (uvInetNtop : InetNtop) (order : ByteOrder) :
    List Addrinfo → Option (List UInt8) → List (List UInt8) → Except Fault (List (List UInt8))
  | [], _, ips => .ok ips
  | ptr :: next, ip, ips =>
    if ptr.aiAddrlen = 0 then pushIps uvInetNtop order next ip ips
    else
      match nameOf uvInetNtop order ptr.aiAddr ip with
      | none => pushIps uvInetNtop order next ip ips
      | some (_, ip) => do
        let str ← rbStrNew2 ip
        pushIps uvInetNtop order next ip (ips ++ [str])

def aeGetaddrinfoCallback (uvInetNtop : InetNtop) (order : ByteOrder) (w : World) (procId : Nat) :
    Except RubyError (List Addrinfo) → Except Fault (World × Option Callback)
  | .error error => .ok (Procs.uvGetaddrinfoCallback w procId (.error error))
  | .ok res => do
    let ips ← pushIps uvInetNtop order res none []
    pure (Procs.uvGetaddrinfoCallback w procId (.ok ips))

structure InterfaceAddress where
  name : List UInt8
  isInternal : Bool
  address : SockaddrStorage

/-- An `AE::Utils::NetworkInterface`; an attribute that is not set is nil. -/
structure NetworkInterface where
  name : List UInt8
  isInternal : Bool
  ipType : Option IpType
  ip : Option (List UInt8)

/-- The loop of `AsyncEngineUtils_get_network_interfaces`. -/
def storeInterfaces (uvInetNtop : InetNtop) (order : ByteOrder) :
    List InterfaceAddress → Option (List UInt8) → List NetworkInterface →
      Except Fault (List NetworkInterface)
  | [], _, resultArray => .ok resultArray
  | interface :: interfaces, ip, resultArray =>
    match nameOf uvInetNtop order interface.address ip with
    | none => storeInterfaces uvInetNtop order interfaces ip
        (resultArray ++ [⟨interface.name, interface.isInternal, none, none⟩])
    | some (ipType, ip) => do
      let str ← rbStrNew2 ip
      storeInterfaces uvInetNtop order interfaces ip
        (resultArray ++ [⟨interface.name, interface.isInternal, some ipType, some str⟩])

/-- `AsyncEngineUtils_get_network_interfaces`, for what `uv_interface_addresses` answers. -/
def getNetworkInterfaces (uvInetNtop : InetNtop) (order : ByteOrder) :
    Except Int (List InterfaceAddress) → Except Fault (Check (List NetworkInterface))
  | .error code => .ok (rbRaise (.uv code))
  | .ok interfaces => pure <$> storeInterfaces uvInetNtop order interfaces none []

/-- The type that goes with the family of an address. -/
def typeOf (addr : SockaddrStorage) (order : ByteOrder) : Option IpType :=
  if saFamily addr order = afInet then some .ipv4
  else if saFamily addr order = afInet6 then some .ipv6
  else none

/-- The text has the type of the address, reading it gives the address back, and the constructors
of the sockets take it with any port. -/
structure Usable (aeInetPton : InetPton) (addr : SockaddrStorage) (ipType : IpType)
    (ip : List UInt8) : Prop where
  symbol : asyncEngineIpUtilsIpType (.string ip) = .value (ipTypeSymbol ipType)
  bytes : parsed aeInetPton ip ipType = some (addressBytes addr ipType)
  connects {port : Int} : 0 ≤ port → port ≤ 65535 →
    Tcp.newArgs .running ⟨[.string ip, .fixnum port], none⟩ = .ok ⟨ip, port, none, 0, ipType⟩
  binds {port : Int} : 0 ≤ port → port ≤ 65535 →
    Udp.newArgs .running ⟨[.string ip, .fixnum port], none⟩ = .ok ⟨ip, port, ipType⟩

/-- The entry has an address, of one of the two families. -/
def Named (order : ByteOrder) (ptr : Addrinfo) : Bool :=
  ptr.aiAddrlen ≠ 0 && (typeOf ptr.aiAddr order).isSome

/-- The IP is the one of the entry. -/
def Resolves (aeInetPton : InetPton) (order : ByteOrder) (ptr : Addrinfo) (ip : List UInt8) :
    Prop :=
  ∃ ipType, typeOf ptr.aiAddr order = some ipType ∧ Usable aeInetPton ptr.aiAddr ipType ip

/-- The object describes the interface; without an address of the two families it has no IP. -/
structure Describes (aeInetPton : InetPton) (order : ByteOrder) (interface : InterfaceAddress)
    (result : NetworkInterface) : Prop where
  name : result.name = interface.name
  isInternal : result.isInternal = interface.isInternal
  ipType : result.ipType = typeOf interface.address order
  ip : result.ip.isSome = (typeOf interface.address order).isSome
  usable {t : IpType} {ip : List UInt8} : result.ipType = some t → result.ip = some ip →
    Usable aeInetPton interface.address t ip

section Texts

variable {uvInetNtop : InetNtop} {aeInetPton : InetPton} {addr : SockaddrStorage}
  {order : ByteOrder} {ipType : IpType} {ip : List UInt8}

private theorem usable_of_text (short : ip.length ≤ 47) (noNul : ∀ b ∈ ip, b ≠ 0)
    (isIp : ipType ≠ .noIp) (classified : aeIpParserExecute ip ip.length = ipType)
    (bytes : parsed aeInetPton ip ipType = some (addressBytes addr ipType)) :
    Usable aeInetPton addr ipType ip := by
  have type : ipTypeOf ip = ipType := by
    rw [ipTypeOf, toInt_of_int (short.trans (by omega)), classified]
  have plain : stringValueCStr ip = .ok ip := if_neg fun inside => noNul 0 inside rfl
  refine ⟨?_, bytes, ?_, ?_⟩
  · rw [asyncEngineIpUtilsIpType, type]
  · intro port least most
    have number := port_ok "destination port must be a Fixnum" "invalid destination port value"
      least most
    unfold Tcp.newArgs
    dsimp only [getString, List.getElem?_cons_zero, List.getElem?_cons_succ, List.getElem?_nil]
    rw [number]
    show (do
      let destIp ← stringValueCStr ip
      _) = _
    rw [plain, ok_bind, ok_bind]
    have unbound : Tcp.bindIpOf none = .ok none := rfl
    have zero : (pure 0 : Check Int) = .ok 0 := rfl
    rw [unbound, ok_bind, if_neg (by simp), zero, ok_bind, type, if_neg isIp]
    rfl
  · intro port least most
    have number := port_ok "bind port must be a Fixnum" "invalid bind port value" least most
    unfold Udp.newArgs
    dsimp only [getString, List.getElem?_cons_zero, List.getElem?_cons_succ]
    rw [number]
    show (do
      let bindIp ← stringValueCStr ip
      _) = _
    rw [plain, ok_bind, ok_bind]
    rw [type, if_neg isIp]
    rfl

/-- A name is written whatever was in the buffer before. -/
private theorem nameOf_usable (prints : Prints uvInetNtop) (converts : Converts aeInetPton)
    (family : typeOf addr order = some ipType) (before : Option (List UInt8)) :
    ∃ ip, nameOf uvInetNtop order addr before = some (ipType, some ip) ∧
      rbStrNew2 (some ip) = .ok ip ∧ Usable aeInetPton addr ipType ip := by
  have whole {ip : List UInt8} (noNul : ∀ b ∈ ip, b ≠ 0) : rbStrNew2 (some ip) = .ok ip := by
    rw [rbStrNew2, List.takeWhile_eq_self_iff.mpr (by simpa using noNul)]
  unfold typeOf at family
  unfold nameOf
  split at family
  · rename_i inet
    obtain rfl := Option.some.inj family
    have dotted := dotted_dottedText (sinAddr addr)
    rw [← prints.inet] at dotted
    have member := (mem_ipv4Address_iff _).mpr ⟨_, dotted⟩
    obtain ⟨noNul, -, short⟩ := within_ipv4Address _ member
    refine ⟨uvInetNtop.inet (sinAddr addr), ?_, whole noNul, ?_⟩
    · rw [if_pos inet, uvIpName, if_pos (by omega)]
    · refine usable_of_text (by omega) noNul (by decide) ?_ ?_
      · exact (execute_eq_iff _ .ipv4 (by decide)).mpr (.inl member)
      · rw [parsed, (converts.inet _ _).mpr dotted]
        rfl
  · rename_i other
    split at family
    · rename_i inet6
      obtain rfl := Option.some.inj family
      have denotes := denotes_printed (prints.inet6 (sin6Addr addr))
      have member := (mem_ipv6Address_iff _).mpr ⟨_, denotes⟩
      obtain ⟨noNul, -, short⟩ := within_ipv6Address _ member
      refine ⟨uvInetNtop.inet6 (sin6Addr addr), ?_, whole noNul, ?_⟩
      · rw [if_neg other, if_pos inet6, uvIpName, if_pos (by omega)]
      · refine usable_of_text (by omega) noNul (by decide) ?_ ?_
        · exact (execute_eq_iff _ .ipv6 (by decide)).mpr (.inl member)
        · rw [parsed, (converts.inet6 _ _).mpr denotes]
          rfl
    · cases family

private theorem nameOf_other (family : typeOf addr order = none) (before : Option (List UInt8)) :
    nameOf uvInetNtop order addr before = none := by
  unfold typeOf at family
  unfold nameOf
  split at family
  · cases family
  · rename_i other
    split at family
    · cases family
    · rename_i other6
      rw [if_neg other, if_neg other6]

end Texts

section Loops

variable {uvInetNtop : InetNtop} {aeInetPton : InetPton}

private theorem pushIps_adds (prints : Prints uvInetNtop) (converts : Converts aeInetPton)
    (order : ByteOrder) (res : List Addrinfo) (ip : Option (List UInt8)) (ips : List (List UInt8)) :
    ∃ added, pushIps uvInetNtop order res ip ips = .ok (ips ++ added) ∧
      List.Forall₂ (Resolves aeInetPton order) (res.filter (Named order)) added := by
  induction res generalizing ip ips with
  | nil => exact ⟨[], by rw [pushIps, List.append_nil], .nil⟩
  | cons ptr next ih =>
    unfold pushIps
    by_cases empty : ptr.aiAddrlen = 0
    · have unnamed : Named order ptr = false := by simp [Named, empty]
      rw [if_pos empty, List.filter_cons_of_neg (by simp [unnamed])]
      exact ih ip ips
    · rw [if_neg empty]
      cases family : typeOf ptr.aiAddr order with
      | none =>
        have unnamed : Named order ptr = false := by simp [Named, family]
        rw [nameOf_other family, List.filter_cons_of_neg (by simp [unnamed])]
        exact ih ip ips
      | some ipType =>
        have named : Named order ptr = true := by simp [Named, empty, family]
        obtain ⟨str, name, whole, usable⟩ := nameOf_usable prints converts family ip
        obtain ⟨added, pushes, resolved⟩ := ih (some str) (ips ++ [str])
        refine ⟨str :: added, ?_, ?_⟩
        · rw [name]
          show (rbStrNew2 (some str) >>= fun str' =>
            pushIps uvInetNtop order next (some str) (ips ++ [str'])) = _
          rw [whole]
          show pushIps uvInetNtop order next (some str) (ips ++ [str]) = _
          rw [pushes, List.append_assoc]
          rfl
        · rw [List.filter_cons_of_pos named]
          exact .cons ⟨ipType, family, usable⟩ resolved

private theorem storeInterfaces_adds (prints : Prints uvInetNtop) (converts : Converts aeInetPton)
    (order : ByteOrder) (interfaces : List InterfaceAddress) (ip : Option (List UInt8))
    (resultArray : List NetworkInterface) :
    ∃ added, storeInterfaces uvInetNtop order interfaces ip resultArray =
        .ok (resultArray ++ added) ∧
      List.Forall₂ (Describes aeInetPton order) interfaces added := by
  induction interfaces generalizing ip resultArray with
  | nil => exact ⟨[], by rw [storeInterfaces, List.append_nil], .nil⟩
  | cons interface interfaces ih =>
    unfold storeInterfaces
    cases family : typeOf interface.address order with
    | none =>
      obtain ⟨added, stores, described⟩ :=
        ih ip (resultArray ++ [⟨interface.name, interface.isInternal, none, none⟩])
      refine ⟨⟨interface.name, interface.isInternal, none, none⟩ :: added, ?_, ?_⟩
      · rw [nameOf_other family]
        dsimp only
        rw [stores, List.append_assoc]
        rfl
      · refine .cons ⟨rfl, rfl, family.symm, ?_, ?_⟩ described
        · rw [family]
          rfl
        · intro t ip type
          cases type
    | some ipType =>
      obtain ⟨str, name, whole, usable⟩ := nameOf_usable prints converts family ip
      obtain ⟨added, stores, described⟩ := ih (some str)
        (resultArray ++ [⟨interface.name, interface.isInternal, some ipType, some str⟩])
      refine ⟨⟨interface.name, interface.isInternal, some ipType, some str⟩ :: added, ?_, ?_⟩
      · rw [name]
        show (rbStrNew2 (some str) >>= fun str' => storeInterfaces uvInetNtop order interfaces
          (some str) (resultArray ++
            [⟨interface.name, interface.isInternal, some ipType, some str'⟩])) = _
        rw [whole]
        show storeInterfaces uvInetNtop order interfaces (some str) (resultArray ++
          [⟨interface.name, interface.isInternal, some ipType, some str⟩]) = _
        rw [stores, List.append_assoc]
        rfl
      · refine .cons ⟨rfl, rfl, family.symm, ?_, ?_⟩ described
        · rw [family]
          rfl
        · intro t ip type same
          obtain rfl := Option.some.inj type
          obtain rfl := Option.some.inj same
          exact usable

end Loops

/-- For every list of `getaddrinfo`, the block of `AE::DNS.resolve` is given the IPs of its entries
in their order, none of them read uninitialised or left over from another entry; and each of them
can be given to the constructors of the sockets. -/
theorem resolve_gives_ips (uvInetNtop : InetNtop) (prints : Prints uvInetNtop)
    (aeInetPton : InetPton) (converts : Converts aeInetPton) (order : ByteOrder) (w : World)
    (procId : Nat) (res : List Addrinfo) :
    ∃ ips, aeGetaddrinfoCallback uvInetNtop order w procId (.ok res) =
        .ok (Procs.uvGetaddrinfoCallback w procId (.ok ips)) ∧
      List.Forall₂ (Resolves aeInetPton order) (res.filter (Named order)) ips := by
  obtain ⟨ips, pushes, resolved⟩ := pushIps_adds prints converts order res none []
  refine ⟨ips, ?_, resolved⟩
  unfold aeGetaddrinfoCallback
  dsimp only
  rw [pushes]
  rfl

/-- `127.0.0.1` and `::1`, on a little-endian machine. -/
private def loopback : SockaddrStorage :=
  ⟨[2, 0, 0, 0, 127, 0, 0, 1] ++ List.replicate 120 0, by simp⟩

private def loopback6 : SockaddrStorage :=
  ⟨[10, 0] ++ List.replicate 21 0 ++ [1] ++ List.replicate 104 0, by simp⟩

/-- The second of three entries has no address. -/
theorem resolve_gives_ips_loopback :
    let res : List Addrinfo := [⟨16, loopback⟩, ⟨0, loopback⟩, ⟨28, loopback6⟩]
    ∃ ips, aeGetaddrinfoCallback binaryToText .little {} 1 (.ok res) =
        .ok (Procs.uvGetaddrinfoCallback {} 1 (.ok ips)) ∧ ips.length = 2 ∧
      List.Forall₂ (Resolves textToBinary .little) (res.filter (Named .little)) ips := by
  intro res
  obtain ⟨ips, gives, resolved⟩ := resolve_gives_ips binaryToText binaryToText_prints textToBinary
    textToBinary_converts .little {} 1 res
  have two : (res.filter (Named .little)).length = 2 := by decide
  exact ⟨ips, gives, resolved.length_eq.symm.trans two, resolved⟩

/-- For every list of interfaces there is one object for each, in their order, that describes it. -/
theorem interfaces_described (uvInetNtop : InetNtop) (prints : Prints uvInetNtop)
    (aeInetPton : InetPton) (converts : Converts aeInetPton) (order : ByteOrder)
    (interfaces : List InterfaceAddress) :
    ∃ resultArray, getNetworkInterfaces uvInetNtop order (.ok interfaces) =
        .ok (.ok resultArray) ∧
      List.Forall₂ (Describes aeInetPton order) interfaces resultArray := by
  obtain ⟨resultArray, stores, described⟩ :=
    storeInterfaces_adds prints converts order interfaces none []
  refine ⟨resultArray, ?_, described⟩
  unfold getNetworkInterfaces
  dsimp only
  rw [stores]
  rfl

/-- An interface with an IPv6 address, and one with an address of another family. -/
theorem interfaces_described_loopback :
    let interfaces : List InterfaceAddress := [⟨[108, 111], true, loopback6⟩,
      ⟨[119, 108], false, ⟨[17, 0] ++ List.replicate 126 0, by simp⟩⟩]
    ∃ resultArray, getNetworkInterfaces binaryToText .little (.ok interfaces) =
        .ok (.ok resultArray) ∧ resultArray.length = 2 ∧
      List.Forall₂ (Describes textToBinary .little) interfaces resultArray := by
  intro interfaces
  obtain ⟨resultArray, gives, described⟩ := interfaces_described binaryToText binaryToText_prints
    textToBinary textToBinary_converts .little interfaces
  exact ⟨resultArray, gives, described.length_eq.symm, described⟩

end AsyncEngine.Engine.Resolution
