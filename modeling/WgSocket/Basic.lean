import Mathlib.Data.BitVec

namespace wireguard

/-- `NTSTATUS`: the 32-bit status word that every kernel call and every entry
    point of the transport returns. -/
abbrev NTSTATUS := BitVec 32

/-- `NT_SUCCESS(Status)` is `(LONG)Status >= 0`. -/
def NT_SUCCESS (Status : NTSTATUS) : Bool := !Status.msb

def STATUS_SUCCESS : NTSTATUS := 0x00000000#32
def STATUS_ALREADY_COMPLETE : NTSTATUS := 0x000000B8#32
def STATUS_PENDING : NTSTATUS := 0x00000103#32
def STATUS_BUFFER_OVERFLOW : NTSTATUS := 0x80000005#32
def STATUS_UNSUCCESSFUL : NTSTATUS := 0xC0000001#32
def STATUS_INVALID_PARAMETER : NTSTATUS := 0xC000000D#32
def STATUS_INSUFFICIENT_RESOURCES : NTSTATUS := 0xC000009A#32
def STATUS_BAD_NETWORK_PATH : NTSTATUS := 0xC00000BE#32
def STATUS_INVALID_ADDRESS : NTSTATUS := 0xC0000141#32
def STATUS_ADDRESS_ALREADY_EXISTS : NTSTATUS := 0xC000020A#32
def STATUS_RETRY : NTSTATUS := 0xC000022D#32
def STATUS_NETWORK_UNREACHABLE : NTSTATUS := 0xC000023C#32

@[simp] theorem nt_success_STATUS_SUCCESS : NT_SUCCESS STATUS_SUCCESS = true := rfl
@[simp] theorem nt_success_STATUS_INSUFFICIENT_RESOURCES : NT_SUCCESS STATUS_INSUFFICIENT_RESOURCES = false := rfl

abbrev ADDRESS_FAMILY := BitVec 16

def AF_UNSPEC : ADDRESS_FAMILY := 0#16
def AF_INET : ADDRESS_FAMILY := 2#16
def AF_INET6 : ADDRESS_FAMILY := 23#16

def IPPROTO_IP : BitVec 32 := 0#32
def IPPROTO_UDP : BitVec 32 := 17#32
def IPPROTO_IPV6 : BitVec 32 := 41#32
def IP_PKTINFO : BitVec 32 := 19#32
def IPV6_PKTINFO : BitVec 32 := 19#32

/-- `Htonl` on the little-endian hosts the driver is built for: the four bytes
    of the word in reverse order. -/
def Htonl (x : BitVec 32) : BitVec 32 :=
  x.extractLsb' 0 8 ++ x.extractLsb' 8 8 ++ x.extractLsb' 16 8 ++ x.extractLsb' 24 8

def Htons (x : BitVec 16) : BitVec 16 := x.extractLsb' 0 8 ++ x.extractLsb' 8 8

def Ntohs (x : BitVec 16) : BitVec 16 := Htons x

/-- An `IN_ADDR`, as its `s_addr` word: the little-endian load of the four
    address bytes in network order. -/
abbrev IN_ADDR := BitVec 32

/-- An `IN6_ADDR`: sixteen bytes in network order, byte `j` at bits `8j` to
    `8j + 7`, so that its `UINT32` and `UINT64` views are little-endian loads. -/
abbrev IN6_ADDR := BitVec 128

structure SOCKADDR_IN where
  sin_family : ADDRESS_FAMILY
  sin_port : BitVec 16
  sin_addr : IN_ADDR
  sin_zero : BitVec 64
deriving DecidableEq, Repr

structure SOCKADDR_IN6 where
  sin6_family : ADDRESS_FAMILY
  sin6_port : BitVec 16
  sin6_flowinfo : BitVec 32
  sin6_addr : IN6_ADDR
  sin6_scope_id : BitVec 32
deriving DecidableEq, Repr

/-- `SOCKADDR_INET`, the union of `SOCKADDR_IN` and `SOCKADDR_IN6`, stored as the
    slots its two views share: `sin_addr` overlays `sin6_flowinfo` and
    `sin_zero` the first eight bytes of `sin6_addr`. -/
structure SOCKADDR_INET where
  si_family : ADDRESS_FAMILY
  port : BitVec 16
  addrOrFlow : BitVec 32
  addr6 : BitVec 128
  scopeId : BitVec 32
deriving DecidableEq, Repr

namespace SOCKADDR_INET

def zero : SOCKADDR_INET := ⟨0, 0, 0, 0, 0⟩

def Ipv4 (a : SOCKADDR_INET) : SOCKADDR_IN :=
  ⟨a.si_family, a.port, a.addrOrFlow, a.addr6.extractLsb' 0 64⟩

def Ipv6 (a : SOCKADDR_INET) : SOCKADDR_IN6 :=
  ⟨a.si_family, a.port, a.addrOrFlow, a.addr6, a.scopeId⟩

/-- The assignment `Addr.Ipv4 = v`: sixteen bytes, the scope id and the last
    eight bytes of `sin6_addr` untouched. -/
def setIpv4 (a : SOCKADDR_INET) (v : SOCKADDR_IN) : SOCKADDR_INET :=
  { a with si_family := v.sin_family, port := v.sin_port, addrOrFlow := v.sin_addr,
           addr6 := a.addr6.extractLsb' 64 64 ++ v.sin_zero }

def setIpv6 (_ : SOCKADDR_INET) (v : SOCKADDR_IN6) : SOCKADDR_INET :=
  ⟨v.sin6_family, v.sin6_port, v.sin6_flowinfo, v.sin6_addr, v.sin6_scope_id⟩

@[simp] theorem setIpv4_family (a : SOCKADDR_INET) (v : SOCKADDR_IN) :
    (a.setIpv4 v).si_family = v.sin_family := rfl

@[simp] theorem setIpv6_family (a : SOCKADDR_INET) (v : SOCKADDR_IN6) :
    (a.setIpv6 v).si_family = v.sin6_family := rfl

@[simp] theorem Ipv4_family (a : SOCKADDR_INET) : a.Ipv4.sin_family = a.si_family := rfl

/-- The `Ipv4` view reads back what the assignment `Addr.Ipv4 = v` wrote. -/
@[simp] theorem setIpv4_Ipv4 (a : SOCKADDR_INET) (v : SOCKADDR_IN) : (a.setIpv4 v).Ipv4 = v := by
  have h : (a.addr6.extractLsb' 64 64 ++ v.sin_zero).extractLsb' 0 64 = v.sin_zero := by
    apply BitVec.eq_of_getLsbD_eq; intro ⟨i, hi⟩
    simp only [BitVec.getLsbD_extractLsb', BitVec.getLsbD_append]
    simp [hi]
  simp only [setIpv4, Ipv4, h]

@[simp] theorem setIpv6_Ipv6 (a : SOCKADDR_INET) (v : SOCKADDR_IN6) : (a.setIpv6 v).Ipv6 = v := rfl

@[simp] theorem Ipv6_family (a : SOCKADDR_INET) : a.Ipv6.sin6_family = a.si_family := rfl

end SOCKADDR_INET

structure IN_PKTINFO where
  ipi_addr : IN_ADDR
  ipi_ifindex : BitVec 32
deriving DecidableEq, Repr

structure IN6_PKTINFO where
  ipi6_addr : IN6_ADDR
  ipi6_ifindex : BitVec 32
deriving DecidableEq, Repr

/-- The union of `Src4 : IN_PKTINFO` and `Src6 : IN6_PKTINFO`, as the slots the
    two views share: `ipi_addr` and `ipi_ifindex` overlay the first eight bytes
    of `ipi6_addr`. -/
structure PKTINFO where
  w0 : BitVec 32
  w1 : BitVec 32
  hi : BitVec 64
  w4 : BitVec 32
deriving DecidableEq, Repr

namespace PKTINFO

def zero : PKTINFO := ⟨0, 0, 0, 0⟩

def Src4 (p : PKTINFO) : IN_PKTINFO := ⟨p.w0, p.w1⟩

def Src6 (p : PKTINFO) : IN6_PKTINFO := ⟨p.hi ++ p.w1 ++ p.w0, p.w4⟩

def setSrc4 (p : PKTINFO) (v : IN_PKTINFO) : PKTINFO := { p with w0 := v.ipi_addr, w1 := v.ipi_ifindex }

def setSrc6 (_ : PKTINFO) (v : IN6_PKTINFO) : PKTINFO :=
  ⟨v.ipi6_addr.extractLsb' 0 32, v.ipi6_addr.extractLsb' 32 32, v.ipi6_addr.extractLsb' 64 64,
    v.ipi6_ifindex⟩

@[simp] theorem setSrc4_Src4 (p : PKTINFO) (v : IN_PKTINFO) : (p.setSrc4 v).Src4 = v := rfl

@[simp] theorem setSrc6_ifindex (p : PKTINFO) (v : IN6_PKTINFO) :
    (p.setSrc6 v).Src6.ipi6_ifindex = v.ipi6_ifindex := rfl

end PKTINFO

/-- `WSACMSGHDR` on the 64-bit targets: a `SIZE_T` length and two `INT`s. -/
structure WSACMSGHDR where
  cmsg_len : BitVec 64
  cmsg_level : BitVec 32
  cmsg_type : BitVec 32
deriving DecidableEq, Repr

def sizeof_WSACMSGHDR : BitVec 64 := 16#64
def sizeof_IN_PKTINFO : BitVec 64 := 8#64
def sizeof_IN6_PKTINFO : BitVec 64 := 20#64

/-- `WSA_CMSGHDR_ALIGN` and `WSA_CMSGDATA_ALIGN` both round up to eight bytes on
    the 64-bit targets. -/
def WSA_CMSGHDR_ALIGN (length : BitVec 64) : BitVec 64 := (length + 7#64) &&& ~~~7#64

def WSA_CMSGDATA_ALIGN (length : BitVec 64) : BitVec 64 := (length + 7#64) &&& ~~~7#64

def WSA_CMSG_LEN (length : BitVec 64) : BitVec 64 := WSA_CMSGDATA_ALIGN sizeof_WSACMSGHDR + length

/-- The control header that announces an `IN_PKTINFO`. -/
def cmsghdrV4 : WSACMSGHDR := ⟨WSA_CMSG_LEN sizeof_IN_PKTINFO, IPPROTO_IP, IP_PKTINFO⟩

/-- The control header that announces an `IN6_PKTINFO`. -/
def cmsghdrV6 : WSACMSGHDR := ⟨WSA_CMSG_LEN sizeof_IN6_PKTINFO, IPPROTO_IPV6, IPV6_PKTINFO⟩

/-- Modelled from the spec: `ENDPOINT`, whose declaration (driver/socket.h) is
    not in the sources. The remote address, the source pkt-info of either
    family (one union, of the larger IPv6 size), the pre-formatted ancillary
    header, the routing generation the source was resolved at, and the update
    generation bumped on every mutation. -/
structure ENDPOINT where
  Addr : SOCKADDR_INET
  Src : PKTINFO
  SrcCmsghdr : WSACMSGHDR
  RoutingGeneration : BitVec 32
  UpdateGeneration : BitVec 32
deriving DecidableEq, Repr

namespace ENDPOINT

/-- The endpoint after `RtlZeroMemory`. -/
def zero : ENDPOINT := ⟨SOCKADDR_INET.zero, PKTINFO.zero, ⟨0, 0, 0⟩, 0, 0⟩

def Src4 (e : ENDPOINT) : IN_PKTINFO := e.Src.Src4

def Src6 (e : ENDPOINT) : IN6_PKTINFO := e.Src.Src6

end ENDPOINT

end wireguard
