import WgSocket.Resolve.Scan

namespace wireguard

/-- What the routing calls answer one resolver attempt: the forwarding table
    for the family asked (with the interface answers for each entry), whether
    the interface-row buffer was allocated, and `GetBestRoute2`'s status and
    source for an interface index and a destination. -/
structure ResolveOracle where
  GetIpForwardTable2 : ADDRESS_FAMILY → NTSTATUS × List (MIB_IPFORWARD_ROW2 × InterfaceAnswers)
  MemAllocate : Bool
  GetBestRoute2 : BitVec 32 → SOCKADDR_INET → NTSTATUS × SOCKADDR_INET

/-- The buffers an attempt obtains and gives back. -/
inductive ResolveBuffer
  | ForwardTable
  | InterfaceRow
deriving DecidableEq, Repr

inductive ResolveEvent
  | acquire (b : ResolveBuffer)
  | release (b : ResolveBuffer)
deriving DecidableEq, Repr

/-- How the unlocked part of an attempt ends: returning a status without the
    lock, or going on to the exclusive section with `BestIndex` and `SrcAddr`. -/
inductive UnlockedEnd
  | ret (Status : NTSTATUS)
  | commit (BestIndex : BitVec 32) (SrcAddr : SOCKADDR_INET)

structure Unlocked where
  result : UnlockedEnd
  events : List ResolveEvent

/-- Lines 245-292 of `SocketResolvePeerEndpointSrc`, between releasing the
    shared lock and taking it exclusively: the forwarding-table query for the
    family read now, the scan, and the best-route query for the address read
    then. -/
def ResolveUnlocked (DeviceLuid : BitVec 64) (o : ResolveOracle) : Reads Unlocked :=
  .read fun Addr =>
    let (Status, Table) := o.GetIpForwardTable2 Addr.si_family
    if !NT_SUCCESS Status then .pure ⟨.ret Status, []⟩
    else if !o.MemAllocate then
      .pure ⟨.ret STATUS_INSUFFICIENT_RESOURCES, [.acquire .ForwardTable]⟩
    else (scanTable DeviceLuid Table ScanState.init).bind fun Best =>
      let freed : List ResolveEvent :=
        [.acquire .ForwardTable, .acquire .InterfaceRow, .release .InterfaceRow, .release .ForwardTable]
      if Table.length != 0 && Best.BestIndex != 0 then
        .read fun Addr' =>
          let (Status', SrcAddr) := o.GetBestRoute2 Best.BestIndex Addr'
          if !NT_SUCCESS Status' then .pure ⟨.ret Status', freed⟩
          else .pure ⟨.commit Best.BestIndex SrcAddr, freed⟩
      else .pure ⟨.commit Best.BestIndex SOCKADDR_INET.zero, freed⟩

end wireguard
