import Hybridnet.Net.Address
import Hybridnet.Go.Map

/-!
# Enhanced addresses

The address manager keeps, on a forward interface, an address of every subnet whose pods
it serves there, so that ARP requests into the subnet have a sender address inside it.
Such an enhanced address carries link scope and no prefix route, so that the kernel never
picks it as a source address. `TryAddPodInfo` records for an interface and a subnet the
first pod address offered since `ResetInfos`; `SyncAddresses` deletes the enhanced
addresses no record asks for, and adds those the records ask for unless a manual address
of the subnet, or an enhanced one the lookup places on this node, is already there.

`SyncAddresses` reads the enhanced addresses of a link into a map keyed by subnet: of two
enhanced addresses of one subnet on one link, only the last listed is seen, deleted or
superseded. A new enhanced address goes on the link with `AddrAdd`, which the kernel refuses
for an address the link already has.
-/

namespace Hybridnet

/-- `unix.RT_SCOPE_UNIVERSE` and `unix.RT_SCOPE_LINK`. -/
inductive AddrScope where
  | universe
  | link
  deriving DecidableEq, Repr

/-- A `netlink.Addr` as `AddrList` lists it for a link: the address, the length of its
mask, its scope, and whether it carries `IFA_F_NOPREFIXROUTE`. -/
structure LinkAddr where
  ip : Int
  ones : Nat
  scope : AddrScope
  noPrefixRoute : Bool
  deriving DecidableEq, Repr

instance : ToString LinkAddr := ⟨fun addr => toString addr.ip ++ "/" ++ toString addr.ones⟩

/-- A link and its addresses of the family, as `LinkList` and `AddrList` report them. -/
structure AddrLink where
  name : String
  addrs : List LinkAddr
  deriving DecidableEq, Repr

/-- `ip.Network(addr.IPNet)`: the subnet of an address. -/
def LinkAddr.subnet (family : Family) (addr : LinkAddr) : IPNet :=
  ⟨maskIP family.bits addr.ones addr.ip, addr.ones⟩

/-- `checkIfEnhancedAddr(link, addr, family)`. Modelled from the spec: the function is not in
`src/`; an enhanced address is one with link scope and no prefix route. -/
def checkIfEnhancedAddr (addr : LinkAddr) : Bool :=
  addr.scope = .link && addr.noPrefixRoute

/-! ## The manager -/

/-- `Manager`: the family, the node's name, and for every interface the first pod address
offered for each subnet, keyed by the subnet. -/
structure AddrManager where
  family : Family
  localNodeName : String
  interfaceToSubnetMap : List (String × List (IPNet × Int))

/-- `CreateAddrManager(family, nodeName)`. -/
def createAddrManager (family : Family) (nodeName : String) : AddrManager :=
  ⟨family, nodeName, []⟩

namespace AddrManager

/-- `ResetInfos()`. -/
def resetInfos (m : AddrManager) : AddrManager := { m with interfaceToSubnetMap := [] }

/-- `TryAddPodInfo(forwardNodeIfName, subnet, podIP)`: the first pod address of a subnet
on an interface is kept. -/
def tryAddPodInfo (m : AddrManager) (forwardNodeIfName : String) (subnet : IPNet) (podIP : Int) :
    AddrManager :=
  let subnetMap := (GoMap.get? m.interfaceToSubnetMap forwardNodeIfName).getD []
  let subnetMap := match GoMap.get? subnetMap subnet with
    | some _ => subnetMap
    | none => GoMap.set subnetMap subnet podIP
  { m with interfaceToSubnetMap := GoMap.set m.interfaceToSubnetMap forwardNodeIfName subnetMap }

end AddrManager

/-! ## The calls on the links -/

/-- A computation on the links of the host: its result or error, and the links it leaves;
an error keeps what was changed before it. -/
def AddrM (α : Type) : Type := ExceptT String (StateM (List AddrLink)) α

instance : Monad AddrM := inferInstanceAs (Monad (ExceptT String (StateM (List AddrLink))))

instance : MonadExceptOf String AddrM :=
  inferInstanceAs (MonadExceptOf String (ExceptT String (StateM (List AddrLink))))

instance : MonadStateOf (List AddrLink) AddrM :=
  inferInstanceAs (MonadStateOf (List AddrLink) (ExceptT String (StateM (List AddrLink))))

/-- `fmt.Errorf(context + "%v", err)`. -/
def AddrM.wrap {α : Type} (context : String) (x : AddrM α) : AddrM α :=
  tryCatch x fun e => throw (context ++ e)

/-- `netlink.LinkList()`. -/
def linkList : AddrM (List AddrLink) := get

/-- `netlink.LinkByName(name)`. -/
def addrLinkByName (name : String) : AddrM AddrLink := do
  match (← get).find? (·.name = name) with
  | some link => pure link
  | none => throw "Link not found"

/-- The links once the kernel has deleted `addr` from the link `linkName`. -/
def eraseLinkAddr (linkName : String) (addr : LinkAddr) (links : List AddrLink) :
    List AddrLink :=
  links.map fun l => if l.name = linkName then { l with addrs := l.addrs.erase addr } else l

/-- The links once the kernel has added `addr` to the link `linkName`. -/
def addLinkAddr (linkName : String) (addr : LinkAddr) (links : List AddrLink) :
    List AddrLink :=
  links.map fun l => if l.name = linkName then { l with addrs := l.addrs ++ [addr] } else l

theorem mem_eraseLinkAddr {linkName : String} {addr : LinkAddr} {links : List AddrLink}
    {l' : AddrLink} (mem : l' ∈ eraseLinkAddr linkName addr links) :
    ∃ l ∈ links, l'.name = l.name ∧
      l'.addrs = if l.name = linkName then l.addrs.erase addr else l.addrs := by
  obtain ⟨l, member, rfl⟩ := List.mem_map.1 mem
  exact ⟨l, member, by split_ifs <;> rfl, by split_ifs <;> rfl⟩

theorem mem_addLinkAddr {linkName : String} {addr : LinkAddr} {links : List AddrLink}
    {l' : AddrLink} (mem : l' ∈ addLinkAddr linkName addr links) :
    ∃ l ∈ links, l'.name = l.name ∧
      l'.addrs = if l.name = linkName then l.addrs ++ [addr] else l.addrs := by
  obtain ⟨l, member, rfl⟩ := List.mem_map.1 mem
  exact ⟨l, member, by split_ifs <;> rfl, by split_ifs <;> rfl⟩

/-- `netlink.AddrDel(link, addr)`: the kernel refuses an address the link does not have. -/
def addrDel (linkName : String) (addr : LinkAddr) : AddrM Unit := do
  let link ← addrLinkByName linkName
  if addr ∈ link.addrs then
    modify (eraseLinkAddr linkName addr)
  else
    throw "cannot assign requested address"

/-- `netlink.AddrAdd(link, addr)`: the kernel refuses an address the link already has, with
the same address and mask (`EEXIST`). -/
def addrAdd (linkName : String) (addr : LinkAddr) : AddrM Unit := do
  let link ← addrLinkByName linkName
  if link.addrs.any (fun a => a.ip = addr.ip && a.ones = addr.ones) then
    throw "file exists"
  else
    modify (addLinkAddr linkName addr)

/-- `ensureSubnetEnhancedAddr(forwardNodeIf, enhancedAddr, outOfDateEnhancedAddr, family)`.
Modelled from the spec: the function is not in `src/`; it adds the new enhanced address
with `AddrAdd`, and then deletes the superseded one. -/
def ensureSubnetEnhancedAddr (forwardNodeIfName : String) (enhancedAddr : LinkAddr)
    (outOfDateEnhancedAddr : Option LinkAddr) : AddrM Unit := do
  addrAdd forwardNodeIfName enhancedAddr
  match outOfDateEnhancedAddr with
  | some outOfDate => addrDel forwardNodeIfName outOfDate
  | none => pure ()

/-! ## `SyncAddresses` -/

/-- `existEnhancedAddrMap` and `existManualAddrSubnetMap`, which the scan of the links fills:
the enhanced addresses of each link by subnet, and the subnets of its manual addresses. -/
structure ExistAddrs where
  existEnhancedAddrMap : List (String × List (IPNet × LinkAddr))
  existManualAddrSubnetMap : List (String × List (IPNet × Bool))

/-- The enhanced address the scan has recorded for a subnet on a link. -/
def ExistAddrs.enhancedAddr (exist : ExistAddrs) (linkName : String) (subnet : IPNet) :
    Option LinkAddr :=
  (GoMap.get? exist.existEnhancedAddrMap linkName).bind (GoMap.get? · subnet)

/-- One round of the loop over the addresses of a link: an enhanced address is recorded under
its subnet, in place of one recorded there before; a manual address marks its subnet. -/
def collectAddr (family : Family) (linkName : String) (exist : ExistAddrs) (addr : LinkAddr) :
    ExistAddrs :=
  if checkIfEnhancedAddr addr then
    { exist with
      existEnhancedAddrMap := GoMap.set exist.existEnhancedAddrMap linkName
        (GoMap.set ((GoMap.get? exist.existEnhancedAddrMap linkName).getD [])
          (addr.subnet family) addr) }
  else
    { exist with
      existManualAddrSubnetMap := GoMap.set exist.existManualAddrSubnetMap linkName
        (GoMap.set ((GoMap.get? exist.existManualAddrSubnetMap linkName).getD [])
          (addr.subnet family) true) }

/-- One round of the loop over the links: container links are skipped. -/
def collectLink (family : Family) (isContainerLink : String → Bool) (exist : ExistAddrs)
    (link : AddrLink) : ExistAddrs :=
  if isContainerLink link.name then exist
  else link.addrs.foldl (collectAddr family link.name) exist

/-- The loop over the links and their addresses. -/
def collectExistAddrs (family : Family) (isContainerLink : String → Bool)
    (linkList : List AddrLink) : ExistAddrs :=
  linkList.foldl (collectLink family isContainerLink) ⟨[], []⟩

/-- The loop that clears the enhanced addresses no record asks for: all those of a link
without records, and those of a subnet its records lack. -/
def clearEnhancedAddrs (interfaceToSubnetMap : List (String × List (IPNet × Int)))
    (existEnhancedAddrMap : List (String × List (IPNet × LinkAddr))) : AddrM Unit :=
  existEnhancedAddrMap.forM fun (existLinkName, existSubnetMap) =>
    match GoMap.get? interfaceToSubnetMap existLinkName with
    | none => existSubnetMap.forM fun (_, enhancedAddr) =>
        AddrM.wrap ("delete link enhanced addr " ++ toString enhancedAddr ++ " failed: ")
          (addrDel existLinkName enhancedAddr)
    | some targetSubnetMap => existSubnetMap.forM fun (subnet, enhancedAddr) =>
        if (GoMap.get? targetSubnetMap subnet).isNone then
          AddrM.wrap ("delete link subnet enhanced addr " ++ toString enhancedAddr ++ " failed: ")
            (addrDel existLinkName enhancedAddr)
        else pure ()

/-- The round of the last loop for one subnet of an interface: nothing when a manual
address of the subnet is there, or an enhanced one that is the pod address or that the
lookup places on this node; otherwise the pod address, in place of the enhanced one. -/
def ensureEnhancedAddr (localNodeName : String)
    (getIPInstanceByAddress : Int → Except String (Option String)) (forwardNodeIfName : String)
    (existEnhancedAddrs : Option (List (IPNet × LinkAddr)))
    (existManualAddrSubnets : Option (List (IPNet × Bool))) (subnet : IPNet) (podIP : Int) :
    AddrM Unit := do
  if (existManualAddrSubnets.bind (GoMap.get? · subnet)).isSome then return
  let mut outOfDateEnhancedAddr : Option LinkAddr := none
  if let some enhancedAddr := existEnhancedAddrs.bind (GoMap.get? · subnet) then
    if enhancedAddr.ip = podIP then return
    let ipInstance ← AddrM.wrap ("get ip instance by address " ++ toString enhancedAddr.ip ++
      " failed: ") (MonadExcept.ofExcept (getIPInstanceByAddress enhancedAddr.ip))
    if ipInstance = some localNodeName then return
    outOfDateEnhancedAddr := some enhancedAddr
  AddrM.wrap ("ensure subnet enhanced addr " ++ toString podIP ++ " failed: ")
    (ensureSubnetEnhancedAddr forwardNodeIfName
      { ip := podIP, ones := subnet.ones, scope := .link, noPrefixRoute := true }
      outOfDateEnhancedAddr)

/-- `SyncAddresses(getIPInstanceByAddress)`. The lookup gives the node label of the IP
instance of an address, `none` when there is none. Modelled from the spec: which links
are container links is decided in a package not in `src/`, given here as a predicate. -/
def AddrManager.syncAddresses (m : AddrManager) (isContainerLink : String → Bool)
    (getIPInstanceByAddress : Int → Except String (Option String)) : AddrM Unit := do
  let linkList ← linkList
  let exist := collectExistAddrs m.family isContainerLink linkList
  clearEnhancedAddrs m.interfaceToSubnetMap exist.existEnhancedAddrMap
  m.interfaceToSubnetMap.forM fun (forwardNodeIfName, targetSubnetMap) => do
    let _ ← AddrM.wrap ("find interface " ++ forwardNodeIfName ++ " failed: ")
      (addrLinkByName forwardNodeIfName)
    targetSubnetMap.forM fun (subnet, podIP) =>
      ensureEnhancedAddr m.localNodeName getIPInstanceByAddress forwardNodeIfName
        (GoMap.get? exist.existEnhancedAddrMap forwardNodeIfName)
        (GoMap.get? exist.existManualAddrSubnetMap forwardNodeIfName) subnet podIP

/-! ## Two enhanced addresses of one subnet -/

/-- A host whose link `eth0` carries two enhanced addresses of `10.0.0.0/24`, `10.0.0.5`
and `10.0.0.6`. -/
def twoEnhancedAddrLinks : List AddrLink :=
  [⟨"eth0", [⟨167772165, 24, .link, true⟩, ⟨167772166, 24, .link, true⟩]⟩]

/-- With no record since `ResetInfos`, `SyncAddresses` returns without error and leaves
`10.0.0.5` on `eth0`, an enhanced address of a subnet no record asks for. -/
theorem syncAddresses_keeps_enhanced_addr_of_untracked_link :
    ((createAddrManager .v4 "node1").resetInfos.syncAddresses (fun _ => false)
      (fun _ => .ok none)).run.run twoEnhancedAddrLinks =
      (.ok (), [⟨"eth0", [⟨167772165, 24, .link, true⟩]⟩]) ∧
    checkIfEnhancedAddr ⟨167772165, 24, .link, true⟩ = true :=
  ⟨rfl, rfl⟩

end Hybridnet
