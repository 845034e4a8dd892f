import Hybridnet.Route.Rules

/-!
# Routing a pod subnet

`ensureFromPodSubnetRuleAndRoutes` gives a pod subnet its own route table and a policy
rule from the subnet to it. It reuses the table of the first rule from the subnet's
prefix, whatever table that rule points at, or takes the first empty table of the pool
`[MinRouteTableNum, MaxRouteTableNum)`. It then fills the table by the subnet's mode,
and adds the rule last, only when there was none.

Every loop of the source is a `List.forM` over the list it ranges over; a Go map is the
list of its entries in the order the loop visits them, so that what is proved holds for
every order.
-/

namespace Hybridnet

/-- `MinRouteTableNum`. -/
def minRouteTableNum : Int := 10000

/-- `MaxRouteTableNum`. -/
def maxRouteTableNum : Int := 40000

/-- `unix.RT_TABLE_MAIN`, the table `netlink.RouteList` and a filter without a table
read. -/
def mainTable : Int := 254

/-- `fromRuleMark`. -/
def fromRuleMark : Int := 0

/-- `networkingv1.NetworkMode`: the four modes, and any other value. -/
inductive NetworkMode where
  | vxlan
  | vlan
  | bgp
  | globalBGP
  | other (name : String)
  deriving DecidableEq, Repr

/-- `defaultRouteDstByFamily(family)`: `0.0.0.0/0` or `::/0`. -/
def defaultRouteDstByFamily (_ : Family) : IPNet := zeroPrefix

/-- `daemonutils.IsDefaultRoute(route, family)`: a nil destination, or the zero prefix. -/
def isDefaultRoute (route : Route) (_ : Family) : Bool :=
  route.dst = none || route.dst = some zeroPrefix

/-- `isExcludeRoute(route)`: a throw route. -/
def isExcludeRoute (route : Route) : Bool := route.type = .throw

/-! ## Tables -/

/-- `checkIfRouteTableEmpty(tableNum, family)`. -/
def checkIfRouteTableEmpty (tableNum : Int) : NetM Bool := do
  let routeList ← wrap ("failed to list route for table " ++ toString tableNum ++ ": ")
    (routeListFiltered tableNum fun _ => true)
  pure routeList.isEmpty

/-- The loop of `findEmptyRouteTable` from table `i`, with `remaining` tables left. -/
def findEmptyRouteTable.loop (i : Int) : Nat → NetM Int
  | 0 => throw ("cannot find empty route table in range " ++ toString minRouteTableNum ++ "~" ++
      toString maxRouteTableNum)
  | remaining + 1 => do
      let empty ← wrap ("failed to check route table " ++ toString i ++ " empty: ")
        (checkIfRouteTableEmpty i)
      if empty then pure i else loop (i + 1) remaining

/-- `findEmptyRouteTable(family)`: the first empty table of the pool. -/
def findEmptyRouteTable : NetM Int :=
  findEmptyRouteTable.loop minRouteTableNum (maxRouteTableNum - minRouteTableNum).toNat

/-! ## Vxlan -/

/-- The loop of the branch without NAT: delete every listed route with a destination. -/
def deleteRoutesWithDst (table : Int) (routeList : List Route) : NetM Unit :=
  routeList.forM fun route => do
    if route.dst.isSome then
      wrap ("failed to delete overlay route " ++ toString route ++ " for table " ++
        toString table ++ ": ") (routeDel table route)

/-- The first loop of the branch with NAT: skip the throw routes and the routes to an
underlay subnet, and delete the others, the default route under the zero prefix. -/
def deleteUselessRoutes (table : Int) (family : Family) (underlaySubnetInfoMap : List IPNet)
    (routeList : List Route) : NetM Unit :=
  routeList.forM fun route => do
    if !isExcludeRoute route && !route.dst.any (· ∈ underlaySubnetInfoMap) then
      let route :=
        if route.dst.isNone then { route with dst := some (defaultRouteDstByFamily family) }
        else route
      wrap ("failed to delete overlay route " ++ toString route ++ " for table " ++
        toString table ++ ": ") (routeDel table route)

/-- The second loop of the branch with NAT: a route to every underlay subnet via the
forward link. -/
def replaceSubnetRoutes (forwardLink : Link) (table : Int) (underlaySubnetInfoMap : List IPNet) :
    NetM Unit :=
  underlaySubnetInfoMap.forM fun cidr => do
    let subnetRoute : Route := { dst := some cidr, linkIndex := forwardLink.index }
    wrap ("failed to set overlay route " ++ toString subnetRoute ++ " for table " ++
      toString table ++ ": ") (routeReplace table subnetRoute)

/-- The first loop of `ensureExcludedIPBlockRoutes`: delete the listed throw routes
whose destination is no excluded block. -/
def deleteStaleExcludedRoutes (table : Int) (excludeIPBlockMap : List IPNet)
    (excludedRouteList : List Route) : NetM Unit :=
  excludedRouteList.forM fun route => do
    if !route.dst.any (· ∈ excludeIPBlockMap) then
      wrap ("failed delete excluded route " ++ toString route ++ ": ") (routeDel table route)

/-- The second loop of `ensureExcludedIPBlockRoutes`: a throw route to every excluded
block. -/
def addExcludedRoutes (table : Int) (excludeIPBlockMap : List IPNet) : NetM Unit :=
  excludeIPBlockMap.forM fun cidr =>
    wrap ("failed to add excluded route for block " ++ toString cidr ++ ": ")
      (routeReplace table { dst := some cidr, type := .throw })

/-- `ensureExcludedIPBlockRoutes(excludeIPBlockMap, table, family)`. -/
def ensureExcludedIPBlockRoutes (excludeIPBlockMap : List IPNet) (table : Int) : NetM Unit := do
  let excludedRouteList ← wrap "failed to list excluded routes: "
    (routeListFiltered table fun route => route.type = .throw)
  deleteStaleExcludedRoutes table excludeIPBlockMap excludedRouteList
  addExcludedRoutes table excludeIPBlockMap

/-- `ensureRoutesForVxlanSubnet(forwardLink, cidr, table, autoNatOutgoing, family,
underlaySubnetInfoMap, underlayExcludeIPBlockMap)`, the underlay subnets given by their
prefixes, the keys of the map. -/
def ensureRoutesForVxlanSubnet (forwardLink : Link) (cidr : IPNet) (table : Int)
    (autoNatOutgoing : Bool) (family : Family) (underlaySubnetInfoMap : List IPNet)
    (underlayExcludeIPBlockMap : List IPNet) : NetM Unit := do
  let routeList ← wrap ("failed to list route for table " ++ toString table ++ ": ")
    (routeListFiltered table fun _ => true)
  if !autoNatOutgoing then
    let defaultRoute : Route :=
      { dst := some (defaultRouteDstByFamily family), linkIndex := forwardLink.index }
    wrap ("failed to add overlay subnet " ++ toString cidr ++ " default route " ++
      toString defaultRoute ++ ": ") (routeReplace table defaultRoute)
    deleteRoutesWithDst table routeList
  else
    deleteUselessRoutes table family underlaySubnetInfoMap routeList
    replaceSubnetRoutes forwardLink table underlaySubnetInfoMap
    wrap "failed to ensure exclude all ip block routes: "
      (ensureExcludedIPBlockRoutes underlayExcludeIPBlockMap table)

/-! ## Vlan and BGP -/

/-- `daemonutils.GetDefaultRoute(family)`: the first default route of the main table;
`none` is `NotExist`. -/
def getDefaultRoute (family : Family) : NetM (Option Route) := do
  let routes ← routeListFiltered mainTable fun _ => true
  pure (routes.find? fun route => isDefaultRoute route family)

/-- Text of an optional address, as `%v` prints a `net.IP`. -/
def showIP : Option Int → String
  | some ip => toString ip
  | none => "<nil>"

/-- `subnetDirectRoute`: a link-scope route to the subnet via the forward link, with the
source address `src`. -/
def directRoute (forwardLink : Link) (cidr : IPNet) (src : Option Int) : Route :=
  { dst := some cidr, linkIndex := forwardLink.index, src, scope := .link }

/-- The block of `ensureRoutesForVlanSubnet` for a subnet with an address of the host: the
main table's default route must not leave by the forward link through another gateway,
and the forward link must have a direct route to the subnet, whose source address the
subnet's direct route takes. -/
def localSubnetDirectRouteSrc (forwardLink : Link) (cidr : IPNet) (gateway : Option Int)
    (family : Family) : NetM (Option Int) := do
  let defaultRoute ← wrap "failed to get default route: " (getDefaultRoute family)
  if defaultRoute.any fun route =>
      route.linkIndex = forwardLink.index && route.gw.isSome && route.gw != gateway then
    throw ("exist default route of forward interface " ++ forwardLink.name ++
      " has a different gateway " ++ showIP (defaultRoute.bind (·.gw)) ++ " with " ++
      showIP gateway)
  else
    let directRouteList ← wrap ("failed to list direct route for interface " ++
        forwardLink.name ++ " and subnet " ++ toString cidr ++ ": ")
      (routeListFiltered mainTable fun route =>
        route.linkIndex = forwardLink.index && route.dst = some cidr)
    match directRouteList with
    | [] => throw ("forward interface " ++ forwardLink.name ++
        " should have direct route for local subnet " ++ toString cidr)
    | direct :: _ => pure direct.src

/-- `ensureRoutesForVlanSubnet(forwardLink, cidr, gateway, table, family)`. -/
def ensureRoutesForVlanSubnet (forwardLink : Link) (cidr : IPNet) (gateway : Option Int)
    (table : Int) (family : Family) : NetM Unit := do
  let localAddrList ← wrap "failed to list local addresses: " addrList
  if !gateway.any (cidr.contains family) then
    throw ("vlan gateway address " ++ showIP gateway ++ " is not inside the vlan subnet cidr " ++
      toString cidr)
  else
    let isLocalSubnet := localAddrList.any fun address =>
      cidr.contains family address.ip && !address.noPrefixRoute
    let src ← (if isLocalSubnet then localSubnetDirectRouteSrc forwardLink cidr gateway family
      else pure none)
    let subnetDirectRoute := directRoute forwardLink cidr src
    let defaultRoute : Route := { dst := none, linkIndex := forwardLink.index, gw := gateway }
    wrap ("failed to add vlan subent " ++ toString cidr ++ " direct route " ++
      toString subnetDirectRoute ++ ": ") (routeReplace table subnetDirectRoute)
    wrap ("failed to add vlan subnet " ++ toString cidr ++ " default route " ++
      toString defaultRoute ++ ": ") (routeReplace table defaultRoute)

/-- `ensureRoutesForBGPSubnet(forwardLink, cidr, table, gateway)`. -/
def ensureRoutesForBGPSubnet (forwardLink : Link) (cidr : IPNet) (table : Int)
    (gateway : Option Int) : NetM Unit := do
  let defaultRoute : Route := { dst := none, linkIndex := forwardLink.index, gw := gateway }
  wrap ("failed to add bgp subnet " ++ toString cidr ++ " default route " ++
    toString defaultRoute ++ ": ") (routeReplace table defaultRoute)

/-! ## The subnet -/

/-- The routes of the subnet's table by its mode, the switch of
`ensureFromPodSubnetRuleAndRoutes`. -/
def ensureRoutesForMode (forwardLink : Link) (cidr : IPNet) (gateway : Option Int)
    (autoNatOutgoing : Bool) (family : Family) (underlaySubnetInfoMap : List IPNet)
    (underlayExcludeIPBlockMap : List IPNet) (mode : NetworkMode) (table : Int) : NetM Unit :=
  match mode with
  | .vxlan =>
      wrap ("failed to ensure routes for vxlan subnet " ++ toString cidr ++ ": ")
        (ensureRoutesForVxlanSubnet forwardLink cidr table autoNatOutgoing family
          underlaySubnetInfoMap underlayExcludeIPBlockMap)
  | .vlan =>
      wrap ("failed to ensure routes for vlan subnet " ++ toString cidr ++ ": ")
        (ensureRoutesForVlanSubnet forwardLink cidr gateway table family)
  | .bgp | .globalBGP =>
      wrap ("failed to ensure routes for bgp subnet " ++ toString cidr ++ ": ")
        (ensureRoutesForBGPSubnet forwardLink cidr table gateway)
  | .other name => throw ("unsupported network mode " ++ name)

/-- The part of `ensureFromPodSubnetRuleAndRoutes` after the table is chosen: the routes of
the table by the subnet's mode, then the rule, last, when `existRule` is none. -/
def ensureTableRoutesAndRule (fromRuleMask : Int) (forwardNodeIfName : String) (cidr : IPNet)
    (gateway : Option Int) (autoNatOutgoing : Bool) (family : Family)
    (underlaySubnetInfoMap : List IPNet) (underlayExcludeIPBlockMap : List IPNet)
    (mode : NetworkMode) (existRule : Option Rule) (table : Int) : NetM Unit := do
  let forwardLink ← wrap ("failed to get forward link " ++ forwardNodeIfName ++ ": ")
    (linkByName forwardNodeIfName)
  ensureRoutesForMode forwardLink cidr gateway autoNatOutgoing family underlaySubnetInfoMap
    underlayExcludeIPBlockMap mode table
  if existRule.isNone then
    wrap ("failed to append from subnet rule for cidr " ++ toString cidr ++ ": ")
      (appendHighestUnusedPriorityRuleIfNotExist cidr table fromRuleMark fromRuleMask)

/-- `ensureFromPodSubnetRuleAndRoutes(forwardNodeIfName, cidr, gateway, autoNatOutgoing,
family, underlaySubnetInfoMap, underlayExcludeIPBlockMap, mode)`. Modelled from the spec:
`fromRuleMask` is the sum of two marks of `pkg/daemon/iptables`, which is not in `src/`,
so it is a parameter. -/
def ensureFromPodSubnetRuleAndRoutes (fromRuleMask : Int) (forwardNodeIfName : String)
    (cidr : IPNet) (gateway : Option Int) (autoNatOutgoing : Bool) (family : Family)
    (underlaySubnetInfoMap : List IPNet) (underlayExcludeIPBlockMap : List IPNet)
    (mode : NetworkMode) : NetM Unit := do
  let existRule ← wrap ("failed to check rule (src: " ++ toString cidr ++ ", table: 0) exist: ")
    (checkIfRuleExist cidr (-1))
  let table ← (match existRule with
    | some rule => pure rule.table
    | none => wrap "failed to find empty route table: " findEmptyRouteTable)
  ensureTableRoutesAndRule fromRuleMask forwardNodeIfName cidr gateway autoNatOutgoing family
    underlaySubnetInfoMap underlayExcludeIPBlockMap mode existRule table

end Hybridnet
