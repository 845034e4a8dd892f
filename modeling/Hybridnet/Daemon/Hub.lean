import Hybridnet.Remote.Mirror
import Hybridnet.Net.Address

/-!
# The daemon's reads of remote VTEPs and address ranges

`getRemoteVtepByEndpointAddress` finds the remote VTEP whose endpoint list holds an address.
When several do, it takes the first, in the order the cache lists them, whose cluster has a
remote subnet holding the address. The remote subnets are the mirrors that the remote
reconcilers write, and the create webhook checks each new one against the others. In a
cluster whose remote subnets are apart (`NoOverlap`), two lookups of one address that find a
VTEP find VTEPs of the same cluster, however the cache orders what it lists. When two
clusters mirror overlapping subnets, as creates that interleave with the webhook can leave
them, the listing order may pick the cluster.

`parseSubnetSpecRangeMeta`, of the same file, reads the strings of an address range. It parses
the whole range or fails, and an error names the CIDR or a text that does not parse.

`net.ParseCIDR` and `net.ParseIP` are the parameters `parseCIDR` and `parseIP`, which are
`none` where Go returns nil; `netlink.ParseIPNet` is `parseIPNet`, with its error; and
`networkingv1.Intersect` is the parameter `intersect`. Addresses print as integers here
(`toString`), where Go's `address.String()` prints the dotted form; the lookup only compares
the printed address with the strings of the VTEPs, which are printed the same way.
-/

namespace Hybridnet

/-! ## The remote VTEP of an endpoint address -/

/-- What `getRemoteVtepByEndpointAddress` ends with. It returns a VTEP, `nil` with no error,
or an error. It panics in `cidr.Contains` on the nil prefix that `net.ParseCIDR` returns for
a CIDR it cannot parse. -/
inductive VtepLookup
  | found (remoteVtep : RemoteVtep)
  | notFound
  | failed (err : String)
  | panicked
  deriving DecidableEq, Repr

/-- The one-address range that the lookup intersects a remote subnet's range with. -/
def pointRange (range : AddressRange) (address : Int) : AddressRange :=
  { cidr := range.cidr, start := toString address, «end» := toString address }

section Lookup

variable (family : Family) (parseCIDR : String → Option IPNet)
  (intersect : AddressRange → AddressRange → Bool)

/-- The loop over the remote subnets of one cluster. It gives `some true` at the first whose
CIDR contains the address and whose range meets it, `some false` when none does, and `none`
(the panic) when it reaches a CIDR that does not parse first. -/
def holdsAddress (address : Int) : List RemoteSubnet → Option Bool
  | [] => some false
  | remoteSubnet :: rest =>
    match parseCIDR remoteSubnet.range.cidr with
    | none => none
    | some cidr =>
      if !cidr.contains family address then holdsAddress address rest
      else if intersect remoteSubnet.range (pointRange remoteSubnet.range address) then some true
      else holdsAddress address rest

/-- The loop over the VTEPs, when several list the address. It returns the first whose
cluster has a remote subnet holding the address. `listByCluster` is the `List` of the remote
subnets by the cluster's `LabelCluster`. -/
def pickRemoteVtep (listByCluster : String → Except String (List RemoteSubnet))
    (address : Int) : List RemoteVtep → VtepLookup
  | [] =>
    .failed ("get more than one remote vtep for ip " ++ toString address ++
      " and cannot find valid one")
  | remoteVtep :: rest =>
    match listByCluster remoteVtep.clusterName with
    | .error err => .failed ("failed to list remoteSubnet " ++ err)
    | .ok remoteSubnets =>
      match holdsAddress family parseCIDR intersect address remoteSubnets with
      | none => .panicked
      | some true => .found remoteVtep
      | some false => pickRemoteVtep listByCluster address rest

/-- `getRemoteVtepByEndpointAddress(address)`. `listByEndpoint` is the `List` of the remote
VTEPs by the `EndpointIPIndex` of the address. -/
def getRemoteVtepByEndpointAddress (listByEndpoint : Except String (List RemoteVtep))
    (listByCluster : String → Except String (List RemoteSubnet)) (address : Int) : VtepLookup :=
  match listByEndpoint with
  | .error err =>
    .failed ("get remote vtep by ip " ++ toString address ++ " indexer failed: " ++ err)
  | .ok remoteVteps =>
    if 1 < remoteVteps.length then
      pickRemoteVtep family parseCIDR intersect listByCluster address remoteVteps
    else
      match remoteVteps with
      | [remoteVtep] => .found remoteVtep
      | _ => .notFound

/-- A remote subnet holds the address: its range meets the address. -/
def Holds (address : Int) (remoteSubnet : RemoteSubnet) : Prop :=
  intersect remoteSubnet.range (pointRange remoteSubnet.range address) = true

variable {family parseCIDR intersect} {address : Int}

theorem holds_of_holdsAddress_eq_true :
    ∀ {remoteSubnets : List RemoteSubnet},
      holdsAddress family parseCIDR intersect address remoteSubnets = some true →
        ∃ remoteSubnet ∈ remoteSubnets, Holds intersect address remoteSubnet
  | [], held => nomatch held
  | remoteSubnet :: rest, held => by
    have later : holdsAddress family parseCIDR intersect address rest = some true →
        ∃ r ∈ remoteSubnet :: rest, Holds intersect address r := fun held =>
      let ⟨r, member, holds⟩ := holds_of_holdsAddress_eq_true held
      ⟨r, List.mem_cons_of_mem _ member, holds⟩
    unfold holdsAddress at held
    split at held
    · cases held
    · split_ifs at held with outside meets
      · exact later held
      · exact ⟨remoteSubnet, List.mem_cons_self _ _, meets⟩
      · exact later held

theorem pickRemoteVtep_eq_found {listByCluster : String → Except String (List RemoteSubnet)}
    {remoteVtep : RemoteVtep} :
    ∀ {remoteVteps : List RemoteVtep},
      pickRemoteVtep family parseCIDR intersect listByCluster address remoteVteps =
        .found remoteVtep →
        remoteVtep ∈ remoteVteps ∧ ∃ remoteSubnets,
          listByCluster remoteVtep.clusterName = .ok remoteSubnets ∧
            ∃ remoteSubnet ∈ remoteSubnets, Holds intersect address remoteSubnet
  | [], found => nomatch found
  | first :: rest, found => by
    unfold pickRemoteVtep at found
    split at found
    · cases found
    · rename_i remoteSubnets listed
      split at found
      · cases found
      · rename_i held
        cases found
        exact ⟨List.mem_cons_self _ _, remoteSubnets, listed, holds_of_holdsAddress_eq_true held⟩
      · obtain ⟨member, found⟩ := pickRemoteVtep_eq_found found
        exact ⟨List.mem_cons_of_mem _ member, found⟩

/-- A VTEP the lookup finds is one that the index listed. When the index listed several, its
cluster has a remote subnet that holds the address. -/
theorem getRemoteVtepByEndpointAddress_eq_found
    {listByEndpoint : Except String (List RemoteVtep)}
    {listByCluster : String → Except String (List RemoteSubnet)} {remoteVtep : RemoteVtep}
    (found : getRemoteVtepByEndpointAddress family parseCIDR intersect listByEndpoint
      listByCluster address = .found remoteVtep) :
    ∃ remoteVteps, listByEndpoint = .ok remoteVteps ∧ remoteVtep ∈ remoteVteps ∧
      (remoteVteps.length ≤ 1 → remoteVteps = [remoteVtep]) ∧
      (1 < remoteVteps.length → ∃ remoteSubnets,
        listByCluster remoteVtep.clusterName = .ok remoteSubnets ∧
          ∃ remoteSubnet ∈ remoteSubnets, Holds intersect address remoteSubnet) := by
  unfold getRemoteVtepByEndpointAddress at found
  split at found
  · cases found
  · rename_i remoteVteps
    split_ifs at found with several
    · obtain ⟨member, held⟩ := pickRemoteVtep_eq_found found
      exact ⟨remoteVteps, rfl, member, fun few => absurd several (by omega), fun _ => held⟩
    · split at found
      · cases found
        exact ⟨_, rfl, List.mem_singleton_self _, fun _ => rfl,
          fun several' => absurd several' several⟩
      · cases found

end Lookup

/-! ## One cluster for an address -/

/-- The answers of a client whose cache holds the remote VTEPs and remote subnets of
`parent`. Each `List` may fail, and otherwise returns the matching objects in any order. The
`EndpointIPIndex` indexes a VTEP by each address of its `EndpointIPList`. -/
structure ListsFrom (parent : Parent) (address : Int)
    (listByEndpoint : Except String (List RemoteVtep))
    (listByCluster : String → Except String (List RemoteSubnet)) : Prop where
  byEndpoint : ∀ remoteVteps, listByEndpoint = .ok remoteVteps →
    remoteVteps.Perm ((parent.remoteVteps.map Prod.snd).filter
      fun remoteVtep => toString address ∈ remoteVtep.endpointIPList)
  byCluster : ∀ clusterName remoteSubnets, listByCluster clusterName = .ok remoteSubnets →
    remoteSubnets.Perm ((parent.remoteSubnets.map Prod.snd).filter
      fun remoteSubnet => remoteSubnet.clusterLabel = clusterName)

section OneCluster

variable {intersect : AddressRange → AddressRange → Bool}

/- `networkingv1.Intersect` is not in the source. What the lookup relies on is that two ranges
which both meet an address meet each other. -/
variable (meets : ∀ range range' address, intersect range (pointRange range address) = true →
  intersect range' (pointRange range' address) = true → intersect range range' = true)
include meets

/-- In a parent whose remote subnets are apart, at most one remote subnet holds an address. -/
theorem NoOverlap.holds_unique {subnets : List (String × Subnet)}
    {remoteSubnets : List (String × RemoteSubnet)}
    (noOverlap : NoOverlap intersect subnets remoteSubnets) {address : Int} :
    ∀ ⦃entry⦄, entry ∈ remoteSubnets → ∀ ⦃entry'⦄, entry' ∈ remoteSubnets →
      Holds intersect address entry.2 → Holds intersect address entry'.2 → entry = entry' := by
  have apart := List.pairwise_map.1 noOverlap.remote
  refine List.Pairwise.forall_of_forall_of_flip (fun _ _ _ _ => rfl) ?_ ?_
  · refine apart.imp fun {entry entry'} later held held' => ?_
    cases later.symm.trans (meets _ _ _ held' held)
  · refine apart.imp fun {entry entry'} later held held' => ?_
    cases later.symm.trans (meets _ _ _ held held')

variable {family : Family} {parseCIDR : String → Option IPNet}

/-- Two lookups of one address from a parent whose remote subnets are apart, each through any
listing of the parent's objects, that both find a VTEP find VTEPs of one cluster, and each
lists the address. -/
theorem getRemoteVtepByEndpointAddress_same_cluster {parent : Parent}
    (noOverlap : NoOverlap intersect parent.subnets parent.remoteSubnets) {address : Int}
    {listByEndpoint listByEndpoint' : Except String (List RemoteVtep)}
    {listByCluster listByCluster' : String → Except String (List RemoteSubnet)}
    (lists : ListsFrom parent address listByEndpoint listByCluster)
    (lists' : ListsFrom parent address listByEndpoint' listByCluster')
    {remoteVtep remoteVtep' : RemoteVtep}
    (found : getRemoteVtepByEndpointAddress family parseCIDR intersect listByEndpoint
      listByCluster address = .found remoteVtep)
    (found' : getRemoteVtepByEndpointAddress family parseCIDR intersect listByEndpoint'
      listByCluster' address = .found remoteVtep') :
    toString address ∈ remoteVtep.endpointIPList ∧
      remoteVtep.clusterName = remoteVtep'.clusterName := by
  obtain ⟨remoteVteps, listed, member, single, held⟩ :=
    getRemoteVtepByEndpointAddress_eq_found found
  obtain ⟨remoteVteps', listed', -, single', held'⟩ :=
    getRemoteVtepByEndpointAddress_eq_found found'
  have perm := lists.byEndpoint _ listed
  have perm' := lists'.byEndpoint _ listed'
  refine ⟨(List.mem_filter.1 (perm.subset member)).2 |> of_decide_eq_true, ?_⟩
  have sameLength : remoteVteps.length = remoteVteps'.length :=
    perm.length_eq.trans perm'.length_eq.symm
  by_cases several : 1 < remoteVteps.length
  · obtain ⟨remoteSubnets, byCluster, remoteSubnet, inList, holds⟩ := held several
    obtain ⟨remoteSubnets', byCluster', remoteSubnet', inList', holds'⟩ :=
      held' (sameLength ▸ several)
    obtain ⟨inStore, labelled⟩ := List.mem_filter.1 ((lists.byCluster _ _ byCluster).subset inList)
    obtain ⟨inStore', labelled'⟩ :=
      List.mem_filter.1 ((lists'.byCluster _ _ byCluster').subset inList')
    obtain ⟨entry, entryMember, rfl⟩ := List.mem_map.1 inStore
    obtain ⟨entry', entryMember', rfl⟩ := List.mem_map.1 inStore'
    have same := noOverlap.holds_unique meets entryMember entryMember' holds holds'
    rw [← of_decide_eq_true labelled, ← of_decide_eq_true labelled', same]
  · have few : remoteVteps.length ≤ 1 := by omega
    have unique := single few
    have unique' := single' (sameLength ▸ few)
    subst unique unique'
    have same := perm.trans perm'.symm
    rw [List.singleton_perm_singleton] at same
    rw [same]

end OneCluster

/-- A VTEP of `c1` on the node `node`, with the endpoint `10.0.0.5`. -/
def endpointVtep (node : String) : RemoteVtep :=
  { clusterLabel := "c1", nodeLabel := node, clusterName := "c1", nodeName := node,
    endpointIPList := ["167772165"] }

/-- The mirror of the subnet `s1`, `10.0.0.0/24`, of `c1`. -/
def s1Mirror : RemoteSubnet where
  clusterLabel := "c1"
  subnetLabel := "s1"
  range := { cidr := "10.0.0.0/24" }
  clusterName := "c1"

/-- A parent with the mirror of the subnet `s1` of `c1`, `10.0.0.0/24`, and two VTEPs of `c1`
that both list `10.0.0.5`. -/
def twoVtepsParent : Parent where
  subnets := []
  remoteSubnets := [("c1.s1", s1Mirror)]
  remoteVteps := [("c1.n1", endpointVtep "n1"), ("c1.n2", endpointVtep "n2")]
  subnetSet _ := []

/-- The remote subnets of a cluster, as the cache of `twoVtepsParent` lists them. -/
def twoVtepsByCluster (clusterName : String) : Except String (List RemoteSubnet) :=
  .ok ((twoVtepsParent.remoteSubnets.map Prod.snd).filter
    fun remoteSubnet => remoteSubnet.clusterLabel = clusterName)

theorem getRemoteVtepByEndpointAddress_same_cluster_two_vteps :
    let intersect : AddressRange → AddressRange → Bool := fun _ _ => true
    let parseCIDR : String → Option IPNet := fun _ => some ⟨167772160, 24⟩
    (∀ range range' address, intersect range (pointRange range address) = true →
      intersect range' (pointRange range' address) = true → intersect range range' = true) ∧
    NoOverlap intersect twoVtepsParent.subnets twoVtepsParent.remoteSubnets ∧
    ListsFrom twoVtepsParent 167772165 (.ok [endpointVtep "n1", endpointVtep "n2"])
      twoVtepsByCluster ∧
    ListsFrom twoVtepsParent 167772165 (.ok [endpointVtep "n2", endpointVtep "n1"])
      twoVtepsByCluster ∧
    getRemoteVtepByEndpointAddress .v4 parseCIDR intersect
      (.ok [endpointVtep "n1", endpointVtep "n2"]) twoVtepsByCluster 167772165 =
        .found (endpointVtep "n1") ∧
    getRemoteVtepByEndpointAddress .v4 parseCIDR intersect
      (.ok [endpointVtep "n2", endpointVtep "n1"]) twoVtepsByCluster 167772165 =
        .found (endpointVtep "n2") ∧
    toString (167772165 : Int) ∈ (endpointVtep "n1").endpointIPList ∧
      (endpointVtep "n1").clusterName = (endpointVtep "n2").clusterName :=
  have meets : ∀ range range' address, ((fun _ _ => true) : AddressRange → AddressRange → Bool)
      range (pointRange range address) = true → true = true → true = true :=
    fun _ _ _ _ _ => rfl
  have noOverlap : NoOverlap (fun _ _ => true) twoVtepsParent.subnets
      twoVtepsParent.remoteSubnets :=
    ⟨by decide, List.pairwise_singleton _ _, fun _ _ _ member => nomatch member⟩
  have byCluster : ∀ clusterName remoteSubnets, twoVtepsByCluster clusterName = .ok remoteSubnets →
      remoteSubnets.Perm ((twoVtepsParent.remoteSubnets.map Prod.snd).filter
        fun remoteSubnet => remoteSubnet.clusterLabel = clusterName) :=
    fun _ _ listed => by cases listed; exact List.Perm.refl _
  have lists : ListsFrom twoVtepsParent 167772165
      (.ok [endpointVtep "n1", endpointVtep "n2"]) twoVtepsByCluster :=
    ⟨fun _ listed => by cases listed; decide, byCluster⟩
  have lists' : ListsFrom twoVtepsParent 167772165
      (.ok [endpointVtep "n2", endpointVtep "n1"]) twoVtepsByCluster :=
    ⟨fun _ listed => by cases listed; decide, byCluster⟩
  have found : getRemoteVtepByEndpointAddress .v4 (fun _ => some ⟨167772160, 24⟩)
      (fun _ _ => true) (.ok [endpointVtep "n1", endpointVtep "n2"]) twoVtepsByCluster
      167772165 = .found (endpointVtep "n1") := by decide
  have found' : getRemoteVtepByEndpointAddress .v4 (fun _ => some ⟨167772160, 24⟩)
      (fun _ _ => true) (.ok [endpointVtep "n2", endpointVtep "n1"]) twoVtepsByCluster
      167772165 = .found (endpointVtep "n2") := by decide
  ⟨meets, noOverlap, lists, lists', found, found',
    getRemoteVtepByEndpointAddress_same_cluster meets noOverlap lists lists' found found'⟩

/-! ## The meta of an address range -/

/-- What `parseSubnetSpecRangeMeta` returns when it parses the range. -/
structure RangeMeta where
  cidr : IPNet
  gateway : Option Int
  start : Option Int
  «end» : Option Int
  excludeIPs : List Int
  reservedIPs : List Int
  deriving DecidableEq, Repr

section Parse

variable (parseIPNet : String → Except String IPNet) (parseIP : String → Option Int)

/-- The check of one address of the range, whose error names the field `what`. -/
def parseRangeIP (what text : String) : Except String Int :=
  match parseIP text with
  | some ip => pure ip
  | none => throw ("invalid " ++ what ++ " ip " ++ text)

/-- The checks of `Gateway`, `Start` and `End`, which an empty field skips. -/
def parseOptionalIP (what text : String) : Except String (Option Int) :=
  if text = "" then pure none else some <$> parseRangeIP parseIP what text

/-- `parseSubnetSpecRangeMeta(addressRange)`; `none` is a nil range. -/
def parseSubnetSpecRangeMeta : Option AddressRange → Except String RangeMeta
  | none => throw "cannot parse a nil range"
  | some addressRange => do
    let cidr ← (parseIPNet addressRange.cidr).mapError fun err =>
      "failed to parse subnet cidr " ++ addressRange.cidr ++ " error: " ++ err
    let gateway ← parseOptionalIP parseIP "gateway" addressRange.gateway
    let start ← parseOptionalIP parseIP "start" addressRange.start
    let «end» ← parseOptionalIP parseIP "end" addressRange.end
    let excludeIPs ← addressRange.excludeIPs.mapM (parseRangeIP parseIP "exclude")
    let reservedIPs ← addressRange.reservedIPs.mapM (parseRangeIP parseIP "reserved")
    pure ⟨cidr, gateway, start, «end», excludeIPs, reservedIPs⟩

/-- An optional field holds `ip`: none when it is empty, and otherwise the address that
`net.ParseIP` reads from it. -/
def ParsesOptional (text : String) (ip : Option Int) : Prop :=
  if text = "" then ip = none else ip.isSome ∧ parseIP text = ip

/-- A text of the range that `net.ParseIP` refuses, under the name of its field: a set
optional field, or an entry of a list, which may be empty. -/
def Refused (range : AddressRange) (what text : String) : Prop :=
  parseIP text = none ∧
    ((what = "gateway" ∧ text = range.gateway ∨ what = "start" ∧ text = range.start ∨
        what = "end" ∧ text = range.end) ∧ text ≠ "" ∨
      what = "exclude" ∧ text ∈ range.excludeIPs ∨ what = "reserved" ∧ text ∈ range.reservedIPs)

variable {parseIPNet parseIP}

theorem parseRangeIP_eq_ok {what text : String} {ip : Int} :
    parseRangeIP parseIP what text = .ok ip ↔ parseIP text = some ip := by
  unfold parseRangeIP
  cases parseIP text with
  | none => exact ⟨fun failed => (nomatch failed), fun found => nomatch found⟩
  | some found => exact ⟨fun same => by cases same; rfl, fun same => by cases same; rfl⟩

theorem parseRangeIP_eq_error {what text err : String}
    (failed : parseRangeIP parseIP what text = .error err) :
    parseIP text = none ∧ err = "invalid " ++ what ++ " ip " ++ text := by
  unfold parseRangeIP at failed
  cases found : parseIP text with
  | none => rw [found] at failed; cases failed; exact ⟨rfl, rfl⟩
  | some _ => rw [found] at failed; cases failed

theorem parseOptionalIP_eq_ok {what text : String} {ip : Option Int}
    (parsed : parseOptionalIP parseIP what text = .ok ip) : ParsesOptional parseIP text ip := by
  unfold parseOptionalIP at parsed
  unfold ParsesOptional
  split_ifs at parsed ⊢ with empty
  · cases parsed; rfl
  · obtain ⟨found, returned, rfl⟩ := ok_of_map_eq_ok parsed
    exact ⟨rfl, parseRangeIP_eq_ok.1 returned⟩

theorem parseOptionalIP_eq_error {what text err : String}
    (failed : parseOptionalIP parseIP what text = .error err) :
    text ≠ "" ∧ parseIP text = none ∧ err = "invalid " ++ what ++ " ip " ++ text := by
  unfold parseOptionalIP at failed
  split_ifs at failed with empty
  · cases failed
  · cases returned : parseRangeIP parseIP what text with
    | ok _ => rw [returned] at failed; cases failed
    | error e =>
      rw [returned] at failed
      cases failed
      exact ⟨empty, parseRangeIP_eq_error returned⟩

theorem map_parseRangeIP {what : String} :
    ∀ {texts : List String} {ips : List Int},
      texts.map (parseRangeIP parseIP what) = ips.map .ok → texts.map parseIP = ips.map some
  | [], [], _ => rfl
  | _ :: _, _ :: _, mapped => by
    rw [List.map_cons, List.map_cons, List.cons.injEq] at mapped ⊢
    exact ⟨parseRangeIP_eq_ok.1 mapped.1, map_parseRangeIP mapped.2⟩

theorem mapM_parseRangeIP_eq_error {what err : String} {texts : List String}
    (failed : texts.mapM (parseRangeIP parseIP what) = .error err) :
    ∃ text ∈ texts, parseIP text = none ∧ err = "invalid " ++ what ++ " ip " ++ text := by
  obtain ⟨pre, text, post, rfl, -, refused⟩ := mapM_except_eq_error _ failed
  exact ⟨text, List.mem_append_right _ (List.mem_cons_self _ _), parseRangeIP_eq_error refused⟩

theorem except_bind_eq_error {ε α β : Type} {x : Except ε α} {f : α → Except ε β} {e : ε}
    (failed : x >>= f = .error e) : x = .error e ∨ ∃ a, x = .ok a ∧ f a = .error e := by
  cases x with
  | error e' => cases failed; exact .inl rfl
  | ok a => exact .inr ⟨a, rfl, failed⟩

/-- The range is parsed in full or not at all. A parse holds the CIDR's prefix, the address
of each optional field (none for an empty one), and one address for each exclude and
reserved text, in order. An error names the CIDR with the parser's error, or a text of the
range that `net.ParseIP` refuses, under the name of its field. -/
theorem parseSubnetSpecRangeMeta_spec (range : AddressRange) :
    (∀ meta, parseSubnetSpecRangeMeta parseIPNet parseIP (some range) = .ok meta →
      parseIPNet range.cidr = .ok meta.cidr ∧ ParsesOptional parseIP range.gateway meta.gateway ∧
      ParsesOptional parseIP range.start meta.start ∧ ParsesOptional parseIP range.end meta.end ∧
      range.excludeIPs.map parseIP = meta.excludeIPs.map some ∧
      range.reservedIPs.map parseIP = meta.reservedIPs.map some) ∧
    (∀ err, parseSubnetSpecRangeMeta parseIPNet parseIP (some range) = .error err →
      (∃ e, parseIPNet range.cidr = .error e ∧
        err = "failed to parse subnet cidr " ++ range.cidr ++ " error: " ++ e) ∨
      ∃ what text, Refused parseIP range what text ∧ err = "invalid " ++ what ++ " ip " ++ text) := by
  constructor
  · intro meta parsed
    obtain ⟨cidr, cidrParsed, parsed⟩ := ok_of_bind_eq_ok parsed
    obtain ⟨gateway, gatewayParsed, parsed⟩ := ok_of_bind_eq_ok parsed
    obtain ⟨start, startParsed, parsed⟩ := ok_of_bind_eq_ok parsed
    obtain ⟨stop, endParsed, parsed⟩ := ok_of_bind_eq_ok parsed
    obtain ⟨excludeIPs, excludeParsed, parsed⟩ := ok_of_bind_eq_ok parsed
    obtain ⟨reservedIPs, reservedParsed, parsed⟩ := ok_of_bind_eq_ok parsed
    cases parsed
    refine ⟨?_, parseOptionalIP_eq_ok gatewayParsed, parseOptionalIP_eq_ok startParsed,
      parseOptionalIP_eq_ok endParsed,
      map_parseRangeIP ((mapM_except_eq_ok _ _ _).1 excludeParsed),
      map_parseRangeIP ((mapM_except_eq_ok _ _ _).1 reservedParsed)⟩
    cases found : parseIPNet range.cidr with
    | error _ => rw [found] at cidrParsed; cases cidrParsed
    | ok _ => rw [found] at cidrParsed; cases cidrParsed; rfl
  · intro err failed
    rcases except_bind_eq_error failed with failed | ⟨_, -, failed⟩
    · left
      cases found : parseIPNet range.cidr with
      | ok _ => rw [found] at failed; cases failed
      | error e => rw [found] at failed; cases failed; exact ⟨e, rfl, rfl⟩
    rcases except_bind_eq_error failed with failed | ⟨_, -, failed⟩
    · obtain ⟨nonempty, none, named⟩ := parseOptionalIP_eq_error failed
      exact .inr ⟨_, _, ⟨none, .inl ⟨.inl ⟨rfl, rfl⟩, nonempty⟩⟩, named⟩
    rcases except_bind_eq_error failed with failed | ⟨_, -, failed⟩
    · obtain ⟨nonempty, none, named⟩ := parseOptionalIP_eq_error failed
      exact .inr ⟨_, _, ⟨none, .inl ⟨.inr (.inl ⟨rfl, rfl⟩), nonempty⟩⟩, named⟩
    rcases except_bind_eq_error failed with failed | ⟨_, -, failed⟩
    · obtain ⟨nonempty, none, named⟩ := parseOptionalIP_eq_error failed
      exact .inr ⟨_, _, ⟨none, .inl ⟨.inr (.inr ⟨rfl, rfl⟩), nonempty⟩⟩, named⟩
    rcases except_bind_eq_error failed with failed | ⟨_, -, failed⟩
    · obtain ⟨text, member, none, named⟩ := mapM_parseRangeIP_eq_error failed
      exact .inr ⟨_, _, ⟨none, .inr (.inl ⟨rfl, member⟩)⟩, named⟩
    rcases except_bind_eq_error failed with failed | ⟨_, -, failed⟩
    · obtain ⟨text, member, none, named⟩ := mapM_parseRangeIP_eq_error failed
      exact .inr ⟨_, _, ⟨none, .inr (.inr ⟨rfl, member⟩)⟩, named⟩
    · cases failed

end Parse

end Hybridnet
