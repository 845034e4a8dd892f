import Hybridnet.Daemon.Network

/-!
# The global network information the daemon collects at start

`collectGlobalNetworkInfoAndInit` runs once over the networks of the cluster when the daemon
starts. A Vxlan network names the forward interface of Vxlan traffic, a later one overriding an
earlier; a BGP network the node belongs to starts the BGP manager with the network's id as local
AS, records its peers when asked to, and gives the address of its first peer. An error returns
at once, with the named results as they stand.

The run is a loop over the networks with an early exit, modelled as one round per network
(`collectNetwork`) and the recursion over the list (`collectNetworks`). One lemma says what a
round that goes on did; from it, what a whole run that returns did, and where a run can panic.
Without recording the peers, a BGP network of the node without a peer makes `BGPPeers[0]` index
an empty slice, and that is the only place the run panics; recording checks for exactly one peer
first.
-/

namespace Hybridnet

/-- A BGP peer of a network's spec, `networkingv1.NetworkConfig.BGPPeers`. -/
structure BGPPeer where
  address : String
  password : String := ""
  asn : Int := 0
  gracefulRestartSeconds : Int := 0
  deriving DecidableEq, Repr

/-- A `networkingv1.Network` with what the daemon's start reads: its name, its mode and whether
its type is Overlay, as `GetNetworkMode` and `GetNetworkType` report them, its net id, its BGP
peers and the nodes its status lists. -/
structure DaemonNetwork where
  name : String
  mode : NetworkMode
  overlay : Bool := false
  netID : Option Int := none
  bgpPeers : List BGPPeer := []
  nodeList : List String := []
  deriving DecidableEq, Repr

/-- `nodeBelongsToNetwork(nodeName, network)`: every node belongs to an Overlay network, and to
another one when its status lists the node. -/
def nodeBelongsToNetwork (nodeName : String) (network : DaemonNetwork) : Bool :=
  network.overlay || network.nodeList.any (· == nodeName)

/-- `uint32(*network.Spec.NetID)`: the local AS of a BGP network. -/
def localAS (netID : Int) : Nat := (netID % 2 ^ 32).toNat

/-- The named results of `collectGlobalNetworkInfoAndInit`, and what it asked of the BGP manager:
the local AS of each `TryStart`, and the peers `RecordPeer` recorded. -/
structure CollectState where
  vxlanForwardNodeIfName : String := ""
  bgpPeerIP : Option Int := none
  started : List Nat := []
  peers : List BGPPeer := []
  deriving DecidableEq, Repr

/-- How a round of the loop over the networks ends: on to the next network, returning an error
with the named results as they stand, or a panic. -/
inductive CollectOutcome where
  | next (state : CollectState)
  | failed (err : String) (state : CollectState)
  | panicked
  deriving DecidableEq, Repr

section Collect

/- What the start depends on and the code does not fix: `constants.VxlanLinkInfix`,
`net.ParseIP` and the outcome of the BGP manager's `TryStart` for a local AS. -/
variable (vxlanLinkInfix : String) (parseIP : String → Option Int)
  (tryStart : Nat → Option String) (nodeVxlanIfName nodeName : String) (recordBGPPeers : Bool)

/-- One round of the loop of `collectGlobalNetworkInfoAndInit`, for one network. -/
def collectNetwork (state : CollectState) (network : DaemonNetwork) : CollectOutcome :=
  match network.mode with
  | .vxlan =>
      match generateVxlanNetIfName vxlanLinkInfix nodeVxlanIfName network.netID with
      | .ok name => .next { state with vxlanForwardNodeIfName := name }
      | .error err => .failed ("failed to generate vxlan forward node if name: " ++ err)
          { state with vxlanForwardNodeIfName := "" }
  | .bgp =>
      if !nodeBelongsToNetwork nodeName network then .next state
      else match network.netID with
        | none => .failed ("the net id of network " ++ network.name ++ " must to be set") state
        | some netID =>
            let state := { state with started := state.started ++ [localAS netID] }
            match tryStart (localAS netID) with
            | some err => .failed ("try start bgp manager for network " ++ network.name ++
                " failed: " ++ err) state
            | none =>
                if recordBGPPeers && network.bgpPeers.length != 1 then
                  .failed ("no bgp peer or multiple bgp peers are not supported for network " ++
                    network.name) state
                else
                  let state :=
                    if recordBGPPeers then { state with peers := state.peers ++ network.bgpPeers }
                    else state
                  match network.bgpPeers with
                  | [] => .panicked
                  | peer :: _ =>
                      match parseIP peer.address with
                      | none => .failed ("get invalid bgp peer address " ++ peer.address ++
                          " for network " ++ network.name) { state with bgpPeerIP := none }
                      | some ip => .next { state with bgpPeerIP := some ip }
  | _ => .next state

/-- The loop of `collectGlobalNetworkInfoAndInit` over the networks, from the named results
`state`. -/
def collectNetworks (state : CollectState) : List DaemonNetwork → CollectOutcome
  | [] => .next state
  | network :: rest =>
      match collectNetwork vxlanLinkInfix parseIP tryStart nodeVxlanIfName nodeName
          recordBGPPeers state network with
      | .next state' => collectNetworks state' rest
      | outcome => outcome

/-- `collectGlobalNetworkInfoAndInit(ctx, client, nodeVxlanIfName, nodeName, bgpManager,
recordBGPPeers)`, given the outcome of listing the networks. -/
def collectGlobalNetworkInfoAndInit (networkList : Except String (List DaemonNetwork)) :
    CollectOutcome :=
  match networkList with
  | .error err => .failed ("failed to list network: " ++ err) {}
  | .ok networks =>
      collectNetworks vxlanLinkInfix parseIP tryStart nodeVxlanIfName nodeName recordBGPPeers {}
        networks

/-- A BGP network of the node: the networks whose round starts the BGP manager. -/
def IsNodeBGPNetwork (network : DaemonNetwork) : Prop :=
  network.mode = .bgp ∧ nodeBelongsToNetwork nodeName network = true

instance (network : DaemonNetwork) : Decidable (IsNodeBGPNetwork nodeName network) :=
  inferInstanceAs (Decidable (_ ∧ _))

/-- What a BGP network of the node must give for its round to go on: a net id whose AS the
manager starts, exactly one peer when recording, and a first peer with an address. -/
structure BGPRoundOk (network : DaemonNetwork) (netID : Int) (ip : Int) : Prop where
  hasNetID : network.netID = some netID
  starts : tryStart (localAS netID) = none
  onePeer : recordBGPPeers = true → network.bgpPeers.length = 1
  firstPeer : ∃ peer rest, network.bgpPeers = peer :: rest ∧ parseIP peer.address = some ip

/-- Every way a round ends: a Vxlan network renames the forward interface, a BGP network of the
node starts the manager, records its peers when asked to and gives its first peer's address, any
other network changes nothing; or the round panics, for a BGP network of the node without a peer
when the peers are not recorded; or it fails. -/
theorem collectNetwork_cases (state : CollectState) (network : DaemonNetwork) :
    let outcome := collectNetwork vxlanLinkInfix parseIP tryStart nodeVxlanIfName nodeName
      recordBGPPeers state network
    (∃ err state', outcome = .failed err state') ∨
      (network.mode = .vxlan ∧ ∃ name, generateVxlanNetIfName vxlanLinkInfix nodeVxlanIfName
        network.netID = .ok name ∧ outcome = .next { state with vxlanForwardNodeIfName := name }) ∨
      (IsNodeBGPNetwork nodeName network ∧ ∃ netID ip,
        BGPRoundOk parseIP tryStart recordBGPPeers network netID ip ∧
        outcome = .next { state with
          started := state.started ++ [localAS netID]
          peers := state.peers ++ (if recordBGPPeers then network.bgpPeers else [])
          bgpPeerIP := some ip }) ∨
      (¬ IsNodeBGPNetwork nodeName network ∧ network.mode ≠ .vxlan ∧ outcome = .next state) ∨
      (recordBGPPeers = false ∧ IsNodeBGPNetwork nodeName network ∧ network.bgpPeers = [] ∧
        outcome = .panicked) := by
  dsimp only
  generalize run : collectNetwork vxlanLinkInfix parseIP tryStart nodeVxlanIfName nodeName
    recordBGPPeers state network = result
  unfold collectNetwork at run
  unfold IsNodeBGPNetwork
  split at run
  · rename_i vxlan
    split at run
    · exact .inr (.inl ⟨vxlan, _, ‹_›, run.symm⟩)
    · exact .inl ⟨_, _, run.symm⟩
  · rename_i bgp
    by_cases member : nodeBelongsToNetwork nodeName network = true
    · rw [if_neg (by simpa using member)] at run
      rcases hasNetID : network.netID with _ | netID <;> rw [hasNetID] at run <;>
        dsimp only at run
      · exact .inl ⟨_, _, run.symm⟩
      rcases starts : tryStart (localAS netID) with _ | _ <;> rw [starts] at run <;>
        dsimp only at run
      · by_cases record : (recordBGPPeers && network.bgpPeers.length != 1) = true
        · rw [if_pos record] at run
          exact .inl ⟨_, _, run.symm⟩
        rw [if_neg record] at run
        rcases peers : network.bgpPeers with _ | ⟨peer, rest⟩ <;> rw [peers] at run record <;>
          dsimp only at run
        · exact .inr (.inr (.inr (.inr ⟨by simpa using record, ⟨bgp, member⟩, rfl, run.symm⟩)))
        rcases parsed : parseIP peer.address with _ | ip <;> rw [parsed] at run <;>
          dsimp only at run
        · exact .inl ⟨_, _, run.symm⟩
        refine .inr (.inr (.inl ⟨⟨bgp, member⟩, netID, ip,
          ⟨hasNetID, starts, fun recorded => ?_, peer, rest, peers, parsed⟩, ?_⟩))
        · simpa [peers, recorded] using record
        · rw [← run]
          cases recordBGPPeers <;> simp [peers]
      · exact .inl ⟨_, _, run.symm⟩
    · rw [if_pos (by simpa using member)] at run
      exact .inr (.inr (.inr (.inl ⟨fun bgp => member bgp.2, by simp [bgp], run.symm⟩)))
  · exact .inr (.inr (.inr (.inl ⟨by simp_all, by simp_all, run.symm⟩)))

/-- A round that goes on changes the named results as one of the three ways the cases lemma
names. -/
theorem collectNetwork_eq_next {state state' : CollectState} {network : DaemonNetwork}
    (next : collectNetwork vxlanLinkInfix parseIP tryStart nodeVxlanIfName nodeName
      recordBGPPeers state network = .next state') :
    (network.mode = .vxlan ∧ ∃ name, generateVxlanNetIfName vxlanLinkInfix nodeVxlanIfName
        network.netID = .ok name ∧ state' = { state with vxlanForwardNodeIfName := name }) ∨
      (IsNodeBGPNetwork nodeName network ∧ ∃ netID ip,
        BGPRoundOk parseIP tryStart recordBGPPeers network netID ip ∧
        state' = { state with
          started := state.started ++ [localAS netID]
          peers := state.peers ++ (if recordBGPPeers then network.bgpPeers else [])
          bgpPeerIP := some ip }) ∨
      (¬ IsNodeBGPNetwork nodeName network ∧ network.mode ≠ .vxlan ∧ state' = state) := by
  rcases collectNetwork_cases vxlanLinkInfix parseIP tryStart nodeVxlanIfName nodeName
    recordBGPPeers state network with ⟨_, _, failed⟩ | ⟨vxlan, name, named, same⟩ |
      ⟨bgp, netID, ip, ok, same⟩ | ⟨other, notVxlan, same⟩ | ⟨_, _, _, panics⟩
  · cases next.symm.trans failed
  · cases next.symm.trans same
    exact .inl ⟨vxlan, name, named, rfl⟩
  · cases next.symm.trans same
    exact .inr (.inl ⟨bgp, netID, ip, ok, rfl⟩)
  · cases next.symm.trans same
    exact .inr (.inr ⟨other, notVxlan, rfl⟩)
  · cases next.symm.trans panics

/-- What a run over `networks` that returns did, from the named results `state` to `state'`:
every Vxlan network has an id the interface name takes, and the last one names the forward
interface; every BGP network of the node passed its round, started the manager in turn, and the
last one gives the peer's address. -/
structure Collected (networks : List DaemonNetwork) (state state' : CollectState) : Prop where
  vxlanNamed : ∀ network ∈ networks, network.mode = .vxlan →
    ∃ name, generateVxlanNetIfName vxlanLinkInfix nodeVxlanIfName network.netID = .ok name
  forwardName :
    match (networks.filter fun network => network.mode = .vxlan).getLast? with
    | none => state'.vxlanForwardNodeIfName = state.vxlanForwardNodeIfName
    | some network => generateVxlanNetIfName vxlanLinkInfix nodeVxlanIfName network.netID =
        .ok state'.vxlanForwardNodeIfName
  bgpPassed : ∀ network ∈ networks, IsNodeBGPNetwork nodeName network →
    ∃ netID ip, BGPRoundOk parseIP tryStart recordBGPPeers network netID ip
  started : state'.started = state.started ++
    (networks.filter fun network => IsNodeBGPNetwork nodeName network).filterMap
      fun network => network.netID.map localAS
  peerIP :
    match (networks.filter fun network => IsNodeBGPNetwork nodeName network).getLast? with
    | none => state'.bgpPeerIP = state.bgpPeerIP
    | some network => ∃ peer rest, network.bgpPeers = peer :: rest ∧
        state'.bgpPeerIP = parseIP peer.address

theorem collected_nil (state : CollectState) :
    Collected vxlanLinkInfix parseIP tryStart nodeVxlanIfName nodeName recordBGPPeers [] state
      state :=
  ⟨fun _ member => (nomatch member), rfl, fun _ member => (nomatch member), by simp, rfl⟩

/-- The last of the networks that pass a test, after one in front of them that passes it. -/
theorem getLast?_filter_cons_of_pos {p : DaemonNetwork → Bool} {network : DaemonNetwork}
    {rest : List DaemonNetwork} (passes : p network = true) :
    ((network :: rest).filter p).getLast? = some (((rest.filter p).getLast?).getD network) := by
  rw [List.filter_cons_of_pos passes, List.getLast?_cons]

/-- A round that goes on, then a run that returns: the run over both did what `Collected`
says. -/
theorem Collected.cons {state state₁ state' : CollectState} {network : DaemonNetwork}
    {rest : List DaemonNetwork}
    (next : collectNetwork vxlanLinkInfix parseIP tryStart nodeVxlanIfName nodeName
      recordBGPPeers state network = .next state₁)
    (collected : Collected vxlanLinkInfix parseIP tryStart nodeVxlanIfName nodeName
      recordBGPPeers rest state₁ state') :
    Collected vxlanLinkInfix parseIP tryStart nodeVxlanIfName nodeName recordBGPPeers
      (network :: rest) state state' := by
  obtain ⟨vxlanNamed, forwardName, bgpPassed, started, peerIP⟩ := collected
  rcases collectNetwork_eq_next vxlanLinkInfix parseIP tryStart nodeVxlanIfName nodeName
    recordBGPPeers next with ⟨vxlan, name, named, rfl⟩ | ⟨bgp, netID, ip, ok, rfl⟩ |
      ⟨other, notVxlan, rfl⟩
  · have notBGP : ¬ IsNodeBGPNetwork nodeName network := fun bgp => by
      rw [bgp.1] at vxlan
      cases vxlan
    refine ⟨fun n member => ?_, ?_, fun n member => ?_, ?_, ?_⟩
    · rcases List.mem_cons.1 member with rfl | later
      · exact fun _ => ⟨name, named⟩
      · exact vxlanNamed n later
    · rw [getLast?_filter_cons_of_pos (by simpa using vxlan)]
      cases last : (rest.filter fun network => network.mode = .vxlan).getLast? with
      | none => rw [last] at forwardName; rw [Option.getD_none, forwardName]; exact named
      | some m => rw [last] at forwardName; exact forwardName
    · rcases List.mem_cons.1 member with rfl | later
      · exact fun bgp => absurd bgp notBGP
      · exact bgpPassed n later
    · rw [List.filter_cons_of_neg (by simpa using notBGP), started]
    · rw [List.filter_cons_of_neg (by simpa using notBGP)]
      exact peerIP
  · have ⟨hasNetID, _, _, peer, others, peers, parsed⟩ := ok
    have notVxlan : network.mode ≠ .vxlan := by rw [bgp.1]; exact nofun
    refine ⟨fun n member => ?_, ?_, fun n member => ?_, ?_, ?_⟩
    · rcases List.mem_cons.1 member with rfl | later
      · exact fun vxlan => absurd vxlan notVxlan
      · exact vxlanNamed n later
    · rw [List.filter_cons_of_neg (by simpa using notVxlan)]
      exact forwardName
    · rcases List.mem_cons.1 member with rfl | later
      · exact fun _ => ⟨netID, ip, ok⟩
      · exact bgpPassed n later
    · rw [List.filter_cons_of_pos (by simpa using bgp), started, List.filterMap_cons, hasNetID]
      simp
    · rw [getLast?_filter_cons_of_pos (by simpa using bgp)]
      cases last : (rest.filter fun network => IsNodeBGPNetwork nodeName network).getLast? with
      | none => rw [last] at peerIP; exact ⟨peer, others, peers, by rw [peerIP, parsed]⟩
      | some m => rw [last] at peerIP; exact peerIP
  · refine ⟨fun n member => ?_, ?_, fun n member => ?_, ?_, ?_⟩
    · rcases List.mem_cons.1 member with rfl | later
      · exact fun vxlan => absurd vxlan notVxlan
      · exact vxlanNamed n later
    · rw [List.filter_cons_of_neg (by simpa using notVxlan)]
      exact forwardName
    · rcases List.mem_cons.1 member with rfl | later
      · exact fun bgp => absurd bgp other
      · exact bgpPassed n later
    · rw [List.filter_cons_of_neg (by simpa using other), started]
    · rw [List.filter_cons_of_neg (by simpa using other)]
      exact peerIP

/-- A run that returns did what `Collected` says. -/
theorem collectNetworks_collected : ∀ {state state' : CollectState} {networks : List DaemonNetwork},
    collectNetworks vxlanLinkInfix parseIP tryStart nodeVxlanIfName nodeName recordBGPPeers state
      networks = .next state' →
    Collected vxlanLinkInfix parseIP tryStart nodeVxlanIfName nodeName recordBGPPeers networks
      state state'
  | _, _, [], returned => by
      cases returned
      exact collected_nil vxlanLinkInfix parseIP tryStart nodeVxlanIfName nodeName
        recordBGPPeers _
  | state, _, network :: rest, returned => by
      rw [collectNetworks] at returned
      rcases round : collectNetwork vxlanLinkInfix parseIP tryStart nodeVxlanIfName nodeName
        recordBGPPeers state network with state₁ | _ | _ <;> rw [round] at returned <;>
          dsimp only at returned
      · exact Collected.cons vxlanLinkInfix parseIP tryStart nodeVxlanIfName nodeName
          recordBGPPeers round (collectNetworks_collected returned)
      · cases returned
      · cases returned

/-- A run panics only at a BGP network of the node without a peer, when the peers are not
recorded. -/
theorem collectNetworks_panicked : ∀ {state : CollectState} {networks : List DaemonNetwork},
    collectNetworks vxlanLinkInfix parseIP tryStart nodeVxlanIfName nodeName recordBGPPeers state
      networks = .panicked →
    recordBGPPeers = false ∧ ∃ network ∈ networks, IsNodeBGPNetwork nodeName network ∧
      network.bgpPeers = []
  | _, [], panics => by cases panics
  | state, network :: rest, panics => by
      rw [collectNetworks] at panics
      rcases round : collectNetwork vxlanLinkInfix parseIP tryStart nodeVxlanIfName nodeName
        recordBGPPeers state network with state₁ | _ | _ <;> rw [round] at panics <;>
          dsimp only at panics
      · exact (collectNetworks_panicked panics).imp_right fun ⟨n, member, bad⟩ =>
          ⟨n, List.mem_cons_of_mem _ member, bad⟩
      · cases panics
      · rcases collectNetwork_cases vxlanLinkInfix parseIP tryStart nodeVxlanIfName nodeName
          recordBGPPeers state network with ⟨_, _, other⟩ | ⟨_, _, _, other⟩ |
            ⟨_, _, _, _, other⟩ | ⟨_, _, other⟩ | ⟨record, bgp, noPeer, _⟩
        · cases round.symm.trans other
        · cases round.symm.trans other
        · cases round.symm.trans other
        · cases round.symm.trans other
        · exact ⟨record, network, List.mem_cons_self _ _, bgp, noPeer⟩

/-- When `collectGlobalNetworkInfoAndInit` returns, every Vxlan network has an id the interface
name takes and the last one names the forward interface; every BGP network of the node has a net
id whose AS the manager started, in the order of the list, one peer when recording and a first
peer with an address, and the last one gives the peer address returned. -/
theorem collectGlobalNetworkInfoAndInit_returns {networkList : Except String (List DaemonNetwork)}
    {state : CollectState}
    (returned : collectGlobalNetworkInfoAndInit vxlanLinkInfix parseIP tryStart nodeVxlanIfName
      nodeName recordBGPPeers networkList = .next state) :
    ∃ networks, networkList = .ok networks ∧
      Collected vxlanLinkInfix parseIP tryStart nodeVxlanIfName nodeName recordBGPPeers networks
        {} state := by
  cases networkList with
  | error => cases returned
  | ok networks =>
      exact ⟨networks, rfl, collectNetworks_collected vxlanLinkInfix parseIP tryStart
        nodeVxlanIfName nodeName recordBGPPeers returned⟩

/-- `collectGlobalNetworkInfoAndInit` panics only without recording the peers, and only when a
BGP network of the node has no peer, where `BGPPeers[0]` indexes an empty slice; recording, it
never panics. -/
theorem collectGlobalNetworkInfoAndInit_panics_only_without_peers
    {networkList : Except String (List DaemonNetwork)}
    (panics : collectGlobalNetworkInfoAndInit vxlanLinkInfix parseIP tryStart nodeVxlanIfName
      nodeName recordBGPPeers networkList = .panicked) :
    recordBGPPeers = false ∧ ∃ networks, networkList = .ok networks ∧
      ∃ network ∈ networks, IsNodeBGPNetwork nodeName network ∧ network.bgpPeers = [] := by
  cases networkList with
  | error => cases panics
  | ok networks =>
      obtain ⟨record, bad⟩ := collectNetworks_panicked vxlanLinkInfix parseIP tryStart
        nodeVxlanIfName nodeName recordBGPPeers panics
      exact ⟨record, networks, rfl, bad⟩

end Collect

/-- A Vxlan network with id `4`, and a BGP network the node `node1` is listed on, with AS `65000`
and the peer `10.0.0.1`. -/
def vxlanAndBGPNetworks : List DaemonNetwork :=
  [{ name := "overlay", mode := .vxlan, overlay := true, netID := some 4 },
    { name := "bgp", mode := .bgp, netID := some 65000, bgpPeers := [{ address := "10.0.0.1" }],
      nodeList := ["node1"] }]

/-- `net.ParseIP` on the one address the examples use. -/
def parsePeerIP (text : String) : Option Int := if text = "10.0.0.1" then some 167772161 else none

/-- The named results of the start over `vxlanAndBGPNetworks`, recording the peers. -/
def vxlanAndBGPState : CollectState where
  vxlanForwardNodeIfName := "eth0-vxlan4"
  bgpPeerIP := some 167772161
  started := [65000]
  peers := [{ address := "10.0.0.1" }]

theorem collectGlobalNetworkInfoAndInit_returns_vxlanAndBGP :
    collectGlobalNetworkInfoAndInit "-vxlan" parsePeerIP (fun _ => none) "eth0" "node1" true
        (.ok vxlanAndBGPNetworks) = .next vxlanAndBGPState ∧
      ∃ networks, (.ok vxlanAndBGPNetworks : Except String (List DaemonNetwork)) = .ok networks ∧
        Collected "-vxlan" parsePeerIP (fun _ => none) "eth0" "node1" true networks {}
          vxlanAndBGPState :=
  have returned : collectGlobalNetworkInfoAndInit "-vxlan" parsePeerIP (fun _ => none) "eth0"
      "node1" true (.ok vxlanAndBGPNetworks) = .next vxlanAndBGPState := by decide
  ⟨returned, collectGlobalNetworkInfoAndInit_returns _ _ _ _ _ _ returned⟩

/-- A BGP network the node `node1` is listed on, with AS `65000` and no peer. -/
def peerlessBGPNetworks : List DaemonNetwork :=
  [{ name := "bgp", mode := .bgp, netID := some 65000, nodeList := ["node1"] }]

theorem collectGlobalNetworkInfoAndInit_panics_peerless :
    collectGlobalNetworkInfoAndInit "-vxlan" parsePeerIP (fun _ => none) "eth0" "node1" false
        (.ok peerlessBGPNetworks) = .panicked ∧
      false = false ∧ ∃ networks,
        (.ok peerlessBGPNetworks : Except String (List DaemonNetwork)) = .ok networks ∧
        ∃ network ∈ networks, IsNodeBGPNetwork "node1" network ∧ network.bgpPeers = [] :=
  have panics : collectGlobalNetworkInfoAndInit "-vxlan" parsePeerIP (fun _ => none) "eth0"
      "node1" false (.ok peerlessBGPNetworks) = .panicked := by decide
  ⟨panics, collectGlobalNetworkInfoAndInit_panics_only_without_peers _ _ _ _ _ _ panics⟩

end Hybridnet
