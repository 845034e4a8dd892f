import Hybridnet.Remote.Naming
import Hybridnet.Go.Map
import Hybridnet.Go.Except
import Mathlib.Data.String.Basic
import Mathlib.Data.List.Sort

/-!
# Mirroring remote clusters into the parent cluster

The parent cluster keeps, for each remote cluster, a copy of the remote cluster's subnets
(`RemoteSubnet`) and of its nodes' VTEPs (`RemoteVtep`). Two reconcilers per remote cluster
write them: the subnet reconciler mirrors the subnet named in its request, or deletes the
mirror once the subnet is gone, and records the subnets it mirrored in its `SubnetSet`; the
VTEP reconciler mirrors a node's VTEP, with the addresses of the node's IP instances in the
subnets of that `SubnetSet`. The parent's create webhook refuses a remote subnet that
overlaps one of its own subnets or another remote subnet, and the subnet check compares a
remote cluster's subnets with the parent's.

The parent is modelled by its stores of objects, each a map by name, and the reconcilers'
`SubnetSet`s by cluster. A reconcile step reads the remote cluster through a
`RemoteClusterView`, the answers its client gives at that step, and the parent's API answers
each write with the error `fails` gives for the object's name, if any: a run of steps is then
any interleaving of the reconcilers of all clusters, with the remote clusters changing and
the API failing in any way between and during steps.

`CreateOrPatch` and `Delete` of the client library are modelled as the parent's API carries
them out: a create passes the create webhook, a patch the update webhook, a delete the
delete webhook. `networkingv1.Intersect` is a parameter `intersect`.
-/

namespace Hybridnet

/-! ## The objects -/

/-- `networkingv1.AddressRange`, as the strings of the resource. -/
structure AddressRange where
  cidr : String := ""
  gateway : String := ""
  start : String := ""
  «end» : String := ""
  excludeIPs : List String := []
  reservedIPs : List String := []
  deriving DecidableEq, Repr

/-- The fields of a `networkingv1.Subnet` that are read here; its name is the key it is
stored under. `terminating` is `!DeletionTimestamp.IsZero()`. -/
structure Subnet where
  network : String
  range : AddressRange
  terminating : Bool := false
  deriving DecidableEq, Repr

/-- The field of a `networkingv1.Network` that the subnet reconciler reads. -/
structure Network where
  type : String
  deriving DecidableEq, Repr

/-- The fields of a `multiclusterv1.RemoteSubnet` that are written or read here: the labels
`LabelCluster` and `LabelSubnet` (`""` when missing, as Go reads a missing key), the spec's
type, range and cluster name, and whether it is being deleted. -/
structure RemoteSubnet where
  clusterLabel : String := ""
  subnetLabel : String := ""
  type : String := ""
  range : AddressRange := {}
  clusterName : String := ""
  terminating : Bool := false
  deriving DecidableEq, Repr

/-- `networkingv1.VTEPInfo`. -/
structure VTEPInfo where
  ip : String
  mac : String
  localIPs : List String
  deriving DecidableEq, Repr

/-- The fields of a `networkingv1.NodeInfo` that the VTEP reconciler reads. -/
structure NodeInfo where
  vtepInfo : Option VTEPInfo
  terminating : Bool := false
  deriving DecidableEq, Repr

/-- The fields of a `networkingv1.IPInstance` that `pickEndpointIPListForNode` reads: its
`LabelNode` label (the field the node index is built from), its subnet, the address of its
`Spec.Address.IP` as `net.ParseCIDR` reads it and `String` prints it, whether it is being
deleted, and `networkingv1.IsReserved`. -/
structure IPInstance where
  node : String
  subnet : String
  ip : String
  terminating : Bool := false
  reserved : Bool := false
  deriving DecidableEq, Repr

/-- The fields of a `multiclusterv1.RemoteVtep` that are written or read here. -/
structure RemoteVtep where
  clusterLabel : String := ""
  nodeLabel : String := ""
  clusterName : String := ""
  nodeName : String := ""
  vtepInfo : VTEPInfo := ⟨"", "", []⟩
  endpointIPList : List String := []
  terminating : Bool := false
  deriving DecidableEq, Repr

/-- What the reconcilers of one remote cluster read of it at one step: `Get` of a subnet, of a
network and of a node info by name (`none` is `NotFound`, which only the subnet and node
info branches tell apart), and `List` of the IP instances. -/
structure RemoteClusterView where
  subnet : String → Except String (Option Subnet)
  network : String → Except String Network
  nodeInfo : String → Except String (Option NodeInfo)
  ipInstances : Except String (List IPInstance)

/-- The parent cluster: its own subnets, its remote subnets and remote VTEPs by name, and the
`SubnetSet` of the reconcilers of each remote cluster, by cluster name. -/
structure Parent where
  subnets : List (String × Subnet)
  remoteSubnets : List (String × RemoteSubnet)
  remoteVteps : List (String × RemoteVtep)
  subnetSet : String → List String

/-! ## The webhook of remote subnets -/

/-- `admission.Response`, as the handlers build it. -/
inductive AdmissionResponse
  | allowed (reason : String)
  | denied (reason : String)
  | errored (code : Nat) (err : String)
  deriving DecidableEq, Repr

/-- `RemoteSubnetCreateValidation`: a new remote subnet must not intersect one of the
parent's subnets or a remote subnet already there. `localSubnets` and `remoteSubnets` are
what the handler's two `List` calls return. -/
def remoteSubnetCreateValidation (intersect : AddressRange → AddressRange → Bool)
    (localSubnets : Except String (List (String × Subnet)))
    (remoteSubnets : Except String (List (String × RemoteSubnet))) (remoteSubnet : RemoteSubnet) :
    AdmissionResponse :=
  match localSubnets with
  | .error err => .errored 500 err
  | .ok localSubnets =>
    match localSubnets.find? fun localSubnet => intersect remoteSubnet.range localSubnet.2.range with
    | some localSubnet => .denied ("overlay with existing subnet " ++ localSubnet.1)
    | none =>
      match remoteSubnets with
      | .error err => .errored 500 err
      | .ok remoteSubnets =>
        match remoteSubnets.find? fun compared => intersect remoteSubnet.range compared.2.range with
        | some compared => .denied ("overlay with existing remote subnet " ++ compared.1)
        | none => .allowed "validation pass"

/-- `RemoteSubnetUpdateValidation`. -/
def remoteSubnetUpdateValidation : AdmissionResponse := .allowed "validation pass"

/-- `RemoteSubnetDeleteValidation`. -/
def remoteSubnetDeleteValidation : AdmissionResponse := .allowed "validation pass"

/-- What the API server makes of a webhook's answer: the write goes on, or fails with the
webhook's reason. -/
def admission : AdmissionResponse → Except String Unit
  | .allowed _ => .ok ()
  | .denied reason => .error reason
  | .errored _ err => .error err

/-- The create webhook admits a remote subnet exactly when it intersects none of the parent's
subnets and none of the remote subnets already there. -/
theorem admission_remoteSubnetCreateValidation {intersect : AddressRange → AddressRange → Bool}
    {localSubnets : List (String × Subnet)} {remoteSubnets : List (String × RemoteSubnet)}
    {remoteSubnet : RemoteSubnet} :
    admission (remoteSubnetCreateValidation intersect (.ok localSubnets) (.ok remoteSubnets)
        remoteSubnet) = .ok () ↔
      (∀ localSubnet ∈ localSubnets, intersect remoteSubnet.range localSubnet.2.range = false) ∧
        ∀ compared ∈ remoteSubnets, intersect remoteSubnet.range compared.2.range = false := by
  simp only [remoteSubnetCreateValidation]
  cases foundLocal : localSubnets.find? fun localSubnet =>
      intersect remoteSubnet.range localSubnet.2.range with
  | some localSubnet =>
    refine ⟨fun denied => (nomatch denied), fun ⟨clear, _⟩ => ?_⟩
    have hit := List.find?_some foundLocal
    rw [clear _ (List.mem_of_find?_eq_some foundLocal)] at hit
    cases hit
  | none =>
    have clearLocal := List.find?_eq_none.1 foundLocal
    cases foundRemote : remoteSubnets.find? fun compared =>
        intersect remoteSubnet.range compared.2.range with
    | some compared =>
      refine ⟨fun denied => (nomatch denied), fun ⟨_, clear⟩ => ?_⟩
      have hit := List.find?_some foundRemote
      rw [clear _ (List.mem_of_find?_eq_some foundRemote)] at hit
      cases hit
    | none =>
      have clearRemote := List.find?_eq_none.1 foundRemote
      exact ⟨fun _ => ⟨fun l member => by simpa using clearLocal l member,
        fun r member => by simpa using clearRemote r member⟩, fun _ => rfl⟩

/-! ## The parent's API -/

section Api

variable {α : Type} [DecidableEq α]

/-- `controllerutil.CreateOrPatch(ctx, c, obj, f)` of the object `name`, on the parent's
objects of one kind: a missing object is built by `mutate` from `empty` and created through
the create webhook; an existing one is given to `mutate`, and written through the update
webhook unless `mutate` left it as it was (`OperationResultNone`). -/
def createOrPatch (empty : α) (validateCreate : α → AdmissionResponse)
    (validateUpdate : AdmissionResponse) (fails : Option String) (name : String)
    (mutate : α → Except String α) (store : List (String × α)) :
    Except String (List (String × α)) :=
  match fails with
  | some err => .error err
  | none =>
    match GoMap.get? store name with
    | none => do
        let obj ← mutate empty
        admission (validateCreate obj)
        pure (GoMap.set store name obj)
    | some current => do
        let obj ← mutate current
        if obj = current then pure store
        else do
          admission validateUpdate
          pure (GoMap.set store name obj)

/-- `client.IgnoreNotFound(c.Delete(ctx, obj))` of the object `name`, through the delete
webhook: a missing object is no error. -/
def deleteIgnoreNotFound (validateDelete : AdmissionResponse) (fails : Option String)
    (name : String) (store : List (String × α)) : Except String (List (String × α)) :=
  match fails with
  | some err => .error err
  | none => do
      admission validateDelete
      pure (GoMap.delete store name)


/-! ### What the API does -/

section Lemmas

variable {empty : α} {validateCreate : α → AdmissionResponse}
  {validateUpdate validateDelete : AdmissionResponse} {fails : Option String} {name : String}
  {mutate : α → Except String α} {store store' : List (String × α)}

/-- What a `CreateOrPatch` that returns did: it created the missing object, passed by the
create webhook, as the last one; or it replaced the existing one in place, or left it. -/
theorem createOrPatch_eq_ok
    (ok : createOrPatch empty validateCreate validateUpdate fails name mutate store = .ok store') :
    fails = none ∧
      ((GoMap.get? store name = none ∧ ∃ obj, mutate empty = .ok obj ∧
          admission (validateCreate obj) = .ok () ∧ store' = store ++ [(name, obj)]) ∨
        ∃ current obj, GoMap.get? store name = some current ∧ mutate current = .ok obj ∧
          (store' = store ∧ obj = current ∨ store' = GoMap.set store name obj)) := by
  unfold createOrPatch at ok
  cases fails with
  | some err => cases ok
  | none =>
    refine ⟨rfl, ?_⟩
    cases found : GoMap.get? store name with
    | none =>
      rw [found] at ok
      obtain ⟨obj, mutated, ok⟩ := ok_of_bind_eq_ok ok
      obtain ⟨⟨⟩, admitted, ok⟩ := ok_of_bind_eq_ok ok
      exact .inl ⟨rfl, obj, mutated, admitted,
        (Except.ok.inj ok).symm.trans (GoMap.set_of_get?_eq_none found)⟩
    | some current =>
      rw [found] at ok
      obtain ⟨obj, mutated, ok⟩ := ok_of_bind_eq_ok ok
      refine .inr ⟨current, obj, rfl, mutated, ?_⟩
      split_ifs at ok with same
      · exact .inl ⟨(Except.ok.inj ok).symm, same⟩
      · obtain ⟨⟨⟩, -, ok⟩ := ok_of_bind_eq_ok ok
        exact .inr (Except.ok.inj ok).symm

omit [DecidableEq α] in
theorem deleteIgnoreNotFound_eq_ok
    (ok : deleteIgnoreNotFound validateDelete fails name store = .ok store') :
    store' = GoMap.delete store name := by
  unfold deleteIgnoreNotFound at ok
  cases fails with
  | some err => cases ok
  | none =>
    obtain ⟨⟨⟩, -, ok⟩ := ok_of_bind_eq_ok ok
    exact (Except.ok.inj ok).symm

/-- After a `CreateOrPatch` that returns, the object `name` is one `mutate` returned, and
every other name finds what it found before. -/
theorem get?_of_createOrPatch_eq_ok
    (ok : createOrPatch empty validateCreate validateUpdate fails name mutate store = .ok store') :
    (∃ x obj, mutate x = .ok obj ∧ GoMap.get? store' name = some obj) ∧
      ∀ k, k ≠ name → GoMap.get? store' k = GoMap.get? store k := by
  obtain ⟨-, ⟨missing, obj, mutated, -, rfl⟩ | ⟨current, obj, found, mutated, kept⟩⟩ :=
    createOrPatch_eq_ok ok
  · rw [← GoMap.set_of_get?_eq_none missing]
    exact ⟨⟨empty, obj, mutated, GoMap.get?_set_self⟩, fun k other => GoMap.get?_set_of_ne other⟩
  · rcases kept with ⟨rfl, rfl⟩ | rfl
    · exact ⟨⟨_, _, mutated, found⟩, fun _ _ => rfl⟩
    · exact ⟨⟨current, obj, mutated, GoMap.get?_set_self⟩, fun k other => GoMap.get?_set_of_ne other⟩

/-- After a `CreateOrPatch` that returns, every object was there before, or is the object
`name` as `mutate` returned it. -/
theorem mem_of_createOrPatch_eq_ok
    (ok : createOrPatch empty validateCreate validateUpdate fails name mutate store = .ok store') :
    ∀ entry ∈ store', entry ∈ store ∨ entry.1 = name ∧ ∃ x, mutate x = .ok entry.2 := by
  intro entry member
  obtain ⟨-, ⟨-, obj, mutated, -, rfl⟩ | ⟨current, obj, -, mutated, kept⟩⟩ :=
    createOrPatch_eq_ok ok
  · rcases List.mem_append.1 member with old | new
    · exact .inl old
    · obtain rfl := List.mem_singleton.1 new
      exact .inr ⟨rfl, empty, mutated⟩
  · rcases kept with ⟨rfl, -⟩ | rfl
    · exact .inl member
    · rcases GoMap.mem_set member with rfl | old
      · exact .inr ⟨rfl, current, mutated⟩
      · exact .inl old

end Lemmas

end Api

/-! ## The reconcilers -/

/-- `wrapError(msg, err)` (its body is not among the sources): `nil` for `nil`, and
otherwise an error carrying the message and the cause, kept here as the pair. -/
def wrapError (msg : String) : Except String Unit → Except (String × String) Unit
  | .ok () => .ok ()
  | .error err => .error (msg, err)

/-- `SubnetSet.Insert(name)`. -/
def subnetSetInsert (subnetSet : List String) (name : String) : List String :=
  if name ∈ subnetSet then subnetSet else subnetSet ++ [name]

/-- `SubnetSet.Delete(name)`. -/
def subnetSetDelete (subnetSet : List String) (name : String) : List String :=
  subnetSet.filter (· ≠ name)

/-- The function `CreateOrPatch` is given by the subnet reconciler of `clusterName`, for the
subnet `subnetName` of the network `network`. -/
def mutateRemoteSubnet (clusterName subnetName : String) (subnet : Subnet) (network : Network)
    (name : String) (remoteSubnet : RemoteSubnet) : Except String RemoteSubnet :=
  if remoteSubnet.terminating then
    .error ("remote subnet " ++ name ++ " is terminating, can not be updated")
  else
    .ok { remoteSubnet with
      clusterLabel := clusterName, subnetLabel := subnetName, type := network.type,
      range := subnet.range, clusterName := clusterName }

/-- `cleanRemoteSubnet(ctx, subnetName)` of the subnet reconciler of `clusterName`. -/
def cleanRemoteSubnet (clusterName : String) (fails : String → Option String)
    (subnetName : String) (parent : Parent) : Except String Unit × Parent :=
  let subnetSet := Function.update parent.subnetSet clusterName
    (subnetSetDelete (parent.subnetSet clusterName) subnetName)
  let name := generateRemoteSubnetName clusterName subnetName
  match deleteIgnoreNotFound remoteSubnetDeleteValidation (fails name) name parent.remoteSubnets with
  | .error err => (.error err, { parent with subnetSet })
  | .ok remoteSubnets => (.ok (), { parent with subnetSet, remoteSubnets })

/-- `RemoteSubnetReconciler.Reconcile` of the remote cluster `clusterName` for the subnet
`name`. The status patch that records the time of a change is left out: its error is only
logged. -/
def reconcileRemoteSubnet (intersect : AddressRange → AddressRange → Bool) (clusterName : String)
    (cluster : RemoteClusterView) (fails : String → Option String) (name : String)
    (parent : Parent) : Except (String × String) Unit × Parent :=
  match cluster.subnet name with
  | .error err => (.error ("unable to get subnet", err), parent)
  | .ok none =>
      let cleaned := cleanRemoteSubnet clusterName fails name parent
      (wrapError "unable to clean remote subnet" cleaned.1, cleaned.2)
  | .ok (some subnet) =>
      if subnet.terminating then (.ok (), (cleanRemoteSubnet clusterName fails name parent).2)
      else
        match cluster.network subnet.network with
        | .error err => (.error ("unable to get network", err), parent)
        | .ok network =>
          let remoteName := generateRemoteSubnetName clusterName name
          match createOrPatch {}
              (remoteSubnetCreateValidation intersect (.ok parent.subnets)
                (.ok parent.remoteSubnets))
              remoteSubnetUpdateValidation (fails remoteName) remoteName
              (mutateRemoteSubnet clusterName name subnet network remoteName)
              parent.remoteSubnets with
          | .error err => (.error ("unable to update remote subnet", err), parent)
          | .ok remoteSubnets =>
            (.ok (), { parent with
              remoteSubnets,
              subnetSet := Function.update parent.subnetSet clusterName
                (subnetSetInsert (parent.subnetSet clusterName) name) })

/-- The tests of the loop of `pickEndpointIPListForNode`: the IP instance is in a subnet of
the `SubnetSet`, is not being deleted and is not reserved. -/
def isEndpointInstance (subnetSet : List String) (ipInstance : IPInstance) : Bool :=
  subnetSet.contains ipInstance.subnet && !ipInstance.terminating && !ipInstance.reserved

/-- `pickEndpointIPListForNode(ctx, nodeName)`: the addresses of the node's IP instances
that pass the tests, sorted. The node index lists an IP instance under its non-empty
`LabelNode` label. -/
def pickEndpointIPListForNode (subnetSet : List String)
    (ipInstances : Except String (List IPInstance)) (nodeName : String) :
    Except String (List String) := do
  let ipInstanceList ← ipInstances
  let onNode := ipInstanceList.filter fun ipInstance =>
    ipInstance.node != "" && ipInstance.node == nodeName
  let endpoints := (onNode.filter (isEndpointInstance subnetSet)).map IPInstance.ip
  pure (endpoints.mergeSort fun a b => decide (a ≤ b))

/-- The function `CreateOrPatch` is given by the VTEP reconciler of `clusterName`, for the
node `nodeName`. -/
def mutateRemoteVtep (clusterName nodeName : String) (vtepInfo : VTEPInfo)
    (endpointIPList : List String) (name : String) (remoteVtep : RemoteVtep) :
    Except String RemoteVtep :=
  if remoteVtep.terminating then
    .error ("remote VTEP " ++ name ++ " is terminating, can not be updated")
  else
    .ok { remoteVtep with
      clusterLabel := clusterName, nodeLabel := nodeName, clusterName := clusterName,
      nodeName := nodeName, vtepInfo := vtepInfo, endpointIPList := endpointIPList }

/-- `cleanVTEPForNode(ctx, nodeName)` of the VTEP reconciler of `clusterName`. Remote VTEPs
have no webhook among the sources: every write is admitted. -/
def cleanVTEPForNode (clusterName : String) (fails : String → Option String) (nodeName : String)
    (parent : Parent) : Except String Unit × Parent :=
  let name := generateVTEPName clusterName nodeName
  match deleteIgnoreNotFound (.allowed "") (fails name) name parent.remoteVteps with
  | .error err => (.error err, parent)
  | .ok remoteVteps => (.ok (), { parent with remoteVteps })

/-- `RemoteVtepReconciler.Reconcile` of the remote cluster `clusterName` for the node
`name`. The status patch is left out, as for subnets. -/
def reconcileRemoteVtep (clusterName : String) (cluster : RemoteClusterView)
    (fails : String → Option String) (name : String) (parent : Parent) :
    Except (String × String) Unit × Parent :=
  match cluster.nodeInfo name with
  | .error err => (.error ("unable to get node", err), parent)
  | .ok none =>
      let cleaned := cleanVTEPForNode clusterName fails name parent
      (wrapError "unable to clean VTEP for node" cleaned.1, cleaned.2)
  | .ok (some nodeInfo) =>
      if nodeInfo.terminating then (.ok (), (cleanVTEPForNode clusterName fails name parent).2)
      else
        match nodeInfo.vtepInfo with
        | none => (.ok (), parent)
        | some vtepInfo =>
          if vtepInfo.ip.isEmpty || vtepInfo.mac.isEmpty then (.ok (), parent)
          else
            match pickEndpointIPListForNode (parent.subnetSet clusterName) cluster.ipInstances
                name with
            | .error err => (.error ("unable to pick endpoint IP list for node", err), parent)
            | .ok endpointIPList =>
              let remoteName := generateVTEPName clusterName name
              match createOrPatch {} (fun _ => .allowed "") (.allowed "") (fails remoteName)
                  remoteName (mutateRemoteVtep clusterName name vtepInfo endpointIPList remoteName)
                  parent.remoteVteps with
              | .error err => (.error ("unable to update VTEP", err), parent)
              | .ok remoteVteps => (.ok (), { parent with remoteVteps })

/-- One reconcile of one of the reconcilers of the remote cluster `clusterName`, with what
that cluster's client answers and how the parent's API fails at that step. -/
inductive Reconcile
  | remoteSubnet (clusterName : String) (cluster : RemoteClusterView)
      (fails : String → Option String) (name : String)
  | remoteVtep (clusterName : String) (cluster : RemoteClusterView)
      (fails : String → Option String) (name : String)

/-- The cluster whose reconciler takes the step. -/
def Reconcile.clusterName : Reconcile → String
  | .remoteSubnet clusterName .. | .remoteVtep clusterName .. => clusterName

/-- The parent after the step; its result is only logged. -/
def Reconcile.run (intersect : AddressRange → AddressRange → Bool) : Reconcile → Parent → Parent
  | .remoteSubnet clusterName cluster fails name, parent =>
      (reconcileRemoteSubnet intersect clusterName cluster fails name parent).2
  | .remoteVtep clusterName cluster fails name, parent =>
      (reconcileRemoteVtep clusterName cluster fails name parent).2

@[simp] theorem Reconcile.run_remoteSubnet (intersect : AddressRange → AddressRange → Bool)
    (clusterName : String) (cluster : RemoteClusterView) (fails : String → Option String)
    (name : String) (parent : Parent) :
    (Reconcile.remoteSubnet clusterName cluster fails name).run intersect parent =
      (reconcileRemoteSubnet intersect clusterName cluster fails name parent).2 := rfl

@[simp] theorem Reconcile.run_remoteVtep (intersect : AddressRange → AddressRange → Bool)
    (clusterName : String) (cluster : RemoteClusterView) (fails : String → Option String)
    (name : String) (parent : Parent) :
    (Reconcile.remoteVtep clusterName cluster fails name).run intersect parent =
      (reconcileRemoteVtep clusterName cluster fails name parent).2 := rfl

/-- The parent after the steps, in turn. -/
def runReconciles (intersect : AddressRange → AddressRange → Bool) (steps : List Reconcile)
    (parent : Parent) : Parent :=
  steps.foldl (fun parent step => step.run intersect parent) parent

/-! ### What a reconcile does -/

theorem mutateRemoteSubnet_eq_ok {clusterName subnetName name : String} {subnet : Subnet}
    {network : Network} {remoteSubnet obj : RemoteSubnet}
    (ok : mutateRemoteSubnet clusterName subnetName subnet network name remoteSubnet = .ok obj) :
    obj.clusterLabel = clusterName ∧ obj.subnetLabel = subnetName ∧
      obj.clusterName = clusterName ∧ obj.range = subnet.range := by
  unfold mutateRemoteSubnet at ok
  split at ok
  · cases ok
  · cases ok
    exact ⟨rfl, rfl, rfl, rfl⟩

theorem mutateRemoteVtep_eq_ok {clusterName nodeName name : String} {vtepInfo : VTEPInfo}
    {endpointIPList : List String} {remoteVtep obj : RemoteVtep}
    (ok : mutateRemoteVtep clusterName nodeName vtepInfo endpointIPList name remoteVtep = .ok obj) :
    obj.clusterLabel = clusterName ∧ obj.nodeLabel = nodeName ∧ obj.clusterName = clusterName ∧
      obj.nodeName = nodeName ∧ obj.endpointIPList = endpointIPList := by
  unfold mutateRemoteVtep at ok
  split at ok
  · cases ok
  · cases ok
    exact ⟨rfl, rfl, rfl, rfl, rfl⟩

theorem sorted_mergeSort_string (l : List String) :
    (l.mergeSort fun a b => decide (a ≤ b)).Sorted (· ≤ ·) :=
  (List.sorted_mergeSort (fun _ _ _ first second => by
      simp only [decide_eq_true_eq] at *
      exact le_trans first second)
    (fun a b => by simpa using le_total a b) l).imp fun ordered => by simpa using ordered

/-- The endpoint list is sorted, and holds the addresses of exactly the IP instances of the
node that are in a subnet of the `SubnetSet`, not being deleted and not reserved. -/
theorem pickEndpointIPListForNode_spec (subnetSet : List String)
    (ipInstanceList : List IPInstance) (nodeName : String) :
    let endpointIPList := pickEndpointIPListForNode subnetSet (.ok ipInstanceList) nodeName
    ∃ endpoints, endpointIPList = .ok endpoints ∧ endpoints.Sorted (· ≤ ·) ∧
      ∀ ip, ip ∈ endpoints ↔ ∃ ipInstance ∈ ipInstanceList, ipInstance.node ≠ "" ∧
        ipInstance.node = nodeName ∧ ipInstance.subnet ∈ subnetSet ∧
        ipInstance.terminating = false ∧ ipInstance.reserved = false ∧ ipInstance.ip = ip := by
  refine ⟨_, rfl, sorted_mergeSort_string _, fun ip => ?_⟩
  rw [(List.mergeSort_perm _ _).mem_iff]
  simp only [List.mem_map, List.mem_filter, isEndpointInstance, Bool.and_eq_true, bne_iff_ne,
    ne_eq, beq_iff_eq, List.elem_iff, Bool.not_eq_true']
  constructor
  · rintro ⟨ipInstance, ⟨⟨member, named, onNode⟩, ⟨inSet, live⟩, unreserved⟩, rfl⟩
    exact ⟨ipInstance, member, named, onNode, inSet, live, unreserved, rfl⟩
  · rintro ⟨ipInstance, member, named, onNode, inSet, live, unreserved, rfl⟩
    exact ⟨ipInstance, ⟨⟨member, named, onNode⟩, ⟨inSet, live⟩, unreserved⟩, rfl⟩

/-- The endpoint list does not depend on the order in which `List` returns the IP
instances. -/
theorem pickEndpointIPListForNode_perm {subnetSet : List String}
    {ipInstanceList ipInstanceList' : List IPInstance} (perm : ipInstanceList.Perm ipInstanceList')
    (nodeName : String) :
    pickEndpointIPListForNode subnetSet (.ok ipInstanceList) nodeName =
      pickEndpointIPListForNode subnetSet (.ok ipInstanceList') nodeName := by
  show Except.ok _ = Except.ok _
  congr 1
  exact List.eq_of_perm_of_sorted ((List.mergeSort_perm _ _).trans
    ((((perm.filter _).filter _).map _).trans (List.mergeSort_perm _ _).symm))
    (sorted_mergeSort_string _) (sorted_mergeSort_string _)

/-- `pickEndpointIPListForNode` returns, sorted, the addresses of exactly the IP instances of
the node that are in a subnet of the `SubnetSet`, not being deleted and not reserved; and it
returns the same list whatever the order in which `List` returns the IP instances ("sort will
make deep-equal stable"). -/
theorem pickEndpointIPListForNode_sorted_and_stable (subnetSet : List String)
    (ipInstanceList : List IPInstance) (nodeName : String) :
    (∃ endpoints, pickEndpointIPListForNode subnetSet (.ok ipInstanceList) nodeName = .ok endpoints ∧
      endpoints.Sorted (· ≤ ·) ∧
      ∀ ip, ip ∈ endpoints ↔ ∃ ipInstance ∈ ipInstanceList, ipInstance.node ≠ "" ∧
        ipInstance.node = nodeName ∧ ipInstance.subnet ∈ subnetSet ∧
        ipInstance.terminating = false ∧ ipInstance.reserved = false ∧ ipInstance.ip = ip) ∧
    ∀ ipInstanceList', ipInstanceList.Perm ipInstanceList' →
      pickEndpointIPListForNode subnetSet (.ok ipInstanceList') nodeName =
        pickEndpointIPListForNode subnetSet (.ok ipInstanceList) nodeName :=
  ⟨pickEndpointIPListForNode_spec subnetSet ipInstanceList nodeName,
    fun _ perm => (pickEndpointIPListForNode_perm perm nodeName).symm⟩

theorem cleanRemoteSubnet_cases (clusterName : String) (fails : String → Option String)
    (name : String) (parent : Parent) :
    let after := (cleanRemoteSubnet clusterName fails name parent).2
    after.subnets = parent.subnets ∧ after.remoteVteps = parent.remoteVteps ∧
      after.subnetSet = Function.update parent.subnetSet clusterName
        (subnetSetDelete (parent.subnetSet clusterName) name) ∧
      (after.remoteSubnets = parent.remoteSubnets ∨
        after.remoteSubnets =
          GoMap.delete parent.remoteSubnets (generateRemoteSubnetName clusterName name)) := by
  unfold cleanRemoteSubnet
  dsimp only
  split
  · exact ⟨rfl, rfl, rfl, .inl rfl⟩
  · next deleted => exact ⟨rfl, rfl, rfl, .inr (deleteIgnoreNotFound_eq_ok deleted)⟩

/-- Everything a reconcile of the subnet reconciler of `clusterName` can do to the parent:
nothing; clean the mirror of `name`, dropping `name` from the `SubnetSet` and deleting the
mirror unless the delete fails; or write the mirror through `CreateOrPatch` and add `name` to
the `SubnetSet`. It touches neither the parent's subnets nor its remote VTEPs. -/
theorem reconcileRemoteSubnet_cases (intersect : AddressRange → AddressRange → Bool)
    (clusterName : String) (cluster : RemoteClusterView) (fails : String → Option String)
    (name : String) (parent : Parent) :
    let after := (reconcileRemoteSubnet intersect clusterName cluster fails name parent).2
    let remoteName := generateRemoteSubnetName clusterName name
    after.subnets = parent.subnets ∧ after.remoteVteps = parent.remoteVteps ∧
      ((after.remoteSubnets = parent.remoteSubnets ∧ after.subnetSet = parent.subnetSet) ∨
        (after.subnetSet = Function.update parent.subnetSet clusterName
            (subnetSetDelete (parent.subnetSet clusterName) name) ∧
          (after.remoteSubnets = parent.remoteSubnets ∨
            after.remoteSubnets = GoMap.delete parent.remoteSubnets remoteName)) ∨
        ∃ subnet network, cluster.subnet name = .ok (some subnet) ∧
          cluster.network subnet.network = .ok network ∧
          createOrPatch {}
            (remoteSubnetCreateValidation intersect (.ok parent.subnets) (.ok parent.remoteSubnets))
            remoteSubnetUpdateValidation (fails remoteName) remoteName
            (mutateRemoteSubnet clusterName name subnet network remoteName)
            parent.remoteSubnets = .ok after.remoteSubnets ∧
          after.subnetSet = Function.update parent.subnetSet clusterName
            (subnetSetInsert (parent.subnetSet clusterName) name)) := by
  have cleaned := cleanRemoteSubnet_cases clusterName fails name parent
  unfold reconcileRemoteSubnet
  split
  · exact ⟨rfl, rfl, .inl ⟨rfl, rfl⟩⟩
  · exact ⟨cleaned.1, cleaned.2.1, .inr (.inl cleaned.2.2)⟩
  · next subnet found =>
    split
    · exact ⟨cleaned.1, cleaned.2.1, .inr (.inl cleaned.2.2)⟩
    · split
      · exact ⟨rfl, rfl, .inl ⟨rfl, rfl⟩⟩
      · next network networkFound =>
        dsimp only
        split
        · exact ⟨rfl, rfl, .inl ⟨rfl, rfl⟩⟩
        · next remoteSubnets written =>
          exact ⟨rfl, rfl, .inr (.inr ⟨subnet, network, found, networkFound, written, rfl⟩)⟩

/-- Everything a reconcile of the VTEP reconciler of `clusterName` can do to the parent:
nothing, delete the VTEP of `name`, or write it through `CreateOrPatch` with the endpoint
list `pickEndpointIPListForNode` returns. It touches only the remote VTEPs. -/
theorem reconcileRemoteVtep_cases (clusterName : String) (cluster : RemoteClusterView)
    (fails : String → Option String) (name : String) (parent : Parent) :
    let after := (reconcileRemoteVtep clusterName cluster fails name parent).2
    let remoteName := generateVTEPName clusterName name
    after.subnets = parent.subnets ∧ after.remoteSubnets = parent.remoteSubnets ∧
      after.subnetSet = parent.subnetSet ∧
      (after.remoteVteps = parent.remoteVteps ∨
        after.remoteVteps = GoMap.delete parent.remoteVteps remoteName ∨
        ∃ vtepInfo endpointIPList,
          pickEndpointIPListForNode (parent.subnetSet clusterName) cluster.ipInstances name =
            .ok endpointIPList ∧
          createOrPatch {} (fun _ => .allowed "") (.allowed "") (fails remoteName) remoteName
            (mutateRemoteVtep clusterName name vtepInfo endpointIPList remoteName)
            parent.remoteVteps = .ok after.remoteVteps) := by
  have cleaned : let after := (cleanVTEPForNode clusterName fails name parent).2
      after.subnets = parent.subnets ∧ after.remoteSubnets = parent.remoteSubnets ∧
        after.subnetSet = parent.subnetSet ∧ (after.remoteVteps = parent.remoteVteps ∨
          after.remoteVteps = GoMap.delete parent.remoteVteps (generateVTEPName clusterName name)) := by
    unfold cleanVTEPForNode
    dsimp only
    split
    · exact ⟨rfl, rfl, rfl, .inl rfl⟩
    · next deleted => exact ⟨rfl, rfl, rfl, .inr (deleteIgnoreNotFound_eq_ok deleted)⟩
  obtain ⟨same, same', same'', vteps⟩ := cleaned
  unfold reconcileRemoteVtep
  split
  · exact ⟨rfl, rfl, rfl, .inl rfl⟩
  · exact ⟨same, same', same'', vteps.imp_right .inl⟩
  · split
    · exact ⟨same, same', same'', vteps.imp_right .inl⟩
    · split
      · exact ⟨rfl, rfl, rfl, .inl rfl⟩
      · next vtepInfo _ =>
        split
        · exact ⟨rfl, rfl, rfl, .inl rfl⟩
        · split
          · exact ⟨rfl, rfl, rfl, .inl rfl⟩
          · next endpointIPList picked =>
            dsimp only
            split
            · exact ⟨rfl, rfl, rfl, .inl rfl⟩
            · next remoteVteps written =>
              exact ⟨rfl, rfl, rfl, .inr (.inr ⟨vtepInfo, endpointIPList, picked, written⟩)⟩

/-! ## The subnet check -/

/-- `loopback` of `Subnet.Check`: the remote subnet is the mirror, in the parent, of the
subnet `subnetName` of the cluster `clusterName`, by its labels. -/
def isLoopback (clusterName subnetName : String) (remoteSubnet : RemoteSubnet) : Bool :=
  remoteSubnet.clusterLabel == clusterName && remoteSubnet.subnetLabel == subnetName

/-- The two loops of `Subnet.Check` for one subnet of the checked cluster. -/
def checkSubnetOfCluster (intersect : AddressRange → AddressRange → Bool) (clusterName : String)
    (localSubnets : List (String × Subnet)) (localRemoteSubnets : List (String × RemoteSubnet))
    (subnetOfCluster : String × Subnet) : Except String Unit :=
  match localSubnets.find? fun localSubnet =>
      intersect subnetOfCluster.2.range localSubnet.2.range with
  | some localSubnet =>
    .error ("subnet " ++ subnetOfCluster.1 ++ " in cluster intersect with local subnet " ++
      localSubnet.1)
  | none =>
    match localRemoteSubnets.find? fun localRemoteSubnet =>
        !isLoopback clusterName subnetOfCluster.1 localRemoteSubnet.2 &&
          intersect subnetOfCluster.2.range localRemoteSubnet.2.range with
    | some localRemoteSubnet =>
      .error ("subnet " ++ subnetOfCluster.1 ++ " in cluster intersect with local remote subnet " ++
        localRemoteSubnet.1)
    | none => .ok ()

/-- `Subnet.Check` of the remote cluster `clusterName` (`options.ClusterName`), from what its
three `List` calls return: the subnets of the checked cluster, and the parent's subnets and
remote subnets. -/
def subnetCheck (intersect : AddressRange → AddressRange → Bool) (clusterName : String)
    (subnetsOfCluster : Except String (List (String × Subnet)))
    (localSubnets : Except String (List (String × Subnet)))
    (localRemoteSubnets : Except String (List (String × RemoteSubnet))) : Except String Unit := do
  let subnetsOfCluster ← subnetsOfCluster
  let localSubnets ← localSubnets
  let localRemoteSubnets ← localRemoteSubnets
  subnetsOfCluster.forM (checkSubnetOfCluster intersect clusterName localSubnets localRemoteSubnets)

/-- The check of one subnet passes exactly when it intersects no subnet of the parent, and no
remote subnet of the parent that is not its loopback. -/
theorem checkSubnetOfCluster_eq_ok {intersect : AddressRange → AddressRange → Bool}
    {clusterName : String} {localSubnets : List (String × Subnet)}
    {localRemoteSubnets : List (String × RemoteSubnet)} {subnetOfCluster : String × Subnet} :
    checkSubnetOfCluster intersect clusterName localSubnets localRemoteSubnets subnetOfCluster =
        .ok () ↔
      (∀ localSubnet ∈ localSubnets,
        intersect subnetOfCluster.2.range localSubnet.2.range = false) ∧
      ∀ localRemoteSubnet ∈ localRemoteSubnets,
        isLoopback clusterName subnetOfCluster.1 localRemoteSubnet.2 = false →
          intersect subnetOfCluster.2.range localRemoteSubnet.2.range = false := by
  unfold checkSubnetOfCluster
  cases foundLocal : localSubnets.find? fun localSubnet =>
      intersect subnetOfCluster.2.range localSubnet.2.range with
  | some localSubnet =>
    refine ⟨fun failed => (nomatch failed), fun ⟨clear, _⟩ => ?_⟩
    have hit := List.find?_some foundLocal
    rw [clear _ (List.mem_of_find?_eq_some foundLocal)] at hit
    cases hit
  | none =>
    have clearLocal := List.find?_eq_none.1 foundLocal
    cases foundRemote : localRemoteSubnets.find? fun localRemoteSubnet =>
        !isLoopback clusterName subnetOfCluster.1 localRemoteSubnet.2 &&
          intersect subnetOfCluster.2.range localRemoteSubnet.2.range with
    | some localRemoteSubnet =>
      refine ⟨fun failed => (nomatch failed), fun ⟨_, clear⟩ => ?_⟩
      have hit := List.find?_some foundRemote
      rw [Bool.and_eq_true, Bool.not_eq_true'] at hit
      rw [clear _ (List.mem_of_find?_eq_some foundRemote) hit.1] at hit
      cases hit.2
    | none =>
      have clearRemote := List.find?_eq_none.1 foundRemote
      refine ⟨fun _ => ⟨fun l member => by simpa using clearLocal l member,
        fun r member notLoopback => ?_⟩, fun _ => rfl⟩
      simpa [notLoopback] using clearRemote r member

/-- When the three lists are read, the check passes exactly when each subnet of the checked
cluster passes. -/
theorem subnetCheck_eq_ok {intersect : AddressRange → AddressRange → Bool} {clusterName : String}
    {subnetsOfCluster localSubnets : List (String × Subnet)}
    {localRemoteSubnets : List (String × RemoteSubnet)} :
    subnetCheck intersect clusterName (.ok subnetsOfCluster) (.ok localSubnets)
        (.ok localRemoteSubnets) = .ok () ↔
      ∀ subnetOfCluster ∈ subnetsOfCluster,
        checkSubnetOfCluster intersect clusterName localSubnets localRemoteSubnets subnetOfCluster =
          .ok () :=
  forM_except_eq_ok _ subnetsOfCluster

end Hybridnet
