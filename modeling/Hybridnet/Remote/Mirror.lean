import Hybridnet.Remote.Reconcile

/-!
# What the reconcilers keep in the parent cluster

After every run of the reconcilers of any remote clusters, with the remote clusters changing
and the parent's API failing in any way between and during the steps:

* every mirror is named after its labels (`Named`), whatever the cluster names are;
* when no cluster name has a dot, every subnet of a `SubnetSet` has its mirror in the parent
  (`Mirrored`), and no mirror's cluster label has a dot (`DotFree`);
* what the create webhook checks of a new remote subnet (`NoOverlap.create`). The reconcile
  step is one atomic step here, but the webhook and the API server's write are two, and the
  creates of other clusters may fall between them; so no invariant of overlap is stated over
  runs.

From these, the subnet check's loopback test, made on labels, exempts for each subnet
exactly the remote subnet that bears the name of its mirror; and a node's VTEP is published
only with the addresses of subnets that were mirrored before.

Each invariant is kept by one step (`Named.run`, `Mirrored.run`, `DotFree.run`), from the case analysis of `reconcileRemoteSubnet_cases` and
`reconcileRemoteVtep_cases`, and by a run through `runReconciles_keeps`.
-/

namespace Hybridnet

/-! ## Runs -/

section Runs

variable (intersect : AddressRange → AddressRange → Bool)

/-- Each step of `steps` satisfies `allowed` in the parent it starts from. -/
def Along (allowed : Reconcile → Parent → Prop) : List Reconcile → Parent → Prop
  | [], _ => True
  | step :: steps, parent => allowed step parent ∧ Along allowed steps (step.run intersect parent)

variable {intersect}

/-- An invariant that each step `allowed` lets through keeps is kept by a run of such
steps. -/
theorem runReconciles_keeps {inv : Parent → Prop} {allowed : Reconcile → Parent → Prop}
    (keeps : ∀ step parent, allowed step parent → inv parent → inv (step.run intersect parent)) :
    ∀ steps parent, Along intersect allowed steps parent → inv parent →
      inv (runReconciles intersect steps parent)
  | [], _, _, held => held
  | step :: steps, parent, ⟨first, rest⟩, held =>
      runReconciles_keeps keeps steps _ rest (keeps step parent first held)

theorem along_of_forall {allowed : Reconcile → Prop} :
    ∀ {steps : List Reconcile} {parent : Parent}, (∀ step ∈ steps, allowed step) →
      Along intersect (fun step _ => allowed step) steps parent
  | [], _, _ => trivial
  | step :: _, _, every =>
      ⟨every step (List.mem_cons_self _ _),
        along_of_forall fun other member => every other (List.mem_cons_of_mem _ member)⟩

end Runs

/-! ## The stores -/

section Stores

variable {α : Type} [DecidableEq α] {p : String × α → Prop} {store store' : List (String × α)}

/-- A property of every object survives a `CreateOrPatch` whose `mutate` returns only objects
that have it under `name`. -/
theorem forall_mem_of_createOrPatch_eq_ok {empty : α} {validateCreate : α → AdmissionResponse}
    {validateUpdate : AdmissionResponse} {fails : Option String} {name : String}
    {mutate : α → Except String α}
    (ok : createOrPatch empty validateCreate validateUpdate fails name mutate store = .ok store')
    (held : ∀ entry ∈ store, p entry) (mutated : ∀ x obj, mutate x = .ok obj → p (name, obj)) :
    ∀ entry ∈ store', p entry := by
  intro entry member
  rcases mem_of_createOrPatch_eq_ok ok entry member with old | ⟨named, x, made⟩
  · exact held entry old
  · obtain ⟨k, v⟩ := entry
    obtain rfl : k = name := named
    exact mutated x v made

omit [DecidableEq α] in
theorem forall_mem_delete (held : ∀ entry ∈ store, p entry) (name : String) :
    ∀ entry ∈ GoMap.delete store name, p entry :=
  fun entry member => held entry (GoMap.mem_delete.1 member).1

end Stores

/-! ## Names and labels -/

/-- Every mirror in the parent is named after its labels, and its spec repeats them. -/
structure Named (parent : Parent) : Prop where
  remoteSubnets : ∀ entry ∈ parent.remoteSubnets,
    entry.1 = generateRemoteSubnetName entry.2.clusterLabel entry.2.subnetLabel ∧
      entry.2.clusterName = entry.2.clusterLabel
  remoteVteps : ∀ entry ∈ parent.remoteVteps,
    entry.1 = generateVTEPName entry.2.clusterLabel entry.2.nodeLabel ∧
      entry.2.clusterName = entry.2.clusterLabel ∧ entry.2.nodeName = entry.2.nodeLabel

/-- The cluster label of every remote subnet has no dot. -/
def DotFree (parent : Parent) : Prop :=
  ∀ entry ∈ parent.remoteSubnets, '.' ∉ entry.2.clusterLabel.toList

section Step

variable {intersect : AddressRange → AddressRange → Bool} {parent : Parent}

theorem Named.run (named : Named parent) (step : Reconcile) :
    Named (step.run intersect parent) := by
  cases step with
  | remoteSubnet clusterName cluster fails name =>
    obtain ⟨-, vteps, ⟨kept, -⟩ | ⟨-, kept | deleted⟩ | ⟨subnet, network, -, -, written, -⟩⟩ :=
      reconcileRemoteSubnet_cases intersect clusterName cluster fails name parent
    all_goals refine ⟨?_, vteps ▸ named.remoteVteps⟩
    · exact kept ▸ named.remoteSubnets
    · exact kept ▸ named.remoteSubnets
    · exact deleted ▸ forall_mem_delete named.remoteSubnets _
    · refine forall_mem_of_createOrPatch_eq_ok written named.remoteSubnets fun _ obj made => ?_
      obtain ⟨labelled, labelled', clusterNamed, -⟩ := mutateRemoteSubnet_eq_ok made
      exact ⟨by rw [labelled, labelled'], clusterNamed.trans labelled.symm⟩
  | remoteVtep clusterName cluster fails name =>
    obtain ⟨-, subnets, -, kept | deleted | ⟨vtepInfo, endpointIPList, -, written⟩⟩ :=
      reconcileRemoteVtep_cases clusterName cluster fails name parent
    all_goals refine ⟨subnets ▸ named.remoteSubnets, ?_⟩
    · exact kept ▸ named.remoteVteps
    · exact deleted ▸ forall_mem_delete named.remoteVteps _
    · refine forall_mem_of_createOrPatch_eq_ok written named.remoteVteps fun _ obj made => ?_
      obtain ⟨labelled, labelled', clusterNamed, nodeNamed, -⟩ := mutateRemoteVtep_eq_ok made
      exact ⟨by rw [labelled, labelled'], clusterNamed.trans labelled.symm,
        nodeNamed.trans labelled'.symm⟩

theorem DotFree.run (dotFree : DotFree parent) {step : Reconcile}
    (noDot : '.' ∉ step.clusterName.toList) : DotFree (step.run intersect parent) := by
  unfold DotFree at dotFree ⊢
  cases step with
  | remoteSubnet clusterName cluster fails name =>
    rw [Reconcile.run_remoteSubnet]
    obtain ⟨-, -, ⟨kept, -⟩ | ⟨-, kept | deleted⟩ | ⟨subnet, network, -, -, written, -⟩⟩ :=
      reconcileRemoteSubnet_cases intersect clusterName cluster fails name parent
    · exact kept ▸ dotFree
    · exact kept ▸ dotFree
    · exact deleted ▸ forall_mem_delete dotFree _
    · refine forall_mem_of_createOrPatch_eq_ok written dotFree fun _ obj made => ?_
      exact (mutateRemoteSubnet_eq_ok made).1 ▸ noDot
  | remoteVtep clusterName cluster fails name =>
    rw [Reconcile.run_remoteVtep]
    exact (reconcileRemoteVtep_cases clusterName cluster fails name parent).2.1 ▸ dotFree

end Step

/-! ## Mirrors of the recorded subnets -/

/-- Every subnet in the `SubnetSet` of a cluster whose name has no dot has its mirror in the
parent, under the name built from the two, with the two as its labels. -/
def Mirrored (parent : Parent) : Prop :=
  ∀ clusterName, '.' ∉ clusterName.toList → ∀ name ∈ parent.subnetSet clusterName,
    ∃ remoteSubnet,
      GoMap.get? parent.remoteSubnets (generateRemoteSubnetName clusterName name) =
        some remoteSubnet ∧
      remoteSubnet.clusterLabel = clusterName ∧ remoteSubnet.subnetLabel = name

theorem mem_update_subnetSetDelete {subnetSet : String → List String}
    {clusterName clusterName' name name' : String}
    (member : name ∈ Function.update subnetSet clusterName'
      (subnetSetDelete (subnetSet clusterName') name') clusterName) :
    name ∈ subnetSet clusterName ∧ (clusterName = clusterName' → name ≠ name') := by
  by_cases same : clusterName = clusterName'
  · subst same
    rw [Function.update_same, subnetSetDelete, List.mem_filter, decide_eq_true_eq] at member
    exact ⟨member.1, fun _ => member.2⟩
  · rw [Function.update_noteq same] at member
    exact ⟨member, fun different => absurd different same⟩

theorem mem_update_subnetSetInsert {subnetSet : String → List String}
    {clusterName clusterName' name name' : String}
    (member : name ∈ Function.update subnetSet clusterName'
      (subnetSetInsert (subnetSet clusterName') name') clusterName) :
    clusterName = clusterName' ∧ name = name' ∨ name ∈ subnetSet clusterName := by
  by_cases same : clusterName = clusterName'
  · subst same
    rw [Function.update_same, subnetSetInsert] at member
    split_ifs at member
    · exact .inr member
    · rcases List.mem_append.1 member with old | new
      · exact .inr old
      · exact .inl ⟨rfl, List.mem_singleton.1 new⟩
  · rw [Function.update_noteq same] at member
    exact .inr member

section Step

variable {intersect : AddressRange → AddressRange → Bool} {parent : Parent}

theorem Mirrored.run (mirrored : Mirrored parent) {step : Reconcile}
    (noDot : '.' ∉ step.clusterName.toList) : Mirrored (step.run intersect parent) := by
  cases step with
  | remoteSubnet clusterName' cluster fails name' =>
    intro clusterName noDot' name member
    rw [Reconcile.run_remoteSubnet] at member ⊢
    have other : clusterName = clusterName' → name ≠ name' →
        generateRemoteSubnetName clusterName name ≠ generateRemoteSubnetName clusterName' name' :=
      fun same different collide =>
        different (joinClusterName_injective noDot' noDot collide).2
    have other' : clusterName ≠ clusterName' →
        generateRemoteSubnetName clusterName name ≠ generateRemoteSubnetName clusterName' name' :=
      fun different collide => different (joinClusterName_injective noDot' noDot collide).1
    obtain ⟨-, -, ⟨kept, keptSet⟩ | ⟨dropped, kept | deleted⟩ |
        ⟨subnet, network, -, -, written, inserted⟩⟩ :=
      reconcileRemoteSubnet_cases intersect clusterName' cluster fails name' parent
    · rw [keptSet] at member
      exact kept ▸ mirrored clusterName noDot' name member
    · rw [dropped] at member
      exact kept ▸ mirrored clusterName noDot' name (mem_update_subnetSetDelete member).1
    · rw [dropped] at member
      obtain ⟨old, fresh⟩ := mem_update_subnetSetDelete member
      rw [deleted, GoMap.get?_delete_of_ne (by
        by_cases same : clusterName = clusterName'
        · exact other same (fresh same)
        · exact other' same)]
      exact mirrored clusterName noDot' name old
    · rw [inserted] at member
      obtain ⟨⟨x, obj, made, found⟩, others⟩ := get?_of_createOrPatch_eq_ok written
      rcases mem_update_subnetSetInsert member with ⟨rfl, rfl⟩ | old
      · obtain ⟨labelled, labelled', -⟩ := mutateRemoteSubnet_eq_ok made
        exact ⟨obj, found, labelled, labelled'⟩
      · by_cases same : clusterName = clusterName' ∧ name = name'
        · obtain ⟨rfl, rfl⟩ := same
          obtain ⟨labelled, labelled', -⟩ := mutateRemoteSubnet_eq_ok made
          exact ⟨obj, found, labelled, labelled'⟩
        · rw [others _ (by
            by_cases same' : clusterName = clusterName'
            · exact other same' fun same'' => same ⟨same', same''⟩
            · exact other' same')]
          exact mirrored clusterName noDot' name old
  | remoteVtep clusterName' cluster fails name' =>
    obtain ⟨-, kept, keptSet, -⟩ := reconcileRemoteVtep_cases clusterName' cluster fails name' parent
    intro clusterName noDot' name member
    rw [Reconcile.run_remoteVtep] at member ⊢
    rw [keptSet] at member
    exact kept ▸ mirrored clusterName noDot' name member

end Step

section Run

variable {intersect : AddressRange → AddressRange → Bool} {parent : Parent}

theorem Named.runReconciles (named : Named parent) (steps : List Reconcile) :
    Named (runReconciles intersect steps parent) :=
  @runReconciles_keeps intersect Named (fun _ _ => True) (fun step _ _ named => named.run step) steps
    parent (along_of_forall fun _ _ => trivial) named

theorem DotFree.runReconciles (dotFree : DotFree parent) {steps : List Reconcile}
    (noDots : ∀ step ∈ steps, '.' ∉ step.clusterName.toList) :
    DotFree (runReconciles intersect steps parent) :=
  runReconciles_keeps (fun _ _ noDot dotFree => dotFree.run noDot) steps parent
    (along_of_forall noDots) dotFree

theorem Mirrored.runReconciles (mirrored : Mirrored parent) {steps : List Reconcile}
    (noDots : ∀ step ∈ steps, '.' ∉ step.clusterName.toList) :
    Mirrored (runReconciles intersect steps parent) :=
  runReconciles_keeps (fun _ _ noDot mirrored => mirrored.run noDot) steps parent
    (along_of_forall noDots) mirrored

end Run

/-- A remote cluster with the one subnet `name`, of range `range`, in a network of type
`Overlay`, and no nodes. -/
def subnetView (name : String) (range : AddressRange) : RemoteClusterView where
  subnet requested := .ok (if requested = name then some ⟨"network", range, false⟩ else none)
  network _ := .ok ⟨"Overlay"⟩
  nodeInfo _ := .ok none
  ipInstances := .ok []

/-- A parent with no subnets, no mirrors and empty `SubnetSet`s. -/
def emptyParent : Parent := ⟨[], [], [], fun _ => []⟩

/-- Along every run of the reconcilers of any remote clusters, whatever the remote clusters
answer and however the parent's API fails: every remote subnet and remote VTEP stays named
after its labels; and when no cluster name has a dot, every subnet in the `SubnetSet` of a
cluster keeps its mirror in the parent, labelled with the cluster and the subnet. -/
theorem runReconciles_keeps_mirrors (intersect : AddressRange → AddressRange → Bool)
    (steps : List Reconcile) (parent : Parent) (named : Named parent) (mirrored : Mirrored parent)
    (noDots : ∀ step ∈ steps, '.' ∉ step.clusterName.toList) :
    Named (runReconciles intersect steps parent) ∧ Mirrored (runReconciles intersect steps parent) :=
  ⟨named.runReconciles steps, mirrored.runReconciles noDots⟩

theorem runReconciles_keeps_mirrors_two_clusters :
    let intersect : AddressRange → AddressRange → Bool := fun r r' => decide (r = r')
    let steps : List Reconcile :=
      [.remoteSubnet "c1" (subnetView "s1" { cidr := "10.0.0.0/24" }) (fun _ => none) "s1",
        .remoteSubnet "c2" (subnetView "s2" { cidr := "10.0.1.0/24" }) (fun _ => none) "s2"]
    Named emptyParent ∧ Mirrored emptyParent ∧ (∀ step ∈ steps, '.' ∉ step.clusterName.toList) ∧
      Named (runReconciles intersect steps emptyParent) ∧
      Mirrored (runReconciles intersect steps emptyParent) :=
  have named : Named emptyParent := ⟨fun _ member => (nomatch member), fun _ member => nomatch member⟩
  have mirrored : Mirrored emptyParent := fun _ _ _ member => nomatch member
  have noDots : ∀ step ∈ ([.remoteSubnet "c1" (subnetView "s1" { cidr := "10.0.0.0/24" })
      (fun _ => none) "s1", .remoteSubnet "c2" (subnetView "s2" { cidr := "10.0.1.0/24" })
      (fun _ => none) "s2"] : List Reconcile), '.' ∉ step.clusterName.toList := by decide
  ⟨named, mirrored, noDots, runReconciles_keeps_mirrors _ _ emptyParent named mirrored noDots⟩

/-! ## What the create webhook checks -/

section Overlap

variable (intersect : AddressRange → AddressRange → Bool)

/-- No remote subnet overlaps a subnet of the parent, and none overlaps a remote subnet
created before it (a store lists its objects in the order they were created). -/
structure NoOverlap (subnets : List (String × Subnet))
    (remoteSubnets : List (String × RemoteSubnet)) : Prop where
  keys : (remoteSubnets.map Prod.fst).Nodup
  remote : (remoteSubnets.map fun entry => entry.2.range).Pairwise
    fun earlier later => intersect later earlier = false
  parent : ∀ entry ∈ remoteSubnets, ∀ subnet ∈ subnets, intersect entry.2.range subnet.2.range = false

variable {intersect} {subnets : List (String × Subnet)} {remoteSubnets : List (String × RemoteSubnet)}

/-- A remote subnet that the create webhook admits against the stores it listed keeps those
stores apart once it is added to them. The API server writes it after the webhook, so a create
of another cluster admitted in between is not seen: two overlapping remote subnets can both be
admitted, and no run of the reconcilers is claimed here to keep the stores apart. -/
theorem NoOverlap.create (noOverlap : NoOverlap intersect subnets remoteSubnets) {name : String}
    {remoteSubnet : RemoteSubnet} (missing : GoMap.get? remoteSubnets name = none)
    (admitted : admission (remoteSubnetCreateValidation intersect (.ok subnets) (.ok remoteSubnets)
      remoteSubnet) = .ok ()) :
    NoOverlap intersect subnets (remoteSubnets ++ [(name, remoteSubnet)]) := by
  obtain ⟨apart, apart'⟩ := admission_remoteSubnetCreateValidation.1 admitted
  refine ⟨GoMap.set_of_get?_eq_none missing ▸ GoMap.nodup_keys_set noOverlap.keys, ?_, ?_⟩
  · rw [List.map_append, List.pairwise_append]
    refine ⟨noOverlap.remote, List.pairwise_singleton _ _, fun range member range' member' => ?_⟩
    obtain ⟨entry, old, rfl⟩ := List.mem_map.1 member
    obtain rfl := List.mem_singleton.1 member'
    exact apart' entry old
  · intro entry member
    rcases List.mem_append.1 member with old | new
    · exact noOverlap.parent entry old
    · obtain rfl := List.mem_singleton.1 new
      exact apart

end Overlap

/-! ## The subnet check -/

/-- In a parent whose mirrors are named after their labels and carry dot-free cluster labels,
the loopback test of the check of a cluster with a dot-free name holds of exactly the remote
subnet named as the mirror of the subnet. -/
theorem isLoopback_iff_mirror_name {parent : Parent} (named : Named parent)
    (dotFree : DotFree parent) {clusterName : String} (noDot : '.' ∉ clusterName.toList)
    (subnetName : String) :
    ∀ entry ∈ parent.remoteSubnets, isLoopback clusterName subnetName entry.2 = true ↔
      entry.1 = generateRemoteSubnetName clusterName subnetName := by
  intro entry member
  obtain ⟨labelled, -⟩ := named.remoteSubnets entry member
  simp only [isLoopback, Bool.and_eq_true, beq_iff_eq]
  constructor
  · rintro ⟨rfl, rfl⟩
    exact labelled
  · intro mirror
    exact joinClusterName_injective (dotFree entry member) noDot (labelled.symm.trans mirror)

/-- After every run of the reconcilers of clusters with dot-free names, from a parent whose
mirrors are named after their dot-free labels, the check of a cluster with a dot-free name
passes exactly when none of its subnets intersects a subnet of the parent, or a remote subnet
of the parent other than the one named as that subnet's mirror: the loopback test, made on
labels, exempts the mirror by its name. -/
theorem subnetCheck_exempts_own_mirror (intersect : AddressRange → AddressRange → Bool)
    (steps : List Reconcile) (parent : Parent) (named : Named parent) (dotFree : DotFree parent)
    (noDots : ∀ step ∈ steps, '.' ∉ step.clusterName.toList) {clusterName : String}
    (noDot : '.' ∉ clusterName.toList) (subnetsOfCluster : List (String × Subnet)) :
    let after := runReconciles intersect steps parent
    subnetCheck intersect clusterName (.ok subnetsOfCluster) (.ok after.subnets)
        (.ok after.remoteSubnets) = .ok () ↔
      ∀ subnetOfCluster ∈ subnetsOfCluster,
        (∀ localSubnet ∈ after.subnets,
          intersect subnetOfCluster.2.range localSubnet.2.range = false) ∧
        ∀ remoteSubnet ∈ after.remoteSubnets,
          remoteSubnet.1 ≠ generateRemoteSubnetName clusterName subnetOfCluster.1 →
            intersect subnetOfCluster.2.range remoteSubnet.2.range = false := by
  intro after
  have loopback := isLoopback_iff_mirror_name (@Named.runReconciles intersect parent named steps)
    (dotFree.runReconciles noDots) noDot
  rw [subnetCheck_eq_ok]
  refine forall₂_congr fun subnetOfCluster _ => ?_
  rw [checkSubnetOfCluster_eq_ok]
  refine and_congr_right fun _ => forall₂_congr fun remoteSubnet member => ?_
  rw [← Bool.not_eq_true, loopback subnetOfCluster.1 remoteSubnet member]

theorem subnetCheck_exempts_own_mirror_c1 :
    let steps : List Reconcile := [.remoteSubnet "c1" (subnetView "s1" {}) (fun _ => none) "s1"]
    Named emptyParent ∧ DotFree emptyParent ∧ (∀ step ∈ steps, '.' ∉ step.clusterName.toList) ∧
      '.' ∉ "c1".toList ∧
      (subnetCheck (fun r r' => decide (r = r')) "c1" (.ok [("s1", ⟨"network", {}, false⟩)])
          (.ok (runReconciles (fun r r' => decide (r = r')) steps emptyParent).subnets)
          (.ok (runReconciles (fun r r' => decide (r = r')) steps emptyParent).remoteSubnets) =
          .ok () ↔
        ∀ subnetOfCluster ∈ [("s1", (⟨"network", {}, false⟩ : Subnet))],
          (∀ localSubnet ∈ (runReconciles (fun r r' => decide (r = r')) steps emptyParent).subnets,
            decide (subnetOfCluster.2.range = localSubnet.2.range) = false) ∧
          ∀ remoteSubnet ∈ (runReconciles (fun r r' => decide (r = r')) steps emptyParent).remoteSubnets,
            remoteSubnet.1 ≠ generateRemoteSubnetName "c1" subnetOfCluster.1 →
              decide (subnetOfCluster.2.range = remoteSubnet.2.range) = false) :=
  have named : Named emptyParent := ⟨fun _ member => (nomatch member), fun _ member => nomatch member⟩
  have dotFree : DotFree emptyParent := fun _ member => nomatch member
  have noDots : ∀ step ∈ ([.remoteSubnet "c1" (subnetView "s1" {}) (fun _ => none) "s1"] :
      List Reconcile), '.' ∉ step.clusterName.toList := by decide
  ⟨named, dotFree, noDots, by decide,
    subnetCheck_exempts_own_mirror _ _ emptyParent named dotFree noDots (by decide) _⟩

/-! ## The VTEPs -/

/-- A VTEP reconcile of a cluster with a dot-free name, on a parent whose `SubnetSet`s are
mirrored, leaves the node's VTEP as it was, or publishes for it a sorted endpoint list whose
every address is that of an IP instance of the node in a subnet that has its mirror in the
parent. -/
theorem reconcileRemoteVtep_publishes_mirrored_subnets {clusterName : String}
    (noDot : '.' ∉ clusterName.toList) (cluster : RemoteClusterView)
    (fails : String → Option String) (name : String) {parent : Parent}
    (mirrored : Mirrored parent) (vtep : RemoteVtep)
    (published : GoMap.get? (reconcileRemoteVtep clusterName cluster fails name parent).2.remoteVteps
      (generateVTEPName clusterName name) = some vtep) :
    GoMap.get? parent.remoteVteps (generateVTEPName clusterName name) = some vtep ∨
      vtep.endpointIPList.Sorted (· ≤ ·) ∧
      ∃ ipInstanceList, cluster.ipInstances = .ok ipInstanceList ∧
        ∀ ip ∈ vtep.endpointIPList, ∃ ipInstance ∈ ipInstanceList, ipInstance.node = name ∧
          ipInstance.ip = ip ∧ ∃ remoteSubnet,
            GoMap.get? parent.remoteSubnets
              (generateRemoteSubnetName clusterName ipInstance.subnet) = some remoteSubnet ∧
            remoteSubnet.clusterLabel = clusterName ∧ remoteSubnet.subnetLabel = ipInstance.subnet := by
  obtain ⟨-, -, -, kept | deleted | ⟨vtepInfo, endpointIPList, picked, written⟩⟩ :=
    reconcileRemoteVtep_cases clusterName cluster fails name parent
  · exact .inl (kept ▸ published)
  · rw [deleted, GoMap.get?_delete_self] at published
    cases published
  · right
    obtain ⟨⟨x, obj, made, found⟩, -⟩ := get?_of_createOrPatch_eq_ok written
    obtain rfl : obj = vtep := Option.some_inj.1 (found.symm.trans published)
    rw [(mutateRemoteVtep_eq_ok made).2.2.2.2]
    cases listed : cluster.ipInstances with
    | error err => rw [listed] at picked; cases picked
    | ok ipInstanceList =>
      rw [listed] at picked
      obtain ⟨endpoints, same, sorted, endpoint⟩ :=
        pickEndpointIPListForNode_spec (parent.subnetSet clusterName) ipInstanceList name
      obtain rfl : endpoints = endpointIPList := Except.ok.inj (same.symm.trans picked)
      refine ⟨sorted, ipInstanceList, rfl, fun ip member => ?_⟩
      obtain ⟨ipInstance, listedHere, -, onNode, recorded, -, -, rfl⟩ := (endpoint ip).1 member
      exact ⟨ipInstance, listedHere, onNode, rfl, mirrored clusterName noDot _ recorded⟩

/-- The parent after the subnet reconciler of `c1` mirrored its subnet `s1`. -/
def mirroredS1Parent : Parent :=
  (reconcileRemoteSubnet (fun r r' => decide (r = r')) "c1"
    (subnetView "s1" { cidr := "10.0.0.0/24" }) (fun _ => none) "s1" emptyParent).2

/-- A remote cluster whose node `n1` has a VTEP, and one IP instance, `10.0.0.5` in `s1`. -/
def nodeView : RemoteClusterView where
  subnet _ := .ok none
  network _ := .ok ⟨"Overlay"⟩
  nodeInfo requested :=
    .ok (if requested = "n1" then some ⟨some ⟨"192.168.0.1", "aa:bb:cc:dd:ee:ff", []⟩, false⟩
      else none)
  ipInstances := .ok [⟨"n1", "s1", "10.0.0.5", false, false⟩]

/-- The VTEP the reconciler of `c1` publishes for `n1`. -/
def n1Vtep : RemoteVtep where
  clusterLabel := "c1"
  nodeLabel := "n1"
  clusterName := "c1"
  nodeName := "n1"
  vtepInfo := ⟨"192.168.0.1", "aa:bb:cc:dd:ee:ff", []⟩
  endpointIPList := ["10.0.0.5"]

theorem reconcileRemoteVtep_publishes_mirrored_subnets_n1 :
    '.' ∉ "c1".toList ∧ Mirrored mirroredS1Parent ∧
      GoMap.get? (reconcileRemoteVtep "c1" nodeView (fun _ => none) "n1" mirroredS1Parent).2.remoteVteps
        (generateVTEPName "c1" "n1") = some n1Vtep ∧
      (GoMap.get? mirroredS1Parent.remoteVteps (generateVTEPName "c1" "n1") = some n1Vtep ∨
        n1Vtep.endpointIPList.Sorted (· ≤ ·) ∧
        ∃ ipInstanceList, nodeView.ipInstances = .ok ipInstanceList ∧
          ∀ ip ∈ n1Vtep.endpointIPList, ∃ ipInstance ∈ ipInstanceList, ipInstance.node = "n1" ∧
            ipInstance.ip = ip ∧ ∃ remoteSubnet,
              GoMap.get? mirroredS1Parent.remoteSubnets
                (generateRemoteSubnetName "c1" ipInstance.subnet) = some remoteSubnet ∧
              remoteSubnet.clusterLabel = "c1" ∧ remoteSubnet.subnetLabel = ipInstance.subnet) :=
  have noDot : '.' ∉ "c1".toList := by decide
  have mirrored : Mirrored mirroredS1Parent :=
    @Mirrored.run (fun r r' => decide (r = r')) emptyParent (fun _ _ _ member => nomatch member)
      (.remoteSubnet "c1" (subnetView "s1" { cidr := "10.0.0.0/24" }) (fun _ => none) "s1") noDot
  have published : GoMap.get? (reconcileRemoteVtep "c1" nodeView (fun _ => none) "n1"
      mirroredS1Parent).2.remoteVteps (generateVTEPName "c1" "n1") = some n1Vtep := by
    simp [reconcileRemoteVtep, nodeView, pickEndpointIPListForNode, isEndpointInstance,
      mirroredS1Parent, reconcileRemoteSubnet, subnetView, emptyParent, createOrPatch, GoMap.get?,
      GoMap.set, mutateRemoteSubnet, mutateRemoteVtep, remoteSubnetCreateValidation, admission,
      generateRemoteSubnetName, generateVTEPName, joinClusterName, bind, Except.bind, pure,
      Except.pure, List.lookup_cons, List.lookup_nil, n1Vtep, subnetSetInsert]
    decide
  ⟨noDot, mirrored, published,
    reconcileRemoteVtep_publishes_mirrored_subnets noDot nodeView _ "n1" mirrored _ published⟩

end Hybridnet
