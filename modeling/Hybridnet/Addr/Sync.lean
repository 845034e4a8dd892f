import Hybridnet.Addr.Manager

/-!
# What `SyncAddresses` leaves

A run on the links is followed by triples: from links that satisfy a precondition, a run
that returns without error leaves links that satisfy a postcondition. Each call gets one
triple, and each loop of `SyncAddresses` one invariant.

The records that `TryAddPodInfo` keeps since `ResetInfos` name each interface and each
subnet once, with a pod address inside its subnet. The scan of the links records, for each
link and subnet, one enhanced address; when a link carries at most one enhanced address of a
subnet, that is every enhanced address, and the clearing loop then leaves on each link that
is no container link only enhanced addresses of subnets tracked for it. The ensuring loop
adds only addresses of tracked subnets, so a run that returns without error leaves no
enhanced address of an untracked subnet.
-/

namespace Hybridnet

/-! ## Triples -/

namespace AddrM

variable {α β : Type}

theorem run_bind (x : AddrM α) (f : α → AddrM β) (links : List AddrLink) :
    (x >>= f).run.run links = match x.run.run links with
      | (.ok a, links') => (f a).run.run links'
      | (.error e, links') => (.error e, links') := by
  change (ExceptT.bind x f).run.run links = _
  simp only [ExceptT.run, ExceptT.bind, ExceptT.mk, ExceptT.bindCont, StateT.run, bind,
    StateT.bind]
  rcases x links with ⟨_ | _, _⟩ <;> rfl

theorem run_wrap (context : String) (x : AddrM α) (links : List AddrLink) :
    (wrap context x).run.run links = match x.run.run links with
      | (.ok a, links') => (.ok a, links')
      | (.error e, links') => (.error (context ++ e), links') := by
  change (ExceptT.tryCatch x _).run.run links = _
  simp only [ExceptT.run, ExceptT.tryCatch, ExceptT.mk, StateT.run, bind, StateT.bind]
  rcases x links with ⟨_ | _, _⟩ <;> rfl

theorem run_ofExcept (e : Except String α) (links : List AddrLink) :
    (MonadExcept.ofExcept e : AddrM α).run.run links = (e, links) := by
  cases e <;> rfl

/-- Every run of `x` from links that satisfy `pre` and that returns without error leaves
links that satisfy `post` of its result. -/
def Triple (pre : List AddrLink → Prop) (x : AddrM α) (post : α → List AddrLink → Prop) :
    Prop :=
  ∀ links a links', pre links → x.run.run links = (.ok a, links') → post a links'

variable {pre pre' : List AddrLink → Prop} {post post' : α → List AddrLink → Prop}
  {x : AddrM α}

theorem triple_pure {a : α} (holds : ∀ links, pre links → post a links) :
    Triple pre (pure a) post := by
  rintro links _ _ before ⟨⟩
  exact holds links before

theorem triple_throw (e : String) : Triple pre (throw e : AddrM α) post := by
  rintro _ _ _ _ ⟨⟩

theorem triple_modify (g : List AddrLink → List AddrLink) :
    Triple pre (modify g : AddrM PUnit) fun _ links => ∃ links₀, pre links₀ ∧ links = g links₀ :=
  fun links _ _ before run => by
    cases run
    exact ⟨links, before, rfl⟩

theorem triple_bind {post : β → List AddrLink → Prop} {mid : α → List AddrLink → Prop}
    {f : α → AddrM β} (first : Triple pre x mid) (next : ∀ a, Triple (mid a) (f a) post) :
    Triple pre (x >>= f) post := by
  intro links b links'' before run
  rw [run_bind] at run
  rcases first_run : x.run.run links with ⟨_ | a, links'⟩ <;> rw [first_run] at run
  · cases run
  · exact next a links' b links'' (first links a links' before first_run) run

theorem triple_wrap (context : String) (kept : Triple pre x post) :
    Triple pre (wrap context x) post := by
  intro links a links' before run
  rw [run_wrap] at run
  rcases first_run : x.run.run links with ⟨_ | a, links'⟩ <;> rw [first_run] at run
  · cases run
  · cases run
    exact kept links _ _ before first_run

theorem Triple.mono (triple : Triple pre x post) (stronger : ∀ links, pre' links → pre links)
    (weaker : ∀ a links, post a links → post' a links) : Triple pre' x post' :=
  fun links a links' before run => weaker a links' (triple links a links' (stronger _ before) run)

/-- A loop whose invariant names the elements still to come. -/
theorem triple_forM {f : β → AddrM PUnit} (inv : List β → List AddrLink → Prop)
    (step : ∀ b rest, Triple (inv (b :: rest)) (f b) (fun _ => inv rest)) :
    ∀ l, Triple (inv l) (l.forM f) (fun _ => inv [])
  | [] => triple_pure fun _ => id
  | b :: rest => triple_bind (step b rest) fun _ => triple_forM inv step rest

/-- A loop whose every round keeps an invariant. -/
theorem triple_forM_of_mem {f : β → AddrM PUnit} {inv : List AddrLink → Prop} :
    ∀ {l : List β}, (∀ b ∈ l, Triple inv (f b) (fun _ => inv)) →
      Triple inv (l.forM f) (fun _ => inv)
  | [], _ => triple_pure fun _ => id
  | b :: _, step => triple_bind (step b (List.mem_cons_self _ _)) fun _ =>
      triple_forM_of_mem fun b' member => step b' (List.mem_cons_of_mem _ member)

end AddrM

open AddrM

/-! ## The calls -/

section Calls

variable {pre : List AddrLink → Prop}

theorem triple_linkList :
    Triple pre linkList fun linkList links => pre links ∧ linkList = links :=
  fun _ _ _ before run => by
    cases run
    exact ⟨before, rfl⟩

theorem triple_addrLinkByName (name : String) :
    Triple pre (addrLinkByName name) fun _ => pre := by
  unfold addrLinkByName
  refine triple_bind triple_linkList fun links => ?_
  split
  · exact triple_pure fun _ => And.left
  · exact triple_throw _

theorem triple_addrDel (linkName : String) (addr : LinkAddr) :
    Triple pre (addrDel linkName addr) fun _ links =>
      ∃ links₀, pre links₀ ∧ links = eraseLinkAddr linkName addr links₀ := by
  unfold addrDel
  refine triple_bind (triple_addrLinkByName linkName) fun _ => ?_
  split
  · exact triple_modify _
  · exact triple_throw _

theorem triple_addrAdd (linkName : String) (addr : LinkAddr) :
    Triple pre (addrAdd linkName addr) fun _ links =>
      ∃ links₀, pre links₀ ∧ links = addLinkAddr linkName addr links₀ := by
  unfold addrAdd
  refine triple_bind (triple_addrLinkByName linkName) fun _ => ?_
  split
  · exact triple_throw _
  · exact triple_modify _

/-- `ensureSubnetEnhancedAddr` adds the new address to the link, and then deletes the
superseded one. -/
theorem triple_ensureSubnetEnhancedAddr_steps (forwardNodeIfName : String)
    (enhancedAddr : LinkAddr) (outOfDateEnhancedAddr : Option LinkAddr)
    {mid post : List AddrLink → Prop}
    (added : ∀ links, pre links → mid (addLinkAddr forwardNodeIfName enhancedAddr links))
    (erased : ∀ outOfDate, outOfDateEnhancedAddr = some outOfDate →
      ∀ links, mid links → post (eraseLinkAddr forwardNodeIfName outOfDate links))
    (kept : outOfDateEnhancedAddr = none → ∀ links, mid links → post links) :
    Triple pre (ensureSubnetEnhancedAddr forwardNodeIfName enhancedAddr outOfDateEnhancedAddr)
      fun _ => post := by
  unfold ensureSubnetEnhancedAddr
  refine triple_bind ((triple_addrAdd _ _).mono (fun _ => id)
    fun _ _ ⟨_, before, after⟩ => after ▸ added _ before) fun _ => ?_
  split
  · next outOfDate =>
    exact (triple_addrDel _ _).mono (fun _ => id)
      fun _ _ ⟨_, before, after⟩ => after ▸ erased outOfDate rfl _ before
  · exact triple_pure (kept rfl)

theorem triple_ensureSubnetEnhancedAddr (forwardNodeIfName : String) (enhancedAddr : LinkAddr)
    (outOfDateEnhancedAddr : Option LinkAddr)
    (added : ∀ links, pre links → pre (addLinkAddr forwardNodeIfName enhancedAddr links))
    (erased : ∀ links addr, pre links → pre (eraseLinkAddr forwardNodeIfName addr links)) :
    Triple pre (ensureSubnetEnhancedAddr forwardNodeIfName enhancedAddr outOfDateEnhancedAddr)
      fun _ => pre :=
  triple_ensureSubnetEnhancedAddr_steps _ _ _ added (fun _ _ links => erased links _)
    fun _ _ => id

/-- What a round of the ensuring loop can do. It leaves the links as they were, and when it
returns without error, the scan marked a manual address of the subnet, or recorded an enhanced
one that is the pod address or that the lookup places on this node. Or, when the scan marked
no manual address, it runs `ensureSubnetEnhancedAddr` with the pod address, superseding the
enhanced address recorded for the subnet, if any, which is not the pod address and which the
lookup places elsewhere. -/
theorem ensureEnhancedAddr_run (localNodeName : String)
    (getIPInstanceByAddress : Int → Except String (Option String)) (forwardNodeIfName : String)
    (existEnhancedAddrs : Option (List (IPNet × LinkAddr)))
    (existManualAddrSubnets : Option (List (IPNet × Bool))) (subnet : IPNet) (podIP : Int)
    (links : List AddrLink) :
    ((ensureEnhancedAddr localNodeName getIPInstanceByAddress forwardNodeIfName existEnhancedAddrs
        existManualAddrSubnets subnet podIP).run.run links).2 = links ∧
      (((ensureEnhancedAddr localNodeName getIPInstanceByAddress forwardNodeIfName
          existEnhancedAddrs existManualAddrSubnets subnet podIP).run.run links).1 = .ok () →
        (existManualAddrSubnets.bind (GoMap.get? · subnet)).isSome ∨
        ∃ recorded, existEnhancedAddrs.bind (GoMap.get? · subnet) = some recorded ∧
          (recorded.ip = podIP ∨ getIPInstanceByAddress recorded.ip = .ok (some localNodeName))) ∨
    (existManualAddrSubnets.bind (GoMap.get? · subnet)).isSome = false ∧
      ∃ outOfDate, existEnhancedAddrs.bind (GoMap.get? · subnet) = outOfDate ∧
        (∀ recorded, outOfDate = some recorded → recorded.ip ≠ podIP ∧
          ∃ ipInstance, getIPInstanceByAddress recorded.ip = .ok ipInstance ∧
            ipInstance ≠ some localNodeName) ∧
        ∃ context, (ensureEnhancedAddr localNodeName getIPInstanceByAddress forwardNodeIfName
            existEnhancedAddrs existManualAddrSubnets subnet podIP).run.run links =
          (wrap context (ensureSubnetEnhancedAddr forwardNodeIfName
            { ip := podIP, ones := subnet.ones, scope := .link, noPrefixRoute := true }
            outOfDate)).run.run links := by
  have skip : ∀ {γ : Type} (g : PUnit → AddrM γ),
      ((pure PUnit.unit : AddrM PUnit) >>= g).run.run links = (g PUnit.unit).run.run links :=
    fun g => by rw [run_bind]; rfl
  unfold ensureEnhancedAddr
  dsimp only
  split
  · next marked => exact .inl ⟨rfl, fun _ => .inl marked⟩
  next marked =>
  have noManual : (existManualAddrSubnets.bind (GoMap.get? · subnet)).isSome = false :=
    Bool.eq_false_iff.2 marked
  rw [skip]
  split
  · next recorded found =>
    split
    · next same => exact .inl ⟨rfl, fun _ => .inr ⟨recorded, found, .inl same⟩⟩
    next differs =>
    rw [skip, run_bind, run_wrap, run_ofExcept]
    cases lookup : getIPInstanceByAddress recorded.ip with
    | error e => exact .inl ⟨rfl, nofun⟩
    | ok ipInstance =>
      dsimp only
      split
      · next onNode => exact .inl ⟨rfl, fun _ => .inr ⟨recorded, found, .inr (onNode ▸ lookup)⟩⟩
      next elsewhere =>
      rw [skip, skip]
      exact .inr ⟨noManual, some recorded, found,
        fun _ same => Option.some.inj same ▸ ⟨differs, ipInstance, lookup, elsewhere⟩, _, rfl⟩
  · next missing =>
    rw [skip]
    exact .inr ⟨noManual, none, Option.eq_none_iff_forall_not_mem.2 missing, nofun, _, rfl⟩

/-- A round of the ensuring loop changes the links only through `ensureSubnetEnhancedAddr`
with the pod address, superseding the enhanced address recorded for the subnet, if any. -/
theorem triple_ensureEnhancedAddr (localNodeName : String)
    (getIPInstanceByAddress : Int → Except String (Option String)) (forwardNodeIfName : String)
    (existEnhancedAddrs : Option (List (IPNet × LinkAddr)))
    (existManualAddrSubnets : Option (List (IPNet × Bool))) (subnet : IPNet) (podIP : Int)
    (ensure : ∀ outOfDate, (∀ addr, outOfDate = some addr →
        existEnhancedAddrs.bind (GoMap.get? · subnet) = some addr) →
      Triple pre (ensureSubnetEnhancedAddr forwardNodeIfName
        { ip := podIP, ones := subnet.ones, scope := .link, noPrefixRoute := true } outOfDate)
        fun _ => pre) :
    Triple pre (ensureEnhancedAddr localNodeName getIPInstanceByAddress forwardNodeIfName
      existEnhancedAddrs existManualAddrSubnets subnet podIP) fun _ => pre := by
  intro links a links' before run
  rcases ensureEnhancedAddr_run localNodeName getIPInstanceByAddress forwardNodeIfName
    existEnhancedAddrs existManualAddrSubnets subnet podIP links with
    ⟨same, -⟩ | ⟨-, _, found, -, _, eq⟩
  · rw [run] at same
    exact (show links' = links from same) ▸ before
  · rw [eq] at run
    exact triple_wrap _ (ensure _ fun _ same => found.trans same) links a links' before run

end Calls

/-! ## The records -/

/-- A subnet map as `TryAddPodInfo` keeps it: each subnet once, and each pod address inside
its subnet, whose address is its network address. -/
structure SubnetMapValid (family : Family) (subnetMap : List (IPNet × Int)) : Prop where
  subnets : (subnetMap.map Prod.fst).Nodup
  pods : ∀ pod ∈ subnetMap, maskIP family.bits pod.1.ones pod.2 = pod.1.ip

/-- The records of a manager as `TryAddPodInfo` keeps them: each interface once, with a valid
subnet map. -/
structure RecordsValid (family : Family)
    (interfaceToSubnetMap : List (String × List (IPNet × Int))) : Prop where
  interfaces : (interfaceToSubnetMap.map Prod.fst).Nodup
  subnetMaps : ∀ entry ∈ interfaceToSubnetMap, SubnetMapValid family entry.2

/-- The records track `subnet` for the link `linkName`. -/
def IsTracked (interfaceToSubnetMap : List (String × List (IPNet × Int))) (linkName : String)
    (subnet : IPNet) : Prop :=
  ((GoMap.get? interfaceToSubnetMap linkName).bind (GoMap.get? · subnet)).isSome

section Records

variable {family : Family} {interfaceToSubnetMap : List (String × List (IPNet × Int))}

theorem SubnetMapValid.set {subnetMap : List (IPNet × Int)} {subnet : IPNet} {podIP : Int}
    (valid : SubnetMapValid family subnetMap)
    (inSubnet : maskIP family.bits subnet.ones podIP = subnet.ip) :
    SubnetMapValid family (GoMap.set subnetMap subnet podIP) :=
  ⟨GoMap.nodup_keys_set valid.subnets, fun pod mem =>
    (GoMap.mem_set mem).elim (fun same => same ▸ inSubnet) (valid.pods pod)⟩

theorem RecordsValid.subnetMap (valid : RecordsValid family interfaceToSubnetMap)
    (name : String) : SubnetMapValid family ((GoMap.get? interfaceToSubnetMap name).getD []) := by
  rcases found : GoMap.get? interfaceToSubnetMap name with _ | subnetMap
  · exact ⟨List.nodup_nil, fun _ member => absurd member (List.not_mem_nil _)⟩
  · exact valid.subnetMaps _ (GoMap.mem_of_get? found)

theorem RecordsValid.set {name : String} {subnetMap : List (IPNet × Int)}
    (valid : RecordsValid family interfaceToSubnetMap) (subnets : SubnetMapValid family subnetMap) :
    RecordsValid family (GoMap.set interfaceToSubnetMap name subnetMap) :=
  ⟨GoMap.nodup_keys_set valid.interfaces, fun entry mem =>
    (GoMap.mem_set mem).elim (fun same => same ▸ subnets) (valid.subnetMaps entry)⟩

/-- Every record is tracked. -/
theorem RecordsValid.isTracked (valid : RecordsValid family interfaceToSubnetMap)
    {entry : String × List (IPNet × Int)} (mem : entry ∈ interfaceToSubnetMap)
    {pod : IPNet × Int} (recorded : pod ∈ entry.2) :
    IsTracked interfaceToSubnetMap entry.1 pod.1 := by
  rw [IsTracked, GoMap.get?_of_mem valid.interfaces mem, Option.some_bind,
    GoMap.get?_of_mem (valid.subnetMaps entry mem).subnets recorded]
  rfl

theorem recordsValid_resetInfos (m : AddrManager) :
    RecordsValid m.family m.resetInfos.interfaceToSubnetMap :=
  ⟨List.nodup_nil, fun _ member => absurd member (List.not_mem_nil _)⟩

/-- `TryAddPodInfo` keeps the records valid. -/
theorem RecordsValid.tryAddPodInfo {m : AddrManager} {forwardNodeIfName : String}
    {subnet : IPNet} {podIP : Int} (valid : RecordsValid family m.interfaceToSubnetMap)
    (inSubnet : maskIP family.bits subnet.ones podIP = subnet.ip) :
    RecordsValid family (m.tryAddPodInfo forwardNodeIfName subnet podIP).interfaceToSubnetMap := by
  refine valid.set ?_
  split
  · exact valid.subnetMap _
  · exact (valid.subnetMap _).set inSubnet

end Records

/-- `TryAddPodInfo` for each pod in turn. -/
def AddrManager.tryAddPodInfos (m : AddrManager) (podInfos : List (String × IPNet × Int)) :
    AddrManager :=
  podInfos.foldl (fun m info => m.tryAddPodInfo info.1 info.2.1 info.2.2) m

@[simp] theorem AddrManager.family_tryAddPodInfos (m : AddrManager)
    (podInfos : List (String × IPNet × Int)) : (m.tryAddPodInfos podInfos).family = m.family := by
  induction podInfos generalizing m with
  | nil => rfl
  | cons _ _ ih => exact ih _

/-- The records built by `TryAddPodInfo` calls since `ResetInfos`, each pod address inside its
subnet, are valid. -/
theorem recordsValid_tryAddPodInfos (m : AddrManager) (podInfos : List (String × IPNet × Int))
    (inSubnets : ∀ info ∈ podInfos, maskIP m.family.bits info.2.1.ones info.2.2 = info.2.1.ip) :
    RecordsValid m.family (m.resetInfos.tryAddPodInfos podInfos).interfaceToSubnetMap := by
  suffices ∀ m' : AddrManager, RecordsValid m.family m'.interfaceToSubnetMap →
      RecordsValid m.family (m'.tryAddPodInfos podInfos).interfaceToSubnetMap from
    this _ (recordsValid_resetInfos m)
  induction podInfos with
  | nil => exact fun _ => id
  | cons info rest ih =>
    exact fun _ valid => ih (fun info' member => inSubnets info' (List.mem_cons_of_mem _ member))
      _ (valid.tryAddPodInfo (inSubnets info (List.mem_cons_self _ _)))

/-! ## The scan of the links -/

/-- The links as the kernel reports them: each name once, and each address once on a link. -/
structure LinksValid (links : List AddrLink) : Prop where
  names : (links.map AddrLink.name).Nodup
  addrs : ∀ l ∈ links, l.addrs.Nodup

instance (links : List AddrLink) : Decidable (LinksValid links) :=
  decidable_of_iff ((links.map AddrLink.name).Nodup ∧ ∀ l ∈ links, l.addrs.Nodup)
    ⟨fun valid => ⟨valid.1, valid.2⟩, fun valid => ⟨valid.names, valid.addrs⟩⟩

/-- Every link that is no container link carries at most one enhanced address of a subnet. -/
def OneEnhancedAddrPerSubnet (family : Family) (isContainerLink : String → Bool)
    (links : List AddrLink) : Prop :=
  ∀ l ∈ links, isContainerLink l.name = false →
    ((l.addrs.filter checkIfEnhancedAddr).map (LinkAddr.subnet family)).Nodup

instance (family : Family) (isContainerLink : String → Bool) (links : List AddrLink) :
    Decidable (OneEnhancedAddrPerSubnet family isContainerLink links) :=
  inferInstanceAs (Decidable (∀ l ∈ links, _))

section Scan

variable {family : Family} {isContainerLink : String → Bool} {exist : ExistAddrs}
  {linkName : String}

theorem ExistAddrs.enhancedAddr_eq (exist exist' : ExistAddrs)
    (same : GoMap.get? exist'.existEnhancedAddrMap linkName =
      GoMap.get? exist.existEnhancedAddrMap linkName) (subnet : IPNet) :
    exist'.enhancedAddr linkName subnet = exist.enhancedAddr linkName subnet := by
  rw [ExistAddrs.enhancedAddr, same, ExistAddrs.enhancedAddr]

theorem get?_foldl_collectAddr_of_ne {name : String} (other : name ≠ linkName) :
    ∀ (addrs : List LinkAddr) (exist : ExistAddrs),
      GoMap.get? (addrs.foldl (collectAddr family linkName) exist).existEnhancedAddrMap name =
        GoMap.get? exist.existEnhancedAddrMap name
  | [], _ => rfl
  | addr :: addrs, exist => by
    rw [List.foldl_cons, get?_foldl_collectAddr_of_ne other addrs]
    unfold collectAddr
    split_ifs
    · exact GoMap.get?_set_of_ne other
    · rfl

theorem get?_foldl_collectLink_of_ne {name : String} :
    ∀ (links : List AddrLink), (∀ l ∈ links, l.name ≠ name) → ∀ exist : ExistAddrs,
      GoMap.get? (links.foldl (collectLink family isContainerLink) exist).existEnhancedAddrMap
        name = GoMap.get? exist.existEnhancedAddrMap name
  | [], _, _ => rfl
  | link :: links, others, exist => by
    rw [List.foldl_cons, get?_foldl_collectLink_of_ne links
      (fun l member => others l (List.mem_cons_of_mem _ member))]
    unfold collectLink
    split_ifs
    · rfl
    · exact get?_foldl_collectAddr_of_ne (others link (List.mem_cons_self _ _)).symm _ _

theorem enhancedAddr_collectAddr_self {addr : LinkAddr} (enhanced : checkIfEnhancedAddr addr) :
    (collectAddr family linkName exist addr).enhancedAddr linkName (addr.subnet family) =
      some addr := by
  simp [collectAddr, enhanced, ExistAddrs.enhancedAddr]

/-- A round for an address of another subnet keeps what the scan recorded. -/
theorem enhancedAddr_collectAddr_of_ne {addr recorded : LinkAddr} {subnet : IPNet}
    (found : exist.enhancedAddr linkName subnet = some recorded)
    (other : checkIfEnhancedAddr addr → addr.subnet family ≠ subnet) :
    (collectAddr family linkName exist addr).enhancedAddr linkName subnet = some recorded := by
  unfold collectAddr
  split_ifs with enhanced
  · obtain ⟨subnetMap, map, inner⟩ := Option.bind_eq_some.1 found
    simp [ExistAddrs.enhancedAddr, map, GoMap.get?_set_of_ne (other enhanced).symm, inner]
  · exact found

theorem enhancedAddr_foldl_collectAddr_of_ne {recorded : LinkAddr} {subnet : IPNet} :
    ∀ (addrs : List LinkAddr) (exist : ExistAddrs),
      exist.enhancedAddr linkName subnet = some recorded →
      (∀ addr ∈ addrs, checkIfEnhancedAddr addr → addr.subnet family ≠ subnet) →
      (addrs.foldl (collectAddr family linkName) exist).enhancedAddr linkName subnet =
        some recorded
  | [], _, found, _ => found
  | addr :: addrs, _, found, others =>
    enhancedAddr_foldl_collectAddr_of_ne addrs _
      (enhancedAddr_collectAddr_of_ne found (others addr (List.mem_cons_self _ _)))
      fun addr' member => others addr' (List.mem_cons_of_mem _ member)

/-- With at most one enhanced address of a subnet, the scan of a link's addresses records each
of its enhanced addresses. -/
theorem enhancedAddr_foldl_collectAddr {addr : LinkAddr} (enhanced : checkIfEnhancedAddr addr) :
    ∀ {addrs : List LinkAddr}, addr ∈ addrs →
      ((addrs.filter checkIfEnhancedAddr).map (LinkAddr.subnet family)).Nodup →
      ∀ exist : ExistAddrs,
        (addrs.foldl (collectAddr family linkName) exist).enhancedAddr linkName
          (addr.subnet family) = some addr
  | addr' :: addrs, member, single, exist => by
    rw [List.foldl_cons]
    by_cases first : checkIfEnhancedAddr addr'
    · rw [List.filter_cons_of_pos first, List.map_cons, List.nodup_cons] at single
      rcases List.mem_cons.1 member with rfl | member
      · refine enhancedAddr_foldl_collectAddr_of_ne addrs _
          (enhancedAddr_collectAddr_self enhanced) fun other has enhanced' same => ?_
        exact single.1 (same ▸ List.mem_map_of_mem _ (List.mem_filter.2 ⟨has, enhanced'⟩))
      · exact enhancedAddr_foldl_collectAddr enhanced member single.2 _
    · rw [List.filter_cons_of_neg first] at single
      rcases List.mem_cons.1 member with rfl | member
      · exact absurd enhanced first
      · exact enhancedAddr_foldl_collectAddr enhanced member single _

/-- On links with distinct names, the scan records every enhanced address of a link that is no
container link and carries at most one of its subnet. -/
theorem enhancedAddr_collectExistAddrs {addr : LinkAddr} (enhanced : checkIfEnhancedAddr addr) :
    ∀ {links : List AddrLink}, (links.map AddrLink.name).Nodup → ∀ {l : AddrLink}, l ∈ links →
      isContainerLink l.name = false → addr ∈ l.addrs →
      ((l.addrs.filter checkIfEnhancedAddr).map (LinkAddr.subnet family)).Nodup →
      ∀ exist : ExistAddrs,
        (links.foldl (collectLink family isContainerLink) exist).enhancedAddr l.name
          (addr.subnet family) = some addr
  | link :: links, names, l, member, container, has, single, exist => by
    rw [List.map_cons, List.nodup_cons] at names
    rw [List.foldl_cons]
    rcases List.mem_cons.1 member with rfl | member
    · have others : ∀ l' ∈ links, l'.name ≠ l.name := fun l' member' same =>
        names.1 (same ▸ List.mem_map_of_mem AddrLink.name member')
      rw [ExistAddrs.enhancedAddr_eq _ _ (get?_foldl_collectLink_of_ne links others _)]
      unfold collectLink
      rw [if_neg (by simp [container])]
      exact enhancedAddr_foldl_collectAddr enhanced has single _
    · exact enhancedAddr_collectExistAddrs enhanced names.2 member container has single _

end Scan

/-! ## The clearing loop -/

section Clear

variable (family : Family) (isContainerLink : String → Bool)
  (interfaceToSubnetMap : List (String × List (IPNet × Int)))

/-- Before the clearing loop runs over `pending`: the links carry each address once, and on a
link that is no container link every enhanced address is of a tracked subnet, or waits in
`pending` under its link and its subnet. -/
structure ClearPending (pending : List (String × List (IPNet × LinkAddr)))
    (links : List AddrLink) : Prop where
  nodup : ∀ l ∈ links, l.addrs.Nodup
  waits : ∀ l ∈ links, isContainerLink l.name = false → ∀ a ∈ l.addrs,
    checkIfEnhancedAddr a → IsTracked interfaceToSubnetMap l.name (a.subnet family) ∨
      ∃ entry ∈ pending, entry.1 = l.name ∧ (a.subnet family, a) ∈ entry.2

/-- On a link that is no container link, every enhanced address is of a tracked subnet. -/
def EnhancedAddrsTracked (links : List AddrLink) : Prop :=
  ∀ l ∈ links, isContainerLink l.name = false → ∀ a ∈ l.addrs,
    checkIfEnhancedAddr a → IsTracked interfaceToSubnetMap l.name (a.subnet family)

variable {family isContainerLink interfaceToSubnetMap}

theorem waits_cons {name linkName : String} {pair waiting : IPNet × LinkAddr}
    {pairs : List (IPNet × LinkAddr)} {rest : List (String × List (IPNet × LinkAddr))}
    (waits : ∃ entry ∈ (name, pair :: pairs) :: rest, entry.1 = linkName ∧ waiting ∈ entry.2) :
    name = linkName ∧ waiting = pair ∨
      ∃ entry ∈ (name, pairs) :: rest, entry.1 = linkName ∧ waiting ∈ entry.2 := by
  obtain ⟨entry, mem, named, has⟩ := waits
  rcases List.mem_cons.1 mem with rfl | mem
  · rcases List.mem_cons.1 has with same | has
    · exact .inl ⟨named, same⟩
    · exact .inr ⟨_, List.mem_cons_self _ _, named, has⟩
  · exact .inr ⟨entry, List.mem_cons_of_mem _ mem, named, has⟩

/-- A round that keeps an address of a tracked subnet. -/
theorem ClearPending.skip {name : String} {subnet : IPNet} {addr : LinkAddr}
    {pairs : List (IPNet × LinkAddr)} {rest : List (String × List (IPNet × LinkAddr))}
    {links : List AddrLink}
    (pending : ClearPending family isContainerLink interfaceToSubnetMap
      ((name, (subnet, addr) :: pairs) :: rest) links)
    (tracked : IsTracked interfaceToSubnetMap name subnet) :
    ClearPending family isContainerLink interfaceToSubnetMap ((name, pairs) :: rest) links := by
  refine ⟨pending.nodup, fun l member container a has enhanced => ?_⟩
  rcases pending.waits l member container a has enhanced with tracked' | waits
  · exact .inl tracked'
  rcases waits_cons waits with ⟨named, same⟩ | waits
  · cases same
    exact .inl (named ▸ tracked)
  · exact .inr waits

/-- A round that deletes an address. -/
theorem ClearPending.erase {name : String} {pair : IPNet × LinkAddr}
    {pairs : List (IPNet × LinkAddr)} {rest : List (String × List (IPNet × LinkAddr))}
    {links : List AddrLink}
    (pending : ClearPending family isContainerLink interfaceToSubnetMap
      ((name, pair :: pairs) :: rest) links) :
    ClearPending family isContainerLink interfaceToSubnetMap ((name, pairs) :: rest)
      (eraseLinkAddr name pair.2 links) := by
  constructor
  · intro l' member'
    obtain ⟨l, member, _, addrs⟩ := mem_eraseLinkAddr member'
    rw [addrs]
    split_ifs
    · exact (pending.nodup l member).erase _
    · exact pending.nodup l member
  · intro l' member' container a has enhanced
    obtain ⟨l, member, named, addrs⟩ := mem_eraseLinkAddr member'
    rw [addrs] at has
    rw [named] at container ⊢
    have kept : a ∈ l.addrs := by
      split_ifs at has
      · exact List.mem_of_mem_erase has
      · exact has
    rcases pending.waits l member container a kept enhanced with tracked | waits
    · exact .inl tracked
    rcases waits_cons waits with ⟨named', same⟩ | waits
    · rw [if_pos named'.symm, (pending.nodup l member).mem_erase_iff] at has
      exact absurd (congrArg Prod.snd same) has.1
    · exact .inr waits

/-- The clearing loop leaves on a link that is no container link only enhanced addresses of
tracked subnets. -/
theorem triple_clearEnhancedAddrs (existEnhancedAddrMap : List (String × List (IPNet × LinkAddr))) :
    Triple (ClearPending family isContainerLink interfaceToSubnetMap existEnhancedAddrMap)
      (clearEnhancedAddrs interfaceToSubnetMap existEnhancedAddrMap)
      fun _ => EnhancedAddrsTracked family isContainerLink interfaceToSubnetMap := by
  refine (triple_forM _ (fun ⟨name, pairs⟩ rest => ?_) existEnhancedAddrMap).mono (fun _ => id)
    fun _ links pending l member container a has enhanced =>
      (pending.waits l member container a has enhanced).resolve_right fun ⟨_, mem, _⟩ =>
        List.not_mem_nil _ mem
  have done : ∀ links, ClearPending family isContainerLink interfaceToSubnetMap
      ((name, []) :: rest) links →
      ClearPending family isContainerLink interfaceToSubnetMap rest links :=
    fun links pending => ⟨pending.nodup, fun l member container a has enhanced =>
      (pending.waits l member container a has enhanced).imp_right fun ⟨entry, mem, named, waits⟩ =>
        (List.mem_cons.1 mem).elim (fun same => absurd (same ▸ waits) (List.not_mem_nil _))
          fun mem => ⟨entry, mem, named, waits⟩⟩
  have erase : ∀ pair pairs, Triple
      (ClearPending family isContainerLink interfaceToSubnetMap ((name, pair :: pairs) :: rest))
      (addrDel name pair.2)
      fun _ => ClearPending family isContainerLink interfaceToSubnetMap ((name, pairs) :: rest) :=
    fun _ _ => (triple_addrDel _ _).mono (fun _ => id) fun _ _ ⟨_, pending, after⟩ =>
      after ▸ pending.erase
  dsimp only
  split
  · exact (triple_forM (fun pairs => ClearPending family isContainerLink interfaceToSubnetMap
      ((name, pairs) :: rest)) (fun pair pairs => triple_wrap _ (erase pair pairs)) pairs).mono
      (fun _ => id) fun _ => done
  · next subnetMap found =>
    refine (triple_forM (fun pairs => ClearPending family isContainerLink interfaceToSubnetMap
      ((name, pairs) :: rest)) (fun ⟨subnet, addr⟩ pairs => ?_) pairs).mono (fun _ => id)
      fun _ => done
    dsimp only
    split
    · exact triple_wrap _ (erase (subnet, addr) pairs)
    · next recorded =>
      refine triple_pure fun _ pending => pending.skip ?_
      rw [IsTracked, found, Option.some_bind]
      simpa [Option.isSome_iff_ne_none] using recorded

end Clear

/-! ## The ensuring loop -/

section Ensure

variable {family : Family} {isContainerLink : String → Bool}
  {interfaceToSubnetMap : List (String × List (IPNet × Int))} {links : List AddrLink}

theorem EnhancedAddrsTracked.erase {name : String} {addr : LinkAddr}
    (tracked : EnhancedAddrsTracked family isContainerLink interfaceToSubnetMap links) :
    EnhancedAddrsTracked family isContainerLink interfaceToSubnetMap
      (eraseLinkAddr name addr links) := by
  intro l' member container a has enhanced
  obtain ⟨l, member, named, addrs⟩ := mem_eraseLinkAddr member
  rw [addrs] at has
  rw [named] at container ⊢
  refine tracked l member container a ?_ enhanced
  split_ifs at has
  · exact List.mem_of_mem_erase has
  · exact has

theorem EnhancedAddrsTracked.add {name : String} {addr : LinkAddr}
    (tracked : EnhancedAddrsTracked family isContainerLink interfaceToSubnetMap links)
    (added : IsTracked interfaceToSubnetMap name (addr.subnet family)) :
    EnhancedAddrsTracked family isContainerLink interfaceToSubnetMap
      (addLinkAddr name addr links) := by
  intro l' member container a has enhanced
  obtain ⟨l, member, named, addrs⟩ := mem_addLinkAddr member
  rw [addrs] at has
  rw [named] at container ⊢
  split_ifs at has with named'
  · rcases List.mem_append.1 has with kept | added'
    · exact tracked l member container a kept enhanced
    · rw [List.mem_singleton.1 added', named']
      exact added
  · exact tracked l member container a has enhanced

/-- The enhanced address of a record is of the record's subnet. -/
theorem subnet_enhancedAddr {subnet : IPNet} {podIP : Int}
    (inSubnet : maskIP family.bits subnet.ones podIP = subnet.ip) :
    LinkAddr.subnet family
      { ip := podIP, ones := subnet.ones, scope := .link, noPrefixRoute := true } = subnet := by
  rw [LinkAddr.subnet, inSubnet]

end Ensure

/-! ## `SyncAddresses` -/

/-- From links that report each name and each address once, with at most one enhanced
address of a subnet on each link that is no container link, a run of `SyncAddresses` on
valid records that returns without error leaves on each link that is no container link only
enhanced addresses of subnets tracked for it. -/
theorem triple_syncAddresses (m : AddrManager) (isContainerLink : String → Bool)
    (getIPInstanceByAddress : Int → Except String (Option String))
    (valid : RecordsValid m.family m.interfaceToSubnetMap) :
    Triple (fun links => LinksValid links ∧ OneEnhancedAddrPerSubnet m.family isContainerLink links)
      (m.syncAddresses isContainerLink getIPInstanceByAddress)
      fun _ => EnhancedAddrsTracked m.family isContainerLink m.interfaceToSubnetMap := by
  unfold AddrManager.syncAddresses
  refine triple_bind triple_linkList fun linkList => ?_
  refine triple_bind ((@triple_clearEnhancedAddrs m.family isContainerLink _ _).mono ?_
    fun _ _ => id) fun _ => ?_
  · rintro links ⟨⟨linksValid, single⟩, rfl⟩
    refine ⟨linksValid.addrs, fun l member container a has enhanced => .inr ?_⟩
    obtain ⟨subnetMap, found, recorded⟩ := Option.bind_eq_some.1
      (enhancedAddr_collectExistAddrs enhanced linksValid.names member container has
        (single l member container) _)
    exact ⟨_, GoMap.mem_of_get? found, rfl, GoMap.mem_of_get? recorded⟩
  refine triple_forM_of_mem fun ⟨forwardNodeIfName, targetSubnetMap⟩ mem => ?_
  refine triple_bind (triple_wrap _ (triple_addrLinkByName _)) fun _ =>
    triple_forM_of_mem fun ⟨subnet, podIP⟩ recorded => ?_
  refine triple_ensureEnhancedAddr _ _ _ _ _ _ _ fun _ _ =>
    triple_ensureSubnetEnhancedAddr _ _ _ (fun _ tracked => tracked.add ?_)
      fun _ _ tracked => tracked.erase
  rw [subnet_enhancedAddr ((valid.subnetMaps _ mem).pods _ recorded)]
  exact valid.isTracked mem recorded

/-- `ResetInfos`, then `TryAddPodInfo` for each pod with its address inside its subnet, then
`SyncAddresses`: on links that report each name and each address once, with at most one
enhanced address of a subnet on each link that is no container link, a run that returns
without error leaves on every link that is no container link only enhanced addresses of
subnets tracked for it. -/
theorem syncAddresses_leaves_tracked_enhanced_addrs (m : AddrManager)
    (podInfos : List (String × IPNet × Int))
    (inSubnets : ∀ info ∈ podInfos, maskIP m.family.bits info.2.1.ones info.2.2 = info.2.1.ip)
    (isContainerLink : String → Bool)
    (getIPInstanceByAddress : Int → Except String (Option String)) (links : List AddrLink)
    (valid : LinksValid links) (single : OneEnhancedAddrPerSubnet m.family isContainerLink links)
    (synced : (((m.resetInfos.tryAddPodInfos podInfos).syncAddresses isContainerLink
      getIPInstanceByAddress).run.run links).1 = .ok ()) :
    EnhancedAddrsTracked m.family isContainerLink
      (m.resetInfos.tryAddPodInfos podInfos).interfaceToSubnetMap
      (((m.resetInfos.tryAddPodInfos podInfos).syncAddresses isContainerLink
        getIPInstanceByAddress).run.run links).2 := by
  have triple := triple_syncAddresses (m.resetInfos.tryAddPodInfos podInfos) isContainerLink
    getIPInstanceByAddress
    (by
      rw [AddrManager.family_tryAddPodInfos]
      exact recordsValid_tryAddPodInfos m podInfos inSubnets)
  rw [AddrManager.family_tryAddPodInfos] at triple
  exact triple links () _ ⟨valid, single⟩ (Prod.ext synced rfl)

/-- Records on `eth0` for `10.0.2.0/24`, with the pod `10.0.2.9`, and for `10.0.3.0/24`, with
the pod `10.0.3.7`. -/
def ethPodInfos : List (String × IPNet × Int) :=
  [("eth0", ⟨167772672, 24⟩, 167772681), ("eth0", ⟨167772928, 24⟩, 167772935)]

/-- `eth0` carries the manual address `10.0.0.2/24` and the enhanced addresses `10.0.1.5/24`
and `10.0.2.5/24`; `eth1` carries the enhanced address `10.0.4.5/24`. -/
def mixedAddrLinks : List AddrLink :=
  [⟨"eth0", [⟨167772162, 24, .universe, false⟩, ⟨167772421, 24, .link, true⟩,
    ⟨167772677, 24, .link, true⟩]⟩, ⟨"eth1", [⟨167773189, 24, .link, true⟩]⟩]

theorem syncAddresses_leaves_tracked_enhanced_addrs_mixed :
    (∀ info ∈ ethPodInfos, maskIP Family.v4.bits info.2.1.ones info.2.2 = info.2.1.ip) ∧
      LinksValid mixedAddrLinks ∧ OneEnhancedAddrPerSubnet .v4 (fun _ => false) mixedAddrLinks ∧
      ((((createAddrManager .v4 "node1").resetInfos.tryAddPodInfos ethPodInfos).syncAddresses
        (fun _ => false) (fun _ => .ok none)).run.run mixedAddrLinks).1 = .ok () ∧
      EnhancedAddrsTracked .v4 (fun _ => false)
        ((createAddrManager .v4 "node1").resetInfos.tryAddPodInfos ethPodInfos).interfaceToSubnetMap
        ((((createAddrManager .v4 "node1").resetInfos.tryAddPodInfos ethPodInfos).syncAddresses
          (fun _ => false) (fun _ => .ok none)).run.run mixedAddrLinks).2 :=
  ⟨by decide, by decide, by decide, rfl,
    syncAddresses_leaves_tracked_enhanced_addrs (createAddrManager .v4 "node1") ethPodInfos
      (by decide) (fun _ => false) (fun _ => .ok none) mixedAddrLinks (by decide) (by decide) rfl⟩

end Hybridnet
