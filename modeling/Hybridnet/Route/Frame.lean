import Hybridnet.Route.Subnet

/-!
# What routing a subnet changes

Every call that fills a subnet's table changes the routes of that table and nothing
else, on every run, failed or not: `TouchesOnly table` relates the kernel before the call
to the kernel after. `ensureFromPodSubnetRuleAndRoutes` for a subnet therefore changes the
routes of one table, the table of the first rule from the subnet's prefix, whatever table
that is, or a table of the pool `[MinRouteTableNum, MaxRouteTableNum)` when there is no
such rule; and it changes the rules only by adding one rule from the subnet to that
table, when there was none.
-/

namespace Hybridnet

/-- `k'` is `k` but for the routes of `table`. -/
structure TouchesOnly (table : Int) (k k' : Kernel) : Prop where
  rules : k'.rules = k.rules
  links : k'.links = k.links
  addrs : k'.addrs = k.addrs
  routes : ∀ t, t ≠ table → k'.routes t = k.routes t

namespace TouchesOnly

variable {table : Int}

theorem refl (table : Int) (k : Kernel) : TouchesOnly table k k :=
  ⟨rfl, rfl, rfl, fun _ _ => rfl⟩

theorem trans (k₁ k₂ k₃ : Kernel) (first : TouchesOnly table k₁ k₂)
    (second : TouchesOnly table k₂ k₃) : TouchesOnly table k₁ k₃ :=
  ⟨second.rules.trans first.rules, second.links.trans first.links,
    second.addrs.trans first.addrs,
    fun t other => (second.routes t other).trans (first.routes t other)⟩

theorem replaceRoute (k : Kernel) (route : Route) :
    TouchesOnly table k (k.replaceRoute table route) :=
  ⟨rfl, rfl, rfl, fun t other => by simp [Kernel.replaceRoute_routes, other]⟩

theorem deleteRoute (k : Kernel) (route : Route) :
    TouchesOnly table k (k.deleteRoute table route) :=
  ⟨rfl, rfl, rfl, fun t other => by simp [Kernel.deleteRoute_routes, other]⟩

end TouchesOnly

/-- A call that changes nothing touches no table. -/
theorem Keeps.touchesOnly {α : Type} {x : NetM α} (kept : Keeps Eq x)
    (table : Int) : Keeps (TouchesOnly table) x :=
  kept.mono fun k _ same => same ▸ TouchesOnly.refl table k

/-! ## The calls that read -/

theorem keeps_getDefaultRoute (family : Family) :
    Keeps Eq (getDefaultRoute family) :=
  keeps_eq_bind (keeps_routeListFiltered _ _) fun _ => keeps_pure (fun _ => rfl) _

theorem keeps_localSubnetDirectRouteSrc (forwardLink : Link) (cidr : IPNet) (gateway : Option Int)
    (family : Family) :
    Keeps Eq (localSubnetDirectRouteSrc forwardLink cidr gateway family) :=
  keeps_eq_bind (keeps_wrap _ (keeps_getDefaultRoute family)) fun _ =>
    keeps_ite (keeps_throw (fun _ => rfl) _)
      (keeps_eq_bind (keeps_wrap _ (keeps_routeListFiltered _ _)) fun
        | [] => keeps_throw (fun _ => rfl) _
        | _ :: _ => keeps_pure (fun _ => rfl) _)

/-! ## The calls on one table -/

section Table

variable (table : Int)

theorem keeps_routeReplace (route : Route) : Keeps (TouchesOnly table) (routeReplace table route) :=
  keeps_kernelOp (TouchesOnly.refl table) fun _ k => TouchesOnly.replaceRoute k route

theorem keeps_routeDel (route : Route) : Keeps (TouchesOnly table) (routeDel table route) :=
  keeps_kernelOp (TouchesOnly.refl table) fun _ k => by
    by_cases member : route.stored ∈ k.routes table
    · simpa only [member, if_true] using TouchesOnly.deleteRoute k route
    · simpa only [member, if_false] using TouchesOnly.refl table k

theorem keeps_deleteRoutesWithDst (routeList : List Route) :
    Keeps (TouchesOnly table) (deleteRoutesWithDst table routeList) :=
  keeps_forM (TouchesOnly.refl table) TouchesOnly.trans fun route _ =>
    keeps_ite (keeps_wrap _ (keeps_routeDel table route)) (keeps_pure (TouchesOnly.refl table) _)

theorem keeps_deleteUselessRoutes (family : Family) (underlaySubnetInfoMap : List IPNet)
    (routeList : List Route) :
    Keeps (TouchesOnly table) (deleteUselessRoutes table family underlaySubnetInfoMap routeList) :=
  keeps_forM (TouchesOnly.refl table) TouchesOnly.trans fun _ _ =>
    keeps_ite (keeps_wrap _ (keeps_routeDel table _)) (keeps_pure (TouchesOnly.refl table) _)

theorem keeps_replaceSubnetRoutes (forwardLink : Link) (underlaySubnetInfoMap : List IPNet) :
    Keeps (TouchesOnly table) (replaceSubnetRoutes forwardLink table underlaySubnetInfoMap) :=
  keeps_forM (TouchesOnly.refl table) TouchesOnly.trans fun _ _ =>
    keeps_wrap _ (keeps_routeReplace table _)

theorem keeps_ensureExcludedIPBlockRoutes (excludeIPBlockMap : List IPNet) :
    Keeps (TouchesOnly table) (ensureExcludedIPBlockRoutes excludeIPBlockMap table) :=
  keeps_bind TouchesOnly.trans (keeps_wrap _ ((keeps_routeListFiltered _ _).touchesOnly table))
    fun _ => keeps_bind TouchesOnly.trans
      (keeps_forM (TouchesOnly.refl table) TouchesOnly.trans fun _ _ =>
        keeps_ite (keeps_wrap _ (keeps_routeDel table _)) (keeps_pure (TouchesOnly.refl table) _))
      fun _ => keeps_forM (TouchesOnly.refl table) TouchesOnly.trans fun _ _ =>
        keeps_wrap _ (keeps_routeReplace table _)

theorem keeps_ensureRoutesForVxlanSubnet (forwardLink : Link) (cidr : IPNet)
    (autoNatOutgoing : Bool) (family : Family) (underlaySubnetInfoMap : List IPNet)
    (underlayExcludeIPBlockMap : List IPNet) :
    Keeps (TouchesOnly table) (ensureRoutesForVxlanSubnet forwardLink cidr table autoNatOutgoing
      family underlaySubnetInfoMap underlayExcludeIPBlockMap) :=
  keeps_bind TouchesOnly.trans (keeps_wrap _ ((keeps_routeListFiltered _ _).touchesOnly table))
    fun routeList => keeps_ite
      (keeps_bind TouchesOnly.trans (keeps_wrap _ (keeps_routeReplace table _)) fun _ =>
        keeps_deleteRoutesWithDst table routeList)
      (keeps_bind TouchesOnly.trans (keeps_deleteUselessRoutes table family _ routeList) fun _ =>
        keeps_bind TouchesOnly.trans (keeps_replaceSubnetRoutes table forwardLink _) fun _ =>
          keeps_wrap _ (keeps_ensureExcludedIPBlockRoutes table _))

theorem keeps_ensureRoutesForVlanSubnet (forwardLink : Link) (cidr : IPNet) (gateway : Option Int)
    (family : Family) :
    Keeps (TouchesOnly table) (ensureRoutesForVlanSubnet forwardLink cidr gateway table family) :=
  keeps_bind TouchesOnly.trans (keeps_wrap _ (keeps_addrList.touchesOnly table)) fun _ =>
    keeps_ite (keeps_throw (TouchesOnly.refl table) _)
      (keeps_bind TouchesOnly.trans
        (keeps_ite
          ((keeps_localSubnetDirectRouteSrc forwardLink cidr gateway family).touchesOnly table)
          (keeps_pure (TouchesOnly.refl table) _))
        fun _ => keeps_bind TouchesOnly.trans (keeps_wrap _ (keeps_routeReplace table _)) fun _ =>
          keeps_wrap _ (keeps_routeReplace table _))

theorem keeps_ensureRoutesForBGPSubnet (forwardLink : Link) (cidr : IPNet) (gateway : Option Int) :
    Keeps (TouchesOnly table) (ensureRoutesForBGPSubnet forwardLink cidr table gateway) :=
  keeps_wrap _ (keeps_routeReplace table _)

theorem keeps_ensureRoutesForMode (forwardLink : Link) (cidr : IPNet) (gateway : Option Int)
    (autoNatOutgoing : Bool) (family : Family) (underlaySubnetInfoMap : List IPNet)
    (underlayExcludeIPBlockMap : List IPNet) (mode : NetworkMode) :
    Keeps (TouchesOnly table) (ensureRoutesForMode forwardLink cidr gateway autoNatOutgoing family
      underlaySubnetInfoMap underlayExcludeIPBlockMap mode table) := by
  cases mode with
  | vxlan => exact keeps_wrap _ (keeps_ensureRoutesForVxlanSubnet table forwardLink cidr _ _ _ _)
  | vlan =>
      exact keeps_wrap _ (keeps_ensureRoutesForVlanSubnet table forwardLink cidr gateway family)
  | bgp => exact keeps_wrap _ (keeps_ensureRoutesForBGPSubnet table forwardLink cidr gateway)
  | globalBGP => exact keeps_wrap _ (keeps_ensureRoutesForBGPSubnet table forwardLink cidr gateway)
  | other name => exact keeps_throw (TouchesOnly.refl table) _

end Table

/-! ## The table of the pool -/

theorem checkIfRouteTableEmpty_apply (tableNum : Int) (env : Env) (host : Host) :
    checkIfRouteTableEmpty tableNum env host =
      match env.fails host.clock with
      | some e => (.error ("failed to list route for table " ++ toString tableNum ++ ": " ++ e),
          ⟨host.kernel, host.clock + 1⟩)
      | none => (.ok (host.kernel.routes tableNum).isEmpty, ⟨host.kernel, host.clock + 1⟩) := by
  simp only [checkIfRouteTableEmpty, NetM.bind_apply, wrap_apply, routeListFiltered, kernelOp,
    List.filter_true]
  cases env.fails host.clock with
  | some e => rfl
  | none => cases host.kernel.routes tableNum <;> rfl

theorem keeps_findEmptyRouteTable_loop : ∀ (i : Int) (remaining : Nat),
    Keeps Eq (findEmptyRouteTable.loop i remaining)
  | _, 0 => keeps_throw (fun _ => rfl) _
  | i, remaining + 1 =>
      keeps_eq_bind (keeps_wrap _ (keeps_eq_bind (keeps_wrap _ (keeps_routeListFiltered _ _))
        fun _ => keeps_pure (fun _ => rfl) _))
      fun _ => keeps_ite (keeps_pure (fun _ => rfl) _)
        (keeps_findEmptyRouteTable_loop (i + 1) remaining)

theorem keeps_findEmptyRouteTable : Keeps Eq findEmptyRouteTable :=
  keeps_findEmptyRouteTable_loop _ _

/-- The loop returns a table from `i` on, among the `remaining` it may try, that is
empty. -/
theorem findEmptyRouteTable.loop_eq_ok {i : Int} {remaining : Nat} {env : Env} {host host' : Host}
    {table : Int} (found : loop i remaining env host = (.ok table, host')) :
    i ≤ table ∧ table < i + remaining ∧ host.kernel.routes table = [] := by
  induction remaining generalizing i host with
  | zero => simp [loop] at found
  | succ remaining ih =>
      simp only [loop, NetM.bind_apply, wrap_apply, checkIfRouteTableEmpty_apply] at found
      cases fault : env.fails host.clock with
      | some e => simp [fault] at found
      | none =>
          simp only [fault] at found
          split_ifs at found with empty
          · simp only [NetM.pure_apply, Prod.mk.injEq, Except.ok.injEq] at found
            obtain ⟨rfl, -⟩ := found
            exact ⟨le_rfl, by omega, List.isEmpty_iff.1 empty⟩
          · obtain ⟨low, high, empty⟩ := ih found
            exact ⟨by omega, by push_cast at high ⊢; omega, empty⟩

/-- `findEmptyRouteTable` returns an empty table of the pool. -/
theorem findEmptyRouteTable_eq_ok {env : Env} {host host' : Host} {table : Int}
    (found : findEmptyRouteTable env host = (.ok table, host')) :
    minRouteTableNum ≤ table ∧ table < maxRouteTableNum ∧ host.kernel.routes table = [] := by
  obtain ⟨low, high, empty⟩ := findEmptyRouteTable.loop_eq_ok found
  exact ⟨low, by simpa [minRouteTableNum, maxRouteTableNum] using high, empty⟩

/-! ## The subnet -/

/-- The table a call for `cidr` fills, by the kernel it starts from: the table of the
first rule from `cidr`, whatever table that is, or a table of the pool when there is
none. -/
def IsSubnetTable (cidr : IPNet) (k : Kernel) (table : Int) : Prop :=
  match k.rules.find? (ruleMatches cidr (-1)) with
  | some rule => table = rule.table
  | none => minRouteTableNum ≤ table ∧ table < maxRouteTableNum

/-- The kernel's first rule from `cidr`, if any, names a table other than 0. A rule such as an
`unreachable` or `blackhole` one reports table 0 (`RT_TABLE_UNSPEC`); from it, netlink would
list and delete routes across every table and write the main table, which the model does not
follow. -/
def NamesTable (cidr : IPNet) (k : Kernel) : Prop :=
  ∀ rule, k.rules.find? (ruleMatches cidr (-1)) = some rule → rule.table ≠ 0

/-- The table chosen for `cidr` is not table 0 when the first rule from `cidr` names one. -/
theorem IsSubnetTable.ne_zero {cidr : IPNet} {k : Kernel} {table : Int}
    (chosen : IsSubnetTable cidr k table) (named : NamesTable cidr k) : table ≠ 0 := by
  unfold IsSubnetTable at chosen
  cases found : k.rules.find? (ruleMatches cidr (-1)) with
  | some rule => rw [found] at chosen; exact chosen ▸ named rule found
  | none =>
    rw [found] at chosen
    have : (0 : Int) < minRouteTableNum := by decide
    omega

/-- `k'` is `k` but for the routes of `table` and, when `k` has no rule from `cidr`, for one
rule from `cidr` to `table` with the marks of a subnet rule. -/
structure SubnetChange (fromRuleMask : Int) (cidr : IPNet) (table : Int) (k k' : Kernel) :
    Prop where
  links : k'.links = k.links
  addrs : k'.addrs = k.addrs
  routes : ∀ t, t ≠ table → k'.routes t = k.routes t
  rules : k'.rules = k.rules ∨ k.rules.find? (ruleMatches cidr (-1)) = none ∧ ∃ priority,
    k'.rules = (k.addRule
      { src := some cidr, table, priority, mark := fromRuleMark, mask := fromRuleMask }).rules

theorem SubnetChange.of_touchesOnly {fromRuleMask : Int} {cidr : IPNet} {table : Int}
    {k k' : Kernel} (touched : TouchesOnly table k k') :
    SubnetChange fromRuleMask cidr table k k' :=
  ⟨touched.links, touched.addrs, touched.routes, .inl touched.rules⟩

/-- Adding the subnet's rule after touching only its table, from a kernel with no rule from
`cidr`. -/
theorem SubnetChange.of_touchesOnly_addRule {fromRuleMask : Int} {cidr : IPNet} {table : Int}
    {k₁ k₂ : Kernel} (touched : TouchesOnly table k₁ k₂)
    (none : k₁.rules.find? (ruleMatches cidr (-1)) = none) (priority : Int) :
    SubnetChange fromRuleMask cidr table k₁ (k₂.addRule
      { src := some cidr, table, priority, mark := fromRuleMark, mask := fromRuleMask }) :=
  ⟨touched.links, touched.addrs, touched.routes, .inr ⟨none, priority, by simp [touched.rules]⟩⟩

theorem keeps_appendHighestUnusedPriorityRuleIfNotExist (src : IPNet) (table mark mask : Int) :
    Keeps (fun k k' => k' = k ∨
        ∃ priority, k' = k.addRule { src := some src, table, priority, mark, mask })
      (appendHighestUnusedPriorityRuleIfNotExist src table mark mask) := fun _ _ =>
  (appendHighestUnusedPriorityRuleIfNotExist_rules src table mark mask).imp id
    fun ⟨priority, _, added⟩ => ⟨priority, added⟩

/-- After the table is chosen, a call changes the routes of that table and adds at most
the subnet's rule, and that only when `existRule`, the kernel's first rule from `cidr`,
is none. -/
theorem keeps_ensureTableRoutesAndRule (fromRuleMask : Int) (forwardNodeIfName : String)
    (cidr : IPNet) (gateway : Option Int) (autoNatOutgoing : Bool) (family : Family)
    (underlaySubnetInfoMap underlayExcludeIPBlockMap : List IPNet) (mode : NetworkMode)
    (existRule : Option Rule) (table : Int) :
    Keeps (fun k k' => k.rules.find? (ruleMatches cidr (-1)) = existRule →
        SubnetChange fromRuleMask cidr table k k')
      (ensureTableRoutesAndRule fromRuleMask forwardNodeIfName cidr gateway autoNatOutgoing family
        underlaySubnetInfoMap underlayExcludeIPBlockMap mode existRule table) := by
  refine keeps_bind_of (keeps_wrap _ (keeps_linkByName _)) (fun forwardLink => ?_)
    (fun k _ _ same changed => same ▸ changed)
    (fun k _ same _ => same ▸ .of_touchesOnly (.refl table k))
  refine @keeps_bind_of _ _ _ (fun k k' => k' = k ∨ existRule = none ∧ ∃ priority,
      k' = k.addRule
        { src := some cidr, table, priority, mark := fromRuleMark, mask := fromRuleMask })
    _ _ _ (keeps_ensureRoutesForMode table forwardLink cidr gateway autoNatOutgoing family
      underlaySubnetInfoMap underlayExcludeIPBlockMap mode) (fun _ => ?_) ?_
    (fun _ _ touched _ => .of_touchesOnly touched)
  · split
    · next isNone =>
        exact (keeps_wrap _ (keeps_appendHighestUnusedPriorityRuleIfNotExist _ _ _ _)).mono
          fun _ _ added => added.imp_right fun found => ⟨Option.isNone_iff_eq_none.1 isNone, found⟩
    · exact keeps_pure (fun _ => .inl rfl) _
  · rintro k₁ k₂ k₃ touched (rfl | ⟨rfl, priority, rfl⟩) found
    · exact .of_touchesOnly touched
    · exact .of_touchesOnly_addRule touched found priority

/-- How a call chooses its table: what the part after the choice makes of the kernel the
call starts from holds of the chosen table, the table of the first rule from `cidr` or,
when there is none, an empty table of the pool; a call that stops before the choice leaves
the kernel as it was. -/
theorem ensureFromPodSubnetRuleAndRoutes_chooses (Rel : Int → Kernel → Kernel → Prop)
    (fromRuleMask : Int) (forwardNodeIfName : String) (cidr : IPNet) (gateway : Option Int)
    (autoNatOutgoing : Bool) (family : Family)
    (underlaySubnetInfoMap underlayExcludeIPBlockMap : List IPNet) (mode : NetworkMode)
    (env : Env) (host : Host)
    (tail : ∀ existRule table (host' : Host), host'.kernel = host.kernel →
      host.kernel.rules.find? (ruleMatches cidr (-1)) = existRule →
      (existRule = none → host.kernel.routes table = []) →
      Rel table host.kernel (ensureTableRoutesAndRule fromRuleMask forwardNodeIfName cidr gateway
        autoNatOutgoing family underlaySubnetInfoMap underlayExcludeIPBlockMap mode existRule table
        env host').2.kernel) :
    (ensureFromPodSubnetRuleAndRoutes fromRuleMask forwardNodeIfName cidr gateway autoNatOutgoing
        family underlaySubnetInfoMap underlayExcludeIPBlockMap mode env host).2.kernel =
        host.kernel ∨
      ∃ table, IsSubnetTable cidr host.kernel table ∧
        Rel table host.kernel (ensureFromPodSubnetRuleAndRoutes fromRuleMask forwardNodeIfName cidr
          gateway autoNatOutgoing family underlaySubnetInfoMap underlayExcludeIPBlockMap mode env
          host).2.kernel := by
  simp only [ensureFromPodSubnetRuleAndRoutes, NetM.bind_apply, wrap_apply, checkIfRuleExist_apply]
  cases env.fails host.clock with
  | some e => exact .inl rfl
  | none =>
      simp only
      cases found : host.kernel.rules.find? (ruleMatches cidr (-1)) with
      | some rule =>
          exact .inr ⟨rule.table, by simp [IsSubnetTable, found],
            tail _ _ ⟨host.kernel, host.clock + 1⟩ rfl found nofun⟩
      | none =>
          have same := keeps_findEmptyRouteTable env ⟨host.kernel, host.clock + 1⟩
          simp only [wrap_apply]
          rcases result : findEmptyRouteTable env ⟨host.kernel, host.clock + 1⟩ with
            ⟨_ | table, host'⟩ <;> rw [result] at same <;> simp only at same ⊢
          · exact .inl same.symm
          · obtain ⟨low, high, empty⟩ := findEmptyRouteTable_eq_ok result
            exact .inr ⟨table, by simp [IsSubnetTable, found, low, high],
              tail _ _ host' same.symm found fun _ => empty⟩

/-- A call that changes the kernel changes the routes of its table and adds at most one rule,
from `cidr` to that table. -/
theorem ensureFromPodSubnetRuleAndRoutes_changes (fromRuleMask : Int) (forwardNodeIfName : String)
    (cidr : IPNet) (gateway : Option Int) (autoNatOutgoing : Bool) (family : Family)
    (underlaySubnetInfoMap underlayExcludeIPBlockMap : List IPNet) (mode : NetworkMode)
    (env : Env) (host : Host) :
    (ensureFromPodSubnetRuleAndRoutes fromRuleMask forwardNodeIfName cidr gateway autoNatOutgoing
        family underlaySubnetInfoMap underlayExcludeIPBlockMap mode env host).2.kernel =
        host.kernel ∨
      ∃ table, IsSubnetTable cidr host.kernel table ∧
        SubnetChange fromRuleMask cidr table host.kernel
          (ensureFromPodSubnetRuleAndRoutes fromRuleMask forwardNodeIfName cidr gateway
            autoNatOutgoing family underlaySubnetInfoMap underlayExcludeIPBlockMap mode env
            host).2.kernel :=
  ensureFromPodSubnetRuleAndRoutes_chooses (SubnetChange fromRuleMask cidr) fromRuleMask
    forwardNodeIfName cidr gateway autoNatOutgoing family underlaySubnetInfoMap
    underlayExcludeIPBlockMap mode env host fun existRule table host' same found _ => by
      have kept := keeps_ensureTableRoutesAndRule fromRuleMask forwardNodeIfName cidr gateway
        autoNatOutgoing family underlaySubnetInfoMap underlayExcludeIPBlockMap mode existRule
        table env host'
      rw [same] at kept
      exact kept found

/-- A change keeps the first rule from `cidr` on a table other than 0: it is the rule found
before, or the rule added to the chosen table. -/
theorem NamesTable.of_subnetChange {fromRuleMask : Int} {cidr : IPNet} {table : Int}
    {k k' : Kernel} (named : NamesTable cidr k) (change : SubnetChange fromRuleMask cidr table k k')
    (chosen : IsSubnetTable cidr k table) : NamesTable cidr k' := by
  intro rule first
  rcases change.rules with same | ⟨none, priority, added⟩
  · exact named rule (same ▸ first)
  · have member := List.mem_of_find?_eq_some first
    rw [added, Kernel.addRule_rules, List.mem_orderedInsert] at member
    rcases member with rfl | old
    · exact chosen.ne_zero named
    · exact absurd (List.find?_some first) (List.find?_eq_none.1 none rule old)

/-- A call of `ensureFromPodSubnetRuleAndRoutes` from a kernel whose first rule from `cidr` names
a table other than 0 leaves one that does. -/
theorem NamesTable.ensureFromPodSubnetRuleAndRoutes {cidr : IPNet} {host : Host}
    (named : NamesTable cidr host.kernel) (fromRuleMask : Int) (forwardNodeIfName : String)
    (gateway : Option Int) (autoNatOutgoing : Bool) (family : Family)
    (underlaySubnetInfoMap underlayExcludeIPBlockMap : List IPNet) (mode : NetworkMode)
    (env : Env) :
    NamesTable cidr (ensureFromPodSubnetRuleAndRoutes fromRuleMask forwardNodeIfName cidr gateway
      autoNatOutgoing family underlaySubnetInfoMap underlayExcludeIPBlockMap mode env
      host).2.kernel := by
  rcases ensureFromPodSubnetRuleAndRoutes_changes fromRuleMask forwardNodeIfName cidr gateway
    autoNatOutgoing family underlaySubnetInfoMap underlayExcludeIPBlockMap mode env host
    with unchanged | ⟨table, chosen, change⟩
  · exact unchanged ▸ named
  · exact named.of_subnetChange change chosen

/-- `ensureFromPodSubnetRuleAndRoutes` changes the routes of one table and adds at most one
rule: the table is that of the kernel's first rule from `cidr`, whatever table other than 0
that is, or, when there is none, a table of the pool, and then the rule it may add is one from
`cidr` to that table. On every run, failed or not. -/
theorem ensureFromPodSubnetRuleAndRoutes_frame (fromRuleMask : Int) (forwardNodeIfName : String)
    (cidr : IPNet) (gateway : Option Int) (autoNatOutgoing : Bool) (family : Family)
    (underlaySubnetInfoMap underlayExcludeIPBlockMap : List IPNet) (mode : NetworkMode)
    (env : Env) (host : Host) (named : NamesTable cidr host.kernel) :
    ∃ table, table ≠ 0 ∧ IsSubnetTable cidr host.kernel table ∧
      SubnetChange fromRuleMask cidr table host.kernel
        (ensureFromPodSubnetRuleAndRoutes fromRuleMask forwardNodeIfName cidr gateway
          autoNatOutgoing family underlaySubnetInfoMap underlayExcludeIPBlockMap mode env
          host).2.kernel := by
  rcases ensureFromPodSubnetRuleAndRoutes_changes fromRuleMask forwardNodeIfName cidr gateway
    autoNatOutgoing family underlaySubnetInfoMap underlayExcludeIPBlockMap mode env host
    with unchanged | chosen
  · have somePoolTable : ∃ table, IsSubnetTable cidr host.kernel table := by
      unfold IsSubnetTable
      cases host.kernel.rules.find? (ruleMatches cidr (-1)) with
      | some rule => exact ⟨rule.table, rfl⟩
      | none => exact ⟨minRouteTableNum, by decide⟩
    obtain ⟨table, chosen⟩ := somePoolTable
    exact ⟨table, chosen.ne_zero named, chosen, unchanged ▸ .of_touchesOnly (.refl table _)⟩
  · obtain ⟨table, chosen, change⟩ := chosen
    exact ⟨table, chosen.ne_zero named, chosen, change⟩

/-- A host whose main table routes `10.1.0.0/16` via `eth0`, with the rule
`100: from 10.0.0.0/24 lookup main` that another program added. -/
def mainTableRuleKernel : Kernel where
  rules := [{ src := some ⟨167772160, 24⟩, table := mainTable, priority := 100 }]
  routes table :=
    if table = mainTable then [{ dst := some ⟨167837696, 16⟩, linkIndex := 2 }] else []
  links := [⟨"eth0", 2⟩]
  addrs := []
  keyed table := by
    dsimp only
    split_ifs <;> simp
  filed table route member := by
    dsimp only at member
    split_ifs at member
    · rw [List.mem_singleton.1 member]
      rfl
    · exact absurd member (List.not_mem_nil _)

theorem ensureFromPodSubnetRuleAndRoutes_frame_mainTableRule :
    NamesTable ⟨167772160, 24⟩ mainTableRuleKernel ∧
      ∃ table, table ≠ 0 ∧ IsSubnetTable ⟨167772160, 24⟩ mainTableRuleKernel table ∧
        SubnetChange 0 ⟨167772160, 24⟩ table mainTableRuleKernel
          (ensureFromPodSubnetRuleAndRoutes 0 "eth0" ⟨167772160, 24⟩ none false .v4 [] [] .vxlan
            ⟨.nilDst, fun _ => none⟩ ⟨mainTableRuleKernel, 0⟩).2.kernel :=
  have named : NamesTable ⟨167772160, 24⟩ mainTableRuleKernel := fun rule found => by
    have first : mainTableRuleKernel.rules.find? (ruleMatches ⟨167772160, 24⟩ (-1)) =
        some { src := some ⟨167772160, 24⟩, table := mainTable, priority := 100 } := by decide
    rw [first] at found
    cases found
    decide
  ⟨named, ensureFromPodSubnetRuleAndRoutes_frame 0 "eth0" _ none false .v4 [] [] .vxlan _
    ⟨mainTableRuleKernel, 0⟩ named⟩

/-- From that host, the Vxlan subnet `10.0.0.0/24` without NAT takes the main table, which
lies outside the pool: the call deletes the main table's route to `10.1.0.0/16` and puts
a default route via `eth0` in its place. -/
theorem ensureFromPodSubnetRuleAndRoutes_takes_main_table :
    ¬ (minRouteTableNum ≤ mainTable ∧ mainTable < maxRouteTableNum) ∧
      mainTableRuleKernel.routes mainTable = [{ dst := some ⟨167837696, 16⟩, linkIndex := 2 }] ∧
      (ensureFromPodSubnetRuleAndRoutes 0 "eth0" ⟨167772160, 24⟩ none false .v4 [] [] .vxlan
        ⟨.nilDst, fun _ => none⟩ ⟨mainTableRuleKernel, 0⟩).2.kernel.routes mainTable =
        [{ dst := some zeroPrefix, linkIndex := 2 }] :=
  ⟨by decide, rfl, by decide⟩

end Hybridnet
