import Hybridnet.Route.Vxlan
import Hybridnet.Calculator.Exclude
import Hybridnet.Go.Map

/-!
# The route manager's helpers

Besides the routes of one subnet, the route manager clears the tables of subnets it no
longer serves, recognises its own rules among the kernel's, collects the blocks the
underlay subnets exclude, and merges maps of subnets and of blocks.

`clearRouteTable` deletes every route its table lists, a default route listed without a
destination under the zero prefix: when no kernel operation fails it empties the table,
however the library lists a default route, unlike the branch of Vxlan without NAT, which
deletes only the routes listed with one. `checkIsFromPodSubnetRule` recognises every rule
the calls of `ensureFromPodSubnetRuleAndRoutes` add, on every run, failed or not.
-/

namespace Hybridnet

/-! ## The helpers -/

/-- `checkIsFromPodSubnetRule(rule)`: a rule from a prefix, with the mask of the subnet rules,
to a table of the pool. Modelled from the spec: `fromRuleMask` is a parameter, as for
`ensureFromPodSubnetRuleAndRoutes`. -/
def checkIsFromPodSubnetRule (fromRuleMask : Int) (rule : Rule) : Bool :=
  rule.src.isSome && rule.mask = fromRuleMask && minRouteTableNum ≤ rule.table &&
    rule.table ≤ maxRouteTableNum

/-- `clearRouteTable(table, family)`. -/
def clearRouteTable (table : Int) (family : Family) : NetM Unit := do
  let routeList ← wrap ("failed to list route for table " ++ toString table ++ ": ")
    (routeListFiltered table fun _ => true)
  routeList.forM fun r => do
    let r := if r.dst.isNone then { r with dst := some (defaultRouteDstByFamily family) } else r
    wrap ("failed to delete route " ++ toString r ++ " for table " ++ toString table ++ ": ")
      (routeDel table r)

/-! ## Clearing a table -/

/-- The environments in which no kernel operation fails and the library lists a default
route in the form `form`. -/
def ListedReliably (form : ListingForm) (env : Env) : Prop := env.listing = form ∧ Reliable env

section Clear

variable {pre : Kernel → Prop} {fail : Kernel → Prop}

theorem spec_routeListFiltered_listed (form : ListingForm) (table : Int) (keep : Route → Bool) :
    Spec (ListedReliably form) pre (routeListFiltered table keep)
      (fun routeList k =>
        routeList = ((k.routes table).map (Route.listed form)).filter keep ∧ pre k)
      fail :=
  spec_kernelOp_reliable (fun _ good => good.2) fun env good _ before => by
    rw [good.1]
    exact ⟨rfl, before⟩

/-- A loop that deletes every route of a list, each under its own destination, from a table
that holds exactly those routes never fails and leaves the table empty. -/
theorem spec_forM_routeDel_all (table : Int) {ok : Env → Prop}
    (reliable : ∀ env, ok env → Reliable env) {g : Route → Route} {context : Route → String}
    (names : ∀ a, (g a).stored = a.stored) (l : List Route) :
    Spec ok (fun k => (l.map Route.key).Nodup ∧ ∀ r, r ∈ k.routes table ↔ ∃ a ∈ l, a.stored = r)
      (l.forM fun a => wrap (context a) (routeDel table (g a)))
      (fun _ k => k.routes table = []) (fun _ => False) := by
  refine (spec_forM (fun rest k => (rest.map Route.key).Nodup ∧
      ∀ r, r ∈ k.routes table ↔ ∃ a ∈ rest, a.stored = r) (fun a rest => ?_) l).mono
    (fun _ => id) (fun _ k ⟨_, after⟩ => List.eq_nil_iff_forall_not_mem.2 fun r member => by
      simpa using (after r).1 member) fun _ => id
  refine spec_wrap _ (spec_kernelOp_reliable reliable fun _ _ k ⟨nodup, routes⟩ => ?_)
  have there : (g a).stored ∈ k.routes table := by
    rw [names, routes]
    exact ⟨a, List.mem_cons_self a rest, rfl⟩
  simp only [there, if_true]
  rw [List.map_cons, List.nodup_cons] at nodup
  refine ⟨nodup.2, fun r => ?_⟩
  rw [Kernel.mem_deleteRoute_routes_self, routes, names]
  constructor
  · rintro ⟨⟨b, member, rfl⟩, other⟩
    rcases List.mem_cons.1 member with rfl | later
    · exact absurd rfl other
    · exact ⟨b, later, rfl⟩
  · rintro ⟨b, member, rfl⟩
    refine ⟨⟨b, List.mem_cons_of_mem a member, rfl⟩, fun same => nodup.1 ?_⟩
    rw [← Route.key_stored a, ← same, Route.key_stored]
    exact List.mem_map_of_mem Route.key member

/-- The routes a table lists, in any form, name each of its routes once. -/
theorem listed_names_routes (k : Kernel) (table : Int) (form : ListingForm) :
    (((k.routes table).map (Route.listed form)).map Route.key).Nodup ∧
      ∀ r, r ∈ k.routes table ↔ ∃ a ∈ (k.routes table).map (Route.listed form), a.stored = r := by
  refine ⟨by simpa [List.map_map, Function.comp_def] using k.keyed table, fun r => ⟨fun member =>
    ⟨_, List.mem_map_of_mem _ member, Route.stored_listed (k.filed table r member) form⟩, ?_⟩⟩
  rintro ⟨a, listed, rfl⟩
  obtain ⟨r, member, rfl⟩ := List.mem_map.1 listed
  rw [Route.stored_listed (k.filed table r member)]
  exact member

/-- When no kernel operation fails, `clearRouteTable` returns and leaves its table empty,
whichever form the library lists a default route in. -/
theorem spec_clearRouteTable (table : Int) (family : Family) (form : ListingForm) :
    Spec (ListedReliably form) (fun _ => True) (clearRouteTable table family)
      (fun _ k => k.routes table = []) (fun _ => False) :=
  spec_bind (spec_wrap _ (spec_routeListFiltered_listed form table _)) fun _ =>
    (spec_forM_routeDel_all table (fun _ good => good.2)
      (fun a => stored_withDefaultDst a family) _).mono
      (fun k ⟨listed, _⟩ => by
        rw [listed, List.filter_true]
        exact listed_names_routes k table form)
      (fun _ _ => id) fun _ => id

theorem keeps_clearRouteTable (table : Int) (family : Family) :
    Keeps (TouchesOnly table) (clearRouteTable table family) :=
  keeps_bind TouchesOnly.trans (keeps_wrap _ ((keeps_routeListFiltered _ _).touchesOnly table))
    fun _ => keeps_forM (TouchesOnly.refl table) TouchesOnly.trans fun _ _ =>
      keeps_wrap _ (keeps_routeDel table _)

end Clear

/-- On every run, failed or not, `clearRouteTable` of a table other than 0 changes the routes of
its table and nothing else; and when no kernel operation fails it returns and leaves the table
empty, whichever form the library lists a default route in. (For table 0 netlink lists the
routes of every table and deletes each from its own.) -/
theorem clearRouteTable_empties (table : Int) (family : Family) (env : Env) (host : Host)
    (_specified : table ≠ 0) :
    TouchesOnly table host.kernel (clearRouteTable table family env host).2.kernel ∧
      (Reliable env → (clearRouteTable table family env host).1 = .ok () ∧
        (clearRouteTable table family env host).2.kernel.routes table = []) :=
  ⟨keeps_clearRouteTable table family env host, fun reliable =>
    have ⟨_, returned, empty⟩ : ∃ a, (clearRouteTable table family env host).1 = .ok a ∧
        (clearRouteTable table family env host).2.kernel.routes table = [] :=
      Spec.returns (spec_clearRouteTable table family env.listing) ⟨rfl, reliable⟩ trivial
        fun _ => id
    ⟨returned, empty⟩⟩

theorem clearRouteTable_empties_main :
    mainTable ≠ 0 ∧
      TouchesOnly mainTable mainTableRuleKernel
        (clearRouteTable mainTable .v4 nilDstEnv ⟨mainTableRuleKernel, 0⟩).2.kernel ∧
      (Reliable nilDstEnv →
        (clearRouteTable mainTable .v4 nilDstEnv ⟨mainTableRuleKernel, 0⟩).1 = .ok () ∧
        (clearRouteTable mainTable .v4 nilDstEnv ⟨mainTableRuleKernel, 0⟩).2.kernel.routes
          mainTable = []) :=
  ⟨by decide, clearRouteTable_empties mainTable .v4 nilDstEnv ⟨mainTableRuleKernel, 0⟩
    (by decide)⟩

/-! ## The rules of the manager -/

/-- A rule of `k'` that `k` lacks is the rule the call added, from `cidr` to its table. -/
theorem SubnetChange.mem_rules_added {fromRuleMask : Int} {cidr : IPNet} {table : Int}
    {k k' : Kernel} (change : SubnetChange fromRuleMask cidr table k k') {rule : Rule}
    (member : rule ∈ k'.rules) :
    rule ∈ k.rules ∨ k.rules.find? (ruleMatches cidr (-1)) = none ∧ ∃ priority,
      rule = { src := some cidr, table, priority, mark := fromRuleMark, mask := fromRuleMask } := by
  rcases change.rules with same | ⟨none, priority, added⟩
  · exact .inl (same ▸ member)
  · rw [added, Kernel.addRule_rules, List.mem_orderedInsert] at member
    exact member.elim (fun same => .inr ⟨none, priority, same⟩) .inl

/-- Every rule of `k` that `k₀` lacks is one `checkIsFromPodSubnetRule` recognises, from one of
`cidrs`. -/
def AddsSubnetRules (fromRuleMask : Int) (cidrs : List IPNet) (k₀ k : Kernel) : Prop :=
  ∀ rule ∈ k.rules, rule ∈ k₀.rules ∨
    checkIsFromPodSubnetRule fromRuleMask rule = true ∧ ∃ cidr ∈ cidrs, rule.src = some cidr

/-- A call for one of `cidrs` adds only such rules. -/
theorem addsSubnetRules_run (fromRuleMask : Int) {cidrs : List IPNet} {call : SubnetCall}
    (among : call.cidr ∈ cidrs) (env : Env) {k₀ : Kernel} {host : Host}
    (before : AddsSubnetRules fromRuleMask cidrs k₀ host.kernel) :
    AddsSubnetRules fromRuleMask cidrs k₀ (call.run fromRuleMask env host).2.kernel := by
  rcases ensureFromPodSubnetRuleAndRoutes_changes fromRuleMask call.forwardNodeIfName call.cidr
    call.gateway call.autoNatOutgoing call.family call.underlaySubnetInfoMap
    call.underlayExcludeIPBlockMap call.mode env host with same | ⟨table, chosen, change⟩
  · exact (same : (call.run fromRuleMask env host).2.kernel = host.kernel) ▸ before
  intro rule member
  rcases change.mem_rules_added member with old | ⟨none, priority, rfl⟩
  · exact before rule old
  · unfold IsSubnetTable at chosen
    rw [none] at chosen
    refine .inr ⟨?_, call.cidr, among, rfl⟩
    simp [checkIsFromPodSubnetRule, chosen.1, chosen.2.le]

theorem addsSubnetRules_runCalls (fromRuleMask : Int) {cidrs : List IPNet} (env : Env)
    {k₀ : Kernel} : ∀ (calls : List SubnetCall) (host : Host), (∀ call ∈ calls, call.cidr ∈ cidrs) →
      AddsSubnetRules fromRuleMask cidrs k₀ host.kernel →
      AddsSubnetRules fromRuleMask cidrs k₀ (runCalls fromRuleMask env calls host).kernel
  | [], _, _, before => before
  | call :: rest, _, among, before =>
      addsSubnetRules_runCalls fromRuleMask env rest _
        (fun other member => among other (List.mem_cons_of_mem call member))
        (addsSubnetRules_run fromRuleMask (among call (List.mem_cons_self call rest)) env before)

/-- On every run of calls of `ensureFromPodSubnetRuleAndRoutes`, whatever kernel operations fail
and however the library lists a default route, every rule the run adds is one
`checkIsFromPodSubnetRule` recognises, from the subnet of one of the calls: the manager can
find every rule it made. -/
theorem runCalls_adds_recognised_rules (fromRuleMask : Int) (env : Env) (calls : List SubnetCall)
    (host : Host) :
    ∀ rule ∈ (runCalls fromRuleMask env calls host).kernel.rules, rule ∈ host.kernel.rules ∨
      checkIsFromPodSubnetRule fromRuleMask rule = true ∧ ∃ call ∈ calls, rule.src = some call.cidr := by
  intro rule member
  refine (addsSubnetRules_runCalls fromRuleMask env calls host
    (fun call member => List.mem_map_of_mem SubnetCall.cidr member)
    (fun rule old => .inl old) rule member).imp_right fun ⟨recognised, cidr, among, src⟩ => ?_
  obtain ⟨call, member, rfl⟩ := List.mem_map.1 among
  exact ⟨recognised, call, member, src⟩

/-- On a fresh host the Vxlan subnet `10.0.0.0/24` gets the rule to table `10000` at
priority `1`, and the rule is recognised as a subnet's. -/
theorem runCalls_adds_recognised_rules_podCidr :
    let rule : Rule := { src := some podCidr, table := 10000, priority := 1 }
    let calls : List SubnetCall := [⟨"eth0", podCidr, none, false, .v4, [], [], .vxlan⟩]
    rule ∈ (runCalls 0 nilDstEnv calls ⟨freshKernel, 0⟩).kernel.rules ∧
      (rule ∈ freshKernel.rules ∨
        checkIsFromPodSubnetRule 0 rule = true ∧ ∃ call ∈ calls, rule.src = some call.cidr) :=
  have member : ({ src := some podCidr, table := 10000, priority := 1 } : Rule) ∈
      (runCalls 0 nilDstEnv [⟨"eth0", podCidr, none, false, .v4, [], [], .vxlan⟩]
        ⟨freshKernel, 0⟩).kernel.rules := by decide
  ⟨member, runCalls_adds_recognised_rules 0 nilDstEnv _ ⟨freshKernel, 0⟩ _ member⟩

/-! ## The blocks the underlay subnets exclude -/

/-- A `SubnetInfo` with the fields `findExcludeIPBlockMap` reads. -/
structure SubnetInfo where
  cidr : IPNet
  gateway : Option Int
  excludeIPs : List Int
  includedIPRanges : List IPRange
  deriving DecidableEq, Repr

/-- The addresses a subnet keeps from its pods: its gateway, its excluded addresses and, when
it has included ranges, its addresses outside every one of them. -/
def SubnetInfo.Excludes (family : Family) (info : SubnetInfo) (a : Int) : Prop :=
  (a ∈ info.gateway.toList ∨ a ∈ info.excludeIPs) ∨
    (info.includedIPRanges ≠ [] ∧ info.cidr.contains family a ∧
      ∀ r ∈ info.includedIPRanges, ¬ r.Mem a)

/-- The blocks the calculator returns for a subnet. -/
def SubnetInfo.excludeIPBlocks (family : Family) (info : SubnetInfo) :
    Except String (List IPNet) :=
  findSubnetExcludeIPBlocks family info.cidr info.includedIPRanges info.gateway info.excludeIPs

/-- One round of `findExcludeIPBlockMap`: the blocks one subnet excludes, each stored under
itself. -/
def addSubnetExcludeIPBlocks (family : Family) (excludeIPBlockMap : List (IPNet × IPNet))
    (info : SubnetInfo) : Except String (List (IPNet × IPNet)) :=
  match info.excludeIPBlocks family with
  | .error err => .error ("failed to find excluded ip blocks for subnet " ++ toString info.cidr ++
      ": " ++ err)
  | .ok excludeIPBlocks =>
      .ok (excludeIPBlocks.foldl (fun m block => GoMap.set m block block) excludeIPBlockMap)

/-- `findExcludeIPBlockMap(subnetInfoMap)`, for subnets of one family; a block is keyed by the
block, as by its text. -/
def findExcludeIPBlockMap (family : Family) (subnetInfoMap : List (IPNet × SubnetInfo)) :
    Except String (List (IPNet × IPNet)) :=
  subnetInfoMap.foldlM (fun excludeIPBlockMap entry =>
    addSubnetExcludeIPBlocks family excludeIPBlockMap entry.2) []

/-- The gaps between the sorted included ranges of a subnet whose address is its network
address hold, when some range is included, exactly its addresses outside every one. -/
theorem excludeIPRangesOf_sortByStart_cover {family : Family} {cidr : IPNet}
    {includedRanges gaps : List IPRange} (networkAddress : cidr.network family = cidr.ip)
    (gapsFound : excludeIPRangesOf cidr cidr.ip (cidr.lastIP family) true
      (sortByStart includedRanges) = .ok gaps) (a : Int) :
    Covers gaps a ↔
      includedRanges ≠ [] ∧ cidr.contains family a ∧ ∀ r ∈ includedRanges, ¬ r.Mem a := by
  have perm := sortByStart_perm includedRanges
  rw [IPNet.contains_iff_of_aligned (aligned_of_network_eq networkAddress)]
  cases sorted : sortByStart includedRanges with
  | nil =>
      rw [sorted] at gapsFound perm
      simp only [excludeIPRangesOf, Except.ok.injEq] at gapsFound
      subst gapsFound
      obtain rfl := List.Perm.nil_eq perm
      simp
  | cons current rest =>
      rw [sorted] at gapsFound perm
      rw [excludeIPRangesOf_cover gapsFound, if_pos rfl]
      have nonempty : includedRanges ≠ [] := fun empty => by simp [empty] at perm
      simp only [Covers, perm.mem_iff, not_exists, not_and, ne_eq, nonempty, not_false_eq_true,
        true_and, and_assoc]

/-- For a subnet whose address is its network address, its blocks hold exactly the addresses
it excludes. -/
theorem SubnetInfo.excludeIPBlocks_cover {family : Family} {info : SubnetInfo}
    (networkAddress : info.cidr.network family = info.cidr.ip) {blocks : List IPNet}
    (found : info.excludeIPBlocks family = .ok blocks) (a : Int) :
    (∃ n ∈ blocks, n.contains family a) ↔ info.Excludes family a := by
  obtain ⟨excludeIPRanges, rangesFound, rfl⟩ := findSubnetExcludeIPBlocks_eq_ok found
  obtain ⟨gaps, gapsFound, rfl⟩ := findSubnetExcludeIPRanges_eq_ok rangesFound
  rw [flatMap_splitIPRangeToIPBlocks_cover, foldl_addExcludedIP_cover, List.mem_append,
    excludeIPRangesOf_sortByStart_cover networkAddress gapsFound]
  exact or_comm.trans (or_congr_left or_comm)

/-- A map of blocks as `findExcludeIPBlockMap` builds it: each key once, each block stored
under itself. -/
structure BlockMap (m : List (IPNet × IPNet)) : Prop where
  keys : (m.map Prod.fst).Nodup
  diagonal : ∀ e ∈ m, e.1 = e.2

namespace BlockMap

variable {m : List (IPNet × IPNet)}

theorem mem_set (blockMap : BlockMap m) (b : IPNet) (e : IPNet × IPNet) :
    e ∈ GoMap.set m b b ↔ e = (b, b) ∨ e ∈ m := by
  unfold GoMap.set
  split
  · next v found =>
      have member : (b, v) ∈ m := GoMap.mem_of_get? found
      obtain rfl : b = v := blockMap.diagonal _ member
      have unchanged : m.map (fun entry => if entry.1 == b then (b, b) else entry) = m := by
        conv_rhs => rw [← List.map_id m]
        refine List.map_congr_left fun entry held => ?_
        split_ifs with hit
        · obtain ⟨k, v'⟩ := entry
          obtain rfl : k = b := beq_iff_eq.1 hit
          obtain rfl : k = v' := blockMap.diagonal _ held
          rfl
        · rfl
      rw [unchanged]
      exact ⟨.inr, fun held => held.elim (fun same => same ▸ member) id⟩
  · rw [List.mem_append, List.mem_singleton, or_comm]

theorem set (blockMap : BlockMap m) (b : IPNet) : BlockMap (GoMap.set m b b) :=
  ⟨GoMap.nodup_keys_set blockMap.keys, fun e member =>
    ((blockMap.mem_set b e).1 member).elim (fun same => same ▸ rfl) (blockMap.diagonal e)⟩

/-- Storing blocks, each under itself, adds them as entries and keeps every other entry. -/
theorem foldl_set : ∀ (blocks : List IPNet) {m : List (IPNet × IPNet)}, BlockMap m →
    BlockMap (blocks.foldl (fun m block => GoMap.set m block block) m) ∧
      ∀ e, e ∈ blocks.foldl (fun m block => GoMap.set m block block) m ↔
        e ∈ m ∨ e.1 = e.2 ∧ e.2 ∈ blocks
  | [], _, blockMap => ⟨blockMap, fun e => by simp⟩
  | b :: blocks, m, blockMap => by
      obtain ⟨after, entries⟩ := foldl_set blocks (blockMap.set b)
      refine ⟨after, fun e => ?_⟩
      rw [List.foldl_cons, entries, blockMap.mem_set, List.mem_cons]
      obtain ⟨k, v⟩ := e
      constructor
      · rintro ((held | held) | ⟨same, later⟩)
        · cases held
          exact .inr ⟨rfl, .inl rfl⟩
        · exact .inl held
        · exact .inr ⟨same, .inr later⟩
      · rintro (held | ⟨same, first | later⟩)
        · exact .inl (.inr held)
        · dsimp only at same first
          subst same first
          exact .inl (.inl rfl)
        · exact .inr ⟨same, later⟩

end BlockMap

theorem addSubnetExcludeIPBlocks_of_ok {family : Family} {info : SubnetInfo} {blocks : List IPNet}
    (found : info.excludeIPBlocks family = .ok blocks) (m : List (IPNet × IPNet)) :
    addSubnetExcludeIPBlocks family m info =
      .ok (blocks.foldl (fun m block => GoMap.set m block block) m) := by
  rw [addSubnetExcludeIPBlocks, found]

theorem addSubnetExcludeIPBlocks_of_error {family : Family} {info : SubnetInfo} {err : String}
    (failed : info.excludeIPBlocks family = .error err) (m : List (IPNet × IPNet)) :
    addSubnetExcludeIPBlocks family m info =
      .error ("failed to find excluded ip blocks for subnet " ++ toString info.cidr ++ ": " ++
        err) := by
  rw [addSubnetExcludeIPBlocks, failed]

/-- Every run of the loop of `findExcludeIPBlockMap` from a map of blocks: when it returns, the
map holds what it started with and the blocks of every subnet, each subnet's calculator having
returned; when it fails, the error is that of a subnet whose calculator failed, after the
subnet's prefix. -/
theorem foldlM_addSubnetExcludeIPBlocks (family : Family) :
    ∀ (subnetInfoMap : List (IPNet × SubnetInfo)) {acc : List (IPNet × IPNet)}, BlockMap acc →
      match subnetInfoMap.foldlM (fun excludeIPBlockMap entry =>
          addSubnetExcludeIPBlocks family excludeIPBlockMap entry.2) acc with
      | .ok m => BlockMap m ∧ (∀ e, e ∈ m ↔ e ∈ acc ∨ e.1 = e.2 ∧
            ∃ entry ∈ subnetInfoMap, ∃ blocks, entry.2.excludeIPBlocks family = .ok blocks ∧
              e.2 ∈ blocks) ∧
          ∀ entry ∈ subnetInfoMap, ∃ blocks, entry.2.excludeIPBlocks family = .ok blocks
      | .error e => ∃ entry ∈ subnetInfoMap, ∃ err, entry.2.excludeIPBlocks family = .error err ∧
          e = "failed to find excluded ip blocks for subnet " ++ toString entry.2.cidr ++ ": " ++ err
  | [], acc, blockMap => ⟨blockMap, fun e => by simp, by simp⟩
  | entry :: rest, acc, blockMap => by
      rw [List.foldlM_cons]
      cases found : entry.2.excludeIPBlocks family with
      | error err =>
          rw [addSubnetExcludeIPBlocks_of_error found, except_error_bind]
          exact ⟨entry, List.mem_cons_self _ _, err, found, rfl⟩
      | ok blocks =>
          obtain ⟨added, entries⟩ := blockMap.foldl_set blocks
          have later := foldlM_addSubnetExcludeIPBlocks family rest added
          rw [addSubnetExcludeIPBlocks_of_ok found, except_ok_bind]
          revert later
          split
          · next m result =>
              rintro ⟨blockMap', held, succeeded⟩
              refine ⟨blockMap', fun e => ?_, ?_⟩
              · rw [held, entries]
                constructor
                · rintro ((old | ⟨same, mine⟩) | ⟨same, other, member, blocks', found', mine⟩)
                  · exact .inl old
                  · exact .inr ⟨same, entry, List.mem_cons_self _ _, blocks, found, mine⟩
                  · exact .inr ⟨same, other, List.mem_cons_of_mem _ member, blocks', found', mine⟩
                · rintro (old | ⟨same, other, member, blocks', found', mine⟩)
                  · exact .inl (.inl old)
                  rcases List.mem_cons.1 member with rfl | member
                  · rw [found, Except.ok.injEq] at found'
                    exact .inl (.inr ⟨same, found' ▸ mine⟩)
                  · exact .inr ⟨same, other, member, blocks', found', mine⟩
              · intro other member
                rcases List.mem_cons.1 member with rfl | member
                · exact ⟨blocks, found⟩
                · exact succeeded other member
          · next e result =>
              rintro ⟨other, member, err, failed, rfl⟩
              exact ⟨other, List.mem_cons_of_mem _ member, err, failed, rfl⟩

/-- For every map of subnets, in any order `range` visits it: `findExcludeIPBlockMap` returns
exactly when the calculator returns for every subnet, and an error it returns is that of a
subnet whose calculator failed, after the subnet's prefix. The map it returns holds each block
once, stored under itself; and when the address of every subnet is its network address, its
blocks hold exactly the addresses some subnet excludes: a gateway, an excluded address, or an
address of a subnet with included ranges outside all of them. -/
theorem findExcludeIPBlockMap_spec (family : Family) (subnetInfoMap : List (IPNet × SubnetInfo)) :
    ((∃ excludeIPBlockMap, findExcludeIPBlockMap family subnetInfoMap = .ok excludeIPBlockMap) ↔
      ∀ entry ∈ subnetInfoMap, ∃ blocks, entry.2.excludeIPBlocks family = .ok blocks) ∧
    (∀ e, findExcludeIPBlockMap family subnetInfoMap = .error e →
      ∃ entry ∈ subnetInfoMap, ∃ err, entry.2.excludeIPBlocks family = .error err ∧
        e = "failed to find excluded ip blocks for subnet " ++ toString entry.2.cidr ++ ": " ++
          err) ∧
    ∀ excludeIPBlockMap, findExcludeIPBlockMap family subnetInfoMap = .ok excludeIPBlockMap →
      BlockMap excludeIPBlockMap ∧
        ((∀ entry ∈ subnetInfoMap, entry.2.cidr.network family = entry.2.cidr.ip) →
          ∀ a, (∃ e ∈ excludeIPBlockMap, e.2.contains family a) ↔
            ∃ entry ∈ subnetInfoMap, entry.2.Excludes family a) := by
  have loop := foldlM_addSubnetExcludeIPBlocks family subnetInfoMap
    (show BlockMap [] from ⟨List.nodup_nil, nofun⟩)
  rw [← findExcludeIPBlockMap] at loop
  cases result : findExcludeIPBlockMap family subnetInfoMap with
  | error e =>
      rw [result] at loop
      obtain ⟨entry, member, err, failed, rfl⟩ := loop
      refine ⟨⟨fun ⟨_, ok⟩ => Except.noConfusion ok, fun all => ?_⟩,
        fun _ same => ⟨entry, member, err, failed, (Except.error.inj same).symm⟩,
        fun _ ok => Except.noConfusion ok⟩
      obtain ⟨blocks, ok⟩ := all entry member
      exact Except.noConfusion (failed.symm.trans ok)
  | ok m =>
      rw [result] at loop
      obtain ⟨blockMap, entries, all⟩ := loop
      refine ⟨⟨fun _ => all, fun _ => ⟨m, rfl⟩⟩, fun _ failed => Except.noConfusion failed,
        fun m' same => ?_⟩
      obtain rfl := Except.ok.inj same
      refine ⟨blockMap, fun networkAddresses a => ⟨?_, ?_⟩⟩
      · rintro ⟨e, held, inside⟩
        obtain ⟨-, entry, member, blocks, found, mine⟩ :=
          ((entries e).1 held).resolve_left (List.not_mem_nil e)
        exact ⟨entry, member, ((SubnetInfo.excludeIPBlocks_cover (networkAddresses entry member)
          found a).1 ⟨e.2, mine, inside⟩)⟩
      · rintro ⟨entry, member, excluded⟩
        obtain ⟨blocks, found⟩ := all entry member
        obtain ⟨n, mine, inside⟩ :=
          (SubnetInfo.excludeIPBlocks_cover (networkAddresses entry member) found a).2 excluded
        exact ⟨(n, n), (entries (n, n)).2 (.inr ⟨rfl, entry, member, blocks, found, mine⟩), inside⟩

/-- When the library lists a default route with a nil destination and no kernel operation
fails, a call of `ensureFromPodSubnetRuleAndRoutes` for a Vxlan subnet with NAT, given the
underlay subnets and the map `findExcludeIPBlockMap` builds from them, visited in any order,
that returns leaves a rule from the subnet pointing at a table whose throw routes hold
exactly the addresses some underlay subnet excludes, when the address of every underlay
subnet is its network address: pods reach those addresses without the Vxlan device, and
only those. -/
theorem ensureFromPodSubnetRuleAndRoutes_vxlan_nat_throws_excluded (fromRuleMask : Int)
    (forwardNodeIfName : String) (cidr : IPNet) (gateway : Option Int) (family : Family)
    (subnetInfoMap : List (IPNet × SubnetInfo)) (excludeIPBlockMap visited : List (IPNet × IPNet))
    (env : Env) (host : Host)
    (networkAddresses : ∀ entry ∈ subnetInfoMap, entry.2.cidr.network family = entry.2.cidr.ip)
    (found : findExcludeIPBlockMap family subnetInfoMap = .ok excludeIPBlockMap)
    (order : visited.Perm excludeIPBlockMap) (nilDst : env.listing = .nilDst)
    (reliable : Reliable env) (named : NamesTable cidr host.kernel)
    (returned : (ensureFromPodSubnetRuleAndRoutes fromRuleMask forwardNodeIfName cidr gateway true
      family (subnetInfoMap.map Prod.fst) (visited.map Prod.snd) .vxlan env host).1 = .ok ()) :
    ∃ table, table ≠ 0 ∧
      (∃ rule ∈ (ensureFromPodSubnetRuleAndRoutes fromRuleMask forwardNodeIfName cidr
        gateway true family (subnetInfoMap.map Prod.fst) (visited.map Prod.snd) .vxlan env
        host).2.kernel.rules, rule.src = some cidr ∧ rule.table = table) ∧
      ∀ a, (∃ r ∈ (ensureFromPodSubnetRuleAndRoutes fromRuleMask forwardNodeIfName cidr gateway
          true family (subnetInfoMap.map Prod.fst) (visited.map Prod.snd) .vxlan env
          host).2.kernel.routes table, r.type = .throw ∧ ∃ dst, r.dst = some dst ∧
            dst.contains family a) ↔
        ∃ entry ∈ subnetInfoMap, entry.2.Excludes family a := by
  obtain ⟨table, specified, ruled, forwardLink, -, -, routes⟩ :=
    ensureFromPodSubnetRuleAndRoutes_vxlan_returned fromRuleMask forwardNodeIfName cidr gateway
      true family _ _ env host nilDst reliable named returned
  refine ⟨table, specified, ruled, fun a => ?_⟩
  rw [← ((findExcludeIPBlockMap_spec family subnetInfoMap).2.2 _ found).2 networkAddresses a]
  constructor
  · rintro ⟨r, member, throw, dst, hasDst, inside⟩
    rcases (routes r).1 member with ⟨c, among, rfl⟩ | ⟨c, -, -, rfl⟩
    · obtain ⟨e, visit, rfl⟩ := List.mem_map.1 among
      cases hasDst
      exact ⟨e, order.subset visit, inside⟩
    · cases throw
  · rintro ⟨e, held, inside⟩
    exact ⟨{ dst := some e.2, type := .throw }, (routes _).2
      (.inl ⟨e.2, List.mem_map_of_mem _ (order.symm.subset held), rfl⟩), rfl, e.2, rfl, inside⟩

/-! ## Merging maps -/

/-- The body `combineSubnetInfoMap` and `combineNetMap` share: `a` itself when `b` is empty,
and otherwise a new map with the entries of `a` and then those of `b` assigned in turn. -/
def combineMaps {ν : Type} (a b : List (IPNet × ν)) : List (IPNet × ν) :=
  if b.length = 0 then a
  else b.foldl (fun res entry => GoMap.set res entry.1 entry.2)
    (a.foldl (fun res entry => GoMap.set res entry.1 entry.2) [])

/-- `combineSubnetInfoMap(a, b)`. -/
def combineSubnetInfoMap (a b : List (IPNet × SubnetInfo)) : List (IPNet × SubnetInfo) :=
  combineMaps a b

/-- `combineNetMap(a, b)`. -/
def combineNetMap (a b : List (IPNet × IPNet)) : List (IPNet × IPNet) := combineMaps a b

/-- Of two maps, each key once, the merge holds each key once and finds a key's entry in `b`
when `b` has it and in `a` otherwise, by the shortcut for an empty `b` as by the copy. -/
theorem combineMaps_spec {ν : Type} {a b : List (IPNet × ν)} (nodupA : (a.map Prod.fst).Nodup)
    (nodupB : (b.map Prod.fst).Nodup) :
    ((combineMaps a b).map Prod.fst).Nodup ∧
      ∀ k, GoMap.get? (combineMaps a b) k = (GoMap.get? b k).or (GoMap.get? a k) := by
  unfold combineMaps
  split_ifs with empty
  · rw [List.length_eq_zero.1 empty]
    exact ⟨nodupA, fun _ => rfl⟩
  · refine ⟨GoMap.nodup_keys_foldl_set b (GoMap.nodup_keys_foldl_set a List.nodup_nil),
      fun k => ?_⟩
    rw [GoMap.get?_foldl_set, GoMap.get?_foldl_set, GoMap.get?_reverse nodupB,
      GoMap.get?_reverse nodupA, show GoMap.get? [] k = none from rfl, Option.or_none]

/-- For every two Go maps, `combineSubnetInfoMap` and `combineNetMap` return a map that holds
each key once and finds a key's entry in the second map when it has the key and in the first
otherwise: returning the first map itself when the second is empty gives the same lookups as
the copy. -/
theorem combineSubnetInfoMap_combineNetMap_get? :
    (∀ a b : List (IPNet × SubnetInfo), (a.map Prod.fst).Nodup → (b.map Prod.fst).Nodup →
      ((combineSubnetInfoMap a b).map Prod.fst).Nodup ∧
        ∀ k, GoMap.get? (combineSubnetInfoMap a b) k = (GoMap.get? b k).or (GoMap.get? a k)) ∧
    ∀ a b : List (IPNet × IPNet), (a.map Prod.fst).Nodup → (b.map Prod.fst).Nodup →
      ((combineNetMap a b).map Prod.fst).Nodup ∧
        ∀ k, GoMap.get? (combineNetMap a b) k = (GoMap.get? b k).or (GoMap.get? a k) :=
  ⟨fun _ _ => combineMaps_spec, fun _ _ => combineMaps_spec⟩

/-- The underlay subnet `0.0.0.0/30` with `0.0.0.1~0.0.0.2` included. -/
def quarterSubnetInfo : SubnetInfo where
  cidr := ⟨0, 30⟩
  gateway := none
  excludeIPs := []
  includedIPRanges := [⟨1, 2, by decide⟩]

def quarterSubnetInfoMap : List (IPNet × SubnetInfo) := [(⟨0, 30⟩, quarterSubnetInfo)]

/-- Its first and last address, each a block stored under itself. -/
def quarterBlockMap : List (IPNet × IPNet) := [(⟨0, 32⟩, ⟨0, 32⟩), (⟨3, 32⟩, ⟨3, 32⟩)]

theorem ensureFromPodSubnetRuleAndRoutes_vxlan_nat_throws_excluded_quarter :
    (∀ entry ∈ quarterSubnetInfoMap, entry.2.cidr.network .v4 = entry.2.cidr.ip) ∧
      findExcludeIPBlockMap .v4 quarterSubnetInfoMap = .ok quarterBlockMap ∧
      NamesTable podCidr freshKernel ∧
      (ensureFromPodSubnetRuleAndRoutes 0 "eth0" podCidr none true .v4
        (quarterSubnetInfoMap.map Prod.fst) (quarterBlockMap.map Prod.snd) .vxlan nilDstEnv
        ⟨freshKernel, 0⟩).1 = .ok () ∧
      ∃ table, table ≠ 0 ∧
        (∃ rule ∈ (ensureFromPodSubnetRuleAndRoutes 0 "eth0" podCidr none true .v4
          (quarterSubnetInfoMap.map Prod.fst) (quarterBlockMap.map Prod.snd) .vxlan nilDstEnv
          ⟨freshKernel, 0⟩).2.kernel.rules, rule.src = some podCidr ∧ rule.table = table) ∧
        ∀ a, (∃ r ∈ (ensureFromPodSubnetRuleAndRoutes 0 "eth0" podCidr none true .v4
            (quarterSubnetInfoMap.map Prod.fst) (quarterBlockMap.map Prod.snd) .vxlan nilDstEnv
            ⟨freshKernel, 0⟩).2.kernel.routes table, r.type = .throw ∧ ∃ dst, r.dst = some dst ∧
              dst.contains .v4 a) ↔
          ∃ entry ∈ quarterSubnetInfoMap, entry.2.Excludes .v4 a :=
  have networkAddresses : ∀ entry ∈ quarterSubnetInfoMap,
      entry.2.cidr.network .v4 = entry.2.cidr.ip := by decide
  have found : findExcludeIPBlockMap .v4 quarterSubnetInfoMap = .ok quarterBlockMap := by
    rw [findExcludeIPBlockMap, quarterSubnetInfoMap, List.foldlM_cons,
      addSubnetExcludeIPBlocks_of_ok (show quarterSubnetInfo.excludeIPBlocks .v4 =
        .ok [⟨0, 32⟩, ⟨3, 32⟩] from findSubnetExcludeIPBlocks_quarter)]
    rfl
  ⟨networkAddresses, found, namesTable_freshKernel, rfl,
    ensureFromPodSubnetRuleAndRoutes_vxlan_nat_throws_excluded 0 "eth0" podCidr none .v4
      quarterSubnetInfoMap quarterBlockMap quarterBlockMap nilDstEnv ⟨freshKernel, 0⟩
      networkAddresses found (List.Perm.refl _) rfl (fun _ => rfl) namesTable_freshKernel rfl⟩

end Hybridnet
