import Hybridnet.Route.Frame

/-!
# The tables of distinct subnets

`findEmptyRouteTable` hands the first empty table of the pool to a subnet without a rule,
whatever rule already points at that table; so two subnets share a table as soon as a
call leaves its table empty. A call leaves its table with routes when no kernel
operation fails, when the library lists a default route with a nil destination, as the
branch of Vxlan without NAT expects, and when a Vxlan subnet with NAT has an underlay
subnet or an excluded block to route. Then every rule from a subnet points at a table
with routes and rules from different subnets point at different tables, and every run of
calls keeps both.
-/

namespace Hybridnet

/-- `table` routes something. -/
def Filled (table : Int) (k : Kernel) : Prop := k.routes table ≠ []

theorem filled_replaceRoute (k : Kernel) (table : Int) (route : Route) :
    Filled table (k.replaceRoute table route) := by
  simp [Filled, Kernel.replaceRoute_routes]

/-- The environments in which a call keeps its table filled: no kernel operation fails,
and a default route is listed with a nil destination. -/
def NilDstReliable (env : Env) : Prop := env.listing = .nilDst ∧ Reliable env

/-! ## The calls in such an environment -/

section Calls

variable {α : Type} {pre : Kernel → Prop} {post : α → Kernel → Prop} {fail : Kernel → Prop}

theorem spec_routeListFiltered (table : Int) (keep : Route → Bool) :
    Spec NilDstReliable pre (routeListFiltered table keep)
      (fun routeList k =>
        routeList = ((k.routes table).map (Route.listed .nilDst)).filter keep ∧ pre k)
      fail :=
  spec_kernelOp_reliable (fun _ good => good.2) fun env good _ before => by
    rw [good.1]
    exact ⟨rfl, before⟩

theorem spec_routeReplace (table : Int) (route : Route) :
    Spec NilDstReliable pre (routeReplace table route)
      (fun _ k => ∃ k₁, pre k₁ ∧ k = k₁.replaceRoute table route) fail :=
  spec_kernelOp_reliable (fun _ good => good.2) fun _ _ k before => ⟨k, before, rfl⟩

theorem spec_routeReplace_filled (table : Int) (route : Route) :
    Spec NilDstReliable pre (routeReplace table route) (fun _ => Filled table) fail :=
  (spec_routeReplace table route).mono (fun _ => id)
    (fun _ _ ⟨k₁, _, after⟩ => after ▸ filled_replaceRoute k₁ table route) fun _ => id

/-- A call that changes nothing keeps every kernel property. -/
theorem spec_of_keeps_eq {ok : Env → Prop} {x : NetM α} (kept : Keeps Eq x) :
    Spec ok pre x (fun _ => pre) pre :=
  spec_of_keeps kept fun _ _ before same => same ▸ before

/-- A loop each round of which leaves `P` ends in `P`, when it runs a round or starts in
`P` for the reason `Q`. -/
theorem spec_forM_establishes {f : α → NetM PUnit} {P : Kernel → Prop}
    (each : ∀ a, Spec NilDstReliable (fun _ => True) (f a) (fun _ => P) fail) :
    ∀ (l : List α) (Q : Prop),
      Spec NilDstReliable (fun k => Q → P k) (l.forM f) (fun _ k => (l ≠ [] ∨ Q) → P k) fail
  | [], _ => spec_pure _ fun _ before reason => before (reason.resolve_left (by simp))
  | a :: rest, _ => spec_bind ((each a).mono (fun _ _ => trivial) (fun _ _ => id) fun _ => id)
      fun _ => ((spec_forM_establishes each rest True).mono (fun _ after _ => after)
        (fun _ _ after _ => after (.inr trivial)) fun _ => id)

end Calls

/-! ## Deleting the listed routes -/

/-- The invariant of a loop that deletes routes of `table`: every route left that the loop
deletes is still there, and no two routes left share a destination. -/
def Deletable (table : Int) (c : Route → Bool) (rest : List Route) (k : Kernel) : Prop :=
  (∀ a ∈ rest, c a → a.stored ∈ k.routes table) ∧ (rest.map Route.key).Nodup

/-- A loop that deletes, each under its own destination, routes the table holds never
fails, and keeps what every one of its deletions keeps. -/
theorem spec_forM_routeDel (table : Int) {c : Route → Bool} {g : Route → Route}
    {context : Route → String} {R : Route → Prop} {Q : Kernel → Prop}
    (names : ∀ a, R a → c a → (g a).stored = a.stored)
    (keeps : ∀ a, R a → c a → ∀ k, Q k → Q (k.deleteRoute table (g a))) (l : List Route) :
    Spec NilDstReliable (fun k => (∀ a ∈ l, R a) ∧ Deletable table c l k ∧ Q k)
      (l.forM fun a => if c a then wrap (context a) (routeDel table (g a)) else pure ())
      (fun _ => Q) (fun _ => False) := by
  refine (spec_forM (fun rest k => (∀ a ∈ rest, R a) ∧ Deletable table c rest k ∧ Q k)
    (fun a rest => ?_) l).mono (fun _ => id) (fun _ _ after => after.2.2) fun _ => id
  refine spec_ite (fun deleted => spec_wrap _ ?_) fun kept =>
    spec_pure _ fun k ⟨related, ⟨present, nodup⟩, holds⟩ =>
      ⟨fun b member => related b (List.mem_cons_of_mem a member),
        ⟨fun b member => present b (List.mem_cons_of_mem a member), (List.nodup_cons.1 nodup).2⟩,
        holds⟩
  refine spec_kernelOp_reliable (fun _ good => good.2)
    fun _ _ k ⟨related, ⟨present, nodup⟩, holds⟩ => ?_
  have isA : R a := related a (List.mem_cons_self a rest)
  have there : (g a).stored ∈ k.routes table := by
    rw [names a isA deleted]
    exact present a (List.mem_cons_self a rest) deleted
  simp only [there, if_true]
  refine ⟨fun b member => related b (List.mem_cons_of_mem a member), ⟨fun b member deletes => ?_,
    (List.nodup_cons.1 nodup).2⟩, keeps a isA deleted k holds⟩
  refine Kernel.mem_deleteRoute_routes_self.2
    ⟨present b (List.mem_cons_of_mem a member) deletes, ?_⟩
  rw [names a isA deleted]
  intro same
  have := congrArg Route.key same
  simp only [Route.key_stored] at this
  exact (List.nodup_cons.1 nodup).1 (this ▸ List.mem_map_of_mem Route.key member)

/-! ## What each mode leaves in the table -/

/-- What a call leaves in `table`, from `k₀`: routes, or what the table held. -/
def FilledOrKept (table : Int) (k₀ k : Kernel) : Prop :=
  Filled table k ∨ k.routes table = k₀.routes table

/-- `table` routes something that is no throw route. -/
def HasUnicast (table : Int) (k : Kernel) : Prop := ∃ route ∈ k.routes table, route.type ≠ .throw

theorem HasUnicast.filled {table : Int} {k : Kernel} (has : HasUnicast table k) : Filled table k :=
  fun empty => by obtain ⟨route, member, -⟩ := has; simp [empty] at member

/-- A listed route is the stored one, with a nil destination for the default route. -/
theorem mem_listed_nilDst {routes : List Route} {a : Route}
    (member : a ∈ routes.map (Route.listed .nilDst)) :
    ∃ route ∈ routes, a = route.listed .nilDst :=
  let ⟨route, member, same⟩ := List.mem_map.1 member
  ⟨route, member, same.symm⟩

/-- The routes a table lists are deletable, each at most once. -/
theorem deletable_listed (k : Kernel) (table : Int) (c : Route → Bool) (keep : Route → Bool) :
    Deletable table c (((k.routes table).map (Route.listed .nilDst)).filter keep) k := by
  refine ⟨fun a member _ => ?_, ?_⟩
  · obtain ⟨route, filed, rfl⟩ := mem_listed_nilDst (List.mem_of_mem_filter member)
    rw [Route.stored_listed (k.filed table route filed)]
    exact filed
  · refine (List.Sublist.map Route.key (List.filter_sublist _)).nodup ?_
    simpa [List.map_map, Function.comp_def] using k.keyed table

/-- Listed with a nil destination for the default route, no route is listed under the zero
prefix. -/
theorem listed_nilDst_dst_ne (route : Route) : (route.listed .nilDst).dst ≠ some zeroPrefix := by
  unfold Route.listed
  split_ifs with default
  · simp
  · simpa using default

theorem dst_ne_of_mem_listed {routes : List Route} {keep : Route → Bool} {a : Route}
    (member : a ∈ ((routes.map (Route.listed .nilDst)).filter keep)) : a.dst ≠ some zeroPrefix := by
  obtain ⟨route, -, rfl⟩ := mem_listed_nilDst (List.mem_of_mem_filter member)
  exact listed_nilDst_dst_ne route

theorem key_ne_of_dst_ne {route : Route} (hasDst : route.dst.isSome)
    (ne : route.dst ≠ some zeroPrefix) : route.key ≠ zeroPrefix := by
  obtain ⟨dst, linkIndex, gw, src, scope, type⟩ := route
  cases dst with
  | none => simp at hasDst
  | some dst => simpa [Route.key] using ne

/-- Without NAT, the loop deletes no route filed under the zero prefix. -/
theorem spec_deleteRoutesWithDst (table : Int) (route : Route) (default : route.key = zeroPrefix)
    (routeList : List Route) :
    Spec NilDstReliable (fun k => (∀ a ∈ routeList, a.dst ≠ some zeroPrefix) ∧
        Deletable table (fun a => a.dst.isSome) routeList k ∧ route.stored ∈ k.routes table)
      (deleteRoutesWithDst table routeList) (fun _ k => route.stored ∈ k.routes table)
      (fun _ => False) :=
  spec_forM_routeDel table (fun _ _ _ => rfl) (fun a listed deletes _ present =>
    Kernel.mem_deleteRoute_routes_self.2 ⟨present, fun same => key_ne_of_dst_ne deletes listed
      (by rw [← Route.key_stored a, ← same, Route.key_stored, default])⟩) routeList

/-- After the default route is replaced, the listed routes with a destination are still
there to delete. -/
theorem deletable_listed_replaceRoute (k : Kernel) (table : Int) (route : Route)
    (default : route.key = zeroPrefix) :
    Deletable table (fun a => a.dst.isSome)
      (((k.routes table).map (Route.listed .nilDst)).filter fun _ => true)
      (k.replaceRoute table route) := by
  refine ⟨fun a member deletes => ?_, (deletable_listed k table (fun _ => true) _).2⟩
  obtain ⟨r, filed, rfl⟩ := mem_listed_nilDst (List.mem_of_mem_filter member)
  rw [Route.stored_listed (k.filed table r filed)]
  refine Kernel.mem_replaceRoute_routes_self.2 (.inr ⟨filed, ?_⟩)
  rw [default, ← Route.key_listed .nilDst r]
  exact key_ne_of_dst_ne deletes (listed_nilDst_dst_ne r)

/-- Deleting a listed route, its nil destination set to the zero prefix, names the stored
route. -/
theorem stored_withDefaultDst (route : Route) (family : Family) :
    (if route.dst.isNone then { route with dst := some (defaultRouteDstByFamily family) }
      else route).stored = route.stored := by
  obtain ⟨dst, linkIndex, gw, src, scope, type⟩ := route
  cases dst <;> rfl

/-- With NAT, the first loop deletes only routes the table lists, and never fails. -/
theorem spec_deleteUselessRoutes (table : Int) (family : Family)
    (underlaySubnetInfoMap : List IPNet) (routeList : List Route) :
    Spec NilDstReliable
      (fun k => Deletable table (fun route => !isExcludeRoute route &&
        !route.dst.any (· ∈ underlaySubnetInfoMap)) routeList k)
      (deleteUselessRoutes table family underlaySubnetInfoMap routeList) (fun _ _ => True)
      (fun _ => False) :=
  (spec_forM_routeDel table (fun a (_ : True) _ => stored_withDefaultDst a family)
    (fun _ _ _ _ _ => trivial) routeList).mono
    (fun _ deletable => ⟨fun _ _ => trivial, deletable, trivial⟩)
    (fun _ _ => id) fun _ => id

/-- With NAT, the second loop leaves a route that is no throw route, when it has an underlay
subnet to route. -/
theorem spec_replaceSubnetRoutes (forwardLink : Link) (table : Int)
    (underlaySubnetInfoMap : List IPNet) {fail : Kernel → Prop} :
    Spec NilDstReliable (fun _ => True)
      (replaceSubnetRoutes forwardLink table underlaySubnetInfoMap)
      (fun _ k => underlaySubnetInfoMap ≠ [] → HasUnicast table k) fail :=
  (spec_forM_establishes (fun _ => spec_wrap _ ((spec_routeReplace table _).mono (fun _ => id)
    (fun _ _ ⟨_, _, after⟩ => after ▸ ⟨_, Kernel.mem_replaceRoute_routes_self.2 (.inl rfl),
      by simp [Route.stored]⟩) fun _ => id)) underlaySubnetInfoMap False).mono
    (fun _ _ => False.elim)
    (fun _ _ after nonempty => after (.inl nonempty)) fun _ => id

/-- `ensureExcludedIPBlockRoutes` deletes only throw routes, never fails, and leaves the
table with routes when it has an excluded block to route or when a route that is no
throw route was there. -/
theorem spec_ensureExcludedIPBlockRoutes (excludeIPBlockMap : List IPNet) (table : Int) (Q : Prop) :
    Spec NilDstReliable (fun k => Q → HasUnicast table k)
      (ensureExcludedIPBlockRoutes excludeIPBlockMap table)
      (fun _ k => (excludeIPBlockMap ≠ [] ∨ Q) → Filled table k) (fun _ => False) := by
  refine spec_bind (spec_wrap _ (spec_routeListFiltered table _)) fun excludedRouteList =>
    spec_bind ((spec_forM_routeDel table (fun a (_ : a.type = .throw) _ => rfl)
      (fun a throw _ k (has : Q → HasUnicast table k) reason => ?_) excludedRouteList).mono ?_
      (fun _ _ => id) fun _ => id) fun _ => ?_
  · obtain ⟨route, member, unicast⟩ := has reason
    refine ⟨route, Kernel.mem_deleteRoute_routes_self.2 ⟨member, fun same => unicast ?_⟩, unicast⟩
    rw [same]
    exact throw
  · rintro k ⟨rfl, has⟩
    refine ⟨fun a member => ?_, deletable_listed k table _ _, has⟩
    simpa using (List.mem_filter.1 member).2
  · exact (spec_forM_establishes (fun _ => spec_wrap _ (spec_routeReplace_filled table _))
      excludeIPBlockMap Q).mono (fun _ has reason => (has reason).filled) (fun _ _ => id)
      fun _ => id

theorem spec_ensureRoutesForVxlanSubnet (forwardLink : Link) (cidr : IPNet) (table : Int)
    (autoNatOutgoing : Bool) (family : Family) (underlaySubnetInfoMap : List IPNet)
    (underlayExcludeIPBlockMap : List IPNet) (k₀ : Kernel)
    (routed : autoNatOutgoing = true →
      underlaySubnetInfoMap ≠ [] ∨ underlayExcludeIPBlockMap ≠ []) :
    Spec NilDstReliable (· = k₀) (ensureRoutesForVxlanSubnet forwardLink cidr table autoNatOutgoing
      family underlaySubnetInfoMap underlayExcludeIPBlockMap) (fun _ => Filled table)
      (FilledOrKept table k₀) := by
  refine spec_bind (spec_wrap _ (spec_routeListFiltered table _)) fun routeList => ?_
  refine spec_ite (fun noNat => ?_) fun nat => ?_
  · refine spec_bind (spec_wrap _ (spec_routeReplace table _)) fun _ => ?_
    refine (spec_deleteRoutesWithDst table
      { dst := some (defaultRouteDstByFamily family), linkIndex := forwardLink.index } rfl
      routeList).mono ?_ (fun _ _ present empty => by simp [empty] at present) fun _ => False.elim
    rintro _ ⟨k, ⟨rfl, -⟩, rfl⟩
    exact ⟨fun a member => dst_ne_of_mem_listed member, deletable_listed_replaceRoute k table _ rfl,
      Kernel.mem_replaceRoute_routes_self.2 (.inl rfl)⟩
  · have nat : autoNatOutgoing = true := by simpa using nat
    refine spec_bind ((spec_deleteUselessRoutes table family underlaySubnetInfoMap routeList).mono
      (fun k ⟨listed, _⟩ => listed ▸ deletable_listed k table _ _) (fun _ _ => id)
      fun _ => False.elim)
      fun _ => spec_bind (spec_replaceSubnetRoutes forwardLink table underlaySubnetInfoMap) fun _ =>
        spec_wrap _ ((spec_ensureExcludedIPBlockRoutes underlayExcludeIPBlockMap table _).mono
          (fun _ => id) (fun _ _ filled => filled (routed nat).symm) fun _ => False.elim)

theorem spec_ensureRoutesForVlanSubnet (forwardLink : Link) (cidr : IPNet) (gateway : Option Int)
    (table : Int) (family : Family) (k₀ : Kernel) :
    Spec NilDstReliable (· = k₀) (ensureRoutesForVlanSubnet forwardLink cidr gateway table family)
      (fun _ => Filled table) (FilledOrKept table k₀) := by
  have unchanged : ∀ k, k = k₀ → FilledOrKept table k₀ k := fun _ same => .inr (same ▸ rfl)
  refine spec_bind ((spec_wrap _ (spec_of_keeps_eq keeps_addrList)).mono (fun _ => id)
    (fun _ _ => id) unchanged) fun _ => spec_ite (fun _ => spec_throw _ unchanged) fun _ => ?_
  refine spec_bind ((spec_ite (fun _ => spec_of_keeps_eq
    (keeps_localSubnetDirectRouteSrc forwardLink cidr gateway family))
      fun _ => spec_pure _ fun _ => id).mono (fun _ => id) (fun _ _ => id)
    unchanged) fun _ => ?_
  exact spec_bind (spec_wrap _ (spec_routeReplace_filled table _)) fun _ =>
    spec_wrap _ (spec_routeReplace_filled table _)

/-- In such an environment, filling a table by the subnet's mode leaves it with routes, or
fails before it changes the table. -/
theorem spec_ensureRoutesForMode (forwardLink : Link) (cidr : IPNet) (gateway : Option Int)
    (autoNatOutgoing : Bool) (family : Family) (underlaySubnetInfoMap : List IPNet)
    (underlayExcludeIPBlockMap : List IPNet) (mode : NetworkMode) (table : Int) (k₀ : Kernel)
    (routed : mode = .vxlan → autoNatOutgoing = true →
      underlaySubnetInfoMap ≠ [] ∨ underlayExcludeIPBlockMap ≠ []) :
    Spec NilDstReliable (· = k₀)
      (ensureRoutesForMode forwardLink cidr gateway autoNatOutgoing family
        underlaySubnetInfoMap underlayExcludeIPBlockMap mode table) (fun _ => Filled table)
      (FilledOrKept table k₀) := by
  cases mode with
  | vxlan =>
      exact spec_wrap _ (spec_ensureRoutesForVxlanSubnet forwardLink cidr table autoNatOutgoing
        family underlaySubnetInfoMap underlayExcludeIPBlockMap k₀ (routed rfl))
  | vlan =>
      exact spec_wrap _ (spec_ensureRoutesForVlanSubnet forwardLink cidr gateway table family k₀)
  | bgp => exact spec_wrap _ (spec_wrap _ (spec_routeReplace_filled table _))
  | globalBGP => exact spec_wrap _ (spec_wrap _ (spec_routeReplace_filled table _))
  | other name => exact spec_throw _ fun _ same => .inr (same ▸ rfl)

/-! ## The subnet -/

/-- What a call leaves in its table from `k₀`: routes, when it added a rule or when the table
had routes. -/
def Refilled (table : Int) (k₀ k : Kernel) : Prop :=
  k.rules ≠ k₀.rules ∨ Filled table k₀ → Filled table k

/-- In such an environment, after the table is chosen, a call adds a rule only to a table it
has filled, and never empties a table with routes. -/
theorem spec_ensureTableRoutesAndRule (fromRuleMask : Int) (forwardNodeIfName : String)
    (cidr : IPNet) (gateway : Option Int) (autoNatOutgoing : Bool) (family : Family)
    (underlaySubnetInfoMap underlayExcludeIPBlockMap : List IPNet) (mode : NetworkMode)
    (existRule : Option Rule) (table : Int) (k₀ : Kernel)
    (routed : mode = .vxlan → autoNatOutgoing = true →
      underlaySubnetInfoMap ≠ [] ∨ underlayExcludeIPBlockMap ≠ []) :
    Spec NilDstReliable (· = k₀) (ensureTableRoutesAndRule fromRuleMask forwardNodeIfName cidr
      gateway autoNatOutgoing family underlaySubnetInfoMap underlayExcludeIPBlockMap mode existRule
      table) (fun _ => Refilled table k₀) (Refilled table k₀) := by
  refine spec_bind ((spec_wrap _ (spec_of_keeps_eq (keeps_linkByName _))).mono (fun _ => id)
    (fun _ _ => id) fun _ same => same ▸ fun reason => reason.resolve_left (absurd rfl))
    fun forwardLink => ?_
  have filling := (spec_ensureRoutesForMode forwardLink cidr gateway autoNatOutgoing family
    underlaySubnetInfoMap underlayExcludeIPBlockMap mode table k₀ routed).and
    (spec_of_keeps (keeps_ensureRoutesForMode table forwardLink cidr gateway autoNatOutgoing family
      underlaySubnetInfoMap underlayExcludeIPBlockMap mode) fun k k' same touched =>
        (same ▸ touched : TouchesOnly table k₀ k'))
  refine spec_bind (filling.mono (fun _ => id) (fun _ _ after => after.1) ?_) fun _ => ?_
  · rintro k ⟨filled | kept, touched⟩ reason
    · exact filled
    · rw [Filled, kept]
      exact reason.resolve_left (not_not.2 touched.rules)
  · have rules :=
      keeps_appendHighestUnusedPriorityRuleIfNotExist cidr table fromRuleMark fromRuleMask
    refine spec_ite (fun _ => spec_wrap _ (spec_of_keeps rules ?_)) fun _ =>
      spec_pure _ fun _ filled _ => filled
    rintro k k' filled (rfl | ⟨priority, rfl⟩) _
    · exact filled
    · exact filled

/-- The rules of `k'` are those of `k` and, when `k` had no rule from `cidr`, the rule from
`cidr` to the call's table that the call added. -/
theorem SubnetChange.mem_rules {fromRuleMask : Int} {cidr : IPNet} {table : Int} {k k' : Kernel}
    (change : SubnetChange fromRuleMask cidr table k k') {rule : Rule} (member : rule ∈ k'.rules) :
    rule ∈ k.rules ∨ k.rules.find? (ruleMatches cidr (-1)) = none ∧ rule.src = some cidr ∧
      rule.table = table ∧ k'.rules ≠ k.rules := by
  rcases change.rules with same | ⟨none, priority, added⟩
  · exact .inl (same ▸ member)
  · rw [added, Kernel.addRule_rules, List.mem_orderedInsert] at member
    rcases member with rfl | old
    · refine .inr ⟨none, rfl, rfl, fun same => ?_⟩
      have := congrArg List.length (added.symm.trans same)
      simp [List.orderedInsert_length] at this
    · exact .inl old

theorem SubnetChange.filled_iff {fromRuleMask : Int} {cidr : IPNet} {table t : Int} {k k' : Kernel}
    (change : SubnetChange fromRuleMask cidr table k k') (other : t ≠ table) :
    Filled t k' ↔ Filled t k := by
  rw [Filled, Filled, change.routes t other]

/-! ## Runs of calls -/

/-- The arguments of one call of `ensureFromPodSubnetRuleAndRoutes`. -/
structure SubnetCall where
  forwardNodeIfName : String
  cidr : IPNet
  gateway : Option Int
  autoNatOutgoing : Bool
  family : Family
  underlaySubnetInfoMap : List IPNet
  underlayExcludeIPBlockMap : List IPNet
  mode : NetworkMode

namespace SubnetCall

/-- The call. -/
def run (fromRuleMask : Int) (call : SubnetCall) : NetM Unit :=
  ensureFromPodSubnetRuleAndRoutes fromRuleMask call.forwardNodeIfName call.cidr call.gateway
    call.autoNatOutgoing call.family call.underlaySubnetInfoMap call.underlayExcludeIPBlockMap
    call.mode

/-- A Vxlan subnet with NAT has an underlay subnet or an excluded block to route. -/
def Routed (call : SubnetCall) : Prop :=
  call.mode = .vxlan → call.autoNatOutgoing = true →
    call.underlaySubnetInfoMap ≠ [] ∨ call.underlayExcludeIPBlockMap ≠ []

instance (call : SubnetCall) : Decidable call.Routed :=
  inferInstanceAs (Decidable (_ → _ → _))

end SubnetCall

/-- Calls run one after another, each from the host the one before left, failed or not. -/
def runCalls (fromRuleMask : Int) (env : Env) : List SubnetCall → Host → Host
  | [], host => host
  | call :: rest, host => runCalls fromRuleMask env rest (call.run fromRuleMask env host).2

/-- A rule from one of the subnets `cidrs`. -/
def IsSubnetRule (cidrs : List IPNet) (rule : Rule) : Prop := ∃ cidr ∈ cidrs, rule.src = some cidr

/-- Every rule from one of the subnets `cidrs` points at a table with routes, and rules from
different subnets point at different tables. -/
structure SubnetTablesSeparate (cidrs : List IPNet) (k : Kernel) : Prop where
  filled : ∀ rule ∈ k.rules, IsSubnetRule cidrs rule → Filled rule.table k
  separate : ∀ rule ∈ k.rules, ∀ rule' ∈ k.rules, IsSubnetRule cidrs rule →
    IsSubnetRule cidrs rule' → rule.src ≠ rule'.src → rule.table ≠ rule'.table

/-- One call for one of the subnets keeps them separate. -/
theorem subnetTablesSeparate_run (fromRuleMask : Int) {cidrs : List IPNet} {call : SubnetCall}
    (routed : call.Routed) {env : Env} (good : NilDstReliable env) {host : Host}
    (separate : SubnetTablesSeparate cidrs host.kernel) :
    SubnetTablesSeparate cidrs (call.run fromRuleMask env host).2.kernel := by
  rcases ensureFromPodSubnetRuleAndRoutes_chooses (fun table k k' =>
      SubnetChange fromRuleMask call.cidr table k k' ∧ Refilled table k k' ∧
        (k.rules.find? (ruleMatches call.cidr (-1)) = none → k.routes table = []))
      fromRuleMask call.forwardNodeIfName call.cidr call.gateway call.autoNatOutgoing call.family
      call.underlaySubnetInfoMap call.underlayExcludeIPBlockMap call.mode env host
      (fun existRule table host' same found empty => ⟨by
        rw [← same]
        exact keeps_ensureTableRoutesAndRule _ _ _ _ _ _ _ _ _ existRule table env host'
          (same ▸ found),
        (spec_ensureTableRoutesAndRule _ _ _ _ _ _ _ _ _ existRule table host.kernel routed).holds
          good same, fun none => empty (found ▸ none)⟩) with
    unchanged | ⟨table, -, change, refilled, empty⟩
  · exact (unchanged : (call.run fromRuleMask env host).2.kernel = host.kernel) ▸ separate
  · have stays : ∀ rule ∈ host.kernel.rules, IsSubnetRule cidrs rule →
        Filled rule.table (call.run fromRuleMask env host).2.kernel := fun rule member subnet => by
      by_cases here : rule.table = table
      · exact here ▸ refilled (.inr (here ▸ separate.filled rule member subnet))
      · exact (change.filled_iff here).2 (separate.filled rule member subnet)
    have apart : ∀ rule ∈ host.kernel.rules, IsSubnetRule cidrs rule →
        host.kernel.rules.find? (ruleMatches call.cidr (-1)) = none → rule.table ≠ table :=
      fun rule member subnet none same => separate.filled rule member subnet (same ▸ empty none)
    refine ⟨fun rule member subnet => ?_, fun rule member rule' member' subnet subnet' differ => ?_⟩
    · rcases change.mem_rules member with old | ⟨-, -, rfl, added⟩
      · exact stays rule old subnet
      · exact refilled (.inl added)
    · rcases change.mem_rules member with old | ⟨none, src, here, -⟩ <;>
        rcases change.mem_rules member' with old' | ⟨none', src', here', -⟩
      · exact separate.separate rule old rule' old' subnet subnet' differ
      · exact here' ▸ apart rule old subnet none'
      · exact here ▸ (apart rule' old' subnet' none).symm
      · exact absurd (src.trans src'.symm) differ

/-- Every run of calls for the subnets keeps them separate. -/
theorem subnetTablesSeparate_runCalls (fromRuleMask : Int) {cidrs : List IPNet} {env : Env}
    (good : NilDstReliable env) :
    ∀ (calls : List SubnetCall) (host : Host), (∀ call ∈ calls, call.Routed) →
      SubnetTablesSeparate cidrs host.kernel →
      SubnetTablesSeparate cidrs (runCalls fromRuleMask env calls host).kernel
  | [], _, _, separate => separate
  | call :: rest, _, routed, separate =>
      subnetTablesSeparate_runCalls fromRuleMask good rest _
        (fun other member => routed other (List.mem_cons_of_mem call member))
        (subnetTablesSeparate_run fromRuleMask (routed call (List.mem_cons_self call rest)) good
          separate)

/-- Rules from different subnets among those of `calls` point at different tables. -/
def SubnetTablesDistinct (calls : List SubnetCall) (k : Kernel) : Prop :=
  ∀ rule ∈ k.rules, ∀ rule' ∈ k.rules, ∀ call ∈ calls, ∀ call' ∈ calls,
    rule.src = some call.cidr → rule'.src = some call'.cidr → call.cidr ≠ call'.cidr →
      rule.table ≠ rule'.table

/-- From a kernel with no rule from the subnets, when no kernel operation fails, the library
lists a default route with a nil destination, and every Vxlan subnet with NAT has an
underlay subnet or an excluded block to route, every run of calls leaves rules from
different subnets pointing at different tables. -/
theorem runCalls_subnetTablesDistinct (fromRuleMask : Int) (env : Env) (calls : List SubnetCall)
    (host : Host) (nilDst : env.listing = .nilDst) (reliable : Reliable env)
    (routed : ∀ call ∈ calls, call.Routed)
    (fresh : ∀ rule ∈ host.kernel.rules, ∀ call ∈ calls, rule.src ≠ some call.cidr) :
    SubnetTablesDistinct calls (runCalls fromRuleMask env calls host).kernel := by
  have none : ∀ rule ∈ host.kernel.rules, ¬ IsSubnetRule (calls.map SubnetCall.cidr) rule :=
    fun rule member ⟨_, called, src⟩ => by
      obtain ⟨call, isCall, rfl⟩ := List.mem_map.1 called
      exact fresh rule member call isCall src
  have initial : SubnetTablesSeparate (calls.map SubnetCall.cidr) host.kernel :=
    ⟨fun rule member subnet => absurd subnet (none rule member),
      fun rule member _ _ subnet => absurd subnet (none rule member)⟩
  intro rule member rule' member' call called call' called' src src' differ
  exact (subnetTablesSeparate_runCalls fromRuleMask ⟨nilDst, reliable⟩ calls host routed
    initial).separate rule member rule' member' ⟨_, List.mem_map_of_mem _ called, src⟩
    ⟨_, List.mem_map_of_mem _ called', src'⟩
    (by rw [src, src']; exact fun same => differ (Option.some.inj same))

/-- The subnet `10.0.0.0/24`. -/
def podCidr : IPNet := ⟨167772160, 24⟩

/-- A fresh host: the kernel's default rules, the link `eth0` with index `2`, and no
routes in the tables of the pool. -/
def freshKernel : Kernel :=
  { defaultRulesKernel with links := [⟨"eth0", 2⟩] }

/-- A BGP subnet, and a Vxlan subnet with NAT that routes one underlay subnet. -/
def bgpAndVxlanCalls : List SubnetCall :=
  [⟨"eth0", podCidr, some 167772161, false, .v4, [], [], .bgp⟩,
    ⟨"eth0", ⟨167772416, 24⟩, none, true, .v4, [⟨167837696, 16⟩], [], .vxlan⟩]

theorem runCalls_subnetTablesDistinct_bgpAndVxlan :
    (⟨.nilDst, fun _ => none⟩ : Env).listing = .nilDst ∧ Reliable ⟨.nilDst, fun _ => none⟩ ∧
      (∀ call ∈ bgpAndVxlanCalls, call.Routed) ∧
      (∀ rule ∈ freshKernel.rules, ∀ call ∈ bgpAndVxlanCalls, rule.src ≠ some call.cidr) ∧
      SubnetTablesDistinct bgpAndVxlanCalls
        (runCalls 0 ⟨.nilDst, fun _ => none⟩ bgpAndVxlanCalls ⟨freshKernel, 0⟩).kernel :=
  have routed : ∀ call ∈ bgpAndVxlanCalls, call.Routed := by decide
  have fresh :
      ∀ rule ∈ freshKernel.rules, ∀ call ∈ bgpAndVxlanCalls, rule.src ≠ some call.cidr := by
    decide
  ⟨rfl, fun _ => rfl, routed, fresh, runCalls_subnetTablesDistinct 0 _ bgpAndVxlanCalls
    ⟨freshKernel, 0⟩ rfl (fun _ => rfl) routed fresh⟩

/-- The Vxlan subnets `10.0.0.0/24` and `10.0.1.0/24` with NAT and nothing to route. -/
def emptyNatCalls : List SubnetCall :=
  [⟨"eth0", podCidr, none, true, .v4, [], [], .vxlan⟩,
    ⟨"eth0", ⟨167772416, 24⟩, none, true, .v4, [], [], .vxlan⟩]

/-- From a fresh host, with no fault and default routes listed with a nil destination, the
first subnet leaves table `10000` empty, and the second subnet takes it too. -/
theorem runCalls_shares_table :
    (∀ rule ∈ freshKernel.rules, ∀ call ∈ emptyNatCalls, rule.src ≠ some call.cidr) ∧
      (∀ table, freshKernel.routes table = []) ∧
      ¬ SubnetTablesDistinct emptyNatCalls
        (runCalls 0 ⟨.nilDst, fun _ => none⟩ emptyNatCalls ⟨freshKernel, 0⟩).kernel := by
  refine ⟨by decide, fun _ => rfl, fun distinct => ?_⟩
  exact distinct { src := some podCidr, table := minRouteTableNum, priority := 1 } (by decide)
    { src := some ⟨167772416, 24⟩, table := minRouteTableNum, priority := 2 } (by decide) _
    (List.mem_cons_self _ _) _ (List.mem_cons_of_mem _ (List.mem_cons_self _ _)) rfl rfl
    (by decide) rfl

end Hybridnet
