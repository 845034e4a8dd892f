import Hybridnet.Route.Tables
import Hybridnet.Route.RuleLast

/-!
# The Vxlan table

When the netlink library lists a default route with a nil destination and no kernel operation
fails, `ensureRoutesForVxlanSubnet` does what it is written for in both its branches: it
returns, and its table then holds exactly the routes of the branch (`vxlanRoutes`). Without
NAT that is one route, the default route via the forward link: the deletion loop removes every
other route of the table, since each is listed with its destination, and keeps the default
route, which is listed without one. With NAT it is a throw route to every excluded block and a
route via the forward link to every underlay subnet that is not excluded: the first loop
deletes what is neither a throw route nor a route to an underlay subnet, the second replaces
the routes to the underlay subnets, and `ensureExcludedIPBlockRoutes` deletes the stale throw
routes and puts a throw route in the place of whatever the table held for an excluded block.

Each loop is followed by what it leaves of the table as a set of routes. A call of
`ensureFromPodSubnetRuleAndRoutes` for a Vxlan subnet that returns leaves, besides, a rule from
the subnet to that table: the rule it found, or the one the call appended last. Without NAT a
second call leaves the rules and the tables as the first one left them.

The branch without NAT reads a default route as one with a nil destination, as
`clearRouteTable` and the branch with NAT also do; but `IsDefaultRoute` accepts the zero prefix
as well, the form in which newer netlink libraries list a default route. Listed in that form,
the default route of a table that already has one is deleted right after it was replaced: the
call returns without error and leaves the table empty, and a second call with the same
arguments empties the table that the first filled.
-/

namespace Hybridnet

/-! ## Reading a run back -/

section Run

variable {α : Type} {ok : Env → Prop} {pre : Kernel → Prop} {post : α → Kernel → Prop}
  {fail : Kernel → Prop} {env : Env} {host : Host}

/-- A run that returns ends in a kernel the specification allows on success. -/
theorem Spec.returned {x : NetM α} (spec : Spec ok pre x post fail) (good : ok env)
    (before : pre host.kernel) {a : α} (result : (x env host).1 = .ok a) :
    post a (x env host).2.kernel := by
  have after := spec env host good before
  rcases run : x env host with ⟨_ | b, host'⟩ <;> rw [run] at after result
  · cases result
  · cases result
    exact after

/-- A run whose specification allows no failure returns, in a kernel the specification allows
on success. -/
theorem Spec.returns {x : NetM α} (spec : Spec ok pre x post fail) (good : ok env)
    (before : pre host.kernel) (never : ∀ k, ¬fail k) :
    ∃ a, (x env host).1 = .ok a ∧ post a (x env host).2.kernel := by
  have after := spec env host good before
  rcases run : x env host with ⟨_ | a, host'⟩ <;> rw [run] at after
  · exact absurd after (never _)
  · exact ⟨a, rfl, after⟩

/-- A fact about the kernel a computation starts from may be assumed in proving its
specification. -/
theorem Spec.assume {k₀ : Kernel} {x : NetM α} {Q : Kernel → Prop}
    (spec : Q k₀ → Spec ok (· = k₀) x post fail) : Spec ok (fun k => k = k₀ ∧ Q k) x post fail :=
  fun env host good ⟨same, holds⟩ => spec (same ▸ holds) env host good same

/-- A fact that every kernel the computation may start from gives may be assumed. -/
theorem Spec.of_pre {x : NetM α} (F : Prop) (derive : ∀ k, pre k → F)
    (spec : F → Spec ok pre x post fail) : Spec ok pre x post fail :=
  fun env host good before => spec (derive _ before) env host good before

theorem NetM.pure_bind {β : Type} (a : α) (f : α → NetM β) : (pure a >>= f : NetM β) = f a := rfl

/-- Two specifications of one computation, from the two preconditions together. -/
theorem Spec.both {x : NetM α} {pre' : Kernel → Prop} {post' : α → Kernel → Prop}
    {fail' : Kernel → Prop} (first : Spec ok pre x post fail) (second : Spec ok pre' x post' fail') :
    Spec ok (fun k => pre k ∧ pre' k) x (fun a k => post a k ∧ post' a k)
      (fun k => fail k ∧ fail' k) :=
  (first.mono (fun _ before => before.1) (fun _ _ => id) fun _ => id).and
    (second.mono (fun _ before => before.2) (fun _ _ => id) fun _ => id)

end Run

/-! ## The calls that read -/

section Reads

variable {pre : Kernel → Prop} {fail : Kernel → Prop}

/-- `LinkByName` returns the first link of the name, and fails only when there is none. -/
theorem spec_linkByName (name : String) :
    Spec NilDstReliable pre (linkByName name)
      (fun link k => pre k ∧ k.links.find? (fun link => link.name = name) = some link)
      (fun k => pre k ∧ k.links.find? (fun link => link.name = name) = none) :=
  spec_kernelOp_reliable (fun _ good => good.2) fun _ _ k before => by
    cases found : k.links.find? (fun link => link.name = name) <;> exact ⟨before, found⟩

theorem spec_checkIfRuleExist (src : IPNet) (table : Int) :
    Spec NilDstReliable pre (checkIfRuleExist src table)
      (fun existRule k => pre k ∧ existRule = k.rules.find? (ruleMatches src table)) fail := by
  have listing : Spec NilDstReliable pre ruleList (fun ruleList k => pre k ∧ ruleList = k.rules)
      fail :=
    spec_kernelOp_reliable (fun _ good => good.2) fun _ _ _ before => ⟨before, rfl⟩
  exact spec_bind (spec_wrap _ listing) fun _ =>
    spec_pure _ fun _ ⟨before, listed⟩ => ⟨before, listed ▸ rfl⟩

end Reads

/-- Inserted into a list where nothing satisfies `p`, an element that does is the first that
does. -/
theorem find?_orderedInsert_of_find?_eq_none {α : Type} {p : α → Bool} {r : α → α → Prop}
    [DecidableRel r] {a : α} (holds : p a) :
    ∀ {l : List α}, l.find? p = none → (l.orderedInsert r a).find? p = some a
  | [], _ => by simp [holds]
  | b :: l, noMatch => by
    have skip : ¬p b := by simpa using List.find?_eq_none.1 noMatch b (List.mem_cons_self b l)
    rw [List.find?_cons_of_neg _ skip] at noMatch
    rw [List.orderedInsert]
    split_ifs
    · exact List.find?_cons_of_pos _ holds
    · rw [List.find?_cons_of_neg _ skip]
      exact find?_orderedInsert_of_find?_eq_none holds noMatch

/-- On a kernel with no rule from `src`, `appendHighestUnusedPriorityRuleIfNotExist` that
returns leaves a rule from `src` to the table, and it is the first rule from `src`. -/
theorem spec_appendHighestUnusedPriorityRuleIfNotExist_first (src : IPNet) (table mark mask : Int)
    (P : Kernel → Prop) (rulesOnly : ∀ k rule, P k → P (k.addRule rule)) :
    Spec NilDstReliable (fun k => P k ∧ k.rules.find? (ruleMatches src (-1)) = none)
      (appendHighestUnusedPriorityRuleIfNotExist src table mark mask)
      (fun _ k => P k ∧
        ∃ rule, k.rules.find? (ruleMatches src (-1)) = some rule ∧ rule.table = table)
      (fun _ => True) := by
  refine spec_bind (spec_wrap _ (spec_checkIfRuleExist src table)) fun existRule => ?_
  refine spec_ite (fun found => spec_pure _ fun k ⟨⟨_, noRule⟩, listed⟩ => ?_) fun _ => ?_
  · obtain ⟨rule, rfl⟩ := Option.isSome_iff_exists.1 found
    have fromSrc := src_of_ruleMatches (List.find?_some listed.symm)
    exact absurd (by rw [ruleMatches_neg_one, fromSrc]; exact decide_eq_true rfl)
      (List.find?_eq_none.1 noRule rule (List.mem_of_find?_eq_some listed.symm))
  refine spec_bind ((spec_wrap _ (spec_of_keeps_eq keeps_findHighestUnusedRulePriority)).mono
    (fun _ => id) (fun _ _ => id) fun _ _ => trivial) fun priority => ?_
  refine spec_wrap _ (spec_kernelOp (fun _ _ => trivial) fun _ _ k ⟨⟨kept, noRule⟩, _⟩ => ?_)
  split_ifs
  · trivial
  · exact ⟨rulesOnly _ _ kept, _,
      find?_orderedInsert_of_find?_eq_none (by rw [ruleMatches_neg_one]; exact decide_eq_true rfl)
        noRule, rfl⟩

/-! ## The loops on the table -/

section Loops

variable {fail : Kernel → Prop}

theorem spec_routeListFiltered_at (table : Int) (keep : Route → Bool) (k₀ : Kernel) :
    Spec NilDstReliable (· = k₀) (routeListFiltered table keep)
      (fun routeList k => k = k₀ ∧
        routeList = ((k₀.routes table).map (Route.listed .nilDst)).filter keep) fail :=
  (spec_routeListFiltered table keep).mono (fun _ => id)
    (fun _ _ ⟨listed, same⟩ => ⟨same, same ▸ listed⟩) fun _ => id

/-- A loop that deletes routes of `table`, each under its own destination, leaves on every run
that returns what the table held less the routes it deleted. -/
theorem spec_forM_routeDel_routes (table : Int) {c : Route → Bool} {g : Route → Route}
    {context : Route → String} (names : ∀ a, c a → (g a).stored = a.stored) (S : Route → Prop)
    (l : List Route) :
    Spec NilDstReliable (fun k => ∀ r, r ∈ k.routes table ↔ S r)
      (l.forM fun a => if c a then wrap (context a) (routeDel table (g a)) else pure ())
      (fun _ k => ∀ r, r ∈ k.routes table ↔ S r ∧ ∀ a ∈ l, c a → a.stored ≠ r)
      (fun _ => True) := by
  refine (spec_forM (fun rest k => ∀ r, (r ∈ k.routes table ∧ ∀ a ∈ rest, c a → a.stored ≠ r) ↔
      S r ∧ ∀ a ∈ l, c a → a.stored ≠ r) (fun a rest => ?_) l).mono
    (fun _ before r => (before r).and Iff.rfl) (fun _ _ after r => by simpa using after r)
    fun _ => id
  refine spec_ite (fun deletes => spec_wrap _ (spec_kernelOp (fun _ _ => trivial)
    fun _ _ k left => ?_)) fun skipped => spec_pure _ fun _ left r => ?_
  · split_ifs
    · intro r
      rw [← left r, Kernel.mem_deleteRoute_routes_self, names a deletes, List.forall_mem_cons]
      exact ⟨fun ⟨⟨member, other⟩, later⟩ => ⟨member, fun _ => Ne.symm other, later⟩,
        fun ⟨member, other, later⟩ => ⟨⟨member, Ne.symm (other deletes)⟩, later⟩⟩
    · trivial
  · rw [← left r, List.forall_mem_cons]
    simp only [skipped, Bool.false_eq_true, false_implies, true_and]

/-- The listed route standing for a stored route is the only one that names it. -/
theorem forall_listed_iff {routes : List Route} (filed : ∀ r ∈ routes, r.stored = r)
    {keep c : Route → Bool} {r : Route} (member : r ∈ routes) :
    (∀ a ∈ (routes.map (Route.listed .nilDst)).filter keep, c a → a.stored ≠ r) ↔
      (keep (r.listed .nilDst) → c (r.listed .nilDst) = false) := by
  refine ⟨fun kept listed => Bool.eq_false_iff.2 fun deletes =>
    kept _ (List.mem_filter.2 ⟨List.mem_map_of_mem _ member, listed⟩) deletes
      (Route.stored_listed (filed r member) _), fun spared a member' deletes same => ?_⟩
  obtain ⟨r', filed', rfl⟩ := mem_listed_nilDst (List.mem_of_mem_filter member')
  rw [Route.stored_listed (filed r' filed')] at same
  subst same
  rw [spared (List.mem_filter.1 member').2] at deletes
  cases deletes

/-- A loop over the routes the table lists, deleting those that pass `c`, leaves exactly the
routes whose listed form is not among them. -/
theorem spec_forM_routeDel_listed (table : Int) {keep c : Route → Bool} {g : Route → Route}
    {context : Route → String} (names : ∀ a, c a → (g a).stored = a.stored) (S : Route → Prop)
    (l : List Route) :
    Spec NilDstReliable
      (fun k => l = ((k.routes table).map (Route.listed .nilDst)).filter keep ∧
        ∀ r, r ∈ k.routes table ↔ S r)
      (l.forM fun a => if c a then wrap (context a) (routeDel table (g a)) else pure ())
      (fun _ k => ∀ r, r ∈ k.routes table ↔
        S r ∧ (keep (r.listed .nilDst) → c (r.listed .nilDst) = false))
      (fun _ => False) := by
  refine Spec.of_pre (∀ r, S r → ((∀ a ∈ l, c a → a.stored ≠ r) ↔
      (keep (r.listed .nilDst) → c (r.listed .nilDst) = false)))
    (fun k ⟨listed, routes⟩ r holds => listed ▸ forall_listed_iff (k.filed table)
      ((routes r).2 holds)) fun spared => ?_
  exact ((spec_forM_routeDel table (fun a (_ : True) => names a)
    (fun _ _ _ _ (holds : True) => holds) l).both (spec_forM_routeDel_routes table names S l)).mono
    (fun k ⟨listed, routes⟩ => ⟨⟨fun _ _ => trivial, listed ▸ deletable_listed k table c keep,
      trivial⟩, routes⟩)
    (fun _ _ ⟨_, after⟩ r => (after r).trans (and_congr_right (spared r))) fun _ failed => failed.1

/-- A loop that replaces, for each block, the route `f` files under that block leaves those
routes and what the table held under the other destinations. -/
theorem spec_forM_routeReplace_routes (table : Int) {f : IPNet → Route}
    {context : IPNet → String} (keyOf : ∀ c, (f c).key = c) (cs : List IPNet) (S : Route → Prop) :
    Spec NilDstReliable (fun k => ∀ r, r ∈ k.routes table ↔ S r)
      (cs.forM fun c => wrap (context c) (routeReplace table (f c)))
      (fun _ k => ∀ r, r ∈ k.routes table ↔ (∃ c ∈ cs, r = (f c).stored) ∨ (S r ∧ r.key ∉ cs))
      fail := by
  induction cs generalizing S with
  | nil => exact spec_pure _ fun _ before r => by simp [before r]
  | cons c cs ih =>
      refine spec_bind (spec_wrap _ (spec_routeReplace table (f c))) fun _ =>
        (ih fun r => r = (f c).stored ∨ (S r ∧ r.key ≠ c)).mono ?_ (fun _ _ after r => ?_)
          fun _ => id
      · rintro _ ⟨k, before, rfl⟩ r
        rw [Kernel.mem_replaceRoute_routes_self, before r, keyOf]
      · rw [after r, List.mem_cons, not_or]
        constructor
        · rintro (⟨c', member, rfl⟩ | ⟨rfl | ⟨holds, other⟩, notIn⟩)
          · exact .inl ⟨c', List.mem_cons_of_mem _ member, rfl⟩
          · exact .inl ⟨c, List.mem_cons_self _ _, rfl⟩
          · exact .inr ⟨holds, other, notIn⟩
        · rintro (⟨c', member, rfl⟩ | ⟨holds, other, notIn⟩)
          · rcases List.mem_cons.1 member with rfl | later
            · by_cases again : c' ∈ cs
              · exact .inl ⟨c', again, rfl⟩
              · exact .inr ⟨.inl rfl, by rwa [Route.key_stored, keyOf]⟩
            · exact .inl ⟨c', later, rfl⟩
          · exact .inr ⟨.inr ⟨holds, other⟩, notIn⟩

end Loops

/-- A stored route off the zero prefix is listed with its destination. -/
theorem listed_nilDst_dst_isSome {route : Route} (filed : route.stored = route)
    (off : route.key ≠ zeroPrefix) : (route.listed .nilDst).dst.isSome := by
  unfold Route.listed
  split_ifs with default
  · exact absurd (by simp [Route.key, default.2]) off
  · rw [← filed]
    rfl

@[simp] theorem type_listed (form : ListingForm) (route : Route) :
    (route.listed form).type = route.type := by
  unfold Route.listed
  split_ifs <;> rfl

/-- A listed destination among some blocks is the route's own. -/
theorem key_mem_of_listed_any {form : ListingForm} {route : Route} {cs : List IPNet}
    (among : (route.listed form).dst.any (· ∈ cs) = true) : route.key ∈ cs := by
  cases listed : (route.listed form).dst with
  | none =>
      rw [listed] at among
      cases among
  | some dst =>
      rw [listed, Option.any_some, decide_eq_true_eq] at among
      rw [← Route.key_listed form route, Route.key, listed]
      exact among

/-! ## The branches -/

/-- The routes the table of a Vxlan subnet holds after `ensureRoutesForVxlanSubnet`: without
NAT the default route via the forward link; with NAT a throw route to every excluded block
and a route via the forward link to every underlay subnet that is not excluded. -/
def vxlanRoutes (autoNatOutgoing : Bool) (forwardLink : Link) (family : Family)
    (underlaySubnetInfoMap underlayExcludeIPBlockMap : List IPNet) (r : Route) : Prop :=
  match autoNatOutgoing with
  | false => r = { dst := some (defaultRouteDstByFamily family), linkIndex := forwardLink.index }
  | true =>
      (∃ c ∈ underlayExcludeIPBlockMap, r = { dst := some c, type := .throw }) ∨
        ∃ c ∈ underlaySubnetInfoMap, c ∉ underlayExcludeIPBlockMap ∧
          r = { dst := some c, linkIndex := forwardLink.index }

/-- Without NAT, the call leaves exactly one route in the table: the universe-scope default
route via the forward link. -/
theorem spec_ensureRoutesForVxlanSubnet_default_only (forwardLink : Link) (cidr : IPNet)
    (table : Int) (family : Family) (underlaySubnetInfoMap underlayExcludeIPBlockMap : List IPNet)
    (k₀ : Kernel) :
    Spec NilDstReliable (· = k₀) (ensureRoutesForVxlanSubnet forwardLink cidr table false
      family underlaySubnetInfoMap underlayExcludeIPBlockMap)
      (fun _ k => ∀ r, r ∈ k.routes table ↔
        vxlanRoutes false forwardLink family underlaySubnetInfoMap underlayExcludeIPBlockMap r)
      (fun _ => False) := by
  refine spec_bind (spec_wrap _ (spec_routeListFiltered_at table _ k₀)) fun routeList =>
    Spec.assume fun listed => ?_
  subst listed
  refine spec_ite (fun _ => ?_) fun nat => absurd rfl nat
  refine spec_bind ((spec_wrap _ (spec_routeReplace table _)).mono (fun _ => id)
    (fun _ k ⟨_, same, after⟩ => (show k = k₀.replaceRoute table _ from same ▸ after))
    fun _ => id) fun _ => ?_
  refine ((spec_deleteRoutesWithDst table
    { dst := some (defaultRouteDstByFamily family), linkIndex := forwardLink.index } rfl _).both
    (spec_forM_routeDel_routes table (fun _ _ => rfl) (· ∈ (k₀.replaceRoute table
      { dst := some (defaultRouteDstByFamily family), linkIndex := forwardLink.index }).routes table)
      _)).mono (fun _ same => ?_)
    (fun _ _ ⟨_, after⟩ r => ?_) fun _ failed => failed.1
  · subst same
    exact ⟨⟨fun _ member => dst_ne_of_mem_listed member,
      deletable_listed_replaceRoute k₀ table _ rfl,
      Kernel.mem_replaceRoute_routes_self.2 (.inl rfl)⟩, fun _ => Iff.rfl⟩
  rw [after r]
  constructor
  · rintro ⟨member, spared⟩
    rcases Kernel.mem_replaceRoute_routes_self.1 member with rfl | ⟨filed, other⟩
    · rfl
    · exact absurd (Route.stored_listed (k₀.filed table r filed) _)
        (spared _ (List.mem_filter.2 ⟨List.mem_map_of_mem _ filed, rfl⟩)
          (listed_nilDst_dst_isSome (k₀.filed table r filed) other))
  · rintro rfl
    refine ⟨Kernel.mem_replaceRoute_routes_self.2 (.inl rfl), fun a member hasDst same => ?_⟩
    exact key_ne_of_dst_ne hasDst (dst_ne_of_mem_listed member)
      (by rw [← Route.key_stored a, same]; rfl)

/-- The exclusion routes of the branch with NAT: the throw routes to the excluded blocks, and
of what the table held, what is no throw route and lies in no excluded block. -/
theorem spec_ensureExcludedIPBlockRoutes_routes (excludeIPBlockMap : List IPNet) (table : Int)
    (S : Route → Prop) :
    Spec NilDstReliable (fun k => ∀ r, r ∈ k.routes table ↔ S r)
      (ensureExcludedIPBlockRoutes excludeIPBlockMap table)
      (fun _ k => ∀ r, r ∈ k.routes table ↔
        (∃ c ∈ excludeIPBlockMap, r = { dst := some c, type := .throw }) ∨
          (S r ∧ r.type ≠ .throw ∧ r.key ∉ excludeIPBlockMap))
      (fun _ => False) := by
  refine spec_bind (spec_wrap _ (spec_routeListFiltered table _)) fun excludedRouteList =>
    spec_bind (spec_forM_routeDel_listed table (fun _ _ => rfl) S excludedRouteList) fun _ =>
      (spec_forM_routeReplace_routes table (fun _ => by rfl) excludeIPBlockMap _).mono (fun _ => id)
        (fun _ _ after r => ?_) fun _ => id
  rw [after r]
  refine or_congr Iff.rfl ⟨fun ⟨⟨holds, spared⟩, notIn⟩ => ⟨holds, fun throw => ?_, notIn⟩,
    fun ⟨holds, notThrow, notIn⟩ => ⟨⟨holds, fun throw => absurd (by simpa using throw) notThrow⟩,
      notIn⟩⟩
  have among := spared (by simpa using throw)
  rw [Bool.not_eq_false'] at among
  exact notIn (key_mem_of_listed_any among)

/-- With NAT, the call leaves exactly the throw routes to the excluded blocks and a route via
the forward link to every underlay subnet that is not excluded. -/
theorem spec_ensureRoutesForVxlanSubnet_nat (forwardLink : Link) (cidr : IPNet) (table : Int)
    (family : Family) (underlaySubnetInfoMap underlayExcludeIPBlockMap : List IPNet)
    (k₀ : Kernel) :
    Spec NilDstReliable (· = k₀) (ensureRoutesForVxlanSubnet forwardLink cidr table true
      family underlaySubnetInfoMap underlayExcludeIPBlockMap)
      (fun _ k => ∀ r, r ∈ k.routes table ↔
        vxlanRoutes true forwardLink family underlaySubnetInfoMap underlayExcludeIPBlockMap r)
      (fun _ => False) := by
  refine spec_bind (spec_wrap _ (spec_routeListFiltered table _)) fun routeList => ?_
  refine spec_ite (fun noNat => absurd noNat (by decide)) fun _ => ?_
  refine spec_bind ((spec_forM_routeDel_listed table (fun a _ => stored_withDefaultDst a family)
    (· ∈ k₀.routes table) routeList).mono (fun _ ⟨listed, same⟩ => ⟨listed, fun _ => same ▸ Iff.rfl⟩)
    (fun _ _ => id) fun _ => id) fun _ =>
      spec_bind (spec_forM_routeReplace_routes table (fun _ => by rfl) underlaySubnetInfoMap _)
        fun _ => spec_wrap _ ((spec_ensureExcludedIPBlockRoutes_routes underlayExcludeIPBlockMap
          table _).mono (fun _ => id) (fun _ _ after r => ?_) fun _ => id)
  rw [after r]
  refine or_congr Iff.rfl ⟨?_, ?_⟩
  · rintro ⟨⟨c, member, rfl⟩ | ⟨⟨-, spared⟩, notUnder⟩, notThrow, notIn⟩
    · exact ⟨c, member, notIn, rfl⟩
    · have kept := spared rfl
      simp only [isExcludeRoute, Bool.and_eq_false_iff, Bool.not_eq_false', decide_eq_true_eq,
        type_listed] at kept
      exact (kept.elim notThrow fun among => notUnder (key_mem_of_listed_any among)).elim
  · rintro ⟨c, member, notIn, rfl⟩
    exact ⟨.inl ⟨c, member, rfl⟩, nofun, notIn⟩

/-- When the library lists a default route with a nil destination and no kernel operation
fails, `ensureRoutesForVxlanSubnet` returns and leaves in the table exactly the routes of its
branch. -/
theorem spec_ensureRoutesForVxlanSubnet_routes (forwardLink : Link) (cidr : IPNet) (table : Int)
    (autoNatOutgoing : Bool) (family : Family)
    (underlaySubnetInfoMap underlayExcludeIPBlockMap : List IPNet) (k₀ : Kernel) :
    Spec NilDstReliable (· = k₀) (ensureRoutesForVxlanSubnet forwardLink cidr table
      autoNatOutgoing family underlaySubnetInfoMap underlayExcludeIPBlockMap)
      (fun _ k => ∀ r, r ∈ k.routes table ↔ vxlanRoutes autoNatOutgoing forwardLink family
        underlaySubnetInfoMap underlayExcludeIPBlockMap r)
      (fun _ => False) := by
  cases autoNatOutgoing with
  | false =>
      exact spec_ensureRoutesForVxlanSubnet_default_only forwardLink cidr table family
        underlaySubnetInfoMap underlayExcludeIPBlockMap k₀
  | true =>
      exact spec_ensureRoutesForVxlanSubnet_nat forwardLink cidr table family
        underlaySubnetInfoMap underlayExcludeIPBlockMap k₀

/-! ## The subnet -/

/-- The subnet `cidr` is set up as a Vxlan subnet: the first rule from it points at a table
that holds exactly the routes of its branch, via the first link named `forwardNodeIfName`. -/
def VxlanSubnetSet (forwardNodeIfName : String) (cidr : IPNet) (autoNatOutgoing : Bool)
    (family : Family) (underlaySubnetInfoMap underlayExcludeIPBlockMap : List IPNet)
    (k : Kernel) : Prop :=
  ∃ rule forwardLink, k.rules.find? (ruleMatches cidr (-1)) = some rule ∧
    k.links.find? (fun link => link.name = forwardNodeIfName) = some forwardLink ∧
    ∀ r, r ∈ k.routes rule.table ↔ vxlanRoutes autoNatOutgoing forwardLink family
      underlaySubnetInfoMap underlayExcludeIPBlockMap r

/-- After the table is chosen, a Vxlan call fails only when the subnet had no rule or the
forward link is missing, and when it returns the subnet is set up, its table the one chosen. -/
theorem spec_ensureTableRoutesAndRule_vxlan (fromRuleMask : Int) (forwardNodeIfName : String)
    (cidr : IPNet) (gateway : Option Int) (autoNatOutgoing : Bool) (family : Family)
    (underlaySubnetInfoMap underlayExcludeIPBlockMap : List IPNet) (existRule : Option Rule)
    (table : Int) (k₀ : Kernel) (found : k₀.rules.find? (ruleMatches cidr (-1)) = existRule)
    (chosen : ∀ rule, existRule = some rule → rule.table = table) :
    Spec NilDstReliable (· = k₀) (ensureTableRoutesAndRule fromRuleMask forwardNodeIfName cidr
      gateway autoNatOutgoing family underlaySubnetInfoMap underlayExcludeIPBlockMap .vxlan
      existRule table)
      (fun _ k => VxlanSubnetSet forwardNodeIfName cidr autoNatOutgoing family
        underlaySubnetInfoMap underlayExcludeIPBlockMap k ∧ k.links = k₀.links)
      (fun _ => existRule = none ∨
        k₀.links.find? (fun link => link.name = forwardNodeIfName) = none) := by
  refine spec_bind ((spec_wrap _ (spec_linkByName forwardNodeIfName)).mono (fun _ => id)
    (fun _ _ => id) fun _ ⟨same, missing⟩ => .inr (same ▸ missing)) fun forwardLink =>
      Spec.assume fun linked => ?_
  have routing := (spec_ensureRoutesForVxlanSubnet_routes forwardLink cidr table autoNatOutgoing
    family underlaySubnetInfoMap underlayExcludeIPBlockMap k₀).both (spec_of_keeps
      (keeps_ensureRoutesForVxlanSubnet table forwardLink cidr autoNatOutgoing family
        underlaySubnetInfoMap underlayExcludeIPBlockMap)
      fun k k' (same : k = k₀) (touched : TouchesOnly table k k') =>
        (show k'.rules = k₀.rules ∧ k'.links = k₀.links from same ▸ ⟨touched.rules, touched.links⟩))
  refine spec_bind (spec_wrap _ (routing.mono (fun _ same => ⟨same, same⟩) (fun _ _ => id)
    fun _ failed => failed.1.elim)) fun _ => ?_
  refine spec_ite (fun isNone => ?_) fun isSome => ?_
  · rw [Option.isNone_iff_eq_none] at isNone
    subst isNone
    exact spec_wrap _ ((spec_appendHighestUnusedPriorityRuleIfNotExist_first cidr table
      fromRuleMark fromRuleMask (fun k => (∀ r, r ∈ k.routes table ↔ vxlanRoutes autoNatOutgoing
        forwardLink family underlaySubnetInfoMap underlayExcludeIPBlockMap r) ∧
          k.links = k₀.links) fun _ _ => id).mono
      (fun _ ⟨routes, rules, links⟩ => ⟨⟨routes, links⟩, rules ▸ found⟩)
      (fun _ _ ⟨⟨routes, links⟩, rule, first, ruleTable⟩ =>
        ⟨⟨rule, forwardLink, first, links ▸ linked, ruleTable ▸ routes⟩, links⟩)
      fun _ _ => .inl rfl)
  · cases existRule with
    | none => exact absurd rfl isSome
    | some rule =>
        exact spec_pure _ fun _ ⟨routes, rules, links⟩ =>
          ⟨⟨rule, forwardLink, rules ▸ found, links ▸ linked, (chosen rule rfl) ▸ routes⟩, links⟩

/-- When the library lists a default route with a nil destination and no kernel operation
fails, a Vxlan call fails only when the subnet has no rule or the forward link is missing, and
when it returns the subnet is set up. -/
theorem spec_ensureFromPodSubnetRuleAndRoutes_vxlan (fromRuleMask : Int)
    (forwardNodeIfName : String) (cidr : IPNet) (gateway : Option Int) (autoNatOutgoing : Bool)
    (family : Family) (underlaySubnetInfoMap underlayExcludeIPBlockMap : List IPNet)
    (k₀ : Kernel) :
    Spec NilDstReliable (· = k₀) (ensureFromPodSubnetRuleAndRoutes fromRuleMask forwardNodeIfName
      cidr gateway autoNatOutgoing family underlaySubnetInfoMap underlayExcludeIPBlockMap .vxlan)
      (fun _ k => VxlanSubnetSet forwardNodeIfName cidr autoNatOutgoing family
        underlaySubnetInfoMap underlayExcludeIPBlockMap k ∧ k.links = k₀.links)
      (fun _ => k₀.rules.find? (ruleMatches cidr (-1)) = none ∨
        k₀.links.find? (fun link => link.name = forwardNodeIfName) = none) := by
  refine spec_bind (spec_wrap _ (spec_checkIfRuleExist cidr (-1))) fun existRule =>
    Spec.assume fun listed => ?_
  cases existRule with
  | some rule =>
      dsimp only
      rw [NetM.pure_bind]
      exact (spec_ensureTableRoutesAndRule_vxlan fromRuleMask forwardNodeIfName cidr gateway
        autoNatOutgoing family underlaySubnetInfoMap underlayExcludeIPBlockMap (some rule)
        rule.table k₀ listed.symm fun _ same => by cases same; rfl).mono (fun _ => id)
        (fun _ _ => id) fun _ failed => .inr (failed.resolve_left nofun)
  | none =>
      refine spec_bind ((spec_wrap _ (spec_of_keeps_eq keeps_findEmptyRouteTable)).mono
        (fun _ => id) (fun _ _ => id) fun _ _ => .inl listed.symm) fun table => ?_
      exact (spec_ensureTableRoutesAndRule_vxlan fromRuleMask forwardNodeIfName cidr gateway
        autoNatOutgoing family underlaySubnetInfoMap underlayExcludeIPBlockMap none table k₀
        listed.symm nofun).mono (fun _ => id) (fun _ _ => id) fun _ _ => .inl listed.symm

/-- When the library lists a default route with a nil destination and no kernel operation
fails, a Vxlan call of `ensureFromPodSubnetRuleAndRoutes` that returns leaves a rule from the
subnet pointing at a table that holds exactly the routes of its branch, via a link of the
forward name that was there at the start. -/
theorem ensureFromPodSubnetRuleAndRoutes_vxlan_returned (fromRuleMask : Int)
    (forwardNodeIfName : String) (cidr : IPNet) (gateway : Option Int) (autoNatOutgoing : Bool)
    (family : Family) (underlaySubnetInfoMap underlayExcludeIPBlockMap : List IPNet) (env : Env)
    (host : Host) (nilDst : env.listing = .nilDst) (reliable : Reliable env)
    (named : NamesTable cidr host.kernel)
    (returned : (ensureFromPodSubnetRuleAndRoutes fromRuleMask forwardNodeIfName cidr gateway
      autoNatOutgoing family underlaySubnetInfoMap underlayExcludeIPBlockMap .vxlan env
      host).1 = .ok ()) :
    ∃ table, table ≠ 0 ∧
      (∃ rule ∈ (ensureFromPodSubnetRuleAndRoutes fromRuleMask forwardNodeIfName cidr
        gateway autoNatOutgoing family underlaySubnetInfoMap underlayExcludeIPBlockMap .vxlan env
        host).2.kernel.rules, rule.src = some cidr ∧ rule.table = table) ∧
      ∃ forwardLink ∈ host.kernel.links, forwardLink.name = forwardNodeIfName ∧
        ∀ r, r ∈ (ensureFromPodSubnetRuleAndRoutes fromRuleMask forwardNodeIfName cidr gateway
            autoNatOutgoing family underlaySubnetInfoMap underlayExcludeIPBlockMap .vxlan env
            host).2.kernel.routes table ↔
          vxlanRoutes autoNatOutgoing forwardLink family underlaySubnetInfoMap
            underlayExcludeIPBlockMap r := by
  obtain ⟨⟨rule, forwardLink, first, linked, only⟩, links⟩ :=
    Spec.returned (spec_ensureFromPodSubnetRuleAndRoutes_vxlan fromRuleMask forwardNodeIfName
      cidr gateway autoNatOutgoing family underlaySubnetInfoMap underlayExcludeIPBlockMap
      host.kernel) ⟨nilDst, reliable⟩ rfl returned
  exact ⟨rule.table, named.ensureFromPodSubnetRuleAndRoutes _ _ _ _ _ _ _ _ _ rule first,
    ⟨rule, List.mem_of_find?_eq_some first,
    src_of_ruleMatches (List.find?_some first), rfl⟩, forwardLink,
    links ▸ List.mem_of_find?_eq_some linked, by simpa using List.find?_some linked, only⟩

/-- When the library lists a default route with a nil destination and no kernel operation
fails, a call of `ensureFromPodSubnetRuleAndRoutes` for a Vxlan subnet without NAT that returns
leaves a rule from the subnet pointing at a table whose only route is the universe-scope
default route via the forward link. -/
theorem ensureFromPodSubnetRuleAndRoutes_vxlan_routes_default_only (fromRuleMask : Int)
    (forwardNodeIfName : String) (cidr : IPNet) (gateway : Option Int) (family : Family)
    (underlaySubnetInfoMap underlayExcludeIPBlockMap : List IPNet) (env : Env) (host : Host)
    (nilDst : env.listing = .nilDst) (reliable : Reliable env)
    (named : NamesTable cidr host.kernel)
    (returned : (ensureFromPodSubnetRuleAndRoutes fromRuleMask forwardNodeIfName cidr gateway false
      family underlaySubnetInfoMap underlayExcludeIPBlockMap .vxlan env host).1 = .ok ()) :
    ∃ table, table ≠ 0 ∧
      (∃ rule ∈ (ensureFromPodSubnetRuleAndRoutes fromRuleMask forwardNodeIfName cidr
        gateway false family underlaySubnetInfoMap underlayExcludeIPBlockMap .vxlan env
        host).2.kernel.rules, rule.src = some cidr ∧ rule.table = table) ∧
      ∃ forwardLink ∈ host.kernel.links, forwardLink.name = forwardNodeIfName ∧
        ∀ r, r ∈ (ensureFromPodSubnetRuleAndRoutes fromRuleMask forwardNodeIfName cidr gateway
            false family underlaySubnetInfoMap underlayExcludeIPBlockMap .vxlan env
            host).2.kernel.routes table ↔
          r = { dst := some (defaultRouteDstByFamily family), linkIndex := forwardLink.index } :=
  ensureFromPodSubnetRuleAndRoutes_vxlan_returned fromRuleMask forwardNodeIfName cidr gateway false
    family underlaySubnetInfoMap underlayExcludeIPBlockMap env host nilDst reliable named returned

/-- When the library lists a default route with a nil destination and no kernel operation
fails, a call of `ensureFromPodSubnetRuleAndRoutes` for a Vxlan subnet with NAT that returns
leaves a rule from the subnet pointing at a table that holds exactly a throw route to every
excluded block and a route via the forward link to every underlay subnet that is not
excluded. -/
theorem ensureFromPodSubnetRuleAndRoutes_vxlan_nat_routes (fromRuleMask : Int)
    (forwardNodeIfName : String) (cidr : IPNet) (gateway : Option Int) (family : Family)
    (underlaySubnetInfoMap underlayExcludeIPBlockMap : List IPNet) (env : Env) (host : Host)
    (nilDst : env.listing = .nilDst) (reliable : Reliable env)
    (named : NamesTable cidr host.kernel)
    (returned : (ensureFromPodSubnetRuleAndRoutes fromRuleMask forwardNodeIfName cidr gateway true
      family underlaySubnetInfoMap underlayExcludeIPBlockMap .vxlan env host).1 = .ok ()) :
    ∃ table, table ≠ 0 ∧
      (∃ rule ∈ (ensureFromPodSubnetRuleAndRoutes fromRuleMask forwardNodeIfName cidr
        gateway true family underlaySubnetInfoMap underlayExcludeIPBlockMap .vxlan env
        host).2.kernel.rules, rule.src = some cidr ∧ rule.table = table) ∧
      ∃ forwardLink ∈ host.kernel.links, forwardLink.name = forwardNodeIfName ∧
        ∀ r, r ∈ (ensureFromPodSubnetRuleAndRoutes fromRuleMask forwardNodeIfName cidr gateway
            true family underlaySubnetInfoMap underlayExcludeIPBlockMap .vxlan env
            host).2.kernel.routes table ↔
          (∃ c ∈ underlayExcludeIPBlockMap, r = { dst := some c, type := .throw }) ∨
            ∃ c ∈ underlaySubnetInfoMap, c ∉ underlayExcludeIPBlockMap ∧
              r = { dst := some c, linkIndex := forwardLink.index } :=
  ensureFromPodSubnetRuleAndRoutes_vxlan_returned fromRuleMask forwardNodeIfName cidr gateway true
    family underlaySubnetInfoMap underlayExcludeIPBlockMap env host nilDst reliable named returned

/-- When the library lists a default route with a nil destination and no kernel operation
fails, a Vxlan call without NAT made again, with the same arguments, right after one that
returned, returns too and leaves the rules and every table as the first call left them. -/
theorem ensureFromPodSubnetRuleAndRoutes_vxlan_second_call_keeps (fromRuleMask : Int)
    (forwardNodeIfName : String) (cidr : IPNet) (gateway : Option Int) (family : Family)
    (underlaySubnetInfoMap underlayExcludeIPBlockMap : List IPNet) (env : Env) (host : Host)
    (nilDst : env.listing = .nilDst) (reliable : Reliable env)
    (first : (ensureFromPodSubnetRuleAndRoutes fromRuleMask forwardNodeIfName cidr gateway false
      family underlaySubnetInfoMap underlayExcludeIPBlockMap .vxlan env host).1 = .ok ()) :
    (ensureFromPodSubnetRuleAndRoutes fromRuleMask forwardNodeIfName cidr gateway false family
        underlaySubnetInfoMap underlayExcludeIPBlockMap .vxlan env
        (ensureFromPodSubnetRuleAndRoutes fromRuleMask forwardNodeIfName cidr gateway false family
          underlaySubnetInfoMap underlayExcludeIPBlockMap .vxlan env host).2).1 = .ok () ∧
      (ensureFromPodSubnetRuleAndRoutes fromRuleMask forwardNodeIfName cidr gateway false family
          underlaySubnetInfoMap underlayExcludeIPBlockMap .vxlan env
          (ensureFromPodSubnetRuleAndRoutes fromRuleMask forwardNodeIfName cidr gateway false family
            underlaySubnetInfoMap underlayExcludeIPBlockMap .vxlan env host).2).2.kernel.rules =
        (ensureFromPodSubnetRuleAndRoutes fromRuleMask forwardNodeIfName cidr gateway false family
          underlaySubnetInfoMap underlayExcludeIPBlockMap .vxlan env host).2.kernel.rules ∧
      ∀ t, (ensureFromPodSubnetRuleAndRoutes fromRuleMask forwardNodeIfName cidr gateway false
          family underlaySubnetInfoMap underlayExcludeIPBlockMap .vxlan env
          (ensureFromPodSubnetRuleAndRoutes fromRuleMask forwardNodeIfName cidr gateway false family
            underlaySubnetInfoMap underlayExcludeIPBlockMap .vxlan env host).2).2.kernel.routes t =
        (ensureFromPodSubnetRuleAndRoutes fromRuleMask forwardNodeIfName cidr gateway false family
          underlaySubnetInfoMap underlayExcludeIPBlockMap .vxlan env host).2.kernel.routes t := by
  have good : NilDstReliable env := ⟨nilDst, reliable⟩
  have spec := spec_ensureFromPodSubnetRuleAndRoutes_vxlan fromRuleMask forwardNodeIfName cidr
    gateway false family underlaySubnetInfoMap underlayExcludeIPBlockMap
  obtain ⟨⟨rule, forwardLink, found, linked, only⟩, -⟩ := Spec.returned (spec _) good rfl first
  obtain ⟨_, returned, ⟨rule', forwardLink', found', linked', only'⟩, links⟩ :=
    Spec.returns (spec _) good rfl fun _ missing => missing.elim
      (fun noRule => Option.noConfusion (found.symm.trans noRule))
      fun noLink => Option.noConfusion (linked.symm.trans noLink)
  rcases ensureFromPodSubnetRuleAndRoutes_changes fromRuleMask forwardNodeIfName cidr gateway false
    family underlaySubnetInfoMap underlayExcludeIPBlockMap .vxlan env _ with same | ⟨table, chosen, change⟩
  · exact ⟨returned, by rw [same], fun _ => by rw [same]⟩
  have rules := change.rules.resolve_right fun ⟨noRule, _⟩ =>
    Option.noConfusion (found.symm.trans noRule)
  have tableOf : table = rule.table := by
    unfold IsSubnetTable at chosen
    rwa [found] at chosen
  rw [rules, found, Option.some.injEq] at found'
  rw [links, linked, Option.some.injEq] at linked'
  subst found' linked'
  have single : ∀ {l : List Route} {d : Route}, l.Nodup → (∀ r, r ∈ l ↔ r = d) → l = [d] :=
    fun nodup only => ((List.perm_ext_iff_of_nodup nodup (List.nodup_singleton _)).2
      fun r => by rw [only r, List.mem_singleton]).eq_singleton
  refine ⟨returned, rules, fun t => ?_⟩
  by_cases other : t = table
  · rw [other, tableOf]
    exact (single (List.Nodup.of_map _ (Kernel.keyed _ _)) only').trans
      (single (List.Nodup.of_map _ (Kernel.keyed _ _)) only).symm
  · exact change.routes t other

/-- An environment with no faults whose library lists a default route with a nil
destination. -/
def nilDstEnv : Env := ⟨.nilDst, fun _ => none⟩

/-- The fresh host has no rule from the pod subnet. -/
theorem namesTable_freshKernel : NamesTable podCidr freshKernel := fun rule found => by
  have none : freshKernel.rules.find? (ruleMatches podCidr (-1)) = none := by decide
  rw [none] at found
  cases found

theorem ensureFromPodSubnetRuleAndRoutes_vxlan_routes_default_only_fresh :
    nilDstEnv.listing = .nilDst ∧ Reliable nilDstEnv ∧ NamesTable podCidr freshKernel ∧
      (ensureFromPodSubnetRuleAndRoutes 0 "eth0" podCidr none false .v4 [] [] .vxlan nilDstEnv
        ⟨freshKernel, 0⟩).1 = .ok () ∧
      ∃ table, table ≠ 0 ∧ (∃ rule ∈ (ensureFromPodSubnetRuleAndRoutes 0 "eth0" podCidr none
          false .v4 [] [] .vxlan nilDstEnv ⟨freshKernel, 0⟩).2.kernel.rules,
          rule.src = some podCidr ∧ rule.table = table) ∧
        ∃ forwardLink ∈ freshKernel.links, forwardLink.name = "eth0" ∧
          ∀ r, r ∈ (ensureFromPodSubnetRuleAndRoutes 0 "eth0" podCidr none false .v4 [] [] .vxlan
              nilDstEnv ⟨freshKernel, 0⟩).2.kernel.routes table ↔
            r = { dst := some (defaultRouteDstByFamily .v4), linkIndex := forwardLink.index } :=
  ⟨rfl, fun _ => rfl, namesTable_freshKernel, rfl,
    ensureFromPodSubnetRuleAndRoutes_vxlan_routes_default_only 0 "eth0" podCidr none .v4 [] []
      nilDstEnv ⟨freshKernel, 0⟩ rfl (fun _ => rfl) namesTable_freshKernel rfl⟩

/-- The underlay subnet `192.168.0.0/16` and, excluded from it, the block `192.168.1.0/24`. -/
def underlayBlocks : List IPNet × List IPNet := ([⟨3232235520, 16⟩], [⟨3232235776, 24⟩])

theorem ensureFromPodSubnetRuleAndRoutes_vxlan_nat_routes_fresh :
    nilDstEnv.listing = .nilDst ∧ Reliable nilDstEnv ∧ NamesTable podCidr freshKernel ∧
      (ensureFromPodSubnetRuleAndRoutes 0 "eth0" podCidr none true .v4 underlayBlocks.1
        underlayBlocks.2 .vxlan nilDstEnv ⟨freshKernel, 0⟩).1 = .ok () ∧
      ∃ table, table ≠ 0 ∧ (∃ rule ∈ (ensureFromPodSubnetRuleAndRoutes 0 "eth0" podCidr none
          true .v4 underlayBlocks.1 underlayBlocks.2 .vxlan nilDstEnv
          ⟨freshKernel, 0⟩).2.kernel.rules,
          rule.src = some podCidr ∧ rule.table = table) ∧
        ∃ forwardLink ∈ freshKernel.links, forwardLink.name = "eth0" ∧
          ∀ r, r ∈ (ensureFromPodSubnetRuleAndRoutes 0 "eth0" podCidr none true .v4
              underlayBlocks.1 underlayBlocks.2 .vxlan nilDstEnv
              ⟨freshKernel, 0⟩).2.kernel.routes table ↔
            (∃ c ∈ underlayBlocks.2, r = { dst := some c, type := .throw }) ∨
              ∃ c ∈ underlayBlocks.1, c ∉ underlayBlocks.2 ∧
                r = { dst := some c, linkIndex := forwardLink.index } :=
  ⟨rfl, fun _ => rfl, namesTable_freshKernel, rfl,
    ensureFromPodSubnetRuleAndRoutes_vxlan_nat_routes 0 "eth0" podCidr none .v4 underlayBlocks.1
      underlayBlocks.2 nilDstEnv ⟨freshKernel, 0⟩ rfl (fun _ => rfl) namesTable_freshKernel rfl⟩

theorem ensureFromPodSubnetRuleAndRoutes_vxlan_second_call_keeps_fresh :
    nilDstEnv.listing = .nilDst ∧ Reliable nilDstEnv ∧
      (ensureFromPodSubnetRuleAndRoutes 0 "eth0" podCidr none false .v4 [] [] .vxlan nilDstEnv
        ⟨freshKernel, 0⟩).1 = .ok () ∧
      (ensureFromPodSubnetRuleAndRoutes 0 "eth0" podCidr none false .v4 [] [] .vxlan nilDstEnv
        (ensureFromPodSubnetRuleAndRoutes 0 "eth0" podCidr none false .v4 [] [] .vxlan nilDstEnv
          ⟨freshKernel, 0⟩).2).1 = .ok () :=
  ⟨rfl, fun _ => rfl, rfl, (ensureFromPodSubnetRuleAndRoutes_vxlan_second_call_keeps 0 "eth0"
    podCidr none .v4 [] [] nilDstEnv ⟨freshKernel, 0⟩ rfl (fun _ => rfl) rfl).1⟩

/-! ## Listed under the zero prefix -/

/-- An environment with no faults whose library lists a default route under the zero
prefix. -/
def zeroPrefixEnv : Env := ⟨.zeroPrefix, fun _ => none⟩

/-- The default route of a Vxlan table via `eth0`, as the kernel stores it. -/
def vxlanDefaultRoute : Route := { dst := some zeroPrefix, linkIndex := 2 }

/-- A host on which the subnet `10.0.0.0/24` was set up: its rule points at table `10000`,
which holds the default route via `eth0`. -/
def vxlanSubnetKernel : Kernel where
  rules := { src := some podCidr, table := minRouteTableNum, priority := 1 } :: freshKernel.rules
  routes table := if table = minRouteTableNum then [vxlanDefaultRoute] else []
  links := freshKernel.links
  addrs := []
  keyed table := by
    dsimp only
    split_ifs <;> simp
  filed table route member := by
    dsimp only at member
    split_ifs at member
    · rw [List.mem_singleton.1 member]
      rfl
    · exact absurd member (List.not_mem_nil _)

/-- On a set-up subnet, the call returns without error, with the subnet's rule still
pointing at table `10000`, and leaves that table with no route. -/
theorem ensureFromPodSubnetRuleAndRoutes_empties_vxlan_table :
    (ensureFromPodSubnetRuleAndRoutes 0 "eth0" podCidr none false .v4 [] [] .vxlan zeroPrefixEnv
        ⟨vxlanSubnetKernel, 0⟩).1 = .ok () ∧
      (ensureFromPodSubnetRuleAndRoutes 0 "eth0" podCidr none false .v4 [] [] .vxlan zeroPrefixEnv
        ⟨vxlanSubnetKernel, 0⟩).2.kernel.rules.find? (ruleMatches podCidr (-1)) =
        some { src := some podCidr, table := minRouteTableNum, priority := 1 } ∧
      (ensureFromPodSubnetRuleAndRoutes 0 "eth0" podCidr none false .v4 [] [] .vxlan zeroPrefixEnv
        ⟨vxlanSubnetKernel, 0⟩).2.kernel.routes minRouteTableNum = [] :=
  ⟨rfl, rfl, rfl⟩

/-- From a fresh host, a first call sets up table `10000` with the default route and
returns without error; a second call with the same arguments also returns without error,
and deletes that route. -/
theorem ensureFromPodSubnetRuleAndRoutes_second_call_empties_table :
    ∃ host₁ host₂,
      ensureFromPodSubnetRuleAndRoutes 0 "eth0" podCidr none false .v4 [] [] .vxlan zeroPrefixEnv
          ⟨freshKernel, 0⟩ = (.ok (), host₁) ∧
        ensureFromPodSubnetRuleAndRoutes 0 "eth0" podCidr none false .v4 [] [] .vxlan zeroPrefixEnv
          host₁ = (.ok (), host₂) ∧
        host₁.kernel.routes minRouteTableNum = [vxlanDefaultRoute] ∧
        host₂.kernel.routes minRouteTableNum = [] :=
  ⟨_, _, rfl, rfl, rfl, rfl⟩

end Hybridnet
