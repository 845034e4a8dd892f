import Hybridnet.Route.Frame

/-!
# The subnet's rule comes last

`ensureFromPodSubnetRuleAndRoutes` adds its rule after the routes of the subnet's table, so
that no rule points at a table the call failed to fill. On every run, whichever kernel
operations fail and however the library lists a default route: a run that changes the rules
started without a rule from the subnet, ran the routes of its mode to success from the kernel
it started from, and ends with `appendHighestUnusedPriorityRuleIfNotExist` from there. A
failed append leaves the kernel as it was, so a run that returns an error leaves the rules
as they were.

A run is followed call by call: when the rules end changed, every call before the last one
returned, since a call that fails ends the run with the rules it leaves, and none of those
calls changes the rules.
-/

namespace Hybridnet

/-! ## Following a run -/

section Run

variable {α β : Type} {env : Env} {host : Host}

/-- When `x` keeps `R`, which gives `S`, and the run of `x >>= f` ends outside `S`, then `x`
returned, and the run goes on with `f` from where `x` stopped. -/
theorem NetM.bind_eq_of_not {R S : Kernel → Kernel → Prop} {x : NetM α} {f : α → NetM β}
    (kept : Keeps R x) (stop : ∀ k k', R k k' → S k k')
    (escapes : ¬S host.kernel ((x >>= f) env host).2.kernel) :
    ∃ a host', x env host = (.ok a, host') ∧ R host.kernel host'.kernel ∧
      (x >>= f) env host = f a env host' := by
  have before := kept env host
  simp only [NetM.bind_apply] at escapes ⊢
  rcases result : x env host with ⟨_ | a, host'⟩ <;> rw [result] at before escapes
  · exact absurd (stop _ _ before) escapes
  · exact ⟨a, host', rfl, before, rfl⟩

/-- A failed run ends in a kernel that the specification allows on failure. -/
theorem Spec.error {ok : Env → Prop} {pre : Kernel → Prop} {x : NetM α}
    {post : α → Kernel → Prop} {fail : Kernel → Prop} (spec : Spec ok pre x post fail)
    (good : ok env) (before : pre host.kernel) {e : String} (failed : (x env host).1 = .error e) :
    fail (x env host).2.kernel := by
  have after := spec env host good before
  rcases result : x env host with ⟨_ | a, host'⟩ <;> rw [result] at after failed
  · exact after
  · cases failed

end Run

/-! ## The calls on the rules -/

theorem keeps_checkIfRuleExist (src : IPNet) (table : Int) :
    Keeps Eq (checkIfRuleExist src table) :=
  keeps_eq_bind (keeps_wrap _ keeps_ruleList) fun _ => keeps_pure (fun _ => rfl) _

theorem keeps_findHighestUnusedRulePriority : Keeps Eq findHighestUnusedRulePriority := by
  refine keeps_eq_bind (keeps_wrap _ keeps_ruleList) fun _ => ?_
  split
  · exact keeps_pure (fun _ => rfl) _
  · exact keeps_throw (fun _ => rfl) _

/-- `checkIfRuleExist` returns the first listed rule that matches, and changes nothing. -/
theorem checkIfRuleExist_eq_ok {src : IPNet} {table : Int} {context : String}
    {existRule : Option Rule} {host' : Host}
    (checked : wrap context (checkIfRuleExist src table) env host = (.ok existRule, host')) :
    existRule = host.kernel.rules.find? (ruleMatches src table) := by
  rw [wrap_apply, checkIfRuleExist_apply] at checked
  cases fault : env.fails host.clock <;>
    simp only [fault, Prod.mk.injEq, Except.ok.injEq, reduceCtorEq, false_and] at checked
  exact checked.1.symm

/-- A failed `appendHighestUnusedPriorityRuleIfNotExist` leaves the kernel as it was: the
rule is added by its last operation. -/
theorem spec_appendHighestUnusedPriorityRuleIfNotExist (src : IPNet) (table mark mask : Int)
    (k₀ : Kernel) :
    Spec (fun _ => True) (· = k₀) (appendHighestUnusedPriorityRuleIfNotExist src table mark mask)
      (fun _ _ => True) (· = k₀) := by
  have unchanged : ∀ {γ : Type} {x : NetM γ}, Keeps Eq x →
      Spec (fun _ => True) (· = k₀) x (fun _ => (· = k₀)) (· = k₀) := fun kept =>
    spec_of_keeps kept fun _ _ before same => same ▸ before
  refine spec_bind (spec_wrap _ (unchanged (keeps_checkIfRuleExist src table))) fun _ => ?_
  split
  · exact spec_pure _ fun _ _ => trivial
  refine spec_bind (spec_wrap _ (unchanged keeps_findHighestUnusedRulePriority)) fun _ => ?_
  refine spec_wrap _ (spec_kernelOp (fun _ => id) fun _ _ k before => ?_)
  split_ifs
  · exact before
  · trivial

/-! ## The subnet -/

/-- A run of `ensureFromPodSubnetRuleAndRoutes` that changes the rules started without a
rule from `cidr`, ran the routes of the subnet's mode to success from the kernel it started
from, and ends with appending the rule from there. -/
theorem ensureFromPodSubnetRuleAndRoutes_rules_changed (fromRuleMask : Int)
    (forwardNodeIfName : String) (cidr : IPNet) (gateway : Option Int) (autoNatOutgoing : Bool)
    (family : Family) (underlaySubnetInfoMap underlayExcludeIPBlockMap : List IPNet)
    (mode : NetworkMode) (env : Env) (host : Host)
    (changed : (ensureFromPodSubnetRuleAndRoutes fromRuleMask forwardNodeIfName cidr gateway
      autoNatOutgoing family underlaySubnetInfoMap underlayExcludeIPBlockMap mode env
      host).2.kernel.rules ≠ host.kernel.rules) :
    host.kernel.rules.find? (ruleMatches cidr (-1)) = none ∧
      ∃ (forwardLink : Link) (table : Int) (routed routesDone : Host),
        routed.kernel = host.kernel ∧
        ensureRoutesForMode forwardLink cidr gateway autoNatOutgoing family underlaySubnetInfoMap
          underlayExcludeIPBlockMap mode table env routed = (.ok (), routesDone) ∧
        routesDone.kernel.rules = host.kernel.rules ∧
        ∃ context, ensureFromPodSubnetRuleAndRoutes fromRuleMask forwardNodeIfName cidr gateway
          autoNatOutgoing family underlaySubnetInfoMap underlayExcludeIPBlockMap mode env host =
          wrap context (appendHighestUnusedPriorityRuleIfNotExist cidr table fromRuleMark
            fromRuleMask) env routesDone := by
  have rulesOf : ∀ k k' : Kernel, k = k' → k'.rules = k.rules := fun _ _ same => same ▸ rfl
  unfold ensureFromPodSubnetRuleAndRoutes at changed ⊢
  obtain ⟨existRule, ⟨k₀, c₀⟩, checked, rfl, run₀⟩ :=
    NetM.bind_eq_of_not (keeps_wrap _ (keeps_checkIfRuleExist cidr (-1))) rulesOf changed
  have found := checkIfRuleExist_eq_ok checked
  rw [run₀] at changed ⊢
  cases existRule with
  | some rule =>
      simp only [NetM.bind_apply, NetM.pure_apply] at changed
      rcases (keeps_ensureTableRoutesAndRule fromRuleMask forwardNodeIfName cidr gateway
        autoNatOutgoing family underlaySubnetInfoMap underlayExcludeIPBlockMap mode (some rule)
        rule.table env ⟨host.kernel, c₀⟩ found.symm).rules with same | ⟨none, -⟩
      · exact absurd same changed
      · rw [none] at found
        cases found
  | none =>
      refine ⟨found.symm, ?_⟩
      dsimp only at changed ⊢
      obtain ⟨table, ⟨k₁, c₁⟩, -, rfl, run₁⟩ :=
        NetM.bind_eq_of_not (keeps_wrap _ keeps_findEmptyRouteTable) rulesOf changed
      rw [run₁] at changed ⊢
      unfold ensureTableRoutesAndRule at changed ⊢
      obtain ⟨forwardLink, ⟨k₂, c₂⟩, -, rfl, run₂⟩ :=
        NetM.bind_eq_of_not (keeps_wrap _ (keeps_linkByName _)) rulesOf changed
      rw [run₂] at changed ⊢
      obtain ⟨_, routesDone, routed, touched, run₃⟩ :=
        NetM.bind_eq_of_not (keeps_ensureRoutesForMode table forwardLink cidr gateway
          autoNatOutgoing family underlaySubnetInfoMap underlayExcludeIPBlockMap mode)
          (fun _ _ touched => touched.rules) changed
      exact ⟨forwardLink, table, ⟨host.kernel, c₂⟩, routesDone, rfl, routed, touched.rules,
        _, run₃⟩

/-- On every run of `ensureFromPodSubnetRuleAndRoutes`, whatever kernel operations fail, a
rule is added only when no rule from `cidr` existed at the start and the routes of the
subnet's mode had all succeeded, from the kernel the call started from; and a run that
returns an error leaves the rules as they were. -/
theorem ensureFromPodSubnetRuleAndRoutes_adds_rule_last (fromRuleMask : Int)
    (forwardNodeIfName : String) (cidr : IPNet) (gateway : Option Int) (autoNatOutgoing : Bool)
    (family : Family) (underlaySubnetInfoMap underlayExcludeIPBlockMap : List IPNet)
    (mode : NetworkMode) (env : Env) (host : Host) :
    ((ensureFromPodSubnetRuleAndRoutes fromRuleMask forwardNodeIfName cidr gateway
        autoNatOutgoing family underlaySubnetInfoMap underlayExcludeIPBlockMap mode env
        host).2.kernel.rules ≠ host.kernel.rules →
      host.kernel.rules.find? (ruleMatches cidr (-1)) = none ∧
        ∃ (forwardLink : Link) (table : Int) (routed routesDone : Host),
          routed.kernel = host.kernel ∧
          ensureRoutesForMode forwardLink cidr gateway autoNatOutgoing family
            underlaySubnetInfoMap underlayExcludeIPBlockMap mode table env routed =
            (.ok (), routesDone) ∧
          routesDone.kernel.rules = host.kernel.rules ∧
          ∃ context, ensureFromPodSubnetRuleAndRoutes fromRuleMask forwardNodeIfName cidr gateway
            autoNatOutgoing family underlaySubnetInfoMap underlayExcludeIPBlockMap mode env host =
            wrap context (appendHighestUnusedPriorityRuleIfNotExist cidr table fromRuleMark
              fromRuleMask) env routesDone) ∧
    ∀ e, (ensureFromPodSubnetRuleAndRoutes fromRuleMask forwardNodeIfName cidr gateway
        autoNatOutgoing family underlaySubnetInfoMap underlayExcludeIPBlockMap mode env
        host).1 = .error e →
      (ensureFromPodSubnetRuleAndRoutes fromRuleMask forwardNodeIfName cidr gateway
        autoNatOutgoing family underlaySubnetInfoMap underlayExcludeIPBlockMap mode env
        host).2.kernel.rules = host.kernel.rules := by
  have last := ensureFromPodSubnetRuleAndRoutes_rules_changed fromRuleMask forwardNodeIfName
    cidr gateway autoNatOutgoing family underlaySubnetInfoMap underlayExcludeIPBlockMap mode env
    host
  refine ⟨last, fun e failed => ?_⟩
  by_contra changed
  obtain ⟨-, -, table, -, routesDone, -, -, same, context, run⟩ := last changed
  apply changed
  rw [run] at failed ⊢
  rw [Spec.error (spec_wrap context (spec_appendHighestUnusedPriorityRuleIfNotExist cidr table
    fromRuleMark fromRuleMask routesDone.kernel)) trivial rfl failed, same]

end Hybridnet
