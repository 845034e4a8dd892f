import Hybridnet.Kernel.Netlink

/-!
# Policy rules of pod subnets

`checkIfRuleExist` finds the first listed rule from a source, in a given table or in any;
`findHighestUnusedRulePriority` scans the priorities from `0` to `MaxRulePriority` for
the first one that no listed rule uses and that lies above the rule of the node-local
table; `appendHighestUnusedPriorityRuleIfNotExist` adds a rule there when none exists.

For a rule list as the kernel reports it, in non-decreasing priority order, the scan
returns the least free priority above every node-local rule, and fails exactly when
there is none; so an added rule neither shares a priority nor precedes the local table.
-/

namespace Hybridnet

/-- `MaxRulePriority`. -/
def maxRulePriority : Int := 32767

/-- `NodeLocalTableNum`, the kernel's local table. -/
def nodeLocalTableNum : Int := 255

/-- `realRulePriority(priority)`: a rule listed without priority has priority `0`. -/
def realRulePriority (priority : Int) : Int := if priority = -1 then 0 else priority

theorem realRulePriority_mono {a b : Int} (le : a ≤ b) :
    realRulePriority a ≤ realRulePriority b := by
  unfold realRulePriority
  split_ifs <;> omega

/-- The test of `checkIfRuleExist`: a rule from `src`, pointing at `table` when `table`
is positive. -/
def ruleMatches (src : IPNet) (table : Int) (rule : Rule) : Bool :=
  rule.src = some src && (if table > 0 then rule.table = table else true)

theorem src_of_ruleMatches {src : IPNet} {table : Int} {rule : Rule}
    (matching : ruleMatches src table rule = true) : rule.src = some src := by
  rw [ruleMatches, Bool.and_eq_true, decide_eq_true_eq] at matching
  exact matching.1

/-- Without a table, a rule matches by its source alone. -/
theorem ruleMatches_neg_one (src : IPNet) (rule : Rule) :
    ruleMatches src (-1) rule = decide (rule.src = some src) := by
  rw [ruleMatches, if_neg (by decide), Bool.and_true]

/-- `checkIfRuleExist(src, table, family)`: the first listed rule that matches. -/
def checkIfRuleExist (src : IPNet) (table : Int) : NetM (Option Rule) := do
  let ruleList ← wrap "list subnet policy rules error: " ruleList
  pure (ruleList.find? (ruleMatches src table))

/-- `nodeLocalRulePrio` after the loop over the rules: the priority of the last rule of
the node-local table, `0` when there is none. -/
def nodeLocalRulePrio (ruleList : List Rule) : Int :=
  ruleList.foldl (fun prio rule =>
    if rule.table = nodeLocalTableNum then realRulePriority rule.priority else prio) 0

/-- `priorityMap`: the priorities of the listed rules. -/
def priorityInUse (ruleList : List Rule) (priority : Int) : Bool :=
  ruleList.any fun rule => realRulePriority rule.priority = priority

/-- The loop of `findHighestUnusedRulePriority` from `priority`, with `remaining`
priorities left to try. -/
def findHighestUnusedRulePriority.scan (inUse : Int → Bool) (nodeLocalRulePrio : Int)
    (priority : Int) : Nat → Option Int
  | 0 => none
  | remaining + 1 =>
      if !inUse priority && nodeLocalRulePrio < priority then some priority
      else scan inUse nodeLocalRulePrio (priority + 1) remaining

/-- `findHighestUnusedRulePriority(family)`. -/
def findHighestUnusedRulePriority : NetM Int := do
  let ruleList ← wrap "failed to list rules: " ruleList
  match findHighestUnusedRulePriority.scan (priorityInUse ruleList) (nodeLocalRulePrio ruleList) 0
      (maxRulePriority + 1).toNat with
  | some priority => pure priority
  | none => throw "cannot find unused rule priority"

/-- `appendHighestUnusedPriorityRuleIfNotExist(src, table, family, mark, mask)`. -/
def appendHighestUnusedPriorityRuleIfNotExist (src : IPNet) (table mark mask : Int) :
    NetM Unit := do
  let existRule ← wrap ("failed to check rule (src: " ++ toString src ++ ", table: " ++
    toString table ++ ") exist: ") (checkIfRuleExist src table)
  if existRule.isSome then
    pure ()
  else
    let priority ← wrap "failed to find highest unused rule priority: "
      findHighestUnusedRulePriority
    let rule : Rule := { src := some src, table, priority, mark, mask }
    wrap ("failed to add policy rule " ++ toString rule ++ ": ") (ruleAdd rule)

/-! ## The scan -/

namespace findHighestUnusedRulePriority

variable {inUse : Int → Bool} {nodeLocalRulePrio : Int}

/-- The scan returns the first priority from `priority` on that passes its test. -/
theorem scan_eq_some_iff (priority : Int) (remaining : Nat) (q : Int) :
    scan inUse nodeLocalRulePrio priority remaining = some q ↔
      priority ≤ q ∧ q < priority + remaining ∧ (!inUse q && nodeLocalRulePrio < q) ∧
        ∀ r, priority ≤ r → r < q → ¬ (!inUse r && nodeLocalRulePrio < r) := by
  induction remaining generalizing priority with
  | zero => simp [scan]; omega
  | succ remaining ih =>
      simp only [scan]
      split_ifs with passes
      · simp only [Option.some.injEq]
        constructor
        · rintro rfl
          exact ⟨le_rfl, by omega, passes, fun r low high => by omega⟩
        · rintro ⟨low, -, good, least⟩
          by_contra differ
          exact least priority le_rfl (by omega) passes
      · rw [ih]
        constructor
        · rintro ⟨low, high, good, least⟩
          refine ⟨by omega, by push_cast; omega, good, fun r low' high' => ?_⟩
          rcases eq_or_lt_of_le low' with rfl | later
          · exact passes
          · exact least r (by omega) high'
        · rintro ⟨low, high, good, least⟩
          have moved : priority ≠ q := fun same => passes (same ▸ good)
          exact ⟨by omega, by push_cast at high; omega, good,
            fun r low' high' => least r (by omega) high'⟩

/-- The scan fails exactly when no priority it tries passes. -/
theorem scan_eq_none_iff (priority : Int) (remaining : Nat) :
    scan inUse nodeLocalRulePrio priority remaining = none ↔
      ∀ r, priority ≤ r → r < priority + remaining → ¬ (!inUse r && nodeLocalRulePrio < r) := by
  induction remaining generalizing priority with
  | zero => simp [scan]; omega
  | succ remaining ih =>
      simp only [scan]
      split_ifs with passes
      · simp only [reduceCtorEq, false_iff, not_forall, Classical.not_imp, not_not]
        exact ⟨priority, le_rfl, by omega, passes⟩
      · rw [ih]
        constructor
        · intro none r low high
          rcases eq_or_lt_of_le low with rfl | later
          · exact passes
          · exact none r (by omega) (by push_cast at high; omega)
        · exact fun none r low high => none r (by omega) (by push_cast; omega)

end findHighestUnusedRulePriority

/-! ## The least free priority -/

/-- `p` lies above the priority of every rule of the node-local table, and above `0` when
there is none: above the largest node-local priority, `0` if there is none. -/
def AboveLocalRules (ruleList : List Rule) (p : Int) : Prop :=
  (∀ rule ∈ ruleList, rule.table = nodeLocalTableNum → realRulePriority rule.priority < p) ∧
    ((∀ rule ∈ ruleList, rule.table ≠ nodeLocalTableNum) → 0 < p)

/-- A priority a new pod-subnet rule may take: above the node-local rules, at most
`MaxRulePriority`, and the priority of no listed rule. -/
def IsFreePriority (ruleList : List Rule) (p : Int) : Prop :=
  AboveLocalRules ruleList p ∧ p ≤ maxRulePriority ∧
    ∀ rule ∈ ruleList, realRulePriority rule.priority ≠ p

/-- The least free priority. -/
def IsLeastFreePriority (ruleList : List Rule) (p : Int) : Prop :=
  IsFreePriority ruleList p ∧ ∀ q, IsFreePriority ruleList q → p ≤ q

/-- Over rules listed in non-decreasing priority order, the loop's `nodeLocalRulePrio`,
the priority of the last node-local rule, is the largest one. -/
theorem nodeLocalRulePrio_lt_iff {ruleList : List Rule}
    (sorted : (ruleList.map Rule.priority).Sorted (· ≤ ·)) (p : Int) :
    nodeLocalRulePrio ruleList < p ↔ AboveLocalRules ruleList p := by
  unfold nodeLocalRulePrio AboveLocalRules
  generalize (0 : Int) = init
  induction ruleList generalizing init with
  | nil => simp
  | cons rule rest ih =>
      simp only [List.map_cons, List.sorted_cons, List.mem_map, forall_exists_index, and_imp,
        forall_apply_eq_imp_iff₂] at sorted
      simp only [List.foldl_cons, List.mem_cons, forall_eq_or_imp]
      rw [ih sorted.2]
      split_ifs with isLocal
      · have later : ∀ r ∈ rest, r.table = nodeLocalTableNum →
            realRulePriority rule.priority ≤ realRulePriority r.priority :=
          fun r member _ => realRulePriority_mono (sorted.1 r member)
        constructor
        · rintro ⟨above, first⟩
          refine ⟨⟨fun _ => ?_, above⟩, fun none => absurd isLocal none.1⟩
          by_cases some : ∃ r ∈ rest, r.table = nodeLocalTableNum
          · obtain ⟨r, member, localR⟩ := some
            exact lt_of_le_of_lt (later r member localR) (above r member localR)
          · exact first fun r member localR => some ⟨r, member, localR⟩
        · rintro ⟨⟨first, above⟩, -⟩
          exact ⟨above, fun _ => first isLocal⟩
      · constructor
        · rintro ⟨above, none⟩
          exact ⟨⟨fun localRule => absurd localRule isLocal, above⟩, fun all => none all.2⟩
        · rintro ⟨⟨-, above⟩, none⟩
          exact ⟨above, fun all => none ⟨isLocal, all⟩⟩

theorem priorityInUse_eq_false_iff (ruleList : List Rule) (p : Int) :
    priorityInUse ruleList p = false ↔ ∀ rule ∈ ruleList, realRulePriority rule.priority ≠ p := by
  simp [priorityInUse]

/-- A listed rule's priority is `-1`, when the kernel gives none, or a priority. -/
def Reported (ruleList : List Rule) : Prop := ∀ rule ∈ ruleList, -1 ≤ rule.priority

instance (ruleList : List Rule) : Decidable (Reported ruleList) :=
  inferInstanceAs (Decidable (∀ rule ∈ ruleList, _))

/-- What the loop tests is what a free priority is, for the priorities it tries. -/
theorem passes_iff {ruleList : List Rule} (sorted : (ruleList.map Rule.priority).Sorted (· ≤ ·))
    (reported : Reported ruleList) {p : Int} :
    ((!priorityInUse ruleList p && nodeLocalRulePrio ruleList < p) = true ∧ 0 ≤ p ∧
      p < 0 + (maxRulePriority + 1).toNat) ↔ IsFreePriority ruleList p := by
  have nonneg : ∀ rule ∈ ruleList, rule.table = nodeLocalTableNum →
      0 ≤ realRulePriority rule.priority := fun rule member _ => by
    have := reported rule member
    unfold realRulePriority
    split_ifs <;> omega
  simp only [Bool.and_eq_true, Bool.not_eq_true', priorityInUse_eq_false_iff,
    decide_eq_true_eq, nodeLocalRulePrio_lt_iff sorted, IsFreePriority, maxRulePriority]
  constructor
  · rintro ⟨⟨free, above⟩, -, high⟩
    exact ⟨above, by omega, free⟩
  · rintro ⟨above, high, free⟩
    refine ⟨⟨free, above⟩, ?_, by omega⟩
    by_cases some : ∃ rule ∈ ruleList, rule.table = nodeLocalTableNum
    · obtain ⟨rule, member, isLocal⟩ := some
      have := above.1 rule member isLocal
      have := nonneg rule member isLocal
      omega
    · exact (above.2 fun rule member isLocal => some ⟨rule, member, isLocal⟩).le

/-- For rules listed in non-decreasing priority order, the scan finds the least free
priority, and fails exactly when there is none. -/
theorem scan_spec {ruleList : List Rule} (sorted : (ruleList.map Rule.priority).Sorted (· ≤ ·))
    (reported : Reported ruleList) :
    (∀ p, findHighestUnusedRulePriority.scan (priorityInUse ruleList) (nodeLocalRulePrio ruleList)
        0 (maxRulePriority + 1).toNat = some p ↔ IsLeastFreePriority ruleList p) ∧
      (findHighestUnusedRulePriority.scan (priorityInUse ruleList) (nodeLocalRulePrio ruleList)
        0 (maxRulePriority + 1).toNat = none ↔ ∀ p, ¬ IsFreePriority ruleList p) := by
  have free : ∀ p, IsFreePriority ruleList p → 0 ≤ p := fun p isFree =>
    ((passes_iff sorted reported).2 isFree).2.1
  constructor
  · intro p
    rw [findHighestUnusedRulePriority.scan_eq_some_iff]
    constructor
    · rintro ⟨low, high, good, least⟩
      refine ⟨(passes_iff sorted reported).1 ⟨good, low, high⟩, fun q isFree => ?_⟩
      by_contra before
      obtain ⟨goodQ, lowQ, -⟩ := (passes_iff sorted reported).2 isFree
      exact least q lowQ (by omega) goodQ
    · rintro ⟨isFree, least⟩
      obtain ⟨good, low, high⟩ := (passes_iff sorted reported).2 isFree
      exact ⟨low, high, good, fun r lowR before goodR => by
        have := least r ((passes_iff sorted reported).1 ⟨goodR, lowR, by omega⟩)
        omega⟩
  · rw [findHighestUnusedRulePriority.scan_eq_none_iff]
    constructor
    · intro none p isFree
      obtain ⟨good, low, high⟩ := (passes_iff sorted reported).2 isFree
      exact none p low high good
    · intro none r low high good
      exact none r ((passes_iff sorted reported).1 ⟨good, low, high⟩)

/-! ## The calls -/

variable {env : Env} {host : Host}

theorem checkIfRuleExist_apply (src : IPNet) (table : Int) :
    checkIfRuleExist src table env host =
      match env.fails host.clock with
      | some e => (.error ("list subnet policy rules error: " ++ e), ⟨host.kernel, host.clock + 1⟩)
      | none => (.ok (host.kernel.rules.find? (ruleMatches src table)),
          ⟨host.kernel, host.clock + 1⟩) := by
  simp only [checkIfRuleExist, NetM.bind_apply, wrap, ruleList, kernelOp]
  cases env.fails host.clock <;> rfl

theorem findHighestUnusedRulePriority_apply :
    findHighestUnusedRulePriority env host =
      match env.fails host.clock with
      | some e => (.error ("failed to list rules: " ++ e), ⟨host.kernel, host.clock + 1⟩)
      | none =>
          match findHighestUnusedRulePriority.scan (priorityInUse host.kernel.rules)
              (nodeLocalRulePrio host.kernel.rules) 0 (maxRulePriority + 1).toNat with
          | some priority => (.ok priority, ⟨host.kernel, host.clock + 1⟩)
          | none => (.error "cannot find unused rule priority", ⟨host.kernel, host.clock + 1⟩) := by
  simp only [findHighestUnusedRulePriority, NetM.bind_apply, wrap, ruleList, kernelOp]
  cases env.fails host.clock with
  | some e => rfl
  | none =>
      simp only
      cases findHighestUnusedRulePriority.scan (priorityInUse host.kernel.rules)
        (nodeLocalRulePrio host.kernel.rules) 0 (maxRulePriority + 1).toNat <;> rfl

/-- `appendHighestUnusedPriorityRuleIfNotExist` leaves the rules as they are, or adds one
rule from `src` to `table` at a priority the scan found. -/
theorem appendHighestUnusedPriorityRuleIfNotExist_rules (src : IPNet) (table mark mask : Int) :
    (appendHighestUnusedPriorityRuleIfNotExist src table mark mask env host).2.kernel =
        host.kernel ∨
      ∃ priority, findHighestUnusedRulePriority.scan (priorityInUse host.kernel.rules)
          (nodeLocalRulePrio host.kernel.rules) 0 (maxRulePriority + 1).toNat = some priority ∧
        (appendHighestUnusedPriorityRuleIfNotExist src table mark mask env host).2.kernel =
          host.kernel.addRule { src := some src, table, priority, mark, mask } := by
  simp only [appendHighestUnusedPriorityRuleIfNotExist, NetM.bind_apply, wrap_apply,
    checkIfRuleExist_apply]
  cases env.fails host.clock with
  | some e => exact .inl rfl
  | none =>
      cases host.kernel.rules.find? (ruleMatches src table) with
      | some rule => exact .inl rfl
      | none =>
          simp only [Option.isSome_none, Bool.false_eq_true, if_false, NetM.bind_apply, wrap_apply,
            findHighestUnusedRulePriority_apply]
          cases env.fails (host.clock + 1) with
          | some e => exact .inl rfl
          | none =>
              simp only
              cases found : findHighestUnusedRulePriority.scan (priorityInUse host.kernel.rules)
                (nodeLocalRulePrio host.kernel.rules) 0 (maxRulePriority + 1).toNat with
              | none => exact .inl rfl
              | some priority =>
                  simp only [ruleAdd, kernelOp, wrap_apply]
                  cases env.fails (host.clock + 1 + 1) with
                  | some e => exact .inl rfl
                  | none =>
                      simp only
                      split_ifs
                      · exact .inl rfl
                      · exact .inr ⟨priority, rfl, rfl⟩

/-- For rules listed in non-decreasing priority order, `findHighestUnusedRulePriority`
returns the least priority above the node-local rules, at most `MaxRulePriority`, that no
listed rule has, and fails exactly when there is none; so the rule
`appendHighestUnusedPriorityRuleIfNotExist` adds, if any, shares no listed rule's
priority and follows the node-local rule. -/
theorem findHighestUnusedRulePriority_least (env : Env) (host : Host)
    (sorted : (host.kernel.rules.map Rule.priority).Sorted (· ≤ ·))
    (reported : Reported host.kernel.rules) (listed : env.fails host.clock = none) :
    (∀ p, (findHighestUnusedRulePriority env host).1 = .ok p ↔
      IsLeastFreePriority host.kernel.rules p) ∧
    ((∃ e, (findHighestUnusedRulePriority env host).1 = .error e) ↔
      ∀ p, ¬ IsFreePriority host.kernel.rules p) ∧
    ∀ src table mark mask,
      (appendHighestUnusedPriorityRuleIfNotExist src table mark mask env host).2.kernel =
          host.kernel ∨
        ∃ priority, IsFreePriority host.kernel.rules priority ∧
          (appendHighestUnusedPriorityRuleIfNotExist src table mark mask env host).2.kernel =
            host.kernel.addRule { src := some src, table, priority, mark, mask } := by
  obtain ⟨someIff, noneIff⟩ := scan_spec sorted reported
  refine ⟨fun p => ?_, ?_, fun src table mark mask => ?_⟩
  · rw [findHighestUnusedRulePriority_apply, listed]
    cases found : findHighestUnusedRulePriority.scan (priorityInUse host.kernel.rules)
        (nodeLocalRulePrio host.kernel.rules) 0 (maxRulePriority + 1).toNat with
    | none => simpa using fun least => noneIff.1 found p least.1
    | some q =>
        have leastQ := (someIff q).1 found
        simp only [Except.ok.injEq]
        exact ⟨fun same => same ▸ leastQ, fun least =>
          le_antisymm (leastQ.2 p least.1) (least.2 q leastQ.1)⟩
  · rw [findHighestUnusedRulePriority_apply, listed]
    cases found : findHighestUnusedRulePriority.scan (priorityInUse host.kernel.rules)
        (nodeLocalRulePrio host.kernel.rules) 0 (maxRulePriority + 1).toNat with
    | none => simpa using noneIff.1 found
    | some q => simpa using ⟨q, ((someIff q).1 found).1⟩
  · rcases @appendHighestUnusedPriorityRuleIfNotExist_rules env host src table mark mask with
      same | ⟨priority, found, added⟩
    · exact .inl same
    · exact .inr ⟨priority, ((someIff priority).1 found).1, added⟩

/-- The rules of a fresh host: `0: from all lookup local`, `32766: from all lookup main`
and `32767: from all lookup default`, the first listed without priority. -/
def defaultRulesKernel : Kernel where
  rules := [{ src := none, table := 255, priority := -1 },
    { src := none, table := 254, priority := 32766 },
    { src := none, table := 253, priority := 32767 }]
  routes _ := []
  links := []
  addrs := []
  keyed _ := List.nodup_nil
  filed _ _ member := absurd member (List.not_mem_nil _)

theorem findHighestUnusedRulePriority_least_defaultRules :
    (defaultRulesKernel.rules.map Rule.priority).Sorted (· ≤ ·) ∧
      Reported defaultRulesKernel.rules ∧
      ({ listing := .nilDst, fails := fun _ => none } : Env).fails 0 = none ∧
      (∀ p, (findHighestUnusedRulePriority ⟨.nilDst, fun _ => none⟩ ⟨defaultRulesKernel, 0⟩).1 =
          .ok p ↔ IsLeastFreePriority defaultRulesKernel.rules p) ∧
      ((∃ e, (findHighestUnusedRulePriority ⟨.nilDst, fun _ => none⟩ ⟨defaultRulesKernel, 0⟩).1 =
          .error e) ↔ ∀ p, ¬ IsFreePriority defaultRulesKernel.rules p) ∧
      ∀ src table mark mask,
        (appendHighestUnusedPriorityRuleIfNotExist src table mark mask ⟨.nilDst, fun _ => none⟩
            ⟨defaultRulesKernel, 0⟩).2.kernel = defaultRulesKernel ∨
          ∃ priority, IsFreePriority defaultRulesKernel.rules priority ∧
            (appendHighestUnusedPriorityRuleIfNotExist src table mark mask ⟨.nilDst, fun _ => none⟩
                ⟨defaultRulesKernel, 0⟩).2.kernel =
              defaultRulesKernel.addRule { src := some src, table, priority, mark, mask } :=
  have sorted : (defaultRulesKernel.rules.map Rule.priority).Sorted (· ≤ ·) := by decide
  have reported : Reported defaultRulesKernel.rules := by decide
  ⟨sorted, reported, rfl,
    findHighestUnusedRulePriority_least ⟨.nilDst, fun _ => none⟩ ⟨defaultRulesKernel, 0⟩ sorted
      reported rfl⟩

end Hybridnet
