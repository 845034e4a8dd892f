import Mathlib.Logic.Function.Basic
import Mathlib.Data.List.Nodup

/-!
# Health checks of remote clusters

Every health-check period the remote-cluster controller checks each remote cluster that has a
manager, each in a goroutine of its own, and `updateSingleRCStatus` publishes what the check
found in the cluster's status.

A manager becomes ready the first time a check finds its cluster ready, and that first time
alone resumes its reconciles: nothing in the controller marks a manager unready again. Over any
run of checks a manager is therefore ready afterwards exactly when it was before or some check of
the run found the cluster ready, and it resumes its reconciles at most once.

The published conditions are those of the check. They keep the transition times of the status
the lister holds when the check finds the same types and statuses in the same order, and take the
times of the check otherwise: every condition, the unchanged ones too, as soon as one changed.

The goroutines of one round touch the managers and statuses of distinct clusters, since the
lister lists each cluster once: the round ends in the same state whatever order they run in.
-/

namespace Hybridnet

/-- A condition of a remote cluster's status, with the fields `updateSingleRCStatus` compares
and copies. -/
structure ClusterCondition where
  type : String
  status : String
  lastTransitionTime : Nat
  deriving DecidableEq, Repr

/-- What `updateLastTransitionTime` compares of a condition: its type and status. -/
def ClusterCondition.shape (condition : ClusterCondition) : String × String :=
  (condition.type, condition.status)

/-- The part of an `rcmanager.Manager` the health check reads and writes: whether its cluster
is ready, and how many times `ResumeReconcile` queued the reconciles of its subnets and nodes. -/
structure ClusterManager where
  isReady : Bool
  resumed : Nat
  deriving DecidableEq, Repr

/-- `ResumeReconcile(manager)`: queue the reconciles of the cluster's subnets and nodes. -/
def resumeReconcile (manager : ClusterManager) : ClusterManager :=
  { manager with resumed := manager.resumed + 1 }

/-- `conditionChanged` of `updateLastTransitionTime`: the check found another number of
conditions, or another type or status at some position. -/
def conditionChanged (conditions previous : List ClusterCondition) : Bool :=
  conditions.length != previous.length ||
    (conditions.zip previous).any fun pair =>
      !(pair.1.status == pair.2.status && pair.1.type == pair.2.type)

/-- `updateLastTransitionTime` of `updateSingleRCStatus`: the conditions to publish, with the
transition times of the previous status when no condition changed. -/
def updateLastTransitionTime (conditions previous : List ClusterCondition) :
    List ClusterCondition :=
  if conditionChanged conditions previous then conditions
  else List.zipWith (fun condition old =>
    { condition with lastTransitionTime := old.lastTransitionTime }) conditions previous

/-- A remote cluster as the health check sees it: its manager, and the conditions of the status
the API server holds. -/
structure ClusterHealth where
  manager : ClusterManager
  conditions : List ClusterCondition
  deriving DecidableEq, Repr

/-- What one check of a cluster meets: the conditions `CheckCondition` found, `none` when it
panicked and the deferred `recover` ended the goroutine before anything changed; the conditions
of the lister's copy of the cluster; and whether `UpdateStatus` failed. -/
structure HealthCheck where
  checked : Option (List ClusterCondition)
  listed : List ClusterCondition
  updateFails : Bool
  deriving DecidableEq, Repr

section Check

/- `IsReady(conditions)`, which the controller's package does not define here. -/
variable (isReady : List ClusterCondition → Bool)

/-- `updateSingleRCStatus(manager, rc)`. -/
def updateSingleRCStatus (check : HealthCheck) (cluster : ClusterHealth) : ClusterHealth :=
  match check.checked with
  | none => cluster
  | some conditions =>
      { manager :=
          if !cluster.manager.isReady && isReady conditions then
            resumeReconcile { cluster.manager with isReady := true }
          else cluster.manager
        conditions :=
          if check.updateFails then cluster.conditions
          else updateLastTransitionTime conditions check.listed }

/-- The checks of one cluster, period after period. -/
def runHealthChecks (checks : List HealthCheck) (cluster : ClusterHealth) : ClusterHealth :=
  checks.foldl (fun cluster check => updateSingleRCStatus isReady check cluster) cluster

/-- One goroutine of `updateRemoteClusterStatus`: the check of the cluster `name` when it has a
manager. -/
def updateClusterStatus (clusters : String → Option ClusterHealth)
    (entry : String × HealthCheck) : String → Option ClusterHealth :=
  match clusters entry.1 with
  | none => clusters
  | some cluster =>
      Function.update clusters entry.1 (some (updateSingleRCStatus isReady entry.2 cluster))

/-- `updateRemoteClusterStatus`: for each cluster the lister lists, with what its check meets,
the goroutine of `updateSingleRCStatus`, in the order they happen to run. -/
def updateRemoteClusterStatus (checks : List (String × HealthCheck))
    (clusters : String → Option ClusterHealth) : String → Option ClusterHealth :=
  checks.foldl (updateClusterStatus isReady) clusters

/-- What one check does to the manager: it becomes ready and resumes its reconciles exactly when
it was not ready and the check found the cluster ready. -/
theorem updateSingleRCStatus_manager (check : HealthCheck) (cluster : ClusterHealth) :
    (updateSingleRCStatus isReady check cluster).manager =
      if !cluster.manager.isReady && check.checked.any isReady then
        { isReady := true, resumed := cluster.manager.resumed + 1 }
      else cluster.manager := by
  unfold updateSingleRCStatus
  cases check.checked with
  | none => simp
  | some conditions =>
      by_cases ready : isReady conditions = true <;>
        simp [ready, resumeReconcile]

/-- Over any run of checks a manager is ready afterwards exactly when it was before or some check
found the cluster ready: it never becomes unready. It resumes its reconciles once if it was not
ready and some check found the cluster ready, and never otherwise. -/
theorem runHealthChecks_ready_resumes_once (checks : List HealthCheck) (cluster : ClusterHealth) :
    (runHealthChecks isReady checks cluster).manager.isReady =
        (cluster.manager.isReady || checks.any fun check => check.checked.any isReady) ∧
      (runHealthChecks isReady checks cluster).manager.resumed = cluster.manager.resumed +
        if !cluster.manager.isReady && checks.any (fun check => check.checked.any isReady) then 1
        else 0 := by
  induction checks generalizing cluster with
  | nil => simp [runHealthChecks]
  | cons check rest ih =>
      obtain ⟨ready, resumed⟩ := ih (updateSingleRCStatus isReady check cluster)
      simp only [runHealthChecks, List.foldl_cons] at ready resumed ⊢
      rw [ready, resumed, updateSingleRCStatus_manager]
      obtain ⟨⟨wasReady, count⟩, conditions⟩ := cluster
      cases wasReady <;> cases found : check.checked.any isReady <;> simp [found]

end Check

/-! ## Transition times -/

/-- The comparison loop of `updateLastTransitionTime` finds no change exactly when the types and
statuses agree, position by position, with as many conditions. -/
theorem conditionChanged_eq_false_iff :
    ∀ conditions previous : List ClusterCondition,
      conditionChanged conditions previous = false ↔
        conditions.map ClusterCondition.shape = previous.map ClusterCondition.shape
  | [], [] => by simp [conditionChanged]
  | [], _ :: _ => by simp [conditionChanged]
  | _ :: _, [] => by simp [conditionChanged]
  | condition :: conditions, old :: previous => by
      have ih := conditionChanged_eq_false_iff conditions previous
      simp only [conditionChanged, List.length_cons, List.zip_cons_cons, List.any_cons,
        Bool.or_eq_false_iff, bne_eq_false_iff_eq, Nat.add_right_cancel_iff, Bool.not_eq_false',
        Bool.and_eq_true, beq_iff_eq, List.map_cons, List.cons.injEq, ClusterCondition.shape,
        Prod.mk.injEq] at ih ⊢
      rw [← ih]
      exact ⟨fun ⟨length, ⟨status, type⟩, rest⟩ => ⟨⟨type, status⟩, length, rest⟩,
        fun ⟨⟨type, status⟩, length, rest⟩ => ⟨length, ⟨status, type⟩, rest⟩⟩

/-- Keeping the previous transition times changes no type or status, and takes the previous
times, position by position. -/
theorem map_zipWith_lastTransitionTime : ∀ {conditions previous : List ClusterCondition},
    conditions.length = previous.length →
    (List.zipWith (fun condition old =>
        { condition with lastTransitionTime := old.lastTransitionTime }) conditions previous).map
        ClusterCondition.shape = conditions.map ClusterCondition.shape ∧
      (List.zipWith (fun condition old =>
        { condition with lastTransitionTime := old.lastTransitionTime }) conditions previous).map
        ClusterCondition.lastTransitionTime = previous.map ClusterCondition.lastTransitionTime
  | [], [], _ => ⟨rfl, rfl⟩
  | [], _ :: _, same => by simp at same
  | _ :: _, [], same => by simp at same
  | _ :: _, _ :: _, same => by
      obtain ⟨shape, time⟩ := map_zipWith_lastTransitionTime (Nat.succ.inj same)
      simp [shape, time, ClusterCondition.shape]

/-- `updateLastTransitionTime` publishes the types and statuses of the check; its transition
times are those of the listed status when the types and statuses are unchanged, and those of the
check, for every condition, when any of them changed. -/
theorem updateLastTransitionTime_spec (conditions previous : List ClusterCondition) :
    (updateLastTransitionTime conditions previous).map ClusterCondition.shape =
        conditions.map ClusterCondition.shape ∧
      (updateLastTransitionTime conditions previous).map ClusterCondition.lastTransitionTime =
        if conditions.map ClusterCondition.shape = previous.map ClusterCondition.shape then
          previous.map ClusterCondition.lastTransitionTime
        else conditions.map ClusterCondition.lastTransitionTime := by
  unfold updateLastTransitionTime
  split_ifs with changed same same
  · exact absurd ((conditionChanged_eq_false_iff _ _).2 same) (by simp [changed])
  · exact ⟨rfl, rfl⟩
  · exact map_zipWith_lastTransitionTime (by simpa using congrArg List.length same)
  · exact absurd ((conditionChanged_eq_false_iff _ _).1 (by simpa using changed)) same

/-! ## Rounds -/

section Round

variable (isReady : List ClusterCondition → Bool)

/-- The goroutines of two distinct clusters commute. -/
theorem updateClusterStatus_comm (clusters : String → Option ClusterHealth)
    {a b : String × HealthCheck} (apart : a.1 ≠ b.1) :
    updateClusterStatus isReady (updateClusterStatus isReady clusters a) b =
      updateClusterStatus isReady (updateClusterStatus isReady clusters b) a := by
  unfold updateClusterStatus
  cases found : clusters a.1 <;> cases found' : clusters b.1 <;>
    simp [found, found', Function.update_noteq apart, Function.update_noteq (Ne.symm apart),
      Function.update_comm apart]

/-- A round of health checks over clusters the lister lists once each ends in the same managers
and statuses whatever order its goroutines run in. -/
theorem updateRemoteClusterStatus_order_independent {checks checks' : List (String × HealthCheck)}
    (names : (checks.map Prod.fst).Nodup) (reordered : checks.Perm checks')
    (clusters : String → Option ClusterHealth) :
    updateRemoteClusterStatus isReady checks clusters =
      updateRemoteClusterStatus isReady checks' clusters :=
  reordered.foldl_eq' (fun a member b member' z => by
    by_cases same : a = b
    · rw [same]
    · exact updateClusterStatus_comm isReady z fun named =>
        same (List.inj_on_of_nodup_map names member member' named)) clusters

end Round

/-- A check that finds the cluster ready, listed with no conditions. -/
def readyCheck : HealthCheck where
  checked := some [⟨"Ready", "True", 7⟩]
  listed := []
  updateFails := false

/-- The clusters `c1` and `c2`, each with a manager that is not ready yet. -/
def twoUnreadyClusters (name : String) : Option ClusterHealth :=
  if name = "c1" ∨ name = "c2" then some ⟨⟨false, 0⟩, []⟩ else none

theorem updateRemoteClusterStatus_order_independent_two_clusters :
    (([("c1", readyCheck), ("c2", readyCheck)].map Prod.fst).Nodup ∧
        [("c1", readyCheck), ("c2", readyCheck)].Perm [("c2", readyCheck), ("c1", readyCheck)]) ∧
      updateRemoteClusterStatus (fun _ => true) [("c1", readyCheck), ("c2", readyCheck)]
          twoUnreadyClusters =
        updateRemoteClusterStatus (fun _ => true) [("c2", readyCheck), ("c1", readyCheck)]
          twoUnreadyClusters :=
  have names : ([("c1", readyCheck), ("c2", readyCheck)].map Prod.fst).Nodup := by decide
  have reordered : [("c1", readyCheck), ("c2", readyCheck)].Perm
      [("c2", readyCheck), ("c1", readyCheck)] := List.Perm.swap _ _ _
  ⟨⟨names, reordered⟩,
    updateRemoteClusterStatus_order_independent (fun _ => true) names reordered _⟩

end Hybridnet
