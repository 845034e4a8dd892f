import Hybridnet.Net.Address
import Mathlib.Data.List.Sort

/-!
# The kernel's routing state and the netlink calls on it

The policy-route manager reads and changes the kernel's routing rules and route tables
through `github.com/vishvananda/netlink`. The state here is that of one address family:
the rule list in the order `RuleList` reports it, the routes of every table, the links
and the local addresses. A table holds at most one route per destination, the key under
which `RouteReplace` replaces a route; hybridnet sets no metric or TOS, the other parts
of the kernel's key. A route with another metric or TOS, which other software may install,
stays beside the one hybridnet replaces; the model does not hold such routes.

The daemon runs one route manager for each family, and each names its family in every call:
the rules, routes and addresses of one family are never read or written by the other's
manager. So a `Host` is the state that one family's manager sees, and the managers of the
two families run over two hosts. The links are common to both, but no manager changes them.

Calls run in `NetM`, a state monad over the host whose errors keep the state reached: a
call that fails leaves in place what it changed before. Any kernel operation may fail,
as the environment's fault oracle decides for each position in the run, and the
environment fixes how the library lists a default route: with a nil destination, or as
the all-zero prefix.
-/

namespace Hybridnet

/-- How `netlink.RouteList` and `RouteListFiltered` report the destination of a default
route. -/
inductive ListingForm where
  /-- A nil `Dst`. -/
  | nilDst
  /-- The prefix `0.0.0.0/0` or `::/0`. -/
  | zeroPrefix
  deriving DecidableEq, Repr

/-- `netlink.SCOPE_UNIVERSE` and `netlink.SCOPE_LINK`. -/
inductive Scope where
  | universe
  | link
  deriving DecidableEq, Repr

/-- `unix.RTN_UNICAST`, the type a route gets when none is set, and `unix.RTN_THROW`. -/
inductive RouteType where
  | unicast
  | throw
  deriving DecidableEq, Repr

/-- The zero prefix, where the kernel files a route without a destination. -/
def zeroPrefix : IPNet := ⟨0, 0⟩

/-- A `netlink.Route` with the fields hybridnet sets or reads; a nil `Dst` is `none`, and
the other fields default to Go's zero values. -/
structure Route where
  dst : Option IPNet
  linkIndex : Int := 0
  gw : Option Int := none
  src : Option Int := none
  scope : Scope := .universe
  type : RouteType := .unicast
  deriving DecidableEq, Repr

instance : ToString Route :=
  ⟨fun route => "\x7bIfindex: " ++ toString route.linkIndex ++ " Dst: " ++
    (match route.dst with | some dst => toString dst | none => "<nil>") ++ "\x7d"⟩

namespace Route

/-- The destination the kernel files the route under. -/
def key (route : Route) : IPNet := route.dst.getD zeroPrefix

/-- The route as the kernel stores it: with its destination. -/
def stored (route : Route) : Route := { route with dst := some route.key }

/-- The route as the netlink library lists a stored route. -/
def listed (form : ListingForm) (route : Route) : Route :=
  if form = .nilDst ∧ route.dst = some zeroPrefix then { route with dst := none } else route

@[simp] theorem key_stored (route : Route) : route.stored.key = route.key := rfl

@[simp] theorem key_listed (form : ListingForm) (route : Route) :
    (route.listed form).key = route.key := by
  unfold listed key
  split_ifs with default
  · simp [default.2]
  · rfl

/-- Deleting a listed route names the stored route it was listed from. -/
@[simp] theorem stored_listed {route : Route} (filed : route.stored = route) (form : ListingForm) :
    (route.listed form).stored = route := by
  unfold listed
  split_ifs with default
  · obtain ⟨dst, linkIndex, gw, src, scope, type⟩ := route
    simp only at default
    simp [stored, key, default.2]
  · exact filed

end Route

/-- A `netlink.Rule` with the fields hybridnet sets or reads; `priority` as `RuleList`
reports it, `-1` when the kernel gives none. -/
structure Rule where
  src : Option IPNet
  table : Int
  priority : Int
  mark : Int := 0
  mask : Int := 0
  deriving DecidableEq, Repr

instance : ToString Rule :=
  ⟨fun rule => "ip rule " ++ toString rule.priority ++ ": from " ++
    (match rule.src with | some src => toString src | none => "all") ++ " table " ++
    toString rule.table⟩

/-- A `netlink.Link`: its name and index. -/
structure Link where
  name : String
  index : Int
  deriving DecidableEq, Repr

/-- A `netlink.Addr` as `AddrList` reports it: the address and whether it carries
`IFA_F_NOPREFIXROUTE`. -/
structure Addr where
  ip : Int
  noPrefixRoute : Bool
  deriving DecidableEq, Repr

/-- The kernel's networking state for one address family. Every route is stored with its
destination, and a table holds one route per destination. -/
structure Kernel where
  rules : List Rule
  routes : Int → List Route
  links : List Link
  addrs : List Addr
  keyed : ∀ table, ((routes table).map Route.key).Nodup
  filed : ∀ table, ∀ route ∈ routes table, route.stored = route

namespace Kernel

theorem nodup_filter_key {routes : List Route} (keyed : (routes.map Route.key).Nodup)
    (keep : Route → Bool) : ((routes.filter keep).map Route.key).Nodup :=
  keyed.sublist ((List.filter_sublist _).map _)

/-- `RouteReplace`: the route takes the place of the table's route to its destination. -/
def replaceRoute (k : Kernel) (table : Int) (route : Route) : Kernel where
  rules := k.rules
  routes t :=
    if t = table then route.stored :: (k.routes t).filter (fun r => r.key ≠ route.key)
    else k.routes t
  links := k.links
  addrs := k.addrs
  keyed t := by
    dsimp only
    split_ifs
    · refine List.nodup_cons.2 ⟨fun member => ?_, nodup_filter_key (k.keyed t) _⟩
      obtain ⟨r, kept, same⟩ := List.mem_map.1 member
      simp only [List.mem_filter, decide_eq_true_eq] at kept
      exact kept.2 (by simpa using same)
    · exact k.keyed t
  filed t r member := by
    dsimp only at member
    split_ifs at member
    · rcases List.mem_cons.1 member with rfl | kept
      · rfl
      · exact k.filed t r (List.mem_of_mem_filter kept)
    · exact k.filed t r member

/-- `RouteDel` of a route the table holds. -/
def deleteRoute (k : Kernel) (table : Int) (route : Route) : Kernel where
  rules := k.rules
  routes t := if t = table then (k.routes t).filter (fun r => r ≠ route.stored) else k.routes t
  links := k.links
  addrs := k.addrs
  keyed t := by
    dsimp only
    split_ifs
    · exact nodup_filter_key (k.keyed t) _
    · exact k.keyed t
  filed t r member := by
    dsimp only at member
    split_ifs at member
    · exact k.filed t r (List.mem_of_mem_filter member)
    · exact k.filed t r member

/-- `RuleAdd`: the kernel files a rule after the rules of no greater priority. -/
def addRule (k : Kernel) (rule : Rule) : Kernel :=
  { k with rules := k.rules.orderedInsert (fun r r' => r.priority < r'.priority) rule }

@[simp] theorem replaceRoute_rules (k : Kernel) (table : Int) (route : Route) :
    (k.replaceRoute table route).rules = k.rules := rfl

@[simp] theorem replaceRoute_links (k : Kernel) (table : Int) (route : Route) :
    (k.replaceRoute table route).links = k.links := rfl

@[simp] theorem replaceRoute_addrs (k : Kernel) (table : Int) (route : Route) :
    (k.replaceRoute table route).addrs = k.addrs := rfl

theorem replaceRoute_routes (k : Kernel) (table t : Int) (route : Route) :
    (k.replaceRoute table route).routes t =
      if t = table then route.stored :: (k.routes t).filter (fun r => r.key ≠ route.key)
      else k.routes t := rfl

@[simp] theorem deleteRoute_rules (k : Kernel) (table : Int) (route : Route) :
    (k.deleteRoute table route).rules = k.rules := rfl

@[simp] theorem deleteRoute_links (k : Kernel) (table : Int) (route : Route) :
    (k.deleteRoute table route).links = k.links := rfl

@[simp] theorem deleteRoute_addrs (k : Kernel) (table : Int) (route : Route) :
    (k.deleteRoute table route).addrs = k.addrs := rfl

theorem deleteRoute_routes (k : Kernel) (table t : Int) (route : Route) :
    (k.deleteRoute table route).routes t =
      if t = table then (k.routes t).filter (fun r => r ≠ route.stored) else k.routes t := rfl

@[simp] theorem mem_replaceRoute_routes_self {k : Kernel} {table : Int} {route r : Route} :
    r ∈ (k.replaceRoute table route).routes table ↔
      r = route.stored ∨ r ∈ k.routes table ∧ r.key ≠ route.key := by
  simp [replaceRoute_routes]

@[simp] theorem mem_deleteRoute_routes_self {k : Kernel} {table : Int} {route r : Route} :
    r ∈ (k.deleteRoute table route).routes table ↔ r ∈ k.routes table ∧ r ≠ route.stored := by
  simp [deleteRoute_routes]

@[simp] theorem addRule_rules (k : Kernel) (rule : Rule) :
    (k.addRule rule).rules = k.rules.orderedInsert (fun r r' => r.priority < r'.priority) rule :=
  rfl

@[simp] theorem addRule_routes (k : Kernel) (rule : Rule) : (k.addRule rule).routes = k.routes :=
  rfl

@[simp] theorem addRule_links (k : Kernel) (rule : Rule) : (k.addRule rule).links = k.links := rfl

@[simp] theorem addRule_addrs (k : Kernel) (rule : Rule) : (k.addRule rule).addrs = k.addrs := rfl

end Kernel

/-- What the model leaves to the environment: how the library lists a default route,
and which kernel operations fail, by their position in the run, with the error text. -/
structure Env where
  listing : ListingForm
  fails : Nat → Option String

/-- The host as the manager of one family sees it: the kernel state of that family, and the
number of kernel operations run so far. -/
structure Host where
  kernel : Kernel
  clock : Nat

/-- A computation of the route manager: from the environment and the host, its result
or error, and the host it leaves. -/
def NetM (α : Type) : Type := Env → Host → Except String α × Host

namespace NetM

instance : Monad NetM where
  pure a := fun _ host => (.ok a, host)
  bind x f := fun env host =>
    match x env host with
    | (.ok a, host') => f a env host'
    | (.error e, host') => (.error e, host')

instance : MonadExceptOf String NetM where
  throw e := fun _ host => (.error e, host)
  tryCatch x handle := fun env host =>
    match x env host with
    | (.error e, host') => handle e env host'
    | result => result

variable {α β : Type} {env : Env} {host : Host}

@[simp] theorem pure_apply (a : α) : (pure a : NetM α) env host = (.ok a, host) := rfl

@[simp] theorem bind_apply (x : NetM α) (f : α → NetM β) :
    (x >>= f) env host =
      match x env host with
      | (.ok a, host') => f a env host'
      | (.error e, host') => (.error e, host') := rfl

@[simp] theorem throw_apply (e : String) : (throw e : NetM α) env host = (.error e, host) := rfl

end NetM

/-- `fmt.Errorf(context + "%v", err)`: the error of `x`, after `context`. -/
def wrap {α : Type} (context : String) (x : NetM α) : NetM α := fun env host =>
  match x env host with
  | (.error e, host') => (.error (context ++ e), host')
  | (.ok a, host') => (.ok a, host')

@[simp] theorem wrap_apply {α : Type} (context : String) (x : NetM α) (env : Env) (host : Host) :
    wrap context x env host =
      match x env host with
      | (.error e, host') => (.error (context ++ e), host')
      | (.ok a, host') => (.ok a, host') := rfl

/-- A kernel operation: it fails with the oracle's text when the oracle says so, and runs
on the kernel otherwise. -/
def kernelOp {α : Type} (run : ListingForm → Kernel → Except String α × Kernel) : NetM α :=
  fun env host =>
    match env.fails host.clock with
    | some e => (.error e, ⟨host.kernel, host.clock + 1⟩)
    | none => ((run env.listing host.kernel).1, ⟨(run env.listing host.kernel).2, host.clock + 1⟩)

/-! ## The netlink calls -/

/-- `netlink.RouteListFiltered` with `RT_FILTER_TABLE`: the routes of a table as the library
lists them, those that pass the filter. For table 0 (`RT_TABLE_UNSPEC`) the library lists the
routes of every table, each with its own table; the model lists table 0 as an ordinary table,
and no result is stated where the table can be 0. -/
def routeListFiltered (table : Int) (keep : Route → Bool) : NetM (List Route) :=
  kernelOp fun form k => (.ok (((k.routes table).map (Route.listed form)).filter keep), k)

/-- `netlink.RouteReplace` of a route whose `Table` is `table`. The kernel writes a route of
table 0 into the main table; the model writes table 0 as an ordinary table, and no result is
stated where the table can be 0. -/
def routeReplace (table : Int) (route : Route) : NetM Unit :=
  kernelOp fun _ k => (.ok (), k.replaceRoute table route)

/-- `netlink.RouteDel` of a route listed from `table`: the kernel refuses a route it does not
hold. A route listed from table 0 carries its own table, which the model does not track. -/
def routeDel (table : Int) (route : Route) : NetM Unit :=
  kernelOp fun _ k =>
    if route.stored ∈ k.routes table then (.ok (), k.deleteRoute table route)
    else (.error "no such process", k)

/-- `netlink.RouteAdd`, which asks the kernel for a new route (`NLM_F_EXCL`): the kernel
refuses a route to a destination the table already routes. -/
def routeAdd (table : Int) (route : Route) : NetM Unit :=
  kernelOp fun _ k =>
    if (k.routes table).any (fun r => r.key = route.key) then (.error "file exists", k)
    else (.ok (), k.replaceRoute table route)

/-- `netlink.RuleList`. -/
def ruleList : NetM (List Rule) := kernelOp fun _ k => (.ok k.rules, k)

/-- `netlink.RuleAdd`: the kernel refuses a rule it already holds. -/
def ruleAdd (rule : Rule) : NetM Unit :=
  kernelOp fun _ k => if rule ∈ k.rules then (.error "file exists", k) else (.ok (), k.addRule rule)

/-- `netlink.LinkByName`. -/
def linkByName (name : String) : NetM Link :=
  kernelOp fun _ k =>
    match k.links.find? (fun link => link.name = name) with
    | some link => (.ok link, k)
    | none => (.error "Link not found", k)

/-- `netlink.AddrList(nil, family)`. -/
def addrList : NetM (List Addr) := kernelOp fun _ k => (.ok k.addrs, k)

/-! ## What a computation may change -/

/-- Every run of `x`, failed or not, relates the kernel before to the kernel after by
`R`. -/
def Keeps {α : Type} (R : Kernel → Kernel → Prop) (x : NetM α) : Prop :=
  ∀ env host, R host.kernel (x env host).2.kernel

section Keeps

variable {α β : Type} {R : Kernel → Kernel → Prop}

theorem keeps_pure (refl : ∀ k, R k k) (a : α) : Keeps R (pure a : NetM α) :=
  fun _ host => refl host.kernel

theorem keeps_throw (refl : ∀ k, R k k) (e : String) : Keeps R (throw e : NetM α) :=
  fun _ host => refl host.kernel

theorem keeps_bind (trans : ∀ k₁ k₂ k₃, R k₁ k₂ → R k₂ k₃ → R k₁ k₃) {x : NetM α}
    {f : α → NetM β} (first : Keeps R x) (next : ∀ a, Keeps R (f a)) : Keeps R (x >>= f) := by
  intro env host
  simp only [NetM.bind_apply]
  have before := first env host
  split
  · next a host' result =>
      rw [result] at before
      exact trans _ _ _ before (next a env host')
  · next e host' result =>
      rw [result] at before
      exact before

theorem keeps_wrap {x : NetM α} (context : String) (kept : Keeps R x) :
    Keeps R (wrap context x) := by
  intro env host
  have := kept env host
  unfold wrap
  split <;> simp_all

theorem keeps_kernelOp (refl : ∀ k, R k k) {run : ListingForm → Kernel → Except String α × Kernel}
    (effect : ∀ form k, R k (run form k).2) : Keeps R (kernelOp run) := by
  intro env host
  unfold kernelOp
  split
  · exact refl _
  · exact effect _ _

theorem keeps_ite {c : Prop} [Decidable c] {x y : NetM α} (kx : Keeps R x) (ky : Keeps R y) :
    Keeps R (if c then x else y) := by
  split_ifs
  · exact kx
  · exact ky

/-- A loop keeps `R` when every round does. -/
theorem keeps_forM (refl : ∀ k, R k k) (trans : ∀ k₁ k₂ k₃, R k₁ k₂ → R k₂ k₃ → R k₁ k₃)
    {f : α → NetM PUnit} : ∀ {l : List α}, (∀ a ∈ l, Keeps R (f a)) → Keeps R (l.forM f)
  | [], _ => keeps_pure refl _
  | a :: rest, kept => keeps_bind trans (kept a (List.mem_cons_self a rest)) fun _ =>
      keeps_forM refl trans fun b member => kept b (List.mem_cons_of_mem a member)

/-- A run of `x` then `f` relates its kernels by `T` when `T` follows `R` and `S` in
turn, and follows `R` alone when `x` fails. -/
theorem keeps_bind_of {S T : Kernel → Kernel → Prop} {x : NetM α} {f : α → NetM β}
    (first : Keeps R x) (next : ∀ a, Keeps S (f a))
    (compose : ∀ k₁ k₂ k₃, R k₁ k₂ → S k₂ k₃ → T k₁ k₃) (stop : ∀ k₁ k₂, R k₁ k₂ → T k₁ k₂) :
    Keeps T (x >>= f) := by
  intro env host
  simp only [NetM.bind_apply]
  have before := first env host
  rcases result : x env host with ⟨_ | a, host'⟩ <;> rw [result] at before
  · exact stop _ _ before
  · exact compose _ _ _ before (next a env host')

end Keeps

/-- The run changes nothing in the kernel. -/
theorem keeps_eq_kernelOp {α : Type} {run : ListingForm → Kernel → Except String α × Kernel}
    (effect : ∀ form k, (run form k).2 = k) : Keeps Eq (kernelOp run) :=
  keeps_kernelOp (fun _ => rfl) fun form k => (effect form k).symm

/-- Calls that change nothing, run in turn, change nothing. -/
theorem keeps_eq_bind {α β : Type} {x : NetM α} {f : α → NetM β}
    (first : Keeps Eq x) (next : ∀ a, Keeps Eq (f a)) :
    Keeps Eq (x >>= f) :=
  @keeps_bind _ _ Eq (fun _ _ _ => Eq.trans) _ _ first next

theorem keeps_routeListFiltered (table : Int) (keep : Route → Bool) :
    Keeps Eq (routeListFiltered table keep) :=
  keeps_eq_kernelOp fun _ _ => rfl

theorem keeps_ruleList : Keeps Eq ruleList :=
  keeps_eq_kernelOp fun _ _ => rfl

theorem keeps_addrList : Keeps Eq addrList :=
  keeps_eq_kernelOp fun _ _ => rfl

theorem keeps_linkByName (name : String) : Keeps Eq (linkByName name) :=
  keeps_eq_kernelOp fun _ k => by
    cases k.links.find? (fun link => link.name = name) <;> rfl

theorem Keeps.mono {α : Type} {R S : Kernel → Kernel → Prop} {x : NetM α} (kept : Keeps R x)
    (weaker : ∀ k k', R k k' → S k k') : Keeps S x :=
  fun env host => weaker _ _ (kept env host)

/-! ## Specifications -/

/-- In every environment satisfying `ok`, `x` run from a kernel satisfying `pre` returns
a result and a kernel satisfying `post`, or fails in a kernel satisfying `fail`. -/
def Spec {α : Type} (ok : Env → Prop) (pre : Kernel → Prop) (x : NetM α)
    (post : α → Kernel → Prop) (fail : Kernel → Prop) : Prop :=
  ∀ env host, ok env → pre host.kernel →
    match x env host with
    | (.ok a, host') => post a host'.kernel
    | (.error _, host') => fail host'.kernel

/-- No kernel operation fails by the oracle. -/
def Reliable (env : Env) : Prop := ∀ n, env.fails n = none

section Spec

variable {α β : Type} {ok : Env → Prop} {pre : Kernel → Prop} {post : α → Kernel → Prop}
  {fail : Kernel → Prop}

theorem spec_pure (a : α) (holds : ∀ k, pre k → post a k) : Spec ok pre (pure a) post fail :=
  fun _ host _ before => holds host.kernel before

theorem spec_throw (e : String) (holds : ∀ k, pre k → fail k) :
    Spec ok pre (throw e : NetM α) post fail :=
  fun _ host _ before => holds host.kernel before

theorem spec_bind {x : NetM α} {f : α → NetM β} {mid : α → Kernel → Prop}
    {post' : β → Kernel → Prop} (first : Spec ok pre x mid fail)
    (next : ∀ a, Spec ok (mid a) (f a) post' fail) : Spec ok pre (x >>= f) post' fail := by
  intro env host good before
  have after := first env host good before
  simp only [NetM.bind_apply]
  rcases result : x env host with ⟨_ | a, host'⟩
  · rw [result] at after
    exact after
  · rw [result] at after
    exact next a env host' good after

theorem spec_wrap {x : NetM α} (context : String) (inner : Spec ok pre x post fail) :
    Spec ok pre (wrap context x) post fail := by
  intro env host good before
  have after := inner env host good before
  simp only [wrap_apply]
  split <;> split at after <;> simp_all

theorem spec_ite {c : Prop} [Decidable c] {x y : NetM α} (yes : c → Spec ok pre x post fail)
    (no : ¬ c → Spec ok pre y post fail) : Spec ok pre (if c then x else y) post fail := by
  split_ifs with holds
  · exact yes holds
  · exact no holds

/-- A loop meets its specification when every round takes the invariant of the rounds
left to that of the rounds after it. -/
theorem spec_forM {f : α → NetM PUnit} (inv : List α → Kernel → Prop)
    (step : ∀ a rest, Spec ok (inv (a :: rest)) (f a) (fun _ => inv rest) fail) :
    ∀ l, Spec ok (inv l) (l.forM f) (fun _ => inv []) fail
  | [] => spec_pure _ fun _ holds => holds
  | a :: rest => spec_bind (step a rest) fun _ => spec_forM inv step rest

theorem Spec.mono {x : NetM α} {pre' : Kernel → Prop} {post' : α → Kernel → Prop}
    {fail' : Kernel → Prop} (spec : Spec ok pre x post fail) (stronger : ∀ k, pre' k → pre k)
    (weaker : ∀ a k, post a k → post' a k) (weakerFail : ∀ k, fail k → fail' k) :
    Spec ok pre' x post' fail' := by
  intro env host good before
  have after := spec env host good (stronger _ before)
  split <;> split at after <;> simp_all

theorem Spec.and {x : NetM α} {post' : α → Kernel → Prop} {fail' : Kernel → Prop}
    (first : Spec ok pre x post fail) (second : Spec ok pre x post' fail') :
    Spec ok pre x (fun a k => post a k ∧ post' a k) (fun k => fail k ∧ fail' k) := by
  intro env host good before
  have one := first env host good before
  have two := second env host good before
  split <;> split at one <;> split at two <;> simp_all

/-- A property a computation leaves on success and on failure alike holds after every run. -/
theorem Spec.holds {x : NetM α} {P : Kernel → Prop} (spec : Spec ok pre x (fun _ => P) P)
    {env : Env} {host : Host} (good : ok env) (before : pre host.kernel) :
    P (x env host).2.kernel := by
  have after := spec env host good before
  split at after <;> simp_all

/-- A computation that keeps `R` keeps every set of kernels `R` leads into. -/
theorem spec_of_keeps {x : NetM α} {R : Kernel → Kernel → Prop} (kept : Keeps R x)
    {target : Kernel → Prop} (into : ∀ k k', pre k → R k k' → target k') :
    Spec ok pre x (fun _ => target) target := by
  intro env host _ before
  have := into _ _ before (kept env host)
  split <;> simp_all

theorem spec_kernelOp {run : ListingForm → Kernel → Except String α × Kernel}
    (fault : ∀ k, pre k → fail k)
    (effect : ∀ env, ok env → ∀ k, pre k →
      match run env.listing k with
      | (.ok a, k') => post a k'
      | (.error _, k') => fail k') : Spec ok pre (kernelOp run) post fail := by
  intro env host good before
  unfold kernelOp
  cases env.fails host.clock with
  | some e => exact fault _ before
  | none =>
      have := effect env good _ before
      rcases result : run env.listing host.kernel with ⟨_ | a, k'⟩ <;> rw [result] at this <;>
        exact this

theorem spec_kernelOp_reliable {run : ListingForm → Kernel → Except String α × Kernel}
    (reliable : ∀ env, ok env → Reliable env)
    (effect : ∀ env, ok env → ∀ k, pre k →
      match run env.listing k with
      | (.ok a, k') => post a k'
      | (.error _, k') => fail k') : Spec ok pre (kernelOp run) post fail := by
  intro env host good before
  unfold kernelOp
  rw [reliable env good host.clock]
  have := effect env good _ before
  rcases result : run env.listing host.kernel with ⟨_ | a, k'⟩ <;> rw [result] at this <;>
    exact this

end Spec

end Hybridnet
