import Hybridnet.Route.Vxlan

/-!
# Routes the daemon adds through a gateway

`AddRoute` adds a universe-scope route to a prefix via a gateway on a device, after a
link-scope route to the gateway alone when no route of the device in the main table holds
the gateway. It asks the kernel for new routes (`RouteAdd`), which the kernel refuses for a
destination the main table already routes: so `AddRoute` never replaces a route, and it
changes nothing but the main table, on every run, failed or not.

The route loop of `ConfigureIface` runs `AddRoute` for each route of a CNI result and skips
that refusal, as its comment says, assuming the first route to a destination wins. It does:
no route the table held is replaced, and when the loop returns in an environment without
faults every destination of the result is routed.

`CheckDefaultRouteExist` finds a default route in either form the library lists it, and
`CheckPodRuleExist` answers as `checkIfRuleExist` of the route manager does without a table.
-/

namespace Hybridnet

/-! ## What adding routes changes -/

/-- `k'` is `k` with routes added to `table`: no route of `table` is replaced or removed,
and nothing else changes. -/
structure AddsRoutes (table : Int) (k k' : Kernel) : Prop where
  touches : TouchesOnly table k k'
  keeps : ∀ r ∈ k.routes table, r ∈ k'.routes table

namespace AddsRoutes

variable {table : Int}

theorem refl (table : Int) (k : Kernel) : AddsRoutes table k k :=
  ⟨TouchesOnly.refl table k, fun _ => id⟩

theorem trans (k₁ k₂ k₃ : Kernel) (first : AddsRoutes table k₁ k₂)
    (second : AddsRoutes table k₂ k₃) : AddsRoutes table k₁ k₃ :=
  ⟨TouchesOnly.trans k₁ k₂ k₃ first.touches second.touches,
    fun r member => second.keeps r (first.keeps r member)⟩

/-- Filing a route under a destination the table does not route adds it. -/
theorem replaceRoute {k : Kernel} {route : Route}
    (fresh : (k.routes table).any (fun r => r.key = route.key) = false) :
    AddsRoutes table k (k.replaceRoute table route) :=
  ⟨TouchesOnly.replaceRoute k route, fun r member =>
    Kernel.mem_replaceRoute_routes_self.2 (.inr ⟨member, fun same =>
      absurd (List.any_eq_true.2 ⟨r, member, decide_eq_true same⟩) (by rw [fresh]; simp)⟩)⟩

end AddsRoutes

/-- `RouteAdd` on a table it does not refuse files the route there. -/
theorem routeAdd_apply (table : Int) (route : Route) (env : Env) (host : Host) :
    routeAdd table route env host =
      match env.fails host.clock with
      | some e => (.error e, ⟨host.kernel, host.clock + 1⟩)
      | none =>
          if (host.kernel.routes table).any (fun r => r.key = route.key) then
            (.error "file exists", ⟨host.kernel, host.clock + 1⟩)
          else (.ok (), ⟨host.kernel.replaceRoute table route, host.clock + 1⟩) := by
  unfold routeAdd kernelOp
  cases env.fails host.clock with
  | some e => rfl
  | none => dsimp only; split_ifs <;> rfl

theorem keeps_routeAdd (table : Int) (route : Route) :
    Keeps (AddsRoutes table) (routeAdd table route) :=
  keeps_kernelOp (AddsRoutes.refl table) fun _ k => by
    split_ifs with taken
    · exact AddsRoutes.refl table k
    · exact AddsRoutes.replaceRoute (Bool.eq_false_iff.2 taken)

section RouteAdd

variable {ok : Env → Prop} {table : Int} {route : Route}

/-- A property that adding routes keeps holds after `RouteAdd`, and on success the route is
filed. -/
theorem spec_routeAdd {P : Kernel → Prop} (stable : ∀ k k', P k → AddsRoutes table k k' → P k') :
    Spec ok P (routeAdd table route) (fun _ k => P k ∧ route.stored ∈ k.routes table) P :=
  spec_kernelOp (fun _ => id) fun _ _ k holds => by
    split_ifs with taken
    · exact holds
    · exact ⟨stable _ _ holds (AddsRoutes.replaceRoute (Bool.eq_false_iff.2 taken)),
        Kernel.mem_replaceRoute_routes_self.2 (.inl rfl)⟩

end RouteAdd

/-! ## `AddRoute` -/

/-- The link-scope route of `AddRoute` to `gw` alone on `dev`, under the mask of its family. -/
def gwDirectRoute (family : Family) (gw : Int) (dev : Link) : Route :=
  { dst := some ⟨gw, family.bits⟩, linkIndex := dev.index, scope := .link }

/-- The universe-scope route of `AddRoute` to `ipn` via `gw` on `dev`. -/
def gatewayRoute (ipn : IPNet) (gw : Int) (dev : Link) : Route :=
  { dst := some ipn, linkIndex := dev.index, gw := some gw }

/-- `AddRoute(ipn, gw, dev)`: a universe-scope route to `ipn` via `gw` on `dev`, after a
link-scope route to `gw` alone when no route of `dev` in the main table holds `gw`.
`family` is that of `gw`: `gw.To4() == nil` picks IPv6 and a 128-bit mask. -/
def addRoute (family : Family) (ipn : IPNet) (gw : Int) (dev : Link) : NetM Unit := do
  let routeList ← wrap ("failed to list route on dev " ++ dev.name ++ ": ")
    (routeListFiltered mainTable fun route => route.linkIndex = dev.index)
  (if !routeList.any (fun route => route.dst.any fun dst => dst.contains family gw) then
    wrap ("failed to add direct route for gw ip " ++ toString gw ++ ": ")
      (routeAdd mainTable (gwDirectRoute family gw dev))
  else pure ())
  routeAdd mainTable (gatewayRoute ipn gw dev)

/-- The kernel reaches `gw` directly on `dev`: a route of `dev` in the main table holds it. -/
def ReachesOnLink (family : Family) (gw : Int) (dev : Link) (k : Kernel) : Prop :=
  ∃ r ∈ k.routes mainTable, r.linkIndex = dev.index ∧ r.key.contains family gw = true

theorem ReachesOnLink.of_addsRoutes {family : Family} {gw : Int} {dev : Link} {k k' : Kernel}
    (reaches : ReachesOnLink family gw dev k) (adds : AddsRoutes mainTable k k') :
    ReachesOnLink family gw dev k' :=
  let ⟨r, member, onDev, holds⟩ := reaches
  ⟨r, adds.keeps r member, onDev, holds⟩

@[simp] theorem linkIndex_listed (form : ListingForm) (route : Route) :
    (route.listed form).linkIndex = route.linkIndex := by
  unfold Route.listed
  split_ifs <;> rfl

/-- A prefix of full length holds its own address. -/
@[simp] theorem contains_self_bits (family : Family) (ip : Int) :
    (⟨ip, family.bits⟩ : IPNet).contains family ip = true := by
  simp [IPNet.contains]

/-- A listed destination is the key of the stored route it stands for. -/
theorem key_of_listed_dst {form : ListingForm} {route : Route} {dst : IPNet}
    (listed : (route.listed form).dst = some dst) : route.key = dst := by
  rw [← Route.key_listed form route, Route.key, listed, Option.getD_some]

theorem keeps_addRoute (family : Family) (ipn : IPNet) (gw : Int) (dev : Link) :
    Keeps (AddsRoutes mainTable) (addRoute family ipn gw dev) :=
  keeps_bind (AddsRoutes.trans)
    (keeps_wrap _ ((keeps_routeListFiltered _ _).mono fun k _ same => same ▸ AddsRoutes.refl _ k))
    fun _ => keeps_bind AddsRoutes.trans
      (keeps_ite (keeps_wrap _ (keeps_routeAdd _ _)) (keeps_pure (AddsRoutes.refl _) _))
      fun _ => keeps_routeAdd _ _

/-- The listing of `dev`'s routes finds a route holding `gw` only when the kernel reaches
`gw` on `dev`. -/
theorem reachesOnLink_of_listed {family : Family} {gw : Int} {dev : Link} {k : Kernel}
    {form : ListingForm}
    (found : (((k.routes mainTable).map (Route.listed form)).filter
      (fun route => route.linkIndex = dev.index)).any
        (fun route => route.dst.any fun dst => dst.contains family gw) = true) :
    ReachesOnLink family gw dev k := by
  obtain ⟨listed, member, holds⟩ := List.any_eq_true.1 found
  obtain ⟨member, onDev⟩ := List.mem_filter.1 member
  obtain ⟨r, stored, rfl⟩ := List.mem_map.1 member
  cases hasDst : (r.listed form).dst with
  | none =>
      rw [hasDst, Option.any_none] at holds
      cases holds
  | some dst =>
      rw [hasDst, Option.any_some] at holds
      exact ⟨r, stored, by simpa using onDev, by rw [key_of_listed_dst hasDst]; exact holds⟩

/-- On every run `AddRoute` adds routes to the main table alone; when it returns, the main
table holds its route via `gw` and a route of `dev` that holds `gw`. -/
theorem spec_addRoute (family : Family) (ipn : IPNet) (gw : Int) (dev : Link) (k₀ : Kernel) :
    Spec (fun _ => True) (· = k₀) (addRoute family ipn gw dev)
      (fun _ k => AddsRoutes mainTable k₀ k ∧ ReachesOnLink family gw dev k ∧
        (gatewayRoute ipn gw dev).stored ∈ k.routes mainTable)
      (AddsRoutes mainTable k₀) := by
  have listing : Spec (fun _ => True) (· = k₀)
      (routeListFiltered mainTable fun route => route.linkIndex = dev.index)
      (fun routeList k => k = k₀ ∧ ∃ form : ListingForm, routeList =
        ((k₀.routes mainTable).map (Route.listed form)).filter
          fun route => route.linkIndex = dev.index)
      (AddsRoutes mainTable k₀) :=
    spec_kernelOp (fun _ same => same ▸ AddsRoutes.refl _ _) fun env _ _ same =>
      ⟨same, env.listing, by rw [same]⟩
  refine spec_bind (spec_wrap _ listing) fun routeList => spec_bind
    (spec_ite (fun _ => spec_wrap _ ((spec_routeAdd fun _ _ => AddsRoutes.trans _ _ _).mono
      (fun _ ⟨same, _⟩ => same ▸ AddsRoutes.refl _ _) (fun _ _ ⟨adds, filed⟩ =>
        ⟨adds, (gwDirectRoute family gw dev).stored, filed, rfl, contains_self_bits family gw⟩)
        fun _ => id))
      fun found => spec_pure _ fun _ ⟨same, form, listed⟩ => ⟨same ▸ AddsRoutes.refl _ _,
        same ▸ @reachesOnLink_of_listed family gw dev k₀ form (by rw [← listed]; simpa using found)⟩ :
      Spec _ _ _ (fun _ k => AddsRoutes mainTable k₀ k ∧ ReachesOnLink family gw dev k) _)
    fun _ => ?_
  exact (spec_routeAdd fun _ _ ⟨adds, reaches⟩ adds' =>
    ⟨adds.trans _ _ _ adds', reaches.of_addsRoutes adds'⟩).mono (fun _ => id)
      (fun _ _ ⟨⟨adds, reaches⟩, filed⟩ => ⟨adds, reaches, filed⟩) fun _ held => held.1

/-- `os.IsExist(err)`: the error is the kernel's `EEXIST` itself, not a message wrapping it. -/
def isExist (err : String) : Bool := err == "file exists"

theorem NetM.tryCatch_apply {α : Type} (x : NetM α) (handle : String → NetM α) (env : Env)
    (host : Host) :
    (tryCatch x handle : NetM α) env host =
      match x env host with
      | (.error e, host') => handle e env host'
      | (.ok a, host') => (.ok a, host') := by
  show (match x env host with | (.error e, host') => handle e env host' | result => result) = _
  rcases x env host with ⟨_ | _, _⟩ <;> rfl

theorem NetM.bind_eq_error {α β : Type} {x : NetM α} {f : α → NetM β} {env : Env} {host h' : Host}
    {e : String} (failed : (x >>= f) env host = (.error e, h')) :
    x env host = (.error e, h') ∨ ∃ a h₁, x env host = (.ok a, h₁) ∧ f a env h₁ = (.error e, h') := by
  rw [NetM.bind_apply] at failed
  rcases run : x env host with ⟨_ | a, h₁⟩ <;> rw [run] at failed <;> dsimp only at failed
  · obtain ⟨same, rfl⟩ := Prod.mk.inj failed
    cases same
    exact .inl rfl
  · exact .inr ⟨a, h₁, rfl, failed⟩

theorem wrap_eq_error {α : Type} {context e : String} {x : NetM α} {env : Env} {host h' : Host}
    (failed : wrap context x env host = (.error e, h')) : ∃ e', e = context ++ e' := by
  rw [wrap_apply] at failed
  rcases run : x env host with ⟨_ | _, _⟩ <;> rw [run] at failed <;> dsimp only at failed
  · obtain ⟨same, -⟩ := Prod.mk.inj failed
    cases same
    exact ⟨_, rfl⟩
  · cases failed

/-- A text shorter than a context is no message after that context. -/
theorem ne_append_of_length_lt {s context e : String} (shorter : s.length < context.length) :
    s ≠ context ++ e := fun same => by
  have := congrArg String.length same
  rw [String.length_append] at this
  omega

/-- Without faults, `AddRoute` fails with the kernel's own `EEXIST` only when the main table
already routes `ipn`: the refusals of the listing and of the gateway's route come wrapped. -/
theorem addRoute_refused {family : Family} {ipn : IPNet} {gw : Int} {dev : Link} {env : Env}
    {host h' : Host} (reliable : Reliable env)
    (refused : addRoute family ipn gw dev env host = (.error "file exists", h')) :
    ∃ r ∈ h'.kernel.routes mainTable, r.key = ipn := by
  rcases NetM.bind_eq_error refused with listing | ⟨_, _, -, rest⟩
  · obtain ⟨_, same⟩ := wrap_eq_error listing
    have : "file exists".length < "failed to list route on dev ".length := by decide
    exact absurd same (ne_append_of_length_lt (by simp only [String.length_append]; omega))
  rcases NetM.bind_eq_error rest with direct | ⟨_, h₂, -, final⟩
  · split_ifs at direct
    · obtain ⟨_, same⟩ := wrap_eq_error direct
      have : "file exists".length < "failed to add direct route for gw ip ".length := by decide
      exact absurd same (ne_append_of_length_lt (by simp only [String.length_append]; omega))
    · cases direct
  · rw [routeAdd_apply, reliable] at final
    dsimp only at final
    split_ifs at final with taken
    · obtain ⟨r, member, same⟩ := List.any_eq_true.1 taken
      cases final
      exact ⟨r, member, of_decide_eq_true same⟩
    · cases final

/-! ## The route loop of `ConfigureIface` -/

/-- A route of a CNI result, `types.Route`, with the gateway `ConfigureIface` resolved for it:
its own, or the gateway of the first address of its family. `family` is the gateway's. -/
structure GatewayRoute where
  dst : IPNet
  gw : Int
  family : Family
  deriving DecidableEq, Repr

/-- One round of the route loop of `ConfigureIface(ifName, res)`: `AddRoute` on the link of
`ifName`, skipping the error `os.IsExist` recognises. -/
def configureIfaceRoute (ifName : String) (link : Link) (r : GatewayRoute) : NetM Unit :=
  tryCatch (addRoute r.family r.dst r.gw link) fun err =>
    if isExist err then pure ()
    else throw ("failed to add route '" ++ toString r.dst ++ " via " ++ toString r.gw ++
      " dev " ++ ifName ++ "': " ++ err)

/-- The route loop of `ConfigureIface(ifName, res)` over the routes of the result. -/
def configureIfaceRoutes (ifName : String) (link : Link) (routes : List GatewayRoute) :
    NetM Unit :=
  routes.forM (configureIfaceRoute ifName link)

/-- The main table routes the destination `ipn`. -/
def Routes (ipn : IPNet) (k : Kernel) : Prop := ∃ r ∈ k.routes mainTable, r.key = ipn

theorem keeps_configureIfaceRoute (ifName : String) (link : Link) (r : GatewayRoute) :
    Keeps (AddsRoutes mainTable) (configureIfaceRoute ifName link r) := fun env host => by
  have adds := keeps_addRoute r.family r.dst r.gw link env host
  rw [configureIfaceRoute, NetM.tryCatch_apply]
  rcases run : addRoute r.family r.dst r.gw link env host with ⟨_ | _, host'⟩ <;>
    rw [run] at adds
  · dsimp only
    split_ifs <;> exact adds
  · exact adds

/-- Without faults, a round that returns leaves the route's destination routed. -/
theorem spec_configureIfaceRoute (ifName : String) (link : Link) (r : GatewayRoute)
    {P : Kernel → Prop} (stable : ∀ k k', P k → AddsRoutes mainTable k k' → P k') :
    Spec Reliable P (configureIfaceRoute ifName link r) (fun _ k => P k ∧ Routes r.dst k) P := by
  intro env host reliable before
  have adds := keeps_addRoute r.family r.dst r.gw link env host
  have spec := spec_addRoute r.family r.dst r.gw link host.kernel env host trivial rfl
  rw [configureIfaceRoute, NetM.tryCatch_apply]
  rcases run : addRoute r.family r.dst r.gw link env host with ⟨e | _, host'⟩ <;>
    rw [run] at adds spec
  · dsimp only
    split_ifs with skipped
    · have refusal : e = "file exists" := by simpa [isExist] using skipped
      exact ⟨stable _ _ before adds, addRoute_refused reliable (refusal ▸ run)⟩
    · exact stable _ _ before adds
  · exact ⟨stable _ _ before adds, _, spec.2.2, rfl⟩

/-- The loop of `ConfigureIface` never replaces a route, on every run: the first route to a
destination wins, the kernel's own or an earlier one of the result. Without faults, when the
loop returns every destination of the result is routed. -/
theorem configureIfaceRoutes_keeps_first_routes (ifName : String) (link : Link)
    (routes : List GatewayRoute) (env : Env) (host : Host) :
    AddsRoutes mainTable host.kernel (configureIfaceRoutes ifName link routes env host).2.kernel ∧
      (Reliable env → (configureIfaceRoutes ifName link routes env host).1 = .ok () →
        ∀ r ∈ routes, Routes r.dst (configureIfaceRoutes ifName link routes env host).2.kernel) := by
  refine ⟨keeps_forM (AddsRoutes.refl _) AddsRoutes.trans
    (fun r _ => keeps_configureIfaceRoute ifName link r) env host, fun reliable returned => ?_⟩
  let inv : List GatewayRoute → Kernel → Prop := fun rest k =>
    ∀ r ∈ routes, Routes r.dst k ∨ r ∈ rest
  have stable : ∀ rest k k', inv rest k → AddsRoutes mainTable k k' → inv rest k' :=
    fun _ _ _ routed adds r member => (routed r member).imp_left fun ⟨route, held, same⟩ =>
      ⟨route, adds.keeps _ held, same⟩
  have loop : Spec Reliable (inv routes) (configureIfaceRoutes ifName link routes)
      (fun _ => inv []) (fun _ => True) :=
    spec_forM inv (fun a rest =>
      (@spec_configureIfaceRoute ifName link a (inv (a :: rest)) (stable _)).mono (fun _ => id)
        (fun _ _ ⟨routed, routedA⟩ r member => (routed r member).elim .inl fun pending =>
          (List.mem_cons.1 pending).elim (fun same => .inl (same ▸ routedA)) .inr)
        fun _ _ => trivial) routes
  exact fun r member => ((loop.returned reliable (fun r member => .inr member) returned) r
    member).resolve_right (List.not_mem_nil r)

/-! ## The checks of `network.go` -/

/-- Listed in either form, a stored route is a default route when it is filed under the zero
prefix. -/
theorem isDefaultRoute_listed {route : Route} (filed : route.stored = route) (form : ListingForm)
    (family : Family) :
    isDefaultRoute (route.listed form) family = decide (route.key = zeroPrefix) := by
  have dst : route.dst = some route.key := (congrArg Route.dst filed).symm
  unfold Route.listed
  split_ifs with default
  · simp [isDefaultRoute, Route.key, default.2]
  · simp [isDefaultRoute, dst]

/-- `CheckDefaultRouteExist(table, family)`: whether the table lists a default route. The
listing's error gives way to a message that drops it. -/
def checkDefaultRouteExist (table : Int) (family : Family) : NetM Bool := do
  let routeList ← tryCatch (routeListFiltered table fun _ => true) fun _ =>
    throw ("failed to list route for table " ++ toString table)
  pure (routeList.any fun route => isDefaultRoute route family)

/-- `CheckDefaultRouteExist` answers whether the table has a route filed under the zero prefix,
whichever form the library lists it in, and changes nothing; it fails only by a fault of the
listing, with a message naming the table alone. -/
theorem checkDefaultRouteExist_apply (table : Int) (family : Family) (env : Env) (host : Host) :
    checkDefaultRouteExist table family env host =
      ((match env.fails host.clock with
        | some _ => .error ("failed to list route for table " ++ toString table)
        | none => .ok ((host.kernel.routes table).any fun r => r.key = zeroPrefix)),
        ⟨host.kernel, host.clock + 1⟩) := by
  simp only [checkDefaultRouteExist, NetM.bind_apply, NetM.tryCatch_apply, routeListFiltered,
    kernelOp]
  cases env.fails host.clock with
  | some _ => rfl
  | none =>
      simp only [List.filter_true, List.any_map, NetM.pure_apply, Prod.mk.injEq, and_true,
        Except.ok.injEq]
      refine Bool.eq_iff_iff.2 ?_
      simp only [List.any_eq_true, Function.comp_apply]
      exact exists_congr fun r => and_congr_right fun member => by
        rw [isDefaultRoute_listed (host.kernel.filed table r member)]

/-- `CheckPodRuleExist(podCidr, family)`: whether a listed rule comes from `podCidr`, and the
table of the first. -/
def checkPodRuleExist (podCidr : IPNet) (_ : Family) : NetM (Bool × Int) := do
  let ruleList ← wrap "failed to list rule: " ruleList
  match ruleList.find? fun rule => rule.src = some podCidr with
  | some rule => pure (true, rule.table)
  | none => pure (false, 0)

/-- `CheckPodRuleExist` leaves the host as `checkIfRuleExist` without a table does, and returns
exactly when it does, with whether it found a rule and that rule's table. -/
theorem checkPodRuleExist_agrees (podCidr : IPNet) (family : Family) (env : Env) (host : Host) :
    (checkPodRuleExist podCidr family env host).2 = (checkIfRuleExist podCidr (-1) env host).2 ∧
      ∀ answer, (checkPodRuleExist podCidr family env host).1 = .ok answer ↔
        ∃ existRule, (checkIfRuleExist podCidr (-1) env host).1 = .ok existRule ∧
          answer = (existRule.isSome, (existRule.map Rule.table).getD 0) := by
  simp only [checkPodRuleExist, checkIfRuleExist, NetM.bind_apply, wrap_apply, ruleList,
    kernelOp]
  cases env.fails host.clock with
  | some _ =>
      exact ⟨rfl, fun _ => ⟨fun failed => (nomatch failed), fun ⟨_, failed, _⟩ => (nomatch failed)⟩⟩
  | none =>
      dsimp only
      rw [show ruleMatches podCidr (-1) = _ from funext (ruleMatches_neg_one podCidr)]
      generalize host.kernel.rules.find? (fun rule => decide (rule.src = some podCidr)) = found
      cases found <;> exact ⟨rfl, fun _ => ⟨fun same => ⟨_, rfl, (Except.ok.inj same).symm⟩,
        fun ⟨_, same, answer⟩ => by cases same; rw [answer]; rfl⟩⟩

/-! ## Interface names -/

/-- `GenerateVlanNetIfName(parentName, vlanID)`: the parent itself for id `0`, and the parent,
a dot and the id otherwise; a nil id and one above `4096` are refused. -/
def generateVlanNetIfName (parentName : String) (vlanID : Option Int) : Except String String :=
  match vlanID with
  | none => .error "vlan id should not be nil"
  | some id =>
      if id > 4096 then .error "vlan id's value range is from 0 to 4094"
      else if id = 0 then .ok parentName
      else .ok (parentName ++ "." ++ toString id)

/-- `maxVxlanID` of `GenerateVxlanNetIfName`. -/
def maxVxlanID : Int := 2 ^ 24 - 1

/-- `GenerateVxlanNetIfName(parentName, vlanID)`: the parent, `constants.VxlanLinkInfix` and the
id; a nil or zero id and one above `maxVxlanID` are refused. -/
def generateVxlanNetIfName (vxlanLinkInfix parentName : String) (vlanID : Option Int) :
    Except String String :=
  match vlanID with
  | none => .error "vxlan id should not be nil or zero"
  | some id =>
      if id = 0 then .error "vxlan id should not be nil or zero"
      else if id > maxVxlanID then .error ("vxlan id's value range is from 1 to " ++ toString maxVxlanID)
      else .ok (parentName ++ vxlanLinkInfix ++ toString id)

/-- `GenerateVlanNetIfName` refuses a nil id and the ids above `4096` alone: it accepts `4095`,
`4096` and every negative id, which its message puts outside the range from `0` to `4094`, and it
names the parent itself for `0` alone. `GenerateVxlanNetIfName` refuses a nil id, `0` and the ids
above `maxVxlanID` alone, so it accepts every negative id as well. -/
theorem generateNetIfName_accepts (vxlanLinkInfix parentName : String) (vlanID : Option Int) :
    ((∃ name, generateVlanNetIfName parentName vlanID = .ok name) ↔
        ∃ id, vlanID = some id ∧ id ≤ 4096) ∧
      (generateVlanNetIfName parentName vlanID = .ok parentName ↔ vlanID = some 0) ∧
      ((∃ name, generateVxlanNetIfName vxlanLinkInfix parentName vlanID = .ok name) ↔
        ∃ id, vlanID = some id ∧ id ≠ 0 ∧ id ≤ maxVxlanID) := by
  cases vlanID with
  | none => simp [generateVlanNetIfName, generateVxlanNetIfName]
  | some id =>
      have longer : parentName ++ "." ++ toString id ≠ parentName := fun same => by
        have := congrArg String.length same
        simp only [String.length_append] at this
        have : ".".length = 1 := rfl
        omega
      by_cases zero : id = 0
      · subst zero
        simp [generateVlanNetIfName, generateVxlanNetIfName]
      · simp only [generateVlanNetIfName, generateVxlanNetIfName, gt_iff_lt, zero, if_false,
          Option.some.injEq, exists_eq_left', ne_eq, not_false_eq_true, true_and, iff_false]
        refine ⟨?_, ?_, ?_⟩ <;> split_ifs <;> simp_all

end Hybridnet
