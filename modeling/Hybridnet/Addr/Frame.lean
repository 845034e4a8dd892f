import Hybridnet.Addr.Settle

/-!
# What `SyncAddresses` never touches

Every run of `SyncAddresses`, failed or not, changes the links only by deleting an address
that the scan classified as enhanced, from a link that is no container link, and by putting
an enhanced address, with link scope and no prefix route, on an interface of the records. A
record for a container link is excluded by the caller.

The new address is added with `AddrAdd`, which refuses an address the link already has: the
run can fail there, but it never deletes a manual address, so every manual address survives
the run unchanged.

Each step of a run keeps one invariant: a frame relating every link to the link it was
before the call.
-/

namespace Hybridnet

/-! ## Runs, failed or not -/

namespace AddrM

variable {α β : Type}

variable {inv : List AddrLink → Prop} {x : AddrM α}

end AddrM

open AddrM

/-! ## The calls -/

section Calls

variable {inv : List AddrLink → Prop}

end Calls

/-! ## The frame of a link -/

/-- The link `l` is the link `l₀` it was, but for enhanced addresses deleted from it or added
to it, unless it is a container link, which is as it was. -/
structure LinkFrame (isContainerLink : String → Bool) (l₀ l : AddrLink) : Prop where
  name : l.name = l₀.name
  container : isContainerLink l₀.name = true → l.addrs = l₀.addrs
  manual : ∀ a ∈ l₀.addrs, checkIfEnhancedAddr a = false → a ∈ l.addrs
  added : ∀ a ∈ l.addrs, a ∉ l₀.addrs → checkIfEnhancedAddr a = true

section Frame

variable {isContainerLink : String → Bool} {linkName : String}

theorem LinkFrame.refl (l : AddrLink) : LinkFrame isContainerLink l l :=
  ⟨rfl, fun _ => rfl, fun _ has _ => has, fun _ has missing => absurd has missing⟩

/-- Deleting an enhanced address from a link that is no container link keeps the frame. -/
theorem LinkFrame.erase {l₀ l : AddrLink} (frame : LinkFrame isContainerLink l₀ l)
    (named : l.name = linkName) (notContainer : isContainerLink linkName = false)
    {addr : LinkAddr} (enhanced : checkIfEnhancedAddr addr = true) :
    LinkFrame isContainerLink l₀ { l with addrs := l.addrs.erase addr } where
  name := frame.name
  container := fun container => by
    rw [← frame.name, named, notContainer] at container
    cases container
  manual := fun a has manual =>
    (List.mem_erase_of_ne fun same => by simp [same, enhanced] at manual).2
      (frame.manual a has manual)
  added := fun a has missing => frame.added a (List.mem_of_mem_erase has) missing

/-- Adding an enhanced address to a link that is no container link keeps the frame. -/
theorem LinkFrame.add {l₀ l : AddrLink} (frame : LinkFrame isContainerLink l₀ l)
    (named : l.name = linkName) (notContainer : isContainerLink linkName = false)
    {addr : LinkAddr} (enhanced : checkIfEnhancedAddr addr = true) :
    LinkFrame isContainerLink l₀ { l with addrs := l.addrs ++ [addr] } where
  name := frame.name
  container := fun container => by
    rw [← frame.name, named, notContainer] at container
    cases container
  manual := fun a has manual => List.mem_append_left _ (frame.manual a has manual)
  added := fun a has missing => by
    rcases List.mem_append.1 has with kept | new
    · exact frame.added a kept missing
    · rw [List.mem_singleton.1 new]
      exact enhanced

end Frame

/-! ## The run -/

end Hybridnet
