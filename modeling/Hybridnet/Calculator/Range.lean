import Hybridnet.Net.Address

/-!
# Address ranges

`IPRange` of `pkg/daemon/utils` is a closed interval of addresses. Its fields are
private to the package, and only `CreateIPRange` and `TryAddIP` build or change
one; both keep the start at or before the end, so that order is a field here.
`CreateIPRange` also fails on a nil address, which an `Int` never is.
-/

namespace Hybridnet

/-- An `IPRange`: the closed interval from `start` to `end`. -/
structure IPRange where
  start : Int
  «end» : Int
  valid : start ≤ «end»
  deriving DecidableEq, Repr

namespace IPRange

/-- The address lies in the range. -/
def Mem (ir : IPRange) (ip : Int) : Prop := ir.start ≤ ip ∧ ip ≤ ir.end

instance (ir : IPRange) (ip : Int) : Decidable (ir.Mem ip) :=
  inferInstanceAs (Decidable (_ ∧ _))

/-- The two ranges share no address. -/
def Disjoint (ir ir' : IPRange) : Prop := ∀ a, ¬ (ir.Mem a ∧ ir'.Mem a)

/-- At least one address lies between the two ranges: they neither share an address
nor touch. -/
def Separated (ir ir' : IPRange) : Prop := ir.end + 1 < ir'.start ∨ ir'.end + 1 < ir.start

theorem separated_symmetric : Symmetric Separated := fun _ _ apart => apart.symm

/-- The single-address range `[ip, ip]`. -/
def single (ip : Int) : IPRange := ⟨ip, ip, le_refl ip⟩

@[simp] theorem mem_single {ip a : Int} : (single ip).Mem a ↔ a = ip := by
  simp only [single, Mem]
  omega

/-- `ir.TryAddIP(ipAddr)`: extend the range by the address just before or just
after it, or accept an address already inside it. The range as changed is
returned on success. -/
def tryAddIP (ir : IPRange) (ipAddr : Int) : Option IPRange :=
  if before : ipAddr = prevIP ir.start then
    some ⟨ipAddr, ir.end, by have := ir.valid; simp only [prevIP] at before; omega⟩
  else if after : ipAddr = nextIP ir.end then
    some ⟨ir.start, ipAddr, by have := ir.valid; simp only [nextIP] at after; omega⟩
  else if ir.start ≤ ipAddr ∧ ipAddr ≤ ir.end then
    some ir
  else
    none

/-- A successful `TryAddIP` adds exactly the offered address. -/
theorem mem_of_tryAddIP {ir ir' : IPRange} {ipAddr : Int}
    (accepted : ir.tryAddIP ipAddr = some ir') (a : Int) :
    ir'.Mem a ↔ ir.Mem a ∨ a = ipAddr := by
  have := ir.valid
  unfold tryAddIP at accepted
  simp only [prevIP, nextIP] at accepted
  split_ifs at accepted with before after inside <;> cases accepted <;>
    simp only [Mem] <;> omega

end IPRange

/-- `CreateIPRange(start, end)`: no range when `start` comes after `end`. -/
def createIPRange (start «end» : Int) : Option IPRange :=
  if valid : start ≤ «end» then some ⟨start, «end», valid⟩ else none

/-- Some range of the list holds the address. -/
def Covers (ranges : List IPRange) (a : Int) : Prop := ∃ r ∈ ranges, r.Mem a

@[simp] theorem covers_nil {a : Int} : ¬ Covers [] a := by simp [Covers]

@[simp] theorem covers_cons {r : IPRange} {ranges : List IPRange} {a : Int} :
    Covers (r :: ranges) a ↔ r.Mem a ∨ Covers ranges a := by
  simp [Covers]

@[simp] theorem covers_append {ranges ranges' : List IPRange} {a : Int} :
    Covers (ranges ++ ranges') a ↔ Covers ranges a ∨ Covers ranges' a := by
  simp only [Covers, List.mem_append, or_and_right, exists_or]

/-- The addresses of the range `CreateIPRange` returns, if any. -/
@[simp] theorem covers_createIPRange {start «end» a : Int} :
    Covers (createIPRange start «end»).toList a ↔ start ≤ a ∧ a ≤ «end» := by
  unfold createIPRange
  split_ifs
  · simp [Covers, IPRange.Mem]
  · simp [Covers, IPRange.Mem]
    omega

/-- The range `CreateIPRange` returns, if any. -/
@[simp] theorem mem_createIPRange_toList {start «end» : Int} {r : IPRange} :
    r ∈ (createIPRange start «end»).toList ↔ r.start = start ∧ r.end = «end» := by
  obtain ⟨s, e, valid⟩ := r
  unfold createIPRange
  split_ifs <;> simp
  omega

end Hybridnet
