import Hybridnet.Calculator.Range

/-!
# Splitting a range into CIDR blocks

`splitIPRangeToIPBlocks` walks a range from its start: `findTheFirstLargestCidr`
takes the largest block whose address is the current start and which ends inside
the range, and the walk resumes after that block. `calculateIPLastZeroBits` counts
the trailing zero bits of the start, which gives the first mask tried.

The three loops terminate by the code's own logic: the mask tests of the first two
hold once the mask covers the whole address, and each block of the third holds at
least one address of what remains of the range.
-/

namespace Hybridnet

theorem maskIP_eq_self_iff {bits ones : Nat} {ip : Int} :
    maskIP bits ones ip = ip ↔ ip % 2 ^ (bits - ones) = 0 := by
  unfold maskIP
  constructor
  · intro masked
    have := Int.emod_add_ediv' ip (2 ^ (bits - ones))
    omega
  · exact ediv_mul_eq_of_emod_eq_zero

/-- The loop of `calculateIPLastZeroBits`: the first `zeroBits` whose mask keeps all
of `ip`. -/
def calculateIPLastZeroBits.search (bits : Nat) (ip : Int) (zeroBits : Nat) : Nat :=
  if covers : maskIP bits zeroBits ip = ip then zeroBits
  else calculateIPLastZeroBits.search bits ip (zeroBits + 1)
termination_by bits - zeroBits
decreasing_by
  have : zeroBits < bits := by
    by_contra over
    exact covers (maskIP_eq_self_iff.2 (by simp [Nat.sub_eq_zero_of_le (not_lt.1 over)]))
  omega

/-- `calculateIPLastZeroBits(ip)`: the number of trailing zero bits of `ip`, all of
them for the zero address. -/
def calculateIPLastZeroBits (family : Family) (ip : Int) : Nat :=
  family.bits - calculateIPLastZeroBits.search family.bits ip 0

theorem calculateIPLastZeroBits.search_spec (bits : Nat) (ip : Int) (zeroBits : Nat) :
    zeroBits ≤ search bits ip zeroBits ∧ search bits ip zeroBits ≤ max zeroBits bits ∧
      ip % 2 ^ (bits - search bits ip zeroBits) = 0 ∧
      ∀ j, zeroBits ≤ j → j < search bits ip zeroBits → ip % 2 ^ (bits - j) ≠ 0 := by
  induction zeroBits using search.induct bits ip with
  | case1 zeroBits covers =>
      rw [search, dif_pos covers]
      exact ⟨le_rfl, le_max_left _ _, maskIP_eq_self_iff.1 covers, fun j low high => by omega⟩
  | case2 zeroBits covers ih =>
      rw [search, dif_neg covers]
      have short : zeroBits < bits := by
        by_contra over
        exact covers (maskIP_eq_self_iff.2 (by simp [Nat.sub_eq_zero_of_le (not_lt.1 over)]))
      obtain ⟨low, high, aligned, below⟩ := ih
      refine ⟨by omega, by omega, aligned, fun j lowJ highJ => ?_⟩
      rcases Nat.eq_or_lt_of_le lowJ with rfl | later
      · exact fun zero => covers (maskIP_eq_self_iff.2 zero)
      · exact below j later highJ

/-- `calculateIPLastZeroBits` is the largest `k` up to the address length with
`2 ^ k` dividing the address. -/
theorem calculateIPLastZeroBits_spec (family : Family) (ip : Int) :
    calculateIPLastZeroBits family ip ≤ family.bits ∧
      ip % 2 ^ calculateIPLastZeroBits family ip = 0 ∧
      ∀ j, calculateIPLastZeroBits family ip < j → j ≤ family.bits → ip % 2 ^ j ≠ 0 := by
  obtain ⟨-, high, aligned, below⟩ := calculateIPLastZeroBits.search_spec family.bits ip 0
  unfold calculateIPLastZeroBits
  refine ⟨Nat.sub_le _ _, aligned, fun j more atMost => ?_⟩
  have := below (family.bits - j) (Nat.zero_le _) (by omega)
  rwa [Nat.sub_sub_self atMost] at this

/-- The loop of `findTheFirstLargestCidr`: lengthen the mask while the block at
`start` still reaches past `end`. -/
def findTheFirstLargestCidr.grow (family : Family) (start «end» : Int)
    (maxValidCidrPrefixLen : Nat) : IPNet × Option Int :=
  let tmpCidr : IPNet := ⟨start, maxValidCidrPrefixLen⟩
  let tmpCidrEnd := tmpCidr.lastIP family
  if ends : tmpCidrEnd = «end» then (tmpCidr, none)
  else if reaches : tmpCidr.contains family «end» then
    findTheFirstLargestCidr.grow family start «end» (maxValidCidrPrefixLen + 1)
  else (tmpCidr, some (nextIP tmpCidrEnd))
termination_by family.bits - maxValidCidrPrefixLen
decreasing_by
  have : maxValidCidrPrefixLen < family.bits := by
    by_contra full
    exact ends (IPNet.lastIP_eq_of_contains_of_bits_le (not_lt.1 full) reaches)
  omega

/-- `findTheFirstLargestCidr(start, end)`: the largest block whose address is
`start` and which ends by `end`, with the address after it, or none when it ends at
`end`. -/
def findTheFirstLargestCidr (family : Family) (start «end» : Int) : IPNet × Option Int :=
  let zeroBits := calculateIPLastZeroBits family start
  let ipLen := family.bits
  let minCidrPrefixLen := ipLen - zeroBits
  let maxValidCidrPrefixLen := minCidrPrefixLen
  findTheFirstLargestCidr.grow family start «end» maxValidCidrPrefixLen

/-- A block of `2 ^ k` addresses at `start` that ends by `end`. -/
def Fits (start «end» : Int) (k : Nat) : Prop :=
  start % 2 ^ k = 0 ∧ start + 2 ^ k - 1 ≤ «end»

/-- What `findTheFirstLargestCidr` returns for the block of `2 ^ k` addresses at
`start`. -/
def greedyResult (family : Family) (start «end» : Int) (k : Nat) : IPNet × Option Int :=
  (⟨start, family.bits - k⟩,
    if start + 2 ^ k - 1 = «end» then none else some (start + 2 ^ k))

/-- One round of the loop of `findTheFirstLargestCidr`, for a start aligned to the
block tried. -/
theorem findTheFirstLargestCidr.grow_eq {family : Family} {start «end» : Int} {p : Nat}
    (aligned : start % 2 ^ (family.bits - p) = 0) :
    grow family start «end» p =
      if start + 2 ^ (family.bits - p) - 1 = «end» then (⟨start, p⟩, none)
      else if start ≤ «end» ∧ «end» ≤ start + 2 ^ (family.bits - p) - 1 then
        grow family start «end» (p + 1)
      else (⟨start, p⟩, some (start + 2 ^ (family.bits - p))) := by
  have last : (IPNet.mk start p).lastIP family = start + 2 ^ (family.bits - p) - 1 :=
    IPNet.lastIP_of_aligned aligned
  have reaches : (IPNet.mk start p).contains family «end» ↔
      start ≤ «end» ∧ «end» ≤ start + 2 ^ (family.bits - p) - 1 := by
    rw [IPNet.contains_iff_of_aligned aligned, last]
  rw [grow]
  simp only [last, reaches, nextIP, sub_add_cancel, dite_eq_ite]

theorem findTheFirstLargestCidr.grow_spec (family : Family) (start «end» : Int)
    (ordered : start ≤ «end») (p : Nat) (aligned : start % 2 ^ (family.bits - p) = 0) :
    ∃ q, p ≤ q ∧ start + 2 ^ (family.bits - q) - 1 ≤ «end» ∧
      (∀ q', p ≤ q' → q' < q → «end» < start + 2 ^ (family.bits - q') - 1) ∧
      grow family start «end» p = (⟨start, q⟩,
        if start + 2 ^ (family.bits - q) - 1 = «end» then none
        else some (start + 2 ^ (family.bits - q))) := by
  induction p using grow.induct family start «end» with
  | case1 p tmpCidr tmpCidrEnd ends =>
      have last : tmpCidrEnd = start + 2 ^ (family.bits - p) - 1 :=
        IPNet.lastIP_of_aligned aligned
      refine ⟨p, le_rfl, by omega, fun q' low high => by omega, ?_⟩
      rw [grow_eq aligned, if_pos (by omega), if_pos (by omega)]
  | case2 p tmpCidr tmpCidrEnd ends reaches ih =>
      have last : tmpCidrEnd = start + 2 ^ (family.bits - p) - 1 :=
        IPNet.lastIP_of_aligned aligned
      rw [IPNet.contains_iff_of_aligned aligned] at reaches
      obtain ⟨q, later, fits, tooBig, result⟩ :=
        ih (emod_pow_eq_zero_of_le (by omega) aligned)
      refine ⟨q, by omega, fits, fun q' low high => ?_, ?_⟩
      · rcases Nat.eq_or_lt_of_le low with rfl | more
        · exact lt_of_le_of_ne (last ▸ reaches.2) (last ▸ Ne.symm ends)
        · exact tooBig q' more high
      · rw [grow_eq aligned, if_neg (by omega), if_pos (by omega)]
        exact result
  | case3 p tmpCidr tmpCidrEnd ends reaches =>
      have last : tmpCidr.lastIP family = start + 2 ^ (family.bits - p) - 1 :=
        IPNet.lastIP_of_aligned aligned
      have ip : tmpCidr.ip = start := rfl
      rw [IPNet.contains_iff_of_aligned aligned, last, ip] at reaches
      refine ⟨p, le_rfl, by omega, fun q' low high => by omega, ?_⟩
      rw [grow_eq aligned, if_neg (by omega), if_neg (by omega), if_neg (by omega)]

/-- `findTheFirstLargestCidr` returns the largest block at `start` that ends by
`end`, with the address after it unless it ends at `end`. -/
theorem findTheFirstLargestCidr_spec (family : Family) {start «end» : Int}
    (ordered : start ≤ «end») :
    ∃ k, k ≤ family.bits ∧ Fits start «end» k ∧
      (∀ j, j ≤ family.bits → Fits start «end» j → j ≤ k) ∧
      findTheFirstLargestCidr family start «end» = greedyResult family start «end» k := by
  obtain ⟨zeroBitsLe, aligned, maximal⟩ := calculateIPLastZeroBits_spec family start
  set zeroBits := calculateIPLastZeroBits family start
  have alignedFirst : start % 2 ^ (family.bits - (family.bits - zeroBits)) = 0 := by
    rwa [Nat.sub_sub_self zeroBitsLe]
  obtain ⟨q, later, fits, tooBig, result⟩ :=
    findTheFirstLargestCidr.grow_spec family start «end» ordered _ alignedFirst
  have qLe : q ≤ family.bits := by
    by_contra over
    have := tooBig family.bits (by omega) (by omega)
    simp only [Nat.sub_self, pow_zero] at this
    omega
  refine ⟨family.bits - q, Nat.sub_le _ _,
    ⟨emod_pow_eq_zero_of_le (by omega) aligned, fits⟩, fun j jLe fitsJ => ?_, ?_⟩
  · by_contra more
    by_cases tried : family.bits - zeroBits ≤ family.bits - j
    · have := tooBig (family.bits - j) tried (by omega)
      rw [Nat.sub_sub_self jLe] at this
      exact absurd fitsJ.2 (not_le.2 this)
    · exact maximal j (by omega) jLe fitsJ.1
  · rw [findTheFirstLargestCidr, result, greedyResult, Nat.sub_sub_self qLe]

/-- The block `findTheFirstLargestCidr` returns is fixed by its size: any largest size that
fits gives it. -/
theorem findTheFirstLargestCidr_eq_greedyResult {family : Family} {start «end» : Int} {k : Nat}
    (kLe : k ≤ family.bits) (fits : Fits start «end» k)
    (largest : ∀ j, j ≤ family.bits → Fits start «end» j → j ≤ k) :
    findTheFirstLargestCidr family start «end» = greedyResult family start «end» k := by
  have : (0 : Int) < 2 ^ k := by positivity
  obtain ⟨k', k'Le, fits', largest', result⟩ :=
    findTheFirstLargestCidr_spec family (show start ≤ «end» by have := fits.2; omega)
  rw [result, le_antisymm (largest k' k'Le fits') (largest' k kLe fits)]

theorem findTheFirstLargestCidr_next {family : Family} {start «end» next : Int}
    {block : IPNet} (found : findTheFirstLargestCidr family start «end» = (block, some next))
    (ordered : start ≤ «end») : start < next ∧ next ≤ «end» := by
  obtain ⟨k, -, ⟨-, fits⟩, -, result⟩ := findTheFirstLargestCidr_spec family ordered
  rw [found, greedyResult] at result
  have positive : (0 : Int) < 2 ^ k := by positivity
  split_ifs at result with ends
  · simp at result
  · simp only [Prod.mk.injEq, Option.some.injEq] at result
    omega

/-- The loop of `splitIPRangeToIPBlocks`, from `nextRangeStart` on. -/
def splitIPRangeToIPBlocks.loop (family : Family) (rangeEnd nextRangeStart : Int)
    (inRange : nextRangeStart ≤ rangeEnd) : List IPNet :=
  match found : findTheFirstLargestCidr family nextRangeStart rangeEnd with
  | (newBlock, none) => [newBlock]
  | (newBlock, some next) =>
      newBlock :: splitIPRangeToIPBlocks.loop family rangeEnd next
        (findTheFirstLargestCidr_next found inRange).2
termination_by (rangeEnd + 1 - nextRangeStart).toNat
decreasing_by
  have := (findTheFirstLargestCidr_next found inRange).1
  omega

/-- `ir.splitIPRangeToIPBlocks()`: the blocks `findTheFirstLargestCidr` finds one
after another from the start of the range until one ends at its end. -/
def splitIPRangeToIPBlocks (family : Family) (ir : IPRange) : List IPNet :=
  splitIPRangeToIPBlocks.loop family ir.end ir.start ir.valid

end Hybridnet
