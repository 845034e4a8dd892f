import Hybridnet.Calculator.Split

/-!
# The blocks of a range are its maximal CIDR blocks

The walk of `splitIPRangeToIPBlocks` returns, in ascending order, exactly the
inclusion-maximal CIDR blocks inside the range. The argument runs along the walk:
the walk only resumes at a point that no block inside the range straddles, and the
largest block starting at such a point is maximal. Maximal blocks of a range are
pairwise disjoint, so every list of networks covering the range has one of its
networks inside each of them, and none is shorter.
-/

namespace Hybridnet

variable {family : Family}

/-- `n` is an inclusion-maximal CIDR block of the family inside `[s, e]`. -/
def IsMaximalBlock (family : Family) (s e : Int) (n : IPNet) : Prop :=
  n.IsBlock family ∧ s ≤ n.ip ∧ n.lastIP family ≤ e ∧
    ∀ n' : IPNet, n'.IsBlock family → s ≤ n'.ip → n'.lastIP family ≤ e →
      (∀ a, n.contains family a → n'.contains family a) → n' = n

/-- `n` is an inclusion-maximal CIDR block of the family among the blocks whose
addresses all satisfy `U`. -/
def IsMaximalBlockOf (family : Family) (U : Int → Prop) (n : IPNet) : Prop :=
  n.IsBlock family ∧ (∀ a, n.contains family a → U a) ∧
    ∀ n' : IPNet, n'.IsBlock family → (∀ a, n'.contains family a → U a) →
      (∀ a, n.contains family a → n'.contains family a) → n' = n

/-- No block inside `[s, e]` holds `x` without starting at it. -/
def LeftClosed (family : Family) (s e x : Int) : Prop :=
  ∀ n : IPNet, n.IsBlock family → s ≤ n.ip → n.lastIP family ≤ e →
    n.contains family x → n.ip = x

namespace IPNet

variable {n n' : IPNet} {a : Int}

theorem contains_iff_of_isBlock (block : n.IsBlock family) :
    n.contains family a ↔ n.ip ≤ a ∧ a ≤ n.lastIP family :=
  contains_iff_of_aligned block.2.2

theorem ip_le_lastIP (block : n.IsBlock family) : n.ip ≤ n.lastIP family := by
  have : (0 : Int) < 2 ^ n.hostBits family := pow_hostBits_pos
  rw [lastIP_of_aligned block.2.2]
  omega

@[simp] theorem contains_ip : n.contains family n.ip := by simp [contains]

/-- A block starts and ends inside `[s, e]` exactly when all its addresses lie there. -/
theorem within_iff_of_isBlock {s e : Int} (block : n.IsBlock family) :
    (s ≤ n.ip ∧ n.lastIP family ≤ e) ↔ ∀ a, n.contains family a → s ≤ a ∧ a ≤ e := by
  have := ip_le_lastIP block
  simp only [contains_iff_of_isBlock block]
  exact ⟨fun within a inside => by omega,
    fun all => ⟨(all _ ⟨le_rfl, this⟩).1, (all _ ⟨this, le_rfl⟩).2⟩⟩

/-- Blocks with the same address and the same number of host bits are equal. -/
theorem eq_of_hostBits_eq (block : n.IsBlock family) (block' : n'.IsBlock family)
    (sameIP : n'.ip = n.ip) (same : n'.hostBits family = n.hostBits family) : n' = n := by
  obtain ⟨ip, ones⟩ := n
  obtain ⟨ip', ones'⟩ := n'
  have : ones ≤ family.bits := block.1
  have : ones' ≤ family.bits := block'.1
  simp only [hostBits, IPNet.mk.injEq] at sameIP same ⊢
  exact ⟨sameIP, by omega⟩

/-- Two blocks with a common address: one lies in the other. -/
theorem subset_or_subset (block : n.IsBlock family) (block' : n'.IsBlock family)
    (common : n.contains family a) (common' : n'.contains family a) :
    (∀ b, n.contains family b → n'.contains family b) ∨
      (∀ b, n'.contains family b → n.contains family b) := by
  rcases le_total (n.hostBits family) (n'.hostBits family) with fewer | fewer
  · obtain ⟨low, high⟩ := nested_of_hostBits_le block.2.2 block'.2.2 fewer common common'
    refine .inl fun b inside => ?_
    rw [contains_iff_of_isBlock block] at inside
    rw [contains_iff_of_isBlock block']
    omega
  · obtain ⟨low, high⟩ := nested_of_hostBits_le block'.2.2 block.2.2 fewer common' common
    refine .inr fun b inside => ?_
    rw [contains_iff_of_isBlock block'] at inside
    rw [contains_iff_of_isBlock block]
    omega

end IPNet

/-- The maximal blocks of `[s, e]` are the maximal blocks of its addresses. -/
theorem isMaximalBlock_iff {s e : Int} {n : IPNet} :
    IsMaximalBlock family s e n ↔ IsMaximalBlockOf family (fun a => s ≤ a ∧ a ≤ e) n := by
  constructor
  · rintro ⟨block, low, high, maximal⟩
    refine ⟨block, (IPNet.within_iff_of_isBlock block).1 ⟨low, high⟩,
      fun n' block' inside sub => ?_⟩
    obtain ⟨low', high'⟩ := (IPNet.within_iff_of_isBlock block').2 inside
    exact maximal n' block' low' high' sub
  · rintro ⟨block, inside, maximal⟩
    obtain ⟨low, high⟩ := (IPNet.within_iff_of_isBlock block).2 inside
    exact ⟨block, low, high, fun n' block' low' high' sub =>
      maximal n' block' ((IPNet.within_iff_of_isBlock block').1 ⟨low', high'⟩) sub⟩

/-- Two maximal blocks of a set with a common address are the same block. -/
theorem IsMaximalBlockOf.eq_of_common {U : Int → Prop} {a : Int} {n n' : IPNet}
    (maximal : IsMaximalBlockOf family U n) (maximal' : IsMaximalBlockOf family U n')
    (common : n.contains family a) (common' : n'.contains family a) : n = n' := by
  rcases IPNet.subset_or_subset maximal.1 maximal'.1 common common' with inside | inside
  · exact (maximal.2.2 n' maximal'.1 maximal'.2.1 inside).symm
  · exact maximal'.2.2 n maximal.1 maximal.2.1 inside

theorem lastIP_of_fits {x e : Int} {k : Nat} (kLe : k ≤ family.bits) (fits : Fits x e k) :
    (IPNet.mk x (family.bits - k)).lastIP family = x + 2 ^ k - 1 := by
  have size : (IPNet.mk x (family.bits - k)).hostBits family = k := Nat.sub_sub_self kLe
  rw [IPNet.lastIP_of_aligned (by rw [size]; exact fits.1), size]

/-- A block at `x` that ends by `e` is a fitting block of its size. -/
theorem fits_of_isBlock {n : IPNet} {x e : Int} (block : n.IsBlock family) (atStart : n.ip = x)
    (within : n.lastIP family ≤ e) : Fits x e (n.hostBits family) :=
  ⟨atStart ▸ block.2.2, by rw [← atStart, ← IPNet.lastIP_of_aligned block.2.2]; exact within⟩

/-- For addresses `start ≤ end` of the family, `calculateIPLastZeroBits` is the number of
trailing zero bits of `start`, all of them for the zero address, and
`findTheFirstLargestCidr` returns the largest CIDR block at `start` inside `[start, end]`,
with no next address exactly when the block ends at `end`, and the address after the block
otherwise. -/
theorem findTheFirstLargestCidr_largest_block (family : Family) {start «end» : Int}
    (validStart : family.Valid start) (ordered : start ≤ «end») :
    (∀ zeroBits, calculateIPLastZeroBits family start = zeroBits →
      zeroBits ≤ family.bits ∧ start % 2 ^ zeroBits = 0 ∧
        (zeroBits < family.bits → start % 2 ^ (zeroBits + 1) ≠ 0) ∧
        (zeroBits = family.bits ↔ start = 0)) ∧
    ∀ block next, findTheFirstLargestCidr family start «end» = (block, next) →
      block.IsBlock family ∧ block.ip = start ∧ block.lastIP family ≤ «end» ∧
        (∀ n : IPNet, n.IsBlock family → n.ip = start → n.lastIP family ≤ «end» →
          block.ones ≤ n.ones) ∧
        (next = none ↔ block.lastIP family = «end») ∧
        ∀ after, next = some after → after = block.lastIP family + 1 := by
  constructor
  · rintro _ rfl
    obtain ⟨atMost, aligned, largest⟩ := calculateIPLastZeroBits_spec family start
    refine ⟨atMost, aligned, fun short => largest _ (by omega) short, ⟨fun all => ?_, ?_⟩⟩
    · have below : start < 2 ^ calculateIPLastZeroBits family start := all ▸ validStart.2
      rw [Int.emod_eq_of_lt validStart.1 below] at aligned
      exact aligned
    · rintro rfl
      by_contra short
      exact largest _ (Nat.lt_succ_self _) (by omega) (Int.zero_emod _)
  · intro block next found
    obtain ⟨k, kLe, fits, largest, result⟩ := findTheFirstLargestCidr_spec family ordered
    rw [found, greedyResult, Prod.mk.injEq] at result
    obtain ⟨rfl, rfl⟩ := result
    have last := lastIP_of_fits kLe fits
    have size : (IPNet.mk start (family.bits - k)).hostBits family = k := Nat.sub_sub_self kLe
    refine ⟨⟨Nat.sub_le _ _, validStart, by rw [size]; exact fits.1⟩, rfl, last ▸ fits.2,
      fun n block atStart within => ?_, ?_, fun after next => ?_⟩
    · have := largest _ (Nat.sub_le _ _) (fits_of_isBlock block atStart within)
      simp only [IPNet.hostBits] at this
      show family.bits - k ≤ n.ones
      omega
    · rw [last]
      split_ifs with ends <;> simp [ends]
    · rw [last]
      split_ifs at next
      cases next
      omega

theorem findTheFirstLargestCidr_largest_block_ten_twenty :
    Family.v4.Valid 10 ∧ (10 : Int) ≤ 20 ∧
      ∀ n : IPNet, n.IsBlock .v4 → n.ip = 10 → n.lastIP .v4 ≤ 20 →
        (findTheFirstLargestCidr .v4 10 20).1.ones ≤ n.ones :=
  ⟨by decide, by decide,
    ((findTheFirstLargestCidr_largest_block .v4 (by decide) (by decide)).2 _ _ rfl).2.2.2.1⟩

/-- The largest block at a point that no block inside the range straddles is a
maximal block of the range. -/
theorem isMaximalBlock_of_largest {s e x : Int} {k : Nat} (validStart : family.Valid s)
    (validEnd : family.Valid e) (low : s ≤ x) (closed : LeftClosed family s e x)
    (kLe : k ≤ family.bits) (fits : Fits x e k)
    (largest : ∀ j, j ≤ family.bits → Fits x e j → j ≤ k) :
    IsMaximalBlock family s e ⟨x, family.bits - k⟩ := by
  have size : (IPNet.mk x (family.bits - k)).hostBits family = k := Nat.sub_sub_self kLe
  have positive : (0 : Int) < 2 ^ k := by positivity
  have aligned : x % 2 ^ (IPNet.mk x (family.bits - k)).hostBits family = 0 := by
    rw [size]; exact fits.1
  have last := lastIP_of_fits kLe fits
  have block : (IPNet.mk x (family.bits - k)).IsBlock family :=
    ⟨Nat.sub_le _ _, ⟨by linarith [validStart.1], by linarith [validEnd.2, fits.2]⟩, aligned⟩
  have holds : ∀ a, x ≤ a → a ≤ x + 2 ^ k - 1 → (IPNet.mk x (family.bits - k)).contains family a :=
    fun a lower upper => (IPNet.contains_iff_of_isBlock block).2 ⟨lower, last ▸ upper⟩
  refine ⟨block, low, last ▸ fits.2, fun n' block' low' high' inside => ?_⟩
  have start : n'.ip = x :=
    closed n' block' low' high' (inside x (holds x le_rfl (by omega)))
  have atMost : n'.hostBits family ≤ k :=
    largest _ (Nat.sub_le _ _) (fits_of_isBlock block' start high')
  have reach := inside _ (holds (x + 2 ^ k - 1) (by omega) le_rfl)
  rw [IPNet.contains_iff_of_isBlock block', IPNet.lastIP_of_aligned block'.2.2, start] at reach
  have powers : (2 : Int) ^ k ≤ 2 ^ n'.hostBits family := by omega
  have atLeast : k ≤ n'.hostBits family :=
    (pow_le_pow_iff_right₀ (by norm_num : (1 : Int) < 2)).1 powers
  have same : n'.hostBits family = (IPNet.mk x (family.bits - k)).hostBits family := by
    rw [size]
    omega
  exact IPNet.eq_of_hostBits_eq block block' start same

/-- The walk resumes after a maximal block at a point no block straddles. -/
theorem leftClosed_after {s e : Int} {g : IPNet} (maximal : IsMaximalBlock family s e g) :
    LeftClosed family s e (g.lastIP family + 1) := by
  intro n block low high contained
  have gBlock := maximal.1
  rw [IPNet.contains_iff_of_isBlock block] at contained
  by_contra moved
  have common : n.contains family (g.lastIP family) :=
    (IPNet.contains_iff_of_isBlock block).2 ⟨by omega, by omega⟩
  have common' : g.contains family (g.lastIP family) :=
    (IPNet.contains_iff_of_isBlock gBlock).2 ⟨IPNet.ip_le_lastIP gBlock, le_rfl⟩
  rcases IPNet.subset_or_subset block gBlock common common' with inside | inside
  · have := (IPNet.contains_iff_of_isBlock gBlock).1
      (inside _ ((IPNet.contains_iff_of_isBlock block).2 ⟨by omega, contained.2⟩))
    omega
  · have := maximal.2.2.2 n block low high inside
    subst this
    omega

namespace splitIPRangeToIPBlocks

theorem loop_of_none {e x : Int} {inRange : x ≤ e} {newBlock : IPNet}
    (found : findTheFirstLargestCidr family x e = (newBlock, none)) :
    loop family e x inRange = [newBlock] := by
  rw [loop]
  split <;> simp_all

theorem loop_of_some {e x next : Int} {inRange : x ≤ e} {newBlock : IPNet}
    (found : findTheFirstLargestCidr family x e = (newBlock, some next)) :
    loop family e x inRange =
      newBlock :: loop family e next (findTheFirstLargestCidr_next found inRange).2 := by
  rw [loop]
  split
  · simp_all
  · rename_i heq
    rw [found, Prod.mk.injEq, Option.some.injEq] at heq
    obtain ⟨rfl, rfl⟩ := heq
    rfl

/-- What a round of the walk that ends it returns. -/
theorem found_none {e x : Int} {newBlock : IPNet} (inRange : x ≤ e)
    (found : findTheFirstLargestCidr family x e = (newBlock, none)) :
    ∃ k, k ≤ family.bits ∧ Fits x e k ∧ (∀ j, j ≤ family.bits → Fits x e j → j ≤ k) ∧
      newBlock = ⟨x, family.bits - k⟩ ∧ x + 2 ^ k - 1 = e := by
  obtain ⟨k, kLe, fits, largest, result⟩ := findTheFirstLargestCidr_spec family inRange
  rw [found, greedyResult] at result
  split_ifs at result with ends
  · simp only [Prod.mk.injEq, and_true] at result
    exact ⟨k, kLe, fits, largest, result, ends⟩
  · simp at result

/-- What a round of the walk that goes on returns. -/
theorem found_some {e x next : Int} {newBlock : IPNet} (inRange : x ≤ e)
    (found : findTheFirstLargestCidr family x e = (newBlock, some next)) :
    ∃ k, k ≤ family.bits ∧ Fits x e k ∧ (∀ j, j ≤ family.bits → Fits x e j → j ≤ k) ∧
      newBlock = ⟨x, family.bits - k⟩ ∧ next = x + 2 ^ k ∧ x + 2 ^ k ≤ e := by
  obtain ⟨k, kLe, fits, largest, result⟩ := findTheFirstLargestCidr_spec family inRange
  rw [found, greedyResult] at result
  split_ifs at result with ends
  · simp at result
  · simp only [Prod.mk.injEq, Option.some.injEq] at result
    exact ⟨k, kLe, fits, largest, result.1, result.2, by have := fits.2; omega⟩

theorem contains_of_fits {x e a : Int} {k : Nat} (kLe : k ≤ family.bits) (fits : Fits x e k) :
    (IPNet.mk x (family.bits - k)).contains family a ↔ x ≤ a ∧ a ≤ x + 2 ^ k - 1 := by
  have size : (IPNet.mk x (family.bits - k)).hostBits family = k := Nat.sub_sub_self kLe
  rw [IPNet.contains_iff_of_aligned (by rw [size]; exact fits.1), lastIP_of_fits kLe fits]

/-- The walk from `x` covers exactly the rest of the range, with aligned blocks at or
after `x`, each ending before the next starts. -/
theorem loop_cover {e : Int} (x : Int) (inRange : x ≤ e) :
    (∀ n ∈ loop family e x inRange, x ≤ n.ip ∧ n.ip % 2 ^ n.hostBits family = 0) ∧
      (∀ a, (∃ n ∈ loop family e x inRange, n.contains family a) ↔ x ≤ a ∧ a ≤ e) ∧
      (loop family e x inRange).Pairwise (fun n₁ n₂ => n₁.lastIP family < n₂.ip) := by
  induction x, inRange using loop.induct family e with
  | case1 x inRange newBlock found =>
      obtain ⟨k, kLe, fits, -, rfl, ends⟩ := found_none inRange found
      rw [loop_of_none found]
      refine ⟨?_, fun a => ?_, List.pairwise_singleton _ _⟩
      · simp only [List.mem_singleton, forall_eq, le_refl, true_and]
        rw [IPNet.hostBits, Nat.sub_sub_self kLe]
        exact fits.1
      · simp only [List.mem_singleton, exists_eq_left, contains_of_fits kLe fits]
        omega
  | case2 x inRange newBlock next found ih =>
      obtain ⟨k, kLe, fits, -, rfl, rfl, before⟩ := found_some inRange found
      obtain ⟨later, cover, ordered⟩ := ih
      have positive : (0 : Int) < 2 ^ k := by positivity
      rw [loop_of_some found]
      refine ⟨?_, fun a => ?_, ?_⟩
      · simp only [List.mem_cons, forall_eq_or_imp, le_refl, true_and]
        refine ⟨?_, fun n member => ⟨by linarith [(later n member).1], (later n member).2⟩⟩
        rw [IPNet.hostBits, Nat.sub_sub_self kLe]
        exact fits.1
      · simp only [List.mem_cons, exists_eq_or_imp, cover, contains_of_fits kLe fits]
        omega
      · refine List.Pairwise.cons (fun n member => ?_) ordered
        rw [lastIP_of_fits kLe fits]
        linarith [(later n member).1]

/-- From a point no block straddles, every block of the walk is a maximal block of the
range. -/
theorem loop_maximal {s e : Int} (validStart : family.Valid s) (validEnd : family.Valid e)
    (x : Int) (inRange : x ≤ e) (low : s ≤ x) (closed : LeftClosed family s e x) :
    ∀ n ∈ loop family e x inRange, IsMaximalBlock family s e n := by
  induction x, inRange using loop.induct family e with
  | case1 x inRange newBlock found =>
      obtain ⟨k, kLe, fits, largest, rfl, -⟩ := found_none inRange found
      rw [loop_of_none found]
      simpa using isMaximalBlock_of_largest validStart validEnd low closed kLe fits largest
  | case2 x inRange newBlock next found ih =>
      obtain ⟨k, kLe, fits, largest, rfl, rfl, -⟩ := found_some inRange found
      have maximal := isMaximalBlock_of_largest validStart validEnd low closed kLe fits largest
      have closedNext := leftClosed_after maximal
      rw [lastIP_of_fits kLe fits, sub_add_cancel] at closedNext
      have positive : (0 : Int) < 2 ^ k := by positivity
      rw [loop_of_some found]
      simp only [List.mem_cons, forall_eq_or_imp]
      exact ⟨maximal, ih (by omega) closedNext⟩

end splitIPRangeToIPBlocks

/-- The blocks of a range cover exactly the range. -/
theorem splitIPRangeToIPBlocks_cover (ir : IPRange) (a : Int) :
    (∃ n ∈ splitIPRangeToIPBlocks family ir, n.contains family a) ↔ ir.Mem a :=
  (splitIPRangeToIPBlocks.loop_cover ir.start ir.valid).2.1 a

/-- Each block of a range ends before the next starts. -/
theorem splitIPRangeToIPBlocks_ordered (ir : IPRange) :
    (splitIPRangeToIPBlocks family ir).Pairwise (fun n₁ n₂ => n₁.lastIP family < n₂.ip) :=
  (splitIPRangeToIPBlocks.loop_cover ir.start ir.valid).2.2

theorem leftClosed_start {s e : Int} : LeftClosed family s e s := by
  intro n block low high contained
  have := (IPNet.contains_iff_of_isBlock block).1 contained
  omega

/-- The walk returns every maximal block of the range and nothing else. -/
theorem mem_splitIPRangeToIPBlocks_iff {ir : IPRange} (validStart : family.Valid ir.start)
    (validEnd : family.Valid ir.end) (n : IPNet) :
    n ∈ splitIPRangeToIPBlocks family ir ↔ IsMaximalBlock family ir.start ir.end n := by
  have maximal := splitIPRangeToIPBlocks.loop_maximal validStart validEnd ir.start ir.valid le_rfl
    leftClosed_start
  refine ⟨maximal n, fun maximalN => ?_⟩
  obtain ⟨g, member, holds⟩ := (splitIPRangeToIPBlocks_cover ir n.ip).2
    ⟨maximalN.2.1, (IPNet.ip_le_lastIP maximalN.1).trans maximalN.2.2.1⟩
  rwa [(isMaximalBlock_iff.1 maximalN).eq_of_common (isMaximalBlock_iff.1 (maximal g member))
    IPNet.contains_ip holds]

/-- A single address is a block of its own. -/
theorem splitIPRangeToIPBlocks_single (ip : Int) :
    splitIPRangeToIPBlocks family (IPRange.single ip) = [⟨ip, family.bits⟩] := by
  obtain ⟨k, -, fits, -, found⟩ := findTheFirstLargestCidr_spec family (le_refl ip)
  have zero : k = 0 := by
    by_contra positive
    have : (2 : Int) ^ 1 ≤ 2 ^ k := pow_le_pow_right₀ (by norm_num) (by omega)
    have := fits.2
    omega
  subst zero
  exact splitIPRangeToIPBlocks.loop_of_none (by simpa [greedyResult] using found)

/-! ## Maximal blocks of a set of addresses -/

section Maximal

variable {U : Int → Prop}

/-- A network holding an address of a maximal block of `U`, and whose addresses of the
family all satisfy `U`, lies inside that block. -/
theorem contains_of_cover {m n : IPNet} (maximal : IsMaximalBlockOf family U m)
    (inside : ∀ a, family.Valid a → n.contains family a → U a)
    (holds : n.contains family m.ip) : ∀ a, n.contains family a → m.contains family a := by
  set k := n.hostBits family
  have kLe : k ≤ family.bits := Nat.sub_le _ _
  let b : IPNet := ⟨n.network family, family.bits - k⟩
  have size : b.hostBits family = k := Nat.sub_sub_self kLe
  have positive : (0 : Int) < 2 ^ k := by positivity
  have aligned : b.ip % 2 ^ b.hostBits family = 0 := by
    rw [size]; exact Int.mul_emod_left _ _
  have network : b.ip = n.ip / 2 ^ k * 2 ^ k := rfl
  have same : ∀ a, b.contains family a ↔ n.contains family a := fun a => by
    rw [IPNet.contains_iff, IPNet.contains_iff, size, network,
      Int.mul_ediv_cancel _ positive.ne']
  have mValid := maximal.1.2.1.1
  have mBelow := maximal.1.2.1.2
  have bounds := (IPNet.contains_iff_of_aligned aligned).1 ((same _).2 holds)
  rw [IPNet.lastIP_of_aligned aligned, size] at bounds
  have dvdB : (2 : Int) ^ k ∣ b.ip := Int.dvd_of_emod_eq_zero (size ▸ aligned)
  have nonneg : 0 ≤ b.ip := by
    by_contra negative
    have := add_le_of_lt_of_dvd positive dvdB (dvd_zero _) (by omega)
    omega
  have below : b.ip + 2 ^ k ≤ 2 ^ family.bits :=
    add_le_of_lt_of_dvd positive dvdB (pow_dvd_pow 2 kLe) (by omega)
  have block : b.IsBlock family := ⟨Nat.sub_le _ _, ⟨nonneg, by omega⟩, aligned⟩
  have within : ∀ a, b.contains family a → U a := fun a contained => by
    have range := (IPNet.contains_iff_of_aligned aligned).1 contained
    rw [IPNet.lastIP_of_aligned aligned, size] at range
    exact inside a ⟨by omega, by omega⟩ ((same a).1 contained)
  rcases IPNet.subset_or_subset block maximal.1 ((same _).2 holds) IPNet.contains_ip with sub | sub
  · exact fun a contained => sub a ((same a).2 contained)
  · have := maximal.2.2 b block within sub
    subst this
    exact fun a contained => (same a).2 contained

/-- No list of networks whose addresses of the family are exactly `U` is shorter than
a list of distinct maximal blocks of `U`: each block holds an address of its own
network of the list. -/
theorem length_le_of_covers {blocks : List IPNet}
    (maximal : ∀ m ∈ blocks, IsMaximalBlockOf family U m) (nodup : blocks.Nodup)
    (others : List IPNet)
    (covers : ∀ a, family.Valid a → ((∃ n ∈ others, n.contains family a) ↔ U a)) :
    blocks.length ≤ others.length := by
  let pick : IPNet → IPNet := fun m => (others.find? (fun n => n.contains family m.ip)).getD m
  have picked : ∀ m ∈ blocks, pick m ∈ others ∧ (pick m).contains family m.ip := by
    intro m member
    have maximalM := maximal m member
    obtain ⟨n, inOthers, holds⟩ :=
      (covers m.ip maximalM.1.2.1).2 (maximalM.2.1 _ IPNet.contains_ip)
    cases found : others.find? (fun n => n.contains family m.ip) with
    | none => exact absurd holds (List.find?_eq_none.1 found n inOthers)
    | some n' =>
        simp only [pick, found, Option.getD_some]
        exact ⟨List.mem_of_find?_eq_some found,
          @List.find?_some _ (fun n : IPNet => n.contains family m.ip) _ _ found⟩
  have injective : ∀ m ∈ blocks, ∀ m' ∈ blocks, pick m = pick m' → m = m' := by
    intro m member m' member' same
    have inside : ∀ a, family.Valid a → (pick m).contains family a → U a :=
      fun a valid holds => (covers a valid).1 ⟨pick m, (picked m member).1, holds⟩
    have holds' := (picked m' member').2
    rw [← same] at holds'
    exact (maximal m member).eq_of_common (maximal m' member')
      (contains_of_cover (maximal m member) inside (picked m member).2 _ holds')
      IPNet.contains_ip
  calc blocks.length = (blocks.map pick).length := (List.length_map _ _).symm
    _ ≤ others.length := ((nodup.map_on injective).subperm fun n member => by
          obtain ⟨m, mem, rfl⟩ := List.mem_map.1 member
          exact (picked m mem).1).length_le

end Maximal

/-- `splitIPRangeToIPBlocks` returns, in ascending order, exactly the inclusion-maximal
CIDR blocks inside the range: blocks of the family, pairwise disjoint, whose union is
the range, and no list of networks with that union is shorter. -/
theorem splitIPRangeToIPBlocks_maximal (family : Family) (ir : IPRange)
    (validStart : family.Valid ir.start) (validEnd : family.Valid ir.end) :
    (∀ n, n ∈ splitIPRangeToIPBlocks family ir ↔ IsMaximalBlock family ir.start ir.end n) ∧
      (splitIPRangeToIPBlocks family ir).Sorted (fun n₁ n₂ => n₁.ip < n₂.ip) ∧
      (∀ n ∈ splitIPRangeToIPBlocks family ir, n.IsBlock family) ∧
      (splitIPRangeToIPBlocks family ir).Pairwise
        (fun n₁ n₂ => ∀ a, ¬ (n₁.contains family a ∧ n₂.contains family a)) ∧
      (∀ a, (∃ n ∈ splitIPRangeToIPBlocks family ir, n.contains family a) ↔ ir.Mem a) ∧
      ∀ others : List IPNet,
        (∀ a, family.Valid a → ((∃ n ∈ others, n.contains family a) ↔ ir.Mem a)) →
        (splitIPRangeToIPBlocks family ir).length ≤ others.length := by
  have member := mem_splitIPRangeToIPBlocks_iff validStart validEnd
  have block : ∀ n ∈ splitIPRangeToIPBlocks family ir, n.IsBlock family :=
    fun n mem => ((member n).1 mem).1
  have sorted : (splitIPRangeToIPBlocks family ir).Sorted (fun n₁ n₂ => n₁.ip < n₂.ip) :=
    (splitIPRangeToIPBlocks_ordered ir).imp_of_mem fun {n₁ _} mem₁ _ before =>
      lt_of_le_of_lt (IPNet.ip_le_lastIP (block n₁ mem₁)) before
  refine ⟨member, sorted, block, ?_, splitIPRangeToIPBlocks_cover ir, fun others covers =>
    length_le_of_covers (fun m mem => isMaximalBlock_iff.1 ((member m).1 mem))
      (sorted.imp fun before => ne_of_apply_ne IPNet.ip before.ne) others covers⟩
  refine (splitIPRangeToIPBlocks_ordered ir).imp_of_mem fun {n₁ n₂} mem₁ mem₂ before a both => ?_
  rw [IPNet.contains_iff_of_isBlock (block n₁ mem₁), IPNet.contains_iff_of_isBlock (block n₂ mem₂)]
    at both
  omega

theorem splitIPRangeToIPBlocks_maximal_ten_twenty :
    Family.v4.Valid 10 ∧ Family.v4.Valid 20 ∧
      ∀ n, n ∈ splitIPRangeToIPBlocks .v4 ⟨10, 20, by decide⟩ ↔ IsMaximalBlock .v4 10 20 n :=
  ⟨by decide, by decide,
    (splitIPRangeToIPBlocks_maximal .v4 ⟨10, 20, by decide⟩ (by decide) (by decide)).1⟩

end Hybridnet
