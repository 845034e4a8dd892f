import Hybridnet.Calculator.Blocks
import Hybridnet.Go.Except

/-!
# The exclusion blocks of a subnet

`FindSubnetExcludeIPBlocks` turns a subnet's included ranges and excluded addresses
into the CIDR blocks routed as exclusions. It sorts the included ranges by start,
checks that each lies between the subnet's address and its last address and ends
before the next starts, and collects the gaps around them. The excluded addresses
and then the gateway are folded into those gaps, each into the first range that
`TryAddIP` accepts, or as a range of its own; every resulting range is split into
blocks.
-/

namespace Hybridnet

/-- `sort.Slice(includedRanges, less)` with `less` comparing starts. -/
def sortByStart (includedRanges : List IPRange) : List IPRange :=
  includedRanges.mergeSort (fun a b => decide (a.start ≤ b.start))

/-- The range after `currentIPRange` in the sorted list, when it starts by the end of
`currentIPRange`. -/
def overlappingNext (currentIPRange : IPRange) : List IPRange → Option IPRange
  | next :: _ => if next.start ≤ currentIPRange.end then some next else none
  | [] => none

/-- The loop of `FindSubnetExcludeIPBlocks` over the sorted included ranges: the gap
before the first range, and the gap after each range up to the next or to `cidrEnd`.
`first` is `currentIPRangeIndex == 0`. -/
def excludeIPRangesOf (cidr : IPNet) (cidrStart cidrEnd : Int) :
    Bool → List IPRange → Except String (List IPRange)
  | _, [] => .ok []
  | first, currentIPRange :: rest =>
      if currentIPRange.start < cidrStart ∨ cidrEnd < currentIPRange.end then
        .error ("ip range " ++ toString currentIPRange.start ++ "~" ++
          toString currentIPRange.end ++ " is out of cidr " ++ toString cidr)
      else match overlappingNext currentIPRange rest with
      | some next =>
          .error ("ip range is overlapped for range " ++ toString currentIPRange.start ++ "~" ++
            toString currentIPRange.end ++ " and " ++ toString next.start ++ "~" ++
            toString next.end)
      | none =>
          let before :=
            if first then (createIPRange cidrStart (prevIP currentIPRange.start)).toList else []
          let nextRangeStartPrev :=
            match rest with
            | [] => cidrEnd
            | next :: _ => prevIP next.start
          let endNext := nextIP currentIPRange.end
          let after := (createIPRange endNext nextRangeStartPrev).toList
          (excludeIPRangesOf cidr cidrStart cidrEnd false rest).map (before ++ after ++ ·)

/-- The inner loop of `Loop2`: offer the address to the ranges in order; the first
whose `TryAddIP` succeeds is changed, and there is none when all refuse. -/
def tryAddToRanges (ipAddr : Int) : List IPRange → Option (List IPRange)
  | [] => none
  | ipRange :: rest =>
      match ipRange.tryAddIP ipAddr with
      | some extended => some (extended :: rest)
      | none => (tryAddToRanges ipAddr rest).map (ipRange :: ·)

/-- One round of `Loop2`: fold the address into a range, or append the range of the
address alone. -/
def addExcludedIP (excludeIPRanges : List IPRange) (ipAddr : Int) : List IPRange :=
  (tryAddToRanges ipAddr excludeIPRanges).getD (excludeIPRanges ++ [IPRange.single ipAddr])

/-- The first part of `FindSubnetExcludeIPBlocks`: the gaps around the sorted included
ranges, with `excludeIPs` and then the gateway folded in by `Loop2`. -/
def findSubnetExcludeIPRanges (family : Family) (cidr : IPNet) (includedRanges : List IPRange)
    (gateway : Option Int) (excludeIPs : List Int) : Except String (List IPRange) := do
  let cidrStart := cidr.ip
  let cidrEnd := cidr.lastIP family
  let excludeIPRanges ← excludeIPRangesOf cidr cidrStart cidrEnd true (sortByStart includedRanges)
  let allExcludedIPs := excludeIPs ++ gateway.toList
  pure (allExcludedIPs.foldl addExcludedIP excludeIPRanges)

/-- `FindSubnetExcludeIPBlocks(cidr, includedRanges, gateway, excludeIPs)`: every
exclusion range split into blocks. -/
def findSubnetExcludeIPBlocks (family : Family) (cidr : IPNet) (includedRanges : List IPRange)
    (gateway : Option Int) (excludeIPs : List Int) : Except String (List IPNet) := do
  let excludeIPRanges ← findSubnetExcludeIPRanges family cidr includedRanges gateway excludeIPs
  pure (excludeIPRanges.flatMap (splitIPRangeToIPBlocks family))

/-! ## When the calculator fails -/

theorem overlappingNext_eq_none_iff {currentIPRange : IPRange} {rest : List IPRange} :
    overlappingNext currentIPRange rest = none ↔
      ∀ next ∈ rest.head?, currentIPRange.end < next.start := by
  cases rest with
  | nil => simp [overlappingNext]
  | cons next rest =>
      simp only [overlappingNext, List.head?_cons, Option.mem_def, Option.some.injEq,
        forall_eq']
      split_ifs <;> simp <;> omega

/-- The loop over the included ranges fails exactly when a range leaves
`[cidrStart, cidrEnd]` or does not end before the next one starts. -/
theorem excludeIPRangesOf_ok_iff (cidr : IPNet) (cidrStart cidrEnd : Int) (first : Bool)
    (includedRanges : List IPRange) :
    (∃ ranges, excludeIPRangesOf cidr cidrStart cidrEnd first includedRanges = .ok ranges) ↔
      (∀ r ∈ includedRanges, cidrStart ≤ r.start ∧ r.end ≤ cidrEnd) ∧
        includedRanges.Chain' (fun r r' => r.end < r'.start) := by
  induction includedRanges generalizing first with
  | nil => simp [excludeIPRangesOf]
  | cons current rest ih =>
      rw [List.chain'_cons', List.forall_mem_cons]
      simp only [excludeIPRangesOf]
      by_cases out : current.start < cidrStart ∨ cidrEnd < current.end
      · rw [if_pos out]
        constructor
        · rintro ⟨_, ⟨⟩⟩
        · rintro ⟨⟨⟨low, high⟩, -⟩, -⟩
          omega
      · rw [if_neg out]
        cases overlap : overlappingNext current rest with
        | some next =>
            constructor
            · rintro ⟨_, ⟨⟩⟩
            · rintro ⟨-, chained, -⟩
              simp [overlappingNext_eq_none_iff.2 chained] at overlap
        | none =>
            rw [overlappingNext_eq_none_iff] at overlap
            have inCidr : cidrStart ≤ current.start ∧ current.end ≤ cidrEnd := by omega
            simp only [exists_ok_map, ih, inCidr, true_and]
            exact ⟨fun ⟨inside, chain⟩ => ⟨inside, overlap, chain⟩,
              fun ⟨inside, _, chain⟩ => ⟨inside, chain⟩⟩

/-! ## What the calculator returns -/

theorem pairwise_of_chain' {l : List IPRange} (chain : l.Chain' (fun r r' => r.end < r'.start)) :
    l.Pairwise (fun r r' => r.end < r'.start) := by
  induction l with
  | nil => exact List.Pairwise.nil
  | cons r rest ih =>
      rw [List.chain'_cons'] at chain
      refine List.Pairwise.cons (fun r' member => ?_) (ih chain.2)
      cases rest with
      | nil => simp at member
      | cons head tail =>
          have first := chain.1 head rfl
          rcases List.mem_cons.1 member with rfl | later
          · exact first
          · have := List.rel_of_pairwise_cons (ih chain.2) later
            have := head.valid
            omega

/-- The gaps of the loop over the included ranges cover, from `cidrStart` (or from
after the current range when it is not the first) to `cidrEnd`, exactly the
addresses that no included range holds. -/
theorem excludeIPRangesOf_cover {cidr : IPNet} {cidrStart cidrEnd : Int} {first : Bool}
    {current : IPRange} {rest ranges : List IPRange}
    (found : excludeIPRangesOf cidr cidrStart cidrEnd first (current :: rest) = .ok ranges)
    (a : Int) :
    Covers ranges a ↔
      (if first then cidrStart ≤ a else current.end < a) ∧ a ≤ cidrEnd ∧
        ¬ Covers (current :: rest) a := by
  obtain ⟨inCidr, chain⟩ :=
    (excludeIPRangesOf_ok_iff cidr cidrStart cidrEnd first _).1 ⟨_, found⟩
  have valid := current.valid
  have currentIn := inCidr current (List.mem_cons_self _ _)
  induction rest generalizing current first ranges with
  | nil =>
      simp only [excludeIPRangesOf, overlappingNext] at found
      rw [if_neg (by omega)] at found
      simp only [Except.map, Except.ok.injEq, List.append_nil] at found
      subst found
      cases first <;> simp [IPRange.Mem, prevIP, nextIP] <;> omega
  | cons next rest ih =>
      have ordered := pairwise_of_chain' chain
      have nextValid := next.valid
      have nextIn := inCidr next (by simp)
      have beforeNext := List.rel_of_pairwise_cons ordered (List.mem_cons_self _ _)
      have later : ∀ r ∈ next :: rest, next.start ≤ r.start := by
        intro r member
        rcases List.mem_cons.1 member with rfl | member
        · exact le_rfl
        · have := List.rel_of_pairwise_cons (List.Pairwise.of_cons ordered) member
          omega
      have startOf : Covers (next :: rest) a → next.start ≤ a := by
        rintro ⟨r, member, low, -⟩
        linarith [later r member]
      simp only [excludeIPRangesOf, overlappingNext] at found
      rw [if_neg (by omega), if_neg (by omega)] at found
      obtain ⟨tail, recursive, rfl⟩ := ok_of_map_eq_ok found
      have tailCover := ih recursive (fun r member => inCidr r (List.mem_cons_of_mem _ member))
        (List.chain'_cons'.1 chain).2 nextValid nextIn
      simp only [if_false, Bool.false_eq_true] at tailCover
      by_cases covered : Covers (next :: rest) a
      · have := startOf covered
        cases first <;> simp [tailCover, covered, IPRange.Mem, prevIP, nextIP] <;> omega
      · have notNext : ¬ next.Mem a := fun inside => covered (covers_cons.2 (.inl inside))
        simp only [IPRange.Mem] at notNext
        cases first <;> simp [tailCover, covered, IPRange.Mem, prevIP, nextIP] <;> omega

theorem tryAddToRanges_cover {ipAddr : Int} {ranges ranges' : List IPRange}
    (added : tryAddToRanges ipAddr ranges = some ranges') (a : Int) :
    Covers ranges' a ↔ Covers ranges a ∨ a = ipAddr := by
  induction ranges generalizing ranges' with
  | nil => simp [tryAddToRanges] at added
  | cons ipRange rest ih =>
      simp only [tryAddToRanges] at added
      cases accepted : ipRange.tryAddIP ipAddr with
      | some extended =>
          rw [accepted, Option.some.injEq] at added
          subst added
          simp only [covers_cons, IPRange.mem_of_tryAddIP accepted, or_comm, or_left_comm]
      | none =>
          rw [accepted] at added
          obtain ⟨rest', recursive, rfl⟩ := Option.map_eq_some'.1 added
          simp only [covers_cons, ih recursive, or_assoc]

/-- A round of `Loop2` adds exactly its address to what the ranges cover. -/
theorem addExcludedIP_cover (excludeIPRanges : List IPRange) (ipAddr a : Int) :
    Covers (addExcludedIP excludeIPRanges ipAddr) a ↔ Covers excludeIPRanges a ∨ a = ipAddr := by
  unfold addExcludedIP
  cases added : tryAddToRanges ipAddr excludeIPRanges with
  | some ranges' => exact tryAddToRanges_cover added a
  | none => simp

theorem foldl_addExcludedIP_cover (ips : List Int) (excludeIPRanges : List IPRange) (a : Int) :
    Covers (ips.foldl addExcludedIP excludeIPRanges) a ↔ Covers excludeIPRanges a ∨ a ∈ ips := by
  induction ips generalizing excludeIPRanges with
  | nil => simp
  | cons ip ips ih =>
      simp only [List.foldl_cons, ih, addExcludedIP_cover, List.mem_cons, or_assoc]

theorem flatMap_splitIPRangeToIPBlocks_cover (family : Family) (ranges : List IPRange) (a : Int) :
    (∃ n ∈ ranges.flatMap (splitIPRangeToIPBlocks family), n.contains family a) ↔
      Covers ranges a := by
  simp only [List.mem_flatMap, Covers]
  constructor
  · rintro ⟨n, ⟨r, member, inSplit⟩, holds⟩
    exact ⟨r, member, (splitIPRangeToIPBlocks_cover r a).1 ⟨n, inSplit, holds⟩⟩
  · rintro ⟨r, member, inside⟩
    obtain ⟨n, inSplit, holds⟩ := (splitIPRangeToIPBlocks_cover r a).2 inside
    exact ⟨n, ⟨r, member, inSplit⟩, holds⟩

/-- A successful run of the calculator: the exclusion ranges split into blocks. -/
theorem findSubnetExcludeIPBlocks_eq_ok {family : Family} {cidr : IPNet}
    {includedRanges : List IPRange} {gateway : Option Int} {excludeIPs : List Int}
    {blocks : List IPNet}
    (found : findSubnetExcludeIPBlocks family cidr includedRanges gateway excludeIPs = .ok blocks) :
    ∃ excludeIPRanges,
      findSubnetExcludeIPRanges family cidr includedRanges gateway excludeIPs =
        .ok excludeIPRanges ∧
      blocks = excludeIPRanges.flatMap (splitIPRangeToIPBlocks family) := by
  obtain ⟨excludeIPRanges, ok, result⟩ := ok_of_bind_eq_ok found
  exact ⟨excludeIPRanges, ok, (Except.ok.inj result).symm⟩

/-- The exclusion ranges: the gaps around the sorted included ranges, with the excluded
addresses and the gateway folded in. -/
theorem findSubnetExcludeIPRanges_eq_ok {family : Family} {cidr : IPNet}
    {includedRanges : List IPRange} {gateway : Option Int} {excludeIPs : List Int}
    {excludeIPRanges : List IPRange}
    (found : findSubnetExcludeIPRanges family cidr includedRanges gateway excludeIPs =
      .ok excludeIPRanges) :
    ∃ gaps, excludeIPRangesOf cidr cidr.ip (cidr.lastIP family) true
        (sortByStart includedRanges) = .ok gaps ∧
      excludeIPRanges = (excludeIPs ++ gateway.toList).foldl addExcludedIP gaps := by
  obtain ⟨gaps, ok, result⟩ := ok_of_bind_eq_ok found
  exact ⟨gaps, ok, (Except.ok.inj result).symm⟩

theorem sortByStart_perm (includedRanges : List IPRange) :
    (sortByStart includedRanges).Perm includedRanges :=
  List.mergeSort_perm _ _

theorem aligned_of_network_eq {family : Family} {n : IPNet} (network : n.network family = n.ip) :
    n.ip % 2 ^ n.hostBits family = 0 := by
  rw [← network, IPNet.network, maskIP, ← IPNet.hostBits]
  exact Int.mul_emod_left _ _

/-- For a subnet whose address is its network address, the blocks the calculator
returns cover exactly the gateway, the excluded addresses, and, when some range is
included, the addresses of the subnet outside every included range. -/
theorem findSubnetExcludeIPBlocks_cover (family : Family) (cidr : IPNet)
    (includedRanges : List IPRange) (gateway : Option Int) (excludeIPs : List Int)
    (blocks : List IPNet) (networkAddress : cidr.network family = cidr.ip)
    (found : findSubnetExcludeIPBlocks family cidr includedRanges gateway excludeIPs = .ok blocks)
    (a : Int) :
    (∃ n ∈ blocks, n.contains family a) ↔
      (a ∈ gateway.toList ∨ a ∈ excludeIPs) ∨
        (includedRanges ≠ [] ∧ cidr.contains family a ∧ ∀ r ∈ includedRanges, ¬ r.Mem a) := by
  obtain ⟨excludeIPRanges, rangesFound, rfl⟩ := findSubnetExcludeIPBlocks_eq_ok found
  obtain ⟨gaps, gapsFound, rfl⟩ := findSubnetExcludeIPRanges_eq_ok rangesFound
  rw [flatMap_splitIPRangeToIPBlocks_cover, foldl_addExcludedIP_cover, List.mem_append]
  have gapCover : Covers gaps a ↔
      includedRanges ≠ [] ∧ cidr.contains family a ∧ ∀ r ∈ includedRanges, ¬ r.Mem a := by
    have perm := sortByStart_perm includedRanges
    rw [IPNet.contains_iff_of_aligned (aligned_of_network_eq networkAddress)]
    cases sorted : sortByStart includedRanges with
    | nil =>
        rw [sorted] at gapsFound perm
        simp only [excludeIPRangesOf, Except.ok.injEq] at gapsFound
        subst gapsFound
        obtain rfl := List.Perm.nil_eq perm
        simp
    | cons current rest =>
        rw [sorted] at gapsFound perm
        rw [excludeIPRangesOf_cover gapsFound, if_pos rfl]
        have nonempty : includedRanges ≠ [] := fun empty => by
          simp [empty] at perm
        simp only [Covers, perm.mem_iff, not_exists, not_and, ne_eq, nonempty, not_false_eq_true,
          true_and, and_assoc]
  rw [gapCover]
  exact or_comm.trans (or_congr_left or_comm)

/-- The subnet `0.0.0.0/30` with `0.0.0.1~0.0.0.2` included: the blocks are the first
and the last address. -/
theorem findSubnetExcludeIPBlocks_quarter :
    findSubnetExcludeIPBlocks .v4 ⟨0, 30⟩ [⟨1, 2, by decide⟩] none [] =
      .ok [⟨0, 32⟩, ⟨3, 32⟩] := by
  have last : IPNet.lastIP .v4 ⟨0, 30⟩ = 3 := by decide
  have gaps : excludeIPRangesOf ⟨0, 30⟩ 0 3 true [⟨1, 2, by decide⟩] =
      .ok [IPRange.single 0, IPRange.single 3] := by
    simp [excludeIPRangesOf, overlappingNext, createIPRange, prevIP, nextIP]
    rfl
  simp [findSubnetExcludeIPBlocks, findSubnetExcludeIPRanges, sortByStart, last, gaps, bind,
    Except.bind, pure, Except.pure, splitIPRangeToIPBlocks_single, Family.bits]

/-- The subnet `0.0.0.0/28` with `0.0.0.1~0.0.0.14` included, the excluded addresses
`0.0.0.5` and `0.0.0.10`, and the gateway `0.0.0.10`: each excluded address becomes a range of
its own, the gateway folds into the range of `0.0.0.10`, and the blocks are the addresses. -/
theorem findSubnetExcludeIPBlocks_sixteen :
    findSubnetExcludeIPBlocks .v4 ⟨0, 28⟩ [⟨1, 14, by decide⟩] (some 10) [5, 10] =
      .ok [⟨0, 32⟩, ⟨15, 32⟩, ⟨5, 32⟩, ⟨10, 32⟩] := by
  have last : IPNet.lastIP .v4 ⟨0, 28⟩ = 15 := by decide
  have gaps : excludeIPRangesOf ⟨0, 28⟩ 0 15 true [⟨1, 14, by decide⟩] =
      .ok [IPRange.single 0, IPRange.single 15] := by
    simp [excludeIPRangesOf, overlappingNext, createIPRange, prevIP, nextIP]
    rfl
  have folded : [5, 10, 10].foldl addExcludedIP [IPRange.single 0, IPRange.single 15] =
      [IPRange.single 0, IPRange.single 15, IPRange.single 5, IPRange.single 10] := by
    decide
  simp [findSubnetExcludeIPBlocks, findSubnetExcludeIPRanges, sortByStart, last, gaps, bind,
    Except.bind, pure, Except.pure, folded, splitIPRangeToIPBlocks_single, Family.bits]

theorem findSubnetExcludeIPBlocks_cover_sixteen :
    IPNet.network .v4 ⟨0, 28⟩ = 0 ∧
      findSubnetExcludeIPBlocks .v4 ⟨0, 28⟩ [⟨1, 14, by decide⟩] (some 10) [5, 10] =
        .ok [⟨0, 32⟩, ⟨15, 32⟩, ⟨5, 32⟩, ⟨10, 32⟩] ∧
      ((∃ n ∈ [IPNet.mk 0 32, ⟨15, 32⟩, ⟨5, 32⟩, ⟨10, 32⟩], n.contains .v4 5) ↔
        (5 ∈ (some 10 : Option Int).toList ∨ 5 ∈ [(5 : Int), 10]) ∨
          ([IPRange.mk 1 14 (by decide)] ≠ [] ∧ IPNet.contains .v4 ⟨0, 28⟩ 5 ∧
            ∀ r ∈ [IPRange.mk 1 14 (by decide)], ¬ r.Mem 5)) :=
  have network : IPNet.network .v4 ⟨0, 28⟩ = 0 := by decide
  ⟨network, findSubnetExcludeIPBlocks_sixteen, findSubnetExcludeIPBlocks_cover .v4 ⟨0, 28⟩ _
    (some 10) [5, 10] _ network findSubnetExcludeIPBlocks_sixteen 5⟩

/-! ## The verdict on the included ranges -/

theorem exists_error_iff_not_ok {α : Type} {x : Except String α} :
    (∃ message, x = .error message) ↔ ¬ ∃ a, x = .ok a := by
  cases x <;> simp

/-- Only the gap computation can fail; the folding and the split never do. -/
theorem findSubnetExcludeIPBlocks_ok_iff (family : Family) (cidr : IPNet)
    (includedRanges : List IPRange) (gateway : Option Int) (excludeIPs : List Int) :
    (∃ blocks, findSubnetExcludeIPBlocks family cidr includedRanges gateway excludeIPs =
        .ok blocks) ↔
      ∃ gaps, excludeIPRangesOf cidr cidr.ip (cidr.lastIP family) true
        (sortByStart includedRanges) = .ok gaps := by
  constructor
  · rintro ⟨blocks, found⟩
    obtain ⟨excludeIPRanges, rangesFound, -⟩ := findSubnetExcludeIPBlocks_eq_ok found
    obtain ⟨gaps, ok, -⟩ := findSubnetExcludeIPRanges_eq_ok rangesFound
    exact ⟨gaps, ok⟩
  · rintro ⟨gaps, ok⟩
    exact ⟨_, by simp only [findSubnetExcludeIPBlocks, findSubnetExcludeIPRanges, ok]; rfl⟩

theorem sortByStart_sorted (includedRanges : List IPRange) :
    (sortByStart includedRanges).Pairwise (fun r r' => r.start ≤ r'.start) := by
  have := @List.sorted_mergeSort _ (fun a b : IPRange => decide (a.start ≤ b.start))
    (fun a b c first second => by simp only [decide_eq_true_eq] at *; omega)
    (fun a b => by simp only [Bool.or_eq_true, decide_eq_true_eq]; omega) includedRanges
  exact this.imp fun ordered => by simpa using ordered

/-- Ranges sorted by start end each before the next starts exactly when no two share an
address. -/
theorem chain'_iff_pairwise_disjoint {l : List IPRange}
    (sorted : l.Pairwise (fun r r' => r.start ≤ r'.start)) :
    l.Chain' (fun r r' => r.end < r'.start) ↔ l.Pairwise IPRange.Disjoint := by
  constructor
  · intro chain
    refine (pairwise_of_chain' chain).imp fun {r r'} before a both => ?_
    simp only [IPRange.Mem] at both
    omega
  · intro disjoint
    refine ((sorted.and disjoint).imp fun {_ r'} ⟨ordered, apart⟩ => ?_).chain'
    by_contra reaches
    exact apart r'.start ⟨⟨ordered, by omega⟩, ⟨le_rfl, r'.valid⟩⟩

theorem pairwise_disjoint_perm {l l' : List IPRange} (perm : l.Perm l') :
    l.Pairwise IPRange.Disjoint ↔ l'.Pairwise IPRange.Disjoint :=
  perm.pairwise_iff fun apart a both => apart a ⟨both.2, both.1⟩

/-- The calculator fails exactly when some included range leaves `[cidr.IP, LastIP(cidr)]`
or two included ranges share an address, whatever their order. -/
theorem findSubnetExcludeIPBlocks_error_iff (family : Family) (cidr : IPNet)
    (includedRanges : List IPRange) (gateway : Option Int) (excludeIPs : List Int) :
    ((∃ message, findSubnetExcludeIPBlocks family cidr includedRanges gateway excludeIPs =
        .error message) ↔
      (∃ r ∈ includedRanges, r.start < cidr.ip ∨ cidr.lastIP family < r.end) ∨
        ¬ includedRanges.Pairwise IPRange.Disjoint) ∧
    ∀ reordered : List IPRange, reordered.Perm includedRanges →
      ((∃ message, findSubnetExcludeIPBlocks family cidr reordered gateway excludeIPs =
          .error message) ↔
        ∃ message, findSubnetExcludeIPBlocks family cidr includedRanges gateway excludeIPs =
          .error message) := by
  have verdict : ∀ ranges : List IPRange,
      (∃ message, findSubnetExcludeIPBlocks family cidr ranges gateway excludeIPs =
          .error message) ↔
        (∃ r ∈ ranges, r.start < cidr.ip ∨ cidr.lastIP family < r.end) ∨
          ¬ ranges.Pairwise IPRange.Disjoint := by
    intro ranges
    have perm := sortByStart_perm ranges
    rw [exists_error_iff_not_ok, findSubnetExcludeIPBlocks_ok_iff, excludeIPRangesOf_ok_iff,
      chain'_iff_pairwise_disjoint (sortByStart_sorted ranges), pairwise_disjoint_perm perm]
    simp only [perm.mem_iff, not_and_or, not_forall, not_le, exists_prop, or_comm]
  refine ⟨verdict includedRanges, fun reordered perm => ?_⟩
  rw [verdict, verdict, pairwise_disjoint_perm perm]
  simp only [perm.mem_iff]

/-- The check compares the included ranges with the subnet's address, not with its
network address: `0.0.0.5/24` refuses `0.0.0.1~0.0.0.2`, which lies in the subnet. -/
theorem findSubnetExcludeIPBlocks_rejects_range_below_address :
    (∀ a, IPRange.Mem ⟨1, 2, by decide⟩ a → IPNet.contains .v4 ⟨5, 24⟩ a) ∧
      ∃ message, findSubnetExcludeIPBlocks .v4 ⟨5, 24⟩ [⟨1, 2, by decide⟩] none [] =
        .error message := by
  refine ⟨fun a inside => ?_, ?_⟩
  · simp only [IPRange.Mem] at inside
    simp [IPNet.contains, IPNet.hostBits, Family.bits]
    omega
  · simp [findSubnetExcludeIPBlocks, findSubnetExcludeIPRanges, sortByStart, excludeIPRangesOf,
      bind, Except.bind, IPNet.lastIP]

end Hybridnet
