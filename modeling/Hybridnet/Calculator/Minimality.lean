import Hybridnet.Calculator.Exclude

/-!
# When the exclusion blocks are the maximal blocks of their union

`FindSubnetExcludeIPBlocks` splits each exclusion range on its own. The blocks of one
range are that range's maximal blocks; they are the maximal blocks of the whole union
only when no two exclusion ranges share or touch an address. The gaps around the
included ranges never do, so without a gateway and excluded addresses the blocks are
exactly the maximal blocks of their union, each once, and no list of networks with
that union is shorter. Folding the excluded addresses in, `TryAddIP` extends the first
range that accepts an address, and this can make two ranges touch or overlap.
-/

namespace Hybridnet

variable {family : Family}

/-! ## Blocks inside a union of separated ranges -/

section Separated

variable {ranges : List IPRange} (separated : ranges.Pairwise IPRange.Separated)
include separated

/-- Two separated ranges of the list with a common address are the same range. -/
theorem eq_of_separated {r r' : IPRange} (member : r ∈ ranges) (member' : r' ∈ ranges)
    {a : Int} (inside : r.Mem a) (inside' : r'.Mem a) : r = r' := by
  by_contra differ
  have apart := separated.forall IPRange.separated_symmetric member member' differ
  simp only [IPRange.Separated, IPRange.Mem] at apart inside inside'
  omega

/-- A block whose addresses the ranges cover lies inside one of them: past the end of
the range holding its first address lies an address no range holds. -/
theorem exists_range_of_isBlock {n : IPNet} (block : n.IsBlock family)
    (inside : ∀ a, n.contains family a → Covers ranges a) :
    ∃ r ∈ ranges, ∀ a, n.contains family a → r.Mem a := by
  obtain ⟨r, member, first⟩ := inside n.ip IPNet.contains_ip
  refine ⟨r, member, fun a contained => ?_⟩
  have bounds := (IPNet.contains_iff_of_isBlock block).1 contained
  by_contra outside
  have beyond : r.end < a := by simp only [IPRange.Mem] at first outside; omega
  obtain ⟨r', member', next⟩ := inside (r.end + 1)
    ((IPNet.contains_iff_of_isBlock block).2 ⟨by simp only [IPRange.Mem] at first; omega,
      by omega⟩)
  have differ : r ≠ r' := by
    rintro rfl
    simp only [IPRange.Mem] at next
    omega
  have apart := separated.forall IPRange.separated_symmetric member member' differ
  have := r.valid
  simp only [IPRange.Separated, IPRange.Mem] at apart next
  omega

/-- Over separated ranges, the maximal blocks of the union are the maximal blocks of
the ranges. -/
theorem isMaximalBlockOf_covers_iff (n : IPNet) :
    IsMaximalBlockOf family (Covers ranges) n ↔
      ∃ r ∈ ranges, IsMaximalBlock family r.start r.end n := by
  constructor
  · rintro ⟨block, inside, maximal⟩
    obtain ⟨r, member, within⟩ := exists_range_of_isBlock separated block inside
    exact ⟨r, member, isMaximalBlock_iff.2 ⟨block, within,
      fun n' block' within' sub =>
        maximal n' block' (fun a held => ⟨r, member, within' a held⟩) sub⟩⟩
  · rintro ⟨r, member, maximalR⟩
    obtain ⟨block, within, maximal⟩ := isMaximalBlock_iff.1 maximalR
    refine ⟨block, fun a held => ⟨r, member, within a held⟩, fun n' block' inside' sub => ?_⟩
    obtain ⟨r', member', within'⟩ := exists_range_of_isBlock separated block' inside'
    have same : r' = r := eq_of_separated separated member' member
      (within' _ (sub _ IPNet.contains_ip)) (within _ IPNet.contains_ip)
    subst same
    exact maximal n' block' within' sub

end Separated

/-! ## The gaps around the included ranges -/

theorem pairwise_toList {α : Type} {R : α → α → Prop} (o : Option α) : o.toList.Pairwise R := by
  cases o <;> simp

/-- The gaps around sorted included ranges are pairwise separated: an included range
lies between any two of them. -/
theorem excludeIPRangesOf_separated {cidr : IPNet} {cidrStart cidrEnd : Int} {first : Bool}
    {current : IPRange} {rest ranges : List IPRange}
    (found : excludeIPRangesOf cidr cidrStart cidrEnd first (current :: rest) = .ok ranges) :
    ranges.Pairwise IPRange.Separated := by
  obtain ⟨inCidr, chain⟩ :=
    (excludeIPRangesOf_ok_iff cidr cidrStart cidrEnd first _).1 ⟨_, found⟩
  have valid := current.valid
  have currentIn := inCidr current (List.mem_cons_self _ _)
  induction rest generalizing current first ranges with
  | nil =>
      simp only [excludeIPRangesOf, overlappingNext] at found
      rw [if_neg (by omega)] at found
      simp only [Except.map, Except.ok.injEq, List.append_nil] at found
      subst found
      cases first
      · simp [List.pairwise_append, pairwise_toList]
      · simp only [List.pairwise_append, pairwise_toList, mem_createIPRange_toList,
          IPRange.Separated, prevIP, nextIP, if_true, true_and]
        rintro a ⟨-, aEnd⟩ b ⟨bStart, -⟩
        omega
  | cons next rest ih =>
      have nextValid := next.valid
      have beforeNext : current.end < next.start := (List.chain'_cons.1 chain).1
      simp only [excludeIPRangesOf, overlappingNext] at found
      rw [if_neg (by omega), if_neg (by omega)] at found
      obtain ⟨tail, recursive, rfl⟩ := ok_of_map_eq_ok found
      have separatedTail := ih recursive (fun r member => inCidr r (List.mem_cons_of_mem _ member))
        (List.chain'_cons'.1 chain).2 nextValid (inCidr next (by simp))
      have afterNext : ∀ r ∈ tail, next.end < r.start := fun r member => by
        have := ((excludeIPRangesOf_cover recursive r.start).1 ⟨r, member, le_rfl, r.valid⟩).1
        simpa using this
      have gapBeforeTail : ∀ a : IPRange, a.start = current.end + 1 ∧ a.end = next.start - 1 →
          ∀ b ∈ tail, a.end + 1 < b.start ∨ b.end + 1 < a.start := by
        rintro a ⟨-, aEnd⟩ b member
        have := afterNext b member
        omega
      cases first <;>
        simp only [List.pairwise_append, pairwise_toList, separatedTail, List.mem_append,
          mem_createIPRange_toList, IPRange.Separated, prevIP, nextIP, if_true, if_false,
          Bool.false_eq_true, List.not_mem_nil, true_and, false_or]
      · exact ⟨⟨List.Pairwise.nil, fun _ absurd => absurd.elim⟩, gapBeforeTail⟩
      · refine ⟨fun a ⟨_, aEnd⟩ b ⟨bStart, _⟩ => by omega, ?_⟩
        rintro a (⟨-, aEnd⟩ | gap) b member
        · have := afterNext b member
          omega
        · exact gapBeforeTail a gap b member

/-! ## The exclusion ranges and their blocks -/

section Ranges

variable {cidr : IPNet} {includedRanges : List IPRange} {gateway : Option Int}
  {excludeIPs : List Int} {excludeIPRanges : List IPRange}

/-- The exclusion ranges hold addresses from the subnet's address to its last address,
and the excluded addresses. -/
theorem findSubnetExcludeIPRanges_covers
    (found : findSubnetExcludeIPRanges family cidr includedRanges gateway excludeIPs =
      .ok excludeIPRanges) {a : Int} (covered : Covers excludeIPRanges a) :
    (cidr.ip ≤ a ∧ a ≤ cidr.lastIP family) ∨ a ∈ excludeIPs ++ gateway.toList := by
  obtain ⟨gaps, gapsFound, rfl⟩ := findSubnetExcludeIPRanges_eq_ok found
  refine ((foldl_addExcludedIP_cover _ gaps a).1 covered).imp_left fun inGaps => ?_
  cases sorted : sortByStart includedRanges with
  | nil =>
      rw [sorted] at gapsFound
      simp only [excludeIPRangesOf, Except.ok.injEq] at gapsFound
      subst gapsFound
      exact absurd inGaps covers_nil
  | cons current rest =>
      rw [sorted] at gapsFound
      have := (excludeIPRangesOf_cover gapsFound a).1 inGaps
      simp only [if_true] at this
      exact ⟨this.1, this.2.1⟩

/-- The exclusion ranges start and end at addresses of the family. -/
theorem findSubnetExcludeIPRanges_valid (validCidr : family.Valid cidr.ip)
    (validIPs : ∀ ip ∈ excludeIPs ++ gateway.toList, family.Valid ip)
    (found : findSubnetExcludeIPRanges family cidr includedRanges gateway excludeIPs =
      .ok excludeIPRanges) :
    ∀ r ∈ excludeIPRanges, family.Valid r.start ∧ family.Valid r.end := by
  have valid : ∀ a, Covers excludeIPRanges a → family.Valid a := fun a covered => by
    rcases findSubnetExcludeIPRanges_covers found covered with ⟨low, high⟩ | excluded
    · have last := IPNet.valid_lastIP validCidr
      exact ⟨by linarith [validCidr.1], by linarith [last.2]⟩
    · exact validIPs a excluded
  exact fun r member =>
    ⟨valid _ ⟨r, member, le_rfl, r.valid⟩, valid _ ⟨r, member, r.valid, le_rfl⟩⟩

/-- Without a gateway and excluded addresses, the exclusion ranges are the gaps around
the included ranges, which are separated. -/
theorem findSubnetExcludeIPRanges_separated
    (found : findSubnetExcludeIPRanges family cidr includedRanges none [] = .ok excludeIPRanges) :
    excludeIPRanges.Pairwise IPRange.Separated := by
  obtain ⟨gaps, gapsFound, rfl⟩ := findSubnetExcludeIPRanges_eq_ok found
  cases sorted : sortByStart includedRanges with
  | nil =>
      rw [sorted] at gapsFound
      simp only [excludeIPRangesOf, Except.ok.injEq] at gapsFound
      subst gapsFound
      exact List.Pairwise.nil
  | cons current rest =>
      rw [sorted] at gapsFound
      exact excludeIPRangesOf_separated gapsFound

end Ranges

/-- The blocks are, range by range, the maximal blocks of each exclusion range. When no
two exclusion ranges share or touch an address, as without a gateway and excluded
addresses, the blocks are exactly the maximal blocks of their union, each once, and no
list of networks with that union is shorter. -/
theorem findSubnetExcludeIPBlocks_maximal_of_separated (family : Family) (cidr : IPNet)
    (includedRanges : List IPRange) (gateway : Option Int) (excludeIPs : List Int)
    (blocks : List IPNet) (validCidr : family.Valid cidr.ip)
    (validIPs : ∀ ip ∈ excludeIPs ++ gateway.toList, family.Valid ip)
    (found : findSubnetExcludeIPBlocks family cidr includedRanges gateway excludeIPs = .ok blocks) :
    ∃ excludeIPRanges,
      findSubnetExcludeIPRanges family cidr includedRanges gateway excludeIPs =
        .ok excludeIPRanges ∧
      blocks = excludeIPRanges.flatMap (splitIPRangeToIPBlocks family) ∧
      (∀ r ∈ excludeIPRanges, ∀ n,
        n ∈ splitIPRangeToIPBlocks family r ↔ IsMaximalBlock family r.start r.end n) ∧
      (gateway = none → excludeIPs = [] → excludeIPRanges.Pairwise IPRange.Separated) ∧
      (excludeIPRanges.Pairwise IPRange.Separated →
        (∀ n, n ∈ blocks ↔
          IsMaximalBlockOf family (fun a => ∃ m ∈ blocks, m.contains family a) n) ∧
        blocks.Nodup ∧
        ∀ others : List IPNet,
          (∀ a, family.Valid a →
            ((∃ n ∈ others, n.contains family a) ↔ ∃ m ∈ blocks, m.contains family a)) →
          blocks.length ≤ others.length) := by
  obtain ⟨excludeIPRanges, rangesFound, rfl⟩ := findSubnetExcludeIPBlocks_eq_ok found
  have valid := findSubnetExcludeIPRanges_valid validCidr validIPs rangesFound
  have member : ∀ r ∈ excludeIPRanges, ∀ n,
      n ∈ splitIPRangeToIPBlocks family r ↔ IsMaximalBlock family r.start r.end n :=
    fun r inRanges => mem_splitIPRangeToIPBlocks_iff (valid r inRanges).1 (valid r inRanges).2
  refine ⟨excludeIPRanges, rangesFound, rfl, member, ?_, fun separated => ?_⟩
  · rintro rfl rfl
    exact findSubnetExcludeIPRanges_separated rangesFound
  have union : (fun a => ∃ m ∈ excludeIPRanges.flatMap (splitIPRangeToIPBlocks family),
      m.contains family a) = Covers excludeIPRanges :=
    funext fun a => propext (flatMap_splitIPRangeToIPBlocks_cover family excludeIPRanges a)
  rw [union]
  have maximal : ∀ n, n ∈ excludeIPRanges.flatMap (splitIPRangeToIPBlocks family) ↔
      IsMaximalBlockOf family (Covers excludeIPRanges) n := fun n => by
    rw [isMaximalBlockOf_covers_iff separated, List.mem_flatMap]
    exact exists_congr fun r => and_congr_right fun inRanges => member r inRanges n
  have nodup : (excludeIPRanges.flatMap (splitIPRangeToIPBlocks family)).Nodup := by
    refine List.nodup_flatMap.2 ⟨fun r inRanges => ?_, ?_⟩
    · refine (splitIPRangeToIPBlocks_ordered r).imp_of_mem fun {n _} inSplit _ before same => ?_
      subst same
      have := IPNet.ip_le_lastIP ((member r inRanges n).1 inSplit).1
      omega
    · refine separated.imp_of_mem fun {r r'} inRanges inRanges' apart n inSplit inSplit' => ?_
      obtain ⟨block, low, high, -⟩ := (member r inRanges n).1 inSplit
      obtain ⟨-, low', high', -⟩ := (member r' inRanges' n).1 inSplit'
      have := IPNet.ip_le_lastIP block
      simp only [IPRange.Separated] at apart
      omega
  exact ⟨maximal, nodup, fun others covers =>
    length_le_of_covers (fun m inBlocks => (maximal m).1 inBlocks) nodup others fun a valid =>
      (covers a valid).trans (flatMap_splitIPRangeToIPBlocks_cover family excludeIPRanges a)⟩

theorem findSubnetExcludeIPBlocks_maximal_of_separated_quarter :
    Family.v4.Valid 0 ∧ (∀ ip ∈ ([] : List Int) ++ (none : Option Int).toList, Family.v4.Valid ip) ∧
      findSubnetExcludeIPBlocks .v4 ⟨0, 30⟩ [⟨1, 2, by decide⟩] none [] =
        .ok [⟨0, 32⟩, ⟨3, 32⟩] ∧
      ∃ excludeIPRanges,
        findSubnetExcludeIPRanges .v4 ⟨0, 30⟩ [⟨1, 2, by decide⟩] none [] =
          .ok excludeIPRanges ∧
        [IPNet.mk 0 32, ⟨3, 32⟩] = excludeIPRanges.flatMap (splitIPRangeToIPBlocks .v4) ∧
        (∀ r ∈ excludeIPRanges, ∀ n,
          n ∈ splitIPRangeToIPBlocks .v4 r ↔ IsMaximalBlock .v4 r.start r.end n) ∧
        ((none : Option Int) = none → ([] : List Int) = [] →
          excludeIPRanges.Pairwise IPRange.Separated) ∧
        (excludeIPRanges.Pairwise IPRange.Separated →
          (∀ n, n ∈ [IPNet.mk 0 32, ⟨3, 32⟩] ↔ IsMaximalBlockOf .v4
            (fun a => ∃ m ∈ [IPNet.mk 0 32, ⟨3, 32⟩], m.contains .v4 a) n) ∧
          [IPNet.mk 0 32, ⟨3, 32⟩].Nodup ∧
          ∀ others : List IPNet,
            (∀ a, Family.v4.Valid a → ((∃ n ∈ others, n.contains .v4 a) ↔
              ∃ m ∈ [IPNet.mk 0 32, ⟨3, 32⟩], m.contains .v4 a)) →
            [IPNet.mk 0 32, ⟨3, 32⟩].length ≤ others.length) :=
  ⟨by decide, by simp, findSubnetExcludeIPBlocks_quarter,
    findSubnetExcludeIPBlocks_maximal_of_separated .v4 ⟨0, 30⟩ _ none [] _ (by decide) (by simp)
      findSubnetExcludeIPBlocks_quarter⟩

/-- Excluded addresses out of order, with the gateway among them: `0.0.0.3` gets a range
of its own before `0.0.0.2` and the gateway `0.0.0.3` extend `0.0.0.1~0.0.0.1` up to it,
so the block `0.0.0.3/32` lies inside the block `0.0.0.2/31` and is not maximal. -/
theorem findSubnetExcludeIPBlocks_overlapping_blocks :
    findSubnetExcludeIPBlocks .v4 ⟨0, 24⟩ [] (some 3) [1, 3, 2] =
        .ok [⟨1, 32⟩, ⟨2, 31⟩, ⟨3, 32⟩] ∧
      ¬ ((∀ n, n ∈ [IPNet.mk 1 32, ⟨2, 31⟩, ⟨3, 32⟩] ↔ IsMaximalBlockOf .v4
          (fun a => ∃ m ∈ [IPNet.mk 1 32, ⟨2, 31⟩, ⟨3, 32⟩], m.contains .v4 a) n) ∧
        [IPNet.mk 1 32, ⟨2, 31⟩, ⟨3, 32⟩].Nodup) := by
  have folded : addExcludedIP (addExcludedIP (addExcludedIP (addExcludedIP [] 1) 3) 2) 3 =
      [⟨1, 3, by decide⟩, IPRange.single 3] := by decide
  have first : findTheFirstLargestCidr .v4 1 3 = (⟨1, 32⟩, some 2) :=
    findTheFirstLargestCidr_eq_greedyResult (Nat.zero_le _) ⟨by decide, by decide⟩
      fun j jLe fits => ((by decide : ∀ j, j ≤ 32 → (1 : Int) % 2 ^ j = 0 → j = 0) j jLe fits.1).le
  have second : findTheFirstLargestCidr .v4 2 3 = (⟨2, 31⟩, none) :=
    findTheFirstLargestCidr_eq_greedyResult (by decide : 1 ≤ Family.v4.bits) ⟨by decide, by decide⟩
      fun j jLe fits => (by decide : ∀ j, j ≤ 32 → (2 : Int) + 2 ^ j - 1 ≤ 3 → j ≤ 1) j jLe fits.2
  have split : splitIPRangeToIPBlocks .v4 ⟨1, 3, by decide⟩ = [⟨1, 32⟩, ⟨2, 31⟩] := by
    rw [splitIPRangeToIPBlocks, splitIPRangeToIPBlocks.loop_of_some first,
      splitIPRangeToIPBlocks.loop_of_none second]
  refine ⟨?_, fun ⟨maximal, _⟩ => ?_⟩
  · simp [findSubnetExcludeIPBlocks, findSubnetExcludeIPRanges, sortByStart, excludeIPRangesOf,
      folded, split, splitIPRangeToIPBlocks_single, bind, Except.bind, pure, Except.pure,
      Family.bits]
  · have inside : ∀ a, (IPNet.mk 3 32).contains .v4 a → (IPNet.mk 2 31).contains .v4 a := by
      intro a held
      simp [IPNet.contains, IPNet.hostBits, Family.bits] at held ⊢
      omega
    have same := ((maximal ⟨3, 32⟩).1 (by simp)).2.2 ⟨2, 31⟩ (by decide)
      (fun a held => ⟨⟨2, 31⟩, by simp, held⟩) inside
    simp at same

end Hybridnet
