import Mathlib.Data.List.Basic

/-!
# Names of the objects of a cluster in its parent cluster

A cluster publishes each of its subnets and each of its nodes' VTEPs to the parent
cluster under the name `<cluster>.<subnet>` or `<cluster>.<node>`, and reads the subnet or
node name back as what follows the first dot. The two pairs of functions are the same
join and the same split.

Splitting at the first dot inverts the join exactly when the cluster name has no dot; then
the join is also injective, so objects of clusters with dot-free names never share a name.
A dot in the cluster name breaks both: `a.b` with `c` and `a` with `b.c` give `a.b.c`.

Strings are taken as their characters. Go indexes and slices strings by bytes; the
separator is ASCII, and in UTF-8 its byte occurs only as that character, so the byte
position of the first dot and the suffix after it are those of the characters.
-/

namespace Hybridnet

/-- `strings.Index(s, sep)` for a one-character separator: the position of its first
occurrence, or `-1`. -/
def stringsIndex (s : String) (sep : Char) : Int :=
  ((s.toList.indexOf? sep).map Int.ofNat).getD (-1)

/-- `s[i:]` for `0 ≤ i`. -/
def sliceFrom (s : String) (i : Int) : String := ⟨s.toList.drop i.toNat⟩

/-- `fmt.Sprintf("%s.%s", clusterName, name)`. -/
def joinClusterName (clusterName name : String) : String := clusterName ++ "." ++ name

/-- `s[strings.Index(s, ".")+1:]`: what follows the first dot, or all of `s` without one. -/
def splitAfterFirstDot (s : String) : String := sliceFrom s (stringsIndex s '.' + 1)

/-- `generateRemoteSubnetName(clusterName, subnetName)`. -/
def generateRemoteSubnetName (clusterName subnetName : String) : String :=
  joinClusterName clusterName subnetName

/-- `splitSubnetNameFromRemoteSubnetName(remoteSubnetName)`. -/
def splitSubnetNameFromRemoteSubnetName (remoteSubnetName : String) : String :=
  splitAfterFirstDot remoteSubnetName

/-- `generateVTEPName(clusterName, nodeName)`. -/
def generateVTEPName (clusterName nodeName : String) : String :=
  joinClusterName clusterName nodeName

/-- `splitNodeNameFromRemoteVTEPName(remoteVTEPName)`. -/
def splitNodeNameFromRemoteVTEPName (remoteVTEPName : String) : String :=
  splitAfterFirstDot remoteVTEPName

theorem toList_joinClusterName (clusterName name : String) :
    (joinClusterName clusterName name).toList = clusterName.toList ++ '.' :: name.toList := by
  simp [joinClusterName, String.toList, String.data_append]

/-- The first dot of a joined name is the one the join put there, when the cluster name
has none. -/
theorem indexOf?_dot_append {front : List Char} (noDot : '.' ∉ front) (rest : List Char) :
    (front ++ '.' :: rest).indexOf? '.' = some front.length := by
  induction front with
  | nil => simp [List.indexOf?_cons]
  | cons c cs ih =>
    rw [List.mem_cons, not_or] at noDot
    rw [List.cons_append, List.indexOf?_cons, if_neg (by simpa using Ne.symm noDot.1), ih noDot.2]
    rfl

/-- Splitting a joined name gives back the name, when the cluster name has no dot. -/
theorem splitAfterFirstDot_joinClusterName {clusterName : String}
    (noDot : '.' ∉ clusterName.toList) (name : String) :
    splitAfterFirstDot (joinClusterName clusterName name) = name := by
  have first :
      stringsIndex (joinClusterName clusterName name) '.' = clusterName.toList.length := by
    rw [stringsIndex, toList_joinClusterName, indexOf?_dot_append noDot]
    rfl
  rw [splitAfterFirstDot, first, sliceFrom, toList_joinClusterName,
    show ((clusterName.toList.length : Int) + 1).toNat = clusterName.toList.length + 1 by omega,
    List.drop_append_eq_append_drop, List.drop_eq_nil_of_le (by omega), List.nil_append,
    Nat.add_sub_cancel_left]
  rfl

/-- Joined names of clusters with dot-free names are equal only for equal pairs. -/
theorem joinClusterName_injective {clusterName clusterName' name name' : String}
    (noDot : '.' ∉ clusterName.toList) (noDot' : '.' ∉ clusterName'.toList)
    (same : joinClusterName clusterName name = joinClusterName clusterName' name') :
    clusterName = clusterName' ∧ name = name' := by
  have names : name = name' := by
    rw [← splitAfterFirstDot_joinClusterName noDot name, same,
      splitAfterFirstDot_joinClusterName noDot']
  subst names
  have chars := congrArg String.toList same
  rw [toList_joinClusterName, toList_joinClusterName] at chars
  exact ⟨String.ext (List.append_cancel_right chars), rfl⟩

/-- For a cluster name without a dot, splitting the name of a remote subnet or of a remote
VTEP gives back the subnet or node name, and each name is that of one pair only among
clusters with dot-free names. -/
theorem remoteNames_split_and_injective {clusterName : String}
    (noDot : '.' ∉ clusterName.toList) (name : String) :
    splitSubnetNameFromRemoteSubnetName (generateRemoteSubnetName clusterName name) = name ∧
      splitNodeNameFromRemoteVTEPName (generateVTEPName clusterName name) = name ∧
      ∀ clusterName' name', '.' ∉ clusterName'.toList →
        (generateRemoteSubnetName clusterName name = generateRemoteSubnetName clusterName' name' →
          clusterName = clusterName' ∧ name = name') ∧
        (generateVTEPName clusterName name = generateVTEPName clusterName' name' →
          clusterName = clusterName' ∧ name = name') :=
  ⟨splitAfterFirstDot_joinClusterName noDot name, splitAfterFirstDot_joinClusterName noDot name,
    fun _ _ noDot' =>
      ⟨joinClusterName_injective noDot noDot', joinClusterName_injective noDot noDot'⟩⟩

theorem remoteNames_split_and_injective_cluster1 :
    '.' ∉ "cluster1".toList ∧
      splitSubnetNameFromRemoteSubnetName (generateRemoteSubnetName "cluster1" "subnet1") =
        "subnet1" :=
  ⟨by decide, (remoteNames_split_and_injective (by decide) "subnet1").1⟩

/-- The cluster `a.b` with the subnet or node `c` and the cluster `a` with `b.c` get the same
name, and splitting it gives `b.c`. -/
theorem remoteNames_collide_for_dotted_cluster :
    generateRemoteSubnetName "a.b" "c" = generateRemoteSubnetName "a" "b.c" ∧
      splitSubnetNameFromRemoteSubnetName (generateRemoteSubnetName "a.b" "c") = "b.c" ∧
      generateVTEPName "a.b" "c" = generateVTEPName "a" "b.c" ∧
      splitNodeNameFromRemoteVTEPName (generateVTEPName "a.b" "c") = "b.c" := by
  decide

end Hybridnet
