import Mathlib.Data.List.Basic

/-!
# Pod names as label values

The IP instance of a pod carries the pod's name in a label, and a Kubernetes label value has
at most 63 characters. A pod name may be longer: `TransferPodNameForLabelValue` keeps a name
of at most 63 bytes as it is. A longer name keeps its first 31 bytes, and the rest is replaced
by the hexadecimal MD5 of that rest, 32 digits, which makes 63 bytes.

So the result is a valid label value for every pod name. That holds whatever the hash gives:
it relies only on `fmt`'s `%x` printing 16 bytes as 32 lowercase digits.

Go strings are their bytes, `List UInt8`. `md5.Sum` is not in the source; it is the parameter
`md5Sum`, any function to 16 bytes.
-/

namespace Hybridnet

/-- A lowercase hexadecimal digit of `%x`, as its byte. -/
def hexDigit (n : Nat) : UInt8 :=
  if n < 10 then (48 + n).toUInt8 else (87 + n).toUInt8

/-- `fmt.Sprintf("%x", h)` for a byte array: two digits per byte, high nibble first. -/
def sprintfHex : List UInt8 → List UInt8
  | [] => []
  | b :: rest => hexDigit (b.toNat / 16) :: hexDigit (b.toNat % 16) :: sprintfHex rest

/-- `TransferPodNameForLabelValue(podName)`. -/
def transferPodNameForLabelValue (md5Sum : List UInt8 → { h : List UInt8 // h.length = 16 })
    (podName : List UInt8) : List UInt8 :=
  if podName.length > 63 then podName.take 31 ++ sprintfHex (md5Sum (podName.drop 31)).1
  else podName

/-! ## Label values -/

/-- An ASCII letter or digit. -/
def isAlnumByte (b : UInt8) : Bool :=
  (48 ≤ b && b ≤ 57) || (65 ≤ b && b ≤ 90) || (97 ≤ b && b ≤ 122)

/-- A byte a label value may hold: a letter, a digit, `-`, `_` or `.`. -/
def isLabelValueByte (b : UInt8) : Bool :=
  isAlnumByte b || b = 45 || b = 95 || b = 46

/-- The shape of a label value, length apart: its bytes are label bytes, and it starts and
ends with a letter or a digit. Every DNS-1123 subdomain, and so every pod name, has it. -/
def LabelShaped (value : List UInt8) : Prop :=
  value.all isLabelValueByte = true ∧ value.head?.all isAlnumByte = true ∧
    value.getLast?.all isAlnumByte = true

instance (value : List UInt8) : Decidable (LabelShaped value) :=
  inferInstanceAs (Decidable (_ ∧ _))

/-- `validation.IsValidLabelValue` of Kubernetes: at most 63 bytes, of the label shape (the
empty value included). -/
def IsLabelValue (value : List UInt8) : Prop :=
  value.length ≤ 63 ∧ LabelShaped value

/-! ## The digits -/

theorem isAlnumByte_hexDigit : ∀ n < 16, isAlnumByte (hexDigit n) = true := by
  decide

@[simp] theorem length_sprintfHex : ∀ h : List UInt8, (sprintfHex h).length = 2 * h.length
  | [] => rfl
  | _ :: rest => by simp only [sprintfHex, List.length_cons, length_sprintfHex rest]; omega

theorem all_isAlnumByte_sprintfHex : ∀ h : List UInt8, (sprintfHex h).all isAlnumByte = true
  | [] => rfl
  | b :: rest => by
    have byte : b.toNat < 256 := b.toNat_lt_size
    simp only [sprintfHex, List.all_cons, all_isAlnumByte_sprintfHex rest, Bool.and_true,
      isAlnumByte_hexDigit _ (Nat.mod_lt _ (by omega)),
      isAlnumByte_hexDigit _ (Nat.div_lt_of_lt_mul (show b.toNat < 16 * 16 by omega))]

theorem isLabelValueByte_of_isAlnumByte {b : UInt8} (alnum : isAlnumByte b = true) :
    isLabelValueByte b = true := by
  simp [isLabelValueByte, alnum]

/-! ## The transfer -/

variable (md5Sum : List UInt8 → { h : List UInt8 // h.length = 16 })

/-- A long name keeps its first 31 bytes, and the 32 digits of the hash make it 63 bytes. -/
theorem transferPodNameForLabelValue_of_long {podName : List UInt8} (long : 63 < podName.length) :
    transferPodNameForLabelValue md5Sum podName =
        podName.take 31 ++ sprintfHex (md5Sum (podName.drop 31)).1 ∧
      (transferPodNameForLabelValue md5Sum podName).length = 63 := by
  have hashed : (sprintfHex (md5Sum (podName.drop 31)).1).length = 32 := by
    rw [length_sprintfHex, (md5Sum _).2]
  have transferred : transferPodNameForLabelValue md5Sum podName =
      podName.take 31 ++ sprintfHex (md5Sum (podName.drop 31)).1 := if_pos long
  refine ⟨transferred, ?_⟩
  rw [transferred, List.length_append, List.length_take, hashed]
  omega

/-- For every pod name, `TransferPodNameForLabelValue` gives a valid label value: a name of at
most 63 bytes is kept, and a longer one becomes 63 bytes that start with its first 31 bytes. -/
theorem transferPodNameForLabelValue_isLabelValue (podName : List UInt8)
    (shaped : LabelShaped podName) :
    IsLabelValue (transferPodNameForLabelValue md5Sum podName) ∧
      (podName.length ≤ 63 → transferPodNameForLabelValue md5Sum podName = podName) ∧
      (63 < podName.length → (transferPodNameForLabelValue md5Sum podName).length = 63 ∧
        podName.take 31 <+: transferPodNameForLabelValue md5Sum podName) := by
  by_cases long : 63 < podName.length
  · obtain ⟨transferred, length⟩ := transferPodNameForLabelValue_of_long md5Sum long
    have hexNonempty : sprintfHex (md5Sum (podName.drop 31)).1 ≠ [] :=
      List.ne_nil_of_length_pos (by rw [length_sprintfHex, (md5Sum _).2]; omega)
    obtain ⟨first, rest, rfl⟩ := List.exists_cons_of_ne_nil
      (List.ne_nil_of_length_pos (by omega : 0 < podName.length))
    obtain ⟨bytes, starts, -⟩ := shaped
    have hexAlnum := all_isAlnumByte_sprintfHex (md5Sum ((first :: rest).drop 31)).1
    refine ⟨⟨length.le, ?_, ?_, ?_⟩, fun short => absurd long (by omega),
      fun _ => ⟨length, transferred ▸ List.prefix_append _ _⟩⟩ <;> rw [transferred]
    · rw [List.all_append, Bool.and_eq_true]
      refine ⟨List.all_eq_true.2 fun b member => ?_, List.all_eq_true.2 fun b member => ?_⟩
      · exact List.all_eq_true.1 bytes b (List.mem_of_mem_take member)
      · exact isLabelValueByte_of_isAlnumByte (List.all_eq_true.1 hexAlnum b member)
    · simpa [List.take_succ_cons] using starts
    · rw [List.getLast?_append_of_ne_nil _ hexNonempty, List.getLast?_eq_getLast _ hexNonempty,
        Option.all_some]
      exact List.all_eq_true.1 hexAlnum _ (List.getLast_mem _)
  · have short : ¬podName.length > 63 := long
    have kept : transferPodNameForLabelValue md5Sum podName = podName := if_neg short
    refine ⟨?_, fun _ => kept, fun long' => absurd long' long⟩
    rw [kept]
    exact ⟨by omega, shaped⟩

/-- A pod name of 70 bytes `a`, with a hash of 16 zero bytes. -/
theorem transferPodNameForLabelValue_isLabelValue_seventy :
    LabelShaped (List.replicate 70 97) ∧
      IsLabelValue (transferPodNameForLabelValue (fun _ => ⟨List.replicate 16 0, rfl⟩)
        (List.replicate 70 97)) :=
  ⟨by decide, (transferPodNameForLabelValue_isLabelValue _ _ (by decide)).1⟩

end Hybridnet
