import ClockStretch.Proofs.Window.Access
import Mathlib.Algebra.Group.Nat.Defs

/-!
# Pages of windows

Where the mapping of a window starts and ends. It starts with the page of the base address and ends
with the page of the last byte of the window, so the checks that are made on pages say how large the
base address and the end of the window may be.
-/

namespace ClockStretch.Window

variable {base : UInt64}

/-- The offsets end with a page, so an address is behind them just if its page is. -/
lemma offsetLimit_le_pageBase_iff : offsetLimit ≤ pageBase base ↔ offsetLimit ≤ base.toNat := by
  unfold pageBase offsetInPage pageSize
  have : offsetLimit = 4096 * 0x8000000000000 := rfl
  omega

/-- A mapping ends with the page in which the window ends. -/
lemma pageBase_add_roundToPages (base length : UInt64) :
    pageBase base + roundToPages (mappingLength base length) =
      roundToPages (base.toNat + length.toNat) := by
  unfold pageBase roundToPages mappingLength offsetInPage pageSize
  omega

/-- An end of pages is behind the offsets if what is rounded to it reaches into the last of their
pages. -/
lemma offsetLimit_le_roundToPages_iff {n : Nat} :
    offsetLimit ≤ roundToPages n ↔ offsetLimit - pageSize < n := by
  unfold roundToPages pageSize
  have : offsetLimit = 4096 * 0x8000000000000 := rfl
  omega

/-- What is wrong with arguments, in terms of the base address instead of its page. -/
lemma refusal?_eq (base length : UInt64) :
    refusal? base length =
      if length = 0 then some .emptyWindow
      else if base.toNat % 4 ≠ 0 then some (.misaligned base)
      else if 2 ^ 63 ≤ base.toNat then some (.addressOutOfRange base)
      else if 2 ^ 64 ≤ base.toNat % pageSize + length.toNat then some .emptyWindow
      else none := by
  unfold refusal?
  simp only [offsetLimit_le_pageBase_iff]
  rfl

/-! ### Windows of the size of a block of registers -/

lemma mappingLength_block (base : UInt64) :
    mappingLength base (UInt64.ofNat Register.blockSize) = offsetInPage base + 32 := rfl

/-- Of the arguments of such a window only the address can be refused. -/
lemma refusal?_block (base : BaseAddress) :
    refusal? base.value (UInt64.ofNat Register.blockSize) =
      if 2 ^ 63 ≤ base.value.toNat then some (.addressOutOfRange base.value) else none := by
  have hpage : base.value.toNat % pageSize < 4096 := Nat.mod_lt _ (by decide)
  have hlength : ¬ 2 ^ 64 ≤ base.value.toNat % pageSize +
      (UInt64.ofNat Register.blockSize).toNat := by
    have : (UInt64.ofNat Register.blockSize).toNat = 32 := rfl
    omega
  rw [refusal?_eq, if_neg (by decide), if_neg (fun h => h base.aligned), if_neg hlength]

lemma refusal?_block_of_lt {base : BaseAddress} (h : base.value.toNat < 2 ^ 63) :
    refusal? base.value (UInt64.ofNat Register.blockSize) = none := by
  rw [refusal?_block, if_neg (Nat.not_le.mpr h)]

/-- Such a window onto a regular file is mapped unless it ends in the last page of the offsets. -/
lemma mapRefusal?_block (base : UInt64) (c : Contents) :
    mapRefusal? (.regular c) (pageBase base)
        (mappingLength base (UInt64.ofNat Register.blockSize)) =
      if 2 ^ 63 - 4096 < base.toNat + 32 then some .overflow else none := by
  have hpages : roundToPages (mappingLength base (UInt64.ofNat Register.blockSize)) <
      mappableSpace := by
    have : offsetInPage base < pageSize := Nat.mod_lt _ (by decide)
    rw [mappingLength_block]
    unfold roundToPages pageSize mappableSpace at *
    omega
  unfold mapRefusal?
  simp only
  rw [if_neg (Nat.not_le.mpr hpages), pageBase_add_roundToPages]
  simp only [offsetLimit_le_roundToPages_iff]
  rfl

end ClockStretch.Window
