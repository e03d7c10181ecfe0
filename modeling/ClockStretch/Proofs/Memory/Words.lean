import ClockStretch.File.System
import Mathlib.Tactic.Lemma
import Mathlib.Tactic.SplitIfs

/-!
# Words in files

A word that is stored in a file is loaded again, and a store leaves alone every byte outside its
four, every other file, and every directory. The last section says this of two file systems at
once: the second one is the first with a single word replaced.
-/

namespace ClockStretch

namespace Contents

variable (c : Contents)

/-! ### Bytes -/

@[simp] lemma size_storeByte (p : Nat) (b : UInt8) : (c.storeByte p b).size = c.size := rfl

lemma byteAt_storeByte (p q : Nat) (b : UInt8) :
    (c.storeByte p b).byteAt q = if q = p then b else c.byteAt q := by
  simp only [byteAt, storeByte, Std.TreeMap.getD_insert, Nat.compare_eq_eq]
  by_cases h : p = q <;> simp [h, eq_comm]

@[simp] lemma size_storeBytes (p : Nat) (bs : List UInt8) :
    (c.storeBytes p bs).size = c.size := by
  induction bs generalizing c p with
  | nil => rfl
  | cons b bs ih => simp [storeBytes, ih]

lemma byteAt_storeBytes (p q : Nat) (bs : List UInt8) :
    (c.storeBytes p bs).byteAt q =
      if p ≤ q then bs.getD (q - p) (c.byteAt q) else c.byteAt q := by
  induction bs generalizing c p with
  | nil => simp [storeBytes]
  | cons b bs ih =>
    rw [storeBytes, ih, byteAt_storeByte]
    by_cases h : q = p
    · subst h; simp [show ¬ q + 1 ≤ q by omega]
    · by_cases h' : p ≤ q
      · obtain ⟨k, rfl⟩ : ∃ k, q = p + 1 + k := ⟨q - p - 1, by omega⟩
        simp [show p + 1 + k - p = k + 1 by omega, show p ≤ p + 1 + k by omega,
          show p + 1 + k ≠ p by omega]
      · simp [h, h', show ¬ p + 1 ≤ q by omega]

/-! ### Words -/

@[simp] lemma size_storeWord (p : Nat) (w : UInt32) : (c.storeWord p w).size = c.size := by
  simp [storeWord]

/-- The four bytes of a word make up the word. -/
lemma wordOfBytes_bytes (w : UInt32) :
    wordOfBytes w.toUInt8 (w >>> 8).toUInt8 (w >>> 16).toUInt8 (w >>> 24).toUInt8 = w := by
  apply UInt32.toBitVec_inj.1
  ext i hi
  simp only [wordOfBytes, UInt32.toBitVec_or, UInt32.toBitVec_shiftLeft,
    UInt8.toBitVec_toUInt32, UInt32.toBitVec_toUInt8, UInt32.toBitVec_shiftRight]
  simp only [UInt32.toBitVec_ofNat, BitVec.ofNat_eq_ofNat, BitVec.reduceMod,
    BitVec.ushiftRight_eq', BitVec.toNat_ofNat, Nat.reducePow, Nat.reduceMod,
    BitVec.shiftLeft_eq', BitVec.getElem_or, BitVec.getElem_setWidth, BitVec.getLsbD_setWidth,
    BitVec.getElem_shiftLeft, BitVec.getLsbD_ushiftRight]
  -- the bit lies in just one of the four bytes
  grind

lemma byteAt_storeWord_of_outside {p q : Nat} (w : UInt32) (h : q < p ∨ p + 4 ≤ q) :
    (c.storeWord p w).byteAt q = c.byteAt q := by
  rw [storeWord, byteAt_storeBytes]
  split_ifs with hpq
  · rw [List.getD_eq_getElem?_getD, List.getElem?_eq_none, Option.getD_none]
    simp only [bytesOfWord, List.length_cons, List.length_nil]
    omega
  · rfl

@[simp] lemma loadWord_storeWord (p : Nat) (w : UInt32) : (c.storeWord p w).loadWord p = w := by
  simp only [loadWord, storeWord, byteAt_storeBytes]
  simp [bytesOfWord, wordOfBytes_bytes]

/-- A word depends on its four bytes only. -/
lemma loadWord_congr {c d : Contents} {p : Nat}
    (h : ∀ q, p ≤ q → q < p + 4 → c.byteAt q = d.byteAt q) : c.loadWord p = d.loadWord p := by
  simp only [loadWord]
  rw [h p (by omega) (by omega), h (p + 1) (by omega) (by omega), h (p + 2) (by omega) (by omega),
    h (p + 3) (by omega) (by omega)]

lemma loadWord_storeWord_of_disjoint {p q : Nat} (w : UInt32) (h : q + 4 ≤ p ∨ p + 4 ≤ q) :
    (c.storeWord p w).loadWord q = c.loadWord q :=
  loadWord_congr fun _ _ _ => c.byteAt_storeWord_of_outside w (by omega)

end Contents

namespace FileSystem

variable (fs : FileSystem) (l : Location)

/-! ### Files after a store -/

lemma lookup_setContents (c : Contents) (k : Location) :
    (fs.setContents l c).nodes.lookup k =
      (fs.nodes.lookup k).map fun
        | .regular old => .regular (if k = l then c else old)
        | node         => node := by
  simp only [setContents]
  induction fs.nodes with
  | nil => rfl
  | cons entry nodes ih =>
    obtain ⟨at', node⟩ := entry
    by_cases hk : k = at'
    · subst hk
      cases node <;> simp
    · have hne : (k == at') = false := by simpa using hk
      cases node <;> simpa [List.lookup_cons, hne] using ih

lemma node?_setContents_of_ne {k l : Location} (c : Contents) (h : k ≠ l) :
    (fs.setContents l c).node? k = fs.node? k := by
  unfold node?
  rw [lookup_setContents]
  cases fs.nodes.lookup k with
  | none => rfl
  | some node => cases node <;> simp [h]

lemma contents?_eq_some_iff {c : Contents} :
    fs.contents? l = some c ↔ fs.node? l = some (.regular c) := by
  unfold contents?
  split <;> simp_all

/-- The stored contents are what the file holds. -/
lemma contents?_setContents_self {l : Location} {c old : Contents} (h : fs.contents? l = some old) :
    (fs.setContents l c).contents? l = some c := by
  rw [contents?_eq_some_iff] at h ⊢
  unfold node? at h ⊢
  split_ifs at h ⊢ with hl
  · simp at h
  · rw [lookup_setContents, h]
    simp

/-! ### One word replaced -/

/-- The second file system is the first one with the word at a position of a file replaced. The
size of the file, its other bytes and everything else are as before. -/
structure WordReplaced (fs fs' : FileSystem) (l : Location) (p : Nat) (w : UInt32) : Prop where
  workingDirectory : fs'.workingDirectory = fs.workingDirectory
  elsewhere : ∀ k, k ≠ l → fs'.node? k = fs.node? k
  contents : ∃ c c', fs.contents? l = some c ∧ fs'.contents? l = some c' ∧ c'.size = c.size ∧
    c'.loadWord p = w ∧ ∀ q, q < p ∨ p + 4 ≤ q → c'.byteAt q = c.byteAt q

lemma wordReplaced_setContents {fs : FileSystem} {l : Location} {c : Contents} (p : Nat)
    (w : UInt32) (h : fs.contents? l = some c) :
    WordReplaced fs (fs.setContents l (c.storeWord p w)) l p w where
  workingDirectory := rfl
  elsewhere _ hk := fs.node?_setContents_of_ne _ hk
  contents := ⟨c, c.storeWord p w, h, fs.contents?_setContents_self h, c.size_storeWord p w,
    c.loadWord_storeWord p w, fun _ => c.byteAt_storeWord_of_outside w⟩

end FileSystem

end ClockStretch
