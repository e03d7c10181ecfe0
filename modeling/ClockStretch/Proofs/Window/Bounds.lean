import ClockStretch.Proofs.Window.Opening

/-!
# Bounds of windows

A window lies inside its mapping, and every access that it accepts lies inside the window. Sums and
differences of addresses, lengths and offsets are meant as natural numbers, but a machine computes
them in words of 64 bits, where they could wrap around. For arguments that are not refused they
never do, however large the address, the length and the offset are.
-/

namespace ClockStretch.Window

/-- The distance of an address from the start of its page, computed in words. -/
def inPageWord (base : UInt64) : UInt64 := base % UInt64.ofNat pageSize

/-- How a window lies in its mapping. The mapping starts with a page, at an offset that files can
have; the window starts in the first page of it, and both end together. Computed in words, the
start of the mapping, the start of the window in it and the length of it are the same numbers. -/
structure MapsWindow (base length : UInt64) : Prop where
  pageBase_mod : pageBase base % pageSize = 0
  pageBase_le : pageBase base ≤ 2 ^ 63 - 1
  pageBase_add : pageBase base + offsetInPage base = base.toNat
  offsetInPage_lt : offsetInPage base < pageSize
  mappingLength_eq : mappingLength base length = offsetInPage base + length.toNat
  mappingLength_lt : mappingLength base length < 2 ^ 64
  word_pageBase : (base - inPageWord base).toNat = pageBase base
  word_offsetInPage : (inPageWord base).toNat = offsetInPage base
  word_mappingLength : (inPageWord base + length).toNat = mappingLength base length

/-- How the word at an offset into a window lies in the mapping: inside, at a multiple of four, and
so that it is the word of the file at the base address plus the offset. Computed in words, the start
and the end of it in the mapping are the same numbers. -/
structure MapsWord (base length offset : UInt64) : Prop where
  inside : offsetInPage base + offset.toNat + 4 ≤ mappingLength base length
  aligned : (offsetInPage base + offset.toNat) % 4 = 0
  position : pageBase base + (offsetInPage base + offset.toNat) = base.toNat + offset.toNat
  word_start : (inPageWord base + offset).toNat = offsetInPage base + offset.toNat
  word_end : (inPageWord base + offset + 4).toNat = offsetInPage base + offset.toNat + 4

variable {base length offset : UInt64}

/-- The arguments that are not refused. -/
lemma refusal?_eq_none_iff :
    refusal? base length = none ↔ length ≠ 0 ∧ base.toNat % 4 = 0 ∧ base.toNat < 2 ^ 63 ∧
      base.toNat % pageSize + length.toNat < 2 ^ 64 := by
  rw [refusal?_eq]
  split_ifs with hempty hmod hbase hlength
  · exact iff_of_false (by simp) fun h => h.1 hempty
  · exact iff_of_false (by simp) fun h => hmod h.2.1
  · exact iff_of_false (by simp) fun h => Nat.not_lt.mpr hbase h.2.2.1
  · exact iff_of_false (by simp) fun h => Nat.not_lt.mpr hlength h.2.2.2
  · exact iff_of_true rfl
      ⟨hempty, Decidable.not_not.mp hmod, Nat.not_le.mp hbase, Nat.not_le.mp hlength⟩

lemma toNat_inPageWord (base : UInt64) : (inPageWord base).toNat = offsetInPage base := by
  rw [inPageWord, UInt64.toNat_mod]
  rfl

/-- A sum of words is the sum of their numbers, if this is the number of a word. -/
lemma toNat_add_of_lt {a b : UInt64} (h : a.toNat + b.toNat < 2 ^ 64) :
    (a + b).toNat = a.toNat + b.toNat := by
  rw [UInt64.toNat_add, Nat.mod_eq_of_lt h]

/-- A window whose arguments are not refused has a mapping. -/
lemma mapsWindow_of_refusal? (h : refusal? base length = none) : MapsWindow base length := by
  obtain ⟨-, -, hbase, hlength⟩ := refusal?_eq_none_iff.mp h
  have hle : offsetInPage base ≤ base.toNat := Nat.mod_le _ _
  exact {
    pageBase_mod := Nat.sub_mod_eq_zero_of_mod_eq (Nat.mod_mod _ _).symm
    pageBase_le := by unfold pageBase; omega
    pageBase_add := Nat.sub_add_cancel hle
    offsetInPage_lt := Nat.mod_lt _ (by decide)
    mappingLength_eq := rfl
    mappingLength_lt := hlength
    word_pageBase := by
      rw [UInt64.toNat_sub_of_le, toNat_inPageWord, pageBase]
      rwa [UInt64.le_iff_toNat_le, toNat_inPageWord]
    word_offsetInPage := toNat_inPageWord base
    word_mappingLength := by
      rw [toNat_add_of_lt, toNat_inPageWord, mappingLength]
      rwa [toNat_inPageWord] }

/-- A word that ends inside the window lies in the mapping. -/
lemma mapsWord_of_refusal? (h : refusal? base length = none) (hmod : offset.toNat % 4 = 0)
    (hend : offset.toNat + 4 ≤ length.toNat) : MapsWord base length offset := by
  obtain ⟨-, hbase, -, hlength⟩ := refusal?_eq_none_iff.mp h
  have hmaps := mapsWindow_of_refusal? h
  have hinside : offsetInPage base + offset.toNat + 4 ≤ mappingLength base length := by
    rw [hmaps.mappingLength_eq]
    omega
  have hlt := hmaps.mappingLength_lt
  have hpage : 4 ∣ pageBase base :=
    Nat.dvd_trans (by decide) (Nat.dvd_of_mod_eq_zero hmaps.pageBase_mod)
  have hstart : (inPageWord base + offset).toNat = offsetInPage base + offset.toNat := by
    rw [toNat_add_of_lt, toNat_inPageWord]
    rw [toNat_inPageWord]
    omega
  have hadd := hmaps.pageBase_add
  exact {
    inside := hinside
    aligned := by omega
    position := by omega
    word_start := hstart
    word_end := by
      have hfour : (4 : UInt64).toNat = 4 := rfl
      rw [toNat_add_of_lt, hstart, hfour]
      rw [hstart, hfour]
      omega }

/-- A window whose arguments are not refused has a mapping, and once it is opened it accepts just
the words at each fourth offset that end inside it. An access that is accepted reads or replaces the
word at its place in the mapping, which is the word of the file at the base address plus the offset.
Every other access is refused for its offset, and nothing is read, written or told. -/
theorem accesses_stay_inside_mapping (h : refusal? base length = none) :
    MapsWindow base length ∧
    ∀ (device : Path) (opening : Log.Filter) (fs₀ : FileSystem) (w : Window),
      ((openAt device base length).run opening fs₀).result = .ok w →
    ∀ (filter : Log.Filter) (fs : FileSystem) (c : Contents), fs.contents? w.file = some c →
    ∀ (offset : UInt64) (value : UInt32),
      let read := (w.readWord offset).run filter fs
      let write := (w.writeWord offset value).run filter fs
      let position := pageBase base + (offsetInPage base + offset.toNat)
      if offset.toNat % 4 = 0 ∧ offset.toNat + 4 ≤ length.toNat then
        MapsWord base length offset ∧
        read.result = .ok (c.loadWord position) ∧ read.state = fs ∧
        write.result = .ok () ∧ FileSystem.WordReplaced fs write.state w.file position value
      else
        read = ⟨.error (.memory (.outOfWindow offset length)), fs, []⟩ ∧
        write = ⟨.error (.memory (.outOfWindow offset length)), fs, []⟩ := by
  refine ⟨mapsWindow_of_refusal? h, ?_⟩
  intro device opening fs₀ w hopen filter fs c hc offset value read write position
  obtain ⟨l, -, rfl, -⟩ := of_openAt_eq_ok hopen
  have haccepts := accepts_iff ⟨l, base, length⟩ offset
  split_ifs with hoffset
  · have hmaps := mapsWord_of_refusal? h hoffset.1 hoffset.2
    have hread := run_readWord filter (haccepts.mpr hoffset.symm) hc
    have hwrite := run_writeWord filter (haccepts.mpr hoffset.symm) hc value
    simp only [← hmaps.position] at hread hwrite
    refine ⟨hmaps, congrArg Effect.result hread, congrArg Effect.state hread,
      congrArg Effect.result hwrite, ?_⟩
    rw [show write.state = _ from congrArg Effect.state hwrite]
    exact FileSystem.wordReplaced_setContents position value hc
  · have hrefused : accepts ⟨l, base, length⟩ offset = false :=
      Bool.eq_false_iff.mpr fun h => hoffset (haccepts.mp h).symm
    exact ⟨run_readWord_of_not_accepts filter hrefused,
      run_writeWord_of_not_accepts filter hrefused value⟩

/-- A window that ends inside a word, at an offset whose end would wrap around. -/
theorem accesses_stay_inside_mapping_at_greatest_offset :
    let fs : FileSystem := ⟨[([[0x64]], .regular (.zeros 8192))], []⟩
    let w : Window := ⟨[[0x64]], 0xff4, 10⟩
    let refused : Effect FileSystem UInt32 :=
      ⟨.error (.memory (.outOfWindow 0xfffffffffffffffc 10)), fs, []⟩
    refusal? 0xff4 10 = none ∧
      ((openAt ⟨[0x2f, 0x64]⟩ 0xff4 10).run (.upTo none) fs).result = .ok w ∧
      fs.contents? w.file = some (.zeros 8192) ∧
      MapsWindow 0xff4 10 ∧ MapsWord 0xff4 10 4 ∧
      (w.readWord 0xfffffffffffffffc).run (.upTo none) fs = refused := by
  intro fs w refused
  have hargs : refusal? 0xff4 10 = none := by decide
  have hopen : ((openAt ⟨[0x2f, 0x64]⟩ 0xff4 10).run (.upTo none) fs).result = .ok w :=
    result_openAt_of_mapped (.upTo none) hargs rfl (by decide)
  have hc : fs.contents? w.file = some (.zeros 8192) := rfl
  obtain ⟨hmaps, haccess⟩ := accesses_stay_inside_mapping hargs
  have hfour := haccess _ _ _ _ hopen (.upTo none) fs _ hc 4 0
  have hgreatest := haccess _ _ _ _ hopen (.upTo none) fs _ hc 0xfffffffffffffffc 0
  rw [if_pos (by decide)] at hfour
  rw [if_neg (by decide)] at hgreatest
  exact ⟨hargs, hopen, hc, hmaps, hfour.1, hgreatest.1⟩

end ClockStretch.Window
