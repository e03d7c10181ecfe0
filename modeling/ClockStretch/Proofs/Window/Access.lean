import ClockStretch.Request
import ClockStretch.Proofs.Memory.Words
import ClockStretch.Proofs.Action.Keeping
import ClockStretch.Proofs.Register.Layout

/-!
# Windows and their accesses

What opening a window does, and what an access at an offset does: inside the window it loads or
stores the word of the file at the base address plus the offset, and outside it fails and changes
nothing. A window of the size of a block of registers has a word for every register.
-/

namespace ClockStretch

namespace Window

variable {filter : Log.Filter} {fs : FileSystem}

/-! ### Opening -/

variable (filter fs) in
/-- Opening looks at the arguments, then opens the device, then maps it, and changes no file. -/
theorem run_openAt (device : Path) (base length : UInt64) :
    (openAt device base length).run filter fs =
      match refusal? base length with
      | some e => ⟨.error (.memory e), fs, []⟩
      | none   =>
        match fs.openForWriting device with
        | .error cause => ⟨.error (.memory (.openFailed device cause)), fs, []⟩
        | .ok file     =>
          ⟨match mapRefusal? ((fs.node? file).getD .directory) (pageBase base)
              (mappingLength base length) with
            | some cause => .error (.memory (.mapFailed base cause))
            | none       => .ok ⟨file, base, length⟩,
          fs,
          if filter.passes (.mapping device base (pageBase base) (mappingLength base length)) then
            [.mapping device base (pageBase base) (mappingLength base length)]
          else []⟩ := by
  unfold openAt
  cases refusal? base length with
  | some e => rfl
  | none =>
    simp only [Action.run_get_bind]
    cases fs.openForWriting device with
    | error cause => rfl
    | ok file =>
      simp only [Action.run_tell_bind]
      cases mapRefusal? ((fs.node? file).getD .directory) (pageBase base)
        (mappingLength base length) <;> simp

variable (filter fs) in
lemma state_openAt (device : Path) (base length : UInt64) :
    ((openAt device base length).run filter fs).state = fs := by
  rw [run_openAt]
  split
  · rfl
  · split <;> rfl

/-- What is told has no influence on how the opening ends. -/
lemma result_openAt_eq (filter filter' : Log.Filter) (fs : FileSystem) (device : Path)
    (base length : UInt64) :
    ((openAt device base length).run filter' fs).result =
      ((openAt device base length).run filter fs).result := by
  rw [run_openAt, run_openAt]
  split
  · rfl
  · split <;> rfl

section Result

variable (filter) {device : Path} {base length : UInt64} {file : Location}

lemma result_openAt_of_refusal {e : MemoryError} (h : refusal? base length = some e) :
    ((openAt device base length).run filter fs).result = .error (.memory e) := by
  rw [run_openAt, h]

lemma result_openAt_of_openFailure {cause : OpenFailure} (h : refusal? base length = none)
    (hopen : fs.openForWriting device = .error cause) :
    ((openAt device base length).run filter fs).result =
      .error (.memory (.openFailed device cause)) := by
  rw [run_openAt, h, hopen]

lemma result_openAt_of_mapRefusal {cause : Errno} (h : refusal? base length = none)
    (hopen : fs.openForWriting device = .ok file)
    (hmap : mapRefusal? ((fs.node? file).getD .directory) (pageBase base)
      (mappingLength base length) = some cause) :
    ((openAt device base length).run filter fs).result =
      .error (.memory (.mapFailed base cause)) := by
  rw [run_openAt, h, hopen]
  simp only [hmap]

lemma result_openAt_of_mapped (h : refusal? base length = none)
    (hopen : fs.openForWriting device = .ok file)
    (hmap : mapRefusal? ((fs.node? file).getD .directory) (pageBase base)
      (mappingLength base length) = none) :
    ((openAt device base length).run filter fs).result = .ok ⟨file, base, length⟩ := by
  rw [run_openAt, h, hopen]
  simp only [hmap]

end Result

/-- Only regular files are mapped. -/
lemma exists_regular_of_mapRefusal? {node : Node} {offset length : Nat}
    (h : mapRefusal? node offset length = none) : ∃ c, node = .regular c := by
  cases node with
  | regular c => exact ⟨c, rfl⟩
  | directory | nullDevice =>
    simp only [mapRefusal?] at h
    split_ifs at h

/-- A window that was opened shows a regular file, the one that the device leads to. -/
lemma of_openAt_eq_ok {device : Path} {base length : UInt64} {w : Window}
    (h : ((openAt device base length).run filter fs).result = .ok w) :
    ∃ l c, w = ⟨l, base, length⟩ ∧ fs.openForWriting device = .ok l ∧
      fs.contents? l = some c := by
  rw [run_openAt] at h
  split at h
  · simp at h
  · split at h
    · simp at h
    · rename_i file hfile
      simp only at h
      split at h
      · simp at h
      · rename_i hmap
        cases h
        obtain ⟨c, hc⟩ := exists_regular_of_mapRefusal? hmap
        refine ⟨file, c, rfl, hfile, (fs.contents?_eq_some_iff file).mpr ?_⟩
        cases hnode : fs.node? file with
        | none => simp [hnode] at hc
        | some node => simpa [hnode] using hc

/-- A window that was opened has a base address that is divisible by four. -/
lemma aligned_of_openAt_eq_ok {device : Path} {base length : UInt64} {w : Window}
    (h : ((openAt device base length).run filter fs).result = .ok w) : w.base.toNat % 4 = 0 := by
  obtain ⟨l, c, rfl, -⟩ := of_openAt_eq_ok h
  rw [run_openAt] at h
  cases hrefusal : refusal? base length with
  | some e =>
    rw [hrefusal] at h
    cases h
  | none =>
    unfold refusal? at hrefusal
    split_ifs at hrefusal with _ halign
    exact Decidable.not_not.mp halign

/-! ### Accesses -/

variable (w : Window)

/-- An offset stands for the position that many bytes behind the base address. -/
@[simp] lemma position_eq (offset : UInt64) : w.position offset = w.base.toNat + offset.toNat := by
  have : offsetInPage w.base ≤ w.base.toNat := Nat.mod_le _ _
  unfold position pageBase
  omega

/-- The words inside a window are those that end before its end, at each fourth offset. -/
lemma accepts_iff (offset : UInt64) :
    w.accepts offset = true ↔ offset.toNat + 4 ≤ w.length.toNat ∧ offset.toNat % 4 = 0 := by
  simp only [accepts, Bool.and_eq_true, decide_eq_true_eq, beq_iff_eq]

variable (filter) {w} {offset : UInt64}

lemma run_readWord {c : Contents} (h : w.accepts offset = true)
    (hc : fs.contents? w.file = some c) :
    let value := c.loadWord (w.base.toNat + offset.toNat)
    (w.readWord offset).run filter fs =
      ⟨.ok value, fs, if filter.passes (.wordRead offset value) then [.wordRead offset value]
        else []⟩ := by
  unfold readWord
  simp [h, hc, Action.run_tell_bind]

lemma run_readWord_of_not_accepts (h : w.accepts offset = false) :
    (w.readWord offset).run filter fs =
      ⟨.error (.memory (.outOfWindow offset w.length)), fs, []⟩ := by
  unfold readWord
  simp [h]

lemma run_writeWord {c : Contents} (h : w.accepts offset = true)
    (hc : fs.contents? w.file = some c) (value : UInt32) :
    (w.writeWord offset value).run filter fs =
      ⟨.ok (), fs.setContents w.file (c.storeWord (w.base.toNat + offset.toNat) value),
        if filter.passes (.wordWritten offset value) then [.wordWritten offset value] else []⟩ := by
  unfold writeWord
  simp [h, hc, Action.run_tell_bind]

lemma run_writeWord_of_not_accepts (h : w.accepts offset = false) (value : UInt32) :
    (w.writeWord offset value).run filter fs =
      ⟨.error (.memory (.outOfWindow offset w.length)), fs, []⟩ := by
  unfold writeWord
  simp [h]

/-- A read leaves the files alone, and tells only that a word was read. -/
lemma keeps_readWord {P : FileSystem → Prop} {Q : Log.Event → Prop}
    (hQ : ∀ offset value, Q (.wordRead offset value)) (w : Window) (offset : UInt64) :
    (w.readWord offset).Keeps P Q := by
  intro filter fs hfs
  unfold readWord
  cases h : w.accepts offset with
  | false => simpa using hfs
  | true =>
    simp only [Bool.not_true, Bool.false_eq_true, if_false, Action.run_get_bind]
    exact ((Action.Keeps.tell (hQ _ _)).bind fun _ => Action.Keeps.pure _) filter fs hfs

lemma state_readWord (w : Window) (offset : UInt64) :
    ((w.readWord offset).run filter fs).state = fs :=
  ((keeps_readWord (P := (· = fs)) (Q := fun _ => True) (fun _ _ => trivial) w offset)
    filter fs rfl).1

/-! ### Registers -/

@[simp] lemma toNat_offset (r : Register) : (UInt64.ofNat r.offset).toNat = r.offset := by
  cases r <;> rfl

/-- A window has a word for a register if the register ends before the window does. -/
lemma accepts_register_iff (w : Window) (r : Register) :
    w.accepts (UInt64.ofNat r.offset) = true ↔ r.offset + 4 ≤ w.length.toNat := by
  rw [accepts_iff, toNat_offset]
  exact and_iff_left r.offset_mod_four

/-- A window of the size of the block has a word for every register. -/
lemma accepts_register (h : w.length = UInt64.ofNat Register.blockSize) (r : Register) :
    w.accepts (UInt64.ofNat r.offset) = true := by
  rw [accepts_register_iff, h]
  exact r.offset_add_four_le

end Window

end ClockStretch
