import ClockStretch.Proofs.Request.Effect
import ClockStretch.Proofs.Window.Geometry

/-!
# How a request fails

The address of a request is looked at first, then the device is opened, then it is mapped. What
these three stages refuse is all that can go wrong: the length of the block and the accesses to its
registers are never at fault.
-/

namespace ClockStretch.Request

variable (filter : Log.Filter) {r : Request} {device : Path} {fs : FileSystem} {l : Location}

/-! ### The three stages -/

section

variable (hdevice : device.isEmpty = false)
include hdevice

lemma result_of_address (fs : FileSystem) (hbase : 2 ^ 63 ≤ r.base.value.toNat) :
    ((r.run device).run filter fs).result =
      .error (.memory (.addressOutOfRange r.base.value)) := by
  have hrefusal : Window.refusal? r.base.value (UInt64.ofNat Register.blockSize) =
      some (.addressOutOfRange r.base.value) := by
    rw [Window.refusal?_block, if_pos hbase]
  exact (run_of_openBlock_eq_error hdevice (Window.result_openAt_of_refusal filter hrefusal)).1

variable (hbase : r.base.value.toNat < 2 ^ 63)
include hbase

lemma result_of_openFailure {cause : OpenFailure}
    (hopen : fs.openForWriting device = .error cause) :
    ((r.run device).run filter fs).result = .error (.memory (.openFailed device cause)) := by
  have hfailed := Window.result_openAt_of_openFailure filter (Window.refusal?_block_of_lt hbase)
    hopen
  exact (run_of_openBlock_eq_error hdevice hfailed).1

/-- What is said of a device that was opened, by whether it can be mapped. -/
lemma result_of_location (hopen : fs.openForWriting device = .ok l) :
    let refusal? := Window.mapRefusal? ((fs.node? l).getD .directory)
      (Window.pageBase r.base.value)
      (Window.mappingLength r.base.value (UInt64.ofNat Register.blockSize))
    (∃ cause, refusal? = some cause ∧
      ((r.run device).run filter fs).result = .error (.memory (.mapFailed r.base.value cause))) ∨
    refusal? = none ∧
      ((r.run device).run filter fs).result = .ok ⟨r.base, .clockStretch, r.timeout.cycles⟩ := by
  intro refusal?
  have hrefusal := Window.refusal?_block_of_lt hbase
  cases hmap : refusal? with
  | some cause =>
    have hfailed := Window.result_openAt_of_mapRefusal filter hrefusal hopen hmap
    exact .inl ⟨cause, rfl, (run_of_openBlock_eq_error hdevice hfailed).1⟩
  | none =>
    have hmapped := Window.result_openAt_of_mapped filter hrefusal hopen hmap
    obtain ⟨-, -, -, -, hresult, -⟩ := run_of_openBlock_eq_ok hdevice hmapped
    exact .inr ⟨rfl, hresult⟩

/-- A regular file is mapped unless the registers end in the last page of the offsets. -/
lemma result_of_regularFile {c : Contents} (hopen : fs.openForWriting device = .ok l)
    (hc : fs.contents? l = some c) :
    ((r.run device).run filter fs).result =
      if 2 ^ 63 - 4096 < r.base.value.toNat + 32 then
        .error (.memory (.mapFailed r.base.value .overflow))
      else .ok ⟨r.base, .clockStretch, r.timeout.cycles⟩ := by
  have hcases := result_of_location filter hdevice hbase hopen
  rw [(fs.contents?_eq_some_iff l).mp hc, Option.getD_some, Window.mapRefusal?_block] at hcases
  split_ifs at hcases ⊢ with hend
  · rcases hcases with ⟨cause, hcause, hresult⟩ | ⟨hnone, -⟩
    · cases hcause
      exact hresult
    · cases hnone
  · rcases hcases with ⟨cause, hcause, -⟩ | ⟨-, hresult⟩
    · cases hcause
    · exact hresult

omit hbase in
/-- The stage at which a request ends, and how. -/
lemma result_cases (fs : FileSystem) :
    (2 ^ 63 ≤ r.base.value.toNat ∧
      ((r.run device).run filter fs).result =
        .error (.memory (.addressOutOfRange r.base.value))) ∨
    (r.base.value.toNat < 2 ^ 63 ∧ ∃ cause, fs.openForWriting device = .error cause ∧
      ((r.run device).run filter fs).result = .error (.memory (.openFailed device cause))) ∨
    r.base.value.toNat < 2 ^ 63 ∧ ∃ l, fs.openForWriting device = .ok l ∧
      ((∃ cause, ((r.run device).run filter fs).result =
          .error (.memory (.mapFailed r.base.value cause))) ∨
        ((r.run device).run filter fs).result = .ok ⟨r.base, .clockStretch, r.timeout.cycles⟩) := by
  rcases Nat.lt_or_ge r.base.value.toNat (2 ^ 63) with hbase | hbase
  · cases hopen : fs.openForWriting device with
    | error cause =>
      exact .inr (.inl ⟨hbase, cause, rfl, result_of_openFailure filter hdevice hbase hopen⟩)
    | ok l =>
      refine .inr (.inr ⟨hbase, l, rfl, ?_⟩)
      rcases result_of_location filter hdevice hbase hopen with
        ⟨cause, -, hresult⟩ | ⟨-, hresult⟩
      · exact .inl ⟨cause, hresult⟩
      · exact .inr hresult
  · exact .inl ⟨hbase, result_of_address filter hdevice fs hbase⟩

end

/-- What can go wrong with a request on a device, and just when. The address is refused if it is not
below 2⁶³, whatever the device is; then the device is refused if it cannot be opened for writing;
then a regular file is refused if the registers end in the last page below 2⁶³. Otherwise the
request succeeds, and no other error is ever reported. -/
theorem run_fails_exactly (r : Request) {device : Path} (hdevice : device.isEmpty = false)
    (filter : Log.Filter) (fs : FileSystem) :
    let result := ((r.run device).run filter fs).result
    let base := r.base.value.toNat
    (∀ e, result = .error e →
      e = .memory (.addressOutOfRange r.base.value) ∨
      (∃ cause, e = .memory (.openFailed device cause)) ∨
      ∃ cause, e = .memory (.mapFailed r.base.value cause)) ∧
    ((∀ b, result ≠ .error (.memory (.misaligned b))) ∧
      result ≠ .error (.memory .emptyWindow) ∧
      ∀ offset length, result ≠ .error (.memory (.outOfWindow offset length))) ∧
    (result = .error (.memory (.addressOutOfRange r.base.value)) ↔ 2 ^ 63 ≤ base) ∧
    (∀ cause, result = .error (.memory (.openFailed device cause)) ↔
      base < 2 ^ 63 ∧ fs.openForWriting device = .error cause) ∧
    ∀ l c, fs.openForWriting device = .ok l → fs.contents? l = some c →
      (result = .error (.memory (.mapFailed r.base.value .overflow)) ↔
        base < 2 ^ 63 ∧ 2 ^ 63 - 4096 < base + 32) ∧
      (result = .ok ⟨r.base, .clockStretch, r.timeout.cycles⟩ ↔ base + 32 ≤ 2 ^ 63 - 4096) := by
  intro result base
  have hcases := result_cases filter (r := r) hdevice fs
  refine ⟨fun e he => ?kinds, ?never, ?address, fun cause => ?device, fun l c hopen hc => ?mapping⟩
  case kinds =>
    rcases hcases with ⟨-, h⟩ | ⟨-, cause, -, h⟩ | ⟨-, l, -, ⟨cause, h⟩ | h⟩
    · exact .inl (Except.error.inj (he.symm.trans h))
    · exact .inr (.inl ⟨cause, Except.error.inj (he.symm.trans h)⟩)
    · exact .inr (.inr ⟨cause, Except.error.inj (he.symm.trans h)⟩)
    · cases he.symm.trans h
  case never =>
    rcases hcases with ⟨-, h⟩ | ⟨-, cause, -, h⟩ | ⟨-, l, -, ⟨cause, h⟩ | h⟩ <;> simp [result, h]
  case address =>
    refine ⟨fun he => ?_, result_of_address filter hdevice fs⟩
    rcases hcases with ⟨hbase, -⟩ | ⟨-, cause, -, h⟩ | ⟨-, l, -, ⟨cause, h⟩ | h⟩
    · exact hbase
    · cases he.symm.trans h
    · cases he.symm.trans h
    · cases he.symm.trans h
  case device =>
    refine ⟨fun he => ?_, fun ⟨hbase, hopen⟩ => result_of_openFailure filter hdevice hbase hopen⟩
    rcases hcases with ⟨-, h⟩ | ⟨hbase, cause, hopen, h⟩ | ⟨-, l, -, ⟨cause, h⟩ | h⟩
    · cases he.symm.trans h
    · cases he.symm.trans h
      exact ⟨hbase, hopen⟩
    · cases he.symm.trans h
    · cases he.symm.trans h
  case mapping =>
    rcases Nat.lt_or_ge base (2 ^ 63) with hbase | hbase
    · have h := result_of_regularFile filter hdevice hbase hopen hc
      by_cases hend : 2 ^ 63 - 4096 < base + 32
      · rw [if_pos hend] at h
        exact ⟨iff_of_true h ⟨hbase, hend⟩, iff_of_false (by simp [result, h]) (by omega)⟩
      · rw [if_neg hend] at h
        exact ⟨iff_of_false (by simp [result, h]) (by omega), iff_of_true h (by omega)⟩
    · have h := result_of_address filter hdevice fs hbase
      exact ⟨iff_of_false (by simp [result, h]) (by omega),
        iff_of_false (by simp [result, h]) (by omega)⟩

/-- The last address at which the registers of a device are mapped, and the one behind it. -/
theorem run_fails_exactly_behind_last_page :
    let fs : FileSystem := ⟨[([[0x64]], .regular (.zeros (2 ^ 63 - 4096)))], []⟩
    let device : Path := ⟨[0x64]⟩
    let last : Request := ⟨⟨0x7fffffffffffefe0, by decide⟩, ⟨1, by decide⟩⟩
    let next : Request := ⟨⟨0x7fffffffffffefe4, by decide⟩, ⟨1, by decide⟩⟩
    device.isEmpty = false ∧ fs.openForWriting device = .ok [[0x64]] ∧
      fs.contents? [[0x64]] = some (.zeros (2 ^ 63 - 4096)) ∧
      ((last.run device).run (.upTo none) fs).result = .ok ⟨last.base, .clockStretch, 1⟩ ∧
      ((next.run device).run (.upTo none) fs).result =
        .error (.memory (.mapFailed next.base.value .overflow)) := by
  intro fs device last next
  have hdevice : device.isEmpty = false := rfl
  have hopen : fs.openForWriting device = .ok [[0x64]] := by rfl
  have hc : fs.contents? [[0x64]] = some (.zeros (2 ^ 63 - 4096)) := by rfl
  obtain ⟨-, -, -, -, hlast⟩ := run_fails_exactly last hdevice (.upTo none) fs
  obtain ⟨-, -, -, -, hnext⟩ := run_fails_exactly next hdevice (.upTo none) fs
  exact ⟨hdevice, hopen, hc, (hlast _ _ hopen hc).2.mpr (by decide),
    (hnext _ _ hopen hc).1.mpr (by decide)⟩

end ClockStretch.Request
