import ClockStretch.Proofs.Window.Geometry

/-!
# Opening windows

The arguments of a window are looked at one after another, and all of them before the device. What
is wrong with them is found alike for every device and all files, and nothing is told of it. Only
then the device is opened and mapped, and nothing but these two can still fail. What is said of the
arguments is true but for one error: a window that would need too long a mapping is refused as
empty.
-/

namespace ClockStretch.Window

/-- The arguments of a window are refused: with the same error for every device and all files, which
stay as they are, and without an event. -/
def Refuses (base length : UInt64) (e : MemoryError) : Prop :=
  ∀ (device : Path) (filter : Log.Filter) (fs : FileSystem),
    (openAt device base length).run filter fs = ⟨.error (.memory e), fs, []⟩

/-- A window is opened as far as the device and the mapping allow. A device that cannot be opened
makes it fail without an event; a device that can be opened is told, and mapped or not. -/
def TriesDevice (base length : UInt64) : Prop :=
  ∀ (device : Path) (filter : Log.Filter) (fs : FileSystem),
    let effect := (openAt device base length).run filter fs
    let mapping := Log.Event.mapping device base (pageBase base) (mappingLength base length)
    let told := if filter.passes mapping then [mapping] else []
    (∃ cause, fs.openForWriting device = .error cause ∧
      effect = ⟨.error (.memory (.openFailed device cause)), fs, []⟩) ∨
    ∃ file, fs.openForWriting device = .ok file ∧
      ((∃ cause, effect = ⟨.error (.memory (.mapFailed base cause)), fs, told⟩) ∨
        effect = ⟨.ok ⟨file, base, length⟩, fs, told⟩)

variable {base length : UInt64}

lemma refuses_of_refusal? {e : MemoryError} (h : refusal? base length = some e) :
    Refuses base length e := by
  intro device filter fs
  rw [run_openAt, h]

lemma triesDevice_of_refusal? (h : refusal? base length = none) : TriesDevice base length := by
  intro device filter fs
  simp only [run_openAt, h]
  cases fs.openForWriting device with
  | error cause => exact .inl ⟨cause, rfl, rfl⟩
  | ok file =>
    refine .inr ⟨file, rfl, ?_⟩
    simp only
    cases mapRefusal? ((fs.node? file).getD .directory) (pageBase base)
      (mappingLength base length) with
    | some cause => exact .inl ⟨cause, rfl⟩
    | none => exact .inr rfl

/-- The arguments of a window are looked at before its device: first whether it is empty, then
whether its address is divisible by four, then whether this is below 2⁶³, as it is just if its page
is, and last whether the mapping is shorter than 2⁶⁴ bytes. The first of these that is wrong is
reported, whatever the device and the files are. If none is wrong the device is tried. -/
theorem openAt_checks_arguments_first (base length : UInt64) :
    (if length = 0 then Refuses base length .emptyWindow
      else if base.toNat % 4 ≠ 0 then Refuses base length (.misaligned base)
      else if 2 ^ 63 ≤ base.toNat then Refuses base length (.addressOutOfRange base)
      else if 2 ^ 64 ≤ base.toNat % pageSize + length.toNat then ∃ e, Refuses base length e
      else TriesDevice base length) ∧
    (2 ^ 63 ≤ base.toNat ↔ 2 ^ 63 - 1 < pageBase base) := by
  have hrefusal := refusal?_eq base length
  refine ⟨?order, ?page⟩
  case order =>
    split_ifs at hrefusal ⊢ with hempty hmod hbase hlength
    · exact refuses_of_refusal? hrefusal
    · exact refuses_of_refusal? hrefusal
    · exact refuses_of_refusal? hrefusal
    · exact ⟨_, refuses_of_refusal? hrefusal⟩
    · exact triesDevice_of_refusal? hrefusal
  case page =>
    have hpage : offsetLimit ≤ pageBase base ↔ offsetLimit ≤ base.toNat :=
      offsetLimit_le_pageBase_iff
    have hlimit : offsetLimit = 2 ^ 63 := rfl
    omega

/-! ### Windows refused as empty -/

/-- Which arguments are refused for an empty window. -/
lemma refusal?_eq_emptyWindow_iff :
    refusal? base length = some .emptyWindow ↔
      length = 0 ∨ base.toNat % 4 = 0 ∧ base.toNat < 2 ^ 63 ∧
        2 ^ 64 ≤ base.toNat % pageSize + length.toNat := by
  rw [refusal?_eq]
  split_ifs with hempty hmod hbase hlength
  · exact iff_of_true rfl (.inl hempty)
  · exact iff_of_false (by simp) fun h => hmod (h.resolve_left hempty).1
  · exact iff_of_false (by simp) fun h => Nat.not_lt.mpr hbase (h.resolve_left hempty).2.1
  · exact iff_of_true rfl (.inr ⟨Decidable.not_not.mp hmod, Nat.not_le.mp hbase, hlength⟩)
  · exact iff_of_false (by simp) fun h => hlength (h.resolve_left hempty).2.2

/-- Neither the device nor the files have a part in it that a window is refused as empty. -/
lemma result_openAt_eq_emptyWindow_iff (device : Path) (filter : Log.Filter) (fs : FileSystem) :
    ((openAt device base length).run filter fs).result = .error (.memory .emptyWindow) ↔
      refusal? base length = some .emptyWindow := by
  cases hrefusal : refusal? base length with
  | some e => simp [refuses_of_refusal? hrefusal device filter fs]
  | none =>
    rcases triesDevice_of_refusal? hrefusal device filter fs with
      ⟨cause, -, heffect⟩ | ⟨file, -, ⟨cause, heffect⟩ | heffect⟩
    · simp [heffect]
    · simp [heffect]
    · simp [heffect]

/-- A window is refused as empty not only if it is empty. It is so too if its address is one that
can be mapped, but so far behind the start of its page that the mapping would have 2⁶⁴ bytes or
more. As an address that is divisible by four is at most 4092 bytes behind this start, the length
then is one of the last 4092. -/
theorem openAt_refuses_as_empty_iff (device : Path) (base length : UInt64) (filter : Log.Filter)
    (fs : FileSystem) :
    let effect := (openAt device base length).run filter fs
    (effect.result = .error (.memory .emptyWindow) ↔
      length = 0 ∨ base.toNat % 4 = 0 ∧ base.toNat < 2 ^ 63 ∧
        2 ^ 64 ≤ base.toNat % pageSize + length.toNat) ∧
    (effect.result = .error (.memory .emptyWindow) →
      length = 0 ∨ 2 ^ 64 - 4092 ≤ length.toNat) := by
  intro effect
  have hiff : effect.result = .error (.memory .emptyWindow) ↔ _ :=
    (result_openAt_eq_emptyWindow_iff device filter fs).trans refusal?_eq_emptyWindow_iff
  refine ⟨hiff, fun h => (hiff.mp h).imp_right fun ⟨hmod, _, hlength⟩ => ?_⟩
  have hpage : base.toNat % pageSize ≤ 4092 := by
    unfold pageSize
    omega
  omega

/-- A window of all bytes behind the first word of the first page is refused as empty. -/
theorem openAt_refuses_all_but_first_word_as_empty :
    let length : UInt64 := 0xfffffffffffffffc
    let effect := (openAt ⟨[0x2f, 0x64]⟩ 4 length).run (.upTo none) ⟨[], []⟩
    ¬ (effect.result = .error (.memory .emptyWindow) → length = 0) := by
  intro length effect h
  have hrefusal : refusal? 4 length = some .emptyWindow := by decide
  exact absurd (h ((result_openAt_eq_emptyWindow_iff _ _ _).mpr hrefusal)) (by decide)

end ClockStretch.Window
