import ClockStretch.Proofs.Window.Application

/-!
# What a request does

A request that is carried out either fails and leaves all files as they were, or stores its timeout
in the word of the clock-stretch register and reports just this timeout. Nothing else of any file
changes, whatever is told meanwhile.
-/

namespace ClockStretch

namespace Request

variable {r : Request} {device : Path} {filter : Log.Filter} {fs : FileSystem}

/-- Where the registers cannot be mapped, the request fails for the same reason. -/
lemma run_of_openBlock_eq_error {e : Error} (hdevice : device.isEmpty = false)
    (hopen : ((Window.openBlock device r.base).run filter fs).result = .error e) :
    ((r.run device).run filter fs).result = .error e ∧
      ((r.run device).run filter fs).state = fs := by
  unfold run
  simp only [hdevice, Bool.false_eq_true, if_false]
  rw [Action.run_tell_bind, Action.run_bind_of_error filter fs hopen]
  exact ⟨rfl, Window.state_openAt filter fs device r.base.value (UInt64.ofNat Register.blockSize)⟩

/-- Where the registers are mapped, the request leaves its timeout in its word and in the report. -/
lemma run_of_openBlock_eq_ok {w : Window} (hdevice : device.isEmpty = false)
    (hopen : ((Window.openBlock device r.base).run filter fs).result = .ok w) :
    ∃ l c, fs.openForWriting device = .ok l ∧ fs.contents? l = some c ∧
      ((r.run device).run filter fs).result = .ok ⟨r.base, .clockStretch, r.timeout.cycles⟩ ∧
      ((r.run device).run filter fs).state =
        fs.setContents l (c.storeWord (r.base.value.toNat + Register.clockStretch.offset)
          r.timeout.cycles.toUInt32) := by
  have hstate := Window.state_openAt filter fs device r.base.value
    (UInt64.ofNat Register.blockSize)
  unfold run
  simp only [hdevice, Bool.false_eq_true, if_false]
  rw [Action.run_tell_bind, Action.run_bind_of_ok filter fs hopen]
  simp only [Window.openBlock, hstate]
  obtain ⟨l, c, rfl, hlocation, hc⟩ := Window.of_openAt_eq_ok hopen
  refine ⟨l, c, hlocation, hc, ?_⟩
  obtain ⟨hresult, hfiles⟩ := Window.apply_block
    (w := ⟨l, r.base.value, UInt64.ofNat Register.blockSize⟩) (Nat.le_refl _) hc r.timeout filter
  rw [Action.run_bind_of_ok filter fs hresult]
  simp only [Window.unmap, Action.run_tell_bind, Action.run_pure, hfiles, and_self]

/-- A request that is carried out fails with the files as they were, or leaves its timeout in its
word and in the report. -/
theorem run_cases (r : Request) (device : Path) (filter : Log.Filter) (fs : FileSystem) :
    (∃ e, ((r.run device).run filter fs).result = .error e ∧
      ((r.run device).run filter fs).state = fs) ∨
    ∃ l c, fs.openForWriting device = .ok l ∧ fs.contents? l = some c ∧
      ((r.run device).run filter fs).result = .ok ⟨r.base, .clockStretch, r.timeout.cycles⟩ ∧
      ((r.run device).run filter fs).state =
        fs.setContents l (c.storeWord (r.base.value.toNat + Register.clockStretch.offset)
          r.timeout.cycles.toUInt32) := by
  cases hdevice : device.isEmpty with
  | true =>
    unfold run
    rw [hdevice]
    exact .inl ⟨_, rfl, rfl⟩
  | false =>
    cases hopen : ((Window.openBlock device r.base).run filter fs).result with
    | error e => exact .inl ⟨e, run_of_openBlock_eq_error hdevice hopen⟩
    | ok w => exact .inr (run_of_openBlock_eq_ok hdevice hopen)

/-- What is told has no influence on what a request does. -/
theorem result_and_state_eq (r : Request) (device : Path) (filter filter' : Log.Filter)
    (fs : FileSystem) :
    ((r.run device).run filter' fs).result = ((r.run device).run filter fs).result ∧
      ((r.run device).run filter' fs).state = ((r.run device).run filter fs).state := by
  cases hdevice : device.isEmpty with
  | true =>
    unfold run
    rw [hdevice]
    exact ⟨rfl, rfl⟩
  | false =>
    have hopen' := Window.result_openAt_eq filter filter' fs device r.base.value
      (UInt64.ofNat Register.blockSize)
    cases hopen : ((Window.openBlock device r.base).run filter fs).result with
    | error e =>
      obtain ⟨hresult, hstate⟩ := run_of_openBlock_eq_error hdevice hopen
      obtain ⟨hresult', hstate'⟩ := run_of_openBlock_eq_error hdevice (hopen'.trans hopen)
      exact ⟨hresult'.trans hresult.symm, hstate'.trans hstate.symm⟩
    | ok w =>
      obtain ⟨l, c, hl, hc, hresult, hstate⟩ := run_of_openBlock_eq_ok hdevice hopen
      obtain ⟨l', c', hl', hc', hresult', hstate'⟩ :=
        run_of_openBlock_eq_ok hdevice (hopen'.trans hopen)
      cases hl'.symm.trans hl
      cases hc'.symm.trans hc
      exact ⟨hresult'.trans hresult.symm, hstate'.trans hstate.symm⟩

end Request

end ClockStretch
