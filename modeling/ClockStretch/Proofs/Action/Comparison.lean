import ClockStretch.Proofs.Action.Keeping

/-!
# Two runs compared

Two actions are run side by side, each under a filter of its own and on states of its own. They
agree if from related states they give the same result, leave related states, and tell the same
events, where on each side only some events count. The parts of two actions give this for the
whole. So two blocks of registers whose reads and writes agree cannot be told apart by the
controller.
-/

namespace ClockStretch

/-- How two runs are compared: the filter of each, the events of each that count, and the states
that are related. -/
structure Comparison (σ τ : Type) where
  leftFilter : Log.Filter
  rightFilter : Log.Filter
  leftCounts : Log.Event → Bool
  rightCounts : Log.Event → Bool
  Related : σ → τ → Prop

namespace Comparison

variable {σ τ α β : Type} (v : Comparison σ τ)

/-- Two effects that cannot be told apart. -/
structure Matches (e : Effect σ α) (d : Effect τ α) : Prop where
  result : e.result = d.result
  state : v.Related e.state d.state
  events : e.events.filter v.leftCounts = d.events.filter v.rightCounts

/-- Two actions whose effects match from all related states. -/
def Agree (a : Action σ α) (b : Action τ α) : Prop :=
  ∀ s t, v.Related s t → v.Matches (a.run v.leftFilter s) (b.run v.rightFilter t)

/-- An event that is let through and counts on both sides or on none. -/
def Alike (e : Log.Event) : Prop :=
  (v.leftFilter.passes e && v.leftCounts e) = (v.rightFilter.passes e && v.rightCounts e)

variable {v}

/-! ### Parts of actions -/

lemma Agree.pure (x : α) : v.Agree (Pure.pure x) (Pure.pure x) :=
  fun _ _ h => ⟨rfl, h, rfl⟩

lemma Agree.fail (e : Error) : v.Agree (Action.fail e : Action σ α) (Action.fail e) :=
  fun _ _ h => ⟨rfl, h, rfl⟩

lemma Agree.tell {e : Log.Event} (he : v.Alike e) : v.Agree (Action.tell e) (Action.tell e) := by
  refine fun _ _ h => ⟨rfl, h, ?_⟩
  have h₁ : ∀ (filter : Log.Filter) (counts : Log.Event → Bool),
      (if filter.passes e then [e] else []).filter counts =
        if filter.passes e && counts e then [e] else [] := by
    intro filter counts
    cases filter.passes e <;> cases hc : counts e <;> simp [hc]
  simp only [Action.run_tell, h₁]
  rw [he]

lemma Agree.get {σ : Type} {v : Comparison σ σ} (h : ∀ s t, v.Related s t → s = t) :
    v.Agree Action.get Action.get :=
  fun s t hst => ⟨congrArg Except.ok (h s t hst), hst, rfl⟩

lemma Agree.set {s : σ} {t : τ} (h : v.Related s t) : v.Agree (Action.set s) (Action.set t) :=
  fun _ _ _ => ⟨rfl, h, rfl⟩

lemma Agree.bind {a : Action σ α} {b : Action τ α} {f : α → Action σ β} {g : α → Action τ β}
    (h : v.Agree a b) (hfg : ∀ x, v.Agree (f x) (g x)) : v.Agree (a >>= f) (b >>= g) := by
  intro s t hst
  obtain ⟨hr, hs, he⟩ := h s t hst
  cases hb : (b.run v.rightFilter t).result with
  | error e =>
    rw [Action.run_bind_of_error _ _ (hr.trans hb), Action.run_bind_of_error _ _ hb]
    exact ⟨rfl, hs, he⟩
  | ok x =>
    rw [Action.run_bind_of_ok _ _ (hr.trans hb), Action.run_bind_of_ok _ _ hb]
    obtain ⟨hr', hs', he'⟩ := hfg x _ _ hs
    refine ⟨hr', hs', ?_⟩
    simp only [List.filter_append, he, he']

/-- After a failure nothing is compared. -/
lemma Agree.fail_bind (e : Error) (f : α → Action σ β) (g : α → Action τ β) :
    v.Agree (Action.fail e >>= f) (Action.fail e >>= g) :=
  fun _ _ h => ⟨rfl, h, rfl⟩

lemma Agree.attempt {a : Action σ α} {b : Action τ α} (h : v.Agree a b) :
    v.Agree a.attempt b.attempt := by
  intro s t hst
  obtain ⟨hr, hs, he⟩ := h s t hst
  exact ⟨congrArg Except.ok hr, hs, he⟩

/-- What both sides leave out, or neither of them. -/
lemma Agree.whenEnabled {a : Action σ Unit} {b : Action τ Unit} (h : v.Agree a b)
    {target : Log.Target} {level : Log.Level}
    (henables : v.leftFilter.enables target level = v.rightFilter.enables target level) :
    v.Agree (a.whenEnabled target level) (b.whenEnabled target level) := by
  intro s t hst
  rw [Action.run_whenEnabled, Action.run_whenEnabled, henables]
  split_ifs
  · exact h s t hst
  · exact ⟨rfl, hst, rfl⟩

lemma agree_tellAll {es : List Log.Event} (hes : ∀ e ∈ es, v.Alike e) :
    v.Agree (Controller.tellAll es) (Controller.tellAll es) := by
  induction es with
  | nil => exact Agree.pure _
  | cons e es ih =>
    exact (Agree.tell (hes e List.mem_cons_self)).bind fun _ =>
      ih fun d hd => hes d (List.mem_cons_of_mem e hd)

/-! ### Setting a timeout -/

section Set

variable {b : RegisterBlock σ} {c : RegisterBlock τ}

/-- Reading the timeout agrees if reading its register does. -/
lemma Agree.clockStretchTimeout (hread : v.Agree (b.read .clockStretch) (c.read .clockStretch)) :
    v.Agree (Controller.clockStretchTimeout b) (Controller.clockStretchTimeout c) :=
  hread.bind fun _ => Agree.pure _

/-- Setting the timeout agrees if writing and reading its register do. -/
lemma Agree.setClockStretchTimeout
    (hwrite : ∀ w, v.Agree (b.write .clockStretch w) (c.write .clockStretch w))
    (hread : v.Agree (b.read .clockStretch) (c.read .clockStretch))
    (htell : ∀ e : Log.Event, e.target = .controller → v.Alike e) (timeout : Timeout) :
    v.Agree (Controller.setClockStretchTimeout b timeout)
      (Controller.setClockStretchTimeout c timeout) := by
  refine (hwrite _).bind fun _ => ?_
  refine hread.clockStretchTimeout.bind fun tout => ?_
  split_ifs
  · exact (Agree.tell (htell _ rfl)).bind fun _ => Agree.pure tout
  · exact (Agree.tell (htell _ rfl)).bind fun _ => Agree.pure tout

/-- The whole of an application agrees if setting the timeout and the two snapshots do. -/
lemma Agree.apply {timeout : Timeout}
    (hset : v.Agree (Controller.setClockStretchTimeout b timeout)
      (Controller.setClockStretchTimeout c timeout))
    (hsnapshot : ∀ stage,
      v.Agree (Controller.tellSnapshot b stage) (Controller.tellSnapshot c stage)) :
    v.Agree (Controller.apply b timeout) (Controller.apply c timeout) := by
  refine (hsnapshot .before).bind fun _ => ?_
  refine hset.bind fun tout => ?_
  exact (hsnapshot .after).bind fun _ => Agree.pure tout

end Set

/-! ### Blocks of registers -/

/-- Two blocks of registers whose accesses agree. -/
structure AgreeOn (v : Comparison σ τ) (b : RegisterBlock σ) (c : RegisterBlock τ) : Prop where
  read : ∀ r, v.Agree (b.read r) (c.read r)
  write : ∀ r w, v.Agree (b.write r w) (c.write r w)

section Controller

variable {b : RegisterBlock σ} {c : RegisterBlock τ} (h : v.AgreeOn b c)
include h

lemma agree_readAll (rs : List Register) (snapshot : Snapshot) :
    v.Agree (Controller.readAll b rs snapshot) (Controller.readAll c rs snapshot) := by
  induction rs generalizing snapshot with
  | nil => exact Agree.pure _
  | cons r rs ih =>
    unfold Controller.readAll
    split_ifs
    · exact ih snapshot
    · exact (h.read r).bind fun w => ih (snapshot.add r w)

lemma agree_clockStretchTimeout :
    v.Agree (Controller.clockStretchTimeout b) (Controller.clockStretchTimeout c) :=
  (h.read .clockStretch).clockStretchTimeout

variable (htell : ∀ e : Log.Event, e.target = .controller → v.Alike e)
include htell

lemma agree_setClockStretchTimeout (timeout : Timeout) :
    v.Agree (Controller.setClockStretchTimeout b timeout)
      (Controller.setClockStretchTimeout c timeout) :=
  .setClockStretchTimeout (h.write .clockStretch) (h.read .clockStretch) htell timeout

/-- A snapshot agrees where both sides take it, or neither of them. -/
lemma agree_tellSnapshot
    (henables : v.leftFilter.enables .controller .debug = v.rightFilter.enables .controller .debug)
    (stage : Log.Stage) :
    v.Agree (Controller.tellSnapshot b stage) (Controller.tellSnapshot c stage) := by
  refine Agree.whenEnabled ?_ henables
  refine (agree_readAll h Register.all .none).attempt.bind fun result => ?_
  cases result with
  | ok s =>
    exact agree_tellAll fun e he => htell e (Controller.kind_of_mem_snapshotEvents he).1
  | error e => exact Agree.tell (htell _ rfl)

/-- The whole of an application agrees if its two snapshots do. -/
lemma agree_apply
    (hsnapshot : ∀ stage,
      v.Agree (Controller.tellSnapshot b stage) (Controller.tellSnapshot c stage))
    (timeout : Timeout) :
    v.Agree (Controller.apply b timeout) (Controller.apply c timeout) :=
  (agree_setClockStretchTimeout h htell timeout).apply hsnapshot

end Controller

end Comparison

end ClockStretch
