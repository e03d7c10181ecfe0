import ClockStretch.Controller
import ClockStretch.Proofs.Action.Run
import Mathlib.Tactic.SplitIfs

/-!
# What actions keep

An action keeps a property of the state, under any filter and whether it succeeds or fails, and
tells only events of some kind. The parts of an action give this for the whole, so that a snapshot
of the registers keeps whatever the reads of the single registers keep. A snapshot that is told
never fails.
-/

namespace ClockStretch

namespace Action

variable {σ α β : Type} {P : σ → Prop} {Q : Log.Event → Prop}

/-- A property of the state is kept, and every event that is told is of a kind. -/
def Keeps (P : σ → Prop) (Q : Log.Event → Prop) (a : Action σ α) : Prop :=
  ∀ filter s, P s → P (a.run filter s).state ∧ ∀ e ∈ (a.run filter s).events, Q e

lemma Keeps.pure (x : α) : Keeps P Q (Pure.pure x : Action σ α) :=
  fun _ _ hs => ⟨hs, by simp⟩

lemma Keeps.tell {e : Log.Event} (he : Q e) : Keeps P Q (tell e : Action σ Unit) := by
  intro filter s hs
  refine ⟨hs, fun d hd => ?_⟩
  simp only [run_tell] at hd
  split_ifs at hd
  · rwa [List.mem_singleton.mp hd]
  · simp at hd

lemma Keeps.attempt {a : Action σ α} (ha : Keeps P Q a) : Keeps P Q a.attempt :=
  fun filter s hs => ha filter s hs

lemma Keeps.bind {a : Action σ α} {f : α → Action σ β} (ha : Keeps P Q a)
    (hf : ∀ x, Keeps P Q (f x)) : Keeps P Q (a >>= f) := by
  intro filter s hs
  obtain ⟨hs', hev⟩ := ha filter s hs
  cases h : (a.run filter s).result with
  | error e =>
    rw [run_bind_of_error filter s h]
    exact ⟨hs', hev⟩
  | ok x =>
    rw [run_bind_of_ok filter s h]
    obtain ⟨hs'', hev'⟩ := hf x filter _ hs'
    refine ⟨hs'', fun e he => ?_⟩
    rcases List.mem_append.mp he with he | he
    · exact hev e he
    · exact hev' e he

lemma Keeps.whenEnabled {a : Action σ Unit} (ha : Keeps P Q a) (target : Log.Target)
    (level : Log.Level) : Keeps P Q (a.whenEnabled target level) := by
  intro filter s hs
  rw [run_whenEnabled]
  split_ifs
  · exact ha filter s hs
  · exact ⟨hs, by simp⟩

/-- What is made of a value has no influence on the state. -/
lemma state_bind_pure (a : Action σ α) (f : α → β) (filter : Log.Filter) (s : σ) :
    ((a >>= fun x => Pure.pure (f x)).run filter s).state = (a.run filter s).state := by
  cases h : (a.run filter s).result with
  | error e => rw [run_bind_of_error filter s h]
  | ok x => rw [run_bind_of_ok filter s h, run_pure]

end Action

namespace Controller

open ClockStretch.Action

variable {σ : Type} {block : RegisterBlock σ} {P : σ → Prop} {Q : Log.Event → Prop}

/-! ### Snapshots -/

lemma keeps_readAll (hread : ∀ r, r.readHasSideEffects = false → Keeps P Q (block.read r))
    (rs : List Register) (snapshot : Snapshot) : Keeps P Q (readAll block rs snapshot) := by
  induction rs generalizing snapshot with
  | nil => exact Keeps.pure _
  | cons r rs ih =>
    unfold readAll
    split_ifs with h
    · exact ih snapshot
    · exact (hread r (by simpa using h)).bind fun w => ih (snapshot.add r w)

lemma keeps_tellAll {es : List Log.Event} (h : ∀ e ∈ es, Q e) :
    Keeps P Q (tellAll es : Action σ Unit) := by
  induction es with
  | nil => exact Keeps.pure _
  | cons e es ih =>
    exact (Keeps.tell (h e List.mem_cons_self)).bind fun _ =>
      ih fun d hd => h d (List.mem_cons_of_mem e hd)

/-- The events of a snapshot come from the controller and are for debugging. -/
lemma kind_of_mem_snapshotEvents {stage : Log.Stage} {s : Snapshot} {e : Log.Event}
    (h : e ∈ snapshotEvents stage s) : e.target = .controller ∧ e.level = .debug := by
  obtain ⟨⟨r, value⟩, -, rfl⟩ := List.mem_map.mp h
  cases value <;> exact ⟨rfl, rfl⟩

lemma keeps_tellSnapshot (hread : ∀ r, r.readHasSideEffects = false → Keeps P Q (block.read r))
    (hdebug : ∀ e : Log.Event, e.target = .controller → e.level = .debug → Q e)
    (stage : Log.Stage) : Keeps P Q (tellSnapshot block stage) := by
  refine Keeps.whenEnabled ?_ _ _
  refine (keeps_readAll hread Register.all .none).attempt.bind fun result => ?_
  cases result with
  | ok s =>
    refine keeps_tellAll fun e he => ?_
    obtain ⟨htarget, hlevel⟩ := kind_of_mem_snapshotEvents he
    exact hdebug e htarget hlevel
  | error e => exact Keeps.tell (hdebug _ rfl rfl)

lemma tellAll_result (filter : Log.Filter) (es : List Log.Event) (s : σ) :
    ((tellAll es).run filter s).result = .ok () := by
  induction es generalizing s with
  | nil => rfl
  | cons e es ih =>
    rw [tellAll, run_bind_of_ok filter s (x := ()) rfl]
    exact ih s

lemma tellAll_state (filter : Log.Filter) (es : List Log.Event) (s : σ) :
    ((tellAll es).run filter s).state = s := by
  induction es generalizing s with
  | nil => rfl
  | cons e es ih =>
    rw [tellAll, run_bind_of_ok filter s (x := ()) rfl]
    exact ih s

/-- A snapshot that cannot be taken is told as such, and is no failure. -/
lemma tellSnapshot_result (block : RegisterBlock σ) (stage : Log.Stage) (filter : Log.Filter)
    (s : σ) : ((tellSnapshot block stage).run filter s).result = .ok () := by
  rw [tellSnapshot, run_whenEnabled]
  split_ifs
  · rw [run_bind_of_ok filter s (x := ((snapshot block).run filter s).result) rfl]
    cases ((snapshot block).run filter s).result with
    | ok snapshot => exact tellAll_result filter _ _
    | error e => rfl
  · rfl

end Controller

end ClockStretch
