import ClockStretch.Proofs.Action.Process
import ClockStretch.Proofs.Memory.History
import ClockStretch.Proofs.Window.Access

/-!
# Windows side by side

Any number of windows are open at once, on any devices, and are opened, read, written and closed in
any order. Through all windows onto one file the same flat memory is seen: a read gives the word
that was written last at its position, through whatever window, or else the word of the file.
Nothing but a write inside a window changes a file, and it changes just the four bytes of its word.
-/

namespace ClockStretch

/-- The files, and the windows that are open by their numbers. -/
structure Session where
  files : FileSystem
  windows : Nat → Option Window

namespace Session

/-- What is done with the windows. A window that is dropped is closed without a report. -/
inductive Step where
  | openAt (id : Nat) (device : Path) (base length : UInt64)
  | read (id : Nat) (offset : UInt64)
  | write (id : Nat) (offset : UInt64) (value : UInt32)
  | unmap (id : Nat)
  | drop (id : Nat)

/-- What a step gives. -/
inductive Answer where
  | done
  | word (value : UInt32)
  | noWindow

/-- No window is open. -/
def start (fs : FileSystem) : Session := ⟨fs, fun _ => none⟩

/-- An action on the files. -/
def onFiles {α : Type} (a : Action FileSystem α) : Action Session α := fun filter s =>
  let effect := a.run filter s.files
  ⟨effect.result, { s with files := effect.state }, effect.events⟩

/-- The window of a number is replaced, or closed. -/
def setWindow (id : Nat) (w? : Option Window) : Action Session Unit := do
  let s ← Action.get
  Action.set { s with windows := fun i => if i = id then w? else s.windows i }

/-- What is done with a window, if it is open. -/
def withWindow (id : Nat) (f : Window → Action Session Answer) : Action Session Answer := do
  let s ← Action.get
  match s.windows id with
  | some w => f w
  | none   => pure .noWindow

/-- One step. A window that cannot be opened leaves the one of the same number open. -/
def perform : Step → Action Session Answer
  | .openAt id device base length => do
    let w ← onFiles (Window.openAt device base length)
    setWindow id (some w)
    pure .done
  | .read id offset               => withWindow id fun w => do
    let value ← onFiles (w.readWord offset)
    pure (.word value)
  | .write id offset value        => withWindow id fun w => do
    onFiles (w.writeWord offset value)
    pure .done
  | .unmap id                     => withWindow id fun w => do
    setWindow id none
    onFiles w.unmap
    pure .done
  | .drop id                      => withWindow id fun _ => do
    setWindow id none
    pure .done

/-- The word that a step stores: one that is written at an offset that its window accepts. -/
def store? : Step → Session → Option Store
  | .write id offset value, s =>
    match s.windows id with
    | some w =>
      if w.accepts offset then some ⟨w.file, w.base.toNat + offset.toNat, value⟩ else none
    | none   => none
  | _,                      _ => none

/-- Steps one after another, each under a filter of events of its own. -/
def steps : Process Session (Log.Filter × Step) Store where
  next step s := ((perform step.2).run step.1 s).state
  mark? step s := store? step.2 s

/-! ### Single steps -/

variable {filter : Log.Filter} {s : Session} {id : Nat} {w : Window}

@[simp] lemma run_onFiles {α : Type} (a : Action FileSystem α) :
    (onFiles a).run filter s =
      ⟨(a.run filter s.files).result, { s with files := (a.run filter s.files).state },
        (a.run filter s.files).events⟩ := rfl

lemma run_onFiles_bind_pure {α : Type} (a : Action FileSystem α) (f : α → Answer) :
    (onFiles a >>= fun x => Pure.pure (f x)).run filter s =
      ⟨(a.run filter s.files).result.map f, { s with files := (a.run filter s.files).state },
        (a.run filter s.files).events⟩ := by
  cases h : (a.run filter s.files).result with
  | error e =>
    rw [Action.run_bind_of_error filter s h, run_onFiles]
    rfl
  | ok x =>
    rw [Action.run_bind_of_ok filter s h, run_onFiles, Action.run_pure]
    simp only [List.append_nil]
    rfl

@[simp] lemma run_setWindow_bind {α : Type} (w? : Option Window) (f : Unit → Action Session α) :
    (setWindow id w? >>= f).run filter s =
      (f ()).run filter { s with windows := fun i => if i = id then w? else s.windows i } := rfl

lemma run_withWindow_of_some (h : s.windows id = some w) (f : Window → Action Session Answer) :
    (withWindow id f).run filter s = (f w).run filter s := by
  rw [withWindow, Action.run_get_bind, h]

lemma run_withWindow_of_none (h : s.windows id = none) (f : Window → Action Session Answer) :
    (withWindow id f).run filter s = ⟨.ok .noWindow, s, []⟩ := by
  rw [withWindow, Action.run_get_bind, h]
  rfl

lemma run_read (h : s.windows id = some w) (offset : UInt64) :
    (perform (.read id offset)).run filter s =
      ⟨((w.readWord offset).run filter s.files).result.map .word,
        { s with files := ((w.readWord offset).run filter s.files).state },
        ((w.readWord offset).run filter s.files).events⟩ := by
  rw [perform, run_withWindow_of_some h, run_onFiles_bind_pure]

lemma run_write (h : s.windows id = some w) (offset : UInt64) (value : UInt32) :
    (perform (.write id offset value)).run filter s =
      ⟨((w.writeWord offset value).run filter s.files).result.map fun _ => .done,
        { s with files := ((w.writeWord offset value).run filter s.files).state },
        ((w.writeWord offset value).run filter s.files).events⟩ := by
  rw [perform, run_withWindow_of_some h, run_onFiles_bind_pure]

variable (filter s id) in
/-- Opening changes no file. If it fails all windows stay, else the new one has its number. -/
lemma state_openAt (device : Path) (base length : UInt64) :
    ((perform (.openAt id device base length)).run filter s).state = s ∨
    ∃ w, ((Window.openAt device base length).run filter s.files).result = .ok w ∧
      ((perform (.openAt id device base length)).run filter s).state =
        { s with windows := fun i => if i = id then some w else s.windows i } := by
  have hfiles := Window.state_openAt filter s.files device base length
  rw [perform]
  cases h : ((Window.openAt device base length).run filter s.files).result with
  | error e =>
    rw [Action.run_bind_of_error filter s h, run_onFiles, hfiles]
    exact .inl rfl
  | ok w =>
    rw [Action.run_bind_of_ok filter s h, run_onFiles, hfiles]
    exact .inr ⟨w, rfl, rfl⟩

lemma state_read (offset : UInt64) : ((perform (.read id offset)).run filter s).state = s := by
  cases h : s.windows id with
  | none => rw [perform, run_withWindow_of_none h]
  | some w => rw [run_read h, Window.state_readWord]

/-- Closing changes no file, and leaves all other windows open. -/
lemma state_close {step : Step} (h : step = .unmap id ∨ step = .drop id) :
    ((perform step).run filter s).state =
      { s with windows := fun i => if i = id then none else s.windows i } := by
  cases hw : s.windows id with
  | none =>
    have hsame : (fun i => if i = id then none else s.windows i) = s.windows := by
      funext i
      split_ifs with hi
      · rw [hi, hw]
      · rfl
    rw [hsame]
    rcases h with rfl | rfl <;> rw [perform, run_withWindow_of_none hw]
  | some w =>
    rcases h with rfl | rfl
    · rw [perform, run_withWindow_of_some hw, run_setWindow_bind, run_onFiles_bind_pure]
      rfl
    · rw [perform, run_withWindow_of_some hw, run_setWindow_bind]
      rfl

/-- A step that stores no word changes no file. -/
lemma files_of_store?_eq_none {step : Step} (h : store? step s = none) :
    ((perform step).run filter s).state.files = s.files := by
  cases step with
  | openAt id device base length =>
    rcases state_openAt filter s id device base length with
      hstate | ⟨w, -, hstate⟩ <;> rw [hstate]
  | read id offset => rw [state_read]
  | write id offset value =>
    cases hw : s.windows id with
    | none => rw [perform, run_withWindow_of_none hw]
    | some w =>
      simp only [store?, hw, ite_eq_right_iff, reduceCtorEq, imp_false, Bool.not_eq_true] at h
      rw [run_write hw, Window.run_writeWord_of_not_accepts filter h]
  | unmap id => rw [state_close (.inl rfl)]
  | drop id => rw [state_close (.inr rfl)]

lemma exists_write_of_store?_eq_some {step : Step} {st : Store} (h : store? step s = some st) :
    ∃ id w offset value, step = .write id offset value ∧ s.windows id = some w ∧
      w.accepts offset = true ∧ st = ⟨w.file, w.base.toNat + offset.toNat, value⟩ := by
  cases step with
  | write id offset value =>
    cases hw : s.windows id with
    | none => simp [store?, hw] at h
    | some w =>
      simp only [store?, hw, Option.ite_none_right_eq_some, Option.some.injEq] at h
      exact ⟨id, w, offset, value, rfl, hw, h.1, h.2.symm⟩
  | openAt | read | unmap | drop => cases h

/-- A window that is open after a step was open before, or has just been opened. -/
lemma windows_perform {step : Step} {i : Nat}
    (h : ((perform step).run filter s).state.windows i = some w) :
    s.windows i = some w ∨ ∃ device base length,
      ((Window.openAt device base length).run filter s.files).result = .ok w := by
  cases step with
  | openAt id device base length =>
    rcases state_openAt filter s id device base length with
      hstate | ⟨w', hopen, hstate⟩
    · rw [hstate] at h
      exact .inl h
    · rw [hstate] at h
      simp only at h
      split_ifs at h
      · cases h
        exact .inr ⟨device, base, length, hopen⟩
      · exact .inl h
  | read id offset =>
    rw [state_read] at h
    exact .inl h
  | write id offset value =>
    cases hw : s.windows id with
    | none =>
      rw [perform, run_withWindow_of_none hw] at h
      exact .inl h
    | some w' =>
      rw [run_write hw] at h
      exact .inl h
  | unmap id =>
    rw [state_close (.inl rfl)] at h
    simp only at h
    split_ifs at h
    exact .inl h
  | drop id =>
    rw [state_close (.inr rfl)] at h
    simp only at h
    split_ifs at h
    exact .inl h

/-! ### Steps in a row -/

/-- A session that steps have reached from some files, with the words that they stored. -/
structure Reached (fs₀ : FileSystem) (stores : List Store) (s : Session) : Prop where
  files : FileSystem.After stores fs₀ s.files
  aligned : ∀ st ∈ stores, st.position % 4 = 0
  windows : ∀ id w, s.windows id = some w →
    w.base.toNat % 4 = 0 ∧ ∃ c, fs₀.contents? w.file = some c

variable {fs₀ : FileSystem} {stores : List Store}

lemma reached_start (fs : FileSystem) : Reached fs [] (start fs) where
  files := .nil fs
  aligned _ h := by cases h
  windows _ _ h := by cases h

/-- Words inside of windows lie at positions that are divisible by four. -/
lemma Reached.position_mod_four (h : Reached fs₀ stores s) (hw : s.windows id = some w)
    {offset : UInt64} (haccepts : w.accepts offset = true) :
    (w.base.toNat + offset.toNat) % 4 = 0 := by
  have hbase := (h.windows id w hw).1
  have hoffset := ((w.accepts_iff offset).mp haccepts).2
  omega

/-- The file of a window has in each aligned word what was stored there last. -/
lemma Reached.contents (h : Reached fs₀ stores s) (hw : s.windows id = some w) :
    ∃ c c', fs₀.contents? w.file = some c ∧ s.files.contents? w.file = some c' ∧
      ∀ p, p % 4 = 0 → c'.loadWord p = (Store.last? stores w.file p).getD (c.loadWord p) := by
  obtain ⟨-, c, hc⟩ := h.windows id w hw
  obtain ⟨c', hc', hword⟩ := h.files.loadWord h.aligned hc
  exact ⟨c, c', hc, hc', hword⟩

/-- A write inside a window replaces the word at its position in the file. -/
lemma Reached.write (h : Reached fs₀ stores s) (hw : s.windows id = some w) {offset : UInt64}
    (haccepts : w.accepts offset = true) (filter : Log.Filter) (value : UInt32) :
    let effect := (Session.perform (.write id offset value)).run filter s
    effect.result = .ok .done ∧
      FileSystem.WordReplaced s.files effect.state.files w.file (w.base.toNat + offset.toNat)
        value := by
  obtain ⟨_, c', -, hc', -⟩ := h.contents hw
  simp only [run_write hw, Window.run_writeWord filter haccepts hc']
  exact ⟨rfl, FileSystem.wordReplaced_setContents _ value hc'⟩

lemma Reached.perform (h : Reached fs₀ stores s) (filter : Log.Filter) (step : Step) :
    Reached fs₀ (stores ++ (store? step s).toList) ((perform step).run filter s).state where
  files := by
    cases hstore : store? step s with
    | none =>
      rw [files_of_store?_eq_none hstore, Option.toList_none, List.append_nil]
      exact h.files
    | some st =>
      obtain ⟨id, w, offset, value, rfl, hw, haccepts, rfl⟩ := exists_write_of_store?_eq_some hstore
      exact h.files.concat (h.write hw haccepts filter value).2
  aligned st hst := by
    rcases List.mem_append.mp hst with hst | hst
    · exact h.aligned st hst
    · obtain ⟨id, w, offset, value, rfl, hw, haccepts, rfl⟩ :=
        exists_write_of_store?_eq_some (Option.mem_toList.mp hst)
      exact h.position_mod_four hw haccepts
  windows i w hw := by
    rcases windows_perform hw with hw | ⟨device, base, length, hopen⟩
    · exact h.windows i w hw
    · obtain ⟨l, c, rfl, -, hc⟩ := Window.of_openAt_eq_ok hopen
      exact ⟨Window.aligned_of_openAt_eq_ok hopen, h.files.exists_contents hc⟩

lemma reached_after (done : List (Log.Filter × Step)) (fs : FileSystem) :
    Reached fs (steps.marks done (start fs)) (steps.after done (start fs)) :=
  steps.invariant (P := Reached fs) (fun _ step _ h => h.perform step.1 step.2) done
    (reached_start fs)

/-- After any steps, with any windows open: a read that a window accepts gives the word that was
stored last at its position of the file, through any window, or else the word that the file had in
the beginning; a write that is accepted replaces the four bytes of its word and nothing else; any
other read or write is refused; and no step changes a file but a write that is accepted. -/
theorem windows_share_flat_memory (done : List (Log.Filter × Step)) (fs : FileSystem)
    (filter : Log.Filter) :
    let s := steps.after done (start fs)
    let stores := steps.marks done (start fs)
    (∀ id w, s.windows id = some w → ∃ c, fs.contents? w.file = some c ∧ ∀ offset,
      let position := w.base.toNat + offset.toNat
      (w.accepts offset = true →
        ((perform (.read id offset)).run filter s).result =
            .ok (.word ((Store.last? stores w.file position).getD (c.loadWord position))) ∧
          ∀ value,
            let effect := (perform (.write id offset value)).run filter s
            effect.result = .ok .done ∧
              FileSystem.WordReplaced s.files effect.state.files w.file position value) ∧
      (w.accepts offset = false →
        ((perform (.read id offset)).run filter s).result =
            .error (.memory (.outOfWindow offset w.length)) ∧
          ∀ value, ((perform (.write id offset value)).run filter s).result =
            .error (.memory (.outOfWindow offset w.length)))) ∧
    ∀ step, store? step s = none → ((perform step).run filter s).state.files = s.files := by
  intro s stores
  have h : Reached fs stores s := reached_after done fs
  refine ⟨fun id w hw => ?_, fun step hstep => files_of_store?_eq_none hstep⟩
  obtain ⟨c, c', hc, hc', hword⟩ := h.contents hw
  refine ⟨c, hc, fun offset => ⟨fun haccepts => ⟨?_, ?_⟩, fun hrefused => ⟨?_, fun value => ?_⟩⟩⟩
  · rw [run_read hw, Window.run_readWord filter haccepts hc',
      hword _ (h.position_mod_four hw haccepts)]
    rfl
  · exact h.write hw haccepts filter
  · rw [run_read hw, Window.run_readWord_of_not_accepts filter hrefused]
    rfl
  · rw [run_write hw, Window.run_writeWord_of_not_accepts filter hrefused]
    rfl

end Session

end ClockStretch
