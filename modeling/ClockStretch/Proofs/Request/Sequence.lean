import ClockStretch.Proofs.Memory.History
import ClockStretch.Proofs.Request.Effect

/-!
# Requests one after another

Requests are carried out in a row, on any devices and at any addresses, some of them with success.
In the end each file differs from what it was at most in the clock-stretch registers of the
controllers at which a request succeeded, and each of these holds the timeout of the last such
request.
-/

namespace ClockStretch.Request

/-- A request on a device, carried out under a filter of events. -/
structure Call where
  request : Request
  device : Path
  filter : Log.Filter

/-- A call and the files that it finds. -/
structure Run where
  call : Call
  before : FileSystem

namespace Run

/-- What the call leaves. -/
def effect (run : Run) : Effect FileSystem Outcome :=
  (run.call.request.run run.call.device).run run.call.filter run.before

/-- The file in which the call succeeds. -/
def file? (run : Run) : Option Location :=
  match run.effect.result with
  | .ok _    => (run.before.openForWriting run.call.device).toOption
  | .error _ => none

/-- The timeout that the call sets at a base address in a file, if it succeeds there. -/
def timeoutAt? (run : Run) (l : Location) (base : BaseAddress) : Option Timeout :=
  if run.file? = some l ∧ run.call.request.base = base then some run.call.request.timeout
  else none

/-- The calls one after another, each on the files that the one before left. -/
def inRow : List Call → FileSystem → List Run
  | [],            _  => []
  | call :: calls, fs =>
    let run : Run := ⟨call, fs⟩
    run :: inRow calls run.effect.state

/-- The files after calls one after another. -/
def filesAfter : List Call → FileSystem → FileSystem
  | [],            fs => fs
  | call :: calls, fs => filesAfter calls (Run.effect ⟨call, fs⟩).state

/-- The timeout of the last call that succeeds at a base address in a file. -/
def lastTimeout? (runs : List Run) (l : Location) (base : BaseAddress) : Option Timeout :=
  (runs.filterMap (·.timeoutAt? l base)).getLast?

/-- The position of the clock-stretch register of the controller at a base address. -/
def registerAt (base : BaseAddress) : Nat := base.value.toNat + Register.clockStretch.offset

lemma registerAt_mod_four (base : BaseAddress) : registerAt base % 4 = 0 := by
  have := base.aligned
  have : Register.clockStretch.offset = 28 := rfl
  unfold registerAt
  omega

lemma registerAt_injective {base base' : BaseAddress} (h : registerAt base = registerAt base') :
    base = base' := by
  obtain ⟨value, _⟩ := base
  obtain ⟨value', _⟩ := base'
  simp only [registerAt, Nat.add_right_cancel_iff, UInt64.toNat_inj] at h
  subst h
  rfl

/-! ### Runs as stores -/

/-- A call reports what it was asked for and replaces one word, or leaves the files as they were. -/
lemma effect_cases (run : Run) :
    (run.file? = none ∧ (∃ e, run.effect.result = .error e) ∧ run.effect.state = run.before) ∨
    ∃ l, run.file? = some l ∧
      run.effect.result =
        .ok ⟨run.call.request.base, .clockStretch, run.call.request.timeout.cycles⟩ ∧
      FileSystem.WordReplaced run.before run.effect.state l (registerAt run.call.request.base)
        run.call.request.timeout.cycles.toUInt32 := by
  rcases run_cases run.call.request run.call.device run.call.filter run.before with
    ⟨e, hresult, hstate⟩ | ⟨l, c, hdevice, hc, hresult, hstate⟩
  · refine .inl ⟨?_, ⟨e, hresult⟩, hstate⟩
    simp only [file?, effect, hresult]
  · refine .inr ⟨l, ?_, hresult, ?_⟩
    · simp only [file?, effect, hresult, hdevice]
      rfl
    · rw [effect, hstate]
      exact FileSystem.wordReplaced_setContents _ _ hc

/-- The word that the call stores, if it succeeds. -/
def store? (run : Run) : Option Store :=
  run.file?.map fun l =>
    ⟨l, registerAt run.call.request.base, run.call.request.timeout.cycles.toUInt32⟩

lemma after_filesAfter (calls : List Call) (fs : FileSystem) :
    FileSystem.After ((inRow calls fs).filterMap store?) fs (filesAfter calls fs) := by
  induction calls generalizing fs with
  | nil => exact .nil fs
  | cons call calls ih =>
    have hrest := ih (Run.effect ⟨call, fs⟩).state
    simp only [inRow, filesAfter, List.filterMap_cons]
    rcases effect_cases ⟨call, fs⟩ with ⟨hfile, -, hstate⟩ | ⟨l, hfile, -, hreplaced⟩
    · rw [store?, hfile]
      rw [hstate] at hrest ⊢
      exact hrest
    · rw [store?, hfile]
      exact .cons hreplaced hrest

lemma aligned_of_mem_store? {runs : List Run} {s : Store} (h : s ∈ runs.filterMap store?) :
    s.position % 4 = 0 := by
  obtain ⟨run, -, hs⟩ := List.mem_filterMap.mp h
  obtain ⟨l, -, rfl⟩ := Option.map_eq_some_iff.mp hs
  exact registerAt_mod_four _

/-- The last word stored in a clock-stretch register is the last timeout set there. -/
lemma last?_filterMap_store? (runs : List Run) (l : Location) (base : BaseAddress) :
    Store.last? (runs.filterMap store?) l (registerAt base) =
      (lastTimeout? runs l base).map (·.cycles.toUInt32) := by
  unfold Store.last? lastTimeout?
  rw [List.filterMap_filterMap, ← List.getLast?_map, List.map_filterMap]
  congr 2
  funext run
  cases hfile : run.file? with
  | none => simp [store?, timeoutAt?, hfile]
  | some k =>
    have hbase : registerAt run.call.request.base = registerAt base ↔
        run.call.request.base = base := ⟨registerAt_injective, congrArg registerAt⟩
    simp only [store?, timeoutAt?, hfile, Option.map_some, Option.bind_some, Store.wordAt?, hbase,
      Option.some.injEq]
    split_ifs <;> rfl

/-- A byte that lies in no register where a timeout was set lies in no word that was stored. -/
lemma outside_of_lastTimeout? {runs : List Run} {l : Location} {q : Nat}
    (h : ∀ base timeout, lastTimeout? runs l base = some timeout →
      q < registerAt base ∨ registerAt base + 4 ≤ q) :
    ∀ s ∈ runs.filterMap store?, s.file = l → q < s.position ∨ s.position + 4 ≤ q := by
  intro s hs hl
  obtain ⟨run, hrun, hstore⟩ := List.mem_filterMap.mp hs
  obtain ⟨k, hfile, rfl⟩ := Option.map_eq_some_iff.mp hstore
  subst hl
  have hmem : run.call.request.timeout ∈
      runs.filterMap (·.timeoutAt? k run.call.request.base) :=
    List.mem_filterMap.mpr ⟨run, hrun, by simp [timeoutAt?, hfile]⟩
  cases hlast : lastTimeout? runs k run.call.request.base with
  | some timeout => exact h _ timeout hlast
  | none =>
    rw [lastTimeout?, List.getLast?_eq_none_iff] at hlast
    simp [hlast] at hmem

/-- After any calls in a row each file has its old size, and its old bytes but in the clock-stretch
registers where a call succeeded; there it has the timeout of the last such call, with the upper
half of the word zero. A call that succeeds reports its own timeout and address, and one that fails
leaves all files as they were. -/
theorem filesAfter_differ_in_last_timeouts (calls : List Call) (fs : FileSystem) :
    (∀ run ∈ inRow calls fs,
      (∀ o, run.effect.result = .ok o →
        o = ⟨run.call.request.base, .clockStretch, run.call.request.timeout.cycles⟩) ∧
      ∀ e, run.effect.result = .error e → run.effect.state = run.before) ∧
    (∀ l, fs.contents? l = none → (filesAfter calls fs).node? l = fs.node? l) ∧
    ∀ l c, fs.contents? l = some c → ∃ c', (filesAfter calls fs).contents? l = some c' ∧
      c'.size = c.size ∧
      (∀ base timeout, lastTimeout? (inRow calls fs) l base = some timeout →
        (c'.loadWord (base.value.toNat + 0x1c)).toNat = timeout.cycles.toNat) ∧
      ∀ q, (∀ base timeout, lastTimeout? (inRow calls fs) l base = some timeout →
          q < base.value.toNat + 0x1c ∨ base.value.toNat + 0x20 ≤ q) →
        c'.byteAt q = c.byteAt q := by
  have hafter := after_filesAfter calls fs
  refine ⟨fun run _ => ?_, fun l hl => hafter.node?_of_not_regular hl, fun l c hc => ?_⟩
  · rcases effect_cases run with ⟨-, ⟨e, he⟩, hstate⟩ | ⟨l, -, hok, -⟩
    · exact ⟨fun o ho => by simp [he] at ho, fun _ _ => hstate⟩
    · exact ⟨fun o ho => by simpa [hok] using ho.symm, fun e he => by simp [hok] at he⟩
  · obtain ⟨c', hc', hsize, hword, hbytes⟩ :=
      hafter.contents (fun _ hs => aligned_of_mem_store? hs) hc
    refine ⟨c', hc', hsize, fun base timeout ht => ?_, fun q hq => ?_⟩
    · have hlast := last?_filterMap_store? (inRow calls fs) l base
      rw [ht] at hlast
      have hloaded : c'.loadWord (registerAt base) = timeout.cycles.toUInt32 :=
        hword _ _ (registerAt_mod_four base) hlast
      show (c'.loadWord (registerAt base)).toNat = _
      rw [hloaded, UInt16.toNat_toUInt32]
    · exact hbytes q (outside_of_lastTimeout? hq)

/-- Two calls that succeed at the same address, and one that fails: the second timeout stays. -/
theorem filesAfter_differ_in_last_timeouts_of_three_calls :
    let fs : FileSystem := ⟨[([[0x64]], .regular (.zeros 4096))], []⟩
    let call (timeout : Timeout) (device : Path) : Call :=
      ⟨⟨⟨0x10, by decide⟩, timeout⟩, device, .upTo none⟩
    let calls := [call ⟨35, by decide⟩ ⟨[0x64]⟩, call ⟨40, by decide⟩ ⟨[0x64]⟩,
      call ⟨50, by decide⟩ ⟨[0x65]⟩]
    lastTimeout? (inRow calls fs) [[0x64]] ⟨0x10, by decide⟩ = some ⟨40, by decide⟩ ∧
      ∃ c', (filesAfter calls fs).contents? [[0x64]] = some c' ∧ c'.size = 4096 ∧
        (c'.loadWord 0x2c).toNat = 40 := by
  intro fs call calls
  have hlast : lastTimeout? (inRow calls fs) [[0x64]] ⟨0x10, by decide⟩ =
      some ⟨40, by decide⟩ := by decide +kernel
  obtain ⟨-, -, hfiles⟩ := filesAfter_differ_in_last_timeouts calls fs
  obtain ⟨c', hc', hsize, hword, -⟩ := hfiles [[0x64]] (.zeros 4096) rfl
  exact ⟨hlast, c', hc', hsize, by simpa using hword _ _ hlast⟩

end Run

end ClockStretch.Request
