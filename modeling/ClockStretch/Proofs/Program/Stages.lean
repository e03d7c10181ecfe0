import ClockStretch.Program
import Mathlib.Data.List.Basic
import Mathlib.Tactic.Lemma

/-!
# Stages of the program

The program looks at the base address, then at the timeout, then at the configuration, and only then
at the device. What is wrong at one stage is reported in words that nothing of a later stage has an
influence on, the status is one, and no file changes. For two runs this says that they report the
same as soon as they agree on the stage that fails.
-/

namespace ClockStretch

/-! ### What the configuration depends on -/

namespace Config

/-- Whether a variable gives a setting, which its name decides. -/
def givesSetting (v : List UInt8 × List UInt8) : Bool :=
  (variableKeys? (Text.decodeUtf8Lossy v.1)).isSome

/-- Variables that give no setting have no influence on the settings. -/
lemma variableSettings_filter (env : Environment) :
    variableSettings { env with bindings := env.bindings.filter givesSetting } =
      variableSettings env := by
  unfold variableSettings
  rw [List.foldl_filter]
  refine List.foldl_ext _ _ _ fun settings ⟨name, value⟩ _ => ?_
  cases hkeys : variableKeys? (Text.decodeUtf8Lossy name) <;> simp [givesSetting, hkeys]

/-- What two runs have in common if they have the same configuration: the same path, seen from the
same directory, with the same files under it, and the same variables. -/
structure SameSources (env env' : Environment) (fs fs' : FileSystem) (p p' : Path) : Prop where
  path : p' = p
  directory : fs'.workingDirectory = fs.workingDirectory
  files : ∀ q ∈ candidates fs p, fs'.regularFile? q = fs.regularFile? q
  bindings : env'.bindings.filter givesSetting = env.bindings.filter givesSetting

namespace SameSources

variable {env env' : Environment} {fs fs' : FileSystem} {p p' : Path}

lemma variableSettings_eq (h : SameSources env env' fs fs' p p') :
    variableSettings env' = variableSettings env := by
  rw [← variableSettings_filter env', ← variableSettings_filter env, h.bindings]
  rfl

lemma findFile?_eq (h : SameSources env env' fs fs' p p') : findFile? fs' p' = findFile? fs p := by
  have hcandidates : candidates fs' p' = candidates fs p := by
    rw [candidates, candidates, h.path, h.directory]
  rw [findFile?, findFile?, hcandidates, ← List.head?_filterMap, ← List.head?_filterMap]
  congr 1
  exact List.filterMap_congr fun q hq => by rw [h.files q hq]

lemma fileSettings_eq (h : SameSources env env' fs fs' p p') :
    fileSettings fs' p' = fileSettings fs p := by
  have hshown (q : Path) : shownPath fs' q = shownPath fs q := by
    rw [shownPath, shownPath, h.directory]
  simp only [fileSettings, h.findFile?_eq, hshown]

/-- The same sources give the same configuration, or the same error. -/
lemma load_eq (h : SameSources env env' fs fs' p p') : load env' fs' p' = load env fs p := by
  rw [load, load, settings, settings, h.fileSettings_eq, h.variableSettings_eq]

end SameSources

end Config

/-! ### One run that fails at a stage -/

namespace Program

/-- A run that reports an error and does nothing else. -/
def Rejects (env : Environment) (fs : FileSystem) (args : List CommandLine.Argument)
    (report : String) : Prop :=
  run env fs args = ⟨1, "", s!"ERROR {report}\n", fs⟩

/-- The path of the configuration that a command line selects. -/
def configPath (env : Environment) (c : CommandLine) : Path :=
  c.config?.getD (Config.defaultPath env)

variable {args : List CommandLine.Argument} {c : CommandLine} {e : Error}

lemma rejects_of_plan_eq_error {report : String} {env : Environment} {fs : FileSystem}
    (hread : CommandLine.read args = .ok c) (hplan : plan env fs c = .error report) :
    Rejects env fs args report := by
  have hrun : run env fs args = failed report "" fs := by
    rw [run, hread]
    simp only [execute, hplan]
  rw [Rejects, hrun, failed, String.empty_append]

lemma rejects_of_request_eq_error (env : Environment) (fs : FileSystem)
    (hread : CommandLine.read args = .ok c) (hrequest : c.request = .error e) :
    Rejects env fs args e.report := by
  apply rejects_of_plan_eq_error hread
  rw [plan, hrequest]
  rfl

/-- The first stage: a base address that is none. -/
lemma rejects_of_baseAddress (env : Environment) (fs : FileSystem)
    (hread : CommandLine.read args = .ok c)
    (hbase : BaseAddress.parse c.baseAddress = .error e) :
    Rejects env fs args e.report := by
  apply rejects_of_request_eq_error env fs hread
  rw [CommandLine.request, Request.parse, hbase]
  rfl

/-- The second stage: a timeout that is none, behind a base address. -/
lemma rejects_of_timeout (env : Environment) (fs : FileSystem)
    (hread : CommandLine.read args = .ok c) {b : BaseAddress}
    (hbase : BaseAddress.parse c.baseAddress = .ok b)
    (htimeout : Timeout.parse c.timeout = .error e) :
    Rejects env fs args e.report := by
  apply rejects_of_request_eq_error env fs hread
  rw [CommandLine.request, Request.parse, hbase, htimeout]
  rfl

/-- The third stage: a configuration that cannot be loaded, behind a request. -/
lemma rejects_of_load {env : Environment} {fs : FileSystem} {r : Request}
    (hread : CommandLine.read args = .ok c) (hrequest : c.request = .ok r)
    (hload : Config.load env fs (configPath env c) = .error e) :
    Rejects env fs args s!"config file {(configPath env c).display}: {e.report}" := by
  apply rejects_of_plan_eq_error hread
  have hconfig : configuration env fs c =
      .error s!"config file {(configPath env c).display}: {e.report}" := by
    rw [configPath] at hload ⊢
    simp only [configuration, hload]
    rfl
  rw [plan, hrequest, hconfig]
  rfl

/-! ### Two runs that fail at the same stage -/

/-- Two runs that agree on the first stage that fails report the same error, whatever the stages
behind it are: runs with the same text that is no base address; runs with base addresses and the
same text that is no timeout; and runs with requests and the same sources of a configuration that
cannot be loaded. -/
theorem rejects_alike_at_first_fault {args args' : List CommandLine.Argument}
    {c c' : CommandLine} (hread : CommandLine.read args = .ok c)
    (hread' : CommandLine.read args' = .ok c') (env env' : Environment) (fs fs' : FileSystem) :
    (∀ e, BaseAddress.parse c.baseAddress = .error e → c'.baseAddress = c.baseAddress →
      Rejects env fs args e.report ∧ Rejects env' fs' args' e.report) ∧
    (∀ b b' e, BaseAddress.parse c.baseAddress = .ok b → BaseAddress.parse c'.baseAddress = .ok b' →
      Timeout.parse c.timeout = .error e → c'.timeout = c.timeout →
      Rejects env fs args e.report ∧ Rejects env' fs' args' e.report) ∧
    (∀ r r' e, c.request = .ok r → c'.request = .ok r' →
      Config.load env fs (configPath env c) = .error e →
      Config.SameSources env env' fs fs' (configPath env c) (configPath env' c') →
      let report := s!"config file {(configPath env c).display}: {e.report}"
      Rejects env fs args report ∧ Rejects env' fs' args' report) := by
  refine ⟨fun e hbase hsame => ?_, fun b b' e hbase hbase' htimeout hsame => ?_,
    fun r r' e hrequest hrequest' hload hsame => ?_⟩
  · exact ⟨rejects_of_baseAddress env fs hread hbase,
      rejects_of_baseAddress env' fs' hread' (hsame ▸ hbase)⟩
  · exact ⟨rejects_of_timeout env fs hread hbase htimeout,
      rejects_of_timeout env' fs' hread' hbase' (hsame ▸ htimeout)⟩
  · have hload' : Config.load env' fs' (configPath env' c') = .error e := by
      rw [hsame.load_eq, hload]
    refine ⟨rejects_of_load hread hrequest hload, ?_⟩
    have h := rejects_of_load hread' hrequest' hload'
    rwa [hsame.path] at h

/-- Pairs of runs that are rejected at each of the three stages: with another timeout and a switch
for JSON; with another address and another device; and with a device path that a variable empties,
where the second run names a device that is there and has another variable. -/
theorem rejects_alike_at_each_stage :
    let fs : FileSystem := ⟨[], []⟩
    let fs' : FileSystem := ⟨[([[0x64]], .regular (.zeros 4096))], []⟩
    let emptied := (Text.encodeUtf8 "I2CTOUT_DEVICE_PATH", [])
    let env : Environment := ⟨[emptied], none⟩
    let env' : Environment := ⟨[(Text.encodeUtf8 "NO_COLOR", [0x31]), emptied], none⟩
    let args (texts : List String) : List CommandLine.Argument := texts.map Text.encodeUtf8
    (∃ report, Rejects env fs (args ["x", "1"]) report ∧
      Rejects env' fs' (args ["x", "2", "--json"]) report) ∧
    (∃ report, Rejects env fs (args ["0", "0"]) report ∧
      Rejects env' fs' (args ["4", "0", "-dd"]) report) ∧
    ∃ report, Rejects env fs (args ["0", "1", "-c/c"]) report ∧
      Rejects env' fs' (args ["4", "2", "-c/c", "--json", "-d/d"]) report := by
  intro fs fs' emptied env env' args
  refine ⟨?address, ?timeout, ?configuration⟩
  case address =>
    have hread : CommandLine.read (args ["x", "1"]) =
        .ok ⟨"x", "1", none, none, false, 0, false⟩ := by rfl
    have hread' : CommandLine.read (args ["x", "2", "--json"]) =
        .ok ⟨"x", "2", none, none, true, 0, false⟩ := by rfl
    exact ⟨_, (rejects_alike_at_first_fault hread hread' env env' fs fs').1 _ rfl rfl⟩
  case timeout =>
    have hread : CommandLine.read (args ["0", "0"]) =
        .ok ⟨"0", "0", none, none, false, 0, false⟩ := by rfl
    have hread' : CommandLine.read (args ["4", "0", "-dd"]) =
        .ok ⟨"4", "0", none, some ⟨[0x64]⟩, false, 0, false⟩ := by rfl
    exact ⟨_, (rejects_alike_at_first_fault hread hread' env env' fs fs').2.1 _ _ _ rfl rfl rfl rfl⟩
  case configuration =>
    have hread : CommandLine.read (args ["0", "1", "-c/c"]) =
        .ok ⟨"0", "1", some ⟨[0x2f, 0x63]⟩, none, false, 0, false⟩ := by rfl
    have hread' : CommandLine.read (args ["4", "2", "-c/c", "--json", "-d/d"]) =
        .ok ⟨"4", "2", some ⟨[0x2f, 0x63]⟩, some ⟨[0x2f, 0x64]⟩, true, 0, false⟩ := by rfl
    have hload : Config.load env fs ⟨[0x2f, 0x63]⟩ =
        .error (.configInvalid "device.path must not be empty") := by decide +kernel
    have hsame : Config.SameSources env env' fs fs' ⟨[0x2f, 0x63]⟩ ⟨[0x2f, 0x63]⟩ := by
      refine ⟨rfl, rfl, fun q hq => ?_, by decide +kernel⟩
      obtain rfl : q = ⟨[0x2f, 0x63]⟩ := List.mem_singleton.mp hq
      rfl
    exact ⟨_,
      (rejects_alike_at_first_fault hread hread' env env' fs fs').2.2 _ _ _ rfl rfl hload hsame⟩

end Program

end ClockStretch
