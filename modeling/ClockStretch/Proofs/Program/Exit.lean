import ClockStretch.Program
import ClockStretch.Proofs.Request.Effect
import Mathlib.Data.List.Basic

/-!
# Exit statuses

What the program leaves behind a command line that is understood. Either the timeout stands in the
register, the status is zero and the output is the report; or no file has changed, the status is
one, there is no output and the error is the last line of the diagnostics. All other lines of the
diagnostics are those of events.
-/

namespace ClockStretch.Program

variable {env : Environment} {fs : FileSystem} {c : CommandLine}

/-- The diagnostics of events. -/
def lines (env : Environment) (c : CommandLine) (events : List Log.Event) : String :=
  String.join (events.map (layout env c.verbosity).line)

variable (env fs c) in
/-- What goes wrong behind an understood command line, by the events that are told before and the
wording of the error, what was being done first and then its causes. -/
inductive Failure : List Log.Event → List String → Prop where
  | request {e : Error} (hrequest : c.request = .error e) : Failure [] (e.message :: e.causes)
  | configuration {r : Request} {e : Error} (hrequest : c.request = .ok r)
      (hload : Config.load env fs (c.config?.getD (Config.defaultPath env)) = .error e) :
      Failure [] (s!"config file {(c.config?.getD (Config.defaultPath env)).display}" ::
        e.message :: e.causes)
  | run {r : Request} {config : Config} {e : Error} (hplan : plan env fs c = .ok (r, config))
      (hrun : ((r.run config.device.path).run (filter env c.verbosity) fs).result = .error e) :
      Failure ((r.run config.device.path).run (filter env c.verbosity) fs).events
        (e.message :: e.causes)

lemma inContext_eq (context : String) (e : Error) :
    inContext context e = ": ".intercalate (context :: e.message :: e.causes) := by
  rw [String.intercalate_cons_cons]
  rfl

/-- Where there is nothing to carry out, the request or the configuration is at fault. -/
lemma failure_of_plan_eq_error {report : String} (h : plan env fs c = .error report) :
    ∃ chain, Failure env fs c [] chain ∧ report = ": ".intercalate chain := by
  unfold plan at h
  cases hrequest : c.request with
  | error e =>
    rw [hrequest] at h
    cases h
    exact ⟨_, .request hrequest, rfl⟩
  | ok r =>
    rw [hrequest] at h
    unfold configuration at h
    simp only at h
    cases hload : Config.load env fs (c.config?.getD (Config.defaultPath env)) with
    | error e =>
      rw [hload] at h
      cases h
      exact ⟨_, .configuration hrequest hload, inContext_eq _ e⟩
    | ok config =>
      rw [hload] at h
      cases h

lemma failed_eq (chain : List String) (events : List Log.Event) :
    failed (": ".intercalate chain) (lines env c events) fs =
      ⟨1, "", lines env c events ++ "ERROR " ++ ": ".intercalate chain ++ "\n", fs⟩ := by
  simp only [failed, String.append_assoc]
  rfl

/-- A failure is the last line of the diagnostics, and the files stay as they were. -/
lemma execute_of_failure {events : List Log.Event} {chain : List String}
    (h : Failure env fs c events chain) :
    execute env fs c =
      ⟨1, "", lines env c events ++ "ERROR " ++ ": ".intercalate chain ++ "\n", fs⟩ := by
  rw [← failed_eq]
  cases h with
  | @request e hrequest =>
    have hplan : plan env fs c = .error e.report := by
      rw [plan, hrequest]
      rfl
    rw [execute, hplan]
    rfl
  | @configuration r e hrequest hload =>
    have hplan : plan env fs c = .error
        (inContext s!"config file {(c.config?.getD (Config.defaultPath env)).display}" e) := by
      rw [plan, hrequest, configuration]
      simp only [hload]
      rfl
    rw [execute, hplan, inContext_eq]
    rfl
  | @run r config e hplan hrun =>
    have hstate : ((r.run config.device.path).run (filter env c.verbosity) fs).state = fs := by
      rcases r.run_cases config.device.path (filter env c.verbosity) fs with
        ⟨_, -, hstate⟩ | ⟨_, _, -, -, hresult, -⟩
      · exact hstate
      · cases hrun.symm.trans hresult
    rw [execute, hplan]
    simp only [hrun, hstate]
    rfl

/-- A request that is carried out leaves its report as the output. -/
lemma execute_of_result_eq_ok {r : Request} {config : Config} {outcome : Outcome}
    (hplan : plan env fs c = .ok (r, config))
    (hresult : ((r.run config.device.path).run (filter env c.verbosity) fs).result = .ok outcome) :
    let effect := (r.run config.device.path).run (filter env c.verbosity) fs
    execute env fs c =
      ⟨0, outcome.render config.output.json ++ "\n", lines env c effect.events, effect.state⟩ := by
  rw [execute, hplan]
  simp only [hresult]
  rfl

/-- The status of the program agrees with what it did. With status zero the output is the report
of the timeout and a line end, the diagnostics are the lines of events, and the word of the
clock-stretch register in the device has become the timeout, as the only change. With status one
there is no output, the diagnostics end with the error and its causes, and no file has changed. -/
theorem run_of_read_eq_ok (env : Environment) (fs : FileSystem) {args : List CommandLine.Argument}
    (hread : CommandLine.read args = .ok c) :
    (∃ request config l,
      plan env fs c = .ok (request, config) ∧
      fs.openForWriting config.device.path = .ok l ∧
      let outcome : Outcome := ⟨request.base, .clockStretch, request.timeout.cycles⟩
      let effect := (request.run config.device.path).run (filter env c.verbosity) fs
      effect.result = .ok outcome ∧
      run env fs args =
        ⟨0, outcome.render config.output.json ++ "\n", lines env c effect.events, effect.state⟩ ∧
      FileSystem.WordReplaced fs effect.state l (request.base.value.toNat + 0x1c)
        outcome.tout.toUInt32) ∨
    ∃ events chain,
      Failure env fs c events chain ∧
      run env fs args =
        ⟨1, "", lines env c events ++ "ERROR " ++ ": ".intercalate chain ++ "\n", fs⟩ := by
  have hrun : run env fs args = execute env fs c := by rw [run, hread]
  rw [hrun]
  unfold execute
  cases hplan : plan env fs c with
  | error report =>
    obtain ⟨chain, hfailure, rfl⟩ := failure_of_plan_eq_error hplan
    exact .inr ⟨[], chain, hfailure, failed_eq (c := c) chain []⟩
  | ok planned =>
    obtain ⟨request, config⟩ := planned
    simp only
    rcases request.run_cases config.device.path (filter env c.verbosity) fs with
      ⟨e, hresult, hstate⟩ | ⟨l, contents, hdevice, hc, hresult, hstate⟩
    · refine .inr ⟨_, _, .run hplan hresult, ?_⟩
      rw [hresult, hstate]
      exact failed_eq _ _
    · refine .inl ⟨request, config, l, rfl, hdevice, hresult, ?_, ?_⟩
      · rw [hresult]
        rfl
      · rw [hstate]
        exact FileSystem.wordReplaced_setContents _ _ hc

/-- A request for a device in the working directory, which is carried out. -/
theorem run_of_read_eq_ok_for_device :
    let env : Environment := ⟨[], none⟩
    let fs : FileSystem := ⟨[([[0x64]], .regular (.zeros 4096))], []⟩
    let args : List CommandLine.Argument := [[0x30], [0x33, 0x35], [0x2d, 0x64, 0x64]]
    CommandLine.read args = .ok ⟨"0", "35", none, some ⟨[0x64]⟩, false, 0, false⟩ ∧
      (run env fs args).status = 0 ∧ (run env fs args).output = "OK CLKT.TOUT = 35\n" ∧
      FileSystem.WordReplaced fs (run env fs args).files [[0x64]] 0x1c 35 := by
  intro env fs args
  have hread : CommandLine.read args =
      .ok ⟨"0", "35", none, some ⟨[0x64]⟩, false, 0, false⟩ := by rfl
  have hplan : plan env fs ⟨"0", "35", none, some ⟨[0x64]⟩, false, 0, false⟩ =
      .ok (⟨⟨0, by decide⟩, ⟨35, by decide⟩⟩, ⟨⟨⟨[0x64]⟩⟩, ⟨false⟩⟩) := by decide +kernel
  have hopen : fs.openForWriting ⟨[0x64]⟩ = .ok [[0x64]] := by decide +kernel
  have hstatus : (run env fs args).status = 0 := by decide +kernel
  refine ⟨hread, hstatus, ?_⟩
  rcases run_of_read_eq_ok env fs hread with
    ⟨request, config, l, hplan', hopen', -, hrun, hword⟩ | ⟨_, _, -, hrun⟩
  · obtain ⟨rfl, rfl⟩ := Prod.mk.inj (Except.ok.inj (hplan.symm.trans hplan'))
    cases hopen.symm.trans hopen'
    rw [hrun]
    exact ⟨by decide, hword⟩
  · rw [hrun] at hstatus
    cases hstatus

end ClockStretch.Program
