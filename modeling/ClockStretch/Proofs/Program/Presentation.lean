import ClockStretch.Proofs.Outcome.Line
import ClockStretch.Proofs.Program.Exit

/-!
# Presentation and effect

Command lines that differ only in how the report is presented: in the switch for JSON, in how often
more is asked for, and in whether less is asked for. The program does the same behind both of them.
It fails for the same reason, or it leaves the same files and reports the same timeout.
-/

namespace ClockStretch

namespace CommandLine

/-- What two command lines have in common that differ only in the presentation. -/
structure SameTask (c c' : CommandLine) : Prop where
  baseAddress : c'.baseAddress = c.baseAddress
  timeout : c'.timeout = c.timeout
  config? : c'.config? = c.config?
  device? : c'.device? = c.device?

namespace SameTask

variable {c c' : CommandLine}

lemma request_eq (h : c.SameTask c') : c'.request = c.request := by
  rw [request, request, h.baseAddress, h.timeout]

lemma device_override_eq (h : c.SameTask c') (loaded : Config) :
    (c'.override loaded).device = (c.override loaded).device := by
  simp only [override, h.device?]

end SameTask

end CommandLine

namespace Program

open CommandLine (SameTask)

variable {env : Environment} {fs : FileSystem} {c c' : CommandLine}

/-- What is planned is the request on the loaded configuration with what the command line says. -/
lemma plan_eq_ok_iff {r : Request} {config : Config} :
    plan env fs c = .ok (r, config) ↔
      c.request = .ok r ∧ ∃ loaded,
        Config.load env fs (c.config?.getD (Config.defaultPath env)) = .ok loaded ∧
        config = c.override loaded := by
  unfold plan configuration
  cases c.request with
  | error e => simp [Except.mapError, bind, Except.bind]
  | ok r' =>
    cases hload : Config.load env fs (c.config?.getD (Config.defaultPath env)) <;>
      simp [hload, Except.mapError, bind, Except.bind, pure, Except.pure, eq_comm]

/-- The same task is planned on the same loaded configuration. -/
lemma exists_plans (h : c.SameTask c') {r : Request} {config : Config}
    (hplan : plan env fs c = .ok (r, config)) :
    ∃ loaded, config = c.override loaded ∧ plan env fs c' = .ok (r, c'.override loaded) := by
  obtain ⟨hrequest, loaded, hload, rfl⟩ := plan_eq_ok_iff.mp hplan
  refine ⟨loaded, rfl, plan_eq_ok_iff.mpr ⟨h.request_eq.trans hrequest, loaded, ?_, rfl⟩⟩
  rwa [h.config?]

/-- The same task fails for the same reason, though other events may be told before. -/
lemma exists_failure (h : c.SameTask c') {events : List Log.Event} {chain : List String}
    (hfailure : Failure env fs c events chain) : ∃ events', Failure env fs c' events' chain := by
  cases hfailure with
  | request hrequest => exact ⟨_, .request (h.request_eq.trans hrequest)⟩
  | configuration hrequest hload =>
    rw [← h.config?] at hload ⊢
    exact ⟨_, .configuration (h.request_eq.trans hrequest) hload⟩
  | @run r config e hplan hrun =>
    obtain ⟨loaded, rfl, hplan'⟩ := exists_plans h hplan
    have hrun' := (r.result_and_state_eq (c.override loaded).device.path
      (filter env c.verbosity) (filter env c'.verbosity) fs).1.trans hrun
    rw [← h.device_override_eq loaded] at hrun'
    exact ⟨_, .run hplan' hrun'⟩

variable (env fs c) in
/-- Either something goes wrong, or the request is carried out. -/
lemma failure_or_success :
    (∃ events chain, Failure env fs c events chain) ∨
      ∃ r config, plan env fs c = .ok (r, config) ∧
        ((r.run config.device.path).run (filter env c.verbosity) fs).result =
          .ok ⟨r.base, .clockStretch, r.timeout.cycles⟩ := by
  cases hplan : plan env fs c with
  | error report =>
    obtain ⟨chain, hfailure, -⟩ := failure_of_plan_eq_error hplan
    exact .inl ⟨[], chain, hfailure⟩
  | ok planned =>
    obtain ⟨r, config⟩ := planned
    rcases r.run_cases config.device.path (filter env c.verbosity) fs with
      ⟨e, hresult, -⟩ | ⟨-, -, -, -, hresult, -⟩
    · exact .inl ⟨_, _, .run hplan hresult⟩
    · exact .inr ⟨r, config, rfl, hresult⟩

/-- What is presented has no influence on what is done. Behind two command lines that differ only in
the presentation, the program ends with the same status and leaves the same files. If it fails, it
has no output and the error in the last line of the diagnostics is the same. If it succeeds, the
output is the line of the same address, register and timeout in the form that is asked for, and so
the outputs are the same where the same form is asked for. -/
theorem run_of_sameTask {args args' : List CommandLine.Argument}
    (hread : CommandLine.read args = .ok c) (hread' : CommandLine.read args' = .ok c')
    (h : c.SameTask c') (env : Environment) (fs : FileSystem) :
    let first := run env fs args
    let second := run env fs args'
    second.status = first.status ∧ second.files = first.files ∧
    ((∃ events events' chain,
        Failure env fs c events chain ∧ Failure env fs c' events' chain ∧
        let report := "ERROR " ++ ": ".intercalate chain ++ "\n"
        first = ⟨1, "", lines env c events ++ report, fs⟩ ∧
        second = ⟨1, "", lines env c' events' ++ report, fs⟩) ∨
      ∃ request loaded,
        plan env fs c = .ok (request, c.override loaded) ∧
        plan env fs c' = .ok (request, c'.override loaded) ∧
        let json := (c.override loaded).output.json
        let json' := (c'.override loaded).output.json
        let line := Outcome.line request.base.display Register.clockStretch.name
          request.timeout.cycles.toNat
        first.status = 0 ∧ first.output = line json ++ "\n" ∧ second.output = line json' ++ "\n" ∧
        (json' = json → second.output = first.output)) := by
  have hrun : run env fs args = execute env fs c := by rw [run, hread]
  have hrun' : run env fs args' = execute env fs c' := by rw [run, hread']
  simp only [hrun, hrun']
  rcases failure_or_success env fs c with
    ⟨events, chain, hfailure⟩ | ⟨request, config, hplan, hresult⟩
  · obtain ⟨events', hfailure'⟩ := exists_failure h hfailure
    rw [execute_of_failure hfailure, execute_of_failure hfailure']
    refine ⟨rfl, rfl, .inl ⟨events, events', chain, hfailure, hfailure', ?_, ?_⟩⟩ <;>
      simp only [String.append_assoc]
  · obtain ⟨loaded, rfl, hplan'⟩ := exists_plans h hplan
    obtain ⟨hresult', hstate'⟩ := request.result_and_state_eq (c.override loaded).device.path
      (filter env c.verbosity) (filter env c'.verbosity) fs
    have hsuccess := execute_of_result_eq_ok hplan hresult
    rw [← h.device_override_eq loaded] at hresult hresult' hstate'
    have hsuccess' := execute_of_result_eq_ok hplan' (hresult'.trans hresult)
    rw [hsuccess, hsuccess', Outcome.render_eq_line, Outcome.render_eq_line]
    refine ⟨rfl, ?_, .inr ⟨request, loaded, hplan, hplan', rfl, rfl, rfl, fun hjson => ?_⟩⟩
    · rw [hstate', h.device_override_eq loaded]
    · rw [hjson]

/-- The same request with a report in words and with one in JSON, for which nothing else is to be
told. -/
theorem run_of_sameTask_in_words_and_json :
    let env : Environment := ⟨[], none⟩
    let fs : FileSystem := ⟨[([[0x64]], .regular (.zeros 4096))], []⟩
    let args (texts : List String) : List CommandLine.Argument := texts.map Text.encodeUtf8
    let first := run env fs (args ["0", "35", "-dd"])
    let second := run env fs (args ["0", "-qvv", "--json", "35", "-dd"])
    first.status = 0 ∧ second.status = 0 ∧ second.files = first.files ∧
      first.output = Outcome.line "0x00000000" "CLKT" 35 false ++ "\n" ∧
      second.output = Outcome.line "0x00000000" "CLKT" 35 true ++ "\n" := by
  intro env fs args first second
  have hread : CommandLine.read (args ["0", "35", "-dd"]) =
      .ok ⟨"0", "35", none, some ⟨[0x64]⟩, false, 0, false⟩ := by rfl
  have hread' : CommandLine.read (args ["0", "-qvv", "--json", "35", "-dd"]) =
      .ok ⟨"0", "35", none, some ⟨[0x64]⟩, true, 2, true⟩ := by rfl
  have hplan : plan env fs ⟨"0", "35", none, some ⟨[0x64]⟩, false, 0, false⟩ =
      .ok (⟨⟨0, by decide⟩, ⟨35, by decide⟩⟩, ⟨⟨⟨[0x64]⟩⟩, ⟨false⟩⟩) := by decide +kernel
  have hstatus : first.status = 0 := by decide +kernel
  obtain ⟨hsame, hfiles, hcases⟩ := run_of_sameTask hread hread' ⟨rfl, rfl, rfl, rfl⟩ env fs
  refine ⟨hstatus, hsame.trans hstatus, hfiles, ?_⟩
  rcases hcases with
    ⟨_, _, _, -, -, hfirst, -⟩ | ⟨request, loaded, hplan', -, -, houtput, houtput', -⟩
  · rw [show first = _ from hfirst] at hstatus
    cases hstatus
  · obtain ⟨hrequest, hconfig⟩ := Prod.mk.inj (Except.ok.inj (hplan.symm.trans hplan'))
    rw [← hconfig, ← hrequest] at houtput
    rw [← hrequest] at houtput'
    exact ⟨houtput, houtput'⟩

end Program

end ClockStretch
