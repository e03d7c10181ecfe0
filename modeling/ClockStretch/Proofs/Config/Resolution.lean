import ClockStretch.Program
import ClockStretch.Proofs.Config.Layers

/-!
# Resolution of settings

Each setting is what the variables say, or else what the file says, or else its default; the other
setting and all other keys have no influence on it. The configuration is valid if the device that
results has a name, and only then the command line has its say.
-/

namespace ClockStretch.Config

variable {α : Type} {outer inner : String} {wanted : α → Scalar} {x? y? : Option α}
variable {lower upper : List (String × Setting)}

/-- What a layer says about the setting under two keys, of which the inner one is looked up in the
table of the outer one: nothing, or a value of the kind that is wanted. -/
inductive Says (outer inner : String) (wanted : α → Scalar) (layer : List (String × Setting)) :
    Option α → Prop
  | noTable (houter : layer.lookup outer = none) : Says outer inner wanted layer none
  | noValue {o : Origin} {entries : List (String × Setting)}
      (houter : layer.lookup outer = some (.table o entries))
      (hinner : entries.lookup inner = none) : Says outer inner wanted layer none
  | value {o o' : Origin} {entries : List (String × Setting)} {x : α}
      (houter : layer.lookup outer = some (.table o entries))
      (hinner : entries.lookup inner = some (.scalar o' (wanted x))) :
      Says outer inner wanted layer (some x)

/-- The value without parts under two keys, if the outer one has a table with such a value. -/
def scalarUnder? (outer inner : String) (layer : List (String × Setting)) : Option Scalar :=
  match layer.lookup outer with
  | some (.table _ entries) =>
    match entries.lookup inner with
    | some (.scalar _ x) => some x
    | _                  => none
  | _ => none

lemma says_some_iff {layer : List (String × Setting)} {x : α} :
    Says outer inner wanted layer (some x) ↔
      scalarUnder? outer inner layer = some (wanted x) := by
  constructor
  · rintro (_ | _ | ⟨houter, hinner⟩)
    simp only [scalarUnder?, houter, hinner]
  · intro h
    unfold scalarUnder? at h
    split at h
    · next houter =>
      split at h
      · next hinner =>
        cases h
        exact .value houter hinner
      · cases h
    · cases h

/-- A layer over another says what the upper one says, or else what the lower one says. -/
lemma Says.merge (hlower : Says outer inner wanted lower x?)
    (hupper : Says outer inner wanted upper y?) (hkeyed : Keyed Setting.Distinct upper) :
    Says outer inner wanted (mergeEntries lower upper) (y?.or x?) := by
  cases hupper with
  | noTable hu =>
    have hmerged := lookup_mergeEntries_of_eq_none lower hkeyed.keys hu
    rw [Option.none_or]
    cases hlower with
    | noTable hl => exact .noTable (hmerged.trans hl)
    | noValue hl hl' => exact .noValue (hmerged.trans hl) hl'
    | value hl hl' => exact .value (hmerged.trans hl) hl'
  | noValue hu hu' =>
    have hmerged := lookup_mergeEntries_of_eq_some lower hkeyed.keys hu
    have hkeys := (Setting.distinct_table_iff.mp (hkeyed.of_lookup hu)).keys
    rw [Option.none_or]
    cases hlower with
    | noTable hl =>
      rw [hl] at hmerged
      exact .noValue hmerged hu'
    | noValue hl hl' =>
      rw [hl, Setting.table_over_table] at hmerged
      exact .noValue hmerged ((lookup_mergeEntries_of_eq_none _ hkeys hu').trans hl')
    | value hl hl' =>
      rw [hl, Setting.table_over_table] at hmerged
      exact .value hmerged ((lookup_mergeEntries_of_eq_none _ hkeys hu').trans hl')
  | value hu hu' =>
    have hmerged := lookup_mergeEntries_of_eq_some lower hkeyed.keys hu
    have hkeys := (Setting.distinct_table_iff.mp (hkeyed.of_lookup hu)).keys
    rw [Option.some_or]
    cases hlower with
    | noTable hl =>
      rw [hl] at hmerged
      exact .value hmerged hu'
    | @noValue _ entries hl hl' | @value _ _ entries _ hl hl' =>
      have hinner := lookup_mergeEntries_of_eq_some entries hkeys hu'
      rw [hl, Setting.table_over_table] at hmerged
      rw [Setting.scalar_over] at hinner
      exact .value hmerged hinner

/-- A layer in which both settings have their shapes, by what it says about them. -/
structure Offers (layer : List (String × Setting)) (path? : Option String) (json? : Option Bool) :
    Prop where
  path : Says "device" "path" Scalar.string layer path?
  json : Says "output" "json" Scalar.bool layer json?

variable {path? path'? : Option String} {json? json'? : Option Bool} {path : String} {json : Bool}

lemma Offers.merge (hlower : Offers lower path? json?) (hupper : Offers upper path'? json'?)
    (hkeyed : Keyed Setting.Distinct upper) :
    Offers (mergeEntries lower upper) (path'?.or path?) (json'?.or json?) where
  path := hlower.path.merge hupper.path hkeyed
  json := hlower.json.merge hupper.json hkeyed

/-- The defaults say something about both settings. -/
lemma offers_default : Offers default.toSettings (some "/dev/mem") (some false) := by
  have hpath : memoryDevice.display = "/dev/mem" := by decide +kernel
  exact ⟨.value rfl (by rw [← hpath]; rfl), .value rfl rfl⟩

/-- Settings that say something about both give the configuration that they say. -/
lemma Offers.ofSettings_eq {settings : List (String × Setting)}
    (h : Offers settings (some path) (some json)) :
    ofSettings settings = .ok ⟨⟨.ofText path⟩, ⟨json⟩⟩ := by
  obtain ⟨hpath, hjson⟩ := h
  cases hpath with
  | value hdevice hpath =>
    cases hjson with
    | value houtput hjson =>
      simp only [ofSettings, hdevice, houtput, deviceOf, outputOf, field?, hpath, hjson, pathOf,
        booleanOf, Option.map_some, pure, Except.pure, bind, Except.bind]

lemma isEmpty_ofText_iff : (Path.ofText path).isEmpty = true ↔ path = "" := by
  simp only [Path.ofText, Path.isEmpty, Text.encodeUtf8, List.isEmpty_iff,
    Array.toList_eq_nil_iff, ← Array.size_eq_zero_iff]
  exact String.utf8ByteSize_eq_zero_iff

/-- Both settings are resolved by themselves: for each, the variables count before the file and the
file before the default. A path that is empty then makes the configuration invalid, whatever the
command line says; otherwise the command line may replace the path and ask for JSON. -/
theorem load_eq_by_precedence (env : Environment) {fs : FileSystem} {p : Path}
    (hfile : Readable fs p) :
    ∃ file, fileSettings fs p = .ok file ∧
      ∀ (filePath? envPath? : Option String) (fileJson? envJson? : Option Bool),
        Offers file filePath? fileJson? → Offers (variableSettings env) envPath? envJson? →
        let path := (envPath?.or filePath?).getD "/dev/mem"
        let json := (envJson?.or fileJson?).getD false
        let config : Config := ⟨⟨.ofText path⟩, ⟨json⟩⟩
        let invalid : Error := .configInvalid "device.path must not be empty"
        load env fs p = (if path = "" then .error invalid else .ok config) ∧
          ∀ c : CommandLine,
            c.override config = ⟨⟨c.device?.getD (.ofText path)⟩, ⟨c.json || json⟩⟩ ∧
            (c.config?.getD (defaultPath env) = p →
              Program.configuration env fs c =
                if path = "" then .error (Program.inContext s!"config file {p.display}" invalid)
                else .ok (c.override config)) := by
  obtain ⟨file, hsettings⟩ := readable_iff.mp hfile
  refine ⟨file, hsettings, fun filePath? envPath? fileJson? envJson? hoffers henv => ?_⟩
  intro path json config invalid
  have hall : Offers (mergeEntries (mergeEntries default.toSettings file) (variableSettings env))
      (some path) (some json) := by
    have h := (offers_default.merge hoffers (keyed_fileSettings hsettings)).merge henv
      (keyed_variableSettings env)
    rwa [← Option.or_assoc, ← Option.or_assoc, Option.or_some, Option.or_some] at h
  have hload : load env fs p = if path = "" then .error invalid else .ok config := by
    rw [load, settings, hsettings]
    simp only [bind, Except.bind, pure, Except.pure, hall.ofSettings_eq, validate,
      isEmpty_ofText_iff, invalid, config]
  refine ⟨hload, fun c => ⟨rfl, fun hpath => ?_⟩⟩
  rw [Program.configuration, hpath]
  simp only [hload]
  split_ifs <;> rfl

/-- A file sets both, a variable the path again, and the command line another one. -/
theorem load_eq_by_precedence_of_all_layers :
    let text := "device.path='f'\noutput.json=true"
    let contents : Contents := .ofBytes (Text.encodeUtf8 text)
    let env : Environment :=
      ⟨[(Text.encodeUtf8 "I2CTOUT_DEVICE_PATH", Text.encodeUtf8 "g")], none⟩
    let fs : FileSystem := ⟨[([[0x63]], .regular contents)], []⟩
    let p := Path.ofText "/c"
    let c : CommandLine := ⟨"0", "1", some p, some (.ofText "h"), false, 0, false⟩
    load env fs p = .ok ⟨⟨.ofText "g"⟩, ⟨true⟩⟩ ∧
      Program.configuration env fs c = .ok ⟨⟨.ofText "h"⟩, ⟨true⟩⟩ := by
  intro text contents env fs p c
  have hfile : Readable fs p := by
    rw [readable_iff]
    have hok : (fileSettings fs p).isOk = true := by decide +kernel
    cases h : fileSettings fs p with
    | ok file => exact ⟨file, rfl⟩
    | error fault =>
      rw [h] at hok
      cases hok
  obtain ⟨file, hsettings, h⟩ := load_eq_by_precedence env hfile
  have hfileOffers : Offers file (some "f") (some true) := by
    have hread : (fileSettings fs p).toOption.getD [] = file := by
      rw [hsettings]
      rfl
    subst hread
    exact ⟨says_some_iff.mpr (by decide +kernel), says_some_iff.mpr (by decide +kernel)⟩
  have henv : Offers (variableSettings env) (some "g") none :=
    ⟨says_some_iff.mpr (by decide +kernel),
      .noTable (Option.isNone_iff_eq_none.mp (by decide +kernel))⟩
  obtain ⟨hload, hcommand⟩ := h _ _ _ _ hfileOffers henv
  exact ⟨hload, (hcommand c).2 rfl⟩

/-- A file without device and output that is no layer: a mark below its top is not accepted, though
the file is a document. -/
theorem load_of_marked_document :
    let text := "a=[\x7bb=\x7b___figment_value_id=[]\x7d\x7d]"
    let contents : Contents := .ofBytes (Text.encodeUtf8 text)
    let fs : FileSystem := ⟨[([[0x63]], .regular contents)], []⟩
    let p := Path.ofText "/c"
    findFile? fs p = some (p, contents) ∧
      Text.decodeUtf8? contents.bytes = some text ∧
      (∃ doc, Toml.document? (.file (shownPath fs p)) text = some doc ∧
        doc.lookup "device" = none ∧ doc.lookup "output" = none) ∧
      load ⟨[], none⟩ fs p = .error (.configLoad .malformed) := by
  intro text contents fs p
  have hdoc : (Toml.document? (.file (shownPath fs p)) text).any
      (fun doc => (doc.lookup "device").isNone && (doc.lookup "output").isNone) = true := by
    decide +kernel
  refine ⟨by rfl, by decide +kernel, ?_, by decide +kernel⟩
  obtain ⟨doc, hdoc, hlookups⟩ := (Option.any_eq_true _ _).mp hdoc
  rw [Bool.and_eq_true, Option.isNone_iff_eq_none, Option.isNone_iff_eq_none] at hlookups
  exact ⟨doc, hdoc, hlookups⟩

end ClockStretch.Config
