import ClockStretch.Config.Load
import ClockStretch.Proofs.Toml.Tables

/-!
# Layers of the configuration

What the variables give, and what a file gives, are tables without repeated keys. A file gives one
if it is not there, or if it is a document in which no table below the top has the key that is
reserved for marks.
-/

namespace ClockStretch.Config

open Toml (Yields)

/-! ### Variables -/

/-- Entries of which no value repeats a key. -/
def DistinctValues (es : List (String × Setting)) : Prop := ∀ e ∈ es, e.2.Distinct

lemma keyed_foldl_put {es : List (String × Setting)} (h : DistinctValues es) :
    Keyed Setting.Distinct (es.foldl (fun t e => Table.put e.1 e.2 t) []) :=
  List.foldlRecOn es _ .nil fun _ ht e he => ht.put (h e he)

lemma yields_readVariableValue_succ {n : Nat}
    (hentries : Yields DistinctValues (readVariableEntries n)) :
    Yields Setting.Distinct (readVariableValue (n + 1)) := by
  intro s v s' h
  simp only [readVariableValue, Option.bind_eq_bind] at h
  split at h
  case h_1 | h_2 =>
    cases h
    exact .scalar
  case h_3 =>
    split at h
    case h_1 =>
      simp only [Option.bind_eq_some_iff, Option.some.injEq, exists_eq_left'] at h
      obtain ⟨⟨entries, s₁⟩, hread, h⟩ := h
      cases h
      exact Setting.distinct_table_iff.mpr (keyed_foldl_put (hentries _ _ _ hread))
    case h_2 =>
      simp only [Option.bind_eq_some_iff, Option.some.injEq, exists_eq_left'] at h
      obtain ⟨items, -, h⟩ := h
      cases h
      exact .array
    case h_3 =>
      simp only [Option.bind_eq_some_iff, Option.map_eq_some_iff, Option.some.injEq] at h
      obtain ⟨_, ⟨text, -, rfl⟩, h⟩ := h
      cases h
      exact .scalar
    case h_5 => cases h
    case h_4 | h_6 =>
      cases h
      exact .scalar

lemma yields_readVariableEntries_succ {n : Nat}
    (hvalue : Yields Setting.Distinct (readVariableValue n))
    (hentries : Yields DistinctValues (readVariableEntries n)) :
    Yields DistinctValues (readVariableEntries (n + 1)) := by
  intro s es s' h
  unfold readVariableEntries at h
  split at h
  case h_1 => contradiction
  case h_2 =>
    cases h
    exact List.forall_mem_nil _
  case h_3 s _ m hm _ =>
    cases hm
    simp only [Option.bind_eq_bind, Option.bind_eq_some_iff] at h
    obtain ⟨key, -, h⟩ := h
    split at h
    · simp only [Option.bind_eq_some_iff] at h
      obtain ⟨⟨v, s₁⟩, hv, h⟩ := h
      have hfirst := hvalue _ _ _ hv
      split at h
      · simp only [Option.bind_eq_some_iff, Option.some.injEq] at h
        obtain ⟨⟨es, s₂⟩, hes, h⟩ := h
        cases h
        exact List.forall_mem_cons.mpr ⟨hfirst, hentries _ _ _ hes⟩
      · cases h
        exact List.forall_mem_singleton.mpr hfirst
      · cases h
    · cases h

/-- The readers of values and of entries use each other, one level further inside. -/
lemma yields_readVariable (n : Nat) :
    Yields Setting.Distinct (readVariableValue n) ∧
      Yields DistinctValues (readVariableEntries n) := by
  induction n with
  | zero =>
    refine ⟨fun s v s' h => ?_, fun s es s' h => ?_⟩
    · rw [readVariableValue] at h
      cases h
    · rw [readVariableEntries] at h
      cases h
  | succ n ih =>
    exact ⟨yields_readVariableValue_succ ih.2, yields_readVariableEntries_succ ih.1 ih.2⟩

/-- The value of a variable repeats no key. -/
lemma distinct_variableValue (text : String) : (variableValue text).Distinct := by
  rw [variableValue]
  split
  · next hread => exact (yields_readVariable _).1 _ _ _ hread
  · exact .scalar

lemma Setting.Distinct.nested {v : Setting} (hv : v.Distinct) (keys : List String) :
    (nested keys v).Distinct := by
  induction keys with
  | nil => exact hv
  | cons key keys ih => exact distinct_table_iff.mpr (.singleton ih)

/-- The variables of an environment give a table without repeated keys. -/
theorem keyed_variableSettings (env : Environment) :
    Keyed Setting.Distinct (variableSettings env) := by
  rw [variableSettings]
  refine List.foldlRecOn _ _ .nil fun t ht v _ => ?_
  simp only
  split
  · next key keys _ =>
    have hv := (distinct_variableValue (Text.decodeUtf8Lossy v.2)).nested keys
    exact keyed_mergeEntry ht hv fun old hold => hv.merge hold
  · exact ht

/-! ### Files -/

/-- No table of the tree has the key that is reserved for marks. -/
inductive Setting.Unmarked : Setting → Prop
  | scalar {o : Origin} {x : Scalar} : Unmarked (.scalar o x)
  | array {o : Origin} {items : List Setting} (h : ∀ v ∈ items, Unmarked v) :
      Unmarked (.array o items)
  | table {o : Origin} {entries : List (String × Setting)} (key : entries.lookup markKey = none)
      (values : ∀ e ∈ entries, Unmarked e.2) : Unmarked (.table o entries)

lemma Setting.unmarked_table_iff {o : Origin} {entries : List (String × Setting)} :
    (Setting.table o entries).Unmarked ↔
      entries.lookup markKey = none ∧ ∀ e ∈ entries, e.2.Unmarked :=
  ⟨fun | .table key values => ⟨key, values⟩, fun h => .table h.1 h.2⟩

mutual

/-- Just the trees without marks can be unwrapped. -/
lemma Setting.isSome_unwrap?_iff (v : Setting) : v.unwrap?.isSome = true ↔ v.Unmarked := by
  match v with
  | .scalar o x => simp [Setting.unwrap?, Setting.Unmarked.scalar]
  | .array o items =>
    rw [Setting.unwrap?, Option.isSome_map, isSome_unwrapItems?_iff items]
    exact ⟨.array, fun | .array h => h⟩
  | .table o entries =>
    rw [Setting.unmarked_table_iff, ← isSome_unwrapEntries?_iff entries, Setting.unwrap?]
    cases hunwrap : unwrapEntries? entries with
    | none => simp
    | some entries' =>
      -- Unwrapping changes no key, so the marks of the table are the same before and after.
      have hmark : entries.lookup markKey = none ↔ entries'.lookup markKey = none := by
        rw [Table.lookup_eq_none_iff, Table.lookup_eq_none_iff, (unwrapEntries?_eq_some hunwrap).1]
      cases hfound : entries'.lookup markKey <;> simp [hmark, hfound]

lemma isSome_unwrapItems?_iff (items : List Setting) :
    (unwrapItems? items).isSome = true ↔ ∀ v ∈ items, v.Unmarked := by
  match items with
  | [] => simp [unwrapItems?]
  | v :: items =>
    rw [unwrapItems?, List.forall_mem_cons, ← Setting.isSome_unwrap?_iff v,
      ← isSome_unwrapItems?_iff items]
    cases v.unwrap? <;> cases unwrapItems? items <;> simp

lemma isSome_unwrapEntries?_iff (entries : List (String × Setting)) :
    (unwrapEntries? entries).isSome = true ↔ ∀ e ∈ entries, e.2.Unmarked := by
  match entries with
  | [] => simp [unwrapEntries?]
  | e :: entries =>
    rw [unwrapEntries?, List.forall_mem_cons, ← isSome_unwrapPair?_iff e,
      ← isSome_unwrapEntries?_iff entries]
    cases unwrapPair? e <;> cases unwrapEntries? entries <;> simp

lemma isSome_unwrapPair?_iff (e : String × Setting) :
    (unwrapPair? e).isSome = true ↔ e.2.Unmarked := by
  match e with
  | (key, v) => rw [unwrapPair?, Option.isSome_map, Setting.isSome_unwrap?_iff v]

end

/-- The file of a path is not there, or it is a document without marks below its top. -/
inductive Readable (fs : FileSystem) (p : Path) : Prop
  | missing (hfile : findFile? fs p = none)
  | document {q : Path} {contents : Contents} {text : String} {doc : List (String × Setting)}
      (hfile : findFile? fs p = some (q, contents))
      (htext : Text.decodeUtf8? contents.bytes = some text)
      (hdoc : Toml.document? (.file (shownPath fs q)) text = some doc)
      (hmarks : ∀ e ∈ doc, e.2.Unmarked)

variable {fs : FileSystem} {p q : Path} {contents : Contents} {text : String}
variable {doc file : List (String × Setting)}

lemma fileSettings_of_unwrapEntries? (hfile : findFile? fs p = some (q, contents))
    (htext : Text.decodeUtf8? contents.bytes = some text)
    (hdoc : Toml.document? (.file (shownPath fs q)) text = some doc)
    (hunwrap : unwrapEntries? doc = some file) : fileSettings fs p = .ok file := by
  rw [fileSettings, hfile]
  simp only [htext, hdoc, hunwrap, Option.bind_some]

/-- A file layer comes from no file, or from a document that can be unwrapped. -/
lemma fileSettings_cases (h : fileSettings fs p = .ok file) :
    (findFile? fs p = none ∧ file = []) ∨
      ∃ q contents text doc, findFile? fs p = some (q, contents) ∧
        Text.decodeUtf8? contents.bytes = some text ∧
        Toml.document? (.file (shownPath fs q)) text = some doc ∧
        unwrapEntries? doc = some file := by
  unfold fileSettings at h
  split at h
  · next hfile =>
    cases h
    exact .inl ⟨hfile, rfl⟩
  · next q contents hfile =>
    simp only at h
    split at h
    · cases h
    · next text htext =>
      split at h
      · next hsettings =>
        cases h
        obtain ⟨doc, hdoc, hunwrap⟩ := Option.bind_eq_some_iff.mp hsettings
        exact .inr ⟨q, contents, text, doc, hfile, htext, hdoc, hunwrap⟩
      · cases h

/-- Just the readable files give a layer. -/
theorem readable_iff : Readable fs p ↔ ∃ file, fileSettings fs p = .ok file := by
  constructor
  · rintro (hfile | ⟨hfile, htext, hdoc, hmarks⟩)
    · exact ⟨[], by rw [fileSettings, hfile]⟩
    · obtain ⟨file, hunwrap⟩ :=
        Option.isSome_iff_exists.mp ((isSome_unwrapEntries?_iff _).mpr hmarks)
      exact ⟨file, fileSettings_of_unwrapEntries? hfile htext hdoc hunwrap⟩
  · rintro ⟨file, h⟩
    rcases fileSettings_cases h with
      ⟨hfile, -⟩ | ⟨q, contents, text, doc, hfile, htext, hdoc, hunwrap⟩
    · exact .missing hfile
    · exact .document hfile htext hdoc
        ((isSome_unwrapEntries?_iff doc).mp (Option.isSome_iff_exists.mpr ⟨file, hunwrap⟩))

/-- A file layer has no key twice. -/
theorem keyed_fileSettings (h : fileSettings fs p = .ok file) :
    Keyed Setting.Distinct file := by
  rcases fileSettings_cases h with ⟨-, rfl⟩ | ⟨q, contents, text, doc, -, -, hdoc, hunwrap⟩
  · exact .nil
  · have hkeyed := Toml.keyed_document? hdoc
    exact keyed_unwrapEntries? hunwrap hkeyed.keys fun e he w hw =>
      (hkeyed.values e he).unwrap? hw

end ClockStretch.Config
