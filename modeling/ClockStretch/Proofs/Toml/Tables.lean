import ClockStretch.Proofs.Config.Tables
import ClockStretch.Toml.Document

/-!
# Tables of TOML documents

No table of a document has a key twice. While the document is built, every change of a table keeps
this; what is read from the text are only values and assignments of which it holds.
-/

namespace ClockStretch.Toml

open Config (Origin Setting)

/-! ### Documents under construction -/

/-- No table of the item has a key twice, as far as tables lead. -/
inductive Item.Distinct : Item → Prop
  | value {v : Setting} (h : v.Distinct) : Distinct (.value v)
  | table {kind : Kind} {entries : List (String × Item)} (keys : (entries.map Prod.fst).Nodup)
      (values : ∀ e ∈ entries, Distinct e.2) : Distinct (.table kind entries)
  | tables {elements : List (List (String × Item))} : Distinct (.tables elements)

lemma Item.distinct_table_iff {kind : Kind} {entries : List (String × Item)} :
    (Item.table kind entries).Distinct ↔ Keyed Item.Distinct entries :=
  ⟨fun | .table keys values => ⟨keys, values⟩, fun h => .table h.keys h.values⟩

namespace Entries

variable {item : Item}

/-- A change of a table after which no key is there twice, if none was before. -/
def Keeps (change : Entries → Option Entries) : Prop :=
  ∀ es es', Keyed Item.Distinct es → change es = some es' → Keyed Item.Distinct es'

/-- Changes one after the other keep what each of them keeps. -/
lemma keeps_foldlM {β : Type} {change : Entries → β → Option Entries} {bs : List β}
    (h : ∀ b ∈ bs, Keeps fun es => change es b) : Keeps fun es => bs.foldlM change es := by
  induction bs with
  | nil =>
    intro es es' hes hchange
    cases hchange
    exact hes
  | cons b bs ih =>
    rw [List.forall_mem_cons] at h
    intro es es' hes hchange
    simp only [List.foldlM_cons, Option.bind_eq_bind, Option.bind_eq_some_iff] at hchange
    obtain ⟨between, hfirst, hrest⟩ := hchange
    exact ih h.2 between es' (h.1 es between hes hfirst) hrest

/-- A change at the end of a path keeps all that it keeps in its place. -/
lemma keeps_within {dotted : Bool} {change : Kind → Entries → Option Entries}
    (hchange : ∀ kind, Keeps (change kind)) (path : List String) (kind : Kind) :
    Keeps (within dotted change path kind) := by
  induction path generalizing kind with
  | nil => exact hchange kind
  | cons key path ih =>
    intro es es' hes h
    rw [within] at h
    split at h
    · simp only [Option.bind_eq_bind, Option.bind_eq_some_iff, Option.some.injEq] at h
      obtain ⟨inner, hinner, rfl⟩ := h
      exact hes.put (Item.distinct_table_iff.mpr (ih _ _ _ .nil hinner))
    · cases h
    · cases h
    · simp only [Option.bind_eq_bind, Option.bind_eq_some_iff, Option.some.injEq] at h
      obtain ⟨last, -, rfl⟩ := h
      exact hes.put .tables
    · next hfound =>
      split at h
      · cases h
      · simp only [Option.bind_eq_bind, Option.bind_eq_some_iff, Option.some.injEq] at h
        obtain ⟨inner, hinner, rfl⟩ := h
        have hold := Item.distinct_table_iff.mp (hes.of_lookup hfound)
        exact hes.put (Item.distinct_table_iff.mpr (ih _ _ _ hold hinner))

lemma keeps_assign (path : List String) (key : String) (hitem : item.Distinct) :
    Keeps (assign path key item) := by
  apply keeps_within
  intro kind es es' hes h
  simp only at h
  split_ifs at h
  cases h
  exact hes.put hitem

/-- Assignments of values without repeated keys. -/
def Assignment.Distinct (a : Assignment) : Prop := a.value.Distinct

lemma keeps_assignAll {assignments : List Assignment} (h : ∀ a ∈ assignments, a.Distinct) :
    Keeps fun es => es.assignAll assignments :=
  keeps_foldlM fun a ha => keeps_assign a.path a.key (.value (h a ha))

end Entries

/-! ### From items to settings -/

lemma settingEntries_eq_map (origin : Origin) (es : List (String × Item)) :
    settingEntries origin es = es.map fun e => (e.1, e.2.toSetting origin) := by
  induction es with
  | nil => rw [settingEntries, List.map_nil]
  | cons e es ih =>
    obtain ⟨key, item⟩ := e
    rw [settingEntries, settingEntry, ih, List.map_cons]

lemma Item.Distinct.toSetting {item : Item} (h : item.Distinct) (origin : Origin) :
    (item.toSetting origin).Distinct := by
  induction h with
  | value h =>
    rw [Item.toSetting]
    exact h
  | table keys values ih =>
    rw [Item.toSetting, settingEntries_eq_map, Setting.distinct_table_iff]
    exact Keyed.map ⟨keys, values⟩ _ ih
  | tables =>
    rw [Item.toSetting]
    exact .array

lemma keyed_settingEntries {es : Entries} (hes : Keyed Item.Distinct es) (origin : Origin) :
    Keyed Setting.Distinct (settingEntries origin es) := by
  rw [settingEntries_eq_map]
  exact hes.map _ fun e he => (hes.values e he).toSetting origin

/-! ### What is read -/

/-- Whatever a reader takes off a text has a property. -/
def Yields {α : Type} (P : α → Prop) (r : Reader α) : Prop := ∀ s a s', r s = some (a, s') → P a

variable {value : Reader Setting}

lemma yields_readAssignment (hvalue : Yields Setting.Distinct value) :
    Yields Entries.Assignment.Distinct (readAssignment value) := by
  intro s a s' h
  simp only [readAssignment, Option.bind_eq_bind, Option.bind_eq_some_iff, Option.some.injEq] at h
  obtain ⟨key, -, equals, -, v, hv, h⟩ := h
  cases h
  exact hvalue _ v.1 v.2 hv

lemma yields_readInlineAssignments (hvalue : Yields Setting.Distinct value) (n : Nat) :
    Yields (fun as => ∀ a ∈ as, a.Distinct) (readInlineAssignments value n) := by
  induction n with
  | zero =>
    intro s as s' h
    cases h
  | succ n ih =>
    intro s as s' h
    simp only [readInlineAssignments, Option.bind_eq_bind, Option.bind_eq_some_iff] at h
    obtain ⟨⟨a, s₁⟩, ha, h⟩ := h
    have hfirst := yields_readAssignment hvalue _ _ _ ha
    split at h
    · cases h
      simpa using hfirst
    · simp only [Option.bind_eq_some_iff, Option.some.injEq] at h
      obtain ⟨⟨as, s₂⟩, has, h⟩ := h
      cases h
      exact List.forall_mem_cons.mpr ⟨hfirst, ih _ _ _ has⟩
    · cases h

lemma yields_readNumeric (origin : Origin) : Yields Setting.Distinct (readNumeric origin) := by
  intro s v s' h
  simp only [readNumeric, Option.orElse_eq_orElse, Option.orElse_eq_or, Option.or_eq_some_iff,
    Option.map_eq_some_iff] at h
  rcases h with ⟨_, -, h⟩ | ⟨-, ⟨_, -, h⟩ | ⟨-, _, -, h⟩⟩
  · cases h
    exact .table List.nodup_nil (by simp)
  · cases h
    exact .scalar
  · cases h
    exact .scalar

/-- No table of a value that is read has a key twice. -/
lemma yields_readValue (origin : Origin) (depth : Nat) :
    Yields Setting.Distinct (readValue origin depth) := by
  induction depth using Nat.strongRecOn with
  | ind depth ih =>
    intro s v s' h
    unfold readValue at h
    split at h
    · cases h
    · split at h
      · cases h
      · simp only [Option.bind_eq_bind, Option.bind_eq_some_iff, Option.some.injEq] at h
        obtain ⟨items, -, h⟩ := h
        cases h
        exact .array
    · split at h
      · cases h
      · next depth =>
        split at h
        · cases h
          exact .table List.nodup_nil (by simp)
        · simp only [Option.bind_eq_bind, Option.bind_eq_some_iff, Option.some.injEq] at h
          obtain ⟨as, has, es, hes, h⟩ := h
          cases h
          have hinner := ih depth (Nat.lt_succ_self depth)
          have hassignments := yields_readInlineAssignments hinner _ _ _ _ has
          have hkeyed := Entries.keeps_assignAll hassignments [] es .nil hes
          exact Setting.distinct_table_iff.mpr (keyed_settingEntries hkeyed origin)
    · next c rest =>
      split_ifs at h
      case neg => exact yields_readNumeric origin _ _ _ h
      all_goals
        obtain ⟨_, -, h⟩ := Option.map_eq_some_iff.mp h
        cases h
        exact .scalar

/-! ### Documents -/

lemma distinct_of_readLine {origin : Origin} {s s' : List Char} {a : Entries.Assignment}
    (h : readLine origin s = some (.assignment a, s')) : a.Distinct := by
  rw [readLine] at h
  split at h
  all_goals
    simp only [Option.bind_eq_bind, Option.bind_eq_some_iff, Option.map_eq_some_iff,
      Option.some.injEq] at h
    obtain ⟨⟨line, s₁⟩, hline, _, -, h⟩ := h
    cases h
  case h_5 =>
    obtain ⟨_, -, hline⟩ := hline
    cases hline
  case h_6 =>
    obtain ⟨⟨a, s₁⟩, ha, hline⟩ := hline
    cases hline
    exact yields_readAssignment (yields_readValue origin _) _ _ _ ha
  all_goals cases hline

lemma distinct_of_mem_readLines {origin : Origin} {n : Nat} {s : List Char} {lines : List Line}
    (h : readLines origin n s = some lines) {a : Entries.Assignment}
    (ha : .assignment a ∈ lines) : a.Distinct := by
  induction n generalizing s lines with
  | zero =>
    cases s <;> cases h
    cases ha
  | succ n ih =>
    cases s with
    | nil =>
      cases h
      cases ha
    | cons c s =>
      simp only [readLines, Option.bind_eq_bind, Option.bind_eq_some_iff, Option.some.injEq] at h
      obtain ⟨⟨line, s₁⟩, hline, lines, hlines, rfl⟩ := h
      rcases List.mem_cons.mp ha with rfl | ha
      · exact distinct_of_readLine hline
      · exact ih hlines ha

/-- Sections have no other assignments than the lines. -/
lemma mem_lines_of_mem_sections {lines : List Line} {a : Entries.Assignment}
    (h : a ∈ (sections lines).1 ∨ ∃ sec ∈ (sections lines).2, a ∈ sec.assignments) :
    .assignment a ∈ lines := by
  induction lines with
  | nil => simp [sections] at h
  | cons line lines ih =>
    cases line with
    | blank => exact .tail _ (ih h)
    | assignment a' =>
      rw [sections, List.mem_cons] at h
      rcases h with (rfl | h) | h
      · exact .head _
      · exact .tail _ (ih (.inl h))
      · exact .tail _ (ih (.inr h))
    | header header =>
      rw [sections] at h
      simp only [List.not_mem_nil, false_or, List.exists_mem_cons_iff] at h
      exact .tail _ (ih h)

/-- A section adds its assignments to a table and repeats no key. -/
lemma keeps_addSection {sec : Section} (h : ∀ a ∈ sec.assignments, a.Distinct) :
    Entries.Keeps fun es => addSection es sec := by
  have hopened : ∀ es inner, Keyed Item.Distinct es →
      Entries.assignAll es sec.assignments = some inner → Keyed Item.Distinct inner :=
    Entries.keeps_assignAll h
  intro es es' hes hadd
  simp only [addSection] at hadd
  split at hadd
  · exact hopened es es' hes hadd
  · refine Entries.keeps_within (fun _ es es' hes hchange => ?_) _ _ es es' hes hadd
    split at hchange
    · simp only [Option.bind_eq_bind, Option.bind_eq_some_iff, Option.some.injEq] at hchange
      obtain ⟨inner, hinner, rfl⟩ := hchange
      exact hes.put (Item.distinct_table_iff.mpr (hopened _ _ .nil hinner))
    · next implied hfound =>
      simp only [Option.bind_eq_bind, Option.bind_eq_some_iff, Option.some.injEq] at hchange
      obtain ⟨inner, hinner, rfl⟩ := hchange
      have himplied := Item.distinct_table_iff.mp (hes.of_lookup hfound)
      exact hes.put (Item.distinct_table_iff.mpr (hopened _ _ himplied hinner))
    · cases hchange
  · refine Entries.keeps_within (fun _ es es' hes hchange => ?_) _ _ es es' hes hadd
    simp only [Option.bind_eq_bind, Option.bind_eq_some_iff] at hchange
    obtain ⟨inner, -, hchange⟩ := hchange
    split at hchange
    · cases hchange
      exact hes.put .tables
    · cases hchange
      exact hes.put .tables
    · cases hchange

/-- No table of a document has a key twice. -/
theorem keyed_document? {origin : Origin} {text : String} {doc : List (String × Setting)}
    (h : document? origin text = some doc) : Keyed Setting.Distinct doc := by
  simp only [document?, Option.bind_eq_bind, Option.bind_eq_some_iff, Option.some.injEq] at h
  obtain ⟨lines, hlines, es, hes, rfl⟩ := h
  have hsections : ∀ sec ∈ (⟨.root, (sections lines).1⟩ :: (sections lines).2 : List Section),
      ∀ a ∈ sec.assignments, a.Distinct := by
    intro sec hsec a ha
    apply distinct_of_mem_readLines hlines
    rcases List.mem_cons.mp hsec with rfl | hsec
    · exact mem_lines_of_mem_sections (.inl ha)
    · exact mem_lines_of_mem_sections (.inr ⟨sec, hsec, ha⟩)
  have hkeeps := Entries.keeps_foldlM fun sec hsec => keeps_addSection (hsections sec hsec)
  exact keyed_settingEntries (hkeeps [] es .nil hes) origin

end ClockStretch.Toml
