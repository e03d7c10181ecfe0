import ClockStretch.Config.Wrapping
import ClockStretch.Proofs.Table.Keyed

/-!
# Settings without repeated keys

A table laid over another can be looked up key by key, provided that none of its own keys occurs
twice. This is a property of whole trees of settings that laying one over the other keeps, and so
does unwrapping.
-/

namespace ClockStretch.Config

variable {key : String} {v : Setting} {t lower upper : List (String × Setting)}

/-! ### Lookups behind a merge -/

/-- A value laid over the one that the key had, if any. -/
def Setting.over (v : Setting) (old? : Option Setting) : Setting := old?.elim v (·.merge v)

lemma Setting.scalar_over (o : Origin) (x : Scalar) (old? : Option Setting) :
    (Setting.scalar o x).over old? = .scalar o x := by
  cases old? with
  | none => rfl
  | some old => rw [Setting.over, Option.elim_some, Setting.merge]

lemma Setting.table_over_table (o o' : Origin) (lower upper : List (String × Setting)) :
    (Setting.table o upper).over (some (.table o' lower)) =
      .table o (mergeEntries lower upper) := by
  rw [Setting.over, Option.elim_some, Setting.merge]

lemma mergeEntry_eq_put (lower : List (String × Setting)) (key : String) (v : Setting) :
    mergeEntry lower (key, v) = Table.put key (v.over (lower.lookup key)) lower := by
  rw [mergeEntry]
  cases lower.lookup key <;> rfl

/-- A table laid over another, looked up key by key: the upper value counts, laid over the lower
one, and a key that the upper table lacks is as before. -/
lemma lookup_mergeEntries (hupper : (upper.map Prod.fst).Nodup) (key : String) :
    (mergeEntries lower upper).lookup key =
      match upper.lookup key with
      | some v => some (v.over (lower.lookup key))
      | none   => lower.lookup key := by
  induction upper generalizing lower with
  | nil => simp only [mergeEntries, List.lookup_nil]
  | cons e rest ih =>
    obtain ⟨k, v⟩ := e
    rw [List.map_cons, List.nodup_cons] at hupper
    rw [mergeEntries, ih hupper.2, mergeEntry_eq_put]
    by_cases hk : k = key
    · subst hk
      -- The key does not occur again, so nothing is laid over its value later.
      rw [Table.lookup_eq_none_iff.mpr hupper.1, List.lookup_cons_self, Table.lookup_put_self]
    · rw [List.lookup_cons, beq_false_of_ne (Ne.symm hk), Table.lookup_put_of_ne (Ne.symm hk)]

variable (lower) in
lemma lookup_mergeEntries_of_eq_none (hupper : (upper.map Prod.fst).Nodup)
    (h : upper.lookup key = none) :
    (mergeEntries lower upper).lookup key = lower.lookup key := by
  rw [lookup_mergeEntries hupper, h]

variable (lower) in
lemma lookup_mergeEntries_of_eq_some (hupper : (upper.map Prod.fst).Nodup)
    (h : upper.lookup key = some v) :
    (mergeEntries lower upper).lookup key = some (v.over (lower.lookup key)) := by
  rw [lookup_mergeEntries hupper, h]

/-! ### Trees without repeated keys -/

/-- No table of the tree has a key twice, as far as tables lead. -/
inductive Setting.Distinct : Setting → Prop
  | scalar {o : Origin} {x : Scalar} : Distinct (.scalar o x)
  | array {o : Origin} {items : List Setting} : Distinct (.array o items)
  | table {o : Origin} {entries : List (String × Setting)} (keys : (entries.map Prod.fst).Nodup)
      (values : ∀ e ∈ entries, Distinct e.2) : Distinct (.table o entries)

lemma Setting.distinct_table_iff {o : Origin} {entries : List (String × Setting)} :
    (Setting.table o entries).Distinct ↔ Keyed Setting.Distinct entries :=
  ⟨fun | .table keys values => ⟨keys, values⟩, fun h => .table h.keys h.values⟩

lemma keyed_mergeEntry (hlower : Keyed Setting.Distinct lower) (hv : v.Distinct)
    (hmerge : ∀ old : Setting, old.Distinct → (old.merge v).Distinct) :
    Keyed Setting.Distinct (mergeEntry lower (key, v)) := by
  rw [mergeEntry_eq_put]
  apply hlower.put
  cases hold : lower.lookup key with
  | none => exact hv
  | some old => exact hmerge old (hlower.of_lookup hold)

lemma keyed_mergeEntries (hlower : Keyed Setting.Distinct lower)
    (hupper : ∀ e ∈ upper, e.2.Distinct)
    (hmerge : ∀ e ∈ upper, ∀ old : Setting, old.Distinct → (old.merge e.2).Distinct) :
    Keyed Setting.Distinct (mergeEntries lower upper) := by
  induction upper generalizing lower with
  | nil =>
    rw [mergeEntries]
    exact hlower
  | cons e rest ih =>
    rw [List.forall_mem_cons] at hupper hmerge
    rw [mergeEntries]
    exact ih (keyed_mergeEntry hlower hupper.1 hmerge.1) hupper.2 hmerge.2

/-- Laying one tree over another repeats no key. -/
lemma Setting.Distinct.merge {below v : Setting} (hv : v.Distinct) (hbelow : below.Distinct) :
    (below.merge v).Distinct := by
  induction hv generalizing below with
  | scalar =>
    rw [Setting.merge]
    exact .scalar
  | array =>
    rw [Setting.merge]
    exact .array
  | table keys values ih =>
    cases below with
    | table _ lower =>
      rw [Setting.merge, distinct_table_iff]
      exact keyed_mergeEntries (distinct_table_iff.mp hbelow) values
        fun e he old hold => ih e he hold
    | scalar => exact .table keys values
    | array => exact .table keys values

/-! ### Unwrapped trees -/

lemma unwrapEntries?_eq_some {entries : List (String × Setting)}
    (h : unwrapEntries? t = some entries) :
    entries.map Prod.fst = t.map Prod.fst ∧
      ∀ e ∈ entries, ∃ old ∈ t, old.2.unwrap? = some e.2 := by
  induction t generalizing entries with
  | nil =>
    rw [unwrapEntries?] at h
    cases h
    simp
  | cons e t ih =>
    obtain ⟨k, v⟩ := e
    simp only [unwrapEntries?, unwrapPair?, Option.bind_eq_bind, Option.bind_eq_some_iff,
      Option.map_eq_some_iff] at h
    obtain ⟨_, ⟨w, hw, rfl⟩, rest, hrest, h⟩ := h
    cases h
    obtain ⟨hkeys, hvalues⟩ := ih hrest
    refine ⟨by rw [List.map_cons, List.map_cons, hkeys], ?_⟩
    rw [List.forall_mem_cons]
    refine ⟨⟨_, .head _, hw⟩, fun e he => ?_⟩
    obtain ⟨old, hold, hunwrap⟩ := hvalues e he
    exact ⟨old, .tail _ hold, hunwrap⟩

lemma keyed_unwrapEntries? {entries : List (String × Setting)}
    (h : unwrapEntries? t = some entries) (hkeys : (t.map Prod.fst).Nodup)
    (hvalues : ∀ e ∈ t, ∀ w, e.2.unwrap? = some w → w.Distinct) :
    Keyed Setting.Distinct entries := by
  obtain ⟨hsame, hfrom⟩ := unwrapEntries?_eq_some h
  refine ⟨hsame ▸ hkeys, fun e he => ?_⟩
  obtain ⟨old, hold, hunwrap⟩ := hfrom e he
  exact hvalues old hold e.2 hunwrap

/-- Unwrapping repeats no key: a table that stands for a value gives way to this value. -/
lemma Setting.Distinct.unwrap? (hv : v.Distinct) {w : Setting} (h : v.unwrap? = some w) :
    w.Distinct := by
  induction hv generalizing w with
  | scalar =>
    rw [Setting.unwrap?] at h
    cases h
    exact .scalar
  | array =>
    rw [Setting.unwrap?, Option.map_eq_some_iff] at h
    obtain ⟨items, -, rfl⟩ := h
    exact .array
  | table keys values ih =>
    rw [Setting.unwrap?, Option.bind_eq_bind, Option.bind_eq_some_iff] at h
    obtain ⟨entries, hentries, h⟩ := h
    have hkeyed := keyed_unwrapEntries? hentries keys fun e he w hw => ih e he hw
    split at h
    · cases h
    · cases h
      cases hwrapped : entries.lookup wrappedKey with
      | none => exact distinct_table_iff.mpr hkeyed
      | some w => exact hkeyed.of_lookup hwrapped

end ClockStretch.Config
