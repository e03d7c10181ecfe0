import ClockStretch.Table
import Mathlib.Data.List.Nodup
import Mathlib.Tactic.Lemma
import Mathlib.Tactic.SplitIfs

/-!
# Tables and their keys

A value that is put under a key is found there, and the other keys are as before. If no key occurs
twice in a table, none does after that either.
-/

namespace ClockStretch

namespace Table

variable {κ α : Type} [DecidableEq κ] {key k : κ} {v : α} {t : List (κ × α)}

lemma lookup_put_self : (put key v t).lookup key = some v := by
  induction t with
  | nil => exact List.lookup_cons_self
  | cons e t ih =>
    obtain ⟨k, w⟩ := e
    rw [put]
    split_ifs with hk
    · rw [hk, List.lookup_cons_self]
    · rw [List.lookup_cons, beq_false_of_ne (Ne.symm hk), ih]

lemma lookup_put_of_ne (h : k ≠ key) : (put key v t).lookup k = t.lookup k := by
  induction t with
  | nil => rw [put, List.lookup_cons, beq_false_of_ne h]
  | cons e t ih =>
    obtain ⟨k', w⟩ := e
    rw [put]
    split_ifs with hk
    · subst hk
      rw [List.lookup_cons, List.lookup_cons, beq_false_of_ne h]
    · rw [List.lookup_cons, List.lookup_cons, ih]

lemma mem_of_lookup_eq_some (h : t.lookup key = some v) : (key, v) ∈ t := by
  obtain ⟨t₁, t₂, rfl, -⟩ := List.lookup_eq_some_iff.mp h
  simp

lemma lookup_eq_none_iff : t.lookup key = none ↔ key ∉ t.map Prod.fst := by
  simp only [List.lookup_eq_none_iff, bne_iff_ne, List.mem_map, not_exists, not_and]
  exact forall₂_congr fun e _ => ne_comm

lemma eq_or_mem_of_mem_put {e : κ × α} (h : e ∈ put key v t) : e = (key, v) ∨ e ∈ t := by
  induction t with
  | nil => exact .inl (List.mem_singleton.mp h)
  | cons e' t ih =>
    obtain ⟨k, w⟩ := e'
    rw [put] at h
    split at h
    · next hk =>
      subst hk
      rcases List.mem_cons.mp h with rfl | h
      · exact .inl rfl
      · exact .inr (.tail _ h)
    · rcases List.mem_cons.mp h with rfl | h
      · exact .inr (.head _)
      · exact (ih h).imp_right (.tail _)

lemma keys_put (ht : (t.map Prod.fst).Nodup) : ((put key v t).map Prod.fst).Nodup := by
  induction t with
  | nil => exact List.nodup_singleton key
  | cons e t ih =>
    obtain ⟨k, w⟩ := e
    rw [List.map_cons, List.nodup_cons] at ht
    rw [put]
    split
    · rw [List.map_cons, List.nodup_cons]
      exact ht
    · next hk =>
      rw [List.map_cons, List.nodup_cons]
      refine ⟨fun hmem => ?_, ih ht.2⟩
      obtain ⟨e, he, hek⟩ := List.mem_map.mp hmem
      rcases eq_or_mem_of_mem_put he with rfl | he
      · exact hk hek.symm
      · exact ht.1 (hek ▸ List.mem_map_of_mem he)

end Table

/-- A table in which no key occurs twice and every value has a property. -/
structure Keyed {α : Type} (P : α → Prop) (t : List (String × α)) : Prop where
  keys : (t.map Prod.fst).Nodup
  values : ∀ e ∈ t, P e.2

namespace Keyed

variable {α β : Type} {P : α → Prop} {Q : β → Prop} {t : List (String × α)} {key : String} {v : α}

lemma nil : Keyed P [] where
  keys := List.nodup_nil
  values := by simp

lemma singleton (hv : P v) : Keyed P [(key, v)] where
  keys := List.nodup_singleton key
  values := by simpa using hv

lemma map (ht : Keyed P t) (f : α → β) (hf : ∀ e ∈ t, Q (f e.2)) :
    Keyed Q (t.map fun e => (e.1, f e.2)) where
  keys := by simpa [List.map_map, Function.comp_def] using ht.keys
  values e he := by
    obtain ⟨old, hold, rfl⟩ := List.mem_map.mp he
    exact hf old hold

lemma put (ht : Keyed P t) (hv : P v) : Keyed P (Table.put key v t) where
  keys := Table.keys_put ht.keys
  values e he := by
    rcases Table.eq_or_mem_of_mem_put he with rfl | he
    · exact hv
    · exact ht.values e he

lemma of_lookup (ht : Keyed P t) (h : t.lookup key = some v) : P v :=
  ht.values (key, v) (Table.mem_of_lookup_eq_some h)

end Keyed

end ClockStretch
