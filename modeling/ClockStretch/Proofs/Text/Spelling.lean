import ClockStretch.Text.Blank
import ClockStretch.Text.Hex
import ClockStretch.Proofs.Text.Numeral
import Mathlib.Data.List.TakeWhile

/-!
# Spellings of numerals

The digits that are printed for a number write this number, and so they do with more zeros in front
and with letters of either case. White space put around a text and underscores put into it are taken
out again, so a text can be spelled in many ways that are read alike.
-/

namespace ClockStretch.Text

variable {radix n d : Nat} {c : Char} {s t u : List Char}

/-! ### Printed digits -/

lemma isDigit_digitChar (hradix : radix ≤ 16) (hd : d < radix) :
    IsDigit radix (Nat.digitChar d) d := by
  have hlower : ∀ d < 16, lowerDigits[d]? = some (Nat.digitChar d) := by decide
  exact ⟨hd, .inl (hlower d (by omega))⟩

/-- The digits that are printed for a number write it. -/
lemma writes_toDigits (hbase : 1 < radix) (hradix : radix ≤ 16) (n : Nat) :
    Writes radix (Nat.toDigits radix n) n := by
  induction n using Nat.strongRecOn with
  | ind n ih =>
    rw [Nat.toDigits_eq_if hbase]
    split_ifs with hn
    · exact writes_concat_iff (s := []).mpr
        ⟨0, n, writes_nil_iff.mpr rfl, isDigit_digitChar hradix hn, by omega⟩
    · have hmod : n % radix < radix := Nat.mod_lt _ (by omega)
      exact writes_concat_iff.mpr ⟨n / radix, n % radix, ih _ (Nat.div_lt_self (by omega) hbase),
        isDigit_digitChar hradix hmod, Nat.div_add_mod' n radix⟩

lemma toDigits_inj (hbase : 1 < radix) (hradix : radix ≤ 16) {m : Nat}
    (h : Nat.toDigits radix n = Nat.toDigits radix m) : n = m :=
  (writes_toDigits hbase hradix n).unique hradix (h ▸ writes_toDigits hbase hradix m)

/-- A decimal digit is the one that is printed for its value. -/
lemma IsDigit.eq_digitChar (h : IsDigit 10 c d) : c = Nat.digitChar d := by
  have hchars : ∀ d < 10, lowerDigits[d]? = some (Nat.digitChar d) ∧
      upperDigits[d]? = some (Nat.digitChar d) := by decide
  obtain ⟨hd, hc | hc⟩ := h
  · exact Option.some.inj (hc.symm.trans (hchars d hd).1)
  · exact Option.some.inj (hc.symm.trans (hchars d hd).2)

/-- No zero is printed in front of the other digits of a number. -/
lemma eq_zero_of_head?_toDigits (h : (Nat.toDigits 10 n).head? = some '0') : n = 0 := by
  induction n using Nat.strongRecOn with
  | ind n ih =>
    rw [Nat.toDigits_eq_if (by decide)] at h
    split_ifs at h with hn
    · simpa using h
    · rw [List.head?_append_of_ne_nil _ Nat.toDigits_ne_nil] at h
      have hzero := ih (n / 10) (by omega) h
      omega

/-- Zeros in front of digits make no other number. -/
lemma Writes.zeros_append (hradix : 0 < radix) (count : Nat) (h : Writes radix s n) :
    Writes radix (List.replicate count '0' ++ s) n := by
  induction s using List.reverseRecOn generalizing n with
  | nil =>
    obtain rfl := writes_nil_iff.mp h
    rw [List.append_nil]
    induction count with
    | zero => exact h
    | succ count ih =>
      rw [List.replicate_succ']
      exact writes_concat_iff.mpr ⟨0, 0, ih, ⟨hradix, .inl rfl⟩, by omega⟩
  | append_singleton s c ih =>
    obtain ⟨m, d, hm, hd, rfl⟩ := writes_concat_iff.mp h
    rw [← List.append_assoc]
    exact writes_concat_iff.mpr ⟨m, d, ih hm, hd, rfl⟩

/-- A text in which any letters of another text have become capitals. -/
def Capitalized (s t : List Char) : Prop := List.Forall₂ (fun c d => d = c ∨ d = c.toUpper) s t

/-- A letter is a digit of the same value in either case. -/
lemma IsDigit.toUpper (hradix : radix ≤ 16) (h : IsDigit radix c d) :
    IsDigit radix c.toUpper d := by
  have hlower : ∀ d < 16, lowerDigits[d]?.map Char.toUpper = upperDigits[d]? := by decide
  have hupper : ∀ d < 16, upperDigits[d]?.map Char.toUpper = upperDigits[d]? := by decide
  obtain ⟨hd, hc⟩ := h
  refine ⟨hd, .inr ?_⟩
  rcases hc with hc | hc
  · rw [← hlower d (by omega), hc, Option.map_some]
  · rw [← hupper d (by omega), hc, Option.map_some]

/-- Letters of the other case make no other number. -/
lemma Writes.capitalized (hradix : radix ≤ 16) (h : Writes radix s n) (hst : Capitalized s t) :
    Writes radix t n := by
  obtain ⟨digits, hdigits, hn⟩ := h
  refine ⟨digits, ?_, hn⟩
  have hreverse := List.rel_reverse hst
  generalize s.reverse = s' at hdigits hreverse
  generalize t.reverse = t' at hreverse ⊢
  clear hn
  induction hreverse generalizing digits with
  | nil => exact hdigits
  | cons hcd _ ih =>
    cases hdigits with
    | cons hc hdigits =>
      refine .cons ?_ (ih _ hdigits)
      rcases hcd with rfl | rfl
      · exact hc
      · exact hc.toUpper hradix

/-- A digit is neither white space nor an underscore. -/
lemma IsDigit.solid (h : IsDigit radix c d) : c ≠ '_' ∧ isBlank c = false := by
  have hsolid : (lowerDigits ++ upperDigits).all
      (fun c => decide (c ≠ '_' ∧ isBlank c = false)) = true := by decide
  have hc : c ∈ lowerDigits ++ upperDigits :=
    List.mem_append.mpr (h.2.imp List.mem_of_getElem? List.mem_of_getElem?)
  exact of_decide_eq_true (List.all_eq_true.mp hsolid c hc)

/-- A numeral has neither white space nor underscores in it. -/
lemma Unsigned.solid (h : Unsigned radix s n) (hc : c ∈ s) : c ≠ '_' ∧ isBlank c = false := by
  cases h with
  | bare _ h =>
    obtain ⟨d, hd⟩ := h.exists_isDigit hc
    exact hd.solid
  | plus _ h =>
    rcases List.mem_cons.mp hc with rfl | hc
    · decide
    · obtain ⟨d, hd⟩ := h.exists_isDigit hc
      exact hd.solid

/-! ### Ways to spell a text -/

/-- A text with so many more zeros in front of its digits, behind the mark of hexadecimal ones. -/
def moreZeros (count : Nat) : List Char → List Char
  | '0' :: 'x' :: digits => '0' :: 'x' :: (List.replicate count '0' ++ digits)
  | '0' :: 'X' :: digits => '0' :: 'X' :: (List.replicate count '0' ++ digits)
  | digits               => List.replicate count '0' ++ digits

lemma moreZeros_zero (s : List Char) : moreZeros 0 s = s := by
  unfold moreZeros
  split <;> rfl

/-- A decimal numeral has no mark in front of its digits. -/
lemma Writes.moreZeros_eq (h : Writes 10 s n) (count : Nat) :
    moreZeros count s = List.replicate count '0' ++ s := by
  unfold moreZeros
  split
  · obtain ⟨d, hd⟩ := h.exists_isDigit (c := 'x') (by simp)
    exact absurd hd (not_isDigit_of_mark (by decide) (.inl rfl))
  · obtain ⟨d, hd⟩ := h.exists_isDigit (c := 'X') (by simp)
    exact absurd hd (not_isDigit_of_mark (by decide) (.inr rfl))
  · rfl

/-- A text with underscores put in. -/
inductive Underscored : List Char → List Char → Prop where
  | nil : Underscored [] []
  | keep (c : Char) {s t : List Char} (h : Underscored s t) : Underscored (c :: s) (c :: t)
  | underscore {s t : List Char} (h : Underscored s t) : Underscored s ('_' :: t)

/-- A text with white space around it. -/
def Surrounded (s t : List Char) : Prop :=
  ∃ front back, t = front ++ s ++ back ∧ (∀ c ∈ front, isBlank c = true) ∧
    ∀ c ∈ back, isBlank c = true

lemma Underscored.refl (s : List Char) : Underscored s s := by
  induction s with
  | nil => exact .nil
  | cons c s ih => exact .keep c ih

lemma Surrounded.refl (s : List Char) : Surrounded s s := ⟨[], [], by simp, by simp, by simp⟩

/-- Underscores that were put into a text without any are taken out again. -/
lemma Underscored.filter_eq (h : Underscored s t) (hs : '_' ∉ s) : t.filter (· != '_') = s := by
  induction h with
  | nil => rfl
  | keep c _ ih =>
    rw [List.mem_cons, not_or] at hs
    rw [List.filter_cons_of_pos (by simpa using Ne.symm hs.1), ih hs.2]
  | underscore _ ih => rw [List.filter_cons_of_neg (by simp), ih hs]

lemma Underscored.mem_or_eq (h : Underscored s t) (hc : c ∈ t) : c ∈ s ∨ c = '_' := by
  induction h with
  | nil => exact .inl hc
  | keep b _ ih =>
    rcases List.mem_cons.mp hc with rfl | hc
    · exact .inl List.mem_cons_self
    · exact (ih hc).imp_left (List.mem_cons_of_mem b)
  | underscore _ ih =>
    rcases List.mem_cons.mp hc with rfl | hc
    · exact .inr rfl
    · exact ih hc

lemma dropWhile_isBlank_append (ht : ∀ c ∈ t, isBlank c = true) (hs : ∀ c ∈ s, isBlank c = false) :
    (t ++ s).dropWhile isBlank = s := by
  rw [List.dropWhile_append_of_pos ht]
  cases s with
  | nil => rfl
  | cons c s => rw [List.dropWhile_cons_of_neg (by simp [hs c])]

/-- White space around a text that has none is taken off again. -/
lemma Surrounded.trim_eq (h : Surrounded s t) (hs : ∀ c ∈ s, isBlank c = false) : trim t = s := by
  obtain ⟨front, back, rfl, hfront, hback⟩ := h
  unfold trim
  cases s with
  | nil =>
    have hblank : ∀ c ∈ front ++ back, isBlank c = true := by
      intro c hc
      exact (List.mem_append.mp hc).elim (hfront c) (hback c)
    rw [List.append_nil, List.dropWhile_eq_nil_iff.mpr hblank]
    rfl
  | cons c s =>
    have hback' : ∀ b ∈ back.reverse, isBlank b = true :=
      fun b hb => hback b (List.mem_reverse.mp hb)
    have hs' : ∀ b ∈ (c :: s).reverse, isBlank b = false :=
      fun b hb => hs b (List.mem_reverse.mp hb)
    have hc : ¬ isBlank c = true := by simp [hs c]
    rw [List.append_assoc, List.dropWhile_append_of_pos hfront, List.cons_append,
      List.dropWhile_cons_of_neg hc, ← List.cons_append, List.reverse_append,
      dropWhile_isBlank_append hback' hs', List.reverse_reverse]

end ClockStretch.Text
