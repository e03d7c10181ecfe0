import ClockStretch.Text.Numeral
import Mathlib.Data.List.Forall2
import Mathlib.Data.List.Induction
import Mathlib.Data.Nat.Digits.Defs
import Mathlib.Tactic.IntervalCases
import Mathlib.Tactic.Lemma
import Mathlib.Tactic.SplitIfs

/-!
# Positional numerals

The number that a text of digits makes by their places, of any length and with leading zeros. The
reader of digits, which keeps each value on the way below a bound, gives just this number. It
refuses a text for its first position that is at fault: there either is no digit, or the digits up
to it reach the bound.
-/

namespace ClockStretch.Text

variable {radix bound : Nat} {c : Char} {d n m : Nat} {s p : List Char} {e : NumeralError}

/-! ### Digits -/

/-- The characters of the digits, each in the place of its value. -/
def lowerDigits : List Char :=
  ['0', '1', '2', '3', '4', '5', '6', '7', '8', '9', 'a', 'b', 'c', 'd', 'e', 'f']

/-- The same characters with capital letters. -/
def upperDigits : List Char :=
  ['0', '1', '2', '3', '4', '5', '6', '7', '8', '9', 'A', 'B', 'C', 'D', 'E', 'F']

/-- A character is the digit of a value in a radix of at most sixteen. -/
def IsDigit (radix : Nat) (c : Char) (d : Nat) : Prop :=
  d < radix ∧ (lowerDigits[d]? = some c ∨ upperDigits[d]? = some c)

/-- A character of a range is the one so many places behind the first of the range. -/
lemma eq_ofNat_of_mem_range {first last : Char} (h : first ≤ c ∧ c ≤ last) :
    c = Char.ofNat (first.toNat + (c.toNat - first.toNat)) ∧
      c.toNat - first.toNat ≤ last.toNat - first.toNat := by
  simp only [Char.le_def, UInt32.le_iff_toNat_le] at h
  have hfirst : first.toNat ≤ c.toNat := h.1
  have hlast : c.toNat ≤ last.toNat := h.2
  refine ⟨?_, by omega⟩
  rw [Nat.add_sub_cancel' hfirst, Char.ofNat_toNat]

/-- What is read as a digit is just the digit with its value. -/
lemma digitValue?_eq_some_iff (hradix : radix ≤ 16) :
    digitValue? radix c = some d ↔ IsDigit radix c d := by
  have hdecimals : ∀ k ≤ 9, lowerDigits[k]? = some (Char.ofNat ('0'.toNat + k)) := by decide
  have hlowers : ∀ k < 6, lowerDigits[k + 10]? = some (Char.ofNat ('a'.toNat + k)) := by decide
  have huppers : ∀ k < 6, upperDigits[k + 10]? = some (Char.ofNat ('A'.toNat + k)) := by decide
  constructor
  · intro h
    simp only [digitValue?, Option.filter_eq_some_iff, decide_eq_true_eq] at h
    obtain ⟨hvalue, hd⟩ := h
    refine ⟨hd, ?_⟩
    split_ifs at hvalue with hdecimal hlower hupper <;> obtain rfl := Option.some.inj hvalue
    · obtain ⟨hc, hle⟩ := eq_ofNat_of_mem_range hdecimal
      exact .inl ((hdecimals _ hle).trans (congrArg some hc.symm))
    · obtain ⟨hc, -⟩ := eq_ofNat_of_mem_range hlower
      exact .inl ((hlowers _ (by omega)).trans (congrArg some hc.symm))
    · obtain ⟨hc, -⟩ := eq_ofNat_of_mem_range hupper
      exact .inr ((huppers _ (by omega)).trans (congrArg some hc.symm))
  · rintro ⟨hd, h⟩
    have hd' : d < 16 := by omega
    interval_cases d <;>
      simp only [lowerDigits, upperDigits, List.getElem?_cons_zero, List.getElem?_cons_succ,
        Option.some.injEq] at h <;>
      rcases h with rfl | rfl <;>
      simp [digitValue?, Option.filter, hd]

lemma IsDigit.unique (hradix : radix ≤ 16) (hd : IsDigit radix c d) (hm : IsDigit radix c m) :
    d = m := by
  rw [← digitValue?_eq_some_iff hradix] at hd hm
  exact Option.some.inj (hd.symm.trans hm)

/-- No sign is a digit. -/
lemma not_isDigit_of_sign (hradix : radix ≤ 16) (hc : c = '+' ∨ c = '-') : ¬ IsDigit radix c d := by
  rw [← digitValue?_eq_some_iff hradix]
  rcases hc with rfl | rfl <;> simp [digitValue?]

/-- The mark of hexadecimal digits is no digit. -/
lemma not_isDigit_of_mark (hradix : radix ≤ 16) (hc : c = 'x' ∨ c = 'X') : ¬ IsDigit radix c d := by
  rw [← digitValue?_eq_some_iff hradix]
  rcases hc with rfl | rfl <;> simp [digitValue?] <;> omega

/-! ### Texts of digits -/

/-- A text of digits, none of them or any number, and the number that they make by their places. -/
def Writes (radix : Nat) (s : List Char) (n : Nat) : Prop :=
  ∃ digits, List.Forall₂ (IsDigit radix) s.reverse digits ∧ Nat.ofDigits radix digits = n

/-- A text of digits of a number below a bound. -/
def WritesBelow (radix bound : Nat) (s : List Char) : Prop := ∃ n < bound, Writes radix s n

@[simp] lemma writes_nil_iff : Writes radix [] n ↔ n = 0 := by
  simp [Writes, eq_comm]

/-- One more digit at the end makes the number that is told by the digits before and by it. -/
lemma writes_concat_iff :
    Writes radix (s ++ [c]) n ↔
      ∃ m d, Writes radix s m ∧ IsDigit radix c d ∧ m * radix + d = n := by
  constructor
  · rintro ⟨digits, hdigits, rfl⟩
    rw [List.reverse_append, List.reverse_singleton, List.singleton_append,
      List.forall₂_cons_left_iff] at hdigits
    obtain ⟨d, digits, hd, hdigits, rfl⟩ := hdigits
    refine ⟨_, d, ⟨digits, hdigits, rfl⟩, hd, ?_⟩
    rw [Nat.ofDigits_cons, Nat.mul_comm, Nat.add_comm]
  · rintro ⟨m, d, ⟨digits, hdigits, rfl⟩, hd, rfl⟩
    refine ⟨d :: digits, ?_, ?_⟩
    · rw [List.reverse_append, List.reverse_singleton, List.singleton_append]
      exact hdigits.cons hd
    · rw [Nat.ofDigits_cons, Nat.mul_comm, Nat.add_comm]

lemma Writes.unique (hradix : radix ≤ 16) (hn : Writes radix s n) (hm : Writes radix s m) :
    n = m := by
  induction s using List.reverseRecOn generalizing n m with
  | nil => rw [writes_nil_iff.mp hn, writes_nil_iff.mp hm]
  | append_singleton s c ih =>
    obtain ⟨n', d, hn', hd, rfl⟩ := writes_concat_iff.mp hn
    obtain ⟨m', d', hm', hd', rfl⟩ := writes_concat_iff.mp hm
    rw [ih hn' hm', hd.unique hradix hd']

/-- All characters of a text of digits are digits. -/
lemma Writes.exists_isDigit (h : Writes radix s n) (hc : c ∈ s) : ∃ d, IsDigit radix c d := by
  induction s using List.reverseRecOn generalizing n with
  | nil => cases hc
  | append_singleton s b ih =>
    obtain ⟨m, d, hm, hd, -⟩ := writes_concat_iff.mp h
    rcases List.mem_append.mp hc with hc | hc
    · exact ih hm hc
    · rw [List.mem_singleton.mp hc]
      exact ⟨d, hd⟩

/-- The digits at the front of a text make no greater number than all of them. -/
lemma Writes.exists_le_of_append {t : List Char} (h : Writes radix (s ++ t) n) :
    ∃ m ≤ n, Writes radix s m := by
  induction t using List.reverseRecOn generalizing n with
  | nil => exact ⟨n, le_rfl, by simpa using h⟩
  | append_singleton t c ih =>
    rw [← List.append_assoc] at h
    obtain ⟨n', d, hn', hd, rfl⟩ := writes_concat_iff.mp h
    obtain ⟨m, hm, hs⟩ := ih hn'
    have hradix : 0 < radix := Nat.zero_lt_of_lt hd.1
    refine ⟨m, ?_, hs⟩
    calc m ≤ n' := hm
      _ ≤ n' * radix := Nat.le_mul_of_pos_right n' hradix
      _ ≤ n' * radix + d := Nat.le_add_right _ _

lemma WritesBelow.take (h : WritesBelow radix bound s) (j : Nat) :
    WritesBelow radix bound (s.take j) := by
  obtain ⟨n, hn, hs⟩ := h
  rw [← List.take_append_drop j s] at hs
  obtain ⟨m, hm, hs⟩ := hs.exists_le_of_append
  exact ⟨m, by omega, hs⟩

/-! ### The first fault of a text -/

/-- What is wrong at the first position at which a text is at fault: at all positions before it are
digits, whose number stays below a bound. There either is no digit, or the digits up to it make a
number that reaches the bound. -/
inductive FirstFault (radix bound : Nat) (s : List Char) : NumeralError → Prop where
  | invalidDigit {i : Nat} (hi : i < s.length)
      (hbefore : ∀ j ≤ i, WritesBelow radix bound (s.take j))
      (hdigit : ∀ d, ¬ IsDigit radix s[i] d) : FirstFault radix bound s .invalidDigit
  | tooLarge {i : Nat} (hi : i < s.length)
      (hbefore : ∀ j ≤ i, WritesBelow radix bound (s.take j))
      {n : Nat} (hn : Writes radix (s.take (i + 1)) n) (hlarge : bound ≤ n) :
      FirstFault radix bound s .tooLarge

/-- What is at fault at a position. -/
lemma FirstFault.exists_position (hradix : radix ≤ 16) (h : FirstFault radix bound s e) :
    ∃ i, ∃ hi : i < s.length, (∀ j ≤ i, WritesBelow radix bound (s.take j)) ∧
      ¬ WritesBelow radix bound (s.take (i + 1)) ∧
      (e = .invalidDigit ∧ (∀ d, ¬ IsDigit radix s[i] d) ∨
        e = .tooLarge ∧ ∃ d, IsDigit radix s[i] d) := by
  have hdigit {i n : Nat} (hi : i < s.length) (hn : Writes radix (s.take (i + 1)) n) :
      ∃ d, IsDigit radix s[i] d := by
    rw [List.take_add_one, List.getElem?_eq_getElem hi, Option.toList_some] at hn
    obtain ⟨-, d, -, hd, -⟩ := writes_concat_iff.mp hn
    exact ⟨d, hd⟩
  cases h with
  | invalidDigit hi hbefore hnone =>
    refine ⟨_, hi, hbefore, fun ⟨n, _, hn⟩ => ?_, .inl ⟨rfl, hnone⟩⟩
    obtain ⟨d, hd⟩ := hdigit hi hn
    exact hnone d hd
  | tooLarge hi hbefore hn hlarge =>
    refine ⟨_, hi, hbefore, fun ⟨m, hm, hm'⟩ => ?_, .inr ⟨rfl, hdigit hi hn⟩⟩
    rw [hm'.unique hradix hn] at hm
    omega

/-- A text that writes a number below the bound is not at fault. -/
lemma FirstFault.not_writesBelow (hradix : radix ≤ 16) (h : FirstFault radix bound s e) :
    ¬ WritesBelow radix bound s := by
  obtain ⟨i, -, -, hfault, -⟩ := h.exists_position hradix
  exact fun hs => hfault (hs.take (i + 1))

/-- A text has one first fault at most. -/
lemma FirstFault.unique (hradix : radix ≤ 16) {e' : NumeralError}
    (h : FirstFault radix bound s e) (h' : FirstFault radix bound s e') : e = e' := by
  obtain ⟨i, hi, hbefore, hfault, hkind⟩ := h.exists_position hradix
  obtain ⟨j, hj, hbefore', hfault', hkind'⟩ := h'.exists_position hradix
  have hij : i = j := by
    rcases Nat.lt_trichotomy i j with hlt | heq | hlt
    · exact absurd (hbefore' (i + 1) hlt) hfault
    · exact heq
    · exact absurd (hbefore (j + 1) hlt) hfault'
  subst hij
  rcases hkind with ⟨rfl, hnone⟩ | ⟨rfl, d, hd⟩ <;>
    rcases hkind' with ⟨rfl, hnone'⟩ | ⟨rfl, d', hd'⟩
  · rfl
  · exact absurd hd' (hnone d')
  · exact absurd hd (hnone' d)
  · rfl

/-! ### The reader of digits -/

/-- Behind digits that have been read, the rest of a text is read to the number of all digits, or up
to the first fault of the text. -/
lemma readDigits_append (hradix : radix ≤ 16) (hp : Writes radix p m) (hm : m < bound) :
    (∀ n, readDigits radix bound m s = .ok n → n < bound ∧ Writes radix (p ++ s) n) ∧
      ∀ e, readDigits radix bound m s = .error e → FirstFault radix bound (p ++ s) e := by
  induction s generalizing p m with
  | nil =>
    refine ⟨fun n h => ?_, fun e h => by cases h⟩
    cases h
    exact ⟨hm, by simpa using hp⟩
  | cons c s ih =>
    have hlength : p.length < (p ++ c :: s).length := by simp
    have hbefore : ∀ j ≤ p.length, WritesBelow radix bound ((p ++ c :: s).take j) := by
      intro j hj
      rw [List.take_append_of_le_length hj]
      exact WritesBelow.take ⟨m, hm, hp⟩ j
    unfold readDigits
    cases hdigit : digitValue? radix c with
    | none =>
      refine ⟨fun n h => (by cases h), fun e h => ?_⟩
      cases h
      refine .invalidDigit hlength hbefore fun d hd => ?_
      rw [List.getElem_append_right le_rfl] at hd
      simp only [Nat.sub_self, List.getElem_cons_zero] at hd
      rw [← digitValue?_eq_some_iff hradix, hdigit] at hd
      cases hd
    | some d =>
      have hd : IsDigit radix c d := (digitValue?_eq_some_iff hradix).mp hdigit
      have hpc : Writes radix (p ++ [c]) (m * radix + d) :=
        writes_concat_iff.mpr ⟨m, d, hp, hd, rfl⟩
      simp only
      split_ifs with hlt
      · rw [← List.singleton_append, ← List.append_assoc]
        exact ih hpc hlt
      · refine ⟨fun n h => (by cases h), fun e h => ?_⟩
        cases h
        refine .tooLarge hlength hbefore (n := m * radix + d) ?_ (by omega)
        rwa [List.take_length_add_append, List.take_one, List.head?_cons, Option.toList_some]

/-- The digits of a text are read to the number that they make, if it is below the bound. -/
theorem readDigits_eq_ok_iff (hradix : radix ≤ 16) (hbound : 0 < bound) :
    readDigits radix bound 0 s = .ok n ↔ n < bound ∧ Writes radix s n := by
  have hread := readDigits_append (s := s) hradix (writes_nil_iff.mpr rfl) hbound
  refine ⟨hread.1 n, fun ⟨hn, hs⟩ => ?_⟩
  cases h : readDigits radix bound 0 s with
  | ok m => rw [(hread.1 m h).2.unique hradix hs]
  | error e => exact absurd ⟨n, hn, hs⟩ ((hread.2 e h).not_writesBelow hradix)

/-- A text of digits is refused for its first fault. -/
theorem readDigits_eq_error_iff (hradix : radix ≤ 16) (hbound : 0 < bound) :
    readDigits radix bound 0 s = .error e ↔ FirstFault radix bound s e := by
  have hread := readDigits_append (s := s) hradix (writes_nil_iff.mpr rfl) hbound
  refine ⟨hread.2 e, fun hs => ?_⟩
  cases h : readDigits radix bound 0 s with
  | ok n => exact absurd ⟨n, hread.1 n h⟩ (hs.not_writesBelow hradix)
  | error e' => rw [(hread.2 e' h).unique hradix hs]

end ClockStretch.Text
