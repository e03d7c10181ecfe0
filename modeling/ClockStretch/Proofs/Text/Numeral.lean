import ClockStretch.Proofs.Text.Positional

/-!
# Numerals with a sign

A numeral is a sign, which may be missing, and digits, of which there is one at least. The readers
accept just the numerals of numbers in their range and give these numbers; every other text they
refuse because it is empty, because it is a lone sign, or for the first fault of what stands behind
the sign.
-/

namespace ClockStretch.Text

variable {radix bound : Nat} {c : Char} {n : Nat} {s : List Char} {e : NumeralError}

/-! ### Digits behind a sign -/

lemma not_firstFault_nil : ¬ FirstFault radix bound [] e := by
  rintro (⟨hi, -⟩ | ⟨hi, -⟩) <;> exact absurd hi (Nat.not_lt_zero _)

lemma readNatural_eq_ok_iff (hradix : radix ≤ 16) (hbound : 0 < bound) :
    readNatural radix bound s = .ok n ↔ s ≠ [] ∧ n < bound ∧ Writes radix s n := by
  cases s with
  | nil => simp [readNatural]
  | cons c s =>
    rw [readNatural, readDigits_eq_ok_iff hradix hbound]
    · simp
    · simp

lemma readNatural_eq_error_iff (hradix : radix ≤ 16) (hbound : 0 < bound) :
    readNatural radix bound s = .error e ↔
      s = [] ∧ e = .invalidDigit ∨ FirstFault radix bound s e := by
  cases s with
  | nil => simp [readNatural, not_firstFault_nil, eq_comm]
  | cons c s =>
    rw [readNatural, readDigits_eq_error_iff hradix hbound]
    · simp
    · simp

/-- Digits do not start with a sign. -/
lemma Writes.head_ne_sign (hradix : radix ≤ 16) (h : Writes radix (c :: s) n) :
    c ≠ '+' ∧ c ≠ '-' := by
  obtain ⟨d, hd⟩ := h.exists_isDigit List.mem_cons_self
  exact ⟨fun h => not_isDigit_of_sign hradix (.inl h) hd,
    fun h => not_isDigit_of_sign hradix (.inr h) hd⟩

/-! ### Numerals without a minus -/

/-- A numeral of a radix: an optional `+`, and digits. -/
inductive Unsigned (radix : Nat) : List Char → Nat → Prop where
  | bare {digits : List Char} {n : Nat} (hne : digits ≠ []) (h : Writes radix digits n) :
      Unsigned radix digits n
  | plus {digits : List Char} {n : Nat} (hne : digits ≠ []) (h : Writes radix digits n) :
      Unsigned radix ('+' :: digits) n

/-- Why a text is no numeral of a number below a bound. -/
inductive UnsignedFault (radix bound : Nat) : List Char → NumeralError → Prop where
  | empty : UnsignedFault radix bound [] .empty
  | loneSign : UnsignedFault radix bound ['+'] .invalidDigit
  | bare {s : List Char} {e : NumeralError} (hs : s.head? ≠ some '+')
      (h : FirstFault radix bound s e) : UnsignedFault radix bound s e
  | plus {s : List Char} {e : NumeralError} (h : FirstFault radix bound s e) :
      UnsignedFault radix bound ('+' :: s) e

lemma readUnsigned_of_head_ne (hne : s ≠ []) (hs : s.head? ≠ some '+') :
    readUnsigned radix bound s = readNatural radix bound s := by
  unfold readUnsigned
  split
  · exact absurd rfl hne
  · exact absurd rfl hs
  · rfl

/-- The numerals of numbers below the bound are read. -/
theorem readUnsigned_eq_ok_iff (hradix : radix ≤ 16) (hbound : 0 < bound) :
    readUnsigned radix bound s = .ok n ↔ n < bound ∧ Unsigned radix s n := by
  constructor
  · intro h
    by_cases hnil : s = []
    · subst hnil
      cases h
    by_cases hplus : s.head? = some '+'
    · obtain ⟨s, rfl⟩ := List.head?_eq_some_iff.mp hplus
      obtain ⟨hne, hn, hs⟩ := (readNatural_eq_ok_iff hradix hbound).mp h
      exact ⟨hn, .plus hne hs⟩
    · rw [readUnsigned_of_head_ne hnil hplus] at h
      obtain ⟨hne, hn, hs⟩ := (readNatural_eq_ok_iff hradix hbound).mp h
      exact ⟨hn, .bare hne hs⟩
  · rintro ⟨hn, h⟩
    cases h with
    | bare hne hs =>
      have hplus : s.head? ≠ some '+' := by
        intro hplus
        obtain ⟨t, rfl⟩ := List.head?_eq_some_iff.mp hplus
        exact (hs.head_ne_sign hradix).1 rfl
      rw [readUnsigned_of_head_ne hne hplus]
      exact (readNatural_eq_ok_iff hradix hbound).mpr ⟨hne, hn, hs⟩
    | plus hne hs => exact (readNatural_eq_ok_iff hradix hbound).mpr ⟨hne, hn, hs⟩

/-- Every other text is refused for what is wrong with it. -/
theorem readUnsigned_eq_error_iff (hradix : radix ≤ 16) (hbound : 0 < bound) :
    readUnsigned radix bound s = .error e ↔ UnsignedFault radix bound s e := by
  constructor
  · intro h
    by_cases hnil : s = []
    · subst hnil
      cases h
      exact .empty
    by_cases hplus : s.head? = some '+'
    · obtain ⟨s, rfl⟩ := List.head?_eq_some_iff.mp hplus
      rcases (readNatural_eq_error_iff hradix hbound).mp h with ⟨rfl, rfl⟩ | hs
      · exact .loneSign
      · exact .plus hs
    · rw [readUnsigned_of_head_ne hnil hplus] at h
      rcases (readNatural_eq_error_iff hradix hbound).mp h with ⟨hs, -⟩ | hs
      · exact absurd hs hnil
      · exact .bare hplus hs
  · intro h
    cases h with
    | empty => rfl
    | loneSign => rfl
    | bare hplus hs =>
      have hnil : s ≠ [] := by
        rintro rfl
        exact not_firstFault_nil hs
      rw [readUnsigned_of_head_ne hnil hplus]
      exact (readNatural_eq_error_iff hradix hbound).mpr (.inr hs)
    | plus hs => exact (readNatural_eq_error_iff hradix hbound).mpr (.inr hs)

/-! ### Decimal numerals with any sign -/

/-- A decimal numeral of an integer: an optional sign, and digits. -/
inductive Signed : List Char → Int → Prop where
  | unsigned {s : List Char} {n : Nat} (h : Unsigned 10 s n) : Signed s n
  | minus {digits : List Char} {n : Nat} (hne : digits ≠ []) (h : Writes 10 digits n) :
      Signed ('-' :: digits) (-n)

/-- Why a text is no decimal numeral of an integer of a range: behind a minus digits that reach the
end of the range make a number that is too small. -/
inductive SignedFault (bound : Nat) : List Char → NumeralError → Prop where
  | unsigned {s : List Char} {e : NumeralError} (hs : s.head? ≠ some '-')
      (h : UnsignedFault 10 bound s e) : SignedFault bound s e
  | loneMinus : SignedFault bound ['-'] .invalidDigit
  | minusDigit {s : List Char} (h : FirstFault 10 (bound + 1) s .invalidDigit) :
      SignedFault bound ('-' :: s) .invalidDigit
  | tooSmall {s : List Char} (h : FirstFault 10 (bound + 1) s .tooLarge) :
      SignedFault bound ('-' :: s) .tooSmall

/-- Behind a minus digits are read up to the number at the low end of the range. -/
lemma readSigned_minus :
    readSigned bound ('-' :: s) =
      match readNatural 10 (bound + 1) s with
      | .ok n            => .ok (-n)
      | .error .tooLarge => .error .tooSmall
      | .error e         => .error e := rfl

/-- Without a minus, a numeral is read as one that has no sign or a `+`. -/
lemma readSigned_of_head_ne (hs : s.head? ≠ some '-') :
    readSigned bound s = (readUnsigned 10 bound s).map Int.ofNat := by
  unfold readSigned
  split
  · rfl
  · exact absurd rfl hs
  · rfl
  · rename_i hnil _ hplus
    rw [readUnsigned_of_head_ne hnil]
    intro h
    obtain ⟨t, rfl⟩ := List.head?_eq_some_iff.mp h
    exact hplus t rfl

lemma not_unsigned_minus : ¬ Unsigned 10 ('-' :: s) n
  | .bare _ h => (h.head_ne_sign (by decide)).2 rfl

/-- The numerals of integers in the range are read. -/
theorem readSigned_eq_ok_iff (hbound : 0 < bound) {v : Int} :
    readSigned bound s = .ok v ↔ (-bound ≤ v ∧ v < bound) ∧ Signed s v := by
  by_cases hs : s.head? = some '-'
  · obtain ⟨s, rfl⟩ := List.head?_eq_some_iff.mp hs
    have hread (n : Nat) := @readNatural_eq_ok_iff 10 (bound + 1) n s (by decide) (Nat.succ_pos _)
    rw [readSigned_minus]
    constructor
    · intro h
      cases hn : readNatural 10 (bound + 1) s with
      | ok n =>
        rw [hn] at h
        cases h
        obtain ⟨hne, hlt, h⟩ := (hread n).mp hn
        exact ⟨by omega, .minus hne h⟩
      | error e =>
        rw [hn] at h
        cases e <;> cases h
    · rintro ⟨hrange, h⟩
      cases h with
      | unsigned h => exact absurd h not_unsigned_minus
      | minus hne h => rw [(hread _).mpr ⟨hne, by omega, h⟩]
  · rw [readSigned_of_head_ne hs]
    have hread (n : Nat) := @readUnsigned_eq_ok_iff 10 bound n s (by decide) hbound
    constructor
    · intro h
      cases hn : readUnsigned 10 bound s with
      | ok n =>
        rw [hn] at h
        cases h
        obtain ⟨hlt, h⟩ := (hread n).mp hn
        exact ⟨by rw [Int.ofNat_eq_natCast]; omega, .unsigned h⟩
      | error e =>
        rw [hn] at h
        cases h
    · rintro ⟨hrange, h⟩
      cases h with
      | unsigned h =>
        rw [(hread _).mpr ⟨by omega, h⟩]
        rfl
      | minus => exact absurd rfl hs

/-- Every other text is refused for what is wrong with it. -/
theorem readSigned_eq_error_iff (hbound : 0 < bound) :
    readSigned bound s = .error e ↔ SignedFault bound s e := by
  by_cases hs : s.head? = some '-'
  · obtain ⟨s, rfl⟩ := List.head?_eq_some_iff.mp hs
    have hread (e : NumeralError) :=
      @readNatural_eq_error_iff 10 (bound + 1) s e (by decide) (Nat.succ_pos _)
    rw [readSigned_minus]
    constructor
    · intro h
      cases hn : readNatural 10 (bound + 1) s with
      | ok n =>
        rw [hn] at h
        cases h
      | error e' =>
        rw [hn] at h
        rcases (hread e').mp hn with ⟨rfl, rfl⟩ | hfault
        · cases h
          exact .loneMinus
        · cases hfault with
          | invalidDigit hi hbefore hdigit =>
            cases h
            exact .minusDigit (.invalidDigit hi hbefore hdigit)
          | tooLarge hi hbefore hwrites hlarge =>
            cases h
            exact .tooSmall (.tooLarge hi hbefore hwrites hlarge)
    · intro h
      cases h with
      | unsigned hhead => exact absurd rfl hhead
      | loneMinus => rfl
      | minusDigit h => rw [(hread _).mpr (.inr h)]
      | tooSmall h => rw [(hread _).mpr (.inr h)]
  · rw [readSigned_of_head_ne hs]
    have hread (e : NumeralError) := @readUnsigned_eq_error_iff 10 bound s e (by decide) hbound
    constructor
    · intro h
      cases hn : readUnsigned 10 bound s with
      | ok n =>
        rw [hn] at h
        cases h
      | error e' =>
        rw [hn] at h
        cases h
        exact .unsigned hs ((hread _).mp hn)
    · intro h
      cases h with
      | unsigned _ h =>
        rw [(hread _).mpr h]
        rfl
      | loneMinus | minusDigit | tooSmall => exact absurd rfl hs

end ClockStretch.Text
