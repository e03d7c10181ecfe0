import ClockStretch.BaseAddress
import ClockStretch.Proofs.Text.Numeral

/-!
# Texts of base addresses

Which texts give a base address, and which one. Apart from white space around it and underscores
anywhere, such a text is a numeral, hexadecimal behind `0x` or `0X` and decimal otherwise, of a
number that has 64 bits and is divisible by four. Every other text is refused, as it was given, for
the first thing that is wrong with it.
-/

namespace ClockStretch.BaseAddress

open Text

variable {s : List Char} {n : Nat} {x : Char}

/-! ### Numbers of addresses -/

/-- A text without white space and underscores, and the number that it writes. -/
inductive Denotes : List Char → Nat → Prop where
  | decimal {s : List Char} {n : Nat} (h : Unsigned 10 s n) : Denotes s n
  | hexadecimal {x : Char} {s : List Char} {n : Nat} (hx : x = 'x' ∨ x = 'X')
      (h : Unsigned 16 s n) : Denotes ('0' :: x :: s) n

/-- Why a text without white space and underscores gives no address. -/
inductive Fault : List Char → Reason → Prop where
  | decimal {s : List Char} {e : NumeralError} (hs : ∀ x t, x = 'x' ∨ x = 'X' → s ≠ '0' :: x :: t)
      (h : UnsignedFault 10 (2 ^ 64) s e) : Fault s (.numeral e)
  | hexadecimal {x : Char} {s : List Char} {e : NumeralError} (hx : x = 'x' ∨ x = 'X')
      (h : UnsignedFault 16 (2 ^ 64) s e) : Fault ('0' :: x :: s) (.numeral e)
  | misaligned {s : List Char} {n : Nat} (h : Denotes s n) (hn : n < 2 ^ 64) (hmod : n % 4 ≠ 0) :
      Fault s .misaligned

lemma readNumber_hexadecimal (hx : x = 'x' ∨ x = 'X') :
    readNumber ('0' :: x :: s) = readUnsigned 16 (2 ^ 64) s := by
  rcases hx with rfl | rfl <;> rfl

lemma readNumber_decimal (hs : ∀ x t, x = 'x' ∨ x = 'X' → s ≠ '0' :: x :: t) :
    readNumber s = readUnsigned 10 (2 ^ 64) s := by
  unfold readNumber
  split
  · exact absurd rfl (hs _ _ (.inl rfl))
  · exact absurd rfl (hs _ _ (.inr rfl))
  · rfl

/-- A decimal numeral has no letter. -/
lemma not_unsigned_hexadecimal (hx : x = 'x' ∨ x = 'X') : ¬ Unsigned 10 ('0' :: x :: s) n
  | .bare _ h => by
    obtain ⟨d, hd⟩ := h.exists_isDigit (c := x) (by simp)
    exact not_isDigit_of_mark (by decide) hx hd

/-- A text is either marked as hexadecimal or not. -/
lemma hexadecimal_or_decimal (s : List Char) :
    (∃ x t, (x = 'x' ∨ x = 'X') ∧ s = '0' :: x :: t) ∨
      ∀ x t, x = 'x' ∨ x = 'X' → s ≠ '0' :: x :: t := by
  by_cases h : ∃ x t, (x = 'x' ∨ x = 'X') ∧ s = '0' :: x :: t
  · exact .inl h
  · exact .inr fun x t hx hs => h ⟨x, t, hx, hs⟩

/-- The numbers of 64 bits are read. -/
lemma readNumber_eq_ok_iff : readNumber s = .ok n ↔ n < 2 ^ 64 ∧ Denotes s n := by
  rcases hexadecimal_or_decimal s with ⟨x, t, hx, rfl⟩ | hs
  · rw [readNumber_hexadecimal hx, readUnsigned_eq_ok_iff (by decide) (by decide)]
    refine and_congr_right fun _ => ⟨.hexadecimal hx, fun h => ?_⟩
    cases h with
    | decimal h => exact absurd h (not_unsigned_hexadecimal hx)
    | hexadecimal _ h => exact h
  · rw [readNumber_decimal hs, readUnsigned_eq_ok_iff (by decide) (by decide)]
    refine and_congr_right fun _ => ⟨.decimal, fun h => ?_⟩
    cases h with
    | decimal h => exact h
    | hexadecimal hx _ => exact absurd rfl (hs _ _ hx)

/-- What is wrong with a text is found when its number is read, unless the number is no address. -/
lemma readNumber_eq_error_iff {e : NumeralError} :
    readNumber s = .error e ↔ Fault s (.numeral e) := by
  rcases hexadecimal_or_decimal s with ⟨x, t, hx, rfl⟩ | hs
  · rw [readNumber_hexadecimal hx, readUnsigned_eq_error_iff (by decide) (by decide)]
    refine ⟨.hexadecimal hx, fun h => ?_⟩
    cases h with
    | decimal hs _ => exact absurd rfl (hs _ _ hx)
    | hexadecimal _ h => exact h
  · rw [readNumber_decimal hs, readUnsigned_eq_error_iff (by decide) (by decide)]
    refine ⟨.decimal hs, fun h => ?_⟩
    cases h with
    | decimal _ h => exact h
    | hexadecimal hx _ => exact absurd rfl (hs _ _ hx)

/-! ### Addresses -/

/-- A text without the white space around it and without underscores. -/
def stripped (text : String) : List Char := (trim text.toList).filter (· != '_')

@[simp] lemma ofUInt64?_value (a : BaseAddress) : ofUInt64? a.value = some a := by
  simp [ofUInt64?, a.aligned]

/-- A number of 64 bits is an address if it is divisible by four. -/
lemma ofUInt64?_ofNat (hn : n < 2 ^ 64) :
    (∃ a : BaseAddress, a.value.toNat = n ∧ ofUInt64? (UInt64.ofNat n) = some a) ∨
      n % 4 ≠ 0 ∧ ofUInt64? (UInt64.ofNat n) = none := by
  have hvalue : (UInt64.ofNat n).toNat = n := UInt64.toNat_ofNat_of_lt' hn
  unfold ofUInt64?
  split_ifs with h
  · exact .inl ⟨_, hvalue, rfl⟩
  · exact .inr ⟨hvalue ▸ h, rfl⟩

/-- A text that denotes the number of an address gives this address. -/
lemma parse_of_denotes {text : String} {a : BaseAddress}
    (h : Denotes (stripped text) a.value.toNat) : parse text = .ok a := by
  have hread : readNumber (stripped text) = .ok a.value.toNat :=
    readNumber_eq_ok_iff.mpr ⟨a.value.toNat_lt, h⟩
  rw [stripped] at hread
  rw [parse, hread]
  simp

/-- A text with a fault is refused for it. -/
lemma parse_of_fault {text : String} {reason : Reason}
    (h : Fault (stripped text) reason) :
    parse text = .error (.invalidAddress text reason) := by
  rw [stripped] at h
  unfold parse
  generalize (trim text.toList).filter (· != '_') = s at h ⊢
  cases reason with
  | numeral e => rw [readNumber_eq_error_iff.mpr h]
  | misaligned =>
    cases h with
    | misaligned hdenotes hn hmod =>
      rcases ofUInt64?_ofNat hn with ⟨a, rfl, -⟩ | ⟨-, hnone⟩
      · exact absurd a.aligned hmod
      · simp only [readNumber_eq_ok_iff.mpr ⟨hn, hdenotes⟩, hnone]
  | other text => cases h

/-- A text denotes the number of an address, or it has a fault. -/
lemma denotes_or_fault (s : List Char) :
    (∃ a : BaseAddress, Denotes s a.value.toNat) ∨ ∃ reason, Fault s reason := by
  cases hread : readNumber s with
  | error e => exact .inr ⟨_, readNumber_eq_error_iff.mp hread⟩
  | ok n =>
    obtain ⟨hn, hdenotes⟩ := readNumber_eq_ok_iff.mp hread
    rcases ofUInt64?_ofNat hn with ⟨a, rfl, -⟩ | ⟨hmod, -⟩
    · exact .inl ⟨a, hdenotes⟩
    · exact .inr ⟨_, .misaligned hdenotes hn hmod⟩

/-- The texts that denote the number of an address give this address. -/
lemma parse_eq_ok_iff {text : String} {a : BaseAddress} :
    parse text = .ok a ↔ Denotes (stripped text) a.value.toNat := by
  refine ⟨fun h => ?_, parse_of_denotes⟩
  rcases denotes_or_fault (stripped text) with ⟨b, hb⟩ | ⟨reason, hfault⟩
  · obtain rfl : b = a := Except.ok.inj ((parse_of_denotes hb).symm.trans h)
    exact hb
  · rw [parse_of_fault hfault] at h
    cases h

/-- Texts are refused as they were given for their faults. -/
lemma parse_eq_error_iff {text : String} {e : Error} :
    parse text = .error e ↔
      ∃ reason, e = .invalidAddress text reason ∧ Fault (stripped text) reason := by
  constructor
  · intro h
    rcases denotes_or_fault (stripped text) with ⟨a, ha⟩ | ⟨reason, hfault⟩
    · rw [parse_of_denotes ha] at h
      cases h
    · exact ⟨reason, Except.error.inj (h.symm.trans (parse_of_fault hfault)), hfault⟩
  · rintro ⟨reason, rfl, hfault⟩
    exact parse_of_fault hfault

/-- The texts of base addresses are the numerals of numbers of 64 bits that are divisible by four;
every other text is refused, as it was given, for what is wrong with it. -/
theorem parse_accepts_aligned_numerals (text : String) :
    (∀ a, parse text = .ok a ↔ Denotes (stripped text) a.value.toNat) ∧
      ((∃ a, parse text = .ok a) ↔ ∃ n, Denotes (stripped text) n ∧ n < 2 ^ 64 ∧ n % 4 = 0) ∧
      ∀ e, parse text = .error e ↔
        ∃ reason, e = .invalidAddress text reason ∧ Fault (stripped text) reason := by
  refine ⟨fun a => parse_eq_ok_iff, ?accepted, fun e => parse_eq_error_iff⟩
  case accepted =>
    constructor
    · rintro ⟨a, h⟩
      exact ⟨_, parse_eq_ok_iff.mp h, a.value.toNat_lt, a.aligned⟩
    · rintro ⟨n, h, hn, hmod⟩
      rcases ofUInt64?_ofNat hn with ⟨a, rfl, -⟩ | ⟨hnot, -⟩
      · exact ⟨a, parse_eq_ok_iff.mpr h⟩
      · exact absurd hmod hnot

/-- Twenty digits reach the range before the letter behind them is looked at. -/
example : parse " 18446744073709551616z" =
    .error (.invalidAddress " 18446744073709551616z" (.numeral .tooLarge)) := by decide +kernel

end ClockStretch.BaseAddress
