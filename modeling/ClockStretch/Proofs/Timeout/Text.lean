import ClockStretch.Timeout
import ClockStretch.Proofs.Text.Numeral

/-!
# Texts of timeouts

Which numbers and which texts give a timeout, and which one. Apart from white space around it, the
text of a timeout is a decimal numeral of a number from 1 to 65535. A numeral of any other number of
64 bits is refused for this number, and every other text, as it was given, for the first thing that
is wrong with it.
-/

namespace ClockStretch.Timeout

open Text

variable {v : Int}

/-! ### Timeouts of numbers -/

/-- A number from 1 to 65535 is the number of cycles of a timeout. -/
lemma exists_cycles_eq_iff : (∃ t : Timeout, (t.cycles.toNat : Int) = v) ↔ 1 ≤ v ∧ v ≤ 65535 := by
  constructor
  · rintro ⟨t, rfl⟩
    have hpos : 0 < t.cycles.toNat := UInt16.lt_iff_toNat_lt.mp t.cycles_pos
    have hlt : t.cycles.toNat < 65536 := t.cycles.toNat_lt
    omega
  · rintro ⟨hpos, hle⟩
    have hcycles : (UInt16.ofNat v.toNat).toNat = v.toNat := by
      rw [UInt16.toNat_ofNat']
      omega
    refine ⟨⟨UInt16.ofNat v.toNat, ?_⟩, ?_⟩
    · rw [UInt16.lt_iff_toNat_lt, hcycles]
      exact Int.lt_toNat.mpr hpos
    · rw [hcycles]
      omega

lemma ofInt_eq_ok_iff {t : Timeout} : ofInt v = .ok t ↔ v = t.cycles.toNat := by
  obtain ⟨cycles, hpos⟩ := t
  simp only [ofInt]
  constructor
  · intro h
    split at h
    · next hc =>
      cases h
      exact hc.2
    · cases h
  · rintro rfl
    simp [hpos]

/-- Every other number is refused. -/
lemma ofInt_eq_error_iff {e : Error} :
    ofInt v = .error e ↔ e = .timeoutOutOfRange v ∧ ¬ (1 ≤ v ∧ v ≤ 65535) := by
  have hok : (∃ t, ofInt v = .ok t) ↔ 1 ≤ v ∧ v ≤ 65535 := by
    rw [← exists_cycles_eq_iff]
    exact exists_congr fun t => ofInt_eq_ok_iff.trans eq_comm
  rw [← hok]
  constructor
  · intro h
    refine ⟨?_, fun ⟨t, ht⟩ => by rw [h] at ht; cases ht⟩
    simp only [ofInt] at h
    split_ifs at h
    cases h
    rfl
  · rintro ⟨rfl, h⟩
    simp only [ofInt] at h ⊢
    split_ifs with hcycles
    · exact absurd ⟨_, dif_pos hcycles⟩ h
    · rfl

/-! ### Timeouts of texts -/

/-- A text is a numeral of 64 bits, whose number decides, or it has a fault. -/
lemma parse_cases (text : String) :
    (∃ v, Signed (trim text.toList) v ∧ (-2 ^ 63 ≤ v ∧ v < 2 ^ 63) ∧ parse text = ofInt v) ∨
      ∃ e, SignedFault (2 ^ 63) (trim text.toList) e ∧
        parse text = .error (.invalidTimeout text (.numeral e)) := by
  unfold parse
  cases hread : readSigned signedBound (trim text.toList) with
  | ok v =>
    obtain ⟨hrange, h⟩ := (readSigned_eq_ok_iff (by decide)).mp hread
    exact .inl ⟨v, h, hrange, rfl⟩
  | error e => exact .inr ⟨e, (readSigned_eq_error_iff (by decide)).mp hread, rfl⟩

lemma parse_of_signed {text : String} (h : Signed (trim text.toList) v)
    (hrange : -2 ^ 63 ≤ v ∧ v < 2 ^ 63) : parse text = ofInt v := by
  have hread : readSigned signedBound (trim text.toList) = .ok v :=
    (readSigned_eq_ok_iff (by decide)).mpr ⟨hrange, h⟩
  rw [parse, hread]

lemma parse_of_fault {text : String} {e : NumeralError}
    (h : SignedFault (2 ^ 63) (trim text.toList) e) :
    parse text = .error (.invalidTimeout text (.numeral e)) := by
  have hread : readSigned signedBound (trim text.toList) = .error e :=
    (readSigned_eq_error_iff (by decide)).mpr h
  rw [parse, hread]

/-- The numerals of timeouts give these timeouts. -/
lemma parse_eq_ok_iff {text : String} {t : Timeout} :
    parse text = .ok t ↔ Signed (trim text.toList) t.cycles.toNat := by
  constructor
  · intro h
    rcases parse_cases text with ⟨v, hv, -, hparse⟩ | ⟨e, -, hparse⟩
    · rwa [ofInt_eq_ok_iff.mp (hparse.symm.trans h)] at hv
    · rw [hparse] at h
      cases h
  · intro h
    have hlt : t.cycles.toNat < 65536 := t.cycles.toNat_lt
    rw [parse_of_signed h (by omega)]
    exact ofInt_eq_ok_iff.mpr rfl

/-- The numerals of other numbers of 64 bits are refused for their numbers. -/
lemma parse_eq_timeoutOutOfRange_iff {text : String} :
    parse text = .error (.timeoutOutOfRange v) ↔
      Signed (trim text.toList) v ∧ (-2 ^ 63 ≤ v ∧ v < 2 ^ 63) ∧ ¬ (1 ≤ v ∧ v ≤ 65535) := by
  constructor
  · intro h
    rcases parse_cases text with ⟨v', hv', hrange, hparse⟩ | ⟨e, -, hparse⟩
    · obtain ⟨hvalue, hout⟩ := ofInt_eq_error_iff.mp (hparse.symm.trans h)
      cases hvalue
      exact ⟨hv', hrange, hout⟩
    · rw [hparse] at h
      cases h
  · rintro ⟨hv, hrange, hout⟩
    rw [parse_of_signed hv hrange]
    exact ofInt_eq_error_iff.mpr ⟨rfl, hout⟩

/-- Texts are refused as they were given for what is wrong with them. -/
lemma parse_eq_invalidTimeout_iff {text input : String} {reason : Reason} :
    parse text = .error (.invalidTimeout input reason) ↔
      input = text ∧ ∃ e, reason = .numeral e ∧ SignedFault (2 ^ 63) (trim text.toList) e := by
  constructor
  · intro h
    rcases parse_cases text with ⟨v, -, -, hparse⟩ | ⟨e, hfault, hparse⟩
    · cases (ofInt_eq_error_iff.mp (hparse.symm.trans h)).1
    · rw [hparse] at h
      cases h
      exact ⟨rfl, e, rfl, hfault⟩
  · rintro ⟨rfl, e, rfl, hfault⟩
    exact parse_of_fault hfault

/-- The numbers and the numerals from 1 to 65535 give timeouts. Another number, and a numeral of
another number of 64 bits, is refused for the number; every other text is refused, as it was given,
for what is wrong with it. -/
theorem parse_accepts_numerals_in_range (text : String) :
    (∀ v, (∀ t, ofInt v = .ok t ↔ v = t.cycles.toNat) ∧
      ∀ e, ofInt v = .error e ↔ e = .timeoutOutOfRange v ∧ ¬ (1 ≤ v ∧ v ≤ 65535)) ∧
    (∀ t, parse text = .ok t ↔ Signed (trim text.toList) t.cycles.toNat) ∧
    ((∃ t, parse text = .ok t) ↔ ∃ v, Signed (trim text.toList) v ∧ 1 ≤ v ∧ v ≤ 65535) ∧
    (∀ v, parse text = .error (.timeoutOutOfRange v) ↔
      Signed (trim text.toList) v ∧ (-2 ^ 63 ≤ v ∧ v < 2 ^ 63) ∧ ¬ (1 ≤ v ∧ v ≤ 65535)) ∧
    (∀ input reason, parse text = .error (.invalidTimeout input reason) ↔
      input = text ∧ ∃ e, reason = .numeral e ∧ SignedFault (2 ^ 63) (trim text.toList) e) ∧
    ((∃ e, parse text = .error (.invalidTimeout text (.numeral e))) ↔
      ¬ ∃ v, Signed (trim text.toList) v ∧ -2 ^ 63 ≤ v ∧ v < 2 ^ 63) := by
  refine ⟨fun v => ⟨fun t => ofInt_eq_ok_iff, fun e => ofInt_eq_error_iff⟩,
    fun t => parse_eq_ok_iff, ?accepted, fun v => parse_eq_timeoutOutOfRange_iff,
    fun input reason => parse_eq_invalidTimeout_iff, ?notOfSixtyFourBits⟩
  case accepted =>
    constructor
    · rintro ⟨t, h⟩
      exact ⟨_, parse_eq_ok_iff.mp h, exists_cycles_eq_iff.mp ⟨t, rfl⟩⟩
    · rintro ⟨v, hv, hrange⟩
      obtain ⟨t, rfl⟩ := exists_cycles_eq_iff.mpr hrange
      exact ⟨t, parse_eq_ok_iff.mpr hv⟩
  case notOfSixtyFourBits =>
    constructor
    · rintro ⟨e, h⟩ ⟨v, hv, hrange⟩
      cases (ofInt_eq_error_iff.mp ((parse_of_signed hv hrange).symm.trans h)).1
    · intro hnone
      rcases parse_cases text with ⟨v, hv, hrange, -⟩ | ⟨e, -, hparse⟩
      · exact absurd ⟨v, hv, hrange⟩ hnone
      · exact ⟨e, hparse⟩

/-- The lowest number of 64 bits is refused as a number, and the one below it is none. -/
example : parse "-9223372036854775808" = .error (.timeoutOutOfRange (-2 ^ 63)) ∧
    parse "-9223372036854775809" =
      .error (.invalidTimeout "-9223372036854775809" (.numeral .tooSmall)) := by decide +kernel

end ClockStretch.Timeout
