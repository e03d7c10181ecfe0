import ClockStretch.Proofs.BaseAddress.Text
import ClockStretch.Proofs.Outcome.Line
import ClockStretch.Proofs.Text.Spelling
import ClockStretch.Proofs.Timeout.Text

/-!
# Spellings of addresses and timeouts

Every text that an address or a timeout is written as reads back as this address or timeout, however
it is spelled: with more zeros in front of the digits, with white space around it, and for addresses
with underscores in it. So no two addresses are displayed alike.
-/

namespace ClockStretch

open Text

variable {c : Char} {n count : Nat} {s t : List Char} {text : String}

namespace BaseAddress

variable {a b : BaseAddress}

/-- The texts that an address is written as: in hexadecimal as it is displayed, in decimal, and in
hexadecimal with any of its letters as capitals. -/
inductive Written (a : BaseAddress) : List Char → Prop where
  | display : Written a a.display.toList
  | decimal : Written a (Nat.toDigits 10 a.value.toNat)
  | hexadecimal {x : Char} {digits : List Char} (hx : x = 'x' ∨ x = 'X')
      (h : Capitalized (Nat.toDigits 16 a.value.toNat) digits) : Written a ('0' :: x :: digits)

/-- A text that denotes a number has neither white space nor underscores in it. -/
lemma Denotes.solid (h : Denotes s n) (hc : c ∈ s) : c ≠ '_' ∧ isBlank c = false := by
  cases h with
  | decimal h => exact h.solid hc
  | hexadecimal hx h =>
    rcases List.mem_cons.mp hc with rfl | hc
    · decide
    rcases List.mem_cons.mp hc with rfl | hc
    · rcases hx with rfl | rfl <;> decide
    · exact h.solid hc

/-- A text that denotes the number of an address gives this address with underscores put in and with
white space around it. -/
lemma parse_of_surrounded (h : Denotes s a.value.toNat) (hst : Underscored s t)
    (ht : Surrounded t text.toList) : parse text = .ok a := by
  have htrim : trim text.toList = t := by
    refine ht.trim_eq fun c hc => ?_
    rcases hst.mem_or_eq hc with hc | rfl
    · exact (h.solid hc).2
    · decide
  have hstripped : stripped text = s := by
    rw [stripped, htrim]
    exact hst.filter_eq fun hc => (h.solid hc).1 rfl
  exact parse_of_denotes (hstripped ▸ h)

lemma denotes_zeros_of_hexadecimal {x : Char} (hx : x = 'x' ∨ x = 'X') (hs : s ≠ [])
    (h : Writes 16 s n) : Denotes (moreZeros count ('0' :: x :: s)) n := by
  have hzeros : moreZeros count ('0' :: x :: s) = '0' :: x :: (List.replicate count '0' ++ s) := by
    rcases hx with rfl | rfl <;> rfl
  rw [hzeros]
  exact .hexadecimal hx (.bare (by simp [hs]) (h.zeros_append (by decide) count))

lemma denotes_zeros_of_decimal (hs : s ≠ []) (h : Writes 10 s n) :
    Denotes (moreZeros count s) n := by
  rw [h.moreZeros_eq count]
  exact .decimal (.bare (by simp [hs]) (h.zeros_append (by decide) count))

lemma toList_display (a : BaseAddress) :
    a.display.toList = '0' :: 'x' ::
      (List.replicate (8 - (Nat.toDigits 16 a.value.toNat).length) '0' ++
        Nat.toDigits 16 a.value.toNat) := by
  simp [display, hex, hexDigits]

/-- What an address is written as denotes its number, with more zeros too. -/
lemma Written.denotes (h : a.Written s) (count : Nat) :
    Denotes (moreZeros count s) a.value.toNat := by
  have hdigits : Writes 16 _ a.value.toNat := writes_toDigits (by decide) (by decide) _
  cases h with
  | display =>
    rw [toList_display]
    refine denotes_zeros_of_hexadecimal (.inl rfl) ?_ (hdigits.zeros_append (by decide) _)
    simp [Nat.toDigits_ne_nil]
  | decimal =>
    exact denotes_zeros_of_decimal Nat.toDigits_ne_nil (writes_toDigits (by decide) (by decide) _)
  | hexadecimal hx hcapitals =>
    refine denotes_zeros_of_hexadecimal hx ?_ (hdigits.capitalized (by decide) hcapitals)
    rintro rfl
    exact Nat.toDigits_ne_nil (List.forall₂_nil_right_iff.mp hcapitals)

/-- An address is read back from the text that it is displayed as. -/
lemma parse_display (a : BaseAddress) : parse a.display = .ok a := by
  have h := Written.display (a := a).denotes 0
  rw [moreZeros_zero] at h
  exact parse_of_surrounded h (.refl _) (.refl _)

lemma display_injective (h : a.display = b.display) : a = b := by
  have hread : parse b.display = .ok a := h ▸ parse_display a
  exact Except.ok.inj (hread.symm.trans (parse_display b))

/-- The text of an address in JSON is what it is displayed as, between quotes. -/
lemma render_display (a : BaseAddress) :
    (Json.Value.string a.display).render = "\"" ++ a.display ++ "\"" := by
  have hplain : Json.Plain a.display := Json.plain_hex 8 a.value.toNat
  apply String.toList_inj.mp
  simp [Json.Value.render, Json.Value.write, hplain.writeString_eq]

end BaseAddress

namespace Timeout

/-- A timeout is read back from what it is displayed as, with more zeros and white space around
it. -/
lemma parse_of_surrounded {timeout : Timeout}
    (h : Surrounded (moreZeros count timeout.display.toList) text.toList) :
    parse text = .ok timeout := by
  have hdigits : Writes 10 _ timeout.cycles.toNat := writes_toDigits (by decide) (by decide) _
  have hdisplay : timeout.display.toList = Nat.toDigits 10 timeout.cycles.toNat := by
    simp [display]
  rw [hdisplay, hdigits.moreZeros_eq count] at h
  have hunsigned : Unsigned 10 _ _ :=
    .bare (by simp [Nat.toDigits_ne_nil]) (hdigits.zeros_append (by decide) count)
  rw [parse_eq_ok_iff, h.trim_eq fun c hc => (hunsigned.solid hc).2]
  exact .unsigned hunsigned

end Timeout

/-- Addresses and timeouts are read back from everything that they are written as: an address from
its display, which is also what stands between the quotes in JSON, from its decimal numeral and from
its hexadecimal numeral with any letters as capitals, all with any number of leading zeros, with
underscores put in and with white space around them; a timeout from its display, with leading zeros
and white space around it. Addresses that are displayed alike are the same. -/
theorem spellings_give_their_values :
    (∀ (a : BaseAddress) (s : List Char) (count : Nat) (t : List Char) (text : String),
      a.Written s → Underscored (moreZeros count s) t → Surrounded t text.toList →
        BaseAddress.parse text = .ok a) ∧
    (∀ a : BaseAddress, (Json.Value.string a.display).render = "\"" ++ a.display ++ "\"") ∧
    (∀ a b : BaseAddress, a.display = b.display → a = b) ∧
    ∀ (timeout : Timeout) (count : Nat) (text : String),
      Surrounded (moreZeros count timeout.display.toList) text.toList →
        Timeout.parse text = .ok timeout := by
  refine ⟨fun a s count t text hs hst ht => ?_, BaseAddress.render_display,
    fun _ _ => BaseAddress.display_injective, fun _ _ _ => Timeout.parse_of_surrounded⟩
  exact BaseAddress.parse_of_surrounded (hs.denotes count) hst ht

/-- Zeros, capitals, underscores and white space at once. -/
theorem spellings_give_their_values_at_once :
    let a : BaseAddress := ⟨0xabc, by decide⟩
    let timeout : Timeout := ⟨7, by decide⟩
    let written := ['0', 'X', 'a', 'B', 'c']
    let spelled := "0_X00aB_c".toList
    (a.Written written ∧ Underscored (moreZeros 2 written) spelled ∧
      Surrounded spelled "\t\u30000_X00aB_c\n".toList ∧
      Surrounded (moreZeros 3 timeout.display.toList) " 0007\u00a0".toList) ∧
    BaseAddress.parse "\t\u30000_X00aB_c\n" = .ok a ∧
      Timeout.parse " 0007\u00a0" = .ok timeout := by
  intro a timeout written spelled
  have hcapitals : Capitalized (Nat.toDigits 16 a.value.toNat) ['a', 'B', 'c'] := by
    rw [show Nat.toDigits 16 a.value.toNat = ['a', 'b', 'c'] by decide]
    exact .cons (.inl rfl) (.cons (.inr (by decide)) (.cons (.inl rfl) .nil))
  have hwritten : a.Written written := .hexadecimal (.inr rfl) hcapitals
  have hspelled : Underscored (moreZeros 2 written) spelled :=
    .keep _ (.underscore (.keep _ (.keep _ (.keep _ (.keep _ (.keep _ (.underscore
      (.keep _ .nil))))))))
  have haround : Surrounded spelled "\t\u30000_X00aB_c\n".toList :=
    ⟨['\t', '\u3000'], ['\n'], by decide, List.all_eq_true.mp (by decide),
      List.all_eq_true.mp (by decide)⟩
  have htimeout : Surrounded (moreZeros 3 timeout.display.toList) " 0007\u00a0".toList :=
    ⟨[' '], ['\u00a0'], by decide, List.all_eq_true.mp (by decide),
      List.all_eq_true.mp (by decide)⟩
  refine ⟨⟨hwritten, hspelled, haround, htimeout⟩, ?_, ?_⟩
  · exact spellings_give_their_values.1 a written 2 spelled _ hwritten hspelled haround
  · exact spellings_give_their_values.2.2.2 timeout 3 _ htimeout

end ClockStretch
