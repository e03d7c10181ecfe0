import ClockStretch.Proofs.BaseAddress.Text
import ClockStretch.Proofs.Text.Spelling

/-!
# Grouped digits of base addresses

Base addresses are meant to be written in decimal, or in hexadecimal behind `0x`, with underscores
between the digits. More is read than that: underscores are dropped wherever they stand, before the
mark of hexadecimal digits is looked for, and digits may have a `+` in front of them. A text that is
read is written as it is meant to be just if it has no sign and no underscore out of place.
-/

namespace ClockStretch

open Text

variable {radix n : Nat} {c : Char} {s t : List Char}

namespace Text

/-- Digits of a radix, of which there is one at least, with any number of underscores between one
digit and the next. -/
inductive Grouped (radix : Nat) : List Char → Prop where
  | last {c : Char} {d : Nat} (h : IsDigit radix c d) : Grouped radix [c]
  | next {c : Char} {d : Nat} {s : List Char} (h : IsDigit radix c d) (count : Nat)
      (hs : Grouped radix s) : Grouped radix (c :: (List.replicate count '_' ++ s))

/-- A text made of digits and underscores, which does not end in one, has grouped digits behind the
underscores in front. -/
lemma exists_grouped (hs : ∀ c ∈ s, c = '_' ∨ ∃ d, IsDigit radix c d) (hne : s ≠ [])
    (hlast : s.getLast? ≠ some '_') :
    ∃ count t, s = List.replicate count '_' ++ t ∧ Grouped radix t := by
  induction s with
  | nil => exact absurd rfl hne
  | cons c s ih =>
    obtain ⟨hc, hs⟩ := List.forall_mem_cons.mp hs
    by_cases hnil : s = []
    · subst hnil
      rcases hc with rfl | ⟨d, hd⟩
      · exact absurd rfl hlast
      · exact ⟨0, [c], rfl, .last hd⟩
    · rw [List.getLast?_cons_of_ne_nil hnil] at hlast
      obtain ⟨count, t, rfl, ht⟩ := ih hs hnil hlast
      rcases hc with rfl | ⟨d, hd⟩
      · exact ⟨count + 1, t, rfl, ht⟩
      · exact ⟨0, _, rfl, .next hd count ht⟩

/-- Digits are grouped if there is nothing else but underscores, and none of these at the ends. -/
lemma grouped_iff :
    Grouped radix s ↔ s ≠ [] ∧ (∀ c ∈ s, c = '_' ∨ ∃ d, IsDigit radix c d) ∧
      s.head? ≠ some '_' ∧ s.getLast? ≠ some '_' := by
  constructor
  · intro h
    induction h with
    | last hd => simpa using ⟨.inr ⟨_, hd⟩, hd.solid.1⟩
    | @next c d s hd count hs ih =>
      obtain ⟨hne, hchars, -, hlast⟩ := ih
      refine ⟨List.cons_ne_nil _ _, ?_, by simpa using hd.solid.1, ?_⟩
      · intro b hb
        rcases List.mem_cons.mp hb with rfl | hb
        · exact .inr ⟨d, hd⟩
        rcases List.mem_append.mp hb with hb | hb
        · exact .inl (List.eq_of_mem_replicate hb)
        · exact hchars b hb
      · rwa [List.getLast?_cons_of_ne_nil (by simp [hne]), List.getLast?_append_of_ne_nil _ hne]
  · rintro ⟨hne, hchars, hhead, hlast⟩
    obtain ⟨count, t, rfl, ht⟩ := exists_grouped hchars hne hlast
    cases count with
    | zero => exact ht
    | succ count => exact absurd rfl hhead

/-- Where a numeral without a sign is left by taking out underscores, and none stands at the ends,
there are grouped digits. -/
lemma Unsigned.grouped (h : Unsigned radix (s.filter (· != '_')) n) (hsign : '+' ∉ s)
    (hhead : s.head? ≠ some '_') (hlast : s.getLast? ≠ some '_') : Grouped radix s := by
  generalize hdigits : s.filter (· != '_') = digits at h
  cases h with
  | plus => exact absurd (List.mem_of_mem_filter (hdigits ▸ List.mem_cons_self)) hsign
  | bare hne h =>
    subst hdigits
    refine grouped_iff.mpr ⟨fun hnil => hne (by rw [hnil]; rfl), fun c hc => ?_, hhead, hlast⟩
    by_cases hunderscore : c = '_'
    · exact .inl hunderscore
    · exact .inr (h.exists_isDigit (List.mem_filter.mpr ⟨hc, by simpa using hunderscore⟩))

/-- In front of the first character that is left by taking out underscores, there are only
underscores. -/
lemma exists_of_filter_eq_cons (h : s.filter (· != '_') = c :: t) :
    ∃ count u, s = List.replicate count '_' ++ c :: u ∧ u.filter (· != '_') = t := by
  obtain ⟨front, u, rfl, hfront, -, hu⟩ := List.filter_eq_cons_iff.mp h
  have hunderscores : ∀ b ∈ front, b = '_' := by simpa using hfront
  exact ⟨front.length, u, by rw [← List.eq_replicate_of_mem hunderscores], hu⟩

end Text

namespace BaseAddress

/-- How base addresses are meant to be written, without white space around. -/
inductive Grammatical : List Char → Prop where
  | decimal {s : List Char} (h : Grouped 10 s) : Grammatical s
  | hexadecimal {x : Char} {s : List Char} (hx : x = 'x' ∨ x = 'X') (h : Grouped 16 s) :
      Grammatical ('0' :: x :: s)

/-- A text without a sign, and with no underscore at its ends, inside of a mark of hexadecimal
digits or right behind it. -/
structure Tidy (s : List Char) : Prop where
  sign : '+' ∉ s
  head : s.head? ≠ some '_'
  last : s.getLast? ≠ some '_'
  insideMark : ∀ count x t, x = 'x' ∨ x = 'X' →
    s ≠ '0' :: (List.replicate (count + 1) '_' ++ x :: t)
  behindMark : ∀ x t, x = 'x' ∨ x = 'X' → s ≠ '0' :: x :: '_' :: t

/-- Grouped digits have neither a sign nor the mark of hexadecimal digits in them. -/
lemma not_mem_of_grouped (hradix : radix ≤ 16) (h : Grouped radix s)
    (hc : c = '+' ∨ c = 'x' ∨ c = 'X') : c ∉ s := by
  intro hmem
  rcases (grouped_iff.mp h).2.1 c hmem with rfl | ⟨d, hd⟩
  · revert hc
    decide
  · rcases hc with rfl | hx
    · exact not_isDigit_of_sign hradix (.inl rfl) hd
    · exact not_isDigit_of_mark hradix hx hd

lemma Grammatical.tidy (h : Grammatical s) : Tidy s := by
  cases h with
  | decimal h =>
    obtain ⟨-, -, hhead, hlast⟩ := grouped_iff.mp h
    refine ⟨not_mem_of_grouped (by decide) h (.inl rfl), hhead, hlast, ?_, ?_⟩
    · rintro count x t hx rfl
      exact not_mem_of_grouped (by decide) h (.inr hx) (by simp)
    · rintro x t hx rfl
      exact not_mem_of_grouped (by decide) h (.inr hx) (by simp)
  | @hexadecimal x s hx h =>
    obtain ⟨hne, -, hhead, hlast⟩ := grouped_iff.mp h
    have hmark : x ≠ '+' ∧ x ≠ '_' := by rcases hx with rfl | rfl <;> decide
    refine ⟨?_, by simp, ?_, ?_, ?_⟩
    · simpa [hmark.1.symm] using not_mem_of_grouped (by decide) h (.inl rfl)
    · rwa [List.getLast?_cons_of_ne_nil (by simp), List.getLast?_cons_of_ne_nil hne]
    · intro count y t _ heq
      rw [List.replicate_succ] at heq
      exact hmark.2 (List.cons.inj (List.cons.inj heq).2).1
    · intro y t _ heq
      rw [(List.cons.inj (List.cons.inj heq).2).2] at hhead
      exact hhead rfl

/-- A tidy text that denotes a number when underscores are taken out is written as it is meant to
be. -/
lemma Tidy.grammatical (h : Tidy s) (hs : Denotes (s.filter (· != '_')) n) : Grammatical s := by
  generalize hstripped : s.filter (· != '_') = stripped at hs
  cases hs with
  | decimal hdigits =>
    subst hstripped
    exact .decimal (hdigits.grouped h.sign h.head h.last)
  | @hexadecimal x digits _ hx hdigits =>
    obtain ⟨count, t, rfl, ht⟩ := exists_of_filter_eq_cons hstripped
    cases count with
    | succ count => exact absurd rfl h.head
    | zero =>
      obtain ⟨count, u, rfl, rfl⟩ := exists_of_filter_eq_cons ht
      cases count with
      | succ count => exact absurd rfl (h.insideMark count x u hx)
      | zero =>
        refine .hexadecimal hx (hdigits.grouped ?sign ?head ?last)
        case sign => exact fun hmem => h.sign (by simp [hmem])
        case head =>
          intro hhead
          obtain ⟨v, rfl⟩ := List.head?_eq_some_iff.mp hhead
          exact h.behindMark x v hx rfl
        case last =>
          intro hlast
          obtain ⟨v, rfl⟩ := List.getLast?_eq_some_iff.mp hlast
          exact h.last (List.getLast?_concat (l := '0' :: x :: v))

/-- A text that is read is written as it is meant to be just if it is tidy. -/
theorem parse_ok_grammatical_iff_tidy {text : String} {a : BaseAddress} (h : parse text = .ok a) :
    Grammatical (trim text.toList) ↔ Tidy (trim text.toList) :=
  ⟨Grammatical.tidy, fun htidy => htidy.grammatical (parse_eq_ok_iff.mp h)⟩

/-- Four digits behind an underscore, and four in front of one. -/
theorem parse_ok_grammatical_iff_tidy_of_halves :
    (∃ a, parse " 0x2080_4000\n" = .ok a) ∧ Grammatical "0x2080_4000".toList := by
  have hread : parse " 0x2080_4000\n" = .ok ⟨0x20804000, by decide⟩ := by decide +kernel
  have htrim : trim " 0x2080_4000\n".toList = "0x2080_4000".toList := by decide +kernel
  have hiff := parse_ok_grammatical_iff_tidy hread
  rw [htrim] at hiff
  have htidy : Tidy "0x2080_4000".toList :=
    ⟨by decide, by decide, by decide, by simp [List.replicate_succ], by simp⟩
  exact ⟨⟨_, hread⟩, hiff.mpr htidy⟩

/-- A text that is untidy in any one way can still be read. -/
theorem parse_ok_untidy :
    let untidy (text : String) :=
      parse text = .ok ⟨4, by decide⟩ ∧ ¬ Grammatical (trim text.toList)
    untidy "0_x4" ∧ untidy "0x_4" ∧ untidy "_4" ∧ untidy "4_" ∧ untidy "+4" := by
  intro untidy
  have hread (text : String)
      (hparse : parse text = .ok ⟨4, by decide⟩ ∧ trim text.toList = text.toList)
      (htidy : ¬ Tidy text.toList) : untidy text :=
    ⟨hparse.1, fun h => htidy (hparse.2 ▸ h.tidy)⟩
  refine ⟨hread _ (by decide +kernel) ?insideMark, hread _ (by decide +kernel) ?behindMark,
    hread _ (by decide +kernel) ?head, hread _ (by decide +kernel) ?last,
    hread _ (by decide +kernel) ?sign⟩
  case insideMark => exact fun h => h.insideMark 0 'x' ['4'] (.inl rfl) rfl
  case behindMark => exact fun h => h.behindMark 'x' ['4'] (.inl rfl) rfl
  case head => exact fun h => h.head rfl
  case last => exact fun h => h.last rfl
  case sign => exact fun h => h.sign (by decide)

end BaseAddress

end ClockStretch
