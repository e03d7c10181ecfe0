import ClockStretch.Proofs.Memory.Words

/-!
# Histories of stored words

Words that are stored one after another, in any files. Where all positions are divisible by four two
words are the same or have no byte in common, so a word holds in the end what was stored there last,
and a byte that lies in none of the words is as it was in the beginning.
-/

namespace ClockStretch

/-- A word that is stored: in which file, where, and what. -/
structure Store where
  file : Location
  position : Nat
  word : UInt32

namespace Store

/-- The word that is stored at a position of a file, if it is stored there. -/
def wordAt? (s : Store) (l : Location) (p : Nat) : Option UInt32 :=
  if s.file = l ∧ s.position = p then some s.word else none

/-- The last word that is stored at a position of a file. -/
def last? (stores : List Store) (l : Location) (p : Nat) : Option UInt32 :=
  (stores.filterMap (·.wordAt? l p)).getLast?

lemma last?_cons (s : Store) (stores : List Store) (l : Location) (p : Nat) :
    last? (s :: stores) l p = (last? stores l p).or (s.wordAt? l p) := by
  unfold last?
  cases h : s.wordAt? l p with
  | none => simp [h]
  | some w =>
    simp only [List.filterMap_cons, h, List.getLast?_cons]
    cases (stores.filterMap (·.wordAt? l p)).getLast? <;> rfl

/-- Where nothing is stored at a position, no word at another one covers a byte of its word. -/
lemma outside_of_last?_eq_none {stores : List Store} {l : Location} {p : Nat} (hp : p % 4 = 0)
    (haligned : ∀ s ∈ stores, s.position % 4 = 0) (h : last? stores l p = none) :
    ∀ q, p ≤ q → q < p + 4 → ∀ s ∈ stores, s.file = l → q < s.position ∨ s.position + 4 ≤ q := by
  intro q hq hq' s hs hl
  have hne : s.position ≠ p := by
    intro heq
    have hmem : s.word ∈ stores.filterMap (·.wordAt? l p) :=
      List.mem_filterMap.mpr ⟨s, hs, by simp [wordAt?, hl, heq]⟩
    rw [last?, List.getLast?_eq_none_iff] at h
    simp [h] at hmem
  have := haligned s hs
  omega

end Store

namespace FileSystem

/-- The second file system is what a history of stores makes of the first one. -/
inductive After : List Store → FileSystem → FileSystem → Prop where
  | nil (fs : FileSystem) : After [] fs fs
  | cons {s : Store} {stores : List Store} {fs fs₁ fs₂ : FileSystem}
      (first : WordReplaced fs fs₁ s.file s.position s.word) (rest : After stores fs₁ fs₂) :
      After (s :: stores) fs fs₂

variable {fs fs' : FileSystem} {l : Location}

/-- One more store at the end of a history. -/
lemma After.concat {stores : List Store} {s : Store} {fs₁ : FileSystem} (h : After stores fs fs₁)
    (last : WordReplaced fs₁ fs' s.file s.position s.word) : After (stores ++ [s]) fs fs' := by
  induction h with
  | nil fs => exact .cons last (.nil fs')
  | cons first rest ih => exact .cons first (ih last)

/-- What a replaced word does to any file. -/
lemma WordReplaced.of_contents? {s : Store} {c : Contents}
    (h : WordReplaced fs fs' s.file s.position s.word) (hc : fs.contents? l = some c) :
    ∃ c', fs'.contents? l = some c' ∧ c'.size = c.size ∧
      (∀ p w, s.wordAt? l p = some w → c'.loadWord p = w) ∧
      ∀ q, (s.file = l → q < s.position ∨ s.position + 4 ≤ q) → c'.byteAt q = c.byteAt q := by
  by_cases hl : s.file = l
  · subst hl
    obtain ⟨c₀, c', hc₀, hc', hsize, hword, hbytes⟩ := h.contents
    cases hc.symm.trans hc₀
    refine ⟨c', hc', hsize, fun p w hw => ?_, fun q hq => hbytes q (hq rfl)⟩
    simp only [Store.wordAt?, true_and, Option.ite_none_right_eq_some, Option.some.injEq] at hw
    obtain ⟨rfl, rfl⟩ := hw
    exact hword
  · refine ⟨c, ?_, rfl, fun p w hw => ?_, fun _ _ => rfl⟩
    · rw [contents?_eq_some_iff] at hc ⊢
      rw [h.elsewhere l (Ne.symm hl), hc]
    · simp [Store.wordAt?, hl] at hw

/-- A history keeps every file: its size, the bytes that no word covers, and in each word what was
stored there last. -/
theorem After.contents {stores : List Store} {c : Contents} (h : After stores fs fs')
    (haligned : ∀ s ∈ stores, s.position % 4 = 0) (hc : fs.contents? l = some c) :
    ∃ c', fs'.contents? l = some c' ∧ c'.size = c.size ∧
      (∀ p w, p % 4 = 0 → Store.last? stores l p = some w → c'.loadWord p = w) ∧
      ∀ q, (∀ s ∈ stores, s.file = l → q < s.position ∨ s.position + 4 ≤ q) →
        c'.byteAt q = c.byteAt q := by
  induction h generalizing c with
  | nil fs => exact ⟨c, hc, rfl, fun p w _ hw => by simp [Store.last?] at hw, fun _ _ => rfl⟩
  | @cons s stores fs fs₁ fs₂ first rest ih =>
    have hrest : ∀ s ∈ stores, s.position % 4 = 0 := fun s' hs' =>
      haligned s' (List.mem_cons_of_mem s hs')
    obtain ⟨c₁, hc₁, hsize₁, hword₁, hbytes₁⟩ := first.of_contents? hc
    obtain ⟨c₂, hc₂, hsize₂, hword₂, hbytes₂⟩ := ih hrest hc₁
    refine ⟨c₂, hc₂, hsize₂.trans hsize₁, fun p w hp hw => ?_, fun q hq => ?_⟩
    · rw [Store.last?_cons] at hw
      cases hlast : Store.last? stores l p with
      | some w' =>
        rw [hlast] at hw
        cases hw
        exact hword₂ p w hp hlast
      | none =>
        -- the first store decides, since no later one covers a byte of the word
        rw [hlast] at hw
        rw [Contents.loadWord_congr fun q hq hq' =>
          hbytes₂ q (Store.outside_of_last?_eq_none hp hrest hlast q hq hq')]
        exact hword₁ p w hw
    · rw [hbytes₂ q fun s' hs' => hq s' (List.mem_cons_of_mem s hs')]
      exact hbytes₁ q (hq s List.mem_cons_self)

/-- A history changes regular files only. -/
lemma After.node?_of_not_regular {stores : List Store} (h : After stores fs fs')
    (hc : fs.contents? l = none) : fs'.node? l = fs.node? l := by
  induction h with
  | nil fs => rfl
  | @cons s stores fs fs₁ fs₂ first rest ih =>
    have hne : l ≠ s.file := by
      rintro rfl
      obtain ⟨c, -, hc', -⟩ := first.contents
      simp [hc'] at hc
    have hnode := first.elsewhere l hne
    rw [ih (by unfold contents? at hc ⊢; rw [hnode]; exact hc), hnode]

/-- A regular file has been one from the beginning. -/
lemma After.exists_contents {stores : List Store} {c' : Contents} (h : After stores fs fs')
    (hc' : fs'.contents? l = some c') : ∃ c, fs.contents? l = some c := by
  cases hc : fs.contents? l with
  | some c => exact ⟨c, rfl⟩
  | none =>
    have hnode := h.node?_of_not_regular hc
    simp [contents?, hnode] at hc hc'
    simp [hc] at hc'

/-- An aligned word is the one that was stored there last, or else what it was. -/
theorem After.loadWord {stores : List Store} {c : Contents} (h : After stores fs fs')
    (haligned : ∀ s ∈ stores, s.position % 4 = 0) (hc : fs.contents? l = some c) :
    ∃ c', fs'.contents? l = some c' ∧ ∀ p, p % 4 = 0 →
      c'.loadWord p = (Store.last? stores l p).getD (c.loadWord p) := by
  obtain ⟨c', hc', -, hword, hbytes⟩ := h.contents haligned hc
  refine ⟨c', hc', fun p hp => ?_⟩
  cases hlast : Store.last? stores l p with
  | some w => exact hword p w hp hlast
  | none =>
    exact Contents.loadWord_congr fun q hq hq' =>
      hbytes q (Store.outside_of_last?_eq_none hp haligned hlast q hq hq')

end FileSystem

end ClockStretch
