import ClockStretch.Json.Value
import ClockStretch.Proofs.Text.Spelling
import Mathlib.Data.List.TakeDrop

/-!
# JSON texts read back

The reader gives back every value that is written, whatever stands behind it: strings with any
characters in them, whole numbers, and lists and objects of such values, nested as deep as the
reader goes. Floats are left out. What is written has no control characters, so it is one line.
-/

namespace ClockStretch.Json

open Text

variable {c : Char} {n : Nat} {s : List Char}

/-! ### Strings -/

lemma readHex4_of_control {k : Nat} (hk : k < 0x20) (s : List Char) :
    readHex4 ('0' :: '0' :: Nat.digitChar (k / 16) :: Nat.digitChar (k % 16) :: s) =
      .ok (k, s) := by
  have hdigits : ∀ k < 0x20, readDigits 16 UInt16.size 0
      ['0', '0', Nat.digitChar (k / 16), Nat.digitChar (k % 16)] = .ok k := by decide
  simp [readHex4, hdigits k hk]

lemma readEscape_of_control (hc : c.toNat < 0x20) (s : List Char) :
    readEscape ('u' :: '0' :: '0' :: Nat.digitChar (c.toNat / 16) ::
      Nat.digitChar (c.toNat % 16) :: s) = .ok (c, s) := by
  simp only [readEscape, readHex4_of_control hc, bind, Except.bind]
  rw [if_neg (by omega), if_neg (by omega), Char.ofNat_toNat]

/-- A character other than a quote and a backslash stands for itself, unless it is a control
character. -/
lemma readStringBody_cons (hquote : c ≠ '"') (hslash : c ≠ '\\') (hcontrol : ¬ c.toNat < 0x20)
    (n : Nat) (s : List Char) :
    readStringBody (n + 1) (c :: s) = (do
      let (cs, s) ← readStringBody n s
      .ok (c :: cs, s)) := by
  rw [readStringBody, if_neg hcontrol]
  · simpa using hquote
  · simpa using hslash

/-- One character is read back, and reading goes on behind it. -/
lemma readStringBody_writeChar (n : Nat) (c : Char) (s : List Char) :
    readStringBody (n + 1) (writeChar c ++ s) = (do
      let (cs, s) ← readStringBody n s
      .ok (c :: cs, s)) := by
  unfold writeChar
  split
  -- the seven characters that have an escape of their own
  iterate 7 rfl
  rename_i hquote hslash _ _ _ _ _
  split_ifs with hcontrol
  · simp only [List.cons_append, List.nil_append, readStringBody]
    rw [readEscape_of_control hcontrol]
    rfl
  · exact readStringBody_cons hquote hslash hcontrol n s

/-- The characters of a string are read back up to its quote. -/
lemma readStringBody_write (cs : List Char) (h : cs.length < n) (s : List Char) :
    readStringBody n (cs.flatMap writeChar ++ '"' :: s) = .ok (cs, s) := by
  induction cs generalizing n with
  | nil =>
    obtain ⟨n, rfl⟩ := Nat.exists_eq_succ_of_ne_zero (Nat.ne_of_gt h)
    rfl
  | cons c cs ih =>
    obtain ⟨n, rfl⟩ := Nat.exists_eq_succ_of_ne_zero (Nat.ne_of_gt (Nat.zero_lt_of_lt h))
    rw [List.flatMap_cons, List.append_assoc, readStringBody_writeChar,
      ih (by simpa using h)]
    rfl

lemma writeChar_ne_nil (c : Char) : writeChar c ≠ [] := by
  unfold writeChar
  split
  iterate 7 exact List.cons_ne_nil _ _
  split_ifs <;> exact List.cons_ne_nil _ _

/-- Texts that are not empty make no shorter a text than there are of them. -/
lemma length_le_length_flatMap {α : Type} {f : α → List Char} (hf : ∀ x, f x ≠ []) (xs : List α) :
    xs.length ≤ (xs.flatMap f).length := by
  induction xs with
  | nil => rfl
  | cons x xs ih =>
    have hx := List.length_pos_of_ne_nil (hf x)
    simp only [List.length_cons, List.flatMap_cons, List.length_append]
    omega

/-- A string is read back behind its opening quote. -/
lemma readString_write (t : String) (s : List Char) :
    readString (t.toList.flatMap writeChar ++ '"' :: s) = .ok (t, s) := by
  have hlength := length_le_length_flatMap writeChar_ne_nil t.toList
  rw [readString, readStringBody_write]
  · simp [bind, Except.bind]
  · simp only [List.length_append, List.length_cons]
    omega

/-! ### Numbers -/

/-- What stands behind a number does not go on with it. -/
def Ends (s : List Char) : Prop :=
  ∀ c ∈ s.head?, c.isDigit = false ∧ c ≠ '.' ∧ c ≠ 'e' ∧ c ≠ 'E'

lemma ends_nil : Ends [] := by simp [Ends]

lemma ends_cons (hc : c = ',' ∨ c = ']' ∨ c = '\x7d') (s : List Char) : Ends (c :: s) := by
  intro d hd
  obtain rfl : c = d := by simpa using hd
  rcases hc with rfl | rfl | rfl <;> decide

/-- Digits behind others are absorbed without a rest if the number of all digits has 64 bits. -/
lemma absorb_of_writes {p : List Char} {m : Nat} (hp : Writes 10 p m) (h : Writes 10 (p ++ s) n)
    (hn : n < UInt64.size) : absorb m s = (n, []) := by
  induction s generalizing p m with
  | nil =>
    rw [List.append_nil] at h
    rw [absorb, hp.unique (by decide) h]
  | cons c s ih =>
    rw [List.append_cons] at h
    obtain ⟨m', hle, hp'⟩ := h.exists_le_of_append
    obtain ⟨k, d, hk, hd, rfl⟩ := writes_concat_iff.mp hp'
    obtain rfl := hk.unique (by decide) hp
    have hvalue : c.toNat - '0'.toNat = d := by
      rw [hd.eq_digitChar]
      exact Nat.toNat_digitChar_sub_48_of_lt_ten hd.1
    simp only [absorb, hvalue]
    rw [if_pos (by omega), ih hp' h]

lemma ne_of_isDigit {d : Char} (hc : c.isDigit = true) (hd : d.isDigit = false) : c ≠ d := by
  rintro rfl
  exact absurd (hc.symm.trans hd) (by decide)

lemma isBlank_of_isDigit (hc : c.isDigit = true) : isBlank c = false := by
  simp [isBlank, ne_of_isDigit hc]

lemma isDigit_of_mem_toDigits (hc : c ∈ Nat.toDigits 10 n) : c.isDigit = true :=
  Nat.isDigit_of_mem_toDigits (by decide) (by decide) hc

lemma exists_toDigits_eq_cons (n : Nat) :
    ∃ c digits, Nat.toDigits 10 n = c :: digits ∧ c.isDigit = true := by
  obtain ⟨c, digits, hdigits⟩ := List.exists_cons_of_ne_nil (Nat.toDigits_ne_nil (b := 10) (n := n))
  exact ⟨c, digits, hdigits, isDigit_of_mem_toDigits (n := n) (by simp [hdigits])⟩

/-- The digits printed for a number are split off a text as a whole. -/
lemma span_toDigits (n : Nat) (hs : Ends s) :
    (Nat.toDigits 10 n ++ s).span Char.isDigit = (Nat.toDigits 10 n, s) := by
  have hdigits : ∀ c ∈ Nat.toDigits 10 n, c.isDigit = true := fun _ => isDigit_of_mem_toDigits
  rw [List.span_eq_takeWhile_dropWhile, List.takeWhile_append_of_pos hdigits,
    List.dropWhile_append_of_pos hdigits]
  cases s with
  | nil => simp
  | cons c s =>
    have hc : ¬ c.isDigit = true := by simp [(hs c rfl).1]
    rw [List.takeWhile_cons_of_neg hc, List.dropWhile_cons_of_neg hc, List.append_nil]

/-- The digits printed for a number of 64 bits are read as this number. -/
lemma readNumber_toDigits (negative : Bool) (hn : n < UInt64.size) (hs : Ends s) :
    readNumber negative (Nat.toDigits 10 n ++ s) =
      if ! negative then .ok (.unsigned n, s)
      else if n = 0 ∨ signedBound < n then readParts true n 0 s
      else .ok (.signed (-n), s) := by
  have hspan := span_toDigits n hs
  have habsorb : absorb 0 (Nat.toDigits 10 n) = (n, []) :=
    absorb_of_writes (writes_nil_iff.mpr rfl) (writes_toDigits (by decide) (by decide) n) hn
  obtain ⟨c, digits, hdigits, hc⟩ := exists_toDigits_eq_cons n
  have hzero : ¬ (c = '0' ∧ (digits ++ s).head?.any Char.isDigit) := by
    rintro ⟨rfl, hnext⟩
    obtain rfl := eq_zero_of_head?_toDigits (n := n) (by simp [hdigits])
    obtain rfl : digits = [] := by simpa using hdigits.symm
    cases s with
    | nil => cases hnext
    | cons d s => exact absurd hnext (by simp [(hs d rfl).1])
  rw [hdigits] at hspan habsorb ⊢
  rw [List.cons_append] at hspan ⊢
  rw [readNumber, if_neg (by simp [hc]), if_neg hzero, hspan]
  simp only [habsorb]
  split
  · exact absurd rfl (hs '.' rfl).2.1
  · exact absurd rfl (hs 'e' rfl).2.2.1
  · exact absurd rfl (hs 'E' rfl).2.2.2
  · rfl

/-! ### Lists -/

lemma writeItems_cons (v : Value) (vs : List Value) :
    writeItems (v :: vs) = v.write ++ vs.flatMap fun w => ',' :: w.write := by
  induction vs generalizing v with
  | nil => simp [writeItems]
  | cons w vs ih => rw [writeItems, ih, List.flatMap_cons, List.cons_append]

/-- A text that starts with a value, and not with white space or the end of a list. -/
def StartsValue (s : List Char) : Prop := ∃ c t, s = c :: t ∧ isBlank c = false ∧ c ≠ ']'

lemma StartsValue.append (h : StartsValue s) (t : List Char) : StartsValue (s ++ t) := by
  obtain ⟨c, s, rfl, hc⟩ := h
  exact ⟨c, s ++ t, rfl, hc⟩

lemma StartsValue.skipBlanks_eq (h : StartsValue s) : skipBlanks s = s := by
  obtain ⟨c, s, rfl, hblank, -⟩ := h
  rw [skipBlanks, List.dropWhile_cons_of_neg (by simp [hblank])]

/-- Behind a comma a list goes on. -/
lemma readItemEnd_comma (h : StartsValue s) : readItemEnd (',' :: s) = .ok (true, s) := by
  have hcomma : skipBlanks (',' :: s) = ',' :: s := rfl
  simp only [readItemEnd, hcomma, h.skipBlanks_eq]
  obtain ⟨c, s, rfl, -, hc⟩ := h
  split
  · rename_i heq
    cases heq
  · rename_i heq
    exact absurd (List.cons.inj heq).1 hc
  · rfl

/-- A reader gives back a value from its text, whatever stands behind it. -/
def GivesBack (item : Reader Value) (v : Value) : Prop :=
  ∀ s, Ends s → item (v.write ++ s) = .ok (v, s)

/-- One item is given back, and what stands behind it decides whether there are more. -/
lemma readItems_succ {item : Reader Value} {v : Value} (hitem : GivesBack item v) (hs : Ends s)
    (n : Nat) :
    readItems item (n + 1) (v.write ++ s) = (do
      let (more, s) ← readItemEnd s
      if more then
        let (vs, s) ← readItems item n s
        .ok (v :: vs, s)
      else .ok ([v], s)) := by
  rw [readItems, hitem s hs]
  rfl

/-- The items of a list are given back if each of them is. -/
lemma readItems_write {item : Reader Value} {v : Value} {vs : List Value}
    (hitem : ∀ w ∈ v :: vs, GivesBack item w) (hstarts : ∀ w ∈ vs, StartsValue w.write)
    (hn : vs.length < n) (s : List Char) :
    readItems item n (v.write ++ ((vs.flatMap fun w => ',' :: w.write) ++ ']' :: s)) =
      .ok (v :: vs, s) := by
  induction vs generalizing v n with
  | nil =>
    obtain ⟨n, rfl⟩ := Nat.exists_eq_succ_of_ne_zero (Nat.ne_of_gt hn)
    have hv := hitem v List.mem_cons_self
    rw [List.flatMap_nil, List.nil_append, readItems_succ hv (ends_cons (.inr (.inl rfl)) s)]
    rfl
  | cons w vs ih =>
    obtain ⟨n, rfl⟩ := Nat.exists_eq_succ_of_ne_zero (Nat.ne_of_gt (Nat.zero_lt_of_lt hn))
    obtain ⟨hw, hvs⟩ := List.forall_mem_cons.mp hstarts
    obtain ⟨hv, hitem⟩ := List.forall_mem_cons.mp hitem
    rw [List.flatMap_cons, List.cons_append, List.cons_append, List.append_assoc,
      readItems_succ hv (ends_cons (.inl rfl) _), readItemEnd_comma (hw.append _)]
    show (do
      let (vs, s) ← readItems item n _
      .ok (v :: vs, s)) = _
    rw [ih hitem hvs (by simpa using hn)]
    rfl

/-! ### Objects -/

/-- An entry behind the quote of its key. -/
def writeKeyed (e : String × Value) : List Char :=
  e.1.toList.flatMap writeChar ++ '"' :: ':' :: e.2.write

lemma writeEntry_eq (e : String × Value) : writeEntry e = '"' :: writeKeyed e := by
  obtain ⟨key, v⟩ := e
  simp [writeEntry, writeString, writeKeyed]

lemma writeEntries_cons (e : String × Value) (es : List (String × Value)) :
    writeEntries (e :: es) =
      '"' :: (writeKeyed e ++ es.flatMap fun f => ',' :: '"' :: writeKeyed f) := by
  induction es generalizing e with
  | nil => simp [writeEntries, writeEntry_eq]
  | cons f es ih => rw [writeEntries, ih, writeEntry_eq, List.flatMap_cons]; simp

/-- One entry is given back, and what stands behind it decides whether there are more. -/
lemma readEntries_succ {item : Reader Value} {e : String × Value} (hitem : GivesBack item e.2)
    (hs : Ends s) (n : Nat) :
    readEntries item (n + 1) (writeKeyed e ++ s) = (do
      let (more, s) ← readEntryEnd false s
      if more then
        let (es, s) ← readEntries item n s
        .ok (e :: es, s)
      else .ok ([e], s)) := by
  rw [readEntries, writeKeyed, List.append_assoc, List.cons_append, readString_write]
  show (do
    let (v, s) ← item (e.2.write ++ s)
    let (more, s) ← readEntryEnd false s
    if more then
      let (es, s) ← readEntries item n s
      .ok ((e.1, v) :: es, s)
    else .ok ([(e.1, v)], s)) = _
  rw [hitem s hs]
  rfl

/-- The entries of an object are given back if the value of each of them is. -/
lemma readEntries_write {item : Reader Value} {e : String × Value} {es : List (String × Value)}
    (hitem : ∀ f ∈ e :: es, GivesBack item f.2) (hn : es.length < n) (s : List Char) :
    readEntries item n
        (writeKeyed e ++ ((es.flatMap fun f => ',' :: '"' :: writeKeyed f) ++ '\x7d' :: s)) =
      .ok (e :: es, s) := by
  induction es generalizing e n with
  | nil =>
    obtain ⟨n, rfl⟩ := Nat.exists_eq_succ_of_ne_zero (Nat.ne_of_gt hn)
    have he := hitem e List.mem_cons_self
    rw [List.flatMap_nil, List.nil_append, readEntries_succ he (ends_cons (.inr (.inr rfl)) s)]
    rfl
  | cons f es ih =>
    obtain ⟨n, rfl⟩ := Nat.exists_eq_succ_of_ne_zero (Nat.ne_of_gt (Nat.zero_lt_of_lt hn))
    obtain ⟨he, hitem⟩ := List.forall_mem_cons.mp hitem
    rw [List.flatMap_cons, List.cons_append, List.cons_append, List.cons_append, List.cons_append,
      List.append_assoc, readEntries_succ he (ends_cons (.inl rfl) _)]
    show (do
      let (es, s) ← readEntries item n _
      .ok (e :: es, s)) = _
    rw [ih hitem (by simpa using hn)]
    rfl

/-! ### Values -/

lemma readValue_string (depth : Nat) (s : List Char) :
    readValue depth ('"' :: s) = (do
      let (t, s) ← readString s
      return (.string t, s)) := by
  cases depth <;> rfl

lemma readValue_number (hc : c.isDigit = true) (depth : Nat) (s : List Char) :
    readValue depth (c :: s) = (do
      let (n, s) ← readNumber false (c :: s)
      return (.number n, s)) := by
  have hskip : skipBlanks (c :: s) = c :: s := by
    rw [skipBlanks, List.dropWhile_cons_of_neg (by simp [isBlank_of_isDigit hc])]
  unfold readValue
  rw [hskip]
  split
  · rename_i heq
    cases heq
  iterate 7
    · rename_i heq
      exact absurd (List.cons.inj heq).1 (ne_of_isDigit hc (by decide))
  · rename_i heq
    obtain ⟨rfl, rfl⟩ := List.cons.inj heq
    rw [if_pos hc]

lemma readValue_array (h : StartsValue s) (depth : Nat) :
    readValue (depth + 1) ('[' :: s) = (do
      let (items, s) ← readItems (readValue depth) s.length s
      return (.array items, s)) := by
  have hbracket : skipBlanks ('[' :: s) = '[' :: s := rfl
  simp only [readValue, hbracket, h.skipBlanks_eq]
  obtain ⟨c, s, rfl, -, hc⟩ := h
  split
  · rename_i heq
    cases heq
  · rename_i heq
    exact absurd (List.cons.inj heq).1 hc
  · rfl

lemma readValue_object (depth : Nat) (s : List Char) :
    readValue (depth + 1) ('\x7b' :: '"' :: s) = (do
      let (es, s) ← readEntries (readValue depth) (s.length + 1) s
      return (.object es, s)) := rfl

lemma readValue_negative (depth : Nat) (s : List Char) :
    readValue depth ('-' :: s) = (do
      let (n, s) ← readNumber true s
      return (.number n, s)) := by
  cases depth <;> rfl

/-- A value that its text gives back: it has no floats in it, its whole numbers are the ones that
are kept as they are, and it nests at most as deep as the number says. -/
inductive Value.Lossless : Nat → Value → Prop where
  | null {depth : Nat} : Lossless depth .null
  | bool {depth : Nat} (b : Bool) : Lossless depth (.bool b)
  | unsigned {depth n : Nat} (h : n < UInt64.size) : Lossless depth (.number (.unsigned n))
  | negative {depth n : Nat} (hpos : 0 < n) (h : n ≤ signedBound) :
      Lossless depth (.number (.signed (-n)))
  | string {depth : Nat} (t : String) : Lossless depth (.string t)
  | array {depth : Nat} {items : List Value} (h : ∀ v ∈ items, Lossless depth v) :
      Lossless (depth + 1) (.array items)
  | object {depth : Nat} {entries : List (String × Value)} (h : ∀ e ∈ entries, Lossless depth e.2) :
      Lossless (depth + 1) (.object entries)

variable {depth : Nat} {v : Value}

lemma write_negative (hpos : 0 < n) :
    (Value.number (.signed (-n))).write = '-' :: Nat.toDigits 10 n := by
  have hneg : ¬ (0 : Int) ≤ -n := by omega
  simp only [Value.write, writeNumber, Int.toString_eq_repr, Int.repr_eq_if, if_neg hneg,
    Int.neg_neg, Int.toNat_natCast, String.toList_append, Nat.toList_repr]
  rfl

lemma startsValue_toDigits (n : Nat) : StartsValue (Nat.toDigits 10 n) := by
  obtain ⟨c, digits, hdigits, hc⟩ := exists_toDigits_eq_cons n
  exact ⟨c, digits, hdigits, isBlank_of_isDigit hc, ne_of_isDigit hc (by decide)⟩

lemma Value.Lossless.startsValue (h : v.Lossless depth) : StartsValue v.write := by
  cases h with
  | null => exact ⟨_, _, rfl, by decide⟩
  | bool b => cases b <;> exact ⟨_, _, rfl, by decide⟩
  | unsigned => exact startsValue_toDigits _
  | negative hpos => exact ⟨_, _, write_negative hpos, by decide⟩
  | string t => exact ⟨_, _, rfl, by decide⟩
  | array => exact ⟨_, _, rfl, by decide⟩
  | object => exact ⟨_, _, rfl, by decide⟩

/-- Every value without loss is read back from its text, whatever stands behind it. -/
theorem readValue_write (h : v.Lossless depth) : GivesBack (readValue depth) v := by
  induction h with
  | @null depth =>
    intro s _
    cases depth <;> rfl
  | @bool depth b =>
    intro s _
    cases b <;> cases depth <;> rfl
  | @unsigned depth n h =>
    intro s hs
    obtain ⟨c, digits, hdigits, hc⟩ := exists_toDigits_eq_cons n
    have hread := readNumber_toDigits false h hs
    show readValue depth (Nat.toDigits 10 n ++ s) = _
    rw [hdigits, List.cons_append] at hread ⊢
    rw [readValue_number hc, hread]
    rfl
  | @negative depth n hpos h =>
    intro s hs
    have hsize : n < UInt64.size := by
      have : signedBound < UInt64.size := by decide
      omega
    rw [write_negative hpos, List.cons_append, readValue_negative,
      readNumber_toDigits true hsize hs, if_neg (by decide), if_neg (by omega)]
    rfl
  | @string depth t =>
    intro s _
    show readValue depth ('"' :: (t.toList.flatMap writeChar ++ ['"']) ++ s) = _
    rw [List.cons_append, List.append_assoc, List.singleton_append, readValue_string,
      readString_write]
    rfl
  | @array depth items h ih =>
    intro s _
    cases items with
    | nil => rfl
    | cons v vs =>
      have htext : (Value.array (v :: vs)).write ++ s =
          '[' :: (v.write ++ ((vs.flatMap fun w => ',' :: w.write) ++ ']' :: s)) := by
        simp [Value.write, writeItems_cons]
      have hstarts : ∀ w ∈ v :: vs, StartsValue w.write := fun w hw => (h w hw).startsValue
      obtain ⟨hv, hvs⟩ := List.forall_mem_cons.mp hstarts
      have hlength := length_le_length_flatMap (fun w => List.cons_ne_nil ',' w.write) vs
      rw [htext, readValue_array (hv.append _), readItems_write ih hvs]
      · rfl
      · simp only [List.length_append, List.length_cons]
        omega
  | @object depth entries h ih =>
    intro s _
    cases entries with
    | nil => rfl
    | cons e es =>
      have htext : (Value.object (e :: es)).write ++ s =
          '\x7b' :: '"' :: (writeKeyed e ++
            ((es.flatMap fun f => ',' :: '"' :: writeKeyed f) ++ '\x7d' :: s)) := by
        simp [Value.write, writeEntries_cons]
      have hlength := length_le_length_flatMap
        (fun f => List.cons_ne_nil ',' ('"' :: writeKeyed f)) es
      rw [htext, readValue_object, readEntries_write ih]
      · rfl
      · simp only [List.length_append, List.length_cons]
        omega

/-- The text of a value without loss that nests no deeper than texts may is read as this value. -/
theorem read_render (h : v.Lossless deepest) : read v.render = .ok v := by
  have hread := readValue_write h [] ends_nil
  rw [List.append_nil] at hread
  simp [read, Value.render, hread, skipBlanks]

/-! ### Texts of one line -/

/-- A text without control characters, line ends among them. -/
def IsLine (s : List Char) : Prop := ∀ c ∈ s, 0x20 ≤ c.toNat

-- The characters of the text are looked at; there are too many characters to look at all of them.
instance (s : List Char) : Decidable (IsLine s) :=
  List.decidableBAll (fun c : Char => 0x20 ≤ c.toNat) s

@[simp] lemma isLine_nil : IsLine [] := List.forall_mem_nil _

@[simp] lemma isLine_cons : IsLine (c :: s) ↔ 0x20 ≤ c.toNat ∧ IsLine s := List.forall_mem_cons

@[simp] lemma isLine_append {t : List Char} : IsLine (s ++ t) ↔ IsLine s ∧ IsLine t :=
  List.forall_mem_append

lemma isLine_flatMap {α : Type} {f : α → List Char} {xs : List α} (h : ∀ x ∈ xs, IsLine (f x)) :
    IsLine (xs.flatMap f) := by
  intro c hc
  obtain ⟨x, hx, hc⟩ := List.mem_flatMap.mp hc
  exact h x hx c hc

lemma isLine_writeChar (c : Char) : IsLine (writeChar c) := by
  unfold writeChar
  split
  iterate 7 decide
  split_ifs with hcontrol
  · have hescapes : ∀ k < 0x20,
        IsLine ['\\', 'u', '0', '0', Nat.digitChar (k / 16), Nat.digitChar (k % 16)] := by decide
    exact hescapes c.toNat hcontrol
  · exact List.forall_mem_singleton.mpr (Nat.le_of_not_lt hcontrol)

lemma isLine_toDigits (n : Nat) : IsLine (Nat.toDigits 10 n) := by
  have hchars : ∀ d < 10, 0x20 ≤ (Nat.digitChar d).toNat := by decide
  intro c hc
  obtain ⟨d, hd⟩ := (writes_toDigits (by decide) (by decide) n).exists_isDigit hc
  exact hd.eq_digitChar ▸ hchars d hd.1

lemma isLine_writeKeyed {e : String × Value} (h : IsLine e.2.write) : IsLine (writeKeyed e) := by
  have hkey := isLine_flatMap fun c (_ : c ∈ e.1.toList) => isLine_writeChar c
  simp [writeKeyed, hkey, h]

lemma isLine_writeItems {items : List Value} (h : ∀ v ∈ items, IsLine v.write) :
    IsLine (writeItems items) := by
  cases items with
  | nil => exact isLine_nil
  | cons v vs =>
    obtain ⟨hv, hvs⟩ := List.forall_mem_cons.mp h
    rw [writeItems_cons, isLine_append]
    exact ⟨hv, isLine_flatMap fun w hw => isLine_cons.mpr ⟨by decide, hvs w hw⟩⟩

lemma isLine_writeEntries {entries : List (String × Value)} (h : ∀ e ∈ entries, IsLine e.2.write) :
    IsLine (writeEntries entries) := by
  cases entries with
  | nil => exact isLine_nil
  | cons e es =>
    obtain ⟨he, hes⟩ := List.forall_mem_cons.mp h
    have htail : ∀ f ∈ es, IsLine (',' :: '"' :: writeKeyed f) := fun f hf => by
      simp [isLine_writeKeyed (hes f hf)]
    rw [writeEntries_cons, isLine_cons, isLine_append]
    exact ⟨by decide, isLine_writeKeyed he, isLine_flatMap htail⟩

/-- The text of a value without loss is one line. -/
theorem Value.Lossless.isLine_write (h : v.Lossless depth) : IsLine v.write := by
  induction h with
  | null => decide
  | bool b => cases b <;> decide
  | unsigned => exact isLine_toDigits _
  | negative hpos =>
    rw [write_negative hpos]
    exact isLine_cons.mpr ⟨by decide, isLine_toDigits _⟩
  | string t =>
    have ht := isLine_flatMap fun c (_ : c ∈ t.toList) => isLine_writeChar c
    simp [Value.write, writeString, ht]
  | array h ih => simp [Value.write, isLine_writeItems ih]
  | object h ih => simp [Value.write, isLine_writeEntries ih]

end ClockStretch.Json
