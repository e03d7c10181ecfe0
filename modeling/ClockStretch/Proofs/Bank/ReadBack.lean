import ClockStretch.Proofs.Bank.Replay

/-!
# Timeouts read back from a bank

What a timeout that is set is found to be afterwards, and what is told of it, whatever bits of its
register a write leaves alone and whatever bits every read shows as one. Bit by bit, a forced bit is
one; another bit that writes leave alone is the one of the old word; and all the others are those of
the timeout.
-/

namespace ClockStretch

/-! ### Bits -/

/-- A bit that a read shows after a write. -/
lemma Cell.testBit_written_or_forced (c : Cell) (value : UInt32) {i : Nat} (hi : i < 32) :
    (c.written value ||| c.forced).toNat.testBit i =
      (c.forced.toNat.testBit i ||
        if c.readOnly.toNat.testBit i then c.word.toNat.testBit i else value.toNat.testBit i) := by
  have hbit (w : UInt32) : w.toNat.testBit i = w.toBitVec.getLsbD i := rfl
  simp only [hbit, Cell.written, UInt32.toBitVec_or, UInt32.toBitVec_and, UInt32.toBitVec_not,
    BitVec.getLsbD_or, BitVec.getLsbD_and, BitVec.getLsbD_not, hi]
  cases c.forced.toBitVec.getLsbD i <;> cases c.readOnly.toBitVec.getLsbD i <;> simp

/-- A register cannot be read again after a read that fails or that is its last. -/
lemma Cell.readsLeft_afterRead_eq_zero_iff {c : Cell} :
    c.afterRead.readsLeft = some 0 ↔ c.readsLeft = some 0 ∨ c.readsLeft = some 1 := by
  rw [afterRead]
  cases hleft : c.readsLeft with
  | none => simp
  | some n =>
    simp only [Option.map_some, Option.some.injEq]
    omega

namespace Controller

/-- Timeouts are equal if their bits are. -/
lemma cycles_eq_iff {x y : UInt16} :
    x = y ↔ ∀ i < 16, x.toNat.testBit i = y.toNat.testBit i := by
  refine ⟨fun h i _ => by rw [h], fun h => UInt16.toNat_inj.mp (Nat.eq_of_testBit_eq fun i => ?_)⟩
  by_cases hi : i < 16
  · exact h i hi
  · -- above the sixteen bits there are only zeros
    have hzero (z : UInt16) : z.toNat.testBit i = false :=
      Nat.testBit_lt_two_pow <|
        Nat.lt_of_lt_of_le z.toNat_lt (Nat.pow_le_pow_right (by decide) (by omega))
    rw [hzero, hzero]

lemma testBit_timeoutOf (word : UInt32) {i : Nat} (hi : i < 16) :
    (timeoutOf word).toNat.testBit i = word.toNat.testBit i := by
  rw [toNat_timeoutOf, show 0x10000 = 2 ^ 16 from rfl, Nat.testBit_mod_two_pow]
  simp [hi]

/-- A timeout found as requested is told with its value, another one with both and as a warning. -/
lemma readBack_tells (timeout : Timeout) (tout : UInt16) :
    if tout = timeout.cycles then
      (readBack timeout tout).level = .info ∧
      (readBack timeout tout).fields = [("tout", .number tout.toNat)]
    else
      (readBack timeout tout).level = .warn ∧
      (readBack timeout tout).fields =
        [("requested", .number timeout.cycles.toNat), ("read_back", .number tout.toNat)] := by
  unfold readBack
  split_ifs
  · exact ⟨rfl, rfl⟩
  · exact ⟨rfl, rfl⟩

end Controller

/-! ### Setting and reading -/

namespace Bank

open Controller

/-- A timeout is read back as it was requested if, and only if, its sixteen bits agree with the bits
that every read shows as one, and with the bits of the old word that the write left alone, where no
read shows a one in their place. -/
lemma timeoutOf_written_eq_iff (c : Cell) (timeout : Timeout) :
    timeoutOf (c.written timeout.cycles.toUInt32 ||| c.forced) = timeout.cycles ↔
      ∀ i < 16, (c.forced.toNat.testBit i = true → timeout.cycles.toNat.testBit i = true) ∧
        (c.forced.toNat.testBit i = false → c.readOnly.toNat.testBit i = true →
          c.word.toNat.testBit i = timeout.cycles.toNat.testBit i) := by
  refine cycles_eq_iff.trans (forall₂_congr fun i hi => ?_)
  rw [testBit_timeoutOf _ hi, Cell.testBit_written_or_forced c _ (by omega),
    UInt16.toNat_toUInt32]
  -- a bit may be shown as one or not, and kept or not: if both, what is kept is not seen
  cases c.forced.toNat.testBit i <;> cases c.readOnly.toNat.testBit i <;> simp

/-- Reading the timeout again changes nothing but a countdown, and shows the same timeout. -/
lemma result_clockStretchTimeout (filter : Log.Filter) {b : Bank}
    (hread : (b.cell .clockStretch).readsLeft ≠ some 0) :
    ((clockStretchTimeout block).run filter b).result =
      .ok (timeoutOf (b.cell .clockStretch).shown) :=
  congrArg Effect.result (run_clockStretchTimeout_of_ok (run_read_of_succeeds filter hread))

/-- What a timeout that is set is found to be, as long as its register can be written and read. The
word keeps the bits that writes leave alone and takes the others from the timeout. Its low sixteen
bits, with those that every read shows as one, are the timeout that is found and told: the requested
one with its value, and any other with both as a warning. The requested one is found if, and only
if, it has all bits that are shown as one, and has the bits of the old word where these are kept and
not shown as one anyway. The next read finds the same timeout again. -/
theorem set_timeout_tells_read_back (limit limit' : Log.Limit) (timeout : Timeout) (b : Bank)
    (hwrite : (b.cell .clockStretch).writesLeft ≠ some 0)
    (hread : (b.cell .clockStretch).readsLeft ≠ some 0) :
    let c := b.cell .clockStretch
    let word := (c.word &&& c.readOnly) ||| (timeout.cycles.toUInt32 &&& ~~~c.readOnly)
    let effect := (setClockStretchTimeout block timeout).run (.upTo limit) b
    (effect.state.cell .clockStretch).word = word ∧
    ∃ tout : UInt16,
      effect.result = .ok tout ∧ tout.toNat = (word ||| c.forced).toNat % 0x10000 ∧
      (∃ e : Log.Event, effect.events = (if limit.allows e.level then [e] else []) ∧
        if tout = timeout.cycles then
          e.level = .info ∧ e.fields = [("tout", .number tout.toNat)]
        else
          e.level = .warn ∧ e.fields =
            [("requested", .number timeout.cycles.toNat), ("read_back", .number tout.toNat)]) ∧
      (tout = timeout.cycles ↔
        ∀ i < 16, (c.forced.toNat.testBit i = true → timeout.cycles.toNat.testBit i = true) ∧
          (c.forced.toNat.testBit i = false → c.readOnly.toNat.testBit i = true →
            c.word.toNat.testBit i = timeout.cycles.toNat.testBit i)) ∧
      (c.readsLeft ≠ some 1 →
        ((clockStretchTimeout block).run (.upTo limit') effect.state).result = .ok tout) := by
  intro c word effect
  have hset := run_setClockStretchTimeout_of_succeeds (.upTo limit) timeout hwrite hread
  have hcell : effect.state.cell .clockStretch =
      (c.afterWrite timeout.cycles.toUInt32).afterRead := by
    rw [show effect.state = _ from congrArg Effect.state hset, after_cons, cell_after_read_self,
      cell_after_write_self]
  refine ⟨?_, timeoutOf (word ||| c.forced), congrArg Effect.result hset, toNat_timeoutOf _,
    ⟨readBack timeout _, congrArg Effect.events hset, readBack_tells timeout _⟩,
    timeoutOf_written_eq_iff c timeout, fun hagain => ?_⟩
  · rw [hcell]
    exact Cell.word_afterWrite hwrite _
  · have hleft : (effect.state.cell .clockStretch).readsLeft ≠ some 0 := by
      rw [hcell, ne_eq, Cell.readsLeft_afterRead_eq_zero_iff, Cell.readsLeft_afterWrite]
      exact not_or.mpr ⟨hread, hagain⟩
    rw [result_clockStretchTimeout _ hleft, hcell, Cell.shown_afterRead,
      Cell.shown_afterWrite hwrite]
    rfl

/-- A register that keeps its upper four bits and shows its lowest one as one: another timeout is
read back than the one requested, and is read again. -/
theorem set_timeout_tells_read_back_of_kept_bits :
    let b : Bank := ⟨fun _ => ⟨0xa000, 0xf000, 0x1, some 2, some 1⟩, []⟩
    let timeout : Timeout := ⟨0x1234, by decide⟩
    let effect := (setClockStretchTimeout block timeout).run (.upTo (some .warn)) b
    (b.cell .clockStretch).writesLeft ≠ some 0 ∧ (b.cell .clockStretch).readsLeft ≠ some 0 ∧
    (effect.state.cell .clockStretch).word = 0xa234 ∧ effect.result = .ok 0xa235 ∧
    (∃ e : Log.Event, effect.events = [e] ∧ e.level = .warn ∧
      e.fields = [("requested", .number 0x1234), ("read_back", .number 0xa235)]) ∧
    ((clockStretchTimeout block).run (.upTo none) effect.state).result = .ok 0xa235 := by
  intro b timeout effect
  have hwrite : (b.cell .clockStretch).writesLeft ≠ some 0 := by decide
  have hread : (b.cell .clockStretch).readsLeft ≠ some 0 := by decide
  obtain ⟨hword, tout, hresult, htout, ⟨e, hevents, htells⟩, -, hagain⟩ :=
    set_timeout_tells_read_back (some .warn) none timeout b hwrite hread
  obtain rfl : tout = 0xa235 := UInt16.toNat_inj.mp (htout.trans (by decide))
  rw [if_neg (by decide)] at htells
  rw [htells.1, if_pos (by decide)] at hevents
  exact ⟨hwrite, hread, hword.trans (by decide), hresult, ⟨e, hevents, htells⟩,
    hagain (by decide)⟩

/-- A bit that writes leave alone need not agree with the timeout: where every read shows it as one,
a requested one is found although the word has a zero there. -/
theorem set_timeout_finds_forced_over_kept :
    let c : Cell := ⟨0, 1, 1, none, none⟩
    let b : Bank := ⟨fun r => if r = .clockStretch then c else .plain 0, []⟩
    let timeout : Timeout := ⟨1, by decide⟩
    let effect := (setClockStretchTimeout block timeout).run (.upTo (some .info)) b
    ¬ (effect.result = .ok timeout.cycles ↔
      ∀ i < 16, (c.readOnly.toNat.testBit i = true →
          c.word.toNat.testBit i = timeout.cycles.toNat.testBit i) ∧
        (c.forced.toNat.testBit i = true → timeout.cycles.toNat.testBit i = true)) := by
  intro c b timeout effect h
  have hset := run_setClockStretchTimeout_of_succeeds (.upTo (some .info)) timeout (b := b)
    (by decide) (by decide)
  have hfound : timeoutOf (c.written timeout.cycles.toUInt32 ||| c.forced) = timeout.cycles := by
    decide
  have hresult : effect.result = .ok timeout.cycles :=
    (congrArg Effect.result hset).trans (congrArg Except.ok hfound)
  exact absurd ((h.mp hresult 0 (by decide)).1 (by decide)) (by decide)

end Bank

end ClockStretch
