import ClockStretch.Register
import Mathlib.Tactic.Lemma

/-!
# The layout of the registers

Every register has its word to itself inside the block, and a name of its own. The tag that stands
for a register in data is the name that it has in the datasheet.
-/

namespace ClockStretch.Register

lemma mem_all (r : Register) : r ∈ all := by cases r <;> decide

/-! ### Offsets -/

lemma offset_add_four_le (r : Register) : r.offset + 4 ≤ blockSize := by cases r <;> decide

lemma offset_mod_four (r : Register) : r.offset % 4 = 0 := by cases r <;> decide

lemma offset_injective {r s : Register} (h : r.offset = s.offset) : r = s := by
  revert h; cases r <;> cases s <;> decide

/-! ### Names -/

@[simp] lemma ofName?_name (r : Register) : ofName? r.name = some r := by cases r <;> decide

lemma name_injective {r s : Register} (h : r.name = s.name) : r = s := by
  rw [← Option.some.injEq, ← ofName?_name r, ← ofName?_name s, h]

lemma tag_eq_name (r : Register) : r.tag = r.name := by cases r <;> decide +kernel

end ClockStretch.Register
