import ClockStretch.Proofs.Json.RoundTrip
import ClockStretch.Proofs.Request.Spelling

/-!
# Reports read back

What the two lines that report an outcome tell of it. The JSON line is read back to the outcome as a
whole; the line in words leaves out where the controller is, and tells the rest.
-/

namespace ClockStretch.Outcome

variable {o p : Outcome}

/-! ### The line in JSON -/

lemma toJson_lossless (o : Outcome) : o.toJson.Lossless Json.deepest := by
  have htout : o.tout.toNat < UInt64.size := Nat.lt_trans o.tout.toNat_lt (by decide)
  refine .object fun e he => ?_
  simp only [List.mem_cons, List.not_mem_nil, or_false] at he
  rcases he with rfl | rfl | rfl | rfl
  · exact .string _
  · exact .string _
  · exact .string _
  · exact .unsigned htout

lemma newline_not_mem_render_json (o : Outcome) : '\n' ∉ (o.render true).toList := by
  intro h
  have hline := o.toJson_lossless.isLine_write
  rw [show (o.render true).toList = o.toJson.write from String.toList_ofList] at h
  exact absurd (hline '\n' h) (by decide)

lemma read_render_json (o : Outcome) :
    Json.read (o.render true) = .ok (.object [("status", .string "ok"),
      ("base_address", .string o.base.display), ("register", .string o.register.name),
      ("tout", .number (.unsigned o.tout.toNat))]) := by
  rw [← o.register.tag_eq_name]
  exact Json.read_render o.toJson_lossless

/-- The object that is read back tells all of the outcome. -/
lemma render_json_inj (h : o.render true = p.render true) : o = p := by
  have hread := o.read_render_json
  rw [h, p.read_render_json] at hread
  simp only [Except.ok.injEq, Json.Value.object.injEq, List.cons.injEq, Prod.mk.injEq,
    Json.Value.string.injEq, Json.Value.number.injEq, Json.Number.unsigned.injEq, true_and,
    and_true] at hread
  obtain ⟨haddress, hname, htout⟩ := hread
  obtain ⟨base, register, tout⟩ := o
  obtain ⟨base', register', tout'⟩ := p
  rw [mk.injEq]
  exact ⟨BaseAddress.display_injective haddress.symm, Register.name_injective hname.symm,
    UInt16.toNat_inj.mp htout.symm⟩

/-! ### The line in words -/

lemma toList_render_plain (o : Outcome) :
    (o.render false).toList = "OK ".toList ++
      (o.register.name.toList ++ '.' :: ("TOUT = ".toList ++ Nat.toDigits 10 o.tout.toNat)) := by
  rw [render_eq_line]
  simp [line]

lemma point_not_mem_name (r : Register) : '.' ∉ r.name.toList := by
  cases r <;> decide

lemma point_not_mem_timeout (n : Nat) : '.' ∉ "TOUT = ".toList ++ Nat.toDigits 10 n := by
  have hmark : '.' ∉ "TOUT = ".toList := by decide
  intro h
  rcases List.mem_append.mp h with h | h
  · exact hmark h
  · exact absurd (Json.isDigit_of_mem_toDigits h) (by decide)

lemma render_plain_inj (h : o.render false = p.render false) :
    o.register = p.register ∧ o.tout = p.tout := by
  have hlists := congrArg String.toList h
  -- the only point of a line stands behind the name of the register
  rw [toList_render_plain, toList_render_plain, List.append_cancel_left_eq,
    List.append_cons_inj_of_notMem (point_not_mem_name _) (point_not_mem_timeout _),
    List.append_cancel_left_eq] at hlists
  obtain ⟨hname, -, hdigits⟩ := hlists
  exact ⟨Register.name_injective (String.toList_inj.mp hname),
    UInt16.toNat_inj.mp (Text.toDigits_inj (by decide) (by decide) hdigits)⟩

/-- The JSON line of any outcome is one line. It is read as an object with just four keys in their
order, from which the outcome comes back: the address from its text, the name of the register, and
the timeout as the same number. So no two outcomes have the same JSON line, and outcomes with the
same line in words agree on the register and the timeout. -/
theorem report_loses_nothing (o : Outcome) :
    '\n' ∉ (o.render true).toList ∧
    (∃ address, Json.read (o.render true) = .ok (.object [("status", .string "ok"),
        ("base_address", .string address), ("register", .string o.register.name),
        ("tout", .number (.unsigned o.tout.toNat))]) ∧
      BaseAddress.parse address = .ok o.base) ∧
    (∀ p : Outcome, p.render true = o.render true → p = o) ∧
    ∀ p : Outcome, p.render false = o.render false → p.register = o.register ∧ p.tout = o.tout :=
  ⟨o.newline_not_mem_render_json,
    ⟨o.base.display, o.read_render_json, BaseAddress.parse_display o.base⟩,
    fun _ => render_json_inj, fun _ => render_plain_inj⟩

/-- Two controllers whose lines in words are the same, and whose JSON lines are not. -/
theorem report_loses_nothing_of_two_controllers :
    let o : Outcome := ⟨⟨0x20804000, by decide⟩, .clockStretch, 100⟩
    let p : Outcome := ⟨⟨0xfe804000, by decide⟩, .clockStretch, 100⟩
    p.render false = o.render false ∧ p.register = o.register ∧ p.tout = o.tout ∧
      p.render true ≠ o.render true := by
  intro o p
  obtain ⟨-, -, hjson, hplain⟩ := report_loses_nothing o
  have hsame : p.render false = o.render false := by simp [render, toPlain, o, p]
  have hbase : p.base ≠ o.base := by decide
  obtain ⟨hregister, htout⟩ := hplain p hsame
  exact ⟨hsame, hregister, htout, fun h => hbase (congrArg base (hjson p h))⟩

end ClockStretch.Outcome
