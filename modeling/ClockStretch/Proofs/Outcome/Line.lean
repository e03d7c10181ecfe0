import ClockStretch.Outcome
import ClockStretch.Proofs.Register.Layout
import Mathlib.Data.List.Basic

/-!
# Lines of outcomes

The two lines that report an outcome, letter by letter. No character of an address or of a register
name is written in any other way inside a JSON string, so both lines show the same name and the same
decimal numeral.
-/

namespace ClockStretch

namespace Text

/-- The characters of a hexadecimal number are digits of values below sixteen. -/
lemma exists_digit_of_mem_toDigits {c : Char} {n : Nat} (h : c ∈ Nat.toDigits 16 n) :
    ∃ d < 16, c = Nat.digitChar d := by
  induction n using Nat.strongRecOn with
  | ind n ih =>
    rw [Nat.toDigits_eq_if (by decide)] at h
    split at h
    · rename_i hn
      exact ⟨n, hn, List.mem_singleton.mp h⟩
    · rcases List.mem_append.mp h with h | h
      · exact ih (n / 16) (by omega) h
      · exact ⟨n % 16, Nat.mod_lt _ (by decide), List.mem_singleton.mp h⟩

end Text

namespace Json

/-- A text of characters that stand for themselves in a string. -/
def Plain (s : String) : Prop := ∀ c ∈ s.toList, writeChar c = [c]

-- The characters of the text are looked at; there are too many characters to look at all of them.
instance (s : String) : Decidable (Plain s) :=
  List.decidableBAll (fun c => writeChar c = [c]) s.toList

lemma Plain.writeString_eq {s : String} (h : Plain s) :
    writeString s = '"' :: s.toList ++ ['"'] := by
  rw [writeString, List.flatMap_congr h, List.flatMap_singleton']

lemma plain_hex (count n : Nat) : Plain (Text.hex count n) := by
  have hmark : Plain "0x" := by decide
  have hdigit : ∀ d < 16, writeChar (Nat.digitChar d) = [Nat.digitChar d] := by decide
  intro c hc
  simp only [Text.hex, Text.hexDigits, String.toList_append, String.toList_ofList,
    List.mem_append] at hc
  rcases hc with hc | hc | hc
  · exact hmark c hc
  · rw [(List.mem_replicate.mp hc).2]
    rfl
  · obtain ⟨d, hd, rfl⟩ := Text.exists_digit_of_mem_toDigits hc
    exact hdigit d hd

lemma plain_name (r : Register) : Plain r.name := by
  cases r <;> decide

end Json

namespace Outcome

/-- The line for an address, a register name and a timeout: a JSON object, or words. -/
def line (address name : String) (tout : Nat) (json : Bool) : String :=
  if json then
    "\x7b\"status\":\"ok\",\"base_address\":\"" ++ address ++ "\",\"register\":\"" ++ name ++
      "\",\"tout\":" ++ toString tout ++ "\x7d"
  else "OK " ++ name ++ ".TOUT = " ++ toString tout

/-- Both forms of a report have the name of the register and the timeout in them. -/
theorem render_eq_line (o : Outcome) (json : Bool) :
    o.render json = line o.base.display o.register.name o.tout.toNat json := by
  cases json with
  | false =>
    simp only [render, line, Bool.false_eq_true, if_false]
    rfl
  | true =>
    have hstatus : Json.Plain "status" := by decide
    have hok : Json.Plain "ok" := by decide
    have haddress : Json.Plain "base_address" := by decide
    have hregister : Json.Plain "register" := by decide
    have htout : Json.Plain "tout" := by decide
    have hdisplay : Json.Plain o.base.display := Json.plain_hex 8 _
    apply String.toList_inj.mp
    simp only [render, line, if_true, toJson, o.register.tag_eq_name, Json.Value.render,
      String.toList_ofList,
      Json.Value.write, Json.writeEntries, Json.writeEntry, Json.writeNumber,
      hstatus.writeString_eq, hok.writeString_eq, haddress.writeString_eq,
      hregister.writeString_eq, htout.writeString_eq, hdisplay.writeString_eq,
      (Json.plain_name o.register).writeString_eq, String.toList_append,
      Nat.toString_eq_ofList_toDigits]
    simp

end Outcome

end ClockStretch
