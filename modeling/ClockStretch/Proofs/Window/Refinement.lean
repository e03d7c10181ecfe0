import ClockStretch.Proofs.Bank.Access
import ClockStretch.Proofs.Controller.Operations
import ClockStretch.Proofs.Window.Access

/-!
# Windows as banks of registers

A window of the size of a block of registers behaves like a bank that starts with the words of the
file. Any operations of the controller give the same answers through both, and after each of them
the words of the file are the words of the bank, while all other bytes are as they were when the
window was opened.
-/

namespace ClockStretch.Window

open Comparison Controller

/-- A bank has as its words the words of a file from a position on. Outside of these words nothing
is different from what it was in earlier files. -/
structure Mirrors (l : Location) (base : Nat) (fs₀ fs : FileSystem) (bank : Bank) : Prop where
  elsewhere : ∀ k, k ≠ l → fs.node? k = fs₀.node? k
  contents : ∃ c₀ c, fs₀.contents? l = some c₀ ∧ fs.contents? l = some c ∧ c.size = c₀.size ∧
    (∀ r, bank.cell r = .plain (c.loadWord (base + 4 * r.index))) ∧
    ∀ q, q < base ∨ base + 32 ≤ q → c.byteAt q = c₀.byteAt q

variable {l : Location} {base : Nat} {fs₀ fs : FileSystem} {bank : Bank} {c : Contents}

lemma mirrors_ofWords (hc : fs.contents? l = some c) (base : Nat) :
    Mirrors l base fs fs (Bank.ofWords fun r => c.loadWord (base + 4 * r.index)) where
  elsewhere _ _ := rfl
  contents := ⟨c, c, hc, hc, rfl, fun _ => rfl, fun _ _ => rfl⟩

/-- Two registers have no byte in common. -/
lemma disjoint_of_ne {q r : Register} (h : q ≠ r) :
    4 * q.index + 4 ≤ 4 * r.index ∨ 4 * r.index + 4 ≤ 4 * q.index := by
  have hne : q.offset ≠ r.offset := fun heq => h (Register.offset_injective heq)
  unfold Register.offset at hne
  omega

/-- A word stored in the file and written to the bank. -/
lemma Mirrors.store (h : Mirrors l base fs₀ fs bank) (hc : fs.contents? l = some c) (r : Register)
    (value : UInt32) :
    Mirrors l base fs₀ (fs.setContents l (c.storeWord (base + 4 * r.index) value))
      ((bank.record (.write r value)).setCell r (.plain value)) where
  elsewhere k hk := by rw [fs.node?_setContents_of_ne _ hk, h.elsewhere k hk]
  contents := by
    obtain ⟨c₀, c', hc₀, hc', hsize, hcell, hbytes⟩ := h.contents
    cases hc.symm.trans hc'
    refine ⟨c₀, _, hc₀, fs.contents?_setContents_self hc, ?_, fun q => ?_, fun q hq => ?_⟩
    · rw [Contents.size_storeWord, hsize]
    · by_cases hqr : q = r
      · subst hqr
        rw [Bank.setCell_cell_self, Contents.loadWord_storeWord]
      · have := disjoint_of_ne hqr
        rw [Bank.setCell_cell_of_ne _ hqr, Contents.loadWord_storeWord_of_disjoint _ _ (by omega)]
        exact hcell q
    · have hr : 4 * r.index + 4 ≤ 32 := r.offset_add_four_le
      rw [c.byteAt_storeWord_of_outside value (by omega), hbytes q hq]

/-! ### Accesses -/

variable {w : Window} {filter : Log.Filter}

lemma agree_read (hlength : w.length = UInt64.ofNat Register.blockSize) (r : Register) :
    (besideWindow (Mirrors w.file w.base.toNat fs₀) filter).Agree (w.block.read r)
      (Bank.block.read r) := by
  intro fs bank h
  obtain ⟨c₀, c, -, hc, -, hcell, -⟩ := h.contents
  have hfile := run_readWord filter (accepts_register hlength r) hc
  have hbank := Bank.run_read_of_plain filter (hcell r)
  rw [toNat_offset] at hfile
  simp only [besideWindow, block, Bank.block, hfile, hbank]
  refine ⟨rfl, ⟨h.elsewhere, h.contents⟩, ?_⟩
  split_ifs <;> rfl

lemma agree_write (hlength : w.length = UInt64.ofNat Register.blockSize) (r : Register)
    (value : UInt32) :
    (besideWindow (Mirrors w.file w.base.toNat fs₀) filter).Agree (w.block.write r value)
      (Bank.block.write r value) := by
  intro fs bank h
  obtain ⟨c₀, c, -, hc, -, hcell, -⟩ := h.contents
  have hfile := run_writeWord filter (accepts_register hlength r) hc value
  have hbank := Bank.run_write_of_plain filter (hcell r) value
  rw [toNat_offset] at hfile
  simp only [besideWindow, block, Bank.block, hfile, hbank]
  refine ⟨rfl, h.store hc r value, ?_⟩
  split_ifs <;> rfl

/-- A window that was opened and a bank with the words of its file give the same answers to any
operations in a row, whatever is told meanwhile, and tell the same but for the accesses of the
window. After each operation the words of the file are those of the bank, and nothing else has
changed since the window was opened. -/
theorem openBlock_refines_bank {device : Path} {base : BaseAddress} {fs fs' : FileSystem}
    {told : List Log.Event}
    (hopen : (openBlock device base).run filter fs = ⟨.ok w, fs', told⟩)
    (steps : List (Log.Filter × Operation)) :
    fs' = fs ∧ fs.openForWriting device = .ok w.file ∧
      ∃ c, fs.contents? w.file = some c ∧
        List.Forall₂ (fun e d => e.result = d.result ∧
            Mirrors w.file base.value.toNat fs e.state d.state ∧
            (e.events.filter fun event => event.target ≠ .window) = d.events)
          (effects w.block steps fs')
          (effects Bank.block steps
            (Bank.ofWords fun r => c.loadWord (base.value.toNat + 4 * r.index))) := by
  have hfs : fs' = fs :=
    (congrArg Effect.state hopen).symm.trans (state_openAt filter fs device _ _)
  subst hfs
  obtain ⟨l, c, rfl, hdevice, hc⟩ := of_openAt_eq_ok (congrArg Effect.result hopen)
  refine ⟨rfl, hdevice, c, hc, forall₂_effects (fun filter => ?_) steps (mirrors_ofWords hc _)⟩
  exact ⟨fun r => agree_read rfl r, fun r value => agree_write rfl r value⟩

/-- A base address inside of a page. -/
theorem openBlock_refines_bank_inside_page :
    let fs : FileSystem := ⟨[([[0x64]], .regular (.zeros 4096))], []⟩
    let base : BaseAddress := ⟨0x804, by decide⟩
    let w : Window := ⟨[[0x64]], 0x804, 32⟩
    let steps : List (Log.Filter × Operation) :=
      [(.upTo (some .trace), .write .control 0x8000), (.upTo none, .snapshot),
        (.upTo (some .debug), .apply ⟨35, by decide⟩)]
    (openBlock ⟨[0x2f, 0x64]⟩ base).run (.upTo none) fs = ⟨.ok w, fs, []⟩ ∧
      ∃ c, fs.contents? w.file = some c ∧
        List.Forall₂ (fun e d => e.result = d.result ∧
            Mirrors w.file base.value.toNat fs e.state d.state ∧
            (e.events.filter fun event => event.target ≠ .window) = d.events)
          (effects w.block steps fs)
          (effects Bank.block steps
            (Bank.ofWords fun r => c.loadWord (base.value.toNat + 4 * r.index))) := by
  intro fs base w steps
  have hargs : refusal? 0x804 (UInt64.ofNat Register.blockSize) = none := by decide
  have hdevice : fs.openForWriting ⟨[0x2f, 0x64]⟩ = .ok [[0x64]] := rfl
  have hmap : mapRefusal? ((fs.node? [[0x64]]).getD .directory) (pageBase 0x804)
      (mappingLength 0x804 (UInt64.ofNat Register.blockSize)) = none := by decide
  have hopen : (openBlock ⟨[0x2f, 0x64]⟩ base).run (.upTo none) fs = ⟨.ok w, fs, []⟩ := by
    simp only [openBlock, run_openAt, base, hargs, hdevice, hmap, Log.Filter.passes_upTo]
    rfl
  exact ⟨hopen, (openBlock_refines_bank hopen steps).2.2⟩

end ClockStretch.Window
