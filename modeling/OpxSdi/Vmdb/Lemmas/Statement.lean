import OpxSdi.Vmdb.BinField

/-!
# The statement buffer while a blob is printed into it
-/

namespace OpxSdi.Vmdb

open Lib Buffer

/-! ## The two clauses -/

theorem zero_notMem_decimal (n : Nat) : 0 ∉ decimal n := fun h => by cases isdigit_of_mem_decimal h

theorem zero_notMem_condText (rHdl : Handle) : 0 ∉ condText rHdl := by
  have hwords : 0 ∉ bytesOf ResourceColumn.resourceHandle.name ++ bytesOf "=" := by decide
  rw [condText, List.mem_append, not_or]
  exact ⟨hwords, zero_notMem_decimal _⟩

theorem zero_notMem_updateText (w : BinWrite) : 0 ∉ w.updateText := by
  have hwords : 0 ∉ bytesOf "UPDATE " ∧ 0 ∉ bytesOf " SET " ∧ 0 ∉ bytesOf " = x'" := by decide
  simp only [BinWrite.updateText, List.mem_append, not_or]
  exact ⟨⟨⟨⟨hwords.1, w.table.nul_free⟩, hwords.2.1⟩, w.field.nul_free⟩, hwords.2.2⟩

theorem length_condText (rHdl : Handle) : 16 < (condText rHdl).length ∧ (condText rHdl).length ≤ 26 := by
  have hpos := List.length_pos_iff.mpr (decimal_ne_nil (uint rHdl).toNat)
  have hle : (decimal (uint rHdl).toNat).length ≤ 10 := length_decimal_le (by decide) (by omega)
  have hwords : (bytesOf ResourceColumn.resourceHandle.name ++ bytesOf "=").length = 16 := by decide
  rw [condText, List.length_append, hwords]
  omega

theorem length_whereText (rHdl : Handle) : (whereText rHdl).length = 8 + (condText rHdl).length := by
  rw [whereText, List.length_append]
  rfl

theorem printed_eq {text : List Byte} (h : text.length ≤ intMax) :
    printed text = BitVec.ofNat 32 text.length := if_pos h

theorem whereCondition_eq (rHdl : Handle) :
    ∃ condition, whereCondition rHdl = .ok (condition, printed (whereText rHdl)) ∧
      condition.Holds (whereText rHdl) := by
  have hcond := length_condText rHdl
  have hwhere := length_whereText rHdl
  have hword : (bytesOf "' WHERE ").take (sqlDefaultBufferLength - 1) = bytesOf "' WHERE " := by decide
  have hpos : (printed (bytesOf "' WHERE ")).toNat = (bytesOf "' WHERE ").length := by decide
  have hsum : printed (condText rHdl) + printed (bytesOf "' WHERE ") = printed (whereText rHdl) := by
    have h8 : printed (bytesOf "' WHERE ") = BitVec.ofNat 32 8 := by decide
    have hc : (condText rHdl).length ≤ intMax := by rw [intMax]; omega
    have hw : (whereText rHdl).length ≤ intMax := by rw [intMax]; omega
    rw [printed_eq hc, printed_eq hw, h8, hwhere, BitVec.ofNat_add, BitVec.add_comm]
  obtain ⟨buf, hbuf, hlen, hholds⟩ :=
    snprintf_fresh (show 0 < sqlDefaultBufferLength by decide) (show 0 ∉ bytesOf "' WHERE " by decide)
  rw [hword] at hholds
  have hsize : (condText rHdl).length < sqlDefaultBufferLength := by
    rw [sqlDefaultBufferLength]
    omega
  have hfit : (bytesOf "' WHERE ").length + (condText rHdl).length < buf.length := by
    rw [hlen, sqlDefaultBufferLength]
    change 8 + _ < 128
    omega
  obtain ⟨condition, hprint, -, hstr⟩ :=
    snprintf_whole hholds.prefix_map hholds.nul_free (zero_notMem_condText rHdl) hsize hfit
  refine ⟨condition, ?_, hstr⟩
  rw [whereCondition, hbuf]
  change (dbCondResourceHandle buf (printed (bytesOf "' WHERE ")).toNat rHdl >>= fun r =>
    Except.ok (r.1, r.2 + printed (bytesOf "' WHERE "))) = _
  rw [dbCondResourceHandle, hpos, hprint, ← hsum]
  rfl

theorem updateText_eq (w : BinWrite) :
    ∃ stmt, (indeterminate sqlDefaultBufferLength).snprintf 0 sqlDefaultBufferLength w.updateText =
        .ok (stmt, printed w.updateText) ∧
      stmt.length = sqlDefaultBufferLength ∧ stmt.Holds (w.updateText.take (sqlDefaultBufferLength - 1)) :=
  snprintf_fresh (by decide) (zero_notMem_updateText w)

/-! ## The loop over the blob -/

/-- The buffer holds what it can of the text, whose length the loop counts. -/
structure At (text : List Byte) (s : Buffer × BitVec 32) : Prop where
  size : s.1.length = sqlDefaultBufferLength
  holds : s.1.Holds (text.take (sqlDefaultBufferLength - 1))
  count : s.2.toNat = text.length

variable {text : List Byte} {s s' : Buffer × BitVec 32}

theorem At.room (h : At text s) (hle : text.length ≤ sqlDefaultBufferLength) :
    (BitVec.ofNat 64 sqlDefaultBufferLength - s.2.setWidth 64).toNat = sqlDefaultBufferLength - text.length := by
  have hcount := h.count
  rw [sqlDefaultBufferLength] at hle ⊢
  rw [BitVec.toNat_sub, BitVec.toNat_setWidth, BitVec.toNat_ofNat]
  omega

theorem At.count_add (h : At text s) (hle : text.length ≤ sqlDefaultBufferLength) (b : Byte) :
    (s.2 + printed (hexByte b)).toNat = (text ++ hexByte b).length := by
  have hcount := h.count
  have htwo : printed (hexByte b) = 2#32 := rfl
  rw [sqlDefaultBufferLength] at hle
  rw [htwo, BitVec.toNat_add, List.length_append, length_hexByte, hcount]
  change (text.length + 2) % 2 ^ 32 = text.length + 2
  omega

/-- While the count does not leave the buffer, an iteration prints what still fits. -/
theorem At.printByte (h : At text s) (hle : text.length ≤ sqlDefaultBufferLength) (b : Byte) :
    ∃ s', printByte s b = .ok s' ∧ At (text ++ hexByte b) s' := by
  have hroom := h.room hle
  by_cases hlt : text.length < sqlDefaultBufferLength
  · have htake : text.take (sqlDefaultBufferLength - 1) = text := List.take_of_length_le (by omega)
    have hholds := h.holds
    rw [htake] at hholds
    have hfit : text.length + ((hexByte b).take (sqlDefaultBufferLength - text.length - 1)).length < s.1.length := by
      rw [h.size, List.length_take]
      omega
    obtain ⟨buf, hprint, hlen, hstr⟩ :=
      snprintf_ok hholds.prefix_map hholds.nul_free (zero_notMem_hexByte b) (Nat.sub_pos_of_lt hlt) hfit
    refine ⟨(buf, s.2 + printed (hexByte b)), ?_, hlen.trans h.size, ?_, h.count_add hle b⟩
    · rw [Vmdb.printByte, hroom, h.count, hprint]
      rfl
    · rw [List.take_append, htake, Nat.sub_right_comm]
      exact hstr
  · have hfull : text.length = sqlDefaultBufferLength := Nat.le_antisymm hle (Nat.not_lt.mp hlt)
    refine ⟨(s.1, s.2 + printed (hexByte b)), ?_, h.size, ?_, h.count_add hle b⟩
    · rw [Vmdb.printByte, hroom, hfull, Nat.sub_self, snprintf_zero]
      rfl
    · rw [List.take_append_of_le_length (by omega)]
      exact h.holds

/-- Past the buffer the room is computed as a huge number, and the digits are stored outside. -/
theorem printByte_fault (hsize : s.1.length = sqlDefaultBufferLength) (hlt : sqlDefaultBufferLength < s.2.toNat)
    (b : Byte) : ∃ f, printByte s b = .error f := by
  have hs := s.2.isLt
  have hroom : 3 ≤ (BitVec.ofNat 64 sqlDefaultBufferLength - s.2.setWidth 64).toNat := by
    rw [sqlDefaultBufferLength] at hlt ⊢
    rw [BitVec.toNat_sub, BitVec.toNat_setWidth, BitVec.toNat_ofNat]
    omega
  have hout : s.1.length ≤ s.2.toNat + ((hexByte b).take
      ((BitVec.ofNat 64 sqlDefaultBufferLength - s.2.setWidth 64).toNat - 1)).length := by
    rw [hsize]
    omega
  obtain ⟨f, hf⟩ := snprintf_fault (Nat.lt_of_lt_of_le (by decide) hroom) hout
  exact ⟨f, by rw [printByte, hf]; rfl⟩

theorem At.run (h : At text s) {bs : List Byte} (hfit : text.length + 2 * bs.length ≤ sqlDefaultBufferLength) :
    ∃ s', bs.foldlM Vmdb.printByte s = .ok s' ∧ At (text ++ hexText bs) s' := by
  induction bs generalizing text s with
  | nil => exact ⟨s, rfl, by rwa [hexText_nil, List.append_nil]⟩
  | cons b bs ih =>
      rw [List.length_cons] at hfit
      obtain ⟨s₁, hstep, hat⟩ := h.printByte (by omega) b
      obtain ⟨s', hrun, hat'⟩ := ih hat (by rw [List.length_append, length_hexByte]; omega)
      refine ⟨s', ?_, ?_⟩
      · rw [List.foldlM_cons, hstep]
        exact hrun
      · rwa [hexText_cons, ← List.append_assoc]

/-- Wherever the loop returns, the buffer holds what it can of the clause and the digits. -/
theorem At.run_ok (h : At text s) {bs : List Byte} (hrun : bs.foldlM Vmdb.printByte s = .ok s') :
    At (text ++ hexText bs) s' := by
  induction bs generalizing text s with
  | nil =>
      obtain rfl := Except.ok.inj hrun
      rwa [hexText_nil, List.append_nil]
  | cons b bs ih =>
      rw [List.foldlM_cons] at hrun
      by_cases hle : text.length ≤ sqlDefaultBufferLength
      · obtain ⟨s₁, hstep, hat⟩ := h.printByte hle b
        rw [hstep] at hrun
        rw [hexText_cons, ← List.append_assoc]
        exact ih hat hrun
      · obtain ⟨f, hf⟩ := printByte_fault h.size (by rw [h.count]; omega) b
        rw [hf] at hrun
        cases hrun

end OpxSdi.Vmdb
