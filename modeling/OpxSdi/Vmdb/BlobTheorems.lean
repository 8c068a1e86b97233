import OpxSdi.Vmdb.Lemmas.Statement

/-!
# Blobs are written whole, refused, or written past the buffer

The check of the length adds the lengths of the clauses to the size of the buffer instead of subtracting them.
-/

namespace OpxSdi.Vmdb

open Lib Buffer

namespace BinWrite

variable {w : BinWrite}

theorem length_blob (w : BinWrite) : w.blob.length = w.len.toNat := by
  rw [blob, List.length_map, List.length_range]

theorem length_whereText_bounds (w : BinWrite) :
    25 ≤ (whereText w.resHandle).length ∧ (whereText w.resHandle).length ≤ 34 := by
  have hcond := length_condText w.resHandle
  rw [length_whereText]
  omega

/-- Both clauses are printed, and the blob is only looked at when the check lets it pass. -/
theorem dbBinFieldSet_eq (w : BinWrite) :
    ∃ condition stmt, condition.Holds (whereText w.resHandle) ∧ stmt.length = sqlDefaultBufferLength ∧
      stmt.Holds (w.updateText.take (sqlDefaultBufferLength - 1)) ∧
      (w.Refused → dbBinFieldSet w = .ok (.error (.errcode .einval))) ∧
      (¬ w.Refused → dbBinFieldSet w = do
        let s ← w.blob.foldlM printByte (stmt, printed w.updateText)
        let sqlStmt ← s.1.strcat condition
        return .ok sqlStmt) := by
  obtain ⟨condition, hwhere, hcondition⟩ := whereCondition_eq w.resHandle
  obtain ⟨stmt, hupdate, hlen, hstmt⟩ := updateText_eq w
  refine ⟨condition, stmt, hcondition, hlen, hstmt, fun h => ?_, fun h => ?_⟩
  · rw [dbBinFieldSet, hwhere]
    simp only [Checked.bind_ok, hupdate]
    exact if_pos h
  · rw [dbBinFieldSet, hwhere]
    simp only [Checked.bind_ok, hupdate]
    exact if_neg h

theorem not_refused_of_fits (h : w.Fits) : ¬ w.Refused := by
  have hwhere := length_whereText_bounds w
  have hlen := w.len.isLt
  rw [Fits, sqlDefaultBufferLength] at h
  rw [Refused, printed_eq (by rw [intMax]; omega), printed_eq (by rw [intMax]; omega), BitVec.le_def,
    BitVec.toNat_ushiftRight, Nat.shiftRight_one, BitVec.toNat_add, BitVec.toNat_add, BitVec.toNat_ofNat,
    BitVec.toNat_ofNat, BitVec.toNat_ofNat, sqlDefaultBufferLength]
  omega

theorem stated_of_fits (h : w.Fits) : ∃ sqlStmt, dbBinFieldSet w = .ok (.ok sqlStmt) ∧ w.Stated sqlStmt := by
  obtain ⟨condition, stmt, hcondition, hlen, hstmt, -, hprinted⟩ := dbBinFieldSet_eq w
  have hblob := length_blob w
  have hfits := h
  rw [Fits, sqlDefaultBufferLength] at hfits
  have hat : At w.updateText (stmt, printed w.updateText) := by
    refine ⟨hlen, hstmt, ?_⟩
    rw [printed_eq (by rw [intMax]; omega), BitVec.toNat_ofNat]
    omega
  obtain ⟨s, hrun, hs⟩ := hat.run (show w.updateText.length + 2 * w.blob.length ≤ sqlDefaultBufferLength by
    rw [sqlDefaultBufferLength]
    omega)
  have hs' := hs.holds
  rw [List.take_of_length_le (by rw [List.length_append, length_hexText, sqlDefaultBufferLength]; omega)] at hs'
  obtain ⟨sqlStmt, hcat, hsize, hholds⟩ := strcat_ok hs' hcondition (by
    rw [hs.size, List.length_append, length_hexText, sqlDefaultBufferLength]
    omega)
  refine ⟨sqlStmt, ?_, hsize.trans hs.size, hexText w.blob, hholds.string_eq, ?_, decodeHex_hexText w.blob⟩
  · rw [hprinted (not_refused_of_fits h), hrun, Checked.bind_ok, hcat, Checked.bind_ok]
    rfl
  · rw [length_hexText, hblob]

/-- A clause of names that no `int` can count is cut off, and counted as -1. -/
theorem run_of_long {stmt : Buffer} {s : Buffer × BitVec 32} (hlong : intMax < w.updateText.length)
    (hlen : stmt.length = sqlDefaultBufferLength)
    (hrun : w.blob.foldlM printByte (stmt, printed w.updateText) = .ok s) : s.1 = stmt := by
  cases hblob : w.blob with
  | nil =>
      rw [hblob] at hrun
      rw [← Except.ok.inj hrun]
  | cons b bs =>
      have hcount : sqlDefaultBufferLength < (printed w.updateText).toNat := by
        rw [printed, if_neg (Nat.not_le.mpr hlong)]
        decide
      obtain ⟨f, hf⟩ := printByte_fault (s := (stmt, printed w.updateText)) hlen hcount b
      rw [hblob, List.foldlM_cons, hf] at hrun
      cases hrun

/-- After the loop the buffer holds what it can of the clause and the digits. -/
theorem holds_run {stmt : Buffer} (hlen : stmt.length = sqlDefaultBufferLength)
    (hstmt : stmt.Holds (w.updateText.take (sqlDefaultBufferLength - 1))) {s : Buffer × BitVec 32}
    (hrun : w.blob.foldlM printByte (stmt, printed w.updateText) = .ok s) :
    s.1.length = sqlDefaultBufferLength ∧
      ∃ d, s.1.Holds d ∧ d.length = min (sqlDefaultBufferLength - 1) (w.updateText.length + 2 * w.len.toNat) := by
  by_cases hlong : intMax < w.updateText.length
  · have heq := run_of_long hlong hlen hrun
    refine ⟨heq ▸ hlen, _, heq ▸ hstmt, ?_⟩
    rw [List.length_take]
    rw [intMax] at hlong
    rw [sqlDefaultBufferLength]
    omega
  · have hat : At w.updateText (stmt, printed w.updateText) := by
      refine ⟨hlen, hstmt, ?_⟩
      rw [printed_eq (Nat.not_lt.mp hlong), BitVec.toNat_ofNat]
      rw [intMax] at hlong
      omega
    have hs := hat.run_ok hrun
    refine ⟨hs.size, _, hs.holds, ?_⟩
    rw [List.length_take, List.length_append, length_hexText, length_blob]

/-- What is neither refused nor fits is written past the buffer, at the latest with the `WHERE` clause. -/
theorem fault_of_not_fits (hfits : ¬ w.Fits) (hrefused : ¬ w.Refused) : ∃ f, dbBinFieldSet w = .error f := by
  obtain ⟨condition, stmt, hcondition, hlen, hstmt, -, hprinted⟩ := dbBinFieldSet_eq w
  rw [hprinted hrefused]
  cases hrun : w.blob.foldlM printByte (stmt, printed w.updateText) with
  | error f => exact ⟨f, rfl⟩
  | ok s =>
      have hwhere := length_whereText_bounds w
      obtain ⟨hsize, d, hd, hdlen⟩ := holds_run hlen hstmt hrun
      have hout : s.1.length ≤ d.length + (whereText w.resHandle).length := by
        rw [Fits, sqlDefaultBufferLength] at hfits
        rw [hsize, hdlen, sqlDefaultBufferLength]
        omega
      obtain ⟨f, hf⟩ := strcat_fault hd hcondition hout
      exact ⟨f, by rw [Checked.bind_ok, hf]; rfl⟩

theorem meets_iff (w : BinWrite) : w.Meets ↔ w.Fits ∨ w.Refused := by
  by_cases hfits : w.Fits
  · exact iff_of_true (Or.inr (stated_of_fits hfits)) (Or.inl hfits)
  · by_cases hrefused : w.Refused
    · obtain ⟨_, _, -, -, -, heinval, -⟩ := dbBinFieldSet_eq w
      exact iff_of_true (Or.inl ⟨heinval hrefused, hfits⟩) (Or.inr hrefused)
    · obtain ⟨f, hf⟩ := fault_of_not_fits hfits hrefused
      refine iff_of_false ?_ (not_or.mpr ⟨hfits, hrefused⟩)
      rintro (⟨heq, -⟩ | ⟨sqlStmt, heq, -⟩)
      · rw [hf] at heq
        cases heq
      · rw [hf] at heq
        cases heq

/-- A blob of 60 bytes for the MAC address of an entity. -/
def baseMac : BinWrite where
  resHandle := 7
  table := ⟨bytesOf "Entity_Info", by decide⟩
  field := ⟨bytesOf "Base_MAC", by decide⟩
  value _ := 0
  len := 60

theorem not_meets_baseMac :
    (∃ f, dbBinFieldSet baseMac = .error f) ∧ ¬ baseMac.Meets := by
  have hfits : ¬ baseMac.Fits := by
    rw [Fits]
    decide
  have hrefused : ¬ baseMac.Refused := by
    rw [Refused]
    decide
  obtain ⟨f, hf⟩ := fault_of_not_fits hfits hrefused
  refine ⟨⟨f, hf⟩, ?_⟩
  rintro (⟨heq, -⟩ | ⟨sqlStmt, heq, -⟩)
  · rw [hf] at heq
    cases heq
  · rw [hf] at heq
    cases heq

end BinWrite

end OpxSdi.Vmdb
