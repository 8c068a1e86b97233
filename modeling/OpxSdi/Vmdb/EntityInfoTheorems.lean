import OpxSdi.Vmdb.EntityInfo
import OpxSdi.Vmdb.Lemmas.Query

/-! # Which rows the entity info of the VM copies -/

namespace OpxSdi.Vmdb

open Lib

variable {outputLen : Nat} (afterNul : Byte → Byte) (row : InfoRow)

/-! ## What the reads write -/

namespace InfoRow

def write (outputLen : Nat) : Column → Option FieldWrite
  | .str .hwRev => none
  | .str c => some ⟨c.field, attributeBytes outputLen (row.str c)⟩
  | .int c => some ⟨c.field, intBytes (low (row.int c).toInt)⟩

def writes (outputLen : Nat) (columns : List Column) : List FieldWrite := columns.filterMap (row.write outputLen)

/-- The code of the first read that fails -/
def failure : List Column → TStdError
  | [] => .ok
  | c :: cs => if row.result c = .ok then failure cs else row.result c

end InfoRow

theorem dbStrtol_int64 (v : BitVec 64) : dbStrtol (decimalInt v.toInt) = .ok (low v.toInt) :=
  dbStrtol_decimalInt (by have h := @BitVec.le_toInt 64 v; rw [longMin]; exact h) (by
    have h := @BitVec.toInt_lt 64 v
    rw [longMax]
    omega)

theorem length_attributeBytes (value : Name) :
    (attributeBytes outputLen value).length = min value.bytes.length (outputLen - 1) + 1 := by
  rw [attributeBytes, List.length_append, List.length_take, List.length_singleton, Nat.min_comm]

theorem readColumn_eq (houtput : 0 < outputLen) (column : Column) (vars : InfoVars outputLen)
    (hok : row.result column = .ok) : ∃ buf, readColumn row column vars =
      FieldWrite.run vars.info (row.write outputLen column).toList >>= fun info => .ok (.ok, ⟨info, buf⟩) := by
  rw [readColumn.eq_def, if_pos hok]
  cases column with
  | int c =>
      refine ⟨vars.hwRevBuffer, ?_⟩
      simp only [dbStrtol_int64, InfoRow.write, Option.toList, FieldWrite.run, bind_assoc, Checked.bind_ok]
  | str c =>
      cases c with
      | hwRev =>
          have hlen : 0 + (attributeBytes outputLen (row.str .hwRev)).length ≤ outputLen := by
            rw [length_attributeBytes]
            omega
          obtain ⟨buf, hbuf, -⟩ := stores_ok vars.hwRevBuffer 0 hlen
          exact ⟨buf, by simp only [hbuf]; rfl⟩
      | _ =>
          refine ⟨vars.hwRevBuffer, ?_⟩
          simp only [InfoRow.write, Option.toList, FieldWrite.run, bind_assoc, Checked.bind_ok]

theorem InfoRow.writes_cons (c : Column) (cs : List Column) :
    row.writes outputLen (c :: cs) = (row.write outputLen c).toList ++ row.writes outputLen cs := by
  rw [writes, List.filterMap_cons]
  cases row.write outputLen c <;> rfl

theorem readColumns_eq (houtput : 0 < outputLen) (columns : List Column) (vars : InfoVars outputLen) :
    ∃ buf, readColumns row columns vars =
      FieldWrite.run vars.info (row.writes outputLen (columns.takeWhile fun c => row.result c = .ok)) >>=
        fun info => .ok (row.failure columns, ⟨info, buf⟩) := by
  induction columns generalizing vars with
  | nil => exact ⟨vars.hwRevBuffer, rfl⟩
  | cons c cs ih =>
      by_cases hok : row.result c = .ok
      · obtain ⟨buf, hread⟩ := readColumn_eq row houtput c vars hok
        have htake : (c :: cs).takeWhile (fun c => decide (row.result c = .ok)) =
            c :: cs.takeWhile fun c => decide (row.result c = .ok) := List.takeWhile_cons_of_pos (decide_eq_true hok)
        simp only [readColumns, hread, htake, ↓reduceIte, InfoRow.failure, hok, InfoRow.writes_cons,
          FieldWrite.run_append, bind_assoc, Checked.bind_ok]
        cases FieldWrite.run vars.info (row.write outputLen c).toList with
        | error e => exact ⟨buf, rfl⟩
        | ok info => exact ih ⟨info, buf⟩
      · refine ⟨vars.hwRevBuffer, ?_⟩
        rw [readColumns, readColumn.eq_def, if_neg hok, List.takeWhile_cons_of_neg (by simpa using hok),
          InfoRow.failure, if_neg hok]
        exact if_neg hok

theorem InfoRow.failure_eq_ok_iff (columns : List Column) :
    row.failure columns = .ok ↔ ∀ c ∈ columns, row.result c = .ok := by
  induction columns with
  | nil => exact iff_of_true rfl (List.forall_mem_nil _)
  | cons c cs ih =>
      rw [failure, List.forall_mem_cons]
      split
      · rw [ih]
        exact (and_iff_right ‹_›).symm
      · exact iff_of_false ‹_› fun h => ‹¬_› h.1

theorem mem_infoColumns (c : Column) : c ∈ infoColumns := by
  cases c with
  | str c => cases c <;> decide
  | int c => cases c <;> decide

theorem entityInfoGet_eq (houtput : hwRevLen ≤ outputLen) (vars : InfoVars outputLen) :
    ∃ tail : EntityInfoBytes → EntityInfoBytes, (row.failure infoColumns = .ok → ∀ info, tail info = info) ∧
      entityInfoGet afterNul row vars = FieldWrite.run vars.info (row.writes outputLen row.columnsRead) >>=
        fun info => .ok (row.failure infoColumns, tail info) := by
  obtain ⟨buf, hread⟩ := readColumns_eq row (Nat.lt_of_lt_of_le (by decide) houtput) infoColumns vars
  simp only [entityInfoGet, hread, bind_assoc, Checked.bind_ok]
  by_cases hok : row.failure infoColumns = .ok
  · refine ⟨id, fun _ _ => rfl, ?_⟩
    simp only [hok, ↓reduceIte]
    rfl
  · have hreadable : Readable ⟨buf.toList, 0⟩ (hwRevLen - 1) := .inr (by
      rw [List.drop_zero, Vector.length_toList]
      exact Nat.le_trans (Nat.sub_le ..) houtput)
    have hcopy : ∀ info : EntityInfoBytes, ∃ info', safestrncpy afterNul info StrColumn.hwRev.field.off
        ⟨buf.toList, 0⟩ hwRevLen = .ok info' := fun info =>
      (returns_safestrncpy_iff afterNul info _ _ (by decide) (by decide)).mpr hreadable
    choose tail htail using hcopy
    refine ⟨tail, fun h => absurd h hok, ?_⟩
    simp only [hok, ↓reduceIte, htail, Checked.bind_ok]
    rfl

/-! ## The base MAC -/

theorem BaseMacSource.length_mac {source : BaseMacSource} {isInit : Bool} {mac : List Byte}
    (h : source.mac isInit = some mac) : mac.length ≤ macAddrLen := by
  unfold BaseMacSource.mac at h
  split at h
  · cases h
  · split at h
    · rw [← Option.some.inj h, scanned, List.length_map, List.length_range]
    · cases h
  · split at h
    · rw [← Option.some.inj h, List.length_take]
      exact Nat.min_le_left ..
    · cases h

theorem BaseMacSource.read_eq (source : BaseMacSource) (isInit : Bool) (info : EntityInfoBytes) :
    ∃ rc info' isInit', source.read isInit info = .ok (rc, info', isInit') ∧
      (source.mac isInit = none → rc ≠ .ok) ∧
      ∀ mac, source.mac isInit = some mac → rc = .ok ∧ stores info baseMacField.off mac = .ok info' := by
  have hstores : ∀ bs : List Byte, bs.length ≤ macAddrLen → ∃ info', stores info baseMacField.off bs = .ok info' :=
    fun bs hbs => (returns_stores_iff ..).mpr (.inr (by
      have : baseMacField.off + macAddrLen ≤ entityInfoSize := by decide
      omega))
  unfold read mac
  split
  · exact ⟨_, _, _, rfl, fun _ => nofun, nofun⟩
  · rename_i line _
    obtain ⟨info', hinfo'⟩ := hstores (source.scanned line) (by rw [scanned, List.length_map, List.length_range])
    refine ⟨_, _, _, by rw [hinfo']; rfl, ?_⟩
    split
    · exact ⟨nofun, fun mac hmac => ⟨‹_›, by rw [← Option.some.inj hmac, hinfo']⟩⟩
    · exact ⟨fun _ => ‹_›, nofun⟩
  · split
    · obtain ⟨info', hinfo'⟩ := hstores (source.blob.take macAddrLen) (by
        rw [List.length_take]
        exact Nat.min_le_left ..)
      exact ⟨_, _, _, by rw [hinfo']; rfl, nofun, fun mac hmac => ⟨rfl, by rw [← Option.some.inj hmac, hinfo']⟩⟩
    · exact ⟨_, _, _, rfl, fun _ => ‹_›, nofun⟩

/-! ## What the members hold -/

section

variable {row : InfoRow} {mac : List Byte}

/-- What a call that reads everything writes -/
def allWrites (outputLen : Nat) (row : InfoRow) (mac : List Byte) : List FieldWrite :=
  row.writes outputLen infoColumns ++ [⟨baseMacField, mac⟩]

theorem mem_allWrites {w : FieldWrite} : w ∈ allWrites outputLen row mac ↔
    (∃ c : StrColumn, c ≠ .hwRev ∧ w = ⟨c.field, attributeBytes outputLen (row.str c)⟩) ∨
      (∃ c : IntColumn, w = ⟨c.field, intBytes (low (row.int c).toInt)⟩) ∨ w = ⟨baseMacField, mac⟩ := by
  rw [allWrites, List.mem_append, List.mem_singleton, InfoRow.writes, List.mem_filterMap, ← or_assoc]
  refine or_congr_left ⟨?_, ?_⟩
  · rintro ⟨c, -, hw⟩
    cases c with
    | int c => exact .inr ⟨c, (Option.some.inj hw).symm⟩
    | str c =>
        cases c with
        | hwRev => cases hw
        | _ => exact .inl ⟨_, by decide, (Option.some.inj hw).symm⟩
  · rintro (⟨c, hc, rfl⟩ | ⟨c, rfl⟩)
    · refine ⟨.str c, mem_infoColumns _, ?_⟩
      cases c with
      | hwRev => exact absurd rfl hc
      | _ => rfl
    · exact ⟨.int c, mem_infoColumns _, rfl⟩

theorem fields_allWrites : (allWrites outputLen row mac).map (·.toField) =
    [StrColumn.product.field, StrColumn.ppid.field, StrColumn.platform.field, StrColumn.vendor.field,
      StrColumn.serviceTag.field, IntColumn.numMacs.field, IntColumn.numFans.field, IntColumn.fanMaxSpeed.field,
      IntColumn.fanAirflow.field, IntColumn.powerRating.field, IntColumn.powerType.field, baseMacField] := rfl

theorem disjoint_allWrites : (allWrites outputLen row mac).Pairwise fun w w' =>
    w.toField.Before w'.toField ∨ w'.toField.Before w.toField := by
  have hfields : ((allWrites outputLen row mac).map (·.toField)).Pairwise fun f g => f.Before g ∨ g.Before f := by
    rw [fields_allWrites]
    decide
  exact List.pairwise_map.mp hfields

/-- No write is to a member that was written before it. -/
theorem spares_allWrites (hmac : mac.length ≤ macAddrLen) :
    (allWrites outputLen row mac).Pairwise fun w w' => w'.Spares w.toField := by
  have hfields : ((row.writes outputLen infoColumns).map (·.toField)).Pairwise Field.Before := by
    change [StrColumn.product.field, StrColumn.ppid.field, StrColumn.platform.field, StrColumn.vendor.field,
      StrColumn.serviceTag.field, IntColumn.numMacs.field, IntColumn.numFans.field, IntColumn.fanMaxSpeed.field,
      IntColumn.fanAirflow.field, IntColumn.powerRating.field, IntColumn.powerType.field].Pairwise _
    decide
  have hdisjoint := @disjoint_allWrites outputLen row mac
  rw [allWrites, List.pairwise_append] at hdisjoint ⊢
  refine ⟨(List.pairwise_map.mp hfields).imp fun h => .inl h, List.pairwise_singleton .., fun w hw w' hw' => ?_⟩
  have hfits : w'.Fits := by
    rw [List.mem_singleton.mp hw']
    exact hmac
  exact hfits.spares (hdisjoint.2.2 w hw w' hw')

theorem zero_allWrites {w : FieldWrite} (hw : w ∈ allWrites outputLen row mac) :
    w.Holds [] (Vector.replicate entityInfoSize (0 : Byte)) := by
  have hfields : ∀ f ∈ (allWrites outputLen row mac).map (·.toField), f.off + f.size ≤ entityInfoSize := by
    rw [fields_allWrites]
    decide
  exact Field.holds_replicate (hfields _ (List.mem_map_of_mem hw))

theorem size_pos (c : StrColumn) : 0 < c.field.size := by cases c <;> decide

theorem fits_allWrites (hmac : mac.length ≤ macAddrLen) (hstr : ∀ c : StrColumn, c ≠ .hwRev →
      min (row.str c).bytes.length (outputLen - 1) = min (row.str c).bytes.length (c.field.size - 1)) :
    ∀ w ∈ allWrites outputLen row mac, w.Fits := by
  intro w hw
  rcases mem_allWrites.mp hw with ⟨c, hc, rfl⟩ | ⟨c, rfl⟩ | rfl
  · have hsize := size_pos c
    rw [FieldWrite.Fits, length_attributeBytes, hstr c hc]
    change _ ≤ c.field.size
    omega
  · cases c <;> exact Nat.le_refl 4
  · exact hmac

/-- Members that no column is read into -/
theorem spares_of_fits {f : Field} (hmac : mac.length ≤ macAddrLen) (hstr : ∀ c : StrColumn, c ≠ .hwRev →
      min (row.str c).bytes.length (outputLen - 1) = min (row.str c).bytes.length (c.field.size - 1))
    (hf : ∀ g ∈ (allWrites outputLen row mac).map (·.toField), f.Before g ∨ g.Before f) :
    ∀ w ∈ allWrites outputLen row mac, w.Spares f := fun w hw =>
  (fits_allWrites hmac hstr w hw).spares (hf _ (List.mem_map_of_mem hw))

/-- The member for the hardware revision stays clear. -/
theorem holds_hwRev (hmac : mac.length ≤ macAddrLen) {info : EntityInfoBytes}
    (h : FieldWrite.run (Vector.replicate entityInfoSize 0) (allWrites outputLen row mac) = .ok info)
    (hstr : ∀ c : StrColumn, c ≠ .hwRev →
      min (row.str c).bytes.length (outputLen - 1) = min (row.str c).bytes.length (c.field.size - 1)) :
    StrColumn.hwRev.field.Holds [] info := by
  refine FieldWrite.Spares.holds_run (spares_of_fits hmac hstr ?_) h (Field.holds_replicate (by decide))
  rw [fields_allWrites]
  decide

theorem fits_of_copied (hmac : mac.length ≤ macAddrLen) {info : EntityInfoBytes}
    (h : FieldWrite.run (Vector.replicate entityInfoSize 0) (allWrites outputLen row mac) = .ok info)
    (hcopied : row.Copied mac info) : row.Fits outputLen := by
  have hstr : ∀ c : StrColumn, c ≠ .hwRev →
      min (row.str c).bytes.length (outputLen - 1) = min (row.str c).bytes.length (c.field.size - 1) := by
    intro c hc
    refine min_length_eq (row.str c).nul_free (size_pos c) fun i hi hlt => ?_
    have hget := FieldWrite.getD_eq_of_holds h (spares_allWrites hmac) (mem_allWrites.mpr (.inl ⟨c, hc, rfl⟩))
      (hcopied.str c) hi (by rwa [length_attributeBytes])
    rwa [attributeBytes, getD_append_zero] at hget
  refine ⟨hstr, fun c => ?_, ?_⟩
  · obtain ⟨w, -, hw⟩ := hcopied.int c
    rw [← hw]
    exact ⟨w.le_toInt, w.toInt_lt⟩
  · -- The first byte of the member is zero, and no text begins with one.
    have hzero := (hcopied.str .hwRev).unique (holds_hwRev hmac h hstr) (by decide : 0 < _)
    have hnul := (row.str .hwRev).nul_free
    cases hbytes : (row.str .hwRev).bytes with
    | nil => rfl
    | cons b bs =>
        rw [hbytes] at hzero hnul
        exact absurd (List.mem_cons.mpr (.inl hzero.symm)) hnul

theorem copied_of_fits (hmac : mac.length ≤ macAddrLen) {info : EntityInfoBytes}
    (h : FieldWrite.run (Vector.replicate entityInfoSize 0) (allWrites outputLen row mac) = .ok info)
    (hfits : row.Fits outputLen) : row.Copied mac info := by
  have hholds := fun {w} (hw : w ∈ allWrites outputLen row mac) => FieldWrite.holds_of_fits h disjoint_allWrites
    (fits_allWrites hmac hfits.str) (fun w hw => zero_allWrites hw) hw
  refine ⟨fun c => ?_, fun c => ⟨low (row.int c).toInt, hholds (mem_allWrites.mpr (.inr (.inl ⟨c, rfl⟩))), ?_⟩,
    hholds (mem_allWrites.mpr (.inr (.inr rfl))), ?_⟩
  · by_cases hc : c = .hwRev
    · subst hc
      rw [hfits.hwRev]
      exact holds_hwRev hmac h hfits.str
    · refine (hholds (mem_allWrites.mpr (.inl ⟨c, hc, rfl⟩))).congr fun i _ => ?_
      rw [attributeBytes, getD_append_zero, List.take_eq_take_iff.mpr]
      rw [Nat.min_comm, hfits.str c hc, Nat.min_comm]
  · obtain ⟨hmin, hmax⟩ := hfits.int c
    rw [low, BitVec.toInt_ofInt]
    exact Int.bmod_eq_of_le (by omega) (by omega)
  · refine FieldWrite.Spares.holds_run (spares_of_fits hmac hfits.str ?_) h (Field.holds_replicate (by decide))
    rw [fields_allWrites]
    decide

theorem copied_iff (hmac : mac.length ≤ macAddrLen) {info : EntityInfoBytes}
    (h : FieldWrite.run (Vector.replicate entityInfoSize 0) (allWrites outputLen row mac) = .ok info) :
    row.Copied mac info ↔ row.Fits outputLen :=
  ⟨fits_of_copied hmac h, copied_of_fits hmac h⟩

end

/-! ## The call -/

theorem returns_run_writes_iff (dst : EntityInfoBytes) :
    Returns (FieldWrite.run dst (row.writes outputLen row.columnsRead)) ↔ row.InObject outputLen := by
  rw [FieldWrite.returns_run_iff]
  constructor
  · intro h c hc hread
    have hmem : (⟨c.field, attributeBytes outputLen (row.str c)⟩ : FieldWrite) ∈
        row.writes outputLen row.columnsRead := by
      refine List.mem_filterMap.mpr ⟨.str c, hread, ?_⟩
      cases c with
      | hwRev => exact absurd rfl hc
      | _ => rfl
    have hle := (h _ hmem).resolve_left (List.append_ne_nil_of_right_ne_nil _ (List.cons_ne_nil _ _))
    rw [length_attributeBytes] at hle
    exact hle
  · intro h w hw
    obtain ⟨c, hread, hw⟩ := List.mem_filterMap.mp hw
    cases c with
    | int c =>
        have hint : c.field.off + 4 ≤ entityInfoSize := by cases c <;> decide
        rw [← Option.some.inj hw]
        exact .inr hint
    | str c =>
        cases c with
        | hwRev => cases hw
        | _ =>
            rw [← Option.some.inj hw]
            refine .inr ?_
            rw [length_attributeBytes]
            exact h _ (by decide) hread

theorem InfoRow.failure_infoColumns : row.failure infoColumns = .ok ↔ ∀ c, row.result c = .ok := by
  rw [failure_eq_ok_iff]
  exact ⟨fun h c => h c (mem_infoColumns c), fun h c _ => h c⟩

/-- The call is a run of the writes, and the base MAC behind it. -/
theorem entityInfoRead_eq (houtput : hwRevLen ≤ outputLen) (source : BaseMacSource) (isInit : Bool)
    (hwRevBuffer : Vector Byte outputLen) : ∃ tail : EntityInfoBytes → EntityInfoBytes,
      entityInfoRead afterNul row source isInit hwRevBuffer =
        FieldWrite.run (Vector.replicate entityInfoSize 0) (row.writes outputLen row.columnsRead) >>= fun info =>
          if row.failure infoColumns = .ok then source.read isInit info
          else .ok (row.failure infoColumns, tail info, isInit) := by
  obtain ⟨tail, htail, hget⟩ := entityInfoGet_eq afterNul row houtput ⟨.replicate _ 0, hwRevBuffer⟩
  refine ⟨tail, ?_⟩
  simp only [entityInfoRead, hget, bind_assoc, Checked.bind_ok]
  refine congrArg _ (funext fun info => ?_)
  split
  · rw [htail ‹_›]
  · rfl

variable {row} {source : BaseMacSource} {isInit : Bool} {hwRevBuffer : Vector Byte outputLen}

theorem run_allWrites {info info' : EntityInfoBytes} {mac : List Byte} (hok : ∀ c, row.result c = .ok)
    (hrun : FieldWrite.run (Vector.replicate entityInfoSize 0) (row.writes outputLen row.columnsRead) = .ok info)
    (hstores : stores info baseMacField.off mac = .ok info') :
    FieldWrite.run (Vector.replicate entityInfoSize 0) (allWrites outputLen row mac) = .ok info' := by
  have hall : row.columnsRead = infoColumns := List.takeWhile_eq_self_iff.mpr fun c _ => decide_eq_true (hok c)
  rw [hall] at hrun
  rw [allWrites, FieldWrite.run_append, hrun, Checked.bind_ok, FieldWrite.run, hstores]
  rfl

theorem CopiesRow.fits (houtput : hwRevLen ≤ outputLen) (h : CopiesRow afterNul row source isInit hwRevBuffer) :
    row.InObject outputLen ∧
      ((∀ c, row.result c = .ok) → source.mac isInit ≠ none → row.Fits outputLen) := by
  obtain ⟨tail, hread⟩ := entityInfoRead_eq afterNul row houtput source isInit hwRevBuffer
  obtain ⟨rc, info', isInit', h, hcopied, -⟩ := h
  rw [hread] at h
  obtain ⟨info, hrun, h⟩ := bind_eq_ok h
  refine ⟨(returns_run_writes_iff row _).mp ⟨info, hrun⟩, fun hok hmac => ?_⟩
  obtain ⟨mac, hmac⟩ := Option.ne_none_iff_exists'.mp hmac
  rw [if_pos (row.failure_infoColumns.mpr hok)] at h
  obtain ⟨rc₁, info₁, isInit₁, hsource, -, hsome⟩ := source.read_eq isInit info
  obtain ⟨hrc, hstores⟩ := hsome mac hmac
  rw [hsource] at h
  cases h
  obtain ⟨mac', hmac', hcopied⟩ := hcopied hrc
  rw [hmac, Option.some.injEq] at hmac'
  subst hmac'
  exact (copied_iff (source.length_mac hmac) (run_allWrites hok hrun hstores)).mp hcopied

theorem CopiesRow.of_fits (houtput : hwRevLen ≤ outputLen) (hobject : row.InObject outputLen)
    (hfits : (∀ c, row.result c = .ok) → source.mac isInit ≠ none → row.Fits outputLen) :
    CopiesRow afterNul row source isInit hwRevBuffer := by
  obtain ⟨tail, hread⟩ := entityInfoRead_eq afterNul row houtput source isInit hwRevBuffer
  obtain ⟨info, hrun⟩ := (returns_run_writes_iff row (.replicate entityInfoSize 0)).mpr hobject
  rw [CopiesRow, hread, hrun, Checked.bind_ok]
  by_cases hok : ∀ c, row.result c = .ok
  · rw [if_pos (row.failure_infoColumns.mpr hok)]
    obtain ⟨rc, info', isInit', hsource, hnone, hsome⟩ := source.read_eq isInit info
    refine ⟨rc, info', isInit', hsource, fun hrc => ?_, ?_⟩
    · cases hmac : source.mac isInit with
      | none => exact absurd hrc (hnone hmac)
      | some mac =>
          obtain ⟨-, hstores⟩ := hsome mac hmac
          have hcopied := hfits hok (by rw [hmac]; exact Option.some_ne_none mac)
          exact ⟨mac, rfl, (copied_iff (source.length_mac hmac) (run_allWrites hok hrun hstores)).mpr hcopied⟩
    · rintro (⟨c, hc⟩ | hmac)
      · exact absurd (hok c) hc
      · exact hnone hmac
  · have hne := mt row.failure_infoColumns.mp hok
    rw [if_neg hne]
    exact ⟨_, _, _, rfl, fun h => absurd h hne, fun _ => hne⟩

/-- The call copies the row iff every text that is read ends in the structure and, where the call succeeds, every
text ends in its member, there is no hardware revision and every integer is an `int`. -/
theorem copiesRow_iff (houtput : hwRevLen ≤ outputLen) (afterNul : Byte → Byte) (row : InfoRow)
    (source : BaseMacSource) (isInit : Bool) (hwRevBuffer : Vector Byte outputLen) :
    CopiesRow afterNul row source isInit hwRevBuffer ↔ row.InObject outputLen ∧
      ((∀ c, row.result c = .ok) → source.mac isInit ≠ none → row.Fits outputLen) :=
  ⟨fun h => h.fits afterNul houtput, fun h => .of_fits afterNul houtput h.1 h.2⟩

/-- A row of a fan tray, all of whose columns can be read -/
def fanTrayRow (hwRev : Name) : InfoRow where
  str
    | .product => ⟨bytesOf "Fan Tray", by decide⟩
    | .ppid => ⟨bytesOf "1", by decide⟩
    | .hwRev => hwRev
    | .platform => ⟨bytesOf "S6000", by decide⟩
    | .vendor => ⟨bytesOf "DELL", by decide⟩
    | .serviceTag => ⟨bytesOf "S6KFTY", by decide⟩
  int
    | .numFans => 2
    | .fanMaxSpeed => 18000
    | _ => 0
  result _ := .ok

/-- A base MAC that is in the database -/
def storedMac : BaseMacSource where
  systemBoard := false
  address := none
  stack _ := 0
  setResult := .ok
  getResult := .ok
  blob := [0, 1, 2, 3, 4, 5]

theorem copiesRow_noRevision :
    CopiesRow id (fanTrayRow ⟨[], by decide⟩) storedMac true (Vector.replicate 512 0xff) := by
  refine (copiesRow_iff (by decide) ..).mpr ⟨fun c hc _ => ?_, fun _ _ => ⟨fun c hc => ?_, fun c => ?_, rfl⟩⟩
  · cases c <;> decide
  · cases c <;> decide
  · cases c <;> decide

/-- The hardware revision of the tests -/
theorem not_copiesRow_revision :
    ¬CopiesRow id (fanTrayRow ⟨bytesOf "REV_1", by decide⟩) storedMac true (Vector.replicate 512 0xff) := by
  intro h
  have hfits := (h.fits id (by decide)).2 (fun _ => rfl) (by decide)
  exact absurd hfits.hwRev (by decide)

end OpxSdi.Vmdb
