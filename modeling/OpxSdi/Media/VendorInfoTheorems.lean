import OpxSdi.Media.Lemmas.Monitor
import OpxSdi.Media.VendorInfo

/-!
# Vendor strings are trimmed in bounds

A call that reads vendor information stores the field with its garbage replaced and its padding removed,
and stays within the field, iff the field is not padding altogether.
-/

namespace OpxSdi.Media

open Lib Device

/-! ## The text of a field -/

def isPadding (b : Byte) : Bool := b = 0x20 ∨ b = paddingChar

def replaced (b : Byte) : Byte := if isprint b = false ∧ b ≠ paddingChar then garbageCharIndicator else b

def cleaned (printable : Bool) (field : List Byte) : List Byte := if printable then field.map replaced else field

/-- The field without the longest suffix of spaces and NULs -/
def vendorText (info : VendorRegInfo) (field : List Byte) : List Byte :=
  (cleaned info.printable field).rdropWhile isPadding

/-- The text and a NUL have been stored, and no index has been accessed outside of the field. -/
def StoresText (info : VendorRegInfo) (field vendorInfo : List Byte) (r : Except ℤ (List Byte × List ℤ)) : Prop :=
  ∃ is, r = .ok (vendorText info field ++ 0 :: vendorInfo.drop ((vendorText info field).length + 1), is) ∧
    ∀ i ∈ is, 0 ≤ i ∧ i < info.size

/-! ## The loops -/

variable {n : Nat} {m : Nat → Byte} {info : VendorRegInfo} {field vendorInfo : List Byte}

theorem replaceGarbage_does {k i : Nat} (hi : i + k ≤ n) (hn : n ≤ vendorDataBufLen) :
    ArrayM.Does n (replaceGarbage k i) m () fun j => if i ≤ j ∧ j < i + k then replaced (m j) else m j := by
  induction k generalizing i m with
  | zero =>
      have hsame : (fun j => if i ≤ j ∧ j < i + 0 then replaced (m j) else m j) = m :=
        funext fun j => if_neg (by omega)
      rw [hsame]
      exact .pure ()
  | succ k ih =>
      have hrest := ih (i := i + 1) (m := Function.update m i (replaced (m i))) (by omega)
      have hsame : (fun j => if i + 1 ≤ j ∧ j < i + 1 + k then
          replaced (Function.update m i (replaced (m i)) j)
            else Function.update m i (replaced (m i)) j) =
          fun j => if i ≤ j ∧ j < i + (k + 1) then replaced (m j) else m j := by
        funext j
        by_cases hj : j = i
        · subst hj
          rw [if_neg (by omega), Function.update_self, if_pos (by omega)]
        · rw [Function.update_of_ne hj]
          exact if_congr (by omega) rfl rfl
      rw [hsame] at hrest
      refine (ArrayM.Does.load (by omega) hn).bind ?_
      by_cases hgarbage : isprint (m i) = false ∧ m i ≠ paddingChar
      · rw [if_pos hgarbage]
        rw [replaced, if_pos hgarbage] at hrest
        exact (ArrayM.Does.store (by omega) hn _).bind hrest
      · rw [if_neg hgarbage]
        rw [replaced, if_neg hgarbage, Function.update_eq_self] at hrest
        exact hrest

theorem trimPadding_does {k : Nat} (hk : k ≤ n) (hn : n ≤ vendorDataBufLen)
    (h : ((List.range k).map m).rdropWhile isPadding ≠ []) :
    ArrayM.Does n (trimPadding k) m (((List.range k).map m).rdropWhile isPadding).length m := by
  induction k with
  | zero => exact absurd rfl h
  | succ k ih =>
      rw [List.range_succ, List.map_append, List.map_singleton, List.rdropWhile_concat] at h ⊢
      refine (ArrayM.Does.load (by omega) hn).bind ?_
      by_cases hpad : isPadding (m k) = true
      · rw [if_pos hpad] at h ⊢
        rw [if_pos (of_decide_eq_true hpad)]
        exact ih (by omega) h
      · rw [if_neg hpad, List.length_append, List.length_map, List.length_range]
        rw [if_neg fun h => hpad (decide_eq_true h)]
        exact .pure _

theorem trimPadding_stops {k : Nat} (hk : k ≤ vendorDataBufLen)
    (h : ((List.range k).map m).rdropWhile isPadding = []) : ArrayM.Stops (trimPadding k) m (-1) := by
  induction k with
  | zero => exact (ArrayM.Stops.load (by decide)).bind
  | succ k ih =>
      rw [List.range_succ, List.map_append, List.map_singleton, List.rdropWhile_concat] at h
      refine .after (ArrayM.Does.load (Nat.lt_succ_self k) hk) ?_
      by_cases hpad : isPadding (m k) = true
      · rw [if_pos hpad] at h
        rw [if_pos (of_decide_eq_true hpad)]
        exact ih (by omega) h
      · rw [if_neg hpad] at h
        exact absurd h (List.append_ne_nil_of_right_ne_nil _ (List.cons_ne_nil _ _))

/-! ## The string of a field -/

theorem map_range_getD (field : List Byte) (f : Byte → Byte) :
    (List.range field.length).map (fun i => f (field.getD i 0)) = field.map f := by
  refine List.ext_getElem (by rw [List.length_map, List.length_map, List.length_range]) fun i h h' => ?_
  rw [List.length_map] at h'
  simp only [List.getElem_map, List.getElem_range, List.getD_eq_getElem?_getD, List.getElem?_eq_getElem h',
    Option.getD_some]

theorem cleanField_does (hsize : info.size = field.length + 1) (hlen : info.size ≤ vendorDataBufLen) :
    ∃ m, ArrayM.Does info.size (cleanField info) (fun i => field.getD i 0) () m ∧
      (List.range field.length).map m = cleaned info.printable field := by
  rw [cleanField]
  cases hprint : info.printable with
  | false =>
      refine ⟨_, .pure (), ?_⟩
      rw [cleaned, if_neg (by decide)]
      exact (map_range_getD field id).trans (List.map_id field)
  | true =>
      refine ⟨_, (replaceGarbage_does (by omega) hlen).bind (.store (by omega) hlen 0), ?_⟩
      rw [cleaned, if_pos rfl, ← map_range_getD]
      refine List.map_congr_left fun i hi => ?_
      have hi := List.mem_range.mp hi
      rw [Function.update_of_ne (by omega), if_pos (by omega)]

theorem length_cleaned (printable : Bool) : (cleaned printable field).length = field.length := by
  rw [cleaned]
  split
  · exact List.length_map ..
  · rfl

theorem vendorString_does (hsize : info.size = field.length + 1) (hlen : info.size ≤ vendorDataBufLen)
    {size : Nat} (hle : info.size ≤ size) (htext : vendorText info field ≠ []) : ∃ m,
      ArrayM.Does info.size (vendorString info size) (fun i => field.getD i 0) (vendorText info field ++ [0])
        m := by
  obtain ⟨m, hclean, hbytes⟩ := cleanField_does hsize hlen
  have hpred : info.size - 1 = field.length := by omega
  have htrimmed : ((List.range (info.size - 1)).map m).rdropWhile isPadding = vendorText info field := by
    rw [hpred, hbytes, vendorText]
  have hprefix : vendorText info field <+: cleaned info.printable field := List.rdropWhile_prefix _ _
  have hshort := hprefix.length_le
  rw [length_cleaned] at hshort
  have htrim := trimPadding_does (m := m) (n := info.size) (Nat.sub_le _ 1) hlen (htrimmed ▸ htext)
  rw [htrimmed] at htrim
  have hcopied : (List.range (min ((vendorText info field).length + 1) size)).map
      (Function.update m (vendorText info field).length 0) = vendorText info field ++ [0] := by
    rw [Nat.min_eq_left (by omega), List.range_succ, List.map_append, List.map_singleton, Function.update_self]
    refine congrArg (· ++ [0]) ?_
    have hsame : (List.range (vendorText info field).length).map
        (Function.update m (vendorText info field).length 0) =
          (List.range (vendorText info field).length).map m :=
      List.map_congr_left fun i hi => Function.update_of_ne (List.mem_range.mp hi).ne _ _
    have htake := List.prefix_iff_eq_take.mp hprefix
    rw [← hbytes, ← List.map_take, List.take_range, Nat.min_eq_left hshort] at htake
    rw [hsame, ← htake]
  have hloads : ArrayM.Does info.size (ArrayM.loads vendorDataBufLen
      (min ((vendorText info field).length + 1) size)) (Function.update m (vendorText info field).length 0)
      (vendorText info field ++ [0]) (Function.update m (vendorText info field).length 0) :=
    hcopied ▸ .loads (by omega) hlen
  exact ⟨_, hclean.bind (htrim.bind ((ArrayM.Does.store (by omega) hlen 0).bind hloads))⟩

theorem vendorString_stops (hsize : info.size = field.length + 1) (hlen : info.size ≤ vendorDataBufLen)
    (size : Nat) (htext : vendorText info field = []) :
    ArrayM.Stops (vendorString info size) (fun i => field.getD i 0) (-1) := by
  obtain ⟨m, hclean, hbytes⟩ := cleanField_does hsize hlen
  refine .after hclean (.bind (trimPadding_stops (by omega) ?_))
  rw [hsize, Nat.add_sub_cancel, hbytes]
  exact htext

/-- The string of a field is stored in bounds exactly when the field is not padding altogether. -/
theorem storesText_iff (hsize : info.size = field.length + 1) (hlen : info.size ≤ vendorDataBufLen)
    (hle : info.size ≤ vendorInfo.length) :
    StoresText info field vendorInfo (copyVendorString info field vendorInfo) ↔ vendorText info field ≠ [] := by
  rw [copyVendorString]
  constructor
  · rintro ⟨is, hrun, -⟩ htext
    rw [vendorDataBuf, vendorString_stops hsize hlen _ htext] at hrun
    cases hrun
  · intro htext
    obtain ⟨m, hdoes⟩ := vendorString_does hsize hlen hle htext
    obtain ⟨is, hrun, his⟩ := hdoes []
    rw [vendorDataBuf, hrun]
    refine ⟨is, ?_, his⟩
    have hstored : (vendorText info field ++ [0]) ++ vendorInfo.drop (vendorText info field ++ [0]).length =
        vendorText info field ++ 0 :: vendorInfo.drop ((vendorText info field).length + 1) := by
      rw [List.length_append, List.length_singleton, List.append_assoc, List.singleton_append]
    exact congrArg (fun bs => Except.ok (bs, is)) hstored

theorem replaced_padding (b : Byte) : isPadding (replaced b) = isPadding b := by
  rw [replaced]
  split
  · rename_i h
    have hspace : b ≠ 0x20 := by
      rintro rfl
      exact absurd h.1 (by decide)
    rw [isPadding, isPadding, decide_eq_false (by decide), decide_eq_false fun hb => hb.elim hspace h.2]
  · rfl

/-- The text is not empty if some byte of the field is no padding. -/
theorem vendorText_ne_nil : vendorText info field ≠ [] ↔ ∃ b ∈ field, isPadding b = false := by
  rw [vendorText, ne_eq, List.rdropWhile_eq_nil_iff]
  have hall : (∀ b ∈ cleaned info.printable field, isPadding b = true) ↔ ∀ b ∈ field, isPadding b = true := by
    rw [cleaned]
    split
    · simp only [List.forall_mem_map, replaced_padding]
    · exact Iff.rfl
  rw [hall]
  simp only [not_forall, Bool.not_eq_true, exists_prop]

/-! ## Calls -/

/-- A driver that reads vendor information -/
inductive VendorDriver
  | sfp (s : Sfp)
  | qsfp (q : Qsfp)

namespace VendorDriver

def vendorInfoGet : VendorDriver → MediaVendorInfoType → (vendorInfo : List Byte) →
    M (Except ℤ (List Byte × List ℤ))
  | sfp s => s.vendorInfoGet
  | qsfp q => q.vendorInfoGet

def sel : VendorDriver → Selection
  | sfp s => s.sel
  | qsfp q => q.sel

def i2cAddr : VendorDriver → BitVec 16
  | sfp s => s.i2cAddr
  | qsfp q => q.i2cAddr

/-- The register information that a call uses: an adapter has an SFP module. -/
def regInfo : VendorDriver → QsfpDevice → MediaVendorInfoType → VendorRegInfo
  | sfp _, _, type => Sfp.vendorRegInfo type
  | qsfp _, priv, type =>
      if priv.modType = .qsaAdapter then Sfp.vendorRegInfo type
      else if Qsfp.qsfp28DdEepromVersion3 ≤ priv.eepromVersion then Qsfp.vendorRegInfoQsfp28DdR3 type
      else Qsfp.vendorRegInfo type

/-- The bytes of the field in the memory of the module -/
def fieldBytes (driver : VendorDriver) (c : Cage) (type : MediaVendorInfoType) : List Byte :=
  let info := driver.regInfo c.priv type
  (c.slaves driver.i2cAddr).readFrom info.offset (info.size - 1)

/-- An adapter has an SFP device. -/
def HasDevice : VendorDriver → QsfpDevice → Prop
  | sfp _, _ => True
  | qsfp _, priv => priv.modType = .qsaAdapter → priv.sfpDevice ≠ none

/-- A call that returns has stored the text of the field, within the bounds of the field. -/
def StoresVendorInfo (driver : VendorDriver) (type : MediaVendorInfoType) (vendorInfo : List Byte) (d : State) :
    Prop :=
  ∀ r, Answers (driver.vendorInfoGet type vendorInfo) d r →
    StoresText (driver.regInfo d.hw.priv type) (driver.fieldBytes d.hw type) vendorInfo r

/-- The call reads the field. -/
def ReadsField (driver : VendorDriver) (type : MediaVendorInfoType) (vendorInfo : List Byte) (d : State) : Prop :=
  driver.HasDevice d.hw.priv ∧ (driver.regInfo d.hw.priv type).size ≤ vendorInfo.length ∧
    driver.sel.SelectsAt d ∧ (driver.sel.opened d).Clear ((driver.regInfo d.hw.priv type).size - 1)

variable {type : MediaVendorInfoType} {d : State} {r : Except ℤ (List Byte × List ℤ)}

theorem answers_readField {s : Selection} {a : BitVec 16} :
    Answers (s.withModule (smbusReadMultiByte a info.offset (info.size - 1)) >>= fun field =>
        pure (copyVendorString info field vendorInfo)) d r ↔
      s.SelectsAt d ∧ (s.opened d).Clear (info.size - 1) ∧
        r = copyVendorString info ((d.hw.slaves a).readFrom info.offset (info.size - 1)) vendorInfo := by
  rw [answers_bind_pure]
  simp only [s.answers_withModule, (Fetches.smbusReadMultiByte _ _ _).answers, Selection.opened_slaves, and_assoc,
    exists_and_left, exists_eq_left]

theorem answers_sfp {s : Sfp} : Answers (s.vendorInfoGet type vendorInfo) d r ↔
    (sfp s).ReadsField type vendorInfo d ∧
      r = copyVendorString (Sfp.vendorRegInfo type) ((sfp s).fieldBytes d.hw type) vendorInfo := by
  rw [Sfp.vendorInfoGet, answers_assert_bind_iff, answers_readField, ReadsField, HasDevice, true_and, and_assoc, and_assoc]
  exact Iff.rfl

theorem answers_qsfp {q : Qsfp} : Answers (q.vendorInfoGet type vendorInfo) d r ↔
    (qsfp q).ReadsField type vendorInfo d ∧
      r = copyVendorString ((qsfp q).regInfo d.hw.priv type) ((qsfp q).fieldBytes d.hw type) vendorInfo := by
  rw [Qsfp.vendorInfoGet, getPriv, answers_internal_bind, ReadsField, HasDevice, fieldBytes, regInfo]
  by_cases hadapter : d.hw.priv.modType = .qsaAdapter
  · rw [if_pos hadapter, if_pos hadapter, answers_assert_bind_iff, answers_sfp, forall_prop_of_true hadapter,
      and_assoc, ReadsField, HasDevice, true_and]
    exact Iff.rfl
  · rw [if_neg hadapter, if_neg hadapter, forall_prop_of_false hadapter, true_and, answers_bind_pure]
    simp only [q.sel.answers_withModule, answers_assert_bind_iff, (Fetches.smbusReadMultiByte _ _ _).answers,
      Selection.opened_slaves]
    constructor
    · rintro ⟨field, ⟨hselects, hle, hclear, rfl⟩, rfl⟩
      exact ⟨⟨hle, hselects, hclear⟩, rfl⟩
    · rintro ⟨⟨hle, hselects, hclear⟩, rfl⟩
      exact ⟨_, ⟨hselects, hle, hclear, rfl⟩, rfl⟩

/-- A call returns if it reads the field. -/
theorem answers_vendorInfoGet (driver : VendorDriver) : Answers (driver.vendorInfoGet type vendorInfo) d r ↔
    driver.ReadsField type vendorInfo d ∧
      r = copyVendorString (driver.regInfo d.hw.priv type) (driver.fieldBytes d.hw type) vendorInfo := by
  cases driver with
  | sfp s => exact answers_sfp
  | qsfp q => exact answers_qsfp

theorem regInfo_size (driver : VendorDriver) (priv : QsfpDevice) (type : MediaVendorInfoType) :
    0 < (driver.regInfo priv type).size ∧ (driver.regInfo priv type).size ≤ vendorDataBufLen := by
  cases driver with
  | sfp s =>
      rw [regInfo]
      cases type <;> decide
  | qsfp q =>
      rw [regInfo]
      split
      · cases type <;> decide
      · split <;> cases type <;> decide

/-- Vendor information is stored in bounds exactly when no field that is read is padding altogether. -/
theorem storesVendorInfo_iff (driver : VendorDriver) (type : MediaVendorInfoType) (vendorInfo : List Byte) (d : State) :
    driver.StoresVendorInfo type vendorInfo d ↔
      (driver.ReadsField type vendorInfo d → ∃ b ∈ driver.fieldBytes d.hw type, isPadding b = false) := by
  obtain ⟨hpos, hlen⟩ := driver.regInfo_size d.hw.priv type
  have hsize : (driver.regInfo d.hw.priv type).size = (driver.fieldBytes d.hw type).length + 1 := by
    rw [fieldBytes, Eeprom.length_readFrom]
    omega
  have hanswers : driver.StoresVendorInfo type vendorInfo d ↔ (driver.ReadsField type vendorInfo d →
      StoresText (driver.regInfo d.hw.priv type) (driver.fieldBytes d.hw type) vendorInfo
        (copyVendorString (driver.regInfo d.hw.priv type) (driver.fieldBytes d.hw type) vendorInfo)) := by
    constructor
    · exact fun h hreads => h _ ((answers_vendorInfoGet driver).mpr ⟨hreads, rfl⟩)
    · intro h r hr
      obtain ⟨hreads, rfl⟩ := (answers_vendorInfoGet driver).mp hr
      exact h hreads
  rw [hanswers]
  refine forall_congr' fun hreads => ?_
  rw [storesText_iff hsize hlen hreads.2.1, vendorText_ne_nil]

/-- The IEEE company identifier of the module of the registered cage is three NULs: the loop leaves the array. -/
theorem not_storesVendorInfo_padding : ¬(qsfp muxedCage).StoresVendorInfo .vendorOui [0, 0, 0, 0]
    (registered fun _ => none) := by
  intro h
  have hreads : (qsfp muxedCage).ReadsField .vendorOui [0, 0, 0, 0] (registered fun _ => none) :=
    ⟨nofun, by decide, ⟨⟨fun _ => rfl, fun _ => rfl⟩, fun _ _ => rfl⟩, fun _ _ => rfl⟩
  obtain ⟨is, hrun, -⟩ := h _ ((answers_vendorInfoGet _).mpr ⟨hreads, rfl⟩)
  cases hrun

end VendorDriver

end OpxSdi.Media
