import OpxSdi.Lib.Text
import OpxSdi.Sf.EntityInfo

/-!
# The PPID that is put together

What is left in the PPID depends on the texts that the registers hold and on the configured lengths. The run is
followed on an entity info that has been cleared, which is how the driver is called.
-/

namespace OpxSdi.Sf

open Lib

/-! ## The texts of the fields -/

/-- The bytes that the loop stores, and the bus after it -/
def textFrom (endAddr : BitVec 32) : Nat → BitVec 32 → Bus → List Byte × Bus
  | 0, _, bus => ([], bus)
  | n + 1, offset, bus =>
      if offset ≤ endAddr then
        match (RegBus.readByte offset).out bus with
        | (.error _, bus) => ([], bus)
        | (.ok buf, bus) =>
            if isprint buf then
              let rest := textFrom endAddr n (offset + 1) bus
              (buf :: rest.1, rest.2)
            else ([], bus)
      else ([], bus)

namespace AddrRange

/-- The text of a field of at most `n` characters -/
def text (range : AddrRange) (n : Nat) (bus : Bus) : List Byte × Bus :=
  if range.startAddr ≠ range.endAddr then textFrom range.endAddr n range.startAddr bus else ([], bus)

/-- Every register of the range has been read and has a printable character. -/
def Full (range : AddrRange) (text : List Byte) : Prop :=
  range.startAddr = range.endAddr ∨ text.length = range.endAddr.toNat + 1 - range.startAddr.toNat

end AddrRange

structure Fields where
  partNum : List Byte
  hwRevision : List Byte
  serviceTag : List Byte
  countryCode : List Byte
  mfgId : List Byte
  mfgDate : List Byte
  serialNumber : List Byte

/-- The texts in the order in which they are read -/
def EntityInfoDevice.fields (dev : EntityInfoDevice) (bus : Bus) : Fields :=
  let partNum := dev.partNum.text partNumLen bus
  let hwRevision := dev.hwRevision.text hwRevLen partNum.2
  let serviceTag := dev.serviceTag.text nameMax hwRevision.2
  let countryCode := dev.countryCode.text dev.countryCode.len.toNat serviceTag.2
  let mfgId := dev.mfgId.text dev.mfgId.len.toNat countryCode.2
  let mfgDate := dev.mfgDate.text dev.mfgDate.len.toNat mfgId.2
  let serialNumber := dev.serialNumber.text dev.serialNumber.len.toNat mfgDate.2
  ⟨partNum.1, hwRevision.1, serviceTag.1, countryCode.1, mfgId.1, mfgDate.1, serialNumber.1⟩

/-- The number of the day that the date code is made from -/
def dayOf (date : List Byte) : BitVec 32 := (sscanfU (date.drop 4)).getD (BitVec.ofNat 32 date.length)

def monthOf (date : List Byte) : BitVec 32 := (sscanfU ((date.drop 2).take 2)).getD (dayOf date)

/-- The last digit of the year, and the characters of the month and the day, of a date of six digits -/
def dateCode (date : List Byte) : List Byte :=
  [date.getD 1 0, alphanumeric.getD (decimalFrom 0 ((date.drop 2).take 2)) 0,
    alphanumeric.getD (decimalFrom 0 (date.drop 4)) 0]

namespace Fields

variable (f : Fields) (dev : EntityInfoDevice)

def ppid : List Byte := f.countryCode ++ f.partNum ++ f.mfgId ++ dateCode f.mfgDate ++ f.serialNumber

/-- Every field of the PPID is printable, and the date has six digits. -/
structure FullyPrintable : Prop where
  countryCode : dev.countryCode.Full f.countryCode
  partNum : dev.partNum.Full f.partNum
  mfgId : dev.mfgId.Full f.mfgId
  mfgDate : dev.mfgDate.Full f.mfgDate
  serialNumber : dev.serialNumber.Full f.serialNumber
  length_mfgDate : f.mfgDate.length = 6
  digits : ∀ c ∈ f.mfgDate, IsDigit c

/-- Where the date stands in the PPID -/
def datePos : Nat := dev.countryCode.len.toNat + f.partNum.length + dev.mfgId.len.toNat

/-- The texts leave room for their terminators, and the date has numbers that are in the table. -/
structure Fits : Prop where
  partNum : f.partNum.length < partNumLen
  hwRevision : f.hwRevision.length < hwRevLen
  serviceTag : f.serviceTag.length < nameMax
  mfgDate : f.datePos dev + f.mfgDate.length < ppidLen
  serialNumber : dev.serialNumber.startAddr ≠ dev.serialNumber.endAddr →
    f.datePos dev + 3 + f.serialNumber.length < ppidLen
  four_le : 4 ≤ f.mfgDate.length
  day : (dayOf f.mfgDate).toNat < alphanumeric.length
  month : (monthOf f.mfgDate).toNat < alphanumeric.length

end Fields

/-- The call stays in its arrays, and a PPID whose fields are all printable is put together. -/
def Constructs (dev : EntityInfoDevice) (bus : Bus) : Prop :=
  ∃ rc info bus', entityInfoDataGet dev .zero bus = .ok ((rc, info), bus') ∧
    ((dev.fields bus).FullyPrintable dev → cstr info.ppid.toList = (dev.fields bus).ppid)

/-! ## The loop -/

theorem textFrom_length (endAddr : BitVec 32) (n : Nat) (offset : BitVec 32) (bus : Bus) :
    (textFrom endAddr n offset bus).1.length ≤ n := by
  induction n generalizing offset bus with
  | zero => exact Nat.le_refl _
  | succ n ih =>
      rw [textFrom]
      split
      · split
        · exact Nat.zero_le _
        · split
          · exact Nat.succ_le_succ (ih ..)
          · exact Nat.zero_le _
      · exact Nat.zero_le _

theorem isprint_of_mem_textFrom {endAddr : BitVec 32} {n : Nat} {offset : BitVec 32} {bus : Bus} {b : Byte}
    (h : b ∈ (textFrom endAddr n offset bus).1) : isprint b = true := by
  induction n generalizing offset bus with
  | zero => cases h
  | succ n ih =>
      rw [textFrom] at h
      split at h
      · split at h
        · cases h
        · split at h
          · rename_i hprint
            obtain rfl | h := List.mem_cons.mp h
            · exact hprint
            · exact ih h
          · cases h
      · cases h

theorem isprint_ne_zero {b : Byte} (h : isprint b = true) : b ≠ 0 := by
  rintro rfl
  exact absurd h (by decide)

theorem run_bind {α β : Type} (x : SfM α) (f : α → SfM β) (bus : Bus) :
    (x >>= f) bus = x bus >>= fun r => f r.1 r.2 := rfl

theorem map_eq_ok {α β : Type} {x : Checked α} {f : α → β} {b : β} (h : x.map f = .ok b) : ∃ a, x = .ok a ∧ f a = b := by
  cases x with
  | error e => cases h
  | ok a => exact ⟨a, rfl, Except.ok.inj h⟩

theorem run_lift {α : Type} (x : Checked α) (bus : Bus) : (x : SfM α) bus = x.map fun a => (a, bus) := by
  cases x <;> rfl

theorem run_bind_of {α β : Type} {x : SfM α} {f : α → SfM β} {bus bus' : Bus} {a : α} (h : x bus = .ok (a, bus')) :
    (x >>= f) bus = f a bus' := by
  rw [run_bind, h, Checked.bind_ok]

theorem run_lift_bind_of {α β : Type} {x : Checked α} {f : α → SfM β} {bus : Bus} {a : α} (h : x = .ok a) :
    ((x : SfM α) >>= f) bus = f a bus := by
  rw [h]
  rfl

theorem run_bind_ok {α β : Type} {x : SfM α} {f : α → SfM β} {bus : Bus} {r : β × Bus}
    (h : (x >>= f) bus = .ok r) : ∃ a bus', x bus = .ok (a, bus') ∧ f a bus' = .ok r := by
  obtain ⟨⟨a, bus'⟩, hx, hf⟩ := bind_eq_ok h
  exact ⟨a, bus', hx, hf⟩

theorem run_lift_bind_ok {α β : Type} {x : Checked α} {f : α → SfM β} {bus : Bus} {r : β × Bus}
    (h : ((x : SfM α) >>= f) bus = .ok r) : ∃ a, x = .ok a ∧ f a bus = .ok r := by
  rw [run_bind, run_lift] at h
  cases x with
  | error e => cases h
  | ok a => exact ⟨a, rfl, h⟩

section Populate

variable {k : Nat}

theorem stores_nul (data : Vector Byte k) (len : Nat) : stores data len [0] = store data len 0 := by
  rw [stores]
  cases store data len 0 <;> rfl

theorem populateFrom_eq (endAddr : BitVec 32) (n len : Nat) (offset : BitVec 32) (data : Vector Byte k)
    (bus : Bus) : populateFrom endAddr n len offset data bus =
      (stores data len ((textFrom endAddr n offset bus).1 ++ [0])).map fun data' =>
        (data', (textFrom endAddr n offset bus).2) := by
  induction n generalizing len offset data bus with
  | zero =>
      rw [populateFrom, textFrom, List.nil_append, stores_nul]
      exact run_lift ..
  | succ n ih =>
      rw [populateFrom, textFrom]
      by_cases hend : offset ≤ endAddr
      · rw [if_pos hend, if_pos hend, run_bind]
        rw [readByte, Checked.bind_ok]
        cases (RegBus.readByte offset).out bus with
        | mk r bus' =>
            cases r with
            | error e =>
                rw [List.nil_append, stores_nul]
                exact run_lift ..
            | ok buf =>
                dsimp only
                cases isprint buf with
                | false =>
                    rw [if_neg Bool.false_ne_true, List.nil_append, stores_nul]
                    exact run_lift ..
                | true =>
                    rw [if_pos rfl, List.cons_append, stores]
                    change ((store data len buf : SfM (Vector Byte k)) >>= fun data =>
                      populateFrom endAddr n (len + 1) (offset + 1) data) bus' = _
                    rw [run_bind, run_lift]
                    cases store data len buf with
                    | error f => rfl
                    | ok data' => exact ih ..
      · rw [if_neg hend, if_neg hend, List.nil_append, stores_nul]
        exact run_lift ..

variable {range : AddrRange} {data data' : Vector Byte k} {«at» : Nat} {len : BitVec 32} {bus bus' : Bus}

theorem entityInfoPopulate_eq (range : AddrRange) (data : Vector Byte k) («at» : Nat) (len : BitVec 32) (bus : Bus) :
    entityInfoPopulate range data «at» len bus =
      (if range.startAddr ≠ range.endAddr then stores data «at» ((range.text len.toNat bus).1 ++ [0])
        else .ok data).map fun data' => (data', (range.text len.toNat bus).2) := by
  rw [entityInfoPopulate, AddrRange.text]
  by_cases h : range.startAddr ≠ range.endAddr
  · rw [if_pos h, if_pos h, if_pos h]
    exact populateFrom_eq ..
  · rw [if_neg h, if_neg h, if_neg h]
    rfl

theorem returns_populate_iff (range : AddrRange) (data : Vector Byte k) («at» : Nat) (len : BitVec 32) (bus : Bus) :
    Returns (entityInfoPopulate range data «at» len bus) ↔
    (range.startAddr ≠ range.endAddr → «at» + (range.text len.toNat bus).1.length < k) := by
  rw [entityInfoPopulate_eq]
  split
  · rename_i h
    rw [forall_prop_of_true h]
    refine returns_map_iff.trans ((returns_stores_iff ..).trans ?_)
    rw [or_iff_right (List.concat_ne_nil _ _), List.length_append]
    exact Iff.rfl
  · rename_i h
    exact iff_of_true (returns_ok _) fun hne => absurd hne h

theorem populate_bus (hok : entityInfoPopulate range data «at» len bus = .ok (data', bus')) :
    bus' = (range.text len.toNat bus).2 := by
  rw [entityInfoPopulate_eq] at hok
  obtain ⟨data'', -, heq⟩ := map_eq_ok hok
  exact (Prod.mk.inj heq).2.symm

/-- A field that is written behind the text so far, or left out -/
theorem padded_populate {s : List Byte} (h : Padded data s) (hs : s.length ≤ «at») (hk : «at» ≤ k)
    (hok : entityInfoPopulate range data «at» len bus = .ok (data', bus')) :
    Padded data' (s ++ List.replicate («at» - s.length) 0 ++ (range.text len.toNat bus).1) ∧
      bus' = (range.text len.toNat bus).2 := by
  have hlen : (s ++ List.replicate («at» - s.length) 0).length = «at» := by
    rw [List.length_append, List.length_replicate]
    omega
  have hfits := (returns_populate_iff ..).mp ⟨_, hok⟩
  have hzeros := h.zeros hs hk
  refine ⟨?_, populate_bus hok⟩
  rw [entityInfoPopulate_eq] at hok
  obtain ⟨data'', hdata, heq⟩ := map_eq_ok hok
  obtain rfl := (Prod.mk.inj heq).1
  split at hdata
  · rename_i hset
    rw [← hlen] at hdata
    have hpadded := hzeros.stores hdata (by
      rw [hlen, List.length_append]
      exact hfits hset)
    rw [← List.append_assoc] at hpadded
    exact hpadded.of_nul
  · rename_i hunset
    obtain rfl := Except.ok.inj hdata
    rw [AddrRange.text, if_neg hunset, List.append_nil]
    exact hzeros

/-- The text ends where it did, or a field is written behind it. -/
theorem populate_behind {s rest : List Byte} (hlist : data.toList = s ++ 0 :: rest)
    (hok : entityInfoPopulate range data s.length len bus = .ok (data', bus')) :
    ∃ rest', data'.toList = s ++ ((range.text len.toNat bus).1 ++ 0 :: rest') := by
  have hfits := (returns_populate_iff ..).mp ⟨_, hok⟩
  rw [entityInfoPopulate_eq] at hok
  obtain ⟨data'', hdata, heq⟩ := map_eq_ok hok
  obtain rfl := (Prod.mk.inj heq).1
  split at hdata
  · rename_i hset
    have hlen : s.length + ((range.text len.toNat bus).1 ++ [0]).length ≤ k := by
      rw [List.length_append]
      exact hfits hset
    obtain ⟨written, hwritten, hlist'⟩ := stores_ok data s.length hlen
    obtain rfl := Except.ok.inj (hwritten.symm.trans hdata)
    rw [hlist, List.take_left, List.append_assoc, List.append_assoc] at hlist'
    exact ⟨_, hlist'⟩
  · rename_i hunset
    obtain rfl := Except.ok.inj hdata
    rw [AddrRange.text, if_neg hunset]
    exact ⟨rest, hlist⟩

end Populate

/-! ## The date code -/

section DateCode

variable {k : Nat} {data data' : Vector Byte k} {«at» : Nat} {before date rest : List Byte}

theorem returns_scanU_iff {p : Ptr} {tmp : BitVec 32} : Returns (scanU p tmp) ↔ 0 ∈ p.buf.drop p.off := by
  rw [scanU, returns_bind_left fun s => returns_ok _, p.returns_loadCStr_iff]

theorem scanU_eq {p : Ptr} {s : List Byte} (hs : 0 ∉ s) (rest : List Byte) (h : p.buf.drop p.off = s ++ 0 :: rest)
    (tmp : BitVec 32) : scanU p tmp = .ok ((sscanfU s).getD tmp) := by
  rw [scanU, Ptr.loadCStr_eq (by rw [h]; exact List.mem_append_right s List.mem_cons_self), h, cstr_append_cons hs]
  rfl

theorem store_set {i : Nat} {b : Byte} (h : i < k) : store data i b = .ok (data.set i b) := dif_pos h

theorem load_eq {buf : List Byte} {off : Nat} {c : Byte} (h : buf[off]? = some c) : (Ptr.mk buf off).load 0 = .ok c := by
  rw [Ptr.load, Nat.add_zero, h]

theorem lt_of_constructDateCode (h : Returns (constructDateCode data «at»)) : «at» < k := by
  obtain ⟨data', hok⟩ := h
  obtain ⟨dateStr, hdateStr, -⟩ := bind_eq_ok hok
  have hmem := (Ptr.returns_loadCStr_iff _).mp ⟨dateStr, hdateStr⟩
  have hlen := List.length_pos_of_mem hmem
  rw [List.length_drop, Vector.length_toList] at hlen
  change 0 < k - «at» at hlen
  omega

/-- `tmp_str + 4` is behind the array if the date is too short. -/
theorem not_returns_constructDateCode (hlist : data.toList = before ++ (date ++ 0 :: rest)) (hdate : 0 ∉ date)
    (hshort : date.length < 4) : ¬Returns (constructDateCode data before.length) := by
  rintro ⟨data', hok⟩
  rw [constructDateCode] at hok
  obtain ⟨dateStr, hdateStr, hok⟩ := bind_eq_ok hok
  have hdrop : (Ptr.mk data.toList before.length).buf.drop before.length = date ++ 0 :: rest := by
    change data.toList.drop before.length = _
    rw [hlist, List.drop_left]
  obtain rfl : cstr (date ++ 0 :: rest) = dateStr := by
    rw [Ptr.loadCStr_eq (by rw [hdrop]; exact List.mem_append_right date List.mem_cons_self), hdrop] at hdateStr
    exact Except.ok.inj hdateStr
  obtain ⟨_, _, hok⟩ := bind_eq_ok hok
  obtain ⟨tmp, htmp, -⟩ := bind_eq_ok hok
  have hmem := returns_scanU_iff.mp ⟨tmp, htmp⟩
  change 0 ∈ (cstr (date ++ 0 :: rest) ++ [0]).drop 4 at hmem
  rw [cstr_append_cons hdate, List.drop_of_length_le (by rw [List.length_append]; exact hshort)] at hmem
  cases hmem

theorem set_zero_append (s : List Byte) : ∃ rest, (s ++ [0]).set 0 0 = 0 :: rest := by
  cases s with
  | nil => exact ⟨[], rfl⟩
  | cons b s => exact ⟨s ++ [0], rfl⟩

/-- The loads from the table decide whether the date code is made. -/
theorem constructDateCode_eq {y y' m m' : Byte}
    (hlist : data.toList = before ++ (y :: y' :: m :: m' :: date ++ 0 :: rest))
    (hdate : 0 ∉ y :: y' :: m :: m' :: date) : ∃ f : Byte → Byte → Vector Byte k,
      (constructDateCode data before.length = do
        let day ← (Ptr.mk alphanumeric 0).load (dayOf (y :: y' :: m :: m' :: date)).toNat
        let month ← (Ptr.mk alphanumeric 0).load (monthOf (y :: y' :: m :: m' :: date)).toNat
        .ok (f day month)) ∧
      ∀ day month, (f day month).toList = before ++ ([y', month, day] ++ 0 :: (date ++ 0 :: rest)) := by
  have hdrop : (Ptr.mk data.toList before.length).buf.drop before.length = y :: y' :: m :: m' :: date ++ 0 :: rest := by
    change data.toList.drop before.length = _
    rw [hlist, List.drop_left]
  have hload : (Ptr.mk data.toList before.length).loadCStr = .ok (y :: y' :: m :: m' :: date) := by
    rw [Ptr.loadCStr_eq (by rw [hdrop]; exact List.mem_append_right _ List.mem_cons_self), hdrop,
      cstr_append_cons hdate]
  have hlen : before.length + 4 < k := by
    have hk := congrArg List.length hlist
    simp only [Vector.length_toList, List.length_append, List.length_cons] at hk
    omega
  refine ⟨fun day month => (((data.set (before.length + 3) 0).set (before.length + 2) day).set (before.length + 1)
    month).set before.length y', ?_, fun day month => ?_⟩
  · rw [constructDateCode, hload, Checked.bind_ok]
    dsimp only
    rw [store_set (show before.length + 3 < k by omega), Checked.bind_ok, scanU_eq
      (fun h => hdate (List.mem_append_right [y, y', m, m'] h)) [] rfl, Checked.bind_ok]
    refine bind_congr fun day => ?_
    rw [store_set (show before.length + 2 < k by omega), Checked.bind_ok,
      store_set (show 4 < (y :: y' :: m :: m' :: date).length + 1 by simp), Checked.bind_ok]
    obtain ⟨rest', hrest'⟩ := set_zero_append date
    rw [scanU_eq (s := [m, m']) (fun h => hdate (List.mem_append_right [y, y'] (List.mem_append_left date h)))
      rest' (by rw [Vector.toList_set]; exact congrArg (m :: m' :: ·) hrest'), Checked.bind_ok]
    refine bind_congr fun month => ?_
    rw [store_set (show before.length + 1 < k by omega), Checked.bind_ok,
      store_set (show 2 < (y :: y' :: m :: m' :: date).length + 1 by simp), Checked.bind_ok,
      load_eq (c := y') (by rw [Vector.toList_set, Vector.toList_set]; rfl), Checked.bind_ok,
      store_set (show before.length < k by omega)]
  · rw [Vector.toList_set, Vector.toList_set, Vector.toList_set, Vector.toList_set, hlist]
    simp only [List.set_append_right _ _ (Nat.le_add_right before.length _), List.set_append_right _ _ (Nat.le_refl _),
      Nat.add_sub_cancel_left, Nat.sub_self]
    rfl

/-- The characters that are stored for a date, whatever it is -/
def storedCode (date : List Byte) : List Byte :=
  [date.getD 1 0, alphanumeric.getD (monthOf date).toNat 0, alphanumeric.getD (dayOf date).toNat 0]

theorem returns_alphanumeric_iff {i : Nat} : Returns ((Ptr.mk alphanumeric 0).load i) ↔ i < alphanumeric.length := by
  constructor
  · rintro ⟨c, hc⟩
    have := (Ptr.lt_of_load hc).1
    rwa [Nat.zero_add] at this
  · exact fun h => ⟨_, Ptr.load_ok (by rwa [Nat.zero_add])⟩

theorem constructDateCode_iff (hlist : data.toList = before ++ (date ++ 0 :: rest)) (hdate : 0 ∉ date) :
    (Returns (constructDateCode data before.length) ↔ 4 ≤ date.length ∧
      (dayOf date).toNat < alphanumeric.length ∧ (monthOf date).toNat < alphanumeric.length) ∧
    ∀ data', constructDateCode data before.length = .ok data' →
      ∃ rest', data'.toList = before ++ (storedCode date ++ 0 :: rest') := by
  rcases Nat.lt_or_ge date.length 4 with hshort | hlong
  · have hstop := not_returns_constructDateCode hlist hdate hshort
    exact ⟨iff_of_false hstop fun h => absurd h.1 (Nat.not_le.mpr hshort), fun data' h => absurd ⟨data', h⟩ hstop⟩
  · obtain ⟨y, y', m, m', date, rfl⟩ : ∃ y y' m m' date', date = y :: y' :: m :: m' :: date' := by
      match date, hlong with
      | y :: y' :: m :: m' :: date', _ => exact ⟨y, y', m, m', date', rfl⟩
    obtain ⟨f, heq, hf⟩ := constructDateCode_eq hlist hdate
    rw [heq, and_iff_right hlong]
    constructor
    · rw [returns_bind_and fun day _ => returns_bind_left fun month => returns_ok _, returns_alphanumeric_iff,
        returns_alphanumeric_iff]
    · intro data' hok
      obtain ⟨day, hday, hok⟩ := bind_eq_ok hok
      obtain ⟨month, hmonth, hok⟩ := bind_eq_ok hok
      obtain ⟨-, hday⟩ := Ptr.lt_of_load hday
      obtain ⟨-, hmonth⟩ := Ptr.lt_of_load hmonth
      rw [Nat.zero_add] at hday hmonth
      refine ⟨date ++ 0 :: rest, ?_⟩
      rw [← Except.ok.inj hok, hf, hday, hmonth]
      rfl

theorem decimalFrom_pair {c d : Byte} (hc : IsDigit c) (hd : IsDigit d) : decimalFrom 0 [c, d] < 100 := by
  have hc' := hc.digitVal_lt
  have hd' := hd.digitVal_lt
  change (0 * 10 + digitVal c) * 10 + digitVal d < 100
  omega

theorem sscanfU_pair {c d : Byte} (hc : IsDigit c) (hd : IsDigit d) (tmp : BitVec 32) :
    ((sscanfU [c, d]).getD tmp).toNat = decimalFrom 0 [c, d] := by
  have hlt := decimalFrom_pair hc hd
  have hscan := sscanfU_digits ⟨[c, d], List.cons_ne_nil _ _, by
    simp only [List.mem_cons, List.not_mem_nil, or_false, forall_eq_or_imp, forall_eq]
    exact ⟨hc, hd⟩⟩ (Nat.le_of_lt (Nat.lt_trans hlt (by decide)))
  rw [hscan, Option.getD_some, BitVec.toNat_ofNat]
  exact Nat.mod_eq_of_lt (Nat.lt_trans hlt (by decide))

/-- The date code of six digits -/
theorem storedCode_eq (hlen : date.length = 6) (hdigits : ∀ c ∈ date, IsDigit c) : storedCode date = dateCode date := by
  match date, hlen with
  | [y, y', m, m', d, d'], _ =>
      simp only [List.mem_cons, List.not_mem_nil, or_false, forall_eq_or_imp, forall_eq] at hdigits
      obtain ⟨-, -, hm, hm', hd, hd'⟩ := hdigits
      have hday : (dayOf [y, y', m, m', d, d']).toNat = decimalFrom 0 [d, d'] := sscanfU_pair hd hd' _
      have hmonth : (monthOf [y, y', m, m', d, d']).toNat = decimalFrom 0 [m, m'] := sscanfU_pair hm hm' _
      rw [storedCode, hday, hmonth]
      rfl

end DateCode

/-! ## The PPID -/

theorem mem_text {range : AddrRange} {n : Nat} {bus : Bus} {b : Byte} (h : b ∈ (range.text n bus).1) :
    isprint b = true := by
  rw [AddrRange.text] at h
  split at h
  · exact isprint_of_mem_textFrom h
  · cases h

theorem zero_notMem_text (range : AddrRange) (n : Nat) (bus : Bus) : 0 ∉ (range.text n bus).1 := fun h =>
  isprint_ne_zero (mem_text h) rfl

theorem text_length_le (range : AddrRange) (n : Nat) (bus : Bus) : (range.text n bus).1.length ≤ n := by
  rw [AddrRange.text]
  split
  · exact textFrom_length ..
  · exact Nat.zero_le n

/-- What stands before the date: each text, and zeros where it is shorter than its place -/
def beforeDate (dev : EntityInfoDevice) (f : Fields) : List Byte :=
  f.countryCode ++ List.replicate (dev.countryCode.len.toNat - f.countryCode.length) 0 ++ f.partNum ++ f.mfgId ++
    List.replicate (dev.mfgId.len.toNat - f.mfgId.length) 0

/-- The fields of the PPID as they are read from `bus` on -/
structure ReadFrom (dev : EntityInfoDevice) (f : Fields) (bus bus1 bus2 bus3 : Bus) : Prop where
  countryCode : dev.countryCode.text dev.countryCode.len.toNat bus = (f.countryCode, bus1)
  mfgId : dev.mfgId.text dev.mfgId.len.toNat bus1 = (f.mfgId, bus2)
  mfgDate : dev.mfgDate.text dev.mfgDate.len.toNat bus2 = (f.mfgDate, bus3)
  serialNumber : (dev.serialNumber.text dev.serialNumber.len.toNat bus3).1 = f.serialNumber

namespace ReadFrom

variable {dev : EntityInfoDevice} {f : Fields} {bus bus1 bus2 bus3 : Bus} {info : EntityInfo}
  {ppid ppid1 ppid2 ppid3 ppid4 : Vector Byte ppidLen} {bus1' bus2' bus3' : Bus}

theorem countryCode_le (h : ReadFrom dev f bus bus1 bus2 bus3) :
    f.countryCode.length ≤ dev.countryCode.len.toNat := by
  have := text_length_le dev.countryCode dev.countryCode.len.toNat bus
  rwa [h.countryCode] at this

theorem mfgId_le (h : ReadFrom dev f bus bus1 bus2 bus3) : f.mfgId.length ≤ dev.mfgId.len.toNat := by
  have := text_length_le dev.mfgId dev.mfgId.len.toNat bus1
  rwa [h.mfgId] at this

theorem length_beforeDate (h : ReadFrom dev f bus bus1 bus2 bus3) : (beforeDate dev f).length = f.datePos dev := by
  have hc := h.countryCode_le
  have hm := h.mfgId_le
  simp only [beforeDate, Fields.datePos, List.length_append, List.length_replicate]
  omega

theorem padded (h : ReadFrom dev f bus bus1 bus2 bus3) (hppid : Padded ppid [])
    (h1 : entityInfoPopulate dev.countryCode ppid 0 dev.countryCode.len bus = .ok (ppid1, bus1'))
    (h2 : stores ppid1 dev.countryCode.len.toNat f.partNum = .ok ppid2)
    (h3 : entityInfoPopulate dev.mfgId ppid2 (dev.countryCode.len.toNat + f.partNum.length) dev.mfgId.len bus1' =
      .ok (ppid3, bus2'))
    (h4 : entityInfoPopulate dev.mfgDate ppid3 (f.datePos dev) dev.mfgDate.len bus2' = .ok (ppid4, bus3'))
    (hpos : f.datePos dev ≤ ppidLen) : Padded ppid4 (beforeDate dev f ++ f.mfgDate) ∧ bus3' = bus3 := by
  have hpos' := hpos
  rw [Fields.datePos] at hpos'
  have hc := h.countryCode_le
  have hm := h.mfgId_le
  obtain ⟨hp1, rfl⟩ := padded_populate hppid (Nat.zero_le _) (Nat.zero_le _) h1
  rw [h.countryCode] at hp1 h3
  replace hp1 : Padded ppid1 f.countryCode := hp1
  have hz1 := hp1.zeros (i := dev.countryCode.len.toNat) hc (by omega)
  have hlen1 : (f.countryCode ++ List.replicate (dev.countryCode.len.toNat - f.countryCode.length) 0).length =
      dev.countryCode.len.toNat := by
    rw [List.length_append, List.length_replicate]
    omega
  have hp2 := hz1.stores (hlen1.symm ▸ h2) (by rw [hlen1]; omega)
  have hlen2 := (List.length_append ..).trans (congrArg (· + f.partNum.length) hlen1)
  obtain ⟨hp3, rfl⟩ := padded_populate hp2 (Nat.le_of_eq hlen2) (by omega) h3
  rw [hlen2, Nat.sub_self, h.mfgId, List.replicate_zero, List.append_nil] at hp3
  rw [h.mfgId] at h4
  have hlen3 := (List.length_append ..).trans (congrArg (· + f.mfgId.length) hlen2)
  obtain ⟨hp4, rfl⟩ := padded_populate hp3 (by rw [hlen3, Fields.datePos]; omega) hpos h4
  rw [h.mfgDate] at hp4 ⊢
  have hgap : f.datePos dev - (dev.countryCode.len.toNat + f.partNum.length + f.mfgId.length) =
      dev.mfgId.len.toNat - f.mfgId.length := by
    rw [Fields.datePos]
    omega
  rw [hlen3, hgap] at hp4
  exact ⟨hp4, rfl⟩

theorem date_eq (hpadded : Padded ppid4 (beforeDate dev f ++ f.mfgDate))
    (hlt : (beforeDate dev f ++ f.mfgDate).length < ppidLen) :
    ∃ rest, ppid4.toList = beforeDate dev f ++ (f.mfgDate ++ 0 :: rest) := by
  obtain ⟨n, hn⟩ : ∃ n, ppidLen - (beforeDate dev f ++ f.mfgDate).length = n + 1 :=
    ⟨ppidLen - (beforeDate dev f ++ f.mfgDate).length - 1, by omega⟩
  refine ⟨List.replicate n 0, ?_⟩
  rw [hpadded.2, hn, List.replicate_succ, List.append_assoc]

theorem zero_notMem_mfgDate (h : ReadFrom dev f bus bus1 bus2 bus3) : 0 ∉ f.mfgDate := by
  have := zero_notMem_text dev.mfgDate dev.mfgDate.len.toNat bus2
  rwa [h.mfgDate] at this

/-- A run that stays in its arrays: the texts fit, and stand in the PPID in their order. -/
theorem constructPpid_ok (h : ReadFrom dev f bus bus1 bus2 bus3) (hppid : Padded info.ppid [])
    (hpart : (Ptr.mk info.partNumber.toList 0).loadCStr = .ok f.partNum) {info' : EntityInfo} {bus' : Bus}
    (hok : constructPpid dev info bus = .ok (info', bus')) :
    f.datePos dev + f.mfgDate.length < ppidLen ∧
    (dev.serialNumber.startAddr ≠ dev.serialNumber.endAddr →
      f.datePos dev + 3 + f.serialNumber.length < ppidLen) ∧
    (4 ≤ f.mfgDate.length ∧ (dayOf f.mfgDate).toNat < alphanumeric.length ∧
      (monthOf f.mfgDate).toNat < alphanumeric.length) ∧
    ∃ rest, info'.ppid.toList = beforeDate dev f ++ storedCode f.mfgDate ++ f.serialNumber ++ 0 :: rest := by
  rw [constructPpid] at hok
  obtain ⟨ppid1, bus1', h1, hok⟩ := run_bind_ok hok
  obtain ⟨partNumber, hpart', hok⟩ := run_lift_bind_ok hok
  obtain rfl := Except.ok.inj (hpart.symm.trans hpart')
  obtain ⟨ppid2, h2, hok⟩ := run_lift_bind_ok hok
  obtain ⟨ppid3, bus2', h3, hok⟩ := run_bind_ok hok
  obtain ⟨ppid4, bus3', h4, hok⟩ := run_bind_ok hok
  obtain ⟨ppid5, h5, hok⟩ := run_lift_bind_ok hok
  obtain ⟨ppid6, bus4', h6, hok⟩ := run_bind_ok hok
  obtain ⟨rfl, rfl⟩ := Prod.mk.inj (Except.ok.inj hok)
  rw [Nat.zero_add] at h2 h3 h4 h5 h6
  have hpos := lt_of_constructDateCode ⟨ppid5, h5⟩
  obtain ⟨hpadded, hbus3⟩ := h.padded hppid h1 h2 h3 h4 (Nat.le_of_lt hpos)
  rw [populate_bus h1, h.countryCode] at h3
  rw [populate_bus h3, h.mfgId] at h4
  have hmfgDate := (returns_populate_iff ..).mp ⟨_, h4⟩
  rw [hbus3] at h6
  have hserial := (returns_populate_iff ..).mp ⟨_, h6⟩
  rw [h.serialNumber] at hserial
  have hfits : f.datePos dev + f.mfgDate.length < ppidLen := by
    rw [h.mfgDate] at hmfgDate
    by_cases hset : dev.mfgDate.startAddr ≠ dev.mfgDate.endAddr
    · exact hmfgDate hset
    · have hunset := congrArg Prod.fst h.mfgDate
      rw [AddrRange.text, if_neg hset] at hunset
      rw [← show [] = f.mfgDate from hunset]
      exact hpos
  obtain ⟨rest, hlist⟩ := date_eq hpadded (by rwa [List.length_append, h.length_beforeDate])
  obtain ⟨hreturns, hcode⟩ := constructDateCode_iff hlist h.zero_notMem_mfgDate
  replace h5 : constructDateCode ppid4 (beforeDate dev f).length = .ok ppid5 := h.length_beforeDate.symm ▸ h5
  obtain ⟨rest', hlist5⟩ := hcode ppid5 h5
  refine ⟨hfits, hserial, hreturns.mp ⟨ppid5, h5⟩, ?_⟩
  rw [← List.append_assoc] at hlist5
  have hlen : (beforeDate dev f ++ storedCode f.mfgDate).length = f.datePos dev + 3 :=
    (List.length_append ..).trans (congrArg (· + 3) h.length_beforeDate)
  replace h6 : entityInfoPopulate dev.serialNumber ppid5 (beforeDate dev f ++ storedCode f.mfgDate).length
    dev.serialNumber.len bus3 = .ok (ppid6, bus4') := hlen.symm ▸ h6
  obtain ⟨rest'', hlist6⟩ := populate_behind hlist5 h6
  rw [h.serialNumber, ← List.append_assoc] at hlist6
  exact ⟨rest'', hlist6⟩

theorem returns_constructPpid (h : ReadFrom dev f bus bus1 bus2 bus3) (hppid : Padded info.ppid [])
    (hpart : (Ptr.mk info.partNumber.toList 0).loadCStr = .ok f.partNum)
    (hfits : f.datePos dev + f.mfgDate.length < ppidLen)
    (hserial : dev.serialNumber.startAddr ≠ dev.serialNumber.endAddr →
      f.datePos dev + 3 + f.serialNumber.length < ppidLen)
    (hdate : 4 ≤ f.mfgDate.length ∧ (dayOf f.mfgDate).toNat < alphanumeric.length ∧
      (monthOf f.mfgDate).toNat < alphanumeric.length) :
    ∃ info' bus', constructPpid dev info bus = .ok (info', bus') := by
  have hc := h.countryCode_le
  have hm := h.mfgId_le
  have hpos := hfits
  rw [Fields.datePos] at hpos
  obtain ⟨⟨ppid1, bus1'⟩, h1⟩ :=
    (returns_populate_iff dev.countryCode info.ppid 0 dev.countryCode.len bus).mpr fun _ => by
      rw [h.countryCode]
      change 0 + f.countryCode.length < ppidLen
      omega
  obtain rfl := (populate_bus h1).trans (congrArg Prod.snd h.countryCode)
  obtain ⟨ppid2, h2⟩ := (returns_stores_iff ppid1 dev.countryCode.len.toNat f.partNum).mpr (.inr (by omega))
  obtain ⟨⟨ppid3, bus2'⟩, h3⟩ := (returns_populate_iff dev.mfgId ppid2
    (dev.countryCode.len.toNat + f.partNum.length) dev.mfgId.len bus1').mpr fun _ => by
      rw [h.mfgId]
      change _ + f.mfgId.length < ppidLen
      omega
  obtain rfl := (populate_bus h3).trans (congrArg Prod.snd h.mfgId)
  obtain ⟨⟨ppid4, bus3'⟩, h4⟩ :=
    (returns_populate_iff dev.mfgDate ppid3 (f.datePos dev) dev.mfgDate.len bus2').mpr fun _ => by
      rw [h.mfgDate]
      exact hfits
  obtain ⟨hpadded, rfl⟩ := h.padded hppid h1 h2 h3 h4 (by omega)
  obtain ⟨rest, hlist⟩ := date_eq hpadded (by rwa [List.length_append, h.length_beforeDate])
  obtain ⟨ppid5, h5⟩ := (constructDateCode_iff hlist h.zero_notMem_mfgDate).1.mpr hdate
  rw [h.length_beforeDate] at h5
  obtain ⟨⟨ppid6, bus4⟩, h6⟩ := (returns_populate_iff dev.serialNumber ppid5 (f.datePos dev + 3)
    dev.serialNumber.len bus3').mpr fun hset => by
      rw [h.serialNumber]
      exact hserial hset
  refine ⟨{ info with ppid := ppid6 }, bus4, ?_⟩
  rw [constructPpid, run_bind_of h1, run_lift_bind_of hpart, Nat.zero_add, run_lift_bind_of h2]
  dsimp only
  rw [run_bind_of h3, ← Fields.datePos, run_bind_of h4, run_lift_bind_of h5, run_bind_of h6]
  rfl

end ReadFrom

/-- No text is shorter than its place. -/
def Aligned (dev : EntityInfoDevice) (f : Fields) : Prop :=
  f.countryCode.length = dev.countryCode.len.toNat ∧ f.mfgId.length = dev.mfgId.len.toNat

/-- A text that is shorter than its place ends the PPID. -/
theorem cstr_eq_ppid_iff {dev : EntityInfoDevice} {f : Fields}
    (hcountry : f.countryCode.length ≤ dev.countryCode.len.toNat)
    (hmfgId : f.mfgId.length ≤ dev.mfgId.len.toNat) (hzero : 0 ∉ f.ppid) (rest : List Byte) :
    cstr (beforeDate dev f ++ dateCode f.mfgDate ++ f.serialNumber ++ 0 :: rest) = f.ppid ↔ Aligned dev f := by
  have hm : 0 ∉ f.countryCode ++ f.partNum ++ f.mfgId := fun h =>
    hzero (List.mem_append_left _ (List.mem_append_left _ h))
  have hc : 0 ∉ f.countryCode := fun h => hm (List.mem_append_left _ (List.mem_append_left _ h))
  have hne : dateCode f.mfgDate ≠ [] := List.cons_ne_nil _ _
  rw [Aligned, beforeDate]
  rcases Nat.lt_or_eq_of_le hcountry with hlt | heq
  · obtain ⟨n, hn⟩ : ∃ n, dev.countryCode.len.toNat - f.countryCode.length = n + 1 :=
      ⟨dev.countryCode.len.toNat - f.countryCode.length - 1, by omega⟩
    refine iff_of_false ?_ fun h => absurd h.1 (Nat.ne_of_lt hlt)
    rw [hn, List.replicate_succ]
    simp only [List.append_assoc, List.cons_append]
    rw [cstr_append_cons hc, Fields.ppid]
    simp only [List.append_assoc, List.self_eq_append_right, List.append_eq_nil_iff, hne, false_and, and_false,
      not_false_eq_true]
  · rw [heq, Nat.sub_self, List.replicate_zero, List.append_nil, and_iff_right rfl]
    rcases Nat.lt_or_eq_of_le hmfgId with hlt | heq
    · obtain ⟨n, hn⟩ : ∃ n, dev.mfgId.len.toNat - f.mfgId.length = n + 1 :=
        ⟨dev.mfgId.len.toNat - f.mfgId.length - 1, by omega⟩
      refine iff_of_false ?_ (Nat.ne_of_lt hlt)
      rw [hn, List.replicate_succ]
      rw [List.append_assoc, List.append_assoc, List.append_assoc, List.cons_append, cstr_append_cons hm, Fields.ppid]
      simp only [List.append_assoc _ _ f.serialNumber, List.self_eq_append_right, List.append_eq_nil_iff, hne, false_and,
        not_false_eq_true]
    · rw [heq, Nat.sub_self, List.replicate_zero, List.append_nil]
      exact iff_of_true (cstr_append_cons hzero rest) rfl

/-! ## The whole call -/

section DataGet

variable {dev : EntityInfoDevice} {bus : Bus}

/-- The buses on which the fields of the PPID are read -/
theorem readFrom_fields (dev : EntityInfoDevice) (bus : Bus) : ∃ bus1 bus2 bus3, ReadFrom dev (dev.fields bus)
    (dev.serviceTag.text nameMax (dev.hwRevision.text hwRevLen (dev.partNum.text partNumLen bus).2).2).2
    bus1 bus2 bus3 := ⟨_, _, _, rfl, rfl, rfl, rfl⟩

/-- A field of its own array, from its start on -/
theorem populate_zero_iff {k n : Nat} (range : AddrRange) (data : Vector Byte k) (bus : Bus) (hk : 0 < k)
    (hn : n < 2 ^ 32) : Returns (entityInfoPopulate range data 0 (BitVec.ofNat 32 n) bus) ↔
      (range.text n bus).1.length < k := by
  rw [returns_populate_iff, BitVec.toNat_ofNat, Nat.mod_eq_of_lt hn, Nat.zero_add]
  by_cases hset : range.startAddr ≠ range.endAddr
  · exact forall_prop_of_true hset
  · refine iff_of_true (fun h => absurd h hset) ?_
    rw [AddrRange.text, if_neg hset]
    exact hk

theorem mem_alphanumeric_ne {i : Nat} (h : i < alphanumeric.length) : alphanumeric.getD i 0 ≠ 0 := by
  have hne : ∀ c ∈ alphanumeric, c ≠ 0 := by decide +kernel
  rw [List.getD_eq_getElem?_getD, List.getElem?_eq_getElem h, Option.getD_some]
  exact hne _ (List.getElem_mem h)

theorem zero_notMem_ppid (hprintable : (dev.fields bus).FullyPrintable dev) (hfits : (dev.fields bus).Fits dev) :
    0 ∉ (dev.fields bus).ppid := by
  have hdate : 0 ∉ (dev.fields bus).mfgDate := zero_notMem_text _ _ _
  have hlen : 1 < (dev.fields bus).mfgDate.length := by
    rw [hprintable.length_mfgDate]
    decide
  have hyear : (dev.fields bus).mfgDate.getD 1 0 ≠ 0 := fun h0 => by
    rw [List.getD_eq_getElem?_getD, List.getElem?_eq_getElem hlen, Option.getD_some] at h0
    exact hdate (h0 ▸ List.getElem_mem hlen)
  have hcode : 0 ∉ dateCode (dev.fields bus).mfgDate := by
    rw [← storedCode_eq hprintable.length_mfgDate hprintable.digits, storedCode]
    simp only [List.mem_cons, List.not_mem_nil, or_false, not_or]
    exact ⟨hyear.symm, (mem_alphanumeric_ne hfits.month).symm, (mem_alphanumeric_ne hfits.day).symm⟩
  simp only [Fields.ppid, List.mem_append, not_or]
  exact ⟨⟨⟨⟨zero_notMem_text _ _ _, zero_notMem_text _ _ _⟩, zero_notMem_text _ _ _⟩, hcode⟩, zero_notMem_text _ _ _⟩

theorem readPins_ppid (dev : EntityInfoDevice) (info : EntityInfo) : (readPins dev info).2.ppid = info.ppid := by
  rw [readPins]
  cases readPin dev.airFlowStatus .ok .low with
  | mk rc level =>
      dsimp only
      cases readPin dev.currentType rc level with
      | mk rc' level' => cases dev.airFlowStatus.isSome <;> cases dev.currentType.isSome <;> rfl

/-- The three fields before the PPID, on an entity info that has been cleared -/
theorem dataGet_eq (h : dev.ppidAddrValid = false) (hpart : (dev.fields bus).partNum.length < partNumLen)
    (hhw : (dev.fields bus).hwRevision.length < hwRevLen) (htag : (dev.fields bus).serviceTag.length < nameMax) :
    ∃ info, Padded info.ppid [] ∧ (Ptr.mk info.partNumber.toList 0).loadCStr = .ok (dev.fields bus).partNum ∧
      entityInfoDataGet dev .zero bus = (constructPpid dev info >>= fun info => pure (readPins dev info))
        (dev.serviceTag.text nameMax (dev.hwRevision.text hwRevLen (dev.partNum.text partNumLen bus).2).2).2 := by
  obtain ⟨⟨partNumber, bus1⟩, h1⟩ := (populate_zero_iff dev.partNum EntityInfo.zero.partNumber bus (by decide)
    (show partNumLen < 2 ^ 32 by decide)).mpr hpart
  obtain ⟨hpadded, hbus1⟩ := padded_populate .replicate (Nat.zero_le _) (Nat.zero_le _) h1
  obtain rfl : bus1 = (dev.partNum.text partNumLen bus).2 := hbus1
  obtain ⟨⟨hwRevision, bus2⟩, h2⟩ := (populate_zero_iff dev.hwRevision EntityInfo.zero.hwRevision _
    (by decide) (show hwRevLen < 2 ^ 32 by decide)).mpr hhw
  obtain rfl : bus2 = (dev.hwRevision.text hwRevLen (dev.partNum.text partNumLen bus).2).2 := populate_bus h2
  obtain ⟨⟨serviceTag, bus3⟩, h3⟩ := (populate_zero_iff dev.serviceTag EntityInfo.zero.serviceTag _
    (by decide) (show nameMax < 2 ^ 32 by decide)).mpr htag
  obtain rfl : bus3 = (dev.serviceTag.text nameMax
    (dev.hwRevision.text hwRevLen (dev.partNum.text partNumLen bus).2).2).2 := populate_bus h3
  refine ⟨{ EntityInfo.zero with partNumber, hwRevision, serviceTag }, .replicate, ?_, ?_⟩
  · obtain ⟨hmem, hcstr⟩ := hpadded.cstr_eq (zero_notMem_text dev.partNum partNumLen bus) hpart
    exact (Ptr.loadCStr_eq (p := ⟨partNumber.toList, 0⟩) hmem).trans (congrArg _ hcstr)
  · rw [entityInfoDataGet, run_bind_of h1, run_bind_of h2, run_bind_of h3]
    dsimp only
    rw [if_neg (by rw [h]; decide)]

/-- Of a call that returns, the three fields leave room for their terminators. -/
theorem fits_of_returns (hok : Returns (entityInfoDataGet dev .zero bus)) :
    (dev.fields bus).partNum.length < partNumLen ∧ (dev.fields bus).hwRevision.length < hwRevLen ∧
      (dev.fields bus).serviceTag.length < nameMax := by
  obtain ⟨r, hok⟩ := hok
  rw [entityInfoDataGet] at hok
  obtain ⟨partNumber, bus1, h1, hok⟩ := run_bind_ok hok
  obtain ⟨hwRevision, bus2, h2, hok⟩ := run_bind_ok hok
  obtain ⟨serviceTag, bus3, h3, -⟩ := run_bind_ok hok
  have hpart := (populate_zero_iff _ _ _ (by decide) (by decide)).mp ⟨_, h1⟩
  obtain rfl : bus1 = (dev.partNum.text partNumLen bus).2 := populate_bus h1
  have hhw := (populate_zero_iff _ _ _ (by decide) (by decide)).mp ⟨_, h2⟩
  obtain rfl : bus2 = (dev.hwRevision.text hwRevLen (dev.partNum.text partNumLen bus).2).2 := populate_bus h2
  exact ⟨hpart, hhw, (populate_zero_iff _ _ _ (by decide) (by decide)).mp ⟨_, h3⟩⟩

theorem constructs_iff (h : dev.ppidAddrValid = false) (bus : Bus) :
    Constructs dev bus ↔ (dev.fields bus).Fits dev ∧
      ((dev.fields bus).FullyPrintable dev → Aligned dev (dev.fields bus)) := by
  obtain ⟨bus1, bus2, bus3, hread⟩ := readFrom_fields dev bus
  constructor
  · rintro ⟨rc, info, bus', hok, hconcat⟩
    obtain ⟨hpart, hhw, htag⟩ := fits_of_returns ⟨_, hok⟩
    obtain ⟨cleared, hppid, hload, heq⟩ := dataGet_eq h hpart hhw htag
    rw [heq] at hok
    obtain ⟨info', bus4, hrun, hok⟩ := run_bind_ok hok
    obtain ⟨hdate, hserial, ⟨hfour, hday, hmonth⟩, rest, hlist⟩ := hread.constructPpid_ok hppid hload hrun
    have hfits : (dev.fields bus).Fits dev := ⟨hpart, hhw, htag, hdate, hserial, hfour, hday, hmonth⟩
    refine ⟨hfits, fun hprintable => ?_⟩
    have hinfo : readPins dev info' = (rc, info) := (Prod.mk.inj (Except.ok.inj hok)).1
    have hcstr := hconcat hprintable
    rw [← show (readPins dev info').2 = info from congrArg Prod.snd hinfo, readPins_ppid, hlist,
      storedCode_eq hprintable.length_mfgDate hprintable.digits] at hcstr
    exact (cstr_eq_ppid_iff hread.countryCode_le hread.mfgId_le (zero_notMem_ppid hprintable hfits) rest).mp hcstr
  · rintro ⟨hfits, haligned⟩
    obtain ⟨cleared, hppid, hload, heq⟩ := dataGet_eq h hfits.partNum hfits.hwRevision hfits.serviceTag
    obtain ⟨info', bus4, hrun⟩ := hread.returns_constructPpid hppid hload hfits.mfgDate hfits.serialNumber
      ⟨hfits.four_le, hfits.day, hfits.month⟩
    obtain ⟨-, -, -, rest, hlist⟩ := hread.constructPpid_ok hppid hload hrun
    refine ⟨(readPins dev info').1, (readPins dev info').2, bus4, ?_, fun hprintable => ?_⟩
    · rw [heq, run_bind_of hrun]
      rfl
    · rw [readPins_ppid, hlist, storedCode_eq hprintable.length_mfgDate hprintable.digits]
      exact (cstr_eq_ppid_iff hread.countryCode_le hread.mfgId_le (zero_notMem_ppid hprintable hfits) rest).mpr
        (haligned hprintable)

/-- Country code, part number, manufacturer, date and serial number one after the other -/
def labelDevice : EntityInfoDevice where
  ppid := ⟨0, 0⟩
  partNum := ⟨2, 7⟩
  hwRevision := ⟨0, 0⟩
  serviceTag := ⟨0, 0⟩
  mfgId := ⟨8, 12⟩
  mfgDate := ⟨13, 18⟩
  serialNumber := ⟨19, 22⟩
  countryCode := ⟨0, 1⟩
  airFlowStatus := none
  currentType := none
  noOfFans := 1
  maxFanSpeed := 0
  ppidAddrValid := false

def busOf (s : String) : Bus := ⟨fun a => (bytesOf s).getD a.toNat 0, fun _ => none, 0⟩

theorem constructs_label : Constructs labelDevice (busOf "CN0ABCDE123451807040001") :=
  (constructs_iff rfl _).mpr ⟨⟨by decide +kernel, by decide +kernel, by decide +kernel, by decide +kernel,
    fun _ => by decide +kernel, by decide +kernel, by decide +kernel, by decide +kernel⟩,
    fun _ => ⟨by decide +kernel, by decide +kernel⟩⟩

def faultOf {α : Type} : Checked α → Option Fault
  | .error f => some f
  | .ok _ => none

/-- The terminator of a part number of ten characters is written behind the array, and the 99th day is looked up
behind the table. -/
theorem not_constructs_label :
    faultOf (entityInfoDataGet { labelDevice with partNum := ⟨2, 11⟩ } .zero (busOf "CN0ABCDE123451807040001")) =
      some (.store 10) ∧
    ¬Constructs { labelDevice with partNum := ⟨2, 11⟩ } (busOf "CN0ABCDE123451807040001") ∧
    faultOf (entityInfoDataGet labelDevice .zero (busOf "CN0ABCDE123451807990001")) = some (.load 99) ∧
    ¬Constructs labelDevice (busOf "CN0ABCDE123451807990001") := by
  have hpart : faultOf (entityInfoDataGet { labelDevice with partNum := ⟨2, 11⟩ } .zero
      (busOf "CN0ABCDE123451807040001")) = some (.store 10) := by decide +kernel
  have hday : faultOf (entityInfoDataGet labelDevice .zero (busOf "CN0ABCDE123451807990001")) = some (.load 99) := by
    decide +kernel
  refine ⟨hpart, ?_, hday, ?_⟩
  · rintro ⟨rc, info, bus', hok, -⟩
    rw [hok] at hpart
    cases hpart
  · rintro ⟨rc, info, bus', hok, -⟩
    rw [hok] at hday
    cases hday

end DataGet

end OpxSdi.Sf
