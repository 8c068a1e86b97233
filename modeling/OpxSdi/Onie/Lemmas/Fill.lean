import OpxSdi.Onie.Eeprom

/-!
# One turn of the TLV loop

The `switch` reads its field and nothing else, except the MAC count, which reads two value bytes
whatever the length is. So it does the same on any two buffers that agree on the field.
-/

namespace OpxSdi.Onie

open Lib

theorem copyLoop_lockstep {k m : Nat} {p q : Ptr} (h : Ptr.Agree m p q) (n d : Nat)
    (dst : Vector Byte k) (hm : d + n ≤ m) (hk : d + n < k) :
    Lockstep (copyLoop p n d dst) (copyLoop q n d dst) := by
  induction n generalizing d dst with
  | zero => exact store_lockstep dst 0 hk
  | succ n ih =>
      refine (h d (by omega)).bind fun c _ => ?_
      by_cases hc : c = 0
      · simp only [hc, ↓reduceIte]
        exact store_lockstep dst 0 (by omega)
      · simp only [hc, ↓reduceIte]
        by_cases hp : isprint c
        · simp only [hp, Bool.not_true, Bool.false_eq_true, ↓reduceIte]
          exact (store_lockstep dst c (by omega)).bind fun dst' _ =>
            ih (d + 1) dst' (by omega) (by omega)
        · simp only [hp, Bool.not_false, ↓reduceIte]
          exact store_lockstep dst 0 (by omega)

theorem copyBytesToString_lockstep {k n : Nat} {p q : Ptr} (h : Ptr.Agree n p q) (dst : Vector Byte k)
    (hk : 0 < k) : Lockstep (copyBytesToString dst p n) (copyBytesToString dst q n) := by
  unfold copyBytesToString
  split
  · exact copyLoop_lockstep h n 0 dst (by omega) (by omega)
  · exact copyLoop_lockstep h (k - 1) 0 dst (by omega) (by omega)

/-! ## The fields -/

/-- Two pointers at the same field: the bytes the `switch` may read can be read and are the same. -/
structure SameField (p q : Ptr) : Prop where
  tag : Lockstep (p.load 0) (q.load 0)
  length : Lockstep (p.load 1) (q.load 1)
  value : ∀ b, p.load 1 = .ok b → Ptr.Agree b.toNat (p.add 2) (q.add 2)
  macs : ∀ b, p.load 0 = .ok b → OnieTag.ofByte b = .noMacs → Ptr.Agree 4 p q

theorem SameField.of_agree {p q : Ptr} {n : Nat} (h : Ptr.Agree (n + 2) p q)
    (hn : ∀ b, p.load 1 = .ok b → b.toNat ≤ n)
    (hm : ∀ b, p.load 0 = .ok b → OnieTag.ofByte b = .noMacs → 2 ≤ n) : SameField p q where
  tag := h 0 (by omega)
  length := h 1 (by omega)
  value b hb := h.add 2 (by have := hn b hb; omega)
  macs b hb ht := h.mono (by have := hm b hb ht; omega)

variable {E : Ext} {parserType : EntityParser} {p q : Ptr}

theorem copyTlvString_lockstep {k : Nat} (h : SameField p q) (dst : Vector Byte k) (hk : 0 < k) :
    Lockstep (copyTlvString dst p) (copyTlvString dst q) :=
  h.length.bind fun b hb => copyBytesToString_lockstep (h.value b hb) dst hk

theorem fillVendorExtn_lockstep (h : SameField p q) (info : EntityInfo) :
    Lockstep (fillVendorExtn E p parserType info) (fillVendorExtn E q parserType info) := by
  unfold fillVendorExtn
  split
  · refine h.length.bind fun b hb => ?_
    have hlt : b.toNat < 256 := b.isLt
    refine (memcpy_lockstep (h.value b hb) _ (by simp only [maxTlvValueLen]; omega)).bind fun v _ => ?_
    exact .pure _
  · exact .pure _

theorem fillTlv_lockstep (h : SameField p q) (st : FillState) :
    Lockstep (fillTlv E parserType p st) (fillTlv E parserType q st) := by
  refine h.tag.bind fun tag htag => ?_
  cases hto : OnieTag.ofByte tag with
  | productName => exact (copyTlvString_lockstep h _ (by decide)).bind fun _ _ => .pure _
  | partNo => exact (copyTlvString_lockstep h _ (by decide)).bind fun _ _ => .pure _
  | serialNo => exact (copyTlvString_lockstep h _ (by decide)).bind fun _ _ => .pure _
  | labelVersion => exact (copyTlvString_lockstep h _ (by decide)).bind fun _ _ => .pure _
  | platformName => exact (copyTlvString_lockstep h _ (by decide)).bind fun _ _ => .pure _
  | vendor => exact (copyTlvString_lockstep h _ (by decide)).bind fun _ _ => .pure _
  | svcTag => exact (copyTlvString_lockstep h _ (by decide)).bind fun _ _ => .pure _
  | macAddr =>
      refine h.length.bind fun b hb => ?_
      split
      · rename_i hlen
        exact (memcpy_lockstep (h.value b hb) _ (by omega)).bind fun _ _ => .pure _
      · exact .pure _
  | noMacs =>
      have hm := h.macs tag htag hto
      exact (hm 3 (by omega)).bind fun lo _ => (hm 2 (by omega)).bind fun hi _ => .pure _
  | vendorExtn => exact (fillVendorExtn_lockstep h _).bind fun _ _ => .pure _
  | other => exact .pure _

/-- The MAC count of a field that is too short is read outside the field. -/
theorem fillTlv_short_noMacs (E : Ext) (parserType : EntityParser) (t : Tlv)
    (ht : OnieTag.ofByte t.tag = .noMacs) (hlen : t.length < 2)
    (st : FillState) : ∃ f, fillTlv E parserType ⟨t.encode, 0⟩ st = .error f := by
  have htag : Ptr.load ⟨t.encode, 0⟩ 0 = .ok t.tag := by simp [Ptr.load, Tlv.encode]
  have hlo : Ptr.load ⟨t.encode, 0⟩ 3 = .error (.load (0 + 3)) :=
    Ptr.load_error (by simp only [Tlv.encode_length]; omega)
  exact ⟨.load 3, by simp [fillTlv, htag, hlo, ht, bind, Except.bind]⟩

/-- A field whose bytes and the length byte after it are in the buffer is interpreted. -/
theorem fillTlv_returns (E : Ext) (parserType : EntityParser) {buf : List Byte} (off : Nat)
    (h : off + (fieldLen buf off + 2) + 1 < buf.length) (st : FillState) :
    ∃ st', fillTlv E parserType ⟨buf, off⟩ st = .ok st' := by
  have hload : Ptr.load ⟨buf, off⟩ 1 = .ok (buf.getD (off + 1) 0) := Ptr.load_ok (by simp only; omega)
  have hsame : SameField ⟨buf, off⟩ ⟨buf, off⟩ := by
    have hfour : Ptr.Agree 4 ⟨buf, off⟩ ⟨buf, off⟩ := Ptr.Agree.refl (by simp only; omega)
    refine ⟨hfour 0 (by omega), hfour 1 (by omega), fun b hb => ?_, fun _ _ _ => hfour⟩
    obtain rfl : buf.getD (off + 1) 0 = b := by rw [hload] at hb; exact Except.ok.inj hb
    refine Ptr.Agree.refl ?_
    simp only [Ptr.add_off, Ptr.add_buf]
    simp only [fieldLen] at h
    omega
  exact (fillTlv_lockstep hsame st).returns

/-- Inside an image a field is interpreted as on its own, if it has the bytes its tag asks for. -/
theorem fillTlv_encode (E : Ext) (parserType : EntityParser) (pre post : List Byte) (t : Tlv)
    (ht : OnieTag.ofByte t.tag = .noMacs → 2 ≤ t.length) (st : FillState) :
    Lockstep (fillTlv E parserType ⟨pre ++ (t.encode ++ post), pre.length⟩ st)
      (fillTlv E parserType ⟨t.encode, 0⟩ st) := by
  have hagree := Tlv.agree_encode pre post t
  have htag : Ptr.load ⟨t.encode, 0⟩ 0 = .ok t.tag := by simp [Ptr.load, Tlv.encode]
  have hlen : Ptr.load ⟨t.encode, 0⟩ 1 = .ok (BitVec.ofNat 8 t.value.length) := by
    simp [Ptr.load, Tlv.encode]
  refine fillTlv_lockstep (.of_agree hagree ?_ ?_) st
  · intro b hb
    rw [(hagree 1 (by omega)).eq, hlen] at hb
    obtain rfl := Except.ok.inj hb
    exact Nat.le_of_eq t.length_toNat
  · intro b hb
    rw [(hagree 0 (by omega)).eq, htag] at hb
    obtain rfl := Except.ok.inj hb
    exact ht

/-! ## The writes -/

theorem copyLoop_onlyLoads {k : Nat} (p : Ptr) (n d : Nat) (dst : Vector Byte k) (hk : d + n < k) :
    OnlyLoads (copyLoop p n d dst) := by
  induction n generalizing d dst with
  | zero => exact store_onlyLoads dst 0 hk
  | succ n ih =>
      refine (p.load_onlyLoads d).bind fun c _ => ?_
      split
      · exact store_onlyLoads dst 0 (by omega)
      · split
        · exact store_onlyLoads dst 0 (by omega)
        · exact (store_onlyLoads dst c (by omega)).bind fun dst' _ => ih (d + 1) dst' (by omega)

theorem copyTlvString_onlyLoads {k : Nat} (dst : Vector Byte k) (p : Ptr) (hk : 0 < k) :
    OnlyLoads (copyTlvString dst p) := by
  refine (p.load_onlyLoads 1).bind fun length _ => ?_
  unfold copyBytesToString
  split
  · exact copyLoop_onlyLoads _ _ 0 dst (by omega)
  · exact copyLoop_onlyLoads _ _ 0 dst (by omega)

theorem fillVendorExtn_onlyLoads (p : Ptr) (info : EntityInfo) :
    OnlyLoads (fillVendorExtn E p parserType info) := by
  unfold fillVendorExtn
  split
  · refine (p.load_onlyLoads 1).bind fun b _ => ?_
    have hlt : b.toNat < 256 := b.isLt
    exact (memcpy_onlyLoads _ _ _ (by simp only [maxTlvValueLen]; omega)).bind fun _ _ => .ok _
  · exact .ok _

/-- Whatever the field is, every write stays inside the member it fills. -/
theorem fillTlv_onlyLoads (p : Ptr) (st : FillState) : OnlyLoads (fillTlv E parserType p st) := by
  refine (p.load_onlyLoads 0).bind fun tag _ => ?_
  cases OnieTag.ofByte tag with
  | productName => exact (copyTlvString_onlyLoads _ p (by decide)).bind fun _ _ => .ok _
  | partNo => exact (copyTlvString_onlyLoads _ p (by decide)).bind fun _ _ => .ok _
  | serialNo => exact (copyTlvString_onlyLoads _ p (by decide)).bind fun _ _ => .ok _
  | labelVersion => exact (copyTlvString_onlyLoads _ p (by decide)).bind fun _ _ => .ok _
  | platformName => exact (copyTlvString_onlyLoads _ p (by decide)).bind fun _ _ => .ok _
  | vendor => exact (copyTlvString_onlyLoads _ p (by decide)).bind fun _ _ => .ok _
  | svcTag => exact (copyTlvString_onlyLoads _ p (by decide)).bind fun _ _ => .ok _
  | macAddr =>
      refine (p.load_onlyLoads 1).bind fun b _ => ?_
      split
      · rename_i hlen
        exact (memcpy_onlyLoads _ _ _ (by omega)).bind fun _ _ => .ok _
      · exact .ok _
  | noMacs => exact (p.load_onlyLoads 3).bind fun _ _ => (p.load_onlyLoads 2).bind fun _ _ => .ok _
  | vendorExtn => exact (fillVendorExtn_onlyLoads p _).bind fun _ _ => .ok _
  | other => exact .ok _

end OpxSdi.Onie
