import Mathlib.Order.Basic
import Mathlib.Order.Nat
import OpxSdi.Onie.Lemmas.Fill

/-!
# The TLV loop

The cursor goes along the chain of field boundaries and the counter is what `remaining` says, so the
loop stops at the first boundary where `remaining` is not positive.
-/

namespace OpxSdi.Onie

open Lib

/-- The counter before turn `k` of a loop that begins at `off` with `tlvLen`. -/
def remaining (buf : List Byte) (off : Nat) (tlvLen : Int) (k : Nat) : Int :=
  tlvLen + boundary buf off 1 + k - boundary buf off (k + 1)

section Remaining

variable {buf : List Byte} {off : Nat} {tlvLen : Int}

@[simp] theorem remaining_zero : remaining buf off tlvLen 0 = tlvLen := by
  simp only [remaining, Nat.zero_add]; omega

theorem remaining_succ (k : Nat) :
    remaining buf (boundary buf off 1) (tlvLen - fieldLen buf (boundary buf off 1) - 1) k =
      remaining buf off tlvLen (k + 1) := by
  have htwo : boundary buf (boundary buf off 1) 1 =
      boundary buf off 1 + (fieldLen buf (boundary buf off 1) + 2) :=
    rfl
  have hk : boundary buf (boundary buf off 1) (k + 1) = boundary buf off (k + 1 + 1) := by
    rw [← boundary_add, Nat.add_comm 1 (k + 1)]
  simp only [remaining, htwo, hk]
  omega

theorem remaining_le (buf : List Byte) (off : Nat) (tlvLen : Int) (k : Nat) :
    remaining buf off tlvLen k ≤ tlvLen - k := by
  have h := boundary_mono buf off (show 1 ≤ k + 1 by omega)
  simp only [remaining]
  omega

theorem remaining_stops (buf : List Byte) (off : Nat) (tlvLen : Int) : ∃ k, remaining buf off tlvLen k ≤ 0 :=
  ⟨tlvLen.toNat, by have := remaining_le buf off tlvLen tlvLen.toNat; omega⟩

end Remaining

theorem range_boundary_succ (buf : List Byte) (off m : Nat) :
    (List.range (m + 1)).map (boundary buf off) =
      off :: (List.range m).map (boundary buf (boundary buf off 1)) := by
  rw [List.range_succ_eq_map, List.map_cons, List.map_map]
  refine congrArg (List.cons off) (List.map_congr_left fun k _ => ?_)
  rw [Function.comp_apply, Nat.succ_eq_add_one, Nat.add_comm k 1, boundary_add]

variable {E : Ext} {parserType : EntityParser} {buf : List Byte}

/-- One turn of the loop when the field and the next length byte can be read. -/
theorem fillLoop_turn {fuel off : Nat} {tlvLen : Int} {st st' : FillState} (hpos : 0 < tlvLen)
    (hst : fillTlv E parserType ⟨buf, off⟩ st = .ok st') (hnext : boundary buf off 1 + 1 < buf.length) :
    fillLoop E parserType buf (fuel + 1) tlvLen off st =
      (fillLoop E parserType buf fuel (tlvLen - fieldLen buf (boundary buf off 1) - 1)
        (boundary buf off 1) st').map fun r => { r with visited := off :: r.visited } := by
  have hb : boundary buf off 1 = off + (fieldLen buf off + 2) := rfl
  have hlen : Ptr.load ⟨buf, off⟩ 1 = .ok (buf.getD (off + 1) 0) := Ptr.load_ok (by simp only; omega)
  have hnlen : Ptr.load ⟨buf, boundary buf off 1⟩ 1 = .ok (buf.getD (boundary buf off 1 + 1) 0) :=
    Ptr.load_ok hnext
  have hcur : off + ((buf.getD (off + 1) 0).toNat + tlvFieldSize) = boundary buf off 1 := rfl
  have hneg : ¬ tlvLen ≤ 0 := by omega
  rw [fillLoop, if_neg hneg]
  simp only [hst, hlen, hcur, hnlen, bind, Except.bind, Except.map]
  rfl

/-- A loop that stops after `m` turns, the last boundary in the buffer: it has run the `switch` at the
first `m` boundaries. -/
theorem fillLoop_stops {fuel off m : Nat} {tlvLen : Int} {st : FillState} (hfuel : m ≤ fuel)
    (hgo : ∀ k < m, 0 < remaining buf off tlvLen k) (hstop : remaining buf off tlvLen m ≤ 0)
    (hbuf : m = 0 ∨ boundary buf off m + 1 < buf.length) :
    ∃ st', ((List.range m).map (boundary buf off)).foldlM
        (fun st p => fillTlv E parserType ⟨buf, p⟩ st) st = .ok st' ∧
      fillLoop E parserType buf fuel tlvLen off st =
        .ok ⟨st', (List.range m).map (boundary buf off)⟩ := by
  induction m generalizing fuel off tlvLen st with
  | zero =>
      rw [remaining_zero] at hstop
      refine ⟨st, rfl, ?_⟩
      cases fuel with
      | zero => rw [fillLoop, if_pos hstop]; rfl
      | succ fuel => rw [fillLoop, if_pos hstop]; rfl
  | succ m ih =>
      have hlast : boundary buf off (m + 1) + 1 < buf.length := by omega
      have hpos : 0 < tlvLen := by simpa only [remaining_zero] using hgo 0 (by omega)
      have hmono := boundary_mono buf off (show 1 ≤ m + 1 by omega)
      have hone : boundary buf off 1 + 1 < buf.length := by omega
      obtain ⟨fuel, rfl⟩ : ∃ f, fuel = f + 1 := ⟨fuel - 1, by omega⟩
      obtain ⟨st₁, hst₁⟩ := fillTlv_returns E parserType off hone st
      obtain ⟨st', hfold, hloop⟩ := @ih fuel (boundary buf off 1)
        (tlvLen - fieldLen buf (boundary buf off 1) - 1) st₁ (by omega)
        (fun k hk => by rw [remaining_succ]; exact hgo (k + 1) (by omega))
        (by rw [remaining_succ]; exact hstop)
        (.inr (by rw [← boundary_add, Nat.add_comm 1 m]; exact hlast))
      rw [range_boundary_succ]
      refine ⟨st', ?_, ?_⟩
      · rw [List.foldlM_cons, hst₁]
        exact hfold
      · rw [fillLoop_turn hpos hst₁ hone, hloop]
        rfl

/-- A turn of a loop that returns has read the field and the next length byte. -/
theorem fillLoop_ok_turn {fuel off : Nat} {tlvLen : Int} {st : FillState} {r : FillResult}
    (hpos : 0 < tlvLen) (h : fillLoop E parserType buf fuel tlvLen off st = .ok r) :
    boundary buf off 1 + 1 < buf.length ∧ ∃ fuel' st' r',
      fillLoop E parserType buf fuel' (tlvLen - fieldLen buf (boundary buf off 1) - 1)
        (boundary buf off 1) st' = .ok r' := by
  have hneg : ¬ tlvLen ≤ 0 := by omega
  cases fuel with
  | zero => rw [fillLoop, if_neg hneg] at h; cases h
  | succ fuel =>
      rw [fillLoop, if_neg hneg] at h
      obtain ⟨st', -, h⟩ := Checked.bind_eq_ok h
      obtain ⟨b, hb, h⟩ := Checked.bind_eq_ok h
      obtain ⟨b', hb', h⟩ := Checked.bind_eq_ok h
      obtain ⟨r', hr', -⟩ := Checked.bind_eq_ok h
      obtain ⟨-, rfl⟩ := Ptr.lt_of_load hb
      obtain ⟨hlt, rfl⟩ := Ptr.lt_of_load hb'
      exact ⟨hlt, fuel, st', r', hr'⟩

/-- A loop that gets to a boundary outside the buffer does not return. -/
theorem fillLoop_overruns {fuel off m : Nat} {tlvLen : Int} {st : FillState} {r : FillResult}
    (hgo : ∀ k ≤ m, 0 < remaining buf off tlvLen k)
    (hbuf : buf.length ≤ boundary buf off (m + 1) + 1) :
    fillLoop E parserType buf fuel tlvLen off st ≠ .ok r := by
  intro h
  have hpos : 0 < tlvLen := by simpa only [remaining_zero] using hgo 0 (by omega)
  obtain ⟨hlt, fuel', st', r', h'⟩ := fillLoop_ok_turn hpos h
  induction m generalizing fuel off tlvLen st r fuel' st' r' with
  | zero =>
      rw [Nat.zero_add] at hbuf
      omega
  | succ m ih =>
      have hgo' (k : Nat) (hk : k ≤ m) :
          0 < remaining buf (boundary buf off 1) (tlvLen - fieldLen buf (boundary buf off 1) - 1) k := by
        rw [remaining_succ]; exact hgo (k + 1) (by omega)
      have hpos' := hgo' 0 (by omega)
      rw [remaining_zero] at hpos'
      obtain ⟨hlt', fuel'', st'', r'', h''⟩ := fillLoop_ok_turn hpos' h'
      exact ih hgo' (by rw [← boundary_add, Nat.add_comm 1]; exact hbuf) h' hpos' hlt' _ _ _ h''

/-- The loop ends, and a fault in it is a read. -/
theorem fillLoop_onlyLoads {fuel off : Nat} {tlvLen : Int} (st : FillState)
    (hfuel : tlvLen.toNat ≤ fuel) : OnlyLoads (fillLoop E parserType buf fuel tlvLen off st) := by
  induction fuel generalizing off tlvLen st with
  | zero =>
      rw [fillLoop, if_pos (by omega)]
      exact .ok _
  | succ fuel ih =>
      rw [fillLoop]
      split
      · exact .ok _
      · refine (fillTlv_onlyLoads _ st).bind fun st' _ => ?_
        refine (Ptr.load_onlyLoads _ 1).bind fun length _ => ?_
        refine (Ptr.load_onlyLoads _ 1).bind fun nextLength _ => ?_
        refine (ih st' ?_).bind fun r _ => .ok _
        simp only [tlFieldSize, tlvFieldSize]
        omega

/-! ## When the loop returns -/

/-- The loop runs to the first boundary where nothing remains, and returns if that is in the buffer. -/
theorem fillLoop_spec (E : Ext) (parserType : EntityParser) (buf : List Byte) (off : Nat) {fuel : Nat}
    {tlvLen : Int} (st : FillState) (hfuel : tlvLen.toNat ≤ fuel) :
    ∃ m, (∀ k < m, 0 < remaining buf off tlvLen k) ∧ remaining buf off tlvLen m ≤ 0 ∧
      ((m = 0 ∨ boundary buf off m + 1 < buf.length) ∧
          (∃ st', ((List.range m).map (boundary buf off)).foldlM
              (fun st p => fillTlv E parserType ⟨buf, p⟩ st) st = .ok st' ∧
            fillLoop E parserType buf fuel tlvLen off st =
              .ok ⟨st', (List.range m).map (boundary buf off)⟩) ∨
        (m ≠ 0 ∧ buf.length ≤ boundary buf off m + 1) ∧
          ∀ r, fillLoop E parserType buf fuel tlvLen off st ≠ .ok r) := by
  classical
  have hex := remaining_stops buf off tlvLen
  have hgo (k : Nat) (hk : k < Nat.find hex) : 0 < remaining buf off tlvLen k := by
    have := Nat.find_min hex hk
    omega
  refine ⟨Nat.find hex, hgo, Nat.find_spec hex, ?_⟩
  rcases Nat.eq_zero_or_pos (Nat.find hex) with hz | hp
  · rw [hz] at hgo ⊢
    exact .inl ⟨.inl rfl, fillLoop_stops (by omega) hgo (hz ▸ Nat.find_spec hex) (.inl rfl)⟩
  · rcases Nat.lt_or_ge (boundary buf off (Nat.find hex) + 1) buf.length with hlt | hge
    · have hlast := hgo (Nat.find hex - 1) (by omega)
      have hle := remaining_le buf off tlvLen (Nat.find hex - 1)
      exact .inl ⟨.inr hlt, fillLoop_stops (by omega) hgo (Nat.find_spec hex) (.inr hlt)⟩
    · refine .inr ⟨⟨by omega, hge⟩, fun r => fillLoop_overruns (m := Nat.find hex - 1) ?_ ?_⟩
      · exact fun k hk => hgo k (by omega)
      · rw [Nat.sub_add_cancel hp]; exact hge

theorem fillLoop_returns_iff {fuel off : Nat} {tlvLen : Int} (st : FillState)
    (hfuel : tlvLen.toNat ≤ fuel) :
    (∃ r, fillLoop E parserType buf fuel tlvLen off st = .ok r) ↔
      tlvLen ≤ 0 ∨ ∃ m ≥ 1, boundary buf off m + 1 < buf.length ∧ remaining buf off tlvLen m ≤ 0 := by
  obtain ⟨m, hgo, hstop, ⟨hin, st', -, hloop⟩ | ⟨⟨hm, hout⟩, hnone⟩⟩ :=
    fillLoop_spec E parserType buf off st hfuel
  · refine ⟨fun _ => ?_, fun _ => ⟨_, hloop⟩⟩
    rcases hin with rfl | hin
    · exact .inl (by simpa only [remaining_zero] using hstop)
    · rcases Nat.eq_zero_or_pos m with rfl | hp
      · exact .inl (by simpa only [remaining_zero] using hstop)
      · exact .inr ⟨m, hp, hin, hstop⟩
  · refine ⟨fun ⟨r, hr⟩ => absurd hr (hnone r), fun h => ?_⟩
    rcases h with hz | ⟨n, -, hn, hns⟩
    · have := hgo 0 (by omega)
      rw [remaining_zero] at this
      omega
    · rcases Nat.lt_or_ge n m with hlt | hge
      · have := hgo n hlt
        omega
      · have := boundary_mono buf off hge
        omega

end OpxSdi.Onie
