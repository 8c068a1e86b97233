import OpxSdi.CommDev.Driver

/-!
# Receiving bytes

A read sends an offset and then receives bytes one by one, whatever becomes of each. Bytes that have been
received are in the buffer, and the code faults iff one of them belongs outside.
-/

namespace OpxSdi.CommDev

open Lib

variable {σ : Type} {B : SmBus σ}

/-! ## What the device answers -/

def receive (B : SmBus σ) : Nat → σ → List (Except Errno Byte) × σ
  | 0, s => ([], s)
  | n + 1, s => ((B.recvByte s).1 :: (receive B n (B.recvByte s).2).1, (receive B n (B.recvByte s).2).2)

def lastRc : TStdError → List (Except Errno Byte) → TStdError
  | rc, [] => rc
  | _, .ok _ :: rs => lastRc .ok rs
  | _, .error e :: rs => lastRc (.errcode e) rs

/-- An offset and the receptions after it, if the device has taken the offset. -/
structure Exchange (σ : Type) where
  rc : TStdError
  received : List (Except Errno Byte)
  state : σ

def exchange (B : SmBus σ) (offset : BitVec 16) (n : Nat) (s : σ) : Exchange σ :=
  let (rc, s) := B.writeByte (lowByte offset) (highByte offset) s
  if rc = .ok then ⟨lastRc .ok (receive B n s).1, (receive B n s).1, (receive B n s).2⟩
  else ⟨rc, [], s⟩

theorem receive_length (n : Nat) (s : σ) : (receive B n s).1.length = n := by
  induction n generalizing s with
  | zero => rfl
  | succ n ih => simp [receive, ih]

theorem exchange_length (offset : BitVec 16) (n : Nat) (s : σ) :
    (exchange B offset n s).received.length ≤ n := by
  unfold exchange
  simp only
  split
  · exact Nat.le_of_eq (receive_length n _)
  · exact Nat.zero_le n

theorem lastRc_ok {rc : TStdError} {rs : List (Except Errno Byte)} (h : lastRc rc rs = .ok) (hne : rs ≠ []) :
    ∃ b, rs[rs.length - 1]? = some (.ok b) := by
  induction rs generalizing rc with
  | nil => exact absurd rfl hne
  | cons r rs ih =>
      cases rs with
      | nil =>
          cases r with
          | ok b => exact ⟨b, rfl⟩
          | error e => cases h
      | cons r' rs =>
          have hne' : r' :: rs ≠ [] := List.cons_ne_nil r' rs
          obtain ⟨b, hb⟩ : ∃ b, (r' :: rs)[(r' :: rs).length - 1]? = some (.ok b) := by
            cases r with
            | ok _ => exact ih h hne'
            | error _ => exact ih h hne'
          exact ⟨b, by simpa using hb⟩

theorem lastRc_of_last_ok {rc : TStdError} {rs : List (Except Errno Byte)} {b : Byte}
    (h : rs.getLast? = some (.ok b)) : lastRc rc rs = .ok := by
  induction rs generalizing rc with
  | nil => cases h
  | cons r rs ih =>
      cases rs with
      | nil =>
          obtain rfl := Option.some.inj h
          rfl
      | cons r' rs =>
          rw [List.getLast?_cons_cons] at h
          cases r with
          | ok _ => exact ih h
          | error _ => exact ih h

/-! ## What the loop leaves in the buffer -/

def fill : (i : Nat) → List (Except Errno Byte) → Buffer → Buffer
  | _, [], buf => buf
  | i, .ok b :: rs, buf => fill (i + 1) rs (buf.set i (some b))
  | i, .error _ :: rs, buf => fill (i + 1) rs buf

/-- Every received byte has a place in a buffer of `n` bytes. -/
def Fits (n i : Nat) (rs : List (Except Errno Byte)) : Prop := ∀ k b, rs[k]? = some (.ok b) → i + k < n

@[simp] theorem fill_length (i : Nat) (rs : List (Except Errno Byte)) (buf : Buffer) :
    (fill i rs buf).length = buf.length := by
  induction rs generalizing i buf with
  | nil => rfl
  | cons r rs ih => cases r with
    | ok b => simp [fill, ih]
    | error e => simp [fill, ih]

theorem fill_before {i j : Nat} (rs : List (Except Errno Byte)) (buf : Buffer) (h : j < i) :
    (fill i rs buf)[j]? = buf[j]? := by
  induction rs generalizing i buf with
  | nil => rfl
  | cons r rs ih => cases r with
    | ok b => rw [fill, ih _ (by omega), List.getElem?_set_ne (by omega)]
    | error e => rw [fill, ih _ (by omega)]

theorem fill_received (buf : Buffer) (i : Nat) {k : Nat} {rs : List (Except Errno Byte)} {b : Byte}
    (h : rs[k]? = some (.ok b)) (hlt : i + k < buf.length) : (fill i rs buf)[i + k]? = some (some b) := by
  induction rs generalizing i k buf with
  | nil => cases h
  | cons r rs ih =>
      cases k with
      | zero =>
          obtain rfl := Option.some.inj h
          rw [Nat.add_zero, fill, fill_before _ _ (by omega), List.getElem?_set_self (by omega)]
      | succ k =>
          rw [show i + (k + 1) = i + 1 + k by omega]
          cases r with
          | ok b' => exact ih _ (i + 1) h (by rw [List.length_set]; omega)
          | error e => exact ih _ (i + 1) h (by omega)

theorem fill_not_received (buf : Buffer) (i : Nat) {k : Nat} {rs : List (Except Errno Byte)}
    (h : ∀ b, rs[k]? ≠ some (.ok b)) : (fill i rs buf)[i + k]? = buf[i + k]? := by
  induction rs generalizing i k buf with
  | nil => rfl
  | cons r rs ih =>
      cases k with
      | zero =>
          cases r with
          | ok b => exact absurd rfl (h b)
          | error e =>
              rw [Nat.add_zero, fill]
              exact fill_before rs buf (by omega)
      | succ k =>
          rw [show i + (k + 1) = i + 1 + k by omega]
          have ih' := fun buf' => ih buf' (i + 1) h
          cases r with
          | ok b => rw [fill, ih', List.getElem?_set_ne (by omega)]
          | error e => rw [fill, ih']

theorem recvLoop_ok {n i : Nat} {rc : TStdError} {buf : Buffer} {s : σ}
    (h : Fits buf.length i (receive B n s).1) :
    (recvLoop B n i rc buf).out s =
      (.ok (lastRc rc (receive B n s).1, fill i (receive B n s).1 buf), (receive B n s).2) := by
  induction n generalizing i rc buf s with
  | zero => rfl
  | succ n ih =>
      have hrest : ∀ buf' : Buffer, buf'.length = buf.length →
          Fits buf'.length (i + 1) (receive B n (B.recvByte s).2).1 := fun buf' hlen k b hk => by
        have := h (k + 1) b hk
        omega
      rw [recvLoop, Acts.out_bind_ok (Acts.out_act _ s)]
      cases hr : (B.recvByte s).1 with
      | ok b =>
          have hlt : i < buf.length := h 0 b (by simp [receive, hr])
          simp only [receive, hr, lastRc, fill]
          rw [Acts.out_bind_ok (by rw [Acts.out_check, Buffer.store_ok b hlt])]
          exact ih (hrest _ List.length_set)
      | error e =>
          simp only [receive, hr, lastRc, fill]
          exact ih (hrest buf rfl)

theorem recvLoop_fault {n i : Nat} {rc : TStdError} {buf : Buffer} {s : σ}
    (h : ¬ Fits buf.length i (receive B n s).1) : ¬ (recvLoop B n i rc buf).Returns s := by
  induction n generalizing i rc buf s with
  | zero => exact absurd (fun k b hk => by cases hk) h
  | succ n ih =>
      rw [recvLoop, Acts.returns_bind_iff (Acts.out_act _ s)]
      cases hr : (B.recvByte s).1 with
      | ok b =>
          rcases Nat.lt_or_ge i buf.length with hlt | hge
          · simp only
            rw [Acts.returns_bind_iff (by rw [Acts.out_check, Buffer.store_ok b hlt])]
            refine ih fun hfit => h fun k b' hk => ?_
            rw [List.length_set] at hfit
            cases k with
            | zero => exact hlt
            | succ k =>
                have := hfit k b' hk
                omega
          · rintro ⟨r, s', hout⟩
            simp only at hout
            rw [Acts.out_bind_error (by rw [Acts.out_check, Buffer.store_fault b hge])] at hout
            cases hout
      | error e =>
          refine ih fun hfit => h fun k b' hk => ?_
          cases k with
          | zero =>
              simp only [receive, hr] at hk
              cases hk
          | succ k =>
              have := hfit k b' hk
              omega

/-- A read returns iff what it receives fits, with the bytes in the buffer. -/
theorem commDevRecvByte_ok {offset : BitVec 16} {n : Nat} {buf : Buffer} {s : σ}
    (h : Fits buf.length 0 (exchange B offset n s).received) :
    (commDevRecvByte B offset n buf).out s = (.ok ((exchange B offset n s).rc,
      fill 0 (exchange B offset n s).received buf), (exchange B offset n s).state) := by
  unfold exchange at h ⊢
  rw [commDevRecvByte, Acts.out_bind_ok (Acts.out_act _ s)]
  simp only at h ⊢
  split
  · rename_i hrc
    rw [if_pos hrc] at h
    rw [hrc]
    exact recvLoop_ok h
  · rfl

theorem commDevRecvByte_returns_iff {offset : BitVec 16} {n : Nat} {buf : Buffer} {s : σ} :
    (commDevRecvByte B offset n buf).Returns s ↔ Fits buf.length 0 (exchange B offset n s).received := by
  refine ⟨fun hret => Classical.byContradiction fun h => ?_, fun h => ⟨_, _, commDevRecvByte_ok h⟩⟩
  unfold exchange at h
  rw [commDevRecvByte, Acts.returns_bind_iff (Acts.out_act _ s)] at hret
  simp only at h hret
  split at hret
  · rename_i hrc
    rw [if_pos hrc] at h
    exact recvLoop_fault h hret
  · rename_i hrc
    rw [if_neg hrc] at h
    exact h fun k b hk => by cases hk

theorem fits_of_le {offset : BitVec 16} {n len : Nat} {s : σ} (h : n ≤ len) :
    Fits len 0 (exchange B offset n s).received := by
  intro k b hk
  have hlt : k < (exchange B offset n s).received.length := (List.getElem?_eq_some_iff.mp hk).1
  have := exchange_length (B := B) offset n s
  omega

/-! ## What has been received -/

theorem exchange_rc_of_last {offset : BitVec 16} {n k : Nat} {s : σ} {b : Byte}
    (h : (exchange B offset n s).received[k]? = some (.ok b)) (hk : k + 1 = n) :
    (exchange B offset n s).rc = .ok := by
  subst hk
  unfold exchange at h ⊢
  simp only at h ⊢
  split
  · rename_i hrc
    rw [if_pos hrc] at h
    refine lastRc_of_last_ok (b := b) ?_
    rw [List.getLast?_eq_getElem?, receive_length]
    exact h
  · rename_i hrc
    rw [if_neg hrc] at h
    cases h

theorem exchange_last_of_rc {offset : BitVec 16} {n : Nat} {s : σ}
    (h : (exchange B offset (n + 1) s).rc = .ok) :
    ∃ b, (exchange B offset (n + 1) s).received[n]? = some (.ok b) := by
  unfold exchange at h ⊢
  simp only at h ⊢
  split
  · rename_i hrc
    rw [if_pos hrc] at h
    have hlast := lastRc_ok h (List.ne_nil_of_length_pos (by rw [receive_length]; omega))
    rwa [receive_length, Nat.add_sub_cancel] at hlast
  · rename_i hrc
    rw [if_neg hrc] at h
    exact absurd h hrc

theorem fill_init (rs : List (Except Errno Byte)) {buf : Buffer} (h : buf.Init) : (fill 0 rs buf).Init := by
  intro i hi
  rw [fill_length] at hi
  by_cases hr : ∃ b, rs[i]? = some (.ok b)
  · obtain ⟨b, hb⟩ := hr
    exact ⟨b, by simpa using fill_received buf 0 hb (by omega)⟩
  · obtain ⟨b, hb⟩ := h i hi
    refine ⟨b, ?_⟩
    rw [← hb]
    simpa using fill_not_received buf 0 fun b' hb' => hr ⟨b', hb'⟩

theorem fill_ok {bs : List Byte} {buf : Buffer} (h : bs.length ≤ buf.length) :
    fill 0 (bs.map .ok) buf = bs.map some ++ buf.drop bs.length := by
  refine List.ext_getElem? fun k => ?_
  rcases Nat.lt_or_ge k bs.length with hlt | hge
  · have harrived : (bs.map Except.ok : List (Except Errno Byte))[k]? = some (.ok bs[k]) := by simp [hlt]
    have hfill := fill_received buf 0 harrived (by omega)
    rw [Nat.zero_add] at hfill
    rw [hfill, List.getElem?_append_left (by simpa using hlt)]
    simp [hlt]
  · have hnone (b : Byte) : (bs.map Except.ok : List (Except Errno Byte))[k]? ≠ some (.ok b) := by
      simp [Nat.not_lt.mpr hge]
    have hfill := fill_not_received buf 0 hnone
    rw [Nat.zero_add] at hfill
    rw [hfill, List.getElem?_append_right (by simpa using hge), List.length_map, List.getElem?_drop,
      Nat.add_sub_cancel' hge]

/-- A byte of a fresh variable can be used iff it has been received. -/
theorem load_received_iff {rs : List (Except Errno Byte)} {n i : Nat} (hi : i < n) {b : Byte} :
    (fill 0 rs (Buffer.indeterminate n)).load i = .ok b ↔ rs[i]? = some (.ok b) := by
  have hlen : (Buffer.indeterminate n).length = n := List.length_replicate
  constructor
  · intro h
    have hget := Buffer.load_ok h
    by_cases hr : ∃ b', rs[i]? = some (.ok b')
    · obtain ⟨b', hb'⟩ := hr
      have hfill := fill_received (Buffer.indeterminate n) 0 hb' (by omega)
      rw [Nat.zero_add, hget] at hfill
      rw [hb', Option.some.inj (Option.some.inj hfill)]
    · have hfill := fill_not_received (Buffer.indeterminate n) 0 fun b' hb' => hr ⟨b', hb'⟩
      rw [Nat.zero_add, hget] at hfill
      simp [Buffer.indeterminate, hi] at hfill
  · intro h
    have hfill := fill_received (Buffer.indeterminate n) 0 h (by omega)
    rw [Nat.zero_add] at hfill
    exact Buffer.load_some hfill

theorem loadU16_received_iff {rs : List (Except Errno Byte)} {n i : Nat} (hi : i + 1 < n) {v : BitVec 16} :
    loadU16 (fill 0 rs (Buffer.indeterminate n)) i = .ok v ↔
      ∃ lo hi, rs[i]? = some (.ok lo) ∧ rs[i + 1]? = some (.ok hi) ∧ v = hi ++ lo := by
  constructor
  · intro h
    obtain ⟨lo, hlo, h⟩ := Checked.bind_eq_ok h
    obtain ⟨hi', hhi, h⟩ := Checked.bind_eq_ok h
    exact ⟨lo, hi', (load_received_iff (by omega)).mp hlo, (load_received_iff (by omega)).mp hhi,
      (Except.ok.inj h).symm⟩
  · rintro ⟨lo, hi', hlo, hhi, rfl⟩
    rw [loadU16, (load_received_iff (by omega)).mpr hlo, (load_received_iff (by omega)).mpr hhi]
    rfl

/-! ## The control registers

Each is read into a cleared variable of its size and written back, so no answer of the device makes the
code fault there.
-/

variable {R : Resource σ}

theorem commDevRead_ok (ht : R.type = .commDev) {offset : BitVec 16} {n : Nat} {buf : Buffer} {s : σ}
    (h : Fits buf.length 0 (exchange R.bus offset n s).received) :
    (commDevRead R offset n buf).out s = (.ok ((exchange R.bus offset n s).rc,
      fill 0 (exchange R.bus offset n s).received buf), (exchange R.bus offset n s).state) := by
  rw [commDevRead, if_neg (not_not_intro ht)]
  exact commDevRecvByte_ok h

theorem commDevRead_of_le (ht : R.type = .commDev) {offset : BitVec 16} {n : Nat} {buf : Buffer} {s : σ}
    (h : n ≤ buf.length) : (commDevRead R offset n buf).out s = (.ok ((exchange R.bus offset n s).rc,
      fill 0 (exchange R.bus offset n s).received buf), (exchange R.bus offset n s).state) :=
  commDevRead_ok ht (fits_of_le h)

theorem commDevRead_returns_iff (ht : R.type = .commDev) {offset : BitVec 16} {n : Nat} {buf : Buffer}
    {s : σ} : (commDevRead R offset n buf).Returns s ↔
      Fits buf.length 0 (exchange R.bus offset n s).received := by
  rw [commDevRead, if_neg (not_not_intro ht)]
  exact commDevRecvByte_returns_iff

/-- Each round writes sixteen bytes, so as many rounds as there are bytes are enough. -/
theorem writeBlocks_returns {B : SmBus σ} (offset : BitVec 16) (data : List Byte) {fuel lenCount : Nat}
    (h : data.length ≤ lenCount + fuel) (s : σ) : (writeBlocks B offset data fuel lenCount).Returns s := by
  induction fuel generalizing lenCount s with
  | zero =>
      rw [writeBlocks, if_neg (by omega)]
      exact Acts.Returns.pure _ s
  | succ fuel ih =>
      rw [writeBlocks]
      split
      · refine (Acts.Returns.act _ s).bind fun rc s' _ => ?_
        split
        · exact Acts.Returns.pure _ s'
        · exact ih (by simp only [smbusBlockLen]; omega) s'
      · exact Acts.Returns.pure _ s

theorem commDevWrite_returns (offset : BitVec 16) (data : List Byte) (s : σ) :
    (commDevWrite R offset data).Returns s := by
  rw [commDevWrite]
  split
  · exact Acts.Returns.pure _ s
  · exact writeBlocks_returns offset data (by omega) s

theorem setControlBit_returns (bit : Nat) (s : σ) : (setControlBit R bit).Returns s := by
  by_cases ht : R.type = .commDev
  · rw [setControlBit, Acts.returns_bind_iff (commDevRead_of_le ht (Buffer.le_length_zeroed 2))]
    simp only
    split
    · have hinit := fill_init (exchange R.bus mailboxControl 2 s).received (Buffer.init_zeroed 2)
      obtain ⟨lo, hlo⟩ := hinit 0 (by rw [fill_length, Buffer.length_zeroed]; decide)
      obtain ⟨hi, hhi⟩ := hinit 1 (by rw [fill_length, Buffer.length_zeroed]; decide)
      rw [Acts.returns_check_bind_iff]
      refine ⟨lo, Buffer.load_some hlo, ?_⟩
      rw [Acts.returns_check_bind_iff]
      exact ⟨hi, Buffer.load_some hhi, commDevWrite_returns _ _ _⟩
    · exact Acts.Returns.pure _ _
  · rw [setControlBit, commDevRead, if_pos ht, Acts.returns_bind_iff (Acts.out_pure _ s)]
    exact Acts.Returns.pure _ s

end OpxSdi.CommDev
