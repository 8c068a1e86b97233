import OpxSdi.Media.Lemmas.Qsa

/-!
# The type of a QSA adapter is read in reset

A call that puts the module of an adapter in reset also issues the write that takes it out, and a type that
it returns with `STD_ERR_OK` is that of an identification read in reset, iff the steps between the two do
not fail.
-/

namespace OpxSdi.Media

open Lib Device

namespace Qsfp

variable (q : Qsfp)

/-- Each write that asserts the reset bit is followed by one that clears it, whether or not that succeeds. -/
def Clears (bit : Fin 32) : List Seen → Prop
  | [] => True
  | .resetWrite value rc :: is =>
      (rc = .ok () → value.getLsbD bit = true →
        ∃ value' rc', .resetWrite value' rc' ∈ is ∧ value'.getLsbD bit = false) ∧ Clears bit is
  | .ouiRead _ _ :: is => Clears bit is

/-- What a call that reads the type of the adapter has to do. -/
structure DetectsQsa (d : State) : Prop where
  clears : ∀ r w, Ok q.qsaAdapterTypeGet (d.recorded []) r w → Clears q.modResetBitmask w.hw.2
  rest_eq : ∀ r w, Ok q.qsaAdapterTypeGet (d.recorded []) r w → ∀ k : Nat, k ≠ q.modResetBitmask →
    (w.hw.1.pins .modReset).getLsbD k = (d.hw.pins .modReset).getLsbD k
  reads : ∀ type w, Ok q.qsaAdapterTypeGet (d.recorded []) (.ok (), type) w →
    ∃ pins, .ouiRead pins (.ok (q.oui d.hw)) ∈ w.hw.2 ∧ pins.getLsbD q.modResetBitmask = true ∧
      type = qsaAdapterOf (q.oui d.hw)

/-! ## The condition -/

/-- The device when the selection starts -/
def selecting (d : State) : State := d.after (made d.fault d.time 3) d.hw

/-- The device when the read of the identification starts -/
def reading (d : State) : State := (selecting d).after q.sel.ops d.hw

/-- The device when the reset is cleared -/
def clearing (d : State) : State := (q.reading d).after (made d.fault (q.reading d).time 3) d.hw

/-- Once the reset is asserted, neither the selection fails, nor the operations before the write that clears
it. When the selection and the clearing succeed, the module is in reset and the read succeeds. -/
structure KeepsQsa (d : State) : Prop where
  selects : d.held .modReset = false → d.Clear 3 → ¬q.sel.FailsFrom (selecting d)
  clears : d.held .modReset = false → d.Clear 3 → q.sel.SelectsAt (selecting d) → (q.clearing d).Clear 2
  reads : d.held .modReset = false → q.sel.SelectsAt (selecting d) → (q.clearing d).Clear 3 →
    (q.reading d).Clear 3 ∧ (d.Clear 3 ∨ (d.hw.pins .modReset).getLsbD q.modResetBitmask = true)

/-! ## Runs -/

variable {q} {d d' d1 : State} {e : Errno} {rc : Except Errno Unit} {r : Except Errno Unit × QsaAdapterType}
  {js : List Seen} {w : Device PinGroup Errno (Cage × List Seen)}

/-- The device between the read of the identification and the clearing of the reset -/
def identified (q : Qsfp) (d1 : State) : State :=
  q.sel.closed ((q.sel.opened d1).passed (made d1.fault (d1.time + q.sel.ops) 3) d1.hw.slaves)

/-- What a call does once the module has been put in reset, on `d1` -/
inductive AfterReset (q : Qsfp) (d1 : State) (js : List Seen) (r : Except Errno Unit × QsaAdapterType)
    (w : Device PinGroup Errno (Cage × List Seen)) : Prop
  | failed (fails : q.sel.FailsFrom d1) (rc_ne : r.1 ≠ .ok ()) (record_eq : w.hw.2 = js)
      (pins_eq : w.hw.1.pins .modReset = d1.hw.pins .modReset)
  | selected (selects : q.sel.SelectsAt d1) (buf : Except Errno (List Byte))
      (buf_ok : buf = .ok (q.oui d1.hw) ↔ (q.sel.opened d1).Clear 3)
      (buf_error : ¬(q.sel.opened d1).Clear 3 → ∃ e, buf = .error e) (d2 : State) (ks : List Seen)
      (clearing : q.ResetRun false (q.identified d1) d2 r.1 ks)
      (end_eq : w = d2.recorded (js ++ [.ouiRead (d1.hw.pins .modReset) buf] ++ ks))
      (type_eq : ∀ bs, buf = .ok bs → r.2 = qsaAdapterOf bs)

theorem afterReset (h : Ok q.qsaAdapterTypeInReset (d1.recorded js) r w) : q.AfterReset d1 js r w := by
  rcases ok_attempt_bind.mp h with ⟨u, w2, hselect, h⟩ | ⟨e, w2, hselect, h⟩
  · obtain ⟨d2, hsel, rfl⟩ := ok_unobserved.mp hselect
    obtain ⟨hselects, rfl⟩ := q.sel.ok_moduleSelect.mp hsel
    obtain ⟨buf, w3, hread, h⟩ := ok_bind.mp h
    obtain ⟨buf', hread', hbuf, herr⟩ := q.ouiRead_run (q.sel.opened d1) js
    obtain ⟨rfl, rfl⟩ := hread.unique hread'
    obtain ⟨u3, w4, hdeselect, h⟩ := ok_bind.mp h
    obtain ⟨d4, hdesel, rfl⟩ := ok_unobserved.mp hdeselect
    rw [q.sel.ok_moduleDeselect] at hdesel
    obtain ⟨rc', w5, hclear, h⟩ := ok_bind.mp h
    obtain ⟨d5, ks, rfl, hclearing⟩ := reset_run hclear
    obtain ⟨rfl, rfl⟩ := ok_pure.mp h
    subst hdesel
    refine .selected hselects buf hbuf herr d5 ks hclearing rfl fun bs hbs => ?_
    subst hbs
    rfl
  · obtain ⟨d2, hsel, rfl⟩ := err_unobserved.mp hselect
    obtain ⟨rfl, rfl⟩ := ok_pure.mp h
    obtain ⟨hfails, hpins⟩ := Selection.err_moduleSelect hsel
    exact .failed hfails (fun h => nomatch h) rfl hpins

theorem ok_qsaAdapterTypeGet (hadapter : d.hw.priv.modType = .qsaAdapter) :
    Ok q.qsaAdapterTypeGet (d.recorded []) r w ↔ ∃ rc w1, Ok (attempt (q.moduleReset true)) (d.recorded []) rc w1 ∧
      Ok q.qsaAdapterTypeInReset w1 r w := by
  rw [qsaAdapterTypeGet, ok_bind]
  constructor
  · rintro ⟨priv, w0, hpriv, h⟩
    obtain ⟨d0, hget, rfl⟩ := ok_unobserved.mp hpriv
    obtain ⟨rfl, rfl⟩ := ok_getPriv.mp hget
    rw [if_neg (not_not_intro hadapter)] at h
    exact ok_bind.mp h
  · intro h
    refine ⟨_, _, ok_unobserved.mpr ⟨_, ok_getPriv.mpr ⟨rfl, rfl⟩, rfl⟩, ?_⟩
    rw [if_neg (not_not_intro hadapter)]
    exact ok_bind.mpr h

theorem qsa_run (hadapter : d.hw.priv.modType = .qsaAdapter)
    (h : Ok q.qsaAdapterTypeGet (d.recorded []) r w) :
    ∃ rc d1 js, q.ResetRun true d d1 rc js ∧ q.AfterReset d1 js r w := by
  obtain ⟨rc, w1, hreset, h⟩ := (ok_qsaAdapterTypeGet hadapter).mp h
  obtain ⟨d1, js, rfl, hrun⟩ := reset_run hreset
  exact ⟨rc, d1, js, hrun, afterReset h⟩

/-! ### Calls that return -/

theorem held_opening (held : PinGroup → Bool) : replay held q.sel.opening .modReset = held .modReset := by
  obtain ⟨-, ⟨mux, -, mod, -⟩, -⟩ := q
  cases mux <;> cases mod <;> rfl

theorem held_closing (held : PinGroup → Bool) : replay held q.sel.closing .modReset = held .modReset := by
  obtain ⟨-, ⟨mux, -, mod, -⟩, -⟩ := q
  cases mux <;> cases mod <;> rfl

theorem identified_held : (q.identified d1).held .modReset = d1.held .modReset :=
  (held_closing _).trans (held_opening _)

theorem inReset_returns (js : List Seen) (hfree : d1.held .modReset = false)
    (h : q.sel.FailsFrom d1 ∨ q.sel.SelectsAt d1) :
    ∃ r w, Ok q.qsaAdapterTypeInReset (d1.recorded js) r w := by
  rcases h with hfails | hselects
  · obtain ⟨e, d2, hselect⟩ := Selection.moduleSelect_fails hfails
    exact ⟨_, _, ok_attempt_bind.mpr (.inr ⟨e, _, err_unobserved.mpr ⟨d2, hselect, rfl⟩, ok_pure.mpr ⟨rfl, rfl⟩⟩)⟩
  · obtain ⟨buf, hread, -⟩ := q.ouiRead_run (q.sel.opened d1) js
    obtain ⟨rc, w5, hclear⟩ := reset_returns q false
      (js ++ [.ouiRead ((q.sel.opened d1).hw.pins .modReset) buf]) (identified_held.trans hfree)
    exact ⟨_, _, ok_attempt_bind.mpr (.inl ⟨(), _,
      ok_unobserved.mpr ⟨_, q.sel.ok_moduleSelect.mpr ⟨hselects, rfl⟩, rfl⟩, ok_bind.mpr ⟨_, _, hread,
        ok_bind.mpr ⟨(), _, ok_unobserved.mpr ⟨_, q.sel.ok_moduleDeselect.mpr rfl, rfl⟩,
          ok_bind.mpr ⟨_, _, hclear, ok_pure.mpr ⟨rfl, rfl⟩⟩⟩⟩⟩)⟩

/-! ### The device between the steps -/

theorem selectsAt_reset (h : Resets (made d.fault d.time 3) d d1) :
    q.sel.SelectsAt d1 ↔ q.sel.SelectsAt (selecting d) := by
  simp only [Selection.SelectsAt, Selection.Free, Clear, h.held_eq, h.fault_eq, h.time_eq]
  exact Iff.rfl

theorem failsFrom_reset (h : Resets (made d.fault d.time 3) d d1) :
    q.sel.FailsFrom d1 ↔ q.sel.FailsFrom (selecting d) := by
  simp only [Selection.FailsFrom, State.TakeFails, Clear, h.held_eq, h.fault_eq, h.time_eq, after]
  exact Iff.rfl

theorem clear_opened_reset {n : Nat} (h : Resets (made d.fault d.time 3) d d1) :
    (q.sel.opened d1).Clear n ↔ (q.reading d).Clear n := by
  simp only [Clear, Selection.opened_fault, Selection.opened_time, h.fault_eq, h.time_eq]
  exact Iff.rfl

theorem clear_identified_reset {n : Nat} (h : Resets (made d.fault d.time 3) d d1) :
    (q.identified d1).Clear n ↔ (q.clearing d).Clear n := by
  have htime : (q.identified d1).time = (q.clearing d).time := by
    change d1.time + q.sel.ops + made d1.fault (d1.time + q.sel.ops) 3 = _
    rw [h.fault_eq, h.time_eq]
    rfl
  simp only [Clear, htime]
  exact forall₂_congr fun t _ => by rw [show (q.identified d1).fault = d.fault from h.fault_eq]; rfl

/-! ## Calls that meet it -/

/-- The reset bit after a reset -/
theorem resetValue_self (reset : Bool) (c : Cage) :
    (q.resetValue reset c).getLsbD q.modResetBitmask = reset :=
  getLsbD_stdBit_self q.modResetBitmask.isLt reset

theorem ResetRun.rest_eq {reset : Bool} (h : q.ResetRun reset d d1 rc js) {k : Nat} (hk : k ≠ q.modResetBitmask) :
    (d1.hw.pins .modReset).getLsbD k = (d.hw.pins .modReset).getLsbD k := by
  by_cases hrc : rc = .ok ()
  · rw [h.pins_ok hrc, Function.update_self]
    exact getLsbD_stdBit_of_ne hk reset
  · rw [h.pins_error hrc]

/-- The other pins are as they were, whatever fails. -/
theorem rest_eq_of_run (hadapter : d.hw.priv.modType = .qsaAdapter)
    (h : Ok q.qsaAdapterTypeGet (d.recorded []) r w) {k : Nat} (hk : k ≠ q.modResetBitmask) :
    (w.hw.1.pins .modReset).getLsbD k = (d.hw.pins .modReset).getLsbD k := by
  obtain ⟨rc, d1, js, hreset, hafter⟩ := qsa_run hadapter h
  rw [← hreset.rest_eq hk]
  cases hafter with
  | failed _ _ _ hpins => rw [hpins]
  | selected _ buf _ _ d2 ks hclearing hend _ =>
      rw [hend]
      exact hclearing.rest_eq hk

/-- A write that clears the reset bit does not assert it. -/
theorem ResetRun.clears (h : q.ResetRun false d d1 rc js) : Clears q.modResetBitmask js := by
  by_cases hclear : d.Clear 2
  · rw [h.written hclear]
    refine ⟨fun _ hbit => ?_, trivial⟩
    rw [resetValue_self] at hbit
    cases hbit
  · rw [h.unwritten hclear]
    trivial

theorem KeepsQsa.clears_of_run (hkeeps : q.KeepsQsa d) (hadapter : d.hw.priv.modType = .qsaAdapter)
    (h : Ok q.qsaAdapterTypeGet (d.recorded []) r w) : Clears q.modResetBitmask w.hw.2 := by
  obtain ⟨rc, d1, js, hreset, hafter⟩ := qsa_run hadapter h
  cases hafter with
  | failed hfails _ hrecord _ =>
      rw [hrecord]
      by_cases hclear : d.Clear 2
      · rw [hreset.written hclear]
        refine ⟨fun hrc _ => ?_, trivial⟩
        have hclear3 := hreset.ok_iff.mp hrc
        exact absurd ((failsFrom_reset hreset.resets).mp hfails)
          (hkeeps.selects (hreset.free (hclear3.mono (by decide))) hclear3)
      · rw [hreset.unwritten hclear]
        trivial
  | selected hselects buf _ _ d2 ks hclearing hend _ =>
      rw [hend, recorded_hw]
      by_cases hclear : d.Clear 2
      · rw [hreset.written hclear]
        refine ⟨fun hrc _ => ?_, hclearing.clears⟩
        have hclear3 := hreset.ok_iff.mp hrc
        have hclears := hkeeps.clears (hreset.free (hclear3.mono (by decide))) hclear3
          ((selectsAt_reset hreset.resets).mp hselects)
        rw [hclearing.written ((clear_identified_reset hreset.resets).mpr hclears)]
        exact ⟨_, _, List.mem_cons_of_mem _ (List.mem_singleton_self _), resetValue_self false _⟩
      · rw [hreset.unwritten hclear]
        exact hclearing.clears

theorem KeepsQsa.reads_of_run (hkeeps : q.KeepsQsa d) (hadapter : d.hw.priv.modType = .qsaAdapter)
    {type : QsaAdapterType} (h : Ok q.qsaAdapterTypeGet (d.recorded []) (.ok (), type) w) :
    ∃ pins, .ouiRead pins (.ok (q.oui d.hw)) ∈ w.hw.2 ∧ pins.getLsbD q.modResetBitmask = true ∧
      type = qsaAdapterOf (q.oui d.hw) := by
  obtain ⟨rc, d1, js, hreset, hafter⟩ := qsa_run hadapter h
  cases hafter with
  | failed _ hrc _ _ => exact absurd rfl hrc
  | selected hselects buf hbuf _ d2 ks hclearing hend htype =>
      have hclear := hclearing.ok_iff.mp rfl
      have hfree : d.held .modReset = false := by
        rw [← hreset.resets.held_eq, ← identified_held (q := q)]
        exact hclearing.free (hclear.mono (by decide))
      obtain ⟨hread, hbit⟩ := hkeeps.reads hfree ((selectsAt_reset hreset.resets).mp hselects)
        ((clear_identified_reset hreset.resets).mp hclear)
      have hoks := hbuf.mpr ((clear_opened_reset hreset.resets).mpr hread)
      have houi : q.oui d1.hw = q.oui d.hw := by rw [oui, oui, hreset.resets.slaves_eq]
      rw [houi] at hoks
      refine ⟨d1.hw.pins .modReset, ?_, ?_, htype _ hoks⟩
      · rw [hend, recorded_hw, hoks]
        exact List.mem_append_left _ (List.mem_append_right _ (List.mem_singleton_self _))
      · by_cases hrc : rc = .ok ()
        · rw [hreset.pins_ok hrc, Function.update_self, resetValue_self]
        · rw [hreset.pins_error hrc]
          exact hbit.resolve_left fun hclear3 => hrc (hreset.ok_iff.mpr hclear3)

/-! ## Calls that do not -/

theorem qsa_returns (hadapter : d.hw.priv.modType = .qsaAdapter) (hfree : d.held .modReset = false)
    (h : q.sel.FailsFrom (selecting d) ∨ q.sel.SelectsAt (selecting d)) :
    ∃ r w, Ok q.qsaAdapterTypeGet (d.recorded []) r w := by
  obtain ⟨rc, w1, hreset⟩ := reset_returns q true [] hfree
  obtain ⟨d1, js, rfl, hrun⟩ := reset_run hreset
  rw [← failsFrom_reset hrun.resets, ← selectsAt_reset hrun.resets] at h
  rw [← hrun.resets.held_eq] at hfree
  obtain ⟨r, w, hok⟩ := inReset_returns ([] ++ js) hfree h
  exact ⟨r, w, (ok_qsaAdapterTypeGet hadapter).mpr ⟨rc, _, hreset, hok⟩⟩

/-- A module that is put in reset and is not taken out -/
theorem not_clears (bit : Fin 32) {value : BitVec 32} {is : List Seen} (hbit : value.getLsbD bit = true)
    (his : ∀ value' rc', .resetWrite value' rc' ∉ is) : ¬Clears bit (.resetWrite value (.ok ()) :: is) := by
  rintro ⟨h, -⟩
  obtain ⟨value', rc', hmem, -⟩ := h rfl hbit
  exact his value' rc' hmem

/-- What is recorded of a reset is no read. -/
theorem ResetRun.ouiRead_notMem {reset : Bool} (h : q.ResetRun reset d d1 rc js) {pins : BitVec 32}
    {buf : Except Errno (List Byte)} : .ouiRead pins buf ∉ js := by
  by_cases hclear : d.Clear 2
  · rw [h.written hclear]
    intro hmem
    cases List.mem_singleton.mp hmem
  · rw [h.unwritten hclear]
    exact List.not_mem_nil

theorem DetectsQsa.keeps (hdetects : q.DetectsQsa d) (hadapter : d.hw.priv.modType = .qsaAdapter) :
    q.KeepsQsa d := by
  refine ⟨fun hfree hclear hfails => ?_, fun hfree hclear hselects => ?_, fun hfree hselects hclear => ?_⟩
  · obtain ⟨r, w, hok⟩ := qsa_returns hadapter hfree (.inl hfails)
    have hclears := hdetects.clears r w hok
    obtain ⟨rc, d1, js, hreset, hafter⟩ := qsa_run hadapter hok
    cases hafter with
    | failed _ _ hrecord _ =>
        rw [hrecord, hreset.written (hclear.mono (by decide)), hreset.ok_iff.mpr hclear] at hclears
        exact not_clears _ (resetValue_self true _) (fun _ _ => List.not_mem_nil) hclears
    | selected hselects =>
        exact ((failsFrom_reset hreset.resets).mpr hfails).not_selectsAt hselects
  · obtain ⟨r, w, hok⟩ := qsa_returns hadapter hfree (.inr hselects)
    have hclears := hdetects.clears r w hok
    obtain ⟨rc, d1, js, hreset, hafter⟩ := qsa_run hadapter hok
    cases hafter with
    | failed hfails =>
        exact absurd ((selectsAt_reset hreset.resets).mpr hselects) hfails.not_selectsAt
    | selected _ buf _ _ d2 ks hclearing hend _ =>
        by_contra hno
        rw [hend, recorded_hw, hreset.written (hclear.mono (by decide)), hreset.ok_iff.mpr hclear,
          hclearing.unwritten fun h => hno ((clear_identified_reset hreset.resets).mp h)] at hclears
        refine not_clears _ (resetValue_self true _) (fun _ _ h => ?_) hclears
        cases List.mem_singleton.mp h
  · obtain ⟨r, w, hok⟩ := qsa_returns hadapter hfree (.inr hselects)
    obtain ⟨rc, d1, js, hreset, hafter⟩ := qsa_run hadapter hok
    cases hafter with
    | failed hfails =>
        exact absurd ((selectsAt_reset hreset.resets).mpr hselects) hfails.not_selectsAt
    | selected _ buf hbuf herr d2 ks hclearing hend _ =>
        have hrc := hclearing.ok_iff.mpr ((clear_identified_reset hreset.resets).mpr hclear)
        obtain ⟨rc', type⟩ := r
        subst hrc
        obtain ⟨pins, hmem, hbit, -⟩ := hdetects.reads type w hok
        rw [hend, recorded_hw, List.append_assoc] at hmem
        have hmem := (List.mem_append.mp hmem).resolve_left hreset.ouiRead_notMem
        obtain ⟨rfl, hbuf'⟩ := Seen.ouiRead.inj ((List.mem_cons.mp hmem).resolve_right hclearing.ouiRead_notMem)
        refine ⟨?_, ?_⟩
        · by_contra hread
          obtain ⟨e, he⟩ := herr fun h => hread ((clear_opened_reset hreset.resets).mp h)
          cases hbuf'.trans he
        · by_cases hclear3 : d.Clear 3
          · exact .inl hclear3
          · rw [hreset.pins_error fun h => hclear3 (hreset.ok_iff.mp h)] at hbit
            exact .inr hbit

/-- An adapter is detected exactly when the steps between the reset and its end do not fail. -/
theorem detectsQsa_iff (q : Qsfp) (d : State) (hadapter : d.hw.priv.modType = .qsaAdapter) :
    q.DetectsQsa d ↔ q.KeepsQsa d :=
  ⟨fun h => h.keeps hadapter, fun h => ⟨fun _ _ hok => h.clears_of_run hadapter hok,
    fun _ _ hok _ hk => rest_eq_of_run hadapter hok hk, fun _ _ hok => h.reads_of_run hadapter hok⟩⟩

/-- The state after an adapter has been found in the cage -/
def adapted (fault : Nat → Option Errno) : State :=
  let d := registered fault
  { d with hw := { d.hw with priv := { d.hw.priv with modType := .qsaAdapter } } }

theorem detectsQsa_adapted : DetectsQsa muxedCage (adapted fun _ => none) := by
  refine (detectsQsa_iff muxedCage (adapted fun _ => none) rfl).mpr ⟨fun _ _ hfails => ?_,
    fun _ _ _ _ _ => rfl, fun _ _ _ => ⟨fun _ _ => rfl, .inl fun _ _ => rfl⟩⟩
  rcases hfails with ⟨-, hfault | ⟨-, hfault⟩⟩ | ⟨-, -, hhdl, -⟩
  · exact hfault rfl
  · exact hfault rfl
  · cases hhdl

/-- The selection fails after the reset, and the module stays in reset. -/
theorem not_detectsQsa_selection :
    ¬DetectsQsa muxedCage (adapted fun t => if t = 3 then some .eio else none) := by
  intro h
  refine (h.keeps rfl).selects rfl (fun t ht => if_neg ?_) (.inl ⟨rfl, .inl ?_⟩)
  · change 0 + t ≠ 3
    omega
  · exact nofun

end Qsfp

end OpxSdi.Media
