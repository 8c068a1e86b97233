import OpxSdi.Media.Lemmas.Init

/-!
# The adapter follows the module

Over the initialisations of one cage: the cage is an adapter iff the last identifier that was read since the
last removal is one of an adapter, it has an SFP device iff it is an adapter, and no SFP device is lost. A
module that is initialised in a cage that is an adapter already breaks this.
-/

namespace OpxSdi.Media

open Lib

variable {q : Qsfp} {d d' : State}

/-- An initialisation and the memory of the module that it finds in the cage. -/
structure Insertion where
  slaves : BitVec 16 → Eeprom
  pres : Bool

def Selection.Free (s : Selection) (d : State) : Prop :=
  (s.muxSelHdl = true → d.held .muxSel = false) ∧ (s.modSelHdl = true → d.held .modSel = false)

instance (s : Selection) (d : State) : Decidable (s.Free d) := inferInstanceAs (Decidable (_ ∧ _))

instance (q : Qsfp) (d : State) : Decidable (q.Identifies d) := inferInstanceAs (Decidable (_ ∧ _))

/-- The initialisation selects the module and reads its identifier. -/
def Qsfp.Reads (q : Qsfp) (d : State) : Prop := q.sel.Free d ∧ q.Identifies d

instance (q : Qsfp) (d : State) : Decidable (q.Reads d) := inferInstanceAs (Decidable (_ ∧ _))

/-- A cage with the last identifier that was read since the last removal. -/
structure Tracked where
  state : State
  lastIdentifier : Option Byte

namespace Tracked

def step (q : Qsfp) (t : Tracked) (i : Insertion) : Tracked :=
  let d := insert t.state i.slaves
  { state := ((q.moduleInit i.pres).out d).2
    lastIdentifier :=
      if i.pres = false then none
      else if q.Reads d then some (q.identifier d)
      else t.lastIdentifier }

structure Follows (t : Tracked) : Prop where
  modType_iff : t.state.hw.priv.modType = .qsaAdapter ↔
    ∃ b, t.lastIdentifier = some b ∧ Qsfp.IsQsaIdentifier b
  sfpDevice_iff : t.state.hw.priv.sfpDevice ≠ none ↔ t.state.hw.priv.modType = .qsaAdapter
  sfpDevices_le : t.state.hw.sfpDevices.length ≤ 1

/-- The initialisation reads the identifier of a module in a cage that is an adapter already. -/
def FindsAdapterAgain (q : Qsfp) (t : Tracked) (i : Insertion) : Prop :=
  i.pres = true ∧ t.state.hw.priv.modType = .qsaAdapter ∧ q.Reads (insert t.state i.slaves)

instance (q : Qsfp) (t : Tracked) (i : Insertion) : Decidable (FindsAdapterAgain q t i) :=
  inferInstanceAs (Decidable (_ ∧ _ ∧ _))

end Tracked

/-! ## The locks between calls -/

/-- No lock is held, or those of a selection that was not ended. -/
def Between (s : Selection) (d : State) : Prop :=
  d.held = noneHeld ∨ s.HasLock ∧ d.held = replay noneHeld s.opening

theorem free_iff {s : Selection} (h : Between s d) : s.Free d ↔ d.held = noneHeld := by
  rcases h with hfree | ⟨hlock, hheld⟩
  · exact iff_of_true ⟨fun _ => by rw [hfree]; rfl, fun _ => by rw [hfree]; rfl⟩ hfree
  · refine iff_of_false (fun hfree => ?_) fun hfree => ?_
    · simp only [Selection.Free, hheld, s.replay_opening] at hfree
      rcases hlock with hmux | hmod
      · exact absurd (hmux.symm.trans (hfree.1 hmux)) (by decide)
      · exact absurd (hmod.symm.trans (hfree.2 hmod)) (by decide)
    · have h := s.replay_open_ne hlock 0
      rw [List.replicate_zero, List.append_nil, ← hheld] at h
      exact h hfree

theorem Begun.between {s : Selection} (h : Begun s d d') (hfree : d.held = noneHeld) : Between s d' := by
  obtain ⟨n, hn⟩ := h
  have hheld : d'.held = replay noneHeld s.opening := by
    rw [hn.held_eq, hfree, replay_append, replay_transactions]
  by_cases hlock : s.HasLock
  · exact .inr ⟨hlock, hheld⟩
  · refine .inl ?_
    have h := (s.settled_open hlock 0).replay_eq
    rw [List.replicate_zero, List.append_nil] at h
    exact hheld.trans h

/-- With a lock held, the initialisation of a module waits or ends before it knows the identifier. -/
theorem moduleInit_stuck (hbetween : Between q.sel d) (hheld : d.held ≠ noneHeld) :
    ∃ r d', (q.moduleInit true).out d = (.error r, d') ∧ Does [] d d' ∧
      (d.fault d.time = none → r = .blocked) := by
  obtain ⟨hlock, hstuck⟩ := hbetween.resolve_left hheld
  have hversion : Does [] d (d.withPriv { d.hw.priv with eepromVersion := 0 }) :=
    ⟨⟨rfl, rfl, (List.append_nil _).symm⟩, ⟨0, rfl⟩, rfl, rfl, rfl⟩
  have hinit : ∀ {r d'}, q.sel.moduleSelect.out (d.withPriv { d.hw.priv with eepromVersion := 0 }) =
      (.error r, d') → (q.moduleInit true).out d = (.error r, d') := by
    intro r d' hout
    rw [Qsfp.moduleInit, Acts.out_bind_ok (modifyPriv_out _ d), if_neg (by decide), Acts.out_bind_error hout]
  rcases moduleSelect_stuck (d := d.withPriv { d.hw.priv with eepromVersion := 0 }) hlock hstuck with
    ⟨-, hout⟩ | ⟨hsome, e, d', hout, hdoes⟩
  · exact ⟨.blocked, _, hinit hout, hversion, fun _ => rfl⟩
  · exact ⟨.error e, d', hinit hout, hversion.trans hdoes, fun hnone => absurd hnone hsome⟩

theorem moduleInit_between (hbetween : Between q.sel d) (pres : Bool) :
    Between q.sel ((q.moduleInit pres).out d).2 := by
  cases pres with
  | false =>
      obtain ⟨d', hout, hlogs, -⟩ := moduleInit_false q d
      have hheld : d'.held = d.held := hlogs.held_eq
      rw [hout]
      exact hbetween.imp (hheld.trans ·) (And.imp_right (hheld.trans ·))
  | true =>
      by_cases hfree : d.held = noneHeld
      · obtain ⟨r, d', hout, hcases⟩ := moduleInit_true (q := q) hfree
        rw [hout]
        rcases hcases with ⟨-, -, -, hend⟩ | ⟨-, -, -, -, hend⟩ | ⟨-, -, -, -, -, hend⟩ |
          ⟨-, -, -, -, -, ⟨-, d1, hend, hbegun⟩ | ⟨-, hend⟩⟩
        · exact .inl (hend.held_eq hfree)
        · exact .inl (hend.held_eq hfree)
        · exact .inl (hend.held_eq hfree)
        · exact hbegun.between (hend.held_eq hfree)
        · exact .inl (hend.held_eq hfree)
      · obtain ⟨r, d', hout, hdoes, -⟩ := moduleInit_stuck hbetween hfree
        have hheld : d'.held = d.held := hdoes.held_eq
        rw [hout]
        exact hbetween.imp (hheld.trans ·) (And.imp_right (hheld.trans ·))

/-! ## What one initialisation does to the adapter -/

/-- The adapter of the cage owns the one SFP device that is allocated. -/
structure Tracked.Owns (q : Qsfp) (t : Tracked) : Prop where
  between : Between q.sel t.state
  modType_iff : t.state.hw.priv.modType = .qsaAdapter ↔
    ∃ b, t.lastIdentifier = some b ∧ Qsfp.IsQsaIdentifier b
  adapter : t.state.hw.priv.modType = .qsaAdapter →
    ∃ s, t.state.hw.priv.sfpDevice = some s ∧ t.state.hw.sfpDevices = [s]
  other : t.state.hw.priv.modType ≠ .qsaAdapter →
    t.state.hw.priv.sfpDevice = none ∧ t.state.hw.sfpDevices = []

theorem Tracked.Owns.follows {t : Tracked} (h : t.Owns q) : t.Follows := by
  refine ⟨h.modType_iff, ?_, ?_⟩
  · by_cases hqsa : t.state.hw.priv.modType = .qsaAdapter
    · obtain ⟨s, hs, -⟩ := h.adapter hqsa
      exact iff_of_true (by rw [hs]; exact Option.some_ne_none s) hqsa
    · exact iff_of_false (fun hne => hne (h.other hqsa).1) hqsa
  · by_cases hqsa : t.state.hw.priv.modType = .qsaAdapter
    · obtain ⟨s, -, hs⟩ := h.adapter hqsa
      rw [hs]
      exact Nat.le_refl 1
    · rw [(h.other hqsa).2]
      exact Nat.zero_le 1

theorem KeepsAdapter.of_insert {slaves : BitVec 16 → Eeprom} (h : KeepsAdapter (insert d slaves) d') :
    KeepsAdapter d d' :=
  ⟨h.modType_eq, h.sfpDevice_eq, h.sfpDevices_eq, h.nextSfpDevice_eq⟩

theorem Tracked.Owns.keeps {t : Tracked} {id : Option Byte} (h : t.Owns q) (hbetween : Between q.sel d')
    (hkeeps : KeepsAdapter t.state d')
    (hid : (∃ b, id = some b ∧ Qsfp.IsQsaIdentifier b) ↔
      ∃ b, t.lastIdentifier = some b ∧ Qsfp.IsQsaIdentifier b) : Tracked.Owns q ⟨d', id⟩ := by
  refine ⟨hbetween, ?_, ?_, ?_⟩
  · rw [hkeeps.modType_eq, hid]
    exact h.modType_iff
  · rw [hkeeps.modType_eq, hkeeps.sfpDevice_eq, hkeeps.sfpDevices_eq]
    exact h.adapter
  · rw [hkeeps.modType_eq, hkeeps.sfpDevice_eq, hkeeps.sfpDevices_eq]
    exact h.other

theorem Tracked.Owns.remove {t : Tracked} (h : t.Owns q) (slaves : BitVec 16 → Eeprom) :
    (t.step q ⟨slaves, false⟩).Owns q := by
  obtain ⟨d', hout, hlogs, hmod, -, -, hsfp⟩ := moduleInit_false q (insert t.state slaves)
  have hbetween : Between q.sel ((q.moduleInit false).out (insert t.state slaves)).2 :=
    moduleInit_between (d := insert t.state slaves) h.between false
  rw [hout] at hbetween
  have hstep : t.step q ⟨slaves, false⟩ = ⟨d', none⟩ := by
    rw [Tracked.step, hout]
    rfl
  rw [hstep]
  refine ⟨hbetween, ?_, fun hqsa => ?_, fun _ => ?_⟩
  · rw [hmod]
    exact iff_of_false (by decide) fun ⟨b, hb, _⟩ => by cases hb
  · rw [hmod] at hqsa
    cases hqsa
  · by_cases hqsa : t.state.hw.priv.modType = .qsaAdapter
    · obtain ⟨s, hs, hdevs⟩ := h.adapter hqsa
      rw [if_pos (show (insert t.state slaves).hw.priv.modType = .qsaAdapter from hqsa)] at hsfp
      refine ⟨hsfp.1, hsfp.2.trans ?_⟩
      change t.state.hw.sfpDevices.filter (fun x => t.state.hw.priv.sfpDevice ≠ some x) = []
      rw [hdevs, hs]
      simp
    · rw [if_neg (show ¬ (insert t.state slaves).hw.priv.modType = .qsaAdapter from hqsa)] at hsfp
      exact ⟨hsfp.1.trans (h.other hqsa).1, hsfp.2.trans (h.other hqsa).2⟩

/-- An initialisation of a module goes wrong iff it reads an identifier in a cage that is an adapter. -/
theorem Tracked.Owns.init {t : Tracked} (h : t.Owns q) (slaves : BitVec 16 → Eeprom) :
    (FindsAdapterAgain q t ⟨slaves, true⟩ ∧ ¬ (t.step q ⟨slaves, true⟩).Follows) ∨
      ¬ FindsAdapterAgain q t ⟨slaves, true⟩ ∧ (t.step q ⟨slaves, true⟩).Owns q := by
  have hbetween : Between q.sel ((q.moduleInit true).out (insert t.state slaves)).2 :=
    moduleInit_between (d := insert t.state slaves) h.between true
  have hstep : ∀ {d'}, ((q.moduleInit true).out (insert t.state slaves)).2 = d' →
      t.step q ⟨slaves, true⟩ = ⟨d', if q.Reads (insert t.state slaves) then
        some (q.identifier (insert t.state slaves)) else t.lastIdentifier⟩ := by
    rintro d' rfl
    rfl
  have hreads : q.Reads (insert t.state slaves) ↔
      t.state.held = noneHeld ∧ q.Identifies (insert t.state slaves) :=
    and_congr_left fun _ => free_iff (d := insert t.state slaves) h.between
  by_cases hfree : t.state.held = noneHeld
  · obtain ⟨r, d', hout, hcases⟩ := moduleInit_true (q := q) (d := insert t.state slaves) hfree
    rw [hout] at hbetween
    have hstep' := hstep (congrArg Prod.snd hout)
    rcases hcases with ⟨hid, hkeeps, -⟩ | ⟨hid, hadapter, halloc, -⟩ | ⟨hid, hadapter, -, hkeeps, -⟩ |
      ⟨hid, hadapter, -, hkeeps, -⟩
    · have hnot : ¬ q.Reads (insert t.state slaves) := fun hr => hid (hreads.mp hr).2
      rw [hstep', if_neg hnot]
      exact .inr ⟨fun hagain => hnot hagain.2.2, h.keeps hbetween hkeeps.of_insert Iff.rfl⟩
    · have hr := hreads.mpr ⟨hfree, hid⟩
      rw [hstep', if_pos hr]
      by_cases hqsa : t.state.hw.priv.modType = .qsaAdapter
      · obtain ⟨s, -, hdevs⟩ := h.adapter hqsa
        refine .inl ⟨⟨rfl, hqsa, hr⟩, fun hfollows => ?_⟩
        have hle := hfollows.sfpDevices_le
        rw [halloc.sfpDevices_eq, show (insert t.state slaves).hw.sfpDevices = [s] from hdevs] at hle
        exact absurd hle (Nat.not_le.mpr (Nat.lt_succ_self 1))
      · have hplain := hadapter.resolve_left hqsa
        refine .inr ⟨fun hagain => hqsa hagain.2.1, hbetween, ?_, fun _ => ?_, fun hne => ?_⟩
        · exact iff_of_true halloc.modType_eq ⟨_, rfl, hplain⟩
        · exact ⟨_, halloc.sfpDevice_eq, halloc.sfpDevices_eq.trans (congrArg _ (h.other hqsa).2)⟩
        · exact absurd halloc.modType_eq hne
    all_goals
      have hr := hreads.mpr ⟨hfree, hid⟩
      obtain ⟨hne, hplain⟩ := not_or.mp hadapter
      rw [hstep', if_pos hr]
      refine .inr ⟨fun hagain => hne hagain.2.1, h.keeps hbetween hkeeps.of_insert (iff_of_false ?_ ?_)⟩
      · rintro ⟨b, hb, hqsa⟩
        exact hplain (Option.some.inj hb ▸ hqsa)
      · exact fun hlast => hne (h.modType_iff.mpr hlast)
  · obtain ⟨r, d', hout, hdoes, -⟩ := moduleInit_stuck (d := insert t.state slaves) h.between hfree
    have hnot : ¬ q.Reads (insert t.state slaves) := fun hr => hfree (hreads.mp hr).1
    rw [hout] at hbetween
    rw [hstep (congrArg Prod.snd hout), if_neg hnot]
    exact .inr ⟨fun hagain => hnot hagain.2.2, h.keeps hbetween hdoes.keepsAdapter.of_insert Iff.rfl⟩

/-! ## Runs -/

theorem Tracked.Owns.step_cases {t : Tracked} (h : t.Owns q) (i : Insertion) :
    (FindsAdapterAgain q t i ∧ ¬ (t.step q i).Follows) ∨
      ¬ FindsAdapterAgain q t i ∧ (t.step q i).Owns q := by
  obtain ⟨slaves, pres⟩ := i
  cases pres with
  | false => exact .inr ⟨fun hagain => Bool.false_ne_true hagain.1, h.remove slaves⟩
  | true => exact h.init slaves

/-- The state in which the driver registers the device. -/
structure Registered (d : State) : Prop where
  held_eq : d.held = noneHeld
  priv_eq : d.hw.priv = QsfpDevice.create
  sfpDevices_eq : d.hw.sfpDevices = []

theorem Registered.owns (h : Registered d) : Tracked.Owns q ⟨d, none⟩ := by
  have hmod : d.hw.priv.modType = .mediaDefault := congrArg QsfpDevice.modType h.priv_eq
  refine ⟨.inl h.held_eq, ?_, fun hqsa => ?_, fun _ => ⟨congrArg QsfpDevice.sfpDevice h.priv_eq,
    h.sfpDevices_eq⟩⟩
  · exact iff_of_false (fun hqsa => by rw [hmod] at hqsa; cases hqsa) fun ⟨b, hb, _⟩ => by cases hb
  · rw [hmod] at hqsa
    cases hqsa

/-- Over every run of initialisations, the adapter follows the module after each of them iff none of them
reads an identifier in a cage that is an adapter already. -/
theorem run_follows_iff (q : Qsfp) (d : State) (hd : Registered d) (is : List Insertion) :
    Along (Tracked.step q) (fun t i => (t.step q i).Follows) ⟨d, none⟩ is ↔
      Along (Tracked.step q) (fun t i => ¬ Tracked.FindsAdapterAgain q t i) ⟨d, none⟩ is := by
  refine along_congr (I := Tracked.Owns q) (fun t i h => ?_) (fun t i h hc => ?_) hd.owns
  · rcases h.step_cases i with ⟨hagain, hnot⟩ | ⟨hagain, howns⟩
    · exact iff_of_false hnot fun hc => hc hagain
    · exact iff_of_true howns.follows hagain
  · exact (h.step_cases i).elim (fun hbad => absurd hbad.1 hc) And.right

theorem run_follows_removed : Along (Tracked.step muxedCage) (fun t i => (t.step muxedCage i).Follows)
    ⟨registered fun _ => none, none⟩
    [⟨moduleWith 0x03, true⟩, ⟨moduleWith 0x03, false⟩, ⟨moduleWith 0x0d, true⟩] :=
  (run_follows_iff muxedCage _ ⟨rfl, rfl, rfl⟩ _).mpr ⟨by decide, by decide, by decide, trivial⟩

/-- A module that takes the place of an adapter without a removal in between. -/
theorem not_run_follows_swapped : ¬ Along (Tracked.step muxedCage)
    (fun t i => (t.step muxedCage i).Follows) ⟨registered fun _ => none, none⟩
    [⟨moduleWith 0x03, true⟩, ⟨moduleWith 0x0d, true⟩] :=
  fun h => absurd h.2.1.sfpDevices_le (by decide)

end OpxSdi.Media
