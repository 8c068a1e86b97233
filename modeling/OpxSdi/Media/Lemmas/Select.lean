import OpxSdi.Media.Lemmas.Does

/-!
# The selection of a module

A selection that fails gives back what it has taken. One that succeeds opens a window, which its end
closes.
-/

namespace OpxSdi.Media

open Lib

variable {d d' : State} {es fs : List Event}

def noneHeld : PinGroup → Bool := fun _ => false

/-! ## Windows -/

def windowAfter : Bool → List Event → Bool
  | b, [] => b
  | _, .selected :: es => windowAfter true es
  | _, .deselected :: es => windowAfter false es
  | b, .transaction :: es => windowAfter b es
  | b, .acquire _ :: es => windowAfter b es
  | b, .release _ :: es => windowAfter b es

theorem inWindow_append (b : Bool) (es fs : List Event) :
    InWindow b (es ++ fs) ↔ InWindow b es ∧ InWindow (windowAfter b es) fs := by
  induction es generalizing b with
  | nil => exact (iff_of_eq (true_and _)).symm
  | cons e es ih => cases e <;> simp only [List.cons_append, InWindow, windowAfter, ih, and_assoc]

theorem windowAfter_append (b : Bool) (es fs : List Event) :
    windowAfter b (es ++ fs) = windowAfter (windowAfter b es) fs := by
  induction es generalizing b with
  | nil => rfl
  | cons e es ih => cases e <;> exact ih _

theorem inWindow_transactions (n : Nat) :
    InWindow true (List.replicate n .transaction) ∧ windowAfter true (List.replicate n .transaction) = true := by
  induction n with
  | zero => exact ⟨trivial, rfl⟩
  | succ n ih => exact ⟨⟨rfl, ih.1⟩, ih.2⟩

/-- Events of a balanced call that starts with no lock held. -/
structure Settled (es : List Event) : Prop where
  count_eq : ∀ g, es.count (.acquire g) = es.count (.release g)
  inWindow : InWindow false es
  replay_eq : replay noneHeld es = noneHeld

/-- Settled events that end outside of a window. -/
structure Closed (es : List Event) : Prop extends Settled es where
  windowAfter_eq : windowAfter false es = false

theorem Closed.nil : Closed [] := ⟨⟨fun _ => rfl, trivial, rfl⟩, rfl⟩

theorem Closed.append_settled (h : Closed es) (h' : Settled fs) : Settled (es ++ fs) := by
  refine ⟨fun g => ?_, (inWindow_append _ _ _).mpr ⟨h.inWindow, ?_⟩, ?_⟩
  · rw [List.count_append, List.count_append, h.count_eq, h'.count_eq]
  · rw [h.windowAfter_eq]
    exact h'.inWindow
  · rw [replay_append, h.replay_eq, h'.replay_eq]

theorem Closed.append (h : Closed es) (h' : Closed fs) : Closed (es ++ fs) :=
  ⟨h.append_settled h'.toSettled, by rw [windowAfter_append, h.windowAfter_eq, h'.windowAfter_eq]⟩

namespace Selection

variable (s : Selection)

def muxAcquired : List Event := if s.muxSelHdl then [.acquire .muxSel] else []
def muxReleased : List Event := if s.muxSelHdl then [.release .muxSel] else []
def modAcquired : List Event := if s.modSelHdl then [.acquire .modSel] else []
def modReleased : List Event := if s.modSelHdl then [.release .modSel] else []

def opening : List Event := s.muxAcquired ++ s.modAcquired ++ [.selected]

def closing : List Event := .deselected :: (s.muxReleased ++ s.modReleased)

/-- A selection, transactions with the module, and the end of the selection. -/
def window (n : Nat) : List Event := s.opening ++ List.replicate n .transaction ++ s.closing

theorem replay_opening (g : PinGroup) :
    replay noneHeld s.opening g = (match g with
      | .muxSel => s.muxSelHdl
      | .modSel => s.modSelHdl
      | _ => false) := by
  obtain ⟨mux, muxValue, mod, modValue⟩ := s
  cases mux <;> cases mod <;> cases g <;> rfl

theorem replay_closing : replay (replay noneHeld s.opening) s.closing = noneHeld := by
  obtain ⟨mux, muxValue, mod, modValue⟩ := s
  funext g
  cases mux <;> cases mod <;> cases g <;> rfl

theorem inWindow_opening : InWindow false s.opening ∧ windowAfter false s.opening = true := by
  obtain ⟨mux, muxValue, mod, modValue⟩ := s
  cases mux <;> cases mod <;> exact ⟨trivial, rfl⟩

theorem inWindow_closing (b : Bool) : InWindow b s.closing ∧ windowAfter b s.closing = false := by
  obtain ⟨mux, muxValue, mod, modValue⟩ := s
  cases mux <;> cases mod <;> exact ⟨trivial, rfl⟩

theorem count_window (n : Nat) (g : PinGroup) :
    (s.window n).count (.acquire g) = (s.window n).count (.release g) := by
  have hcount : ∀ e : Event, e ≠ .transaction → (List.replicate n Event.transaction).count e = 0 :=
    fun e he => List.count_eq_zero.mpr fun hmem => he (List.eq_of_mem_replicate hmem)
  rw [window, List.count_append, List.count_append, List.count_append, List.count_append,
    hcount _ (by simp), hcount _ (by simp)]
  obtain ⟨mux, muxValue, mod, modValue⟩ := s
  cases mux <;> cases mod <;> cases g <;> rfl

theorem closed_window (n : Nat) : Closed (s.window n) := by
  refine ⟨⟨s.count_window n, ?_, ?_⟩, ?_⟩
  · simp only [window, inWindow_append, windowAfter_append, s.inWindow_opening, inWindow_transactions,
      s.inWindow_closing, and_self]
  · simp only [window, replay_append, replay_transactions, s.replay_closing]
  · simp only [window, windowAfter_append, s.inWindow_opening, s.inWindow_closing]

/-- A window that is left open takes no lock only where the selection takes none. -/
theorem settled_open (h : ¬ s.HasLock) (n : Nat) :
    Settled (s.opening ++ List.replicate n .transaction) := by
  have hcount : ∀ e : Event, e ≠ .transaction → (List.replicate n Event.transaction).count e = 0 :=
    fun e he => List.count_eq_zero.mpr fun hmem => he (List.eq_of_mem_replicate hmem)
  have hopening : s.opening = [.selected] := by
    obtain ⟨mux, muxValue, mod, modValue⟩ := s
    simp only [HasLock, not_or, Bool.not_eq_true] at h
    obtain ⟨rfl, rfl⟩ := h
    rfl
  rw [hopening]
  refine ⟨fun g => ?_, (inWindow_transactions n).1, ?_⟩
  · rw [List.count_append, List.count_append, hcount _ (by simp), hcount _ (by simp)]
    rfl
  · rw [replay_append, replay_transactions]
    rfl

theorem replay_open_ne (h : s.HasLock) (n : Nat) :
    replay noneHeld (s.opening ++ List.replicate n .transaction) ≠ noneHeld := by
  intro heq
  rw [replay_append, replay_transactions] at heq
  rcases h with h | h
  · have hmux := congrFun heq .muxSel
    rw [s.replay_opening] at hmux
    exact absurd (h.symm.trans hmux) (by decide)
  · have hmod := congrFun heq .modSel
    rw [s.replay_opening] at hmod
    exact absurd (h.symm.trans hmod) (by decide)

end Selection

/-! ## Operations that succeed or fail -/

/-- The computation succeeds in `n` operations with the events `es`. -/
def Succeeds (x : M Unit) (n : Nat) (es : List Event) (d : State) : Prop :=
  (∀ i < n, d.fault (d.time + i) = none) ∧
    ∃ d', x.out d = (.ok (), d') ∧ Does es d d' ∧ d'.time = d.time + n ∧ d'.hw.slaves = d.hw.slaves

/-- One of `n` operations fails, and the computation ends with the events `es`. -/
def Fails (x : M Unit) (n : Nat) (es : List Event) (d : State) : Prop :=
  (∃ i < n, d.fault (d.time + i) ≠ none) ∧
    ∃ e d', x.out d = (Device.outcome (.error e), d') ∧ Does es d d'

def Tries (x : M Unit) (n : Nat) (es : List Event) (K : List Event → Prop) (d : State) : Prop :=
  Succeeds x n es d ∨ ∃ ks, K ks ∧ Fails x n ks d

section

variable {x y z : M Unit} {f : Except Errno Unit → M Unit} {n m : Nat} {gs : List Event}
  {K : List Event → Prop} {g : PinGroup}

theorem Succeeds.nil (d : State) : Succeeds (pure ()) 0 [] d :=
  ⟨fun i hi => absurd hi (Nat.not_lt_zero i), d, rfl, Does.refl d, rfl, rfl⟩

theorem Succeeds.note (e : Event) (d : State) (he : replay d.held [e] = d.held) :
    Succeeds (note e) 0 [e] d :=
  ⟨fun i hi => absurd hi (Nat.not_lt_zero i), _, rfl, ⟨⟨he.symm, rfl, rfl⟩, ⟨_, rfl⟩, rfl, rfl, rfl⟩, rfl, rfl⟩

theorem Succeeds.release (g : PinGroup) (d : State) : Succeeds (pinGroupReleaseBus g) 0 [.release g] d :=
  ⟨fun i hi => absurd hi (Nat.not_lt_zero i), _, rfl, ⟨⟨rfl, rfl, rfl⟩, ⟨_, rfl⟩, rfl, rfl, rfl⟩, rfl, rfl⟩

theorem Succeeds.bind (hx : Succeeds x n es d) (hy : ∀ d', Does es d d' → Succeeds y m fs d') :
    Succeeds (x >>= fun _ => y) (n + m) (es ++ fs) d := by
  obtain ⟨hfault, d', hout, hdoes, htime, hslaves⟩ := hx
  obtain ⟨hfault', d'', hout', hdoes', htime', hslaves'⟩ := hy d' hdoes
  refine ⟨fun i hi => ?_, d'', (Acts.out_bind_ok hout).trans hout', hdoes.trans hdoes', by omega,
    hslaves'.trans hslaves⟩
  rcases Nat.lt_or_ge i n with hlt | hge
  · exact hfault i hlt
  · have hnone := hfault' (i - n) (by omega)
    rwa [hdoes.fault_eq, htime, show d.time + n + (i - n) = d.time + i by omega] at hnone

theorem Fails.handle (hx : Fails x n es d) (hf : ∀ e, f (.error e) = z >>= fun _ => Device.fail e)
    (hz : ∀ d', Succeeds z 0 gs d') : Fails (Device.attempt x >>= f) n (es ++ gs) d := by
  obtain ⟨hfault, e, d', hout, hdoes⟩ := hx
  obtain ⟨-, d'', hout', hdoes', -, -⟩ := hz d'
  refine ⟨hfault, e, d'', ?_, hdoes.trans hdoes'⟩
  rw [Acts.out_bind_ok (Device.out_attempt hout), hf, Acts.out_bind_ok hout']
  rfl

namespace Tries

theorem bind (hx : Tries x n es K d) (hy : ∀ d', Does es d d' → Tries y m fs (fun ks => K (es ++ ks)) d') :
    Tries (x >>= fun _ => y) (n + m) (es ++ fs) K d := by
  rcases hx with hx | ⟨ks, hK, ⟨i, hi, hfault⟩, e, d', hout, hdoes⟩
  · obtain ⟨hfault, d', hout, hdoes, htime, hslaves⟩ := id hx
    rcases hy d' hdoes with hy' | ⟨ks, hK, ⟨i, hi, hfault'⟩, e, d'', hout', hdoes'⟩
    · obtain ⟨hfault', d'', hout', hdoes', htime', hslaves'⟩ := hy'
      refine .inl ⟨fun i hi => ?_, d'', (Acts.out_bind_ok hout).trans hout', hdoes.trans hdoes', by omega,
        hslaves'.trans hslaves⟩
      rcases Nat.lt_or_ge i n with hlt | hge
      · exact hfault i hlt
      · have hnone := hfault' (i - n) (by omega)
        rwa [hdoes.fault_eq, htime, show d.time + n + (i - n) = d.time + i by omega] at hnone
    · refine .inr ⟨es ++ ks, hK, ⟨n + i, by omega, ?_⟩, e, d'', (Acts.out_bind_ok hout).trans hout',
        hdoes.trans hdoes'⟩
      rwa [hdoes.fault_eq, htime, Nat.add_assoc] at hfault'
  · exact .inr ⟨ks, hK, ⟨i, by omega, hfault⟩, e, d', Acts.out_bind_error hout, hdoes⟩

theorem attempt (hx : Tries x n es (· = []) d)
    (hy : ∀ d', Does es d d' → Tries (f (.ok ())) m fs (fun ks => K (es ++ ks)) d')
    (hf : ∀ e, f (.error e) = z >>= fun _ => Device.fail e) (hz : ∀ d', Succeeds z 0 gs d') (hK : K gs) :
    Tries (Device.attempt x >>= f) (n + m) (es ++ fs) K d := by
  rcases hx with hx | ⟨ks, rfl, hx⟩
  · have h := bind (K := K) (.inl hx) hy
    obtain ⟨-, d', hout, -⟩ := hx
    have hsame : (Device.attempt x >>= f).out d = (x >>= fun _ => f (.ok ())).out d := by
      rw [Acts.out_bind_ok hout, Acts.out_bind_ok (Device.out_attempt (r := .ok ()) hout)]
    unfold Tries Succeeds Fails at h ⊢
    rwa [hsame]
  · obtain ⟨⟨i, hi, hfault⟩, hout⟩ := hx.handle hf hz
    exact .inr ⟨gs, hK, ⟨i, by omega, hfault⟩, hout⟩

end Tries

/-! ## Operations on a pin group -/

theorem pinGroupAcquireBus_tries (hfree : d.held g = false) :
    Tries (pinGroupAcquireBus g) 1 [.acquire g] (· = []) d := by
  cases hfault : d.fault d.time with
  | none =>
      have hlock : (Device.lock g : M Unit).out d = (.ok (),
          { d with held := Function.update d.held g true, time := d.time + 1 }) := by
        simp only [Device.lock, Acts.out, ExceptT.run, StateT.run, hfault, hfree, Bool.false_eq_true,
          ↓reduceIte]
      refine .inl ⟨fun i hi => ?_, _, Acts.out_bind_ok hlock, ⟨⟨rfl, rfl, rfl⟩, ⟨_, rfl⟩, rfl, rfl, rfl⟩,
        rfl, rfl⟩
      rwa [Nat.lt_one_iff.mp hi]
  | some e =>
      have hlock : (Device.lock g : M Unit).out d = (.error (.error e), { d with time := d.time + 1 }) := by
        simp only [Device.lock, Acts.out, ExceptT.run, StateT.run, hfault]
      exact .inr ⟨[], rfl, ⟨0, Nat.one_pos, by simp [hfault]⟩, e, _, Acts.out_bind_error hlock,
        ⟨⟨rfl, rfl, (List.append_nil _).symm⟩, ⟨_, rfl⟩, rfl, rfl, rfl⟩⟩

theorem pinGroupWriteLevel_tries (hg : PinGroup.modLpmode ≠ g) (value : BitVec 32) (d : State) :
    Tries (pinGroupWriteLevel g value) 1 [] (· = []) d := by
  unfold Tries Succeeds Fails
  simp only [pinGroupWriteLevel, Device.access, Acts.out, ExceptT.run, StateT.run]
  cases hfault : d.fault d.time with
  | none =>
      refine .inl ⟨fun i hi => ?_, _, rfl, ⟨⟨rfl, rfl, (List.append_nil _).symm⟩, ⟨_, rfl⟩, rfl, rfl,
        Function.update_of_ne hg _ _⟩, rfl, rfl⟩
      rwa [Nat.lt_one_iff.mp hi]
  | some e =>
      exact .inr ⟨[], rfl, ⟨0, Nat.one_pos, by simp [hfault]⟩, e, _, rfl,
        ⟨⟨rfl, rfl, (List.append_nil _).symm⟩, ⟨_, rfl⟩, rfl, rfl, rfl⟩⟩

end

/-! ## Selecting and deselecting -/

namespace Selection

variable {s : Selection}

theorem releaseMux_succeeds (d : State) : Succeeds s.releaseMux 0 s.muxReleased d := by
  unfold releaseMux muxReleased
  cases s.muxSelHdl with
  | true => exact Succeeds.release .muxSel d
  | false => exact Succeeds.nil d

theorem moduleDeselect_succeeds (d : State) : Succeeds s.moduleDeselect 0 s.closing d := by
  have hmod : ∀ d', Succeeds (if s.modSelHdl then pinGroupReleaseBus .modSel else pure ()) 0
      s.modReleased d' := by
    intro d'
    unfold modReleased
    cases s.modSelHdl with
    | true => exact Succeeds.release .modSel d'
    | false => exact Succeeds.nil d'
  exact (Succeeds.note .deselected d rfl).bind fun d' _ => (releaseMux_succeeds d').bind fun d'' _ => hmod d''

theorem selectMux_tries (hfree : d.held .muxSel = false) :
    Tries s.selectMux (if s.muxSelHdl then 2 else 0) s.muxAcquired Closed d := by
  have hclosed : Closed [.acquire .muxSel, .release .muxSel] :=
    ⟨⟨fun g => by cases g <;> rfl, trivial, by funext g; cases g <;> rfl⟩, rfl⟩
  unfold selectMux muxAcquired
  cases s.muxSelHdl with
  | false => exact .inl (Succeeds.nil d)
  | true =>
      have hacquire : Tries (pinGroupAcquireBus .muxSel) 1 [.acquire .muxSel] Closed d :=
        (pinGroupAcquireBus_tries hfree).imp id fun ⟨ks, hks, h⟩ => ⟨ks, hks ▸ Closed.nil, h⟩
      change Tries _ (1 + 1) ([.acquire .muxSel] ++ []) Closed d
      refine hacquire.bind fun d' _ => ?_
      change Tries _ (1 + 0) ([] ++ []) _ d'
      refine (pinGroupWriteLevel_tries (by decide) _ d').attempt
        (fun d'' _ => .inl (Succeeds.nil d'')) (fun e => rfl) (Succeeds.release .muxSel) hclosed

theorem selectMod_tries (hfree : d.held .modSel = false) :
    Tries s.selectMod (if s.modSelHdl then 2 else 0) s.modAcquired
      (fun ks => Closed (s.muxAcquired ++ ks)) d := by
  have hclosed : Closed (s.muxAcquired ++ s.muxReleased) ∧
      Closed (s.muxAcquired ++ ([.acquire .modSel] ++ (s.muxReleased ++ [.release .modSel]))) := by
    unfold muxAcquired muxReleased
    cases s.muxSelHdl <;>
      exact ⟨⟨⟨fun g => by cases g <;> rfl, trivial, by funext g; cases g <;> rfl⟩, rfl⟩,
        ⟨⟨fun g => by cases g <;> rfl, trivial, by funext g; cases g <;> rfl⟩, rfl⟩⟩
  unfold selectMod modAcquired
  cases s.modSelHdl with
  | false => exact .inl (Succeeds.nil d)
  | true =>
      change Tries _ (1 + 1) ([.acquire .modSel] ++ []) _ d
      refine (pinGroupAcquireBus_tries hfree).attempt (fun d' _ => ?_) (fun e => rfl) releaseMux_succeeds
        hclosed.1
      have hrelease : ∀ d'', Succeeds (do s.releaseMux; pinGroupReleaseBus .modSel) 0
          (s.muxReleased ++ [.release .modSel]) d'' :=
        fun d'' => (releaseMux_succeeds d'').bind fun d3 _ => Succeeds.release .modSel d3
      change Tries _ (1 + 0) ([] ++ []) _ d'
      refine (pinGroupWriteLevel_tries (by decide) _ d').attempt
        (fun d'' _ => .inl (Succeeds.nil d'')) (fun e => ?_) hrelease hclosed.2
      simp only [bind_assoc]

theorem moduleSelect_tries (hfree : d.held = noneHeld) :
    Tries s.moduleSelect s.ops s.opening Closed d := by
  have hmod : ∀ d', Does s.muxAcquired d d' → d'.held .modSel = false := by
    intro d' h
    rw [h.held_eq, hfree]
    unfold muxAcquired
    cases s.muxSelHdl <;> rfl
  have h := (selectMux_tries (s := s) (by rw [hfree]; rfl)).bind fun d' h' =>
    (selectMod_tries (hmod d' h')).bind fun d'' _ => .inl (Succeeds.note .selected d'' rfl)
  rwa [← List.append_assoc] at h

end Selection

end OpxSdi.Media
