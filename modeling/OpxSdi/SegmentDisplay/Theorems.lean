import OpxSdi.Lib.Atomic
import OpxSdi.SegmentDisplay.Display

/-! # Which calls of a segment display do what they are for -/

namespace OpxSdi.SegmentDisplay

open Lib Device

/-! ## The map -/

theorem indexOf_of_lt {c : Byte} (h : c.toNat < 128) : indexOf c = c.toNat := by
  have hmsb : c.msb = false := by
    rw [BitVec.msb_eq_decide, decide_eq_false_iff_not]
    omega
  rw [indexOf, BitVec.signExtend_eq_setWidth_of_msb_false hmsb, BitVec.toNat_setWidth]
  omega

theorem indexOf_lt_iff (c : Byte) : indexOf c < segmentDisplayMapSize ↔ c.toNat < 128 := by
  constructor
  · intro h
    by_contra hge
    have hmsb : c.msb = true := by
      rw [BitVec.msb_eq_decide, decide_eq_true_iff]
      omega
    rw [indexOf, segmentDisplayMapSize, BitVec.toNat_signExtend, hmsb, BitVec.toNat_setWidth] at h
    simp only [↓reduceIte] at h
    omega
  · intro h
    rw [indexOf_of_lt h, segmentDisplayMapSize]
    omega

/-- The data are those of a map, but for what was written last. -/
structure Describes (data : SegmentDisplayData) (m : DisplayMap) : Prop where
  offPattern : data.offPattern = m.offPattern
  charMap : ∀ i, data.charMap i = m.shows (BitVec.ofNat 8 i)

/-- The map holds what the log says. -/
def Logged (data : SegmentDisplayData) (log : List (BitVec 32 × BitVec 32)) : Prop :=
  ∀ i, data.charMap i = (lastWritten (BitVec.ofNat 32 i) log).getD data.offPattern

theorem eq_ofNat_iff (w : BitVec 32) (i : Fin segmentDisplayMapSize) : w = BitVec.ofNat 32 i ↔ w.toNat = i := by
  have hlt : i.val < 2 ^ 32 := Nat.lt_trans i.isLt (by decide)
  rw [← BitVec.toNat_inj, BitVec.toNat_ofNat, Nat.mod_eq_of_lt hlt]

theorem mapNode_logged {data data' : SegmentDisplayData} {child : ConfigNode} {log : List (BitVec 32 × BitVec 32)}
    (h : mapNode data child = .ok data') (hdata : Logged data log) :
    data'.offPattern = data.offPattern ∧ Logged data' (log ++ (mapping child).toList) := by
  unfold mapNode at h
  split at h
  · cases h
  · rename_i name hname
    split at h
    · rename_i hmap
      obtain ⟨input, hinput, h⟩ := bind_eq_ok h
      obtain ⟨output, houtput, h⟩ := bind_eq_ok h
      have hmapping : mapping child = some (number 32 input, number 32 output) := by
        rw [mapping, if_pos (by rw [hname, hmap]), ConfigNode.required_eq hinput, ConfigNode.required_eq houtput]
        rfl
      rw [hmapping, Option.toList_some]
      split at h
      · rename_i hlt
        cases h
        refine ⟨rfl, fun i => ?_⟩
        have hiff : number 32 input = BitVec.ofNat 32 i ↔ i = ⟨(number 32 input).toNat, hlt⟩ := by
          rw [eq_ofNat_iff, Fin.ext_iff, eq_comm]
        change Function.update data.charMap _ _ i = _
        rw [lastWritten_concat, Function.update_apply, hdata i]
        simp only [hiff]
        split <;> rfl
      · rename_i hge
        cases h
        refine ⟨rfl, fun i => ?_⟩
        have hne : number 32 input ≠ BitVec.ofNat 32 i := fun heq => hge ((eq_ofNat_iff _ i).mp heq ▸ i.isLt)
        rw [lastWritten_concat, if_neg hne]
        exact hdata i
    · rename_i hmap
      cases h
      have hmapping : mapping child = none := if_neg fun hname' => hmap (Option.some.inj (hname.symm.trans hname'))
      rw [hmapping, Option.toList_none, List.append_nil]
      exact ⟨rfl, hdata⟩

theorem foldlM_mapNode_logged {data data' : SegmentDisplayData} {children : List ConfigNode}
    {log : List (BitVec 32 × BitVec 32)} (h : children.foldlM mapNode data = .ok data') (hdata : Logged data log) :
    data'.offPattern = data.offPattern ∧ Logged data' (log ++ children.filterMap mapping) := by
  induction children generalizing data log with
  | nil =>
      cases h
      rw [List.filterMap_nil, List.append_nil]
      exact ⟨rfl, hdata⟩
  | cons child children ih =>
      rw [List.foldlM_cons] at h
      obtain ⟨data₁, hfirst, hrest⟩ := bind_eq_ok h
      obtain ⟨hoff, hlog⟩ := mapNode_logged hfirst hdata
      obtain ⟨hoff', hlog'⟩ := ih hrest hlog
      refine ⟨hoff'.trans hoff, ?_⟩
      rw [List.append_assoc] at hlog'
      rw [List.filterMap_cons]
      cases hmapping : mapping child <;> rw [hmapping] at hlog' <;> exact hlog'

theorem register_describes {allocated data : SegmentDisplayData} {node : ConfigNode} {children : List ConfigNode}
    (h : segmentDisplayRegister allocated node children = .ok data) : Describes data (configured node children) := by
  obtain ⟨_, -, h⟩ := bind_eq_ok h
  have hstart : Logged { allocated with offPattern := offPatternOf node, charMap := fun _ => offPatternOf node } [] :=
    fun i => rfl
  obtain ⟨hoff, hlog⟩ := foldlM_mapNode_logged h hstart
  refine ⟨hoff, fun i => ?_⟩
  have hbyte : (BitVec.ofNat 8 i).setWidth 32 = BitVec.ofNat 32 i := by
    have hlt : i.val < 256 := i.isLt
    rw [← BitVec.toNat_inj, BitVec.toNat_setWidth, BitVec.toNat_ofNat, BitVec.toNat_ofNat]
    omega
  have hshows : (configured node children).shows (BitVec.ofNat 8 i) =
      (lastWritten (BitVec.ofNat 32 i) (children.filterMap mapping)).getD (offPatternOf node) := by
    rw [← hbyte]
    rfl
  rw [hlog i, hoff, List.nil_append, hshows]

/-! ## What a call does -/

def free : Unit → Bool := fun _ => false

theorem atomic_onBus {α : Type} (g : Panel → α × Panel) : Atomic free (onBus (Device.access g)) 2 g :=
  (Atomic.access g).locked rfl

theorem atomic_on :
    Atomic free segmentDisplayOn 2 fun panel => ((), { panel with level := panel.data.lastWritten }) :=
  Atomic.read (r := Panel.data) (h := fun data panel => ((), { panel with level := data.lastWritten }))
    fun _ => atomic_onBus _

theorem atomic_off :
    Atomic free segmentDisplayOff 2 fun panel => ((), { panel with level := panel.data.offPattern }) :=
  Atomic.read (r := Panel.data) (h := fun data panel => ((), { panel with level := data.offPattern }))
    fun _ => atomic_onBus _

theorem atomic_getState :
    Atomic free segmentDisplayGetState 2 fun panel => (decide (panel.level ≠ panel.data.offPattern), panel) :=
  Atomic.read (r := Panel.data) (h := fun data panel => (decide (panel.level ≠ data.offPattern), panel))
    fun data => (atomic_onBus fun panel => (panel.level, panel)).map fun level => decide (level ≠ data.offPattern)

theorem atomic_get (bufSize : Nat) : Atomic free (segmentDisplayGet bufSize) 2 fun panel =>
    (printChar (min bufSize (ledNumOfDigitSupported + 1)) (panel.data.parse panel.level), panel) :=
  Atomic.read (r := Panel.data)
    (h := fun data panel => (printChar (min bufSize (ledNumOfDigitSupported + 1)) (data.parse panel.level), panel))
    fun data => (atomic_onBus fun panel => (panel.level, panel)).map fun level =>
      printChar (min bufSize (ledNumOfDigitSupported + 1)) (data.parse level)

theorem atomic_set {c : Byte} (hc : indexOf c < segmentDisplayMapSize) : Atomic free (segmentDisplaySet [c]) 2
    fun panel => ((), ⟨{ panel.data with lastWritten := panel.data.charMap ⟨_, hc⟩ }, panel.data.charMap ⟨_, hc⟩⟩) := by
  refine Atomic.read (r := Panel.data) (h := fun data panel =>
    ((), ⟨{ panel.data with lastWritten := data.charMap ⟨_, hc⟩ }, data.charMap ⟨_, hc⟩⟩)) fun data => ?_
  simp only [hc, ↓reduceDIte]
  exact (atomic_onBus fun panel => ((), { panel with level := data.charMap ⟨_, hc⟩ })).andThen
    (h := fun _ (panel : Panel) => ((), { panel with data := { panel.data with lastWritten := data.charMap ⟨_, hc⟩ } }))
    fun _ _ => ok_internal.mpr ⟨rfl, rfl⟩

/-! ## What holds between the calls -/

variable {m : DisplayMap} {s : Display × History} {data : SegmentDisplayData}

theorem ofNat_indexOf {c : Byte} (h : c.toNat < 128) : BitVec.ofNat 8 (indexOf c) = c := by
  rw [indexOf_of_lt h, BitVec.ofNat_toNat, BitVec.setWidth_eq]

theorem Describes.charMap_indexOf (h : Describes data m) {c : Byte} (hc : indexOf c < segmentDisplayMapSize) :
    data.charMap ⟨indexOf c, hc⟩ = m.shows c := by
  rw [h.charMap, ofNat_indexOf ((indexOf_lt_iff c).mp hc)]

/-- The pattern of a character that is mapped is read back as the character. -/
theorem Describes.parse_shows (h : Describes data m) (hm : m.Distinct) {c : Byte} (hc : (m.pattern c).isSome) :
    data.parse (m.shows c) = c := by
  obtain ⟨p, hp⟩ := Option.isSome_iff_exists.mp hc
  have hshows : m.shows c = p := by rw [DisplayMap.shows, hp, Option.getD_some]
  rw [SegmentDisplayData.parse, hshows]
  cases hfind : (List.finRange segmentDisplayMapSize).find? fun i => data.charMap i = p with
  | none =>
      have hself := List.find?_eq_none.mp hfind ⟨c.toNat, c.isLt⟩ (List.mem_finRange _)
      rw [decide_eq_true_iff, h.charMap, BitVec.ofNat_toNat, BitVec.setWidth_eq] at hself
      exact absurd hshows hself
  | some i =>
      have hi : data.charMap i = p := by simpa using List.find?_some hfind
      rw [h.charMap, DisplayMap.shows] at hi
      cases hpattern : m.pattern (BitVec.ofNat 8 i) with
      | none =>
          rw [hpattern, Option.getD_none] at hi
          exact absurd (hi ▸ hp) (hm.on c)
      | some p' =>
          rw [hpattern, Option.getD_some] at hi
          exact hm.inj _ _ p (hi ▸ hpattern) hp

/-- Between calls the bus is free, and the display and what was written last are as the history has it. -/
structure Inv (m : DisplayMap) (s : Display × History) : Prop where
  free : s.1.held = free
  describes : Describes s.1.hw.data m
  lastSet : ∀ c, s.2.lastSet = some c → s.1.hw.data.lastWritten = m.shows c
  shownOff : s.2.shown = some .off → s.1.hw.level = m.offPattern
  shownChar : ∀ c, s.2.shown = some (.char c) → s.1.hw.level = m.shows c

theorem step_of_atomic {call : Call} {g : Panel → Reply × Panel} (h : Atomic SegmentDisplay.free call.exec 2 g)
    (hfree : s.1.held = SegmentDisplay.free) :
    (s.1.Clear 2 ∧ step s call = (s.1.after 2 (g s.1.hw).2, s.2.after call)) ∨
      ∃ d, d.held = SegmentDisplay.free ∧ d.hw = s.1.hw ∧ step s call = (d, s.2) := by
  rcases h s.1 hfree with ⟨hclear, hok⟩ | ⟨-, e, d, herr, hheld, hhw⟩
  · exact .inl ⟨hclear, by rw [step, show call.exec.out s.1 = _ from hok]⟩
  · exact .inr ⟨d, hheld, hhw, by rw [step, show call.exec.out s.1 = _ from herr]⟩

theorem Inv.of_same (h : Inv m s) {d : Display} (hheld : d.held = SegmentDisplay.free) (hhw : d.hw = s.1.hw) :
    Inv m (d, s.2) :=
  ⟨hheld, hhw ▸ h.describes, hhw ▸ h.lastSet, hhw ▸ h.shownOff, hhw ▸ h.shownChar⟩

/-! ## One call -/

theorem abort_set {c : Byte} (hc : ¬indexOf c < segmentDisplayMapSize) (d : Display) :
    (Call.set [c]).exec.out d = (.error .aborted, d) := by
  have hset : (segmentDisplaySet [c]).out d = (.error .aborted, d) := by
    rw [segmentDisplaySet, privateData, Acts.out_bind_ok (ok_internal.mpr ⟨rfl, rfl⟩)]
    simp only [hc, ↓reduceDIte]
    rfl
  exact Acts.out_bind_error hset

theorem reject_set {displayString : List Byte} (h : ∀ c, displayString ≠ [c]) (d : Display) :
    (Call.set displayString).exec.out d = (.error (.error .eopnotsupp), d) := by
  have hset : (segmentDisplaySet displayString).out d = (.error (.error .eopnotsupp), d) := by
    unfold segmentDisplaySet
    split
    · exact absurd rfl (h _)
    · rfl
  exact Acts.out_bind_error hset

theorem exec_set {c : Byte} (hc : indexOf c < segmentDisplayMapSize) : Atomic free (Call.set [c]).exec 2 fun panel =>
    (.done, ⟨{ panel.data with lastWritten := panel.data.charMap ⟨_, hc⟩ }, panel.data.charMap ⟨_, hc⟩⟩) :=
  (atomic_set hc).map fun _ => Reply.done

theorem exec_on : Atomic free Call.on.exec 2 fun panel => (.done, { panel with level := panel.data.lastWritten }) :=
  atomic_on.map fun _ => Reply.done

theorem exec_off : Atomic free Call.off.exec 2 fun panel => (.done, { panel with level := panel.data.offPattern }) :=
  atomic_off.map fun _ => Reply.done

theorem exec_get (bufSize : Nat) : Atomic free (Call.get bufSize).exec 2 fun panel =>
    (.bytes (printChar (min bufSize (ledNumOfDigitSupported + 1)) (panel.data.parse panel.level)), panel) :=
  (atomic_get bufSize).map Reply.bytes

theorem exec_getState : Atomic free Call.getState.exec 2 fun panel =>
    (.state (decide (panel.level ≠ panel.data.offPattern)), panel) :=
  atomic_getState.map Reply.state

theorem printChar_eq {bufSize : Nat} (h : 2 ≤ bufSize) (c : Byte) :
    printChar (min bufSize (ledNumOfDigitSupported + 1)) c = [c, 0] := by
  rw [ledNumOfDigitSupported, Nat.min_eq_right h]
  rfl

theorem Inv.right_iff (h : Inv m s) (hm : m.Distinct) (call : Call) : Right m s call ↔ Within s call := by
  cases call with
  | set displayString =>
      by_cases hone : ∃ c, displayString = [c]
      · obtain ⟨c, rfl⟩ := hone
        by_cases hc : indexOf c < segmentDisplayMapSize
        · refine iff_of_true (((exec_set hc).exists_iff h.free fun _ _ => trivial).mpr fun _ => trivial) ?_
          rintro c' hc'
          cases hc'
          exact (indexOf_lt_iff c).mp hc
        · refine iff_of_false ?_ fun hwithin => hc ((indexOf_lt_iff c).mpr (hwithin c rfl))
          rintro ⟨r, d, hout, -⟩
          rw [abort_set hc] at hout
          cases r <;> cases hout
      · have hne : ∀ c, displayString ≠ [c] := fun c hc => hone ⟨c, hc⟩
        exact iff_of_true ⟨.error .eopnotsupp, _, reject_set hne s.1, trivial⟩ fun c hc => absurd hc (hne c)
  | on =>
      refine (exec_on.exists_iff h.free fun _ _ => nofun).trans ?_
      change (_ → _ → s.1.hw.data.lastWritten = _) ↔ (_ → _ → _)
      rw [h.describes.offPattern]
      cases hlast : s.2.lastSet with
      | none => exact ⟨fun hr _ hclear => hr hclear rfl, fun hw hclear _ => hw rfl hclear⟩
      | some c => exact iff_of_true (fun _ _ => h.lastSet c hlast) nofun
  | off => exact iff_of_true ((exec_off.exists_iff h.free fun _ _ => trivial).mpr fun _ => trivial) trivial
  | get bufSize =>
      refine iff_of_true (((exec_get bufSize).exists_iff h.free fun _ _ _ _ => nofun).mpr fun _ => ?_) trivial
      rintro bs c hbs hshown hc hsize
      cases hbs
      rw [printChar_eq hsize, h.shownChar c hshown, h.describes.parse_shows hm hc]
  | getState =>
      refine iff_of_true ((exec_getState.exists_iff h.free fun _ _ _ => nofun).mpr fun _ => ?_) trivial
      rintro on hon
      cases hon
      rw [h.describes.offPattern]
      refine ⟨fun hshown => ?_, fun c hshown hc => ?_⟩
      · rw [h.shownOff hshown]
        exact decide_eq_false (not_not_intro rfl)
      · obtain ⟨p, hp⟩ := Option.isSome_iff_exists.mp hc
        rw [h.shownChar c hshown, DisplayMap.shows, hp, Option.getD_some]
        exact decide_eq_true fun hoff => hm.on c (hoff ▸ hp)

theorem Inv.step_of_atomic (h : Inv m s) {call : Call} {g : Panel → Reply × Panel}
    (hexec : Atomic SegmentDisplay.free call.exec 2 g)
    (hok : s.1.Clear 2 → Inv m (s.1.after 2 (g s.1.hw).2, s.2.after call)) : Inv m (step s call) := by
  rcases SegmentDisplay.step_of_atomic hexec h.free with ⟨hclear, hstep⟩ | ⟨d, hheld, hhw, hstep⟩
  · exact hstep ▸ hok hclear
  · exact hstep ▸ h.of_same hheld hhw

theorem Inv.step_set (h : Inv m s) {c : Byte} (hc : indexOf c < segmentDisplayMapSize) :
    Inv m (step s (.set [c])) := by
  refine h.step_of_atomic (exec_set hc) fun _ =>
    ⟨h.free, ⟨h.describes.offPattern, h.describes.charMap⟩, fun c' hc' => ?_, nofun, fun c' hc' => ?_⟩
  all_goals
    cases hc'
    exact h.describes.charMap_indexOf hc

theorem Inv.step_on (h : Inv m s) (hwithin : Within s .on) : Inv m (step s .on) := by
  refine h.step_of_atomic exec_on fun hclear => ?_
  cases hlast : s.2.lastSet with
  | none =>
      have hshown : (s.2.after .on).shown = some .off := by
        change some ((s.2.lastSet.map Shown.char).getD .off) = _
        rw [hlast]
        rfl
      have hlevel := (hwithin hlast hclear).trans h.describes.offPattern
      refine ⟨h.free, h.describes, h.lastSet, fun _ => hlevel, fun c hc => ?_⟩
      cases hshown.symm.trans hc
  | some c =>
      have hshown : (s.2.after .on).shown = some (.char c) := by
        change some ((s.2.lastSet.map Shown.char).getD .off) = _
        rw [hlast]
        rfl
      refine ⟨h.free, h.describes, h.lastSet, fun hc => ?_, fun c' hc' => ?_⟩
      · cases hshown.symm.trans hc
      · cases hshown.symm.trans hc'
        exact h.lastSet c hlast

theorem Inv.step_off (h : Inv m s) : Inv m (step s .off) :=
  h.step_of_atomic exec_off fun _ => ⟨h.free, h.describes, h.lastSet, fun _ => h.describes.offPattern, nofun⟩

theorem Inv.step (h : Inv m s) (call : Call) (hwithin : Within s call) : Inv m (step s call) := by
  cases call with
  | set displayString =>
      by_cases hone : ∃ c, displayString = [c]
      · obtain ⟨c, rfl⟩ := hone
        exact h.step_set ((indexOf_lt_iff c).mpr (hwithin c rfl))
      · have hreject := reject_set (fun c hc => hone ⟨c, hc⟩) s.1
        rw [SegmentDisplay.step, hreject]
        exact h
  | on => exact h.step_on hwithin
  | off => exact h.step_off
  | get bufSize => exact h.step_of_atomic (exec_get bufSize) fun _ => h.of_same h.free rfl
  | getState => exact h.step_of_atomic exec_getState fun _ => h.of_same h.free rfl

/-! ## Runs -/

variable {allocated : SegmentDisplayData} {node : ConfigNode} {children : List ConfigNode} {d : Display}

theorem Inv.start (hdata : segmentDisplayRegister allocated node children = .ok d.hw.data)
    (hheld : d.held = SegmentDisplay.free) : Inv (configured node children) (d, .start) :=
  ⟨hheld, register_describes hdata, nofun, nofun, nofun⟩

/-- In a run of any calls on a display with distinct patterns, whatever fails on the bus, every call does what it
is for iff every string of one character is of ASCII and the display is not turned on before anything has been set,
unless the memory that was allocated holds the off pattern. -/
theorem right_along_iff (hdata : segmentDisplayRegister allocated node children = .ok d.hw.data)
    (hheld : d.held = SegmentDisplay.free) (hm : (configured node children).Distinct) (calls : List Call) :
    Along step (Right (configured node children)) (d, .start) calls ↔ Along step Within (d, .start) calls := by
  refine along_congr (I := Inv (configured node children)) (fun s call h => ?_) (fun s call h hwithin => ?_) ?_
  · exact h.right_iff hm call
  · exact h.step call hwithin
  · exact .start hdata hheld

/-- The number 1 lights two segments. -/
def sampleNode : ConfigNode := ⟨some "segment_display".toList, [("instance".toList, "1".toList)]⟩

def sampleChildren : List ConfigNode :=
  [⟨some "display_map".toList, [("input".toList, "0x31".toList), ("output".toList, "0xF9".toList)]⟩]

/-- A display on a bus that does not fail, in memory that was cleared by chance -/
def sampleDisplay : Display where
  held := SegmentDisplay.free
  fault _ := none
  time := 0
  hw := ⟨⟨0xff, 0, Function.update (fun _ => 0xff) ⟨0x31, by decide⟩ 0xf9⟩, 0⟩

theorem sample_register :
    segmentDisplayRegister ⟨0, 0, fun _ => 0⟩ sampleNode sampleChildren = .ok sampleDisplay.hw.data := rfl

theorem sample_pattern {c : Byte} {p : BitVec 32} (h : (configured sampleNode sampleChildren).pattern c = some p) :
    c = 0x31 ∧ p = 0xf9 := by
  have hlog : sampleChildren.filterMap mapping = [(0x31, 0xf9)] := rfl
  change lastWritten (c.setWidth 32) (sampleChildren.filterMap mapping) = some p at h
  rw [hlog, lastWritten, lastWritten, Option.none_or] at h
  split at h
  · rename_i hc
    refine ⟨?_, (Option.some.inj h).symm⟩
    have hnat := congrArg BitVec.toNat hc
    rw [BitVec.toNat_setWidth, Nat.mod_eq_of_lt (Nat.lt_trans c.isLt (by decide))] at hnat
    exact BitVec.eq_of_toNat_eq hnat.symm
  · cases h

theorem sample_distinct : (configured sampleNode sampleChildren).Distinct where
  inj c c' p h h' := (sample_pattern h).1.trans (sample_pattern h').1.symm
  on c h := absurd (sample_pattern h).2 (by decide)

theorem right_along_sample : Along step (Right (configured sampleNode sampleChildren)) (sampleDisplay, .start)
    [.set [0x31], .get 2, .off, .getState, .on, .get 2] := by
  refine (right_along_iff sample_register rfl sample_distinct _).mpr ⟨?_, trivial, trivial, trivial, ?_, trivial, trivial⟩
  · rintro c hc
    cases hc
    decide
  · intro h
    cases h

/-- A display that is turned on first, and a character that is not of ASCII -/
theorem not_right_sample :
    ¬Along step (Right (configured sampleNode sampleChildren)) (sampleDisplay, .start) [.on] ∧
      ¬Along step (Right (configured sampleNode sampleChildren)) (sampleDisplay, .start) [.set [0x80]] := by
  have hinv := Inv.start (d := sampleDisplay) sample_register rfl
  constructor
  · intro h
    have hwithin := (hinv.right_iff sample_distinct .on).mp h.1
    exact absurd (hwithin rfl fun _ _ => rfl) (by decide)
  · intro h
    have hwithin := (hinv.right_iff sample_distinct (.set [0x80])).mp h.1
    exact absurd (hwithin 0x80 rfl) (by decide)

end OpxSdi.SegmentDisplay
