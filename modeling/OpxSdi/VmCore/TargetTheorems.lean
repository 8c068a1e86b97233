import OpxSdi.VmCore.Theorems

/-!
# Settings and their targets (`sdi_db_int_field_target_set`)

A call sets the target column and then the regular column, in two queries. Another call on the setting may come
between its queries, or before it returns.
-/

namespace OpxSdi.VmCore

open Lib Sql Vmdb

structure Setting where
  field : IntField
  resHandle : Handle
  value : BitVec 32

/-- The number of the resource is what a query has of its handle. -/
def Setting.place (c : Setting) : IntField × BitVec 32 := (c.field, uint c.resHandle)

variable (writeRegular : Bool)

def targetSet (c : Setting) : VmProc (Except TStdError Unit) :=
  (dbIntFieldTargetSet writeRegular c.field c.resHandle c.value).run

section

variable (T Db : Type)

abbrev TargetCalls := Calls T Setting VmOp VmOp.Resp Db Unit TStdError (Except TStdError Unit)

abbrev TargetEvent := Event T Setting TStdError Empty

end

variable {T Db : Type} [DecidableEq T] (lib : VmLibrary Db)

abbrev TargetCalls.step : TargetCalls T Db → TargetEvent T → TargetCalls T Db :=
  Calls.step lib.port (targetSet writeRegular)

def Holds (d : Db) (c : Column) (hdl : Handle) (v : BitVec 32) : Prop :=
  lib.read c hdl d = .ok (decimalInt v.toInt)

/-- What a call leaves of its setting -/
structure Left (d : Db) (c : Setting) : Prop where
  target : Holds lib d (.toTarget c.field) c.resHandle c.value
  regular : writeRegular = true → Holds lib d (.regular c.field) c.resHandle c.value

/-- A call that returns and has succeeded has left its value. -/
def LeavesValue (s : TargetCalls T Db) (e : TargetEvent T) : Prop :=
  ∀ c, Calls.returned s e = some (c, .ok ()) → Left writeRegular lib (TargetCalls.step writeRegular lib s e).dev c

/-- The resource has a row with the two columns. -/
def HasRow (d : Db) (c : Setting) : Prop :=
  ∀ target, ∃ text, lib.read ⟨c.field, target⟩ c.resHandle d = .ok text

/-! ## Points of a call -/

/-- What is left of a call that has set the target column. -/
def regularSet (c : Setting) : VmProc (Except TStdError Unit) :=
  (dbIntFieldSet (.regular c.field) c.resHandle c.value).run

/-- The call is about to set the target column, it has set it, it has failed, or it has left its value. -/
inductive Reached (d : Db) (c : Setting) : VmProc (Except TStdError Unit) → Prop
  | target : Reached d c (targetSet writeRegular c)
  | regular (h : writeRegular = true) (htarget : Holds lib d (.toTarget c.field) c.resHandle c.value) :
      Reached d c (regularSet c)
  | failed (rc : TStdError) : Reached d c (.ret (.error rc))
  | left (h : Left writeRegular lib d c) : Reached d c (.ret (.ok ()))

variable {writeRegular lib} {d d₀ d' : Db} {c : Setting} {p : VmProc (Except TStdError Unit)}

theorem read_update (hlib : lib.Documented) {c c' : Column} {hdl hdl' : Handle} {value : BitVec 32}
    (hne : c' = c → uint hdl' ≠ uint hdl) :
    lib.read c' hdl' (lib.update c hdl value d).2 = lib.read c' hdl' d := by
  cases hset : lib.update c hdl value d with
  | mk r d' =>
      cases r with
      | error rc => rw [hlib.failed hset]
      | ok u => exact hlib.others hset hne

theorem row_update (hlib : lib.Documented) {c c' : Column} {hdl hdl' : Handle} {value : BitVec 32}
    (h : ∃ text, lib.read c' hdl' d = .ok text) :
    ∃ text, lib.read c' hdl' (lib.update c hdl value d).2 = .ok text := by
  by_cases hsame : c' = c ∧ uint hdl' = uint hdl
  · obtain ⟨rfl, hhdl⟩ := hsame
    rw [read_congr _ _ hhdl] at h ⊢
    cases hset : lib.update c' hdl value d with
    | mk r d' =>
        cases r with
        | error rc =>
            rw [hlib.failed hset]
            exact h
        | ok u => exact h.elim fun text htext => hlib.row hset text htext
  · rwa [read_update hlib fun hc hhdl => hsame ⟨hc, hhdl⟩]

theorem holds_update (hlib : lib.Documented) {c : Column} {hdl : Handle} {value : BitVec 32}
    (hset : lib.update c hdl value d = (.ok (), d')) (hrow : ∃ text, lib.read c hdl d = .ok text) :
    Holds lib d' c hdl value := by
  obtain ⟨text, htext⟩ := hrow
  obtain ⟨text', htext'⟩ := hlib.row hset text htext
  rw [Holds, htext', hlib.updated hset text' htext']

/-- A column of another setting, or the other column of the setting -/
theorem Holds.update (hlib : lib.Documented) {c c' : Column} {hdl hdl' : Handle} {v value : BitVec 32}
    (h : Holds lib d c' hdl' v) (hne : c' = c → uint hdl' ≠ uint hdl) :
    Holds lib (lib.update c hdl value d).2 c' hdl' v :=
  (read_update hlib hne).trans h

/-- The next step of a call -/
theorem advance_reached (fault : Option TStdError) (h : Reached writeRegular lib d c p) :
    (Calls.advance lib.port fault d () p).1 = d ∨ ∃ target, (Calls.advance lib.port fault d () p).1 =
      (lib.update ⟨c.field, target⟩ c.resHandle c.value d).2 := by
  cases h with
  | target =>
      cases fault with
      | some e => exact .inl rfl
      | none => exact .inr ⟨true, rfl⟩
  | regular h htarget =>
      cases fault with
      | some e => exact .inl rfl
      | none => exact .inr ⟨false, rfl⟩
  | failed rc => exact .inl rfl
  | left h => exact .inl rfl

theorem reached_advance (hlib : lib.Documented) (fault : Option TStdError) (hrow : HasRow lib d c)
    (h : Reached writeRegular lib d c p) : Reached writeRegular lib (Calls.advance lib.port fault d () p).1 c
      (Calls.advance lib.port fault d () p).2.2 := by
  cases h with
  | target =>
      cases fault with
      | some e => exact .failed e
      | none =>
          change Reached writeRegular lib (lib.update (.toTarget c.field) c.resHandle c.value d).2 c
            (ExceptT.bindCont (fun _ => if writeRegular then dbIntFieldSet (.regular c.field) c.resHandle c.value
              else pure ()) (lib.update (.toTarget c.field) c.resHandle c.value d).1)
          cases hset : lib.update (.toTarget c.field) c.resHandle c.value d with
          | mk r d' =>
              cases r with
              | error rc => exact .failed rc
              | ok u =>
                  have htarget := holds_update hlib hset (hrow true)
                  cases writeRegular with
                  | true => exact .regular rfl htarget
                  | false => exact .left ⟨htarget, fun h => by cases h⟩
  | regular h htarget =>
      cases fault with
      | some e => exact .failed e
      | none =>
          change Reached writeRegular lib (lib.update (.regular c.field) c.resHandle c.value d).2 c
            (.ret (lib.update (.regular c.field) c.resHandle c.value d).1)
          have htarget' : Holds lib (lib.update (.regular c.field) c.resHandle c.value d).2 (.toTarget c.field)
              c.resHandle c.value := htarget.update hlib fun h => by cases h
          cases hset : lib.update (.regular c.field) c.resHandle c.value d with
          | mk r d' =>
              rw [hset] at htarget'
              cases r with
              | error rc => exact .failed rc
              | ok u => exact .left ⟨htarget', fun _ => holds_update hlib hset (hrow false)⟩
  | failed rc => exact .failed rc
  | left h => exact .left h

/-- A call keeps its place while its columns keep their values. -/
theorem Reached.frame (h : Reached writeRegular lib d c p)
    (hsame : ∀ target, lib.read ⟨c.field, target⟩ c.resHandle d' = lib.read ⟨c.field, target⟩ c.resHandle d) :
    Reached writeRegular lib d' c p := by
  cases h with
  | target => exact .target
  | regular h htarget => exact .regular h ((hsame true).trans htarget)
  | failed rc => exact .failed rc
  | left h => exact .left ⟨(hsame true).trans h.target, fun hw => (hsame false).trans (h.regular hw)⟩

theorem hasRow_advance (hlib : lib.Documented) (fault : Option TStdError) (h : Reached writeRegular lib d c p)
    {c' : Setting} (hrow : HasRow lib d c') : HasRow lib (Calls.advance lib.port fault d () p).1 c' := by
  intro target
  rcases advance_reached fault h with heq | ⟨target', heq⟩
  · rw [heq]
    exact hrow target
  · rw [heq]
    exact row_update hlib (hrow target)

/-- The next step of a call leaves the columns of other settings as they are. -/
theorem read_advance (hlib : lib.Documented) (fault : Option TStdError) (h : Reached writeRegular lib d c p)
    {c' : Setting} (hne : c'.place ≠ c.place) (target : Bool) :
    lib.read ⟨c'.field, target⟩ c'.resHandle (Calls.advance lib.port fault d () p).1 =
      lib.read ⟨c'.field, target⟩ c'.resHandle d := by
  rcases advance_reached fault h with heq | ⟨target', heq⟩
  · rw [heq]
  · rw [heq]
    exact read_update hlib fun hc hhdl => hne (Prod.ext (congrArg Column.field hc) hhdl)

/-! ## Every interleaving -/

variable (writeRegular lib d₀) in
/-- A thread that may set the setting has reached a point of its call. -/
structure Point (writers : T → IntField × BitVec 32 → Prop) (t : T) (c : Setting)
    (p : VmProc (Except TStdError Unit)) (d : Db) (_ : Unit) : Prop where
  writer : writers t c.place
  row : HasRow lib d₀ c
  reached : Reached writeRegular lib d c p

variable {writers : T → IntField × BitVec 32 → Prop}

omit [DecidableEq T] in
theorem outline (hlib : lib.Documented) (hone : ∀ t u place, writers t place → writers u place → t = u) :
    Calls.Outline lib.port (targetSet writeRegular) (fun t c => writers t c.place ∧ HasRow lib d₀ c)
      (fun d _ => ∀ c, HasRow lib d₀ c → HasRow lib d c) (Point writeRegular lib d₀ writers) where
  start t c d _ hallowed _ := ⟨hallowed.1, hallowed.2, .target⟩
  go t c p fault d m hrows hp := ⟨fun c' hc' => hasRow_advance hlib fault hp.reached (hrows c' hc'),
    hp.writer, hp.row, reached_advance hlib fault (hrows c hp.row) hp.reached⟩
  free t c p fault d m u c' p' hne _ hp hp' := by
    refine ⟨hp'.writer, hp'.row, hp'.reached.frame fun target => read_advance hlib fault hp.reached ?_ target⟩
    intro hplace
    exact hne (hone u t c.place (hplace ▸ hp'.writer) hp.writer)
  env i := i.elim
  env_free i := i.elim

theorem leavesValue_of_outlined {s : TargetCalls T Db} {I : Db → Unit → Prop}
    (h : s.Outlined I (Point writeRegular lib d₀ writers)) (e : TargetEvent T) : LeavesValue writeRegular lib s e := by
  intro c hreturned
  cases e with
  | env i => exact i.elim
  | call t c' => cases hreturned
  | go t fault =>
      cases hcall : s.call t with
      | none =>
          simp only [Calls.returned, hcall] at hreturned
          cases hreturned
      | some cp =>
          obtain ⟨c', p⟩ := cp
          have hreached := (h.at_point t c' p hcall).reached
          simp only [Calls.returned, hcall] at hreturned
          rw [TargetCalls.step, Calls.step_go hcall]
          cases hreached with
          | target => cases hreturned
          | regular h htarget => cases hreturned
          | failed rc => cases hreturned
          | left h =>
              cases hreturned
              exact h

/-! ## Two threads that set one setting -/

theorem step_call {s : TargetCalls T Db} {t : T} (h : s.call t = none) (c : Setting) :
    TargetCalls.step writeRegular lib s (.call t c) =
      { s with call := Function.update s.call t (some (c, targetSet writeRegular c)) } := by
  simp only [TargetCalls.step, Calls.step, h]

theorem step_target {s : TargetCalls T TextDb} {t : T} (h : s.call t = some (c, targetSet writeRegular c)) :
    TargetCalls.step writeRegular textLibrary s (.go t none) =
      ⟨(textLibrary.update (.toTarget c.field) c.resHandle c.value s.dev).2, (),
        Function.update s.call t (some (c, if writeRegular then regularSet c else .ret (.ok ())))⟩ := by
  rw [TargetCalls.step, Calls.step_go h]
  cases writeRegular <;> rfl

theorem step_regular {s : TargetCalls T TextDb} {t : T} (h : s.call t = some (c, regularSet c)) :
    TargetCalls.step writeRegular textLibrary s (.go t none) =
      ⟨(textLibrary.update (.regular c.field) c.resHandle c.value s.dev).2, (),
        Function.update s.call t (some (c, .ret (.ok ())))⟩ := by
  rw [TargetCalls.step, Calls.step_go h]
  rfl

/-- The queries of one call, which has not returned -/
def queries (writeRegular : Bool) (t : T) (c : Setting) : List (TargetEvent T) :=
  .call t c :: .go t none :: if writeRegular then [.go t none] else []

theorem run_queries {s : TargetCalls T TextDb} {t : T} (h : s.call t = none) (c : Setting)
    (hrow : HasRow textLibrary s.dev c) : ∃ d,
      run (TargetCalls.step writeRegular textLibrary) s (queries writeRegular t c) =
        ⟨d, (), Function.update s.call t (some (c, .ret (.ok ())))⟩ ∧
      Holds textLibrary d (.toTarget c.field) c.resHandle c.value ∧ HasRow textLibrary d c := by
  have htarget : Holds textLibrary (textLibrary.update (.toTarget c.field) c.resHandle c.value s.dev).2
      (.toTarget c.field) c.resHandle c.value := holds_update textLibrary_documented rfl (hrow true)
  have hrow₁ : HasRow textLibrary (textLibrary.update (.toTarget c.field) c.resHandle c.value s.dev).2 c :=
    fun target => row_update textLibrary_documented (hrow target)
  rw [queries, run_cons, step_call h, run_cons, step_target (Function.update_self ..), Function.update_idem]
  cases writeRegular with
  | false => exact ⟨_, rfl, htarget, hrow₁⟩
  | true =>
      rw [if_pos rfl, if_pos rfl, run_cons, step_regular (Function.update_self ..), Function.update_idem]
      exact ⟨_, rfl, htarget.update textLibrary_documented (fun h => by cases h),
        fun target => row_update textLibrary_documented (hrow₁ target)⟩

omit [DecidableEq T] in
theorem allowed_queries {allowed : T → Setting → Prop} {t : T} (h : allowed t c) {e : TargetEvent T}
    (he : e ∈ queries writeRegular t c) : Calls.Allowed allowed e := by
  rcases List.mem_cons.mp he with rfl | he
  · exact h
  rcases List.mem_cons.mp he with rfl | he
  · trivial
  cases writeRegular with
  | false => cases he
  | true =>
      obtain rfl := List.mem_singleton.mp he
      trivial

theorem left_of_leavesValue {s : TargetCalls T Db} {t : T} (hcall : s.call t = some (c, .ret (.ok ())))
    (h : LeavesValue writeRegular lib s (.go t none)) : Left writeRegular lib s.dev c := by
  have hleft := h c (by simp only [Calls.returned, hcall]; rfl)
  rw [TargetCalls.step, Calls.step_go hcall] at hleft
  exact hleft

/-- Every place has a number. -/
def zeros : TextDb := fun _ => some (bytesOf "0")

/-- In every interleaving of calls by threads that may set the settings they set, a call that succeeds has left its
value in the columns that it sets when it returns, if and only if no two threads may set one setting. -/
theorem targetSets_leave_value_iff (writeRegular : Bool) (writers : T → IntField × BitVec 32 → Prop) :
    (∀ (Db : Type) (lib : VmLibrary Db), lib.Documented → ∀ (d : Db) (events : List (TargetEvent T)),
      (∀ e ∈ events, Calls.Allowed (fun t c => writers t c.place ∧ HasRow lib d c) e) →
        Along (TargetCalls.step writeRegular lib) (LeavesValue writeRegular lib) (Calls.start d ()) events) ↔
    ∀ t u place, writers t place → writers u place → t = u := by
  constructor
  · intro h t u place ht hu
    by_contra hne
    obtain ⟨field, resource⟩ := place
    have hplace : ∀ value, Setting.place ⟨field, resource.setWidth 64, value⟩ = (field, resource) := fun value =>
      Prod.ext rfl (by simp [Setting.place, uint])
    have hrow : ∀ c, HasRow textLibrary zeros c := fun c target => ⟨bytesOf "0", rfl⟩
    -- one call has made its queries, and then the other one makes its own
    obtain ⟨d, hfirst, -, hrow₁⟩ := run_queries (s := Calls.start zeros ()) (t := t) rfl
      ⟨field, resource.setWidth 64, 1⟩ (hrow _)
    obtain ⟨d', hsecond, hholds, -⟩ := run_queries
      (s := ⟨d, (), Function.update (Calls.start zeros () : TargetCalls T TextDb).call t
        (some (⟨field, resource.setWidth 64, 1⟩, .ret (.ok ())))⟩) (t := u)
      (Function.update_of_ne (Ne.symm hne) _ _) ⟨field, resource.setWidth 64, 2⟩ hrow₁
    have halong := h TextDb textLibrary textLibrary_documented zeros (queries writeRegular t
      ⟨field, resource.setWidth 64, 1⟩ ++ (queries writeRegular u ⟨field, resource.setWidth 64, 2⟩ ++ [.go t none])) ?_
    · have hlast := (along_append.mp (along_append.mp halong).2).2.1
      rw [hfirst, hsecond] at hlast
      have hleft := left_of_leavesValue ((Function.update_of_ne hne _ _).trans (Function.update_self ..)) hlast
      exact absurd (show decimalInt (1#32).toInt = decimalInt (2#32).toInt from
        Except.ok.inj (hleft.target.symm.trans hholds)) (by decide)
    · intro e he
      rcases List.mem_append.mp he with he | he
      · exact allowed_queries ⟨(hplace 1).symm ▸ ht, hrow _⟩ he
      rcases List.mem_append.mp he with he | he
      · exact allowed_queries ⟨(hplace 2).symm ▸ hu, hrow _⟩ he
      · obtain rfl := List.mem_singleton.mp he
        trivial
  · intro hone Db lib hlib d events hallowed
    refine (along_iff _).mpr fun pre e post hsplit => ?_
    have hpre : ∀ e' ∈ pre, Calls.Allowed (fun t c => writers t c.place ∧ HasRow lib d c) e' := fun e' he' =>
      hallowed e' (by
        rw [hsplit]
        exact List.mem_append_left _ he')
    exact leavesValue_of_outlined ((outline hlib hone).run (fun _ hc => hc) hpre) e

end OpxSdi.VmCore
