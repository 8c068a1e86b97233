import Mathlib.Logic.Function.Basic
import OpxSdi.Lib.Run

/-!
# Calls that share a device and a memory

A procedure uses a device through transactions, each of which may fail, and a memory through loads and
stores. The calls of several threads interleave at all of these, and a call returns in a step of its own. The
device also changes by itself, at any time.
-/

namespace OpxSdi.Lib

inductive Proc (Op : Type) (Resp : Op → Type) (M ε α : Type)
  | ret (a : α)
  | bus (op : Op) (k : Except ε (Resp op) → Proc Op Resp M ε α)
  | update (f : M → M) (k : M → Proc Op Resp M ε α)

namespace Proc

variable {Op : Type} {Resp : Op → Type} {M ε α β : Type}

def bind : Proc Op Resp M ε α → (α → Proc Op Resp M ε β) → Proc Op Resp M ε β
  | ret a, f => f a
  | bus op k, f => bus op fun r => (k r).bind f
  | update g k, f => update g fun m => (k m).bind f

instance : Monad (Proc Op Resp M ε) where
  pure := ret
  bind := bind

def transact (op : Op) : Proc Op Resp M ε (Except ε (Resp op)) := bus op ret

def load : Proc Op Resp M ε M := update id ret

def store (m : M) : Proc Op Resp M ε Unit := update (fun _ => m) fun _ => ret ()

/-- The transaction that comes next, if it does not load or store before. -/
def next : Proc Op Resp M ε α → Option Op
  | bus op _ => some op
  | _ => none

end Proc

/-- What a device answers to a transaction, and the device after it; how it changes by itself. -/
structure Port (Op : Type) (Resp : Op → Type) (D ι : Type) where
  exec : (op : Op) → D → Resp op × D
  env : D → ι → D

/-- The call that each thread is in: its argument and what is left to do. -/
structure Calls (T C Op : Type) (Resp : Op → Type) (D M ε α : Type) where
  dev : D
  mem : M
  call : T → Option (C × Proc Op Resp M ε α)

/-- The device changes, a thread begins a call, or it goes on with the call it is in. -/
inductive Event (T C ε ι : Type)
  | env (i : ι)
  | call (t : T) (c : C)
  | go (t : T) (fault : Option ε)
  deriving DecidableEq, Repr

namespace Calls

variable {T C Op : Type} {Resp : Op → Type} {D M ε α ι : Type} (port : Port Op Resp D ι)
  (body : C → Proc Op Resp M ε α)

/-- The next transaction or update of a procedure. -/
def advance (fault : Option ε) (dev : D) (mem : M) : Proc Op Resp M ε α → D × M × Proc Op Resp M ε α
  | .bus op k =>
      match fault with
      | some e => (dev, mem, k (.error e))
      | none => ((port.exec op dev).2, mem, k (.ok (port.exec op dev).1))
  | .update f k => (dev, f mem, k (f mem))
  | .ret a => (dev, mem, .ret a)

/-- What is left of a call whose next step leaves `q` to do. A call that returns is over. -/
def left (c : C) (q : Proc Op Resp M ε α) : Proc Op Resp M ε α → Option (C × Proc Op Resp M ε α)
  | .ret _ => none
  | _ => some (c, q)

def result (c : C) : Proc Op Resp M ε α → Option (C × α)
  | .ret a => some (c, a)
  | _ => none

/-- A thread that is in a call begins no other. -/
def step [DecidableEq T] (s : Calls T C Op Resp D M ε α) : Event T C ε ι → Calls T C Op Resp D M ε α
  | .env i => { s with dev := port.env s.dev i }
  | .call t c =>
      match s.call t with
      | some _ => s
      | none => { s with call := Function.update s.call t (some (c, body c)) }
  | .go t fault =>
      match s.call t with
      | none => s
      | some (c, p) =>
          let r := advance port fault s.dev s.mem p
          ⟨r.1, r.2.1, Function.update s.call t (left c r.2.2 p)⟩

/-- The call that returns with an event, and what it returns. -/
def returned (s : Calls T C Op Resp D M ε α) : Event T C ε ι → Option (C × α)
  | .go t _ =>
      match s.call t with
      | none => none
      | some (c, p) => result c p
  | _ => none

def start (dev : D) (mem : M) : Calls T C Op Resp D M ε α := ⟨dev, mem, fun _ => none⟩

theorem left_eq_some {c d : C} {p q q' : Proc Op Resp M ε α} (h : left c q p = some (d, q')) : d = c ∧ q' = q := by
  cases p with
  | ret a => cases h
  | bus op k => exact ⟨(Prod.mk.inj (Option.some.inj h)).1.symm, (Prod.mk.inj (Option.some.inj h)).2.symm⟩
  | update f k => exact ⟨(Prod.mk.inj (Option.some.inj h)).1.symm, (Prod.mk.inj (Option.some.inj h)).2.symm⟩

/-! ## Proof outlines -/

variable [DecidableEq T] {port body} {s : Calls T C Op Resp D M ε α}

theorem step_go {t : T} {c : C} {p : Proc Op Resp M ε α} (h : s.call t = some (c, p)) (fault : Option ε) :
    step port body s (.go t fault) = ⟨(advance port fault s.dev s.mem p).1, (advance port fault s.dev s.mem p).2.1,
      Function.update s.call t (left c (advance port fault s.dev s.mem p).2.2 p)⟩ := by
  simp only [step, h]

/-- A call after an event was there before it, was begun by it, or has gone on with it. -/
theorem call_step (e : Event T C ε ι) {u : T} {c : C} {q : Proc Op Resp M ε α}
    (h : (step port body s e).call u = some (c, q)) :
    s.call u = some (c, q) ∧ (∀ t fault, e = .go t fault → u ≠ t) ∨
      (e = .call u c ∧ q = body c) ∨
      ∃ fault p, e = .go u fault ∧ s.call u = some (c, p) ∧ q = (advance port fault s.dev s.mem p).2.2 := by
  cases e with
  | env i => exact .inl ⟨h, fun _ _ he => nomatch he⟩
  | call t d =>
      have hgo : ∀ t' fault, (Event.call t d : Event T C ε ι) = .go t' fault → u ≠ t' := fun _ _ he => nomatch he
      rw [step] at h
      split at h
      · exact .inl ⟨h, hgo⟩
      · by_cases hut : u = t
        · subst hut
          simp only [Function.update_self] at h
          obtain ⟨rfl, rfl⟩ := Prod.mk.inj (Option.some.inj h)
          exact .inr (.inl ⟨rfl, rfl⟩)
        · simp only [Function.update_of_ne hut] at h
          exact .inl ⟨h, hgo⟩
  | go t fault =>
      rw [step] at h
      split at h
      · rename_i hnone
        refine .inl ⟨h, fun t' fault' he => ?_⟩
        cases he
        rintro rfl
        exact absurd (h.symm.trans hnone) (Option.some_ne_none _)
      · rename_i d p hp
        by_cases hut : u = t
        · subst hut
          simp only [Function.update_self] at h
          obtain ⟨rfl, rfl⟩ := left_eq_some h
          exact .inr (.inr ⟨fault, p, rfl, hp, rfl⟩)
        · simp only [Function.update_of_ne hut] at h
          refine .inl ⟨h, fun t' fault' he => ?_⟩
          cases he
          exact hut

/-- A call goes on only with an event of its thread. -/
theorem call_kept {t : T} {cp : C × Proc Op Resp M ε α} (h : s.call t = some cp) {e : Event T C ε ι}
    (he : ∀ fault, e ≠ .go t fault) : (step port body s e).call t = some cp := by
  cases e with
  | env i => exact h
  | call u c =>
      rw [step]
      split
      · exact h
      · rename_i hnone
        refine (Function.update_of_ne ?_ ..).trans h
        rintro rfl
        cases h.symm.trans hnone
  | go u fault =>
      rw [step]
      split
      · exact h
      · refine (Function.update_of_ne ?_ ..).trans h
        rintro rfl
        exact he fault rfl

variable (port body) in
/-- `I` holds of the device and the memory. Between its steps a call of thread `t` is at a point where `P` holds,
which no step of another thread disturbs. -/
structure Outline (allowed : T → C → Prop) (I : D → M → Prop) (P : T → C → Proc Op Resp M ε α → D → M → Prop) :
    Prop where
  start : ∀ t c dev mem, allowed t c → I dev mem → P t c (body c) dev mem
  go : ∀ t c p fault dev mem, I dev mem → P t c p dev mem →
    I (advance port fault dev mem p).1 (advance port fault dev mem p).2.1 ∧
      P t c (advance port fault dev mem p).2.2 (advance port fault dev mem p).1 (advance port fault dev mem p).2.1
  free : ∀ t c p fault dev mem u c' p', u ≠ t → I dev mem → P t c p dev mem → P u c' p' dev mem →
    P u c' p' (advance port fault dev mem p).1 (advance port fault dev mem p).2.1
  env : ∀ i dev mem, I dev mem → I (port.env dev i) mem
  env_free : ∀ i t c p dev mem, I dev mem → P t c p dev mem → P t c p (port.env dev i) mem

structure Outlined (I : D → M → Prop) (P : T → C → Proc Op Resp M ε α → D → M → Prop)
    (s : Calls T C Op Resp D M ε α) : Prop where
  inv : I s.dev s.mem
  at_point : ∀ t c p, s.call t = some (c, p) → P t c p s.dev s.mem

def Allowed (allowed : T → C → Prop) : Event T C ε ι → Prop
  | .call t c => allowed t c
  | _ => True

variable {allowed : T → C → Prop} {I : D → M → Prop} {P : T → C → Proc Op Resp M ε α → D → M → Prop}

theorem Outline.step (h : Outline port body allowed I P) (hs : s.Outlined I P) (e : Event T C ε ι)
    (he : Allowed allowed e) : (step port body s e).Outlined I P := by
  cases e with
  | env i => exact ⟨h.env i _ _ hs.inv, fun t c p hp => h.env_free i t c p _ _ hs.inv (hs.at_point t c p hp)⟩
  | call t c =>
      have hsame : (Calls.step port body s (.call t c)).dev = s.dev ∧
          (Calls.step port body s (.call t c)).mem = s.mem := by
        rw [Calls.step]
        split <;> exact ⟨rfl, rfl⟩
      refine ⟨by rw [hsame.1, hsame.2]; exact hs.inv, fun u d p hu => ?_⟩
      rw [hsame.1, hsame.2]
      rcases call_step _ hu with ⟨hu, -⟩ | ⟨heq, rfl⟩ | ⟨fault, p', heq, -⟩
      · exact hs.at_point u d p hu
      · cases heq
        exact h.start t c _ _ he hs.inv
      · cases heq
  | go t fault =>
      cases hcall : s.call t with
      | none =>
          rw [Calls.step, hcall]
          exact hs
      | some cp =>
          obtain ⟨c, p⟩ := cp
          have hgo := h.go t c p fault s.dev s.mem hs.inv (hs.at_point t c p hcall)
          have hstep := @step_go _ _ _ _ _ _ _ _ _ port body _ s t c p hcall fault
          refine ⟨by rw [hstep]; exact hgo.1, fun u d q hu => ?_⟩
          rw [hstep]
          rcases call_step _ hu with ⟨hu, hne⟩ | ⟨heq, -⟩ | ⟨fault', p', heq, hp', rfl⟩
          · exact h.free t c p fault _ _ u d q (hne t fault rfl) hs.inv (hs.at_point t c p hcall)
              (hs.at_point u d q hu)
          · cases heq
          · cases heq
            obtain ⟨rfl, rfl⟩ := Prod.mk.inj (Option.some.inj (hcall.symm.trans hp'))
            exact hgo.2

/-- Whatever the interleaving of allowed calls, the invariant and the outline hold at its end. -/
theorem Outline.run (h : Outline port body allowed I P) {dev : D} {mem : M} (hstart : I dev mem)
    {es : List (Event T C ε ι)} (hes : ∀ e ∈ es, Allowed allowed e) :
    (run (Calls.step port body) (Calls.start dev mem) es).Outlined I P := by
  refine run_inv (I := Outlined I P) (C := fun _ e => Allowed allowed e) (fun s e hs he => h.step hs e he)
    ⟨hstart, fun _ _ _ hc => nomatch hc⟩ ((along_iff _).mpr fun pre e post hsplit => hes e ?_)
  rw [hsplit]
  exact List.mem_append_right _ List.mem_cons_self

end Calls

/-! ## Calls that rely on answers -/

/-- If each transaction is answered as `ans` says, the procedure makes only transactions that meet `guar`, and
what it returns meets `post`. -/
def Proc.Safe (guar : Op → Prop) (ans : (op : Op) → Resp op → Prop) (post : α → Prop) : Proc Op Resp M ε α → Prop
  | .ret a => post a
  | .bus op k => guar op ∧ (∀ e, (k (.error e)).Safe guar ans post) ∧
      ∀ r, ans op r → (k (.ok r)).Safe guar ans post
  | .update f k => ∀ m, (k (f m)).Safe guar ans post

namespace Proc

variable {guar : Op → Prop} {ans : (op : Op) → Resp op → Prop} {post : α → Prop} {p : Proc Op Resp M ε α}

theorem Safe.bind {post' : β → Prop} {f : α → Proc Op Resp M ε β} (h : p.Safe guar ans post)
    (hf : ∀ a, post a → (f a).Safe guar ans post') : (p.bind f).Safe guar ans post' := by
  induction p with
  | ret a => exact hf a h
  | bus op k ih => exact ⟨h.1, fun e => ih _ (h.2.1 e), fun r hr => ih _ (h.2.2 r hr)⟩
  | update g k ih => exact fun m => ih _ (h m)

theorem Safe.mono {post' : α → Prop} (h : p.Safe guar ans post) (hpost : ∀ a, post a → post' a) :
    p.Safe guar ans post' := by
  induction p with
  | ret a => exact hpost a h
  | bus op k ih => exact ⟨h.1, fun e => ih _ (h.2.1 e), fun r hr => ih _ (h.2.2 r hr)⟩
  | update g k ih => exact fun m => ih _ (h m)

end Proc

namespace Calls

variable [DecidableEq T] {port : Port Op Resp D ι} {body : C → Proc Op Resp M ε α}
  {guar : Op → Prop} {ans : (op : Op) → Resp op → Prop} {post : α → Prop} {J : D → Prop}

/-- Calls that are safe keep what makes the device answer as they rely on. -/
theorem run_safe (hans : ∀ op dev, J dev → ans op (port.exec op dev).1)
    (hguar : ∀ op dev, J dev → guar op → J (port.exec op dev).2) (henv : ∀ i dev, J dev → J (port.env dev i))
    (hbody : ∀ c, (body c).Safe guar ans post) {dev : D} (hdev : J dev) (mem : M) (es : List (Event T C ε ι)) :
    J (run (Calls.step port body) (Calls.start dev mem) es).dev := by
  have houtline : Outline port body (fun _ _ => True) (fun dev (_ : M) => J dev)
      fun (_ : T) _ p _ _ => p.Safe guar ans post := by
    refine ⟨fun _ c _ _ _ _ => hbody c, fun t c p fault dev mem hJ hp => ?_, fun _ _ _ _ _ _ _ _ _ _ _ _ h => h,
      fun i dev _ hJ => henv i dev hJ, fun _ _ _ _ _ _ _ h => h⟩
    cases p with
    | ret a => exact ⟨hJ, hp⟩
    | update f k => exact ⟨hJ, hp mem⟩
    | bus op k =>
        cases fault with
        | some e => exact ⟨hJ, hp.2.1 e⟩
        | none => exact ⟨hguar op dev hJ hp.1, hp.2.2 _ (hans op dev hJ)⟩
  refine (houtline.run hdev fun e _ => ?_).inv
  cases e <;> trivial

end Calls

/-! ## One call alone -/

namespace Proc

/-- What a procedure returns and leaves when nothing fails and no other call is made. -/
def solo (port : Port Op Resp D ι) : Proc Op Resp M ε α → D → M → α × D × M
  | ret a, dev, mem => (a, dev, mem)
  | bus op k, dev, mem => (k (.ok (port.exec op dev).1)).solo port (port.exec op dev).2 mem
  | update f k, dev, mem => (k (f mem)).solo port dev (f mem)

theorem solo_bind (port : Port Op Resp D ι) (p : Proc Op Resp M ε α) (f : α → Proc Op Resp M ε β)
    (dev : D) (mem : M) :
    (p.bind f).solo port dev mem = (f (p.solo port dev mem).1).solo port (p.solo port dev mem).2.1
      (p.solo port dev mem).2.2 := by
  induction p generalizing dev mem with
  | ret a => rfl
  | bus op k ih => exact ih ..
  | update g k ih => exact ih ..

end Proc

end OpxSdi.Lib
