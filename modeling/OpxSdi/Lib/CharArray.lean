import OpxSdi.Lib.CString

/-!
# Texts in character arrays

A bounded copy writes a text and a NUL into an array, also from the middle of it on. What the array holds then
is what stands before the first NUL that is left.
-/

namespace OpxSdi.Lib

/-- An array that holds a text -/
structure CharArray (n : Nat) where
  bytes : Vector Byte n
  terminated : 0 ∈ bytes.toList

namespace CharArray

variable {n : Nat} (a : CharArray n)

def str : List Byte := cstr a.bytes.toList

/-- `&a[off]` -/
def ptr (off : Nat) : Ptr := ⟨a.bytes.toList, off⟩

end CharArray

/-! ## The text before the first NUL -/

theorem cstr_cons (b : Byte) (buf : List Byte) : cstr (b :: buf) = if b = 0 then [] else b :: cstr buf := by
  rw [cstr, List.takeWhile_cons]
  by_cases h : b = 0
  · rw [if_pos h, decide_eq_false (not_not_intro h), if_neg Bool.false_ne_true]
  · rw [if_neg h, if_pos (decide_eq_true h)]
    rfl

theorem zero_notMem_cstr (buf : List Byte) : 0 ∉ cstr buf := by
  induction buf with
  | nil => exact List.not_mem_nil
  | cons b buf ih =>
      rw [cstr_cons]
      split
      · exact List.not_mem_nil
      · rename_i h
        exact fun hmem => (List.mem_cons.mp hmem).elim (fun h0 => h h0.symm) ih

theorem eq_cstr_append {buf : List Byte} (h : 0 ∈ buf) : ∃ rest, buf = cstr buf ++ 0 :: rest := by
  induction buf with
  | nil => cases h
  | cons b buf ih =>
      rw [cstr_cons]
      split
      · rename_i hb
        exact ⟨buf, by rw [hb, List.nil_append]⟩
      · rename_i hb
        obtain ⟨rest, hrest⟩ := ih ((List.mem_cons.mp h).resolve_left fun h0 => hb h0.symm)
        exact ⟨rest, by rw [List.cons_append, ← hrest]⟩

theorem cstr_append_cons {s : List Byte} (h : 0 ∉ s) (rest : List Byte) : cstr (s ++ 0 :: rest) = s := by
  induction s with
  | nil => rw [List.nil_append, cstr_cons, if_pos rfl]
  | cons b s ih =>
      rw [List.mem_cons, not_or] at h
      rw [List.cons_append, cstr_cons, if_neg fun hb => h.1 hb.symm, ih h.2]

theorem cstr_append_of_mem {buf : List Byte} (h : 0 ∈ buf) (rest : List Byte) : cstr (buf ++ rest) = cstr buf := by
  obtain ⟨rest', hrest⟩ := eq_cstr_append h
  rw [hrest, List.append_assoc, List.cons_append, cstr_append_cons (zero_notMem_cstr buf),
    cstr_append_cons (zero_notMem_cstr buf)]

theorem cstr_append {s : List Byte} (h : 0 ∉ s) (t : List Byte) : cstr (s ++ t) = s ++ cstr t :=
  List.takeWhile_append_of_pos fun _ hb => decide_eq_true fun hzero => h (hzero ▸ hb)

theorem cstr_of_notMem {s : List Byte} (h : 0 ∉ s) : cstr s = s := by
  have happend := cstr_append h []
  rwa [List.append_nil, show cstr [] = [] from rfl, List.append_nil] at happend

/-- A NUL behind a text that may have one already -/
theorem cstr_append_zero (s rest : List Byte) : cstr (s ++ 0 :: rest) = cstr s := by
  by_cases h : 0 ∈ s
  · exact cstr_append_of_mem h _
  · rw [cstr_append_cons h, cstr_of_notMem h]

theorem length_cstr_le (buf : List Byte) : (cstr buf).length ≤ buf.length :=
  (List.takeWhile_prefix _).length_le

theorem cstr_prefix (buf : List Byte) : ∃ rest, buf = cstr buf ++ rest :=
  ⟨_, List.takeWhile_append_dropWhile.symm⟩

theorem cstr_length_lt {buf : List Byte} (h : 0 ∈ buf) : (cstr buf).length < buf.length := by
  obtain ⟨rest, hrest⟩ := eq_cstr_append h
  have hlen := congrArg List.length hrest
  rw [List.length_append, List.length_cons] at hlen
  omega

theorem take_cstr {buf : List Byte} (h : 0 ∈ buf) : buf.take ((cstr buf).length + 1) = cstr buf ++ [0] := by
  obtain ⟨rest, hrest⟩ := eq_cstr_append h
  have htake : (cstr buf ++ 0 :: rest).take ((cstr buf).length + 1) = cstr buf ++ [0] := by
    rw [List.take_length_add_append]
    rfl
  rwa [← hrest] at htake

theorem mem_of_cstr_length_lt {buf : List Byte} (h : (cstr buf).length < buf.length) : 0 ∈ buf := by
  induction buf with
  | nil => cases h
  | cons b buf ih =>
      rw [cstr_cons] at h
      split at h
      · rename_i hb
        rw [hb]
        exact List.mem_cons_self
      · exact List.mem_cons_of_mem b (ih (Nat.lt_of_succ_lt_succ h))

/-- The text from a character on, or from its NUL -/
theorem cstr_drop {buf : List Byte} (h : 0 ∈ buf) {off : Nat} (hoff : off ≤ (cstr buf).length) :
    0 ∈ buf.drop off ∧ cstr (buf.drop off) = (cstr buf).drop off := by
  obtain ⟨rest, hrest⟩ := eq_cstr_append h
  have hdrop : buf.drop off = (cstr buf).drop off ++ 0 :: rest := by
    rw [← List.drop_append_of_le_length hoff, ← hrest]
  rw [hdrop, cstr_append_cons fun hmem => zero_notMem_cstr buf (List.mem_of_mem_drop hmem)]
  exact ⟨List.mem_append_right _ List.mem_cons_self, rfl⟩

theorem cstr_eq_nil_iff {buf : List Byte} : cstr buf = [] ↔ buf.head? = none ∨ buf.head? = some 0 := by
  cases buf with
  | nil => exact iff_of_true rfl (.inl rfl)
  | cons b buf =>
      rw [cstr_cons, List.head?_cons]
      split
      · rename_i hb
        exact iff_of_true rfl (.inr (by rw [hb]))
      · rename_i hb
        exact iff_of_false (List.cons_ne_nil _ _) fun h => hb (Option.some.inj (h.resolve_left (Option.some_ne_none b)))

/-- What the text becomes when the bytes from `off` on are written anew: nothing, if it ends before. -/
theorem cstr_overwrite {buf : List Byte} {off : Nat} (h : off ≤ buf.length) (t : List Byte) :
    cstr (buf.take off ++ t) = if off ≤ (cstr buf).length then (cstr buf).take off ++ cstr t else cstr buf := by
  induction buf generalizing off with
  | nil =>
      rw [List.length_nil, Nat.le_zero] at h
      rw [h]
      rfl
  | cons b buf ih =>
      cases off with
      | zero =>
          rw [if_pos (Nat.zero_le _)]
          rfl
      | succ off =>
          rw [List.take_succ_cons, List.cons_append, cstr_cons, cstr_cons]
          split
          · rfl
          · rw [ih (Nat.le_of_succ_le_succ h), List.length_cons]
            by_cases hoff : off ≤ (cstr buf).length
            · rw [if_pos hoff, if_pos (Nat.succ_le_succ hoff)]
              rfl
            · rw [if_neg hoff, if_neg fun hle => hoff (Nat.le_of_succ_le_succ hle)]

theorem cstr_set_zero {buf : List Byte} {off : Nat} (h : off < buf.length) :
    cstr (buf.set off 0) = (cstr buf).take off := by
  rw [List.set_eq_take_append_cons_drop, if_pos h, cstr_overwrite (Nat.le_of_lt h)]
  split
  · exact List.append_nil _
  · rename_i hoff
    exact (List.take_of_length_le (Nat.le_of_not_le hoff)).symm

/-! ## Bounded copies -/

theorem Ptr.loadString_eq {p : Ptr} {n : Nat} {s : List Byte} (h : p.loadString n = .ok s) :
    s = (cstr (p.buf.drop p.off)).take n := by
  induction n generalizing p s with
  | zero => exact (Except.ok.inj h).symm
  | succ n ih =>
      rw [loadString] at h
      obtain ⟨b, hb, h⟩ := bind_eq_ok h
      obtain ⟨hlt, hget⟩ := lt_of_load hb
      rw [Nat.add_zero] at hlt hget
      rw [List.getD_eq_getElem?_getD, List.getElem?_eq_getElem hlt] at hget
      rw [List.drop_eq_getElem_cons hlt, cstr_cons, show p.buf[p.off] = b from hget.symm]
      split at h
      · rw [if_pos ‹_›]
        exact (Except.ok.inj h).symm
      · obtain ⟨s', hs', h⟩ := bind_eq_ok h
        rw [if_neg ‹_›, List.take_succ_cons, ← Except.ok.inj h]
        exact congrArg (b :: ·) (ih hs')

/-- The string at a pointer, up to its NUL or the end of the object -/
def Ptr.loadCStr (p : Ptr) : Checked (List Byte) := p.loadString (p.buf.length + 1)

theorem Ptr.returns_loadCStr_iff (p : Ptr) : Returns p.loadCStr ↔ 0 ∈ p.buf.drop p.off := by
  have hlen : (p.buf.drop p.off).length < p.buf.length + 1 := by
    rw [List.length_drop]
    omega
  rw [loadCStr, returns_loadString_iff, List.take_of_length_le (Nat.le_of_lt hlen)]
  exact or_iff_left (Nat.not_le.mpr hlen)

theorem Ptr.loadCStr_eq {p : Ptr} (h : 0 ∈ p.buf.drop p.off) : p.loadCStr = .ok (cstr (p.buf.drop p.off)) := by
  obtain ⟨s, hs⟩ := p.returns_loadCStr_iff.mpr h
  have hlen := cstr_length_lt h
  rw [List.length_drop] at hlen
  have heq := loadString_eq hs
  rw [List.take_of_length_le (by omega)] at heq
  rw [hs, heq]

variable {k : Nat} (afterNul : Byte → Byte)

/-- Copy a text of less than `size` characters to `dst + off`. What becomes of the bytes after the NUL that are
left of `size` depends on the library: they stay or are zero. -/
def safestrncpy (dst : Vector Byte k) (off : Nat) (src : Ptr) (size : Nat) : Checked (Vector Byte k) := do
  let s ← src.loadString (size - 1)
  stores dst off (s ++ 0 :: ((dst.toList.drop (off + s.length + 1)).take (size - 1 - s.length)).map afterNul)

/-- A source that has a NUL, or no fewer bytes than are looked at -/
def Readable (src : Ptr) (n : Nat) : Prop := 0 ∈ (src.buf.drop src.off).take n ∨ n ≤ (src.buf.drop src.off).length

theorem safestrncpy_ok (dst : Vector Byte k) (off size : Nat) {src : Ptr} (hsrc : Readable src (size - 1))
    (hsize : 0 < size) (hfits : off + size ≤ k) : ∃ dst' rest, safestrncpy afterNul dst off src size = .ok dst' ∧
      dst'.toList = dst.toList.take off ++ ((cstr (src.buf.drop src.off)).take (size - 1) ++ 0 :: rest) := by
  obtain ⟨s, hs⟩ := (src.returns_loadString_iff (size - 1)).mpr hsrc
  have heq := Ptr.loadString_eq hs
  have hlen : s.length ≤ size - 1 := by
    rw [heq]
    exact List.length_take_le ..
  have hlen' : off + (s ++ 0 :: ((dst.toList.drop (off + s.length + 1)).take
      (size - 1 - s.length)).map afterNul).length ≤ k := by
    simp only [List.length_append, List.length_cons, List.length_map, List.length_take]
    omega
  obtain ⟨dst', hdst', hlist⟩ := stores_ok dst off hlen'
  rw [List.append_assoc, List.append_assoc, List.cons_append, heq] at hlist
  refine ⟨dst', _, ?_, hlist⟩
  rw [safestrncpy, hs]
  exact hdst'

/-- What the text of the destination becomes -/
theorem cstr_safestrncpy (dst : Vector Byte k) (off size : Nat) {src : Ptr} (hsrc : Readable src (size - 1))
    (hsize : 0 < size) (hfits : off + size ≤ k) : ∃ dst', safestrncpy afterNul dst off src size = .ok dst' ∧
      cstr dst'.toList = if off ≤ (cstr dst.toList).length then
        (cstr dst.toList).take off ++ (cstr (src.buf.drop src.off)).take (size - 1) else cstr dst.toList := by
  obtain ⟨dst', rest, hdst', hlist⟩ := safestrncpy_ok afterNul dst off size hsrc hsize hfits
  refine ⟨dst', hdst', ?_⟩
  rw [hlist, cstr_overwrite (by rw [Vector.length_toList]; omega),
    cstr_append_cons fun hmem => zero_notMem_cstr _ (List.mem_of_mem_take hmem)]

theorem cstr_safestrncpy_zero (dst : Vector Byte k) (size : Nat) {src : Ptr} (hsrc : Readable src (size - 1))
    (hsize : 0 < size) (hfits : size ≤ k) : ∃ dst', safestrncpy afterNul dst 0 src size = .ok dst' ∧
      cstr dst'.toList = (cstr (src.buf.drop src.off)).take (size - 1) := by
  obtain ⟨dst', hdst', hcstr⟩ := cstr_safestrncpy afterNul dst 0 size hsrc hsize
    (Nat.le_trans (Nat.le_of_eq (Nat.zero_add size)) hfits)
  exact ⟨dst', hdst', hcstr.trans (if_pos (Nat.zero_le _))⟩

theorem returns_safestrncpy_iff (dst : Vector Byte k) (off size : Nat) {src : Ptr} (hsize : 0 < size)
    (hfits : off + size ≤ k) : Returns (safestrncpy afterNul dst off src size) ↔ Readable src (size - 1) := by
  constructor
  · rintro ⟨dst', h⟩
    obtain ⟨s, hs, -⟩ := bind_eq_ok h
    exact (src.returns_loadString_iff (size - 1)).mp ⟨s, hs⟩
  · intro hsrc
    obtain ⟨dst', -, hdst', -⟩ := safestrncpy_ok afterNul dst off size hsrc hsize hfits
    exact ⟨dst', hdst'⟩

theorem returns_stores_iff (dst : Vector Byte k) (i : Nat) (bs : List Byte) :
    Returns (stores dst i bs) ↔ bs = [] ∨ i + bs.length ≤ k := by
  induction bs generalizing dst i with
  | nil => exact iff_of_true (returns_ok dst) (.inl rfl)
  | cons b bs ih =>
      rw [stores, store, or_iff_right (List.cons_ne_nil b bs), List.length_cons]
      split
      · rename_i h
        rw [Checked.bind_ok, ih]
        cases bs with
        | nil => exact iff_of_true (.inl rfl) h
        | cons b' bs =>
            rw [or_iff_right (List.cons_ne_nil b' bs), Nat.add_assoc, Nat.add_comm 1]
      · rename_i h
        exact iff_of_false (not_returns_error _) (by omega)

/-! ## Arrays that are zero behind a text -/

def Padded (dst : Vector Byte k) (s : List Byte) : Prop :=
  s.length ≤ k ∧ dst.toList = s ++ List.replicate (k - s.length) 0

namespace Padded

variable {dst dst' : Vector Byte k} {s t : List Byte} {i : Nat}

theorem replicate : Padded (Vector.replicate k 0) [] := ⟨Nat.zero_le k, Vector.toList_replicate⟩

theorem zeros (h : Padded dst s) (hs : s.length ≤ i) (hi : i ≤ k) :
    Padded dst (s ++ List.replicate (i - s.length) 0) := by
  have hlen : (s ++ List.replicate (i - s.length) 0).length = i := by
    rw [List.length_append, List.length_replicate]
    omega
  refine ⟨by rwa [hlen], ?_⟩
  rw [hlen, List.append_assoc, List.replicate_append_replicate, h.2]
  congr 2
  omega

theorem stores (h : Padded dst s) (hstores : stores dst s.length t = .ok dst') (ht : s.length + t.length ≤ k) :
    Padded dst' (s ++ t) := by
  obtain ⟨dst'', hok, hlist⟩ := stores_ok dst s.length ht
  obtain rfl := Except.ok.inj (hok.symm.trans hstores)
  refine ⟨by rwa [List.length_append], ?_⟩
  rw [hlist, h.2, List.take_left, List.drop_append, List.drop_of_length_le (Nat.le_add_right ..), List.nil_append,
    List.drop_replicate, List.length_append]
  congr 2
  omega

theorem of_nul (h : Padded dst (s ++ [0])) : Padded dst s := by
  obtain ⟨hlen, hlist⟩ := h
  rw [List.length_append, List.length_singleton] at hlen hlist
  refine ⟨by omega, ?_⟩
  rw [hlist, List.append_assoc, List.singleton_append, ← List.replicate_succ]
  congr 2
  omega

theorem cstr_eq (h : Padded dst s) (hs : 0 ∉ s) (hlt : s.length < k) : 0 ∈ dst.toList ∧ cstr dst.toList = s := by
  obtain ⟨n, hn⟩ : ∃ n, k - s.length = n + 1 := ⟨k - s.length - 1, by omega⟩
  rw [h.2, hn, List.replicate_succ]
  exact ⟨List.mem_append_right s List.mem_cons_self, cstr_append_cons hs _⟩

end Padded

/-- An array that holds a text can be copied from any of its characters on, and from its NUL. -/
theorem CharArray.readable {n : Nat} (a : CharArray n) {off : Nat} (hoff : off ≤ a.str.length) (size : Nat) :
    Readable (a.ptr off) size := by
  obtain ⟨hmem, -⟩ := cstr_drop a.terminated hoff
  rcases Nat.lt_or_ge (a.bytes.toList.drop off).length size with hlt | hge
  · left
    change 0 ∈ (a.bytes.toList.drop off).take size
    rwa [List.take_of_length_le (Nat.le_of_lt hlt)]
  · exact .inr hge

end OpxSdi.Lib
