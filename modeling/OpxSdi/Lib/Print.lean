import OpxSdi.Lib.Buffer
import OpxSdi.Lib.Format

/-!
# Strings printed into buffers

`snprintf` cuts its text off at the size it is given, which need not be the room that is left. `strcat` is
given no size. Both store byte by byte and stop where the buffer ends.
-/

namespace OpxSdi.Lib

def intMax : Nat := 2 ^ 31 - 1

namespace Buffer

def stores (buf : Buffer) (pos : Nat) : List Byte → Checked Buffer
  | [] => .ok buf
  | b :: bs => do
      let buf ← buf.store pos b
      buf.stores (pos + 1) bs

def stringFrom (i : Nat) : Buffer → Checked (List Byte)
  | [] => .error (.load i)
  | none :: _ => .error (.uninit i)
  | some b :: rest => if b = 0 then .ok [] else (stringFrom (i + 1) rest).map (b :: ·)

def string (buf : Buffer) : Checked (List Byte) := buf.stringFrom 0

/-- What `snprintf` returns, as an `unsigned int`: the length of the whole text, or -1 where that is no `int`. -/
def printed (text : List Byte) : BitVec 32 := if text.length ≤ intMax then BitVec.ofNat 32 text.length else -1

/-- `snprintf(&buf[pos], size, "%s", text)` -/
def snprintf (buf : Buffer) (pos size : Nat) (text : List Byte) : Checked (Buffer × BitVec 32) :=
  if size = 0 then .ok (buf, printed text)
  else do
    let buf ← buf.stores pos (text.take (size - 1) ++ [0])
    return (buf, printed text)

def strcat (dst src : Buffer) : Checked Buffer := do
  let d ← dst.string
  let s ← src.string
  dst.stores d.length (s ++ [0])

/-! ## Storing several bytes -/

theorem stores_ok {buf : Buffer} {pos : Nat} {bs : List Byte} (h : pos + bs.length ≤ buf.length) :
    buf.stores pos bs = .ok (buf.take pos ++ bs.map some ++ buf.drop (pos + bs.length)) := by
  induction bs generalizing buf pos with
  | nil => simp [stores]
  | cons b bs ih =>
      rw [List.length_cons] at h
      have hpos : pos < buf.length := by omega
      rw [stores, store_ok b hpos]
      change stores (buf.set pos (some b)) (pos + 1) bs = _
      rw [ih (by rw [List.length_set]; omega)]
      have htake : (buf.set pos (some b)).take (pos + 1) = buf.take pos ++ [some b] := by
        rw [List.take_add_one, List.take_set_of_le (Nat.le_refl pos), List.getElem?_set_self hpos]
        rfl
      have hdrop : (buf.set pos (some b)).drop (pos + 1 + bs.length) = buf.drop (pos + (bs.length + 1)) := by
        rw [List.drop_set_of_lt (by omega), Nat.add_assoc, Nat.add_comm 1]
      rw [htake, hdrop, List.map_cons, List.length_cons, List.append_assoc _ [some b], List.singleton_append]

theorem stores_fault {buf : Buffer} {pos : Nat} {bs : List Byte} (hne : bs ≠ [])
    (h : buf.length < pos + bs.length) : ∃ f, buf.stores pos bs = .error f := by
  induction bs generalizing buf pos with
  | nil => exact absurd rfl hne
  | cons b bs ih =>
      rw [List.length_cons] at h
      by_cases hpos : pos < buf.length
      · have hbs : bs ≠ [] := by
          rintro rfl
          rw [List.length_nil] at h
          omega
        have hset : List.length (buf.set pos (some b)) < pos + 1 + bs.length := by
          rw [List.length_set]
          omega
        obtain ⟨f, hf⟩ := ih hbs hset
        exact ⟨f, by rw [stores, store_ok b hpos]; exact hf⟩
      · exact ⟨.store pos, by rw [stores, store_fault b (Nat.not_lt.mp hpos)]; rfl⟩

/-! ## Buffers that hold a string -/

/-- The buffer starts with the string and its NUL. -/
structure Holds (buf : Buffer) (s : List Byte) : Prop where
  nul_free : 0 ∉ s
  prefix_nul : (s ++ [0]).map some <+: buf

variable {buf : Buffer} {s : List Byte}

theorem Holds.prefix_map (h : buf.Holds s) : s.map some <+: buf := by
  refine List.IsPrefix.trans ?_ h.prefix_nul
  rw [List.map_append]
  exact List.prefix_append _ _

theorem stringFrom_append (i : Nat) (h0 : 0 ∉ s) (rest : Buffer) :
    stringFrom i (s.map some ++ some 0 :: rest) = .ok s := by
  induction s generalizing i with
  | nil => simp [stringFrom]
  | cons b s ih =>
      obtain ⟨hb, hs⟩ := not_or.mp (mt List.mem_cons.mpr h0)
      rw [List.map_cons, List.cons_append, stringFrom, if_neg (Ne.symm hb), ih (i + 1) hs]
      rfl

theorem Holds.string_eq (h : buf.Holds s) : buf.string = .ok s := by
  obtain ⟨rest, hrest⟩ := h.prefix_nul
  rw [← hrest, string, List.map_append, List.append_assoc]
  exact stringFrom_append 0 h.nul_free rest

/-! ## Printing after a string -/

theorem stores_append {t : List Byte} (ht : t.map some <+: buf) (hs0 : 0 ∉ t) (h0 : 0 ∉ s)
    (hfit : t.length + s.length < buf.length) :
    ∃ buf', buf.stores t.length (s ++ [0]) = .ok buf' ∧ buf'.length = buf.length ∧ buf'.Holds (t ++ s) := by
  have hlen : t.length + (s ++ [0]).length ≤ buf.length := by
    rw [List.length_append, List.length_singleton]
    omega
  have htake : buf.take t.length = t.map some := by
    have h := List.prefix_iff_eq_take.mp ht
    rw [List.length_map] at h
    exact h.symm
  refine ⟨_, stores_ok hlen, ?_, ?_, ?_⟩
  · simp only [List.length_append, List.length_take, List.length_map, List.length_drop, List.length_singleton]
    omega
  · rw [List.mem_append, not_or]
    exact ⟨hs0, h0⟩
  · rw [htake, ← List.map_append, ← List.append_assoc]
    exact List.prefix_append _ _

variable {t text : List Byte} {pos size : Nat}

theorem snprintf_ok (ht : t.map some <+: buf) (ht0 : 0 ∉ t) (htext : 0 ∉ text) (hsize : 0 < size)
    (hfit : t.length + (text.take (size - 1)).length < buf.length) :
    ∃ buf', buf.snprintf t.length size text = .ok (buf', printed text) ∧ buf'.length = buf.length ∧
      buf'.Holds (t ++ text.take (size - 1)) := by
  obtain ⟨buf', hstores, hlen, hholds⟩ :=
    stores_append ht ht0 (fun h => htext (List.mem_of_mem_take h)) hfit
  exact ⟨buf', by rw [snprintf, if_neg (Nat.ne_of_gt hsize), hstores]; rfl, hlen, hholds⟩

theorem snprintf_whole (ht : t.map some <+: buf) (ht0 : 0 ∉ t) (htext : 0 ∉ text) (hsize : text.length < size)
    (hfit : t.length + text.length < buf.length) :
    ∃ buf', buf.snprintf t.length size text = .ok (buf', printed text) ∧ buf'.length = buf.length ∧
      buf'.Holds (t ++ text) := by
  have htake : text.take (size - 1) = text := List.take_of_length_le (by omega)
  have h := snprintf_ok ht ht0 htext (Nat.zero_lt_of_lt hsize) (by rwa [htake])
  rwa [htake] at h

/-- A variable that is printed into from its start holds as much of the text as its size admits. -/
theorem snprintf_fresh {n : Nat} (hn : 0 < n) (htext : 0 ∉ text) :
    ∃ buf', (indeterminate n).snprintf 0 n text = .ok (buf', printed text) ∧ buf'.length = n ∧
      buf'.Holds (text.take (n - 1)) := by
  have hfit : ([] : List Byte).length + (text.take (n - 1)).length < (indeterminate n).length := by
    rw [List.length_nil, List.length_take, length_indeterminate]
    omega
  have hnil : ([] : List Byte).map some <+: indeterminate n := List.nil_prefix
  obtain ⟨buf', hprint, hlen, hholds⟩ := snprintf_ok hnil List.not_mem_nil htext hn hfit
  exact ⟨buf', hprint, hlen.trans (length_indeterminate n), hholds⟩

theorem snprintf_zero : buf.snprintf pos 0 text = .ok (buf, printed text) := if_pos rfl

theorem snprintf_fault (hsize : 0 < size) (h : buf.length ≤ pos + (text.take (size - 1)).length) :
    ∃ f, buf.snprintf pos size text = .error f := by
  have hlen : buf.length < pos + (text.take (size - 1) ++ [0]).length := by
    rw [List.length_append, List.length_singleton]
    omega
  obtain ⟨f, hf⟩ := stores_fault (by simp) hlen
  exact ⟨f, by rw [snprintf, if_neg (Nat.ne_of_gt hsize), hf]; rfl⟩

variable {dst src : Buffer} {d : List Byte}

theorem strcat_ok (hd : dst.Holds d) (hs : src.Holds s) (hfit : d.length + s.length < dst.length) :
    ∃ buf', dst.strcat src = .ok buf' ∧ buf'.length = dst.length ∧ buf'.Holds (d ++ s) := by
  obtain ⟨buf', hstores, hlen, hholds⟩ := stores_append hd.prefix_map hd.nul_free hs.nul_free hfit
  exact ⟨buf', by rw [strcat, hd.string_eq, hs.string_eq]; exact hstores, hlen, hholds⟩

theorem strcat_fault (hd : dst.Holds d) (hs : src.Holds s) (h : dst.length ≤ d.length + s.length) :
    ∃ f, dst.strcat src = .error f := by
  have hlen : dst.length < d.length + (s ++ [0]).length := by
    rw [List.length_append, List.length_singleton]
    omega
  obtain ⟨f, hf⟩ := stores_fault (by simp) hlen
  exact ⟨f, by rw [strcat, hd.string_eq, hs.string_eq]; exact hf⟩

end Buffer

end OpxSdi.Lib
