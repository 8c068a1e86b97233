import OpxSdi.Lib.CharArray

/-!
# Reading a text line by line

What `fgets` reads of what is left of a text, before it appends a NUL: no more than a line.
-/

namespace OpxSdi.Lib

def newline : Byte := 0x0a

/-- At most `n` bytes, up to a newline and with it, and what is left. -/
def readLine : (n : Nat) → (text : List Byte) → List Byte × List Byte
  | 0, text => ([], text)
  | _, [] => ([], [])
  | n + 1, b :: text =>
      if b = newline then ([b], text) else (b :: (readLine n text).1, (readLine n text).2)

/-- `fgets` with room for `n` bytes. With room for the NUL only, it reads nothing, also at the end. -/
def fgets (n : Int) (text : List Byte) : Option (List Byte × List Byte) :=
  if n ≤ 0 then none
  else if n = 1 then some ([], text)
  else if text = [] then none
  else some (readLine (n - 1).toNat text)

@[simp] theorem readLine_nil (n : Nat) : readLine n [] = ([], []) := by cases n <;> rfl

theorem length_readLine_le (n : Nat) (text : List Byte) : (readLine n text).1.length ≤ n := by
  induction n generalizing text with
  | zero => exact Nat.le_refl 0
  | succ n ih =>
      cases text with
      | nil => exact Nat.zero_le _
      | cons b text =>
          rw [readLine]
          split
          · exact Nat.succ_le_succ (Nat.zero_le n)
          · exact Nat.succ_le_succ (ih text)

theorem readLine_append (n : Nat) (text : List Byte) : (readLine n text).1 ++ (readLine n text).2 = text := by
  induction n generalizing text with
  | zero => rfl
  | succ n ih =>
      cases text with
      | nil => rfl
      | cons b text =>
          rw [readLine]
          split
          · rfl
          · exact congrArg (b :: ·) (ih text)

/-- What is left is shorter, if there is room and something to read. -/
theorem length_rest_lt {n : Nat} {text : List Byte} (hn : 0 < n) (htext : text ≠ []) :
    (readLine n text).2.length < text.length := by
  cases n with
  | zero => cases hn
  | succ n =>
      cases text with
      | nil => exact absurd rfl htext
      | cons b text =>
          rw [readLine]
          split
          · exact Nat.lt_succ_self _
          · have h := congrArg List.length (readLine_append n text)
            rw [List.length_append] at h
            simp only [List.length_cons]
            omega

section

variable {n : Nat} {line rest : List Byte}

theorem readLine_line (hline : newline ∉ line) (hn : line.length < n) :
    readLine n (line ++ newline :: rest) = (line ++ [newline], rest) := by
  induction line generalizing n with
  | nil =>
      cases n with
      | zero => cases hn
      | succ n => rfl
  | cons b line ih =>
      cases n with
      | zero => cases hn
      | succ n =>
          rw [List.mem_cons, not_or] at hline
          rw [List.cons_append, readLine, if_neg (Ne.symm hline.1), ih hline.2 (Nat.lt_of_succ_lt_succ hn)]
          rfl

/-- A part of a line that fills the room -/
theorem readLine_full (hline : newline ∉ line) (hn : line.length = n) :
    readLine n (line ++ rest) = (line, rest) := by
  induction line generalizing n with
  | nil =>
      subst hn
      rfl
  | cons b line ih =>
      subst hn
      rw [List.mem_cons, not_or] at hline
      rw [List.cons_append, List.length_cons, readLine, if_neg (Ne.symm hline.1), ih hline.2 rfl]

/-- The last line, without a newline -/
theorem readLine_last (hline : newline ∉ line) (hn : line.length ≤ n) : readLine n line = (line, []) := by
  induction line generalizing n with
  | nil => cases n <;> rfl
  | cons b line ih =>
      cases n with
      | zero => cases hn
      | succ n =>
          rw [List.mem_cons, not_or] at hline
          rw [readLine, if_neg (Ne.symm hline.1), ih hline.2 (Nat.le_of_succ_le_succ hn)]

end

end OpxSdi.Lib
