import OpxSdi.Vmdb.Lemmas.Script

/-! # Which scripts are run command by command -/

namespace OpxSdi.Vmdb

open Lib

/-! ## Lines -/

section Lines

variable {acc piece line rest script : List Byte} {texts : List (List Byte)}

/-- What follows in a run that can read a piece -/
theorem executes_iff (hroom : acc.length < sqlCmdSize - 1) (hne : script ≠ [])
    (hread : readLine (sqlCmdSize - 1 - acc.length) script = (piece, rest)) (htext : 0 ∉ piece) :
    Executes acc script texts ↔
      (semicolon ∈ piece ∧ ∃ texts', texts = (acc ++ piece) :: texts' ∧ Executes [] rest texts') ∨
      (semicolon ∉ piece ∧ Executes (acc ++ piece) rest texts) := by
  constructor
  · intro h
    cases h with
    | eof _ => exact absurd rfl hne
    | @command _ _ piece' rest' texts _ hread' hfound hrest =>
        obtain ⟨rfl, rfl⟩ := Prod.mk.inj (hread.symm.trans hread')
        rw [cstr_of_notMem htext] at hfound ⊢
        exact .inl ⟨hfound, _, rfl, hrest⟩
    | @part _ _ piece' rest' _ _ _ hread' hfound hrest =>
        obtain ⟨rfl, rfl⟩ := Prod.mk.inj (hread.symm.trans hread')
        rw [cstr_of_notMem htext] at hfound hrest
        exact .inr ⟨hfound, hrest⟩
  · rintro (⟨hfound, texts', rfl, hrest⟩ | ⟨hfound, hrest⟩)
    · rw [← cstr_of_notMem htext] at hfound ⊢
      exact .command hroom hread hfound hrest
    · rw [← cstr_of_notMem htext] at hfound hrest
      exact .part hroom hne hread hfound hrest

/-- No run goes on from a full buffer. -/
theorem not_executes_full (hfull : sqlCmdSize - 1 ≤ acc.length) : ¬Executes acc script texts := by
  intro h
  cases h with
  | eof hroom => exact absurd hroom (Nat.not_lt.mpr hfull)
  | command hroom => exact absurd hroom (Nat.not_lt.mpr hfull)
  | part hroom => exact absurd hroom (Nat.not_lt.mpr hfull)

theorem executes_line (hline : newline ∉ line) (htext : 0 ∉ line) (hfits : acc.length + line.length + 1 < sqlCmdSize) :
    Executes acc (line ++ newline :: rest) texts ↔
      (semicolon ∈ line ∧ ∃ texts', texts = (acc ++ (line ++ [newline])) :: texts' ∧ Executes [] rest texts') ∨
      (semicolon ∉ line ∧ Executes (acc ++ (line ++ [newline])) rest texts) := by
  have hsemicolon : semicolon ∈ line ++ [newline] ↔ semicolon ∈ line := by
    rw [List.mem_append, List.mem_singleton, or_iff_left (by decide)]
  have hzero : 0 ∉ line ++ [newline] := by
    rw [List.mem_append, List.mem_singleton, or_iff_left (by decide)]
    exact htext
  rw [executes_iff (by omega) (List.append_ne_nil_of_right_ne_nil _ (List.cons_ne_nil _ _))
    (readLine_line hline (by omega)) hzero, hsemicolon]

/-- Lines without a semicolon go into the buffer. -/
theorem executes_lines {lines : List (List Byte)} (hlines : ∀ line ∈ lines, newline ∉ line)
    (htext : 0 ∉ lines.flatMap (· ++ [newline]))
    (hfits : acc.length + (lines.flatMap (· ++ [newline])).length < sqlCmdSize)
    (hplain : ∀ line ∈ lines, semicolon ∉ line) :
    Executes acc (lines.flatMap (· ++ [newline]) ++ rest) texts ↔
      Executes (acc ++ lines.flatMap (· ++ [newline])) rest texts := by
  induction lines generalizing acc with
  | nil => rw [List.flatMap_nil, List.nil_append, List.append_nil]
  | cons line lines ih =>
      simp only [List.flatMap_cons, List.append_assoc, List.cons_append, List.nil_append, List.mem_append, List.mem_cons, not_or,
        List.length_append, List.length_cons] at htext hfits ⊢
      rw [List.forall_mem_cons] at hlines hplain
      rw [executes_line hlines.1 htext.1 (by omega), or_iff_right fun h => hplain.1 h.1,
        and_iff_right hplain.1, ih hlines.2 htext.2.2 (by simp only [List.length_append, List.length_singleton]; omega)
          hplain.2]
      simp only [List.append_assoc, List.singleton_append]

/-- With a semicolon in one of the lines, no more than the lines is executed first. -/
theorem executes_lines_found {lines : List (List Byte)} (hlines : ∀ line ∈ lines, newline ∉ line)
    (htext : 0 ∉ lines.flatMap (· ++ [newline]))
    (hfits : acc.length + (lines.flatMap (· ++ [newline])).length < sqlCmdSize)
    (hfound : ∃ line ∈ lines, semicolon ∈ line) (h : Executes acc (lines.flatMap (· ++ [newline]) ++ rest) texts) :
    ∃ pre post texts', lines.flatMap (· ++ [newline]) = pre ++ post ∧ texts = (acc ++ pre) :: texts' := by
  induction lines generalizing acc with
  | nil =>
      obtain ⟨line, hline, -⟩ := hfound
      cases hline
  | cons line lines ih =>
      simp only [List.flatMap_cons, List.append_assoc, List.cons_append, List.nil_append, List.mem_append, List.mem_cons, not_or,
        List.length_append, List.length_cons] at htext hfits h ⊢
      rw [List.forall_mem_cons] at hlines
      rcases (executes_line hlines.1 htext.1 (by omega)).mp h with ⟨-, texts', rfl, -⟩ | ⟨hnone, hrest⟩
      · exact ⟨line ++ [newline], _, texts', by rw [List.append_assoc, List.singleton_append], rfl⟩
      · have hlater : ∃ line ∈ lines, semicolon ∈ line := by
          obtain ⟨other, hmem, hother⟩ := hfound
          rcases List.mem_cons.mp hmem with rfl | hmem
          · exact absurd hother hnone
          · exact ⟨other, hmem, hother⟩
        obtain ⟨pre, post, texts', heq, rfl⟩ := ih hlines.2 htext.2.2
          (by simp only [List.length_append, List.length_singleton]; omega) hlater hrest
        refine ⟨line ++ newline :: pre, post, texts', ?_, ?_⟩
        · rw [heq, List.append_assoc, List.cons_append]
        · simp only [List.append_assoc, List.singleton_append]

/-! ## The last line of a command -/

theorem executes_last (hline : newline ∉ line) (htext : 0 ∉ line) (hfits : acc.length + line.length + 2 < sqlCmdSize) :
    Executes acc (line ++ semicolon :: newline :: rest) texts ↔
      ∃ texts', texts = (acc ++ (line ++ [semicolon, newline])) :: texts' ∧ Executes [] rest texts' := by
  have h := @executes_line acc (line ++ [semicolon]) rest texts
    (by simpa using ⟨hline, by decide⟩) (by simpa using ⟨htext, by decide⟩)
    (by simp only [List.length_append, List.length_singleton]; omega)
  simp only [List.append_assoc, List.singleton_append] at h
  rw [h, or_iff_left fun hnone => hnone.1 (List.mem_append_right _ List.mem_cons_self),
    and_iff_right (List.mem_append_right _ List.mem_cons_self)]

/-- The last line fills the buffer, or the script ends without a newline. -/
theorem executes_last_part (htext : 0 ∉ line) (hroom : acc.length < sqlCmdSize - 1)
    (hread : readLine (sqlCmdSize - 1 - acc.length) script = (line ++ [semicolon], rest)) :
    Executes acc script texts ↔
      ∃ texts', texts = (acc ++ (line ++ [semicolon])) :: texts' ∧ Executes [] rest texts' := by
  have hne : script ≠ [] := by
    intro hnil
    rw [hnil, readLine_nil] at hread
    exact List.append_ne_nil_of_right_ne_nil _ (List.cons_ne_nil _ _) (Prod.mk.inj hread).1.symm
  have hmem : semicolon ∈ line ++ [semicolon] := List.mem_append_right _ List.mem_cons_self
  rw [executes_iff hroom hne hread (by simpa using ⟨htext, by decide⟩), and_iff_right hmem,
    or_iff_left fun h => h.1 hmem]

/-- The last line fills the buffer before its semicolon. -/
theorem executes_last_cut (hline : newline ∉ line) (htext : 0 ∉ line) (hfull : acc.length + line.length = sqlCmdSize - 1)
    (h : Executes acc (line ++ semicolon :: rest) texts) : ∃ texts', texts = (acc ++ line) :: texts' := by
  rcases Nat.lt_or_ge acc.length (sqlCmdSize - 1) with hroom | hge
  · rw [executes_iff hroom (List.append_ne_nil_of_right_ne_nil _ (List.cons_ne_nil _ _))
      (readLine_full hline (by omega)) htext] at h
    rcases h with ⟨-, texts', rfl, -⟩ | ⟨-, hrest⟩
    · exact ⟨texts', rfl⟩
    · exact absurd hrest (not_executes_full (by rw [List.length_append]; omega))
  · exact absurd h (not_executes_full hge)

end Lines

/-! ## A command -/

section Command

variable {c : SqlCommand} {p rest tail text : List Byte} {texts : List (List Byte)}

theorem SqlCommand.body_append (c : SqlCommand) (tail : List Byte) :
    c.body ++ tail = c.inner.flatMap (· ++ [newline]) ++ (c.last ++ semicolon :: tail) := by
  simp only [body, List.append_assoc, List.singleton_append]

theorem SqlCommand.length_body (c : SqlCommand) :
    c.body.length = (c.inner.flatMap (· ++ [newline])).length + c.last.length + 1 := by
  simp only [body, List.length_append, List.length_singleton, Nat.add_assoc]

theorem SqlCommand.text_iff (c : SqlCommand) : 0 ∉ c.body ↔ 0 ∉ c.inner.flatMap (· ++ [newline]) ∧ 0 ∉ c.last := by
  simp only [body, List.mem_append, List.mem_singleton, not_or, show ¬(0 : Byte) = semicolon by decide,
    not_false_eq_true, and_true]

/-- The carry of a command that fills the buffer is its newline. -/
def carryText (p : List Byte) (c : SqlCommand) : List Byte :=
  if p.length + c.body.length = sqlCmdSize - 1 then [newline] else []

def endText (p : List Byte) (c : SqlCommand) : List Byte :=
  if p.length + c.body.length = sqlCmdSize - 1 then [] else [newline]

theorem executes_command (htext : 0 ∉ c.body) (hplain : ∀ line ∈ c.inner, semicolon ∉ line)
    (hfits : p.length + c.body.length < sqlCmdSize) :
    Executes p (c.body ++ newline :: rest) texts ↔
      ∃ texts', texts = (p ++ c.body ++ endText p c) :: texts' ∧ Executes (carryText p c) rest texts' := by
  have hlen := c.length_body
  have ⟨hinner, hlast⟩ := c.text_iff.mp htext
  rw [c.body_append, executes_lines (fun line hline => (c.inner_lines line hline).1) hinner (by omega) hplain]
  have hbody : p ++ c.inner.flatMap (· ++ [newline]) ++ (c.last ++ [semicolon]) = p ++ c.body := by
    rw [SqlCommand.body, List.append_assoc]
  have hlength : (p ++ c.inner.flatMap (· ++ [newline])).length = p.length + (c.inner.flatMap (· ++ [newline])).length :=
    List.length_append
  by_cases hfull : p.length + c.body.length = sqlCmdSize - 1
  · have hread : readLine (sqlCmdSize - 1 - (p ++ c.inner.flatMap (· ++ [newline])).length)
        (c.last ++ semicolon :: newline :: rest) = (c.last ++ [semicolon], newline :: rest) := by
      have h := @readLine_full (sqlCmdSize - 1 - (p ++ c.inner.flatMap (· ++ [newline])).length)
        (c.last ++ [semicolon]) (newline :: rest) (by simpa using ⟨c.last_line, by decide⟩)
        (by simp only [List.length_append, List.length_singleton]; omega)
      rwa [List.append_assoc, List.singleton_append] at h
    rw [executes_last_part hlast (by omega) hread, hbody, endText, carryText, if_pos hfull, if_pos hfull,
      List.append_nil]
    refine exists_congr fun texts' => and_congr_right fun _ => ?_
    have hcarry := @executes_line [] [] rest texts' List.not_mem_nil List.not_mem_nil (by decide)
    rw [or_iff_right fun h => List.not_mem_nil h.1, and_iff_right List.not_mem_nil] at hcarry
    exact hcarry
  · rw [executes_last c.last_line hlast (by omega), endText, carryText, if_neg hfull, if_neg hfull, ← hbody]
    simp only [List.append_assoc, List.singleton_append]

theorem executes_nil_iff : Executes [] [] texts ↔ texts = [] := by
  constructor
  · intro h
    cases h with
    | eof _ => rfl
    | command _ hread hfound _ =>
        rw [readLine_nil] at hread
        cases hread
        cases hfound
    | part _ hne _ _ _ => exact absurd rfl hne
  · rintro rfl
    exact .eof (by decide)

/-- A command at the end of the script, without its newline -/
theorem executes_last_command (htext : 0 ∉ c.body) (hplain : ∀ line ∈ c.inner, semicolon ∉ line)
    (hfits : p.length + c.body.length < sqlCmdSize) : Executes p c.body texts ↔ texts = [p ++ c.body] := by
  have hlen := c.length_body
  have ⟨hinner, hlast⟩ := c.text_iff.mp htext
  have hlength : (p ++ c.inner.flatMap (· ++ [newline])).length = p.length + (c.inner.flatMap (· ++ [newline])).length :=
    List.length_append
  have hread := @readLine_last (sqlCmdSize - 1 - (p ++ c.inner.flatMap (· ++ [newline])).length) (c.last ++ [semicolon])
    (by simpa using ⟨c.last_line, by decide⟩) (by simp only [List.length_append, List.length_singleton]; omega)
  have hbody : p ++ c.inner.flatMap (· ++ [newline]) ++ (c.last ++ [semicolon]) = p ++ c.body := by
    rw [SqlCommand.body, List.append_assoc]
  rw [← hbody, SqlCommand.body, executes_lines (fun line hline => (c.inner_lines line hline).1) hinner (by omega) hplain,
    executes_last_part hlast (by omega) hread]
  simp only [executes_nil_iff, exists_eq_right]

/-! ## A command that is not run as it stands -/

theorem SqlCommand.Passed.count_eq (h : c.Passed text) : text.count semicolon = c.body.count semicolon := by
  obtain ⟨before, after, hbefore, hafter, rfl⟩ := h
  have hnone : ∀ nl ∈ [[], [newline]], nl.count semicolon = 0 := by decide
  rw [List.count_append, List.count_append, hnone before hbefore, hnone after hafter, Nat.zero_add, Nat.add_zero]

theorem count_lt_of_executes (htext : 0 ∉ c.body) (hsize : c.body.length < sqlCmdSize) (hp : p = [] ∨ p = [newline])
    (hbad : ¬((∀ line ∈ c.inner, semicolon ∉ line) ∧ p.length + c.body.length < sqlCmdSize))
    (h : Executes p (c.body ++ tail) (text :: texts)) : text.count semicolon < c.body.count semicolon := by
  have hlen := c.length_body
  have hplen : p.length ≤ 1 ∧ p.count semicolon = 0 := by
    rcases hp with rfl | rfl <;> decide
  have ⟨hinner, hlast⟩ := c.text_iff.mp htext
  rw [c.body_append] at h
  have hcount : c.body.count semicolon =
      (c.inner.flatMap (· ++ [newline])).count semicolon + c.last.count semicolon + 1 := by
    rw [SqlCommand.body, List.count_append, List.count_append, Nat.add_assoc]
    rfl
  by_cases hplain : ∀ line ∈ c.inner, semicolon ∉ line
  · rw [executes_lines (fun line hline => (c.inner_lines line hline).1) hinner (by omega) hplain] at h
    have hlength : (p ++ c.inner.flatMap (· ++ [newline])).length = p.length + (c.inner.flatMap (· ++ [newline])).length :=
      List.length_append
    have hlong : ¬p.length + c.body.length < sqlCmdSize := fun hfits => hbad ⟨hplain, hfits⟩
    obtain ⟨texts', heq⟩ := executes_last_cut c.last_line hlast (by omega) h
    rw [(List.cons.inj heq).1, List.count_append, List.count_append, hcount]
    omega
  · have hfound : ∃ line ∈ c.inner, semicolon ∈ line := by
      by_contra hnone
      exact hplain fun line hline hmem => hnone ⟨line, hline, hmem⟩
    obtain ⟨pre, post, texts', hsplit, heq⟩ := executes_lines_found (fun line hline => (c.inner_lines line hline).1)
      hinner (by omega) hfound h
    rw [(List.cons.inj heq).1, List.count_append, hcount, hsplit, List.count_append]
    omega

theorem SqlCommand.passed_end (c : SqlCommand) (hp : p = [] ∨ p = [newline]) : c.Passed (p ++ c.body ++ endText p c) := by
  refine ⟨p, endText p c, by simpa using hp, ?_, rfl⟩
  rw [endText]
  split <;> decide

end Command

/-! ## Scripts -/

theorem carryText_cases (p : List Byte) (c : SqlCommand) : carryText p c = [] ∨ carryText p c = [newline] := by
  rw [carryText]
  split
  · exact .inr rfl
  · exact .inl rfl

theorem length_carryText (p : List Byte) (c : SqlCommand) :
    (carryText p c).length = if p.length + c.body.length = sqlCmdSize - 1 then 1 else 0 := by
  rw [carryText]
  split <;> rfl

/-- Commands are run one by one iff none has a semicolon in an inner line and each fits behind the newline that
may be left over. -/
theorem executes_commands_iff {commands : List SqlCommand} {script : List Byte} (hscript : ScriptOf commands script)
    (hsize : ∀ c ∈ commands, c.body.length < sqlCmdSize) (htext : ∀ c ∈ commands, 0 ∉ c.body) {p : List Byte}
    (hp : p = [] ∨ p = [newline]) :
    (∃ texts, Executes p script texts ∧ List.Forall₂ SqlCommand.Passed texts commands) ↔
      (∀ c ∈ commands, ∀ line ∈ c.inner, semicolon ∉ line) ∧ Spaced p.length commands := by
  induction hscript generalizing p with
  | nil =>
      refine iff_of_true ⟨[], .eof ?_, .nil⟩ ⟨fun _ h => (List.not_mem_nil h).elim, trivial⟩
      rcases hp with rfl | rfl <;> decide
  | last c =>
      rw [List.forall_mem_singleton] at hsize htext ⊢
      rw [Spaced, Spaced, and_true]
      constructor
      · rintro ⟨texts, hexec, hpassed⟩
        by_contra hbad
        cases hpassed with
        | @cons text _ texts _ hfirst _ =>
            rw [← List.append_nil c.body] at hexec
            have hlt := count_lt_of_executes htext hsize hp hbad hexec
            rw [hfirst.count_eq] at hlt
            exact absurd hlt (Nat.lt_irrefl _)
      · rintro ⟨hplain, hfits⟩
        refine ⟨_, (executes_last_command htext hplain hfits).mpr rfl, .cons ?_ .nil⟩
        exact ⟨p, [], by simpa using hp, by decide, (List.append_nil _).symm⟩
  | @cons c commands script _ ih =>
      rw [List.forall_mem_cons] at hsize htext
      rw [List.forall_mem_cons, Spaced, and_and_and_comm]
      constructor
      · rintro ⟨texts, hexec, hpassed⟩
        cases hpassed with
        | @cons text _ texts _ hfirst hothers =>
            have hgood : (∀ line ∈ c.inner, semicolon ∉ line) ∧ p.length + c.body.length < sqlCmdSize := by
              by_contra hbad
              have hlt := count_lt_of_executes htext.1 hsize.1 hp hbad hexec
              rw [hfirst.count_eq] at hlt
              exact absurd hlt (Nat.lt_irrefl _)
            obtain ⟨texts', heq, hrest⟩ := (executes_command htext.1 hgood.1 hgood.2).mp hexec
            obtain ⟨-, rfl⟩ := List.cons.inj heq
            have h := (ih hsize.2 htext.2 (carryText_cases p c)).mp ⟨texts, hrest, hothers⟩
            rw [length_carryText] at h
            exact ⟨hgood, h⟩
      · rintro ⟨⟨hplain, hfits⟩, hrest⟩
        rw [← length_carryText] at hrest
        obtain ⟨texts, hexec, hpassed⟩ := (ih hsize.2 htext.2 (carryText_cases p c)).mpr hrest
        exact ⟨_, (executes_command htext.1 hplain hfits).mpr ⟨texts, rfl, hexec⟩, .cons (c.passed_end hp) hpassed⟩

theorem SqlCommand.Passed.text {c : SqlCommand} {text : List Byte} (h : c.Passed text) (htext : 0 ∉ text) :
    0 ∉ c.body := by
  obtain ⟨before, after, -, -, rfl⟩ := h
  simp only [List.mem_append, not_or] at htext
  exact htext.1.2

theorem exists_passed {texts : List (List Byte)} {commands : List SqlCommand} {c : SqlCommand}
    (h : List.Forall₂ SqlCommand.Passed texts commands) (hc : c ∈ commands) : ∃ text ∈ texts, c.Passed text := by
  induction h with
  | nil => cases hc
  | @cons text c' texts commands hfirst _ ih =>
      rcases List.mem_cons.mp hc with rfl | hc
      · exact ⟨text, List.mem_cons_self, hfirst⟩
      · obtain ⟨other, hmem, hother⟩ := ih hc
        exact ⟨other, List.mem_cons_of_mem _ hmem, hother⟩

/-- A script is run as documented iff the buffer never gets full without a semicolon and, where it is a script
in the documented format, its commands are plain and fit. -/
theorem runsScript_iff (script : List Byte) : RunsScript script ↔ ¬Clogs 0 script ∧
    ∀ commands : List SqlCommand, (∀ c ∈ commands, c.body.length < sqlCmdSize) → ScriptOf commands script →
      (∀ c ∈ commands, c.Plain) ∧ Spaced 0 commands := by
  rw [runsScript_iff_executes]
  constructor
  · rintro ⟨texts, hexec, hpassed⟩
    refine ⟨hexec.not_clogs, fun commands hsize hscript => ?_⟩
    have hall := hpassed commands hsize hscript
    have htext : ∀ c ∈ commands, 0 ∉ c.body := by
      intro c hc
      obtain ⟨text, hmem, hfirst⟩ := exists_passed hall hc
      exact hfirst.text (hexec.text List.not_mem_nil text hmem)
    have h := (executes_commands_iff hscript hsize htext (.inl rfl)).mp ⟨texts, hexec, hall⟩
    exact ⟨fun c hc => ⟨htext c hc, h.1 c hc⟩, h.2⟩
  · rintro ⟨hclogs, hcommands⟩
    obtain ⟨texts, hexec⟩ := (executes_or_clogs [] (by decide) script).resolve_right hclogs
    refine ⟨texts, hexec, fun commands hsize hscript => ?_⟩
    obtain ⟨hplain, hspaced⟩ := hcommands commands hsize hscript
    obtain ⟨texts', hexec', hpassed⟩ := (executes_commands_iff hscript hsize (fun c hc => (hplain c hc).1)
      (.inl rfl)).mpr ⟨fun c hc => (hplain c hc).2, hspaced⟩
    rwa [hexec.unique hexec']

/-! ## A long line -/

theorem clogs_line {line : List Byte} (hlen : line.length = sqlCmdSize - 1) (hline : newline ∉ line)
    (hsemicolon : semicolon ∉ line) (htext : 0 ∉ line) (rest : List Byte) : Clogs 0 (line ++ rest) := by
  have hread : readLine (sqlCmdSize - 1 - 0) (line ++ rest) = (line, rest) := readLine_full hline hlen
  have hne : line ++ rest ≠ [] := by
    refine List.append_ne_nil_of_left_ne_nil (fun hnil => ?_) _
    rw [hnil] at hlen
    cases hlen
  refine .part (by decide) hne ?_ ?_
  · rwa [hread, cstr_of_notMem htext]
  · rw [hread, cstr_of_notMem htext, Nat.zero_add, hlen]
    exact .full rest

/-- A line of 1023 blanks is read again and again. -/
theorem not_runsScript_longLine : ¬RunsScript (List.replicate 1023 0x20) := by
  rw [runsScript_iff_executes]
  rintro ⟨texts, hexec, -⟩
  have hblank : ∀ b ≠ (0x20 : Byte), b ∉ List.replicate 1023 0x20 := fun b hb hmem => hb (List.eq_of_mem_replicate hmem)
  have hclogs := clogs_line List.length_replicate (hblank newline (by decide)) (hblank semicolon (by decide))
    (hblank 0 (by decide)) []
  rw [List.append_nil] at hclogs
  exact hexec.not_clogs hclogs

end OpxSdi.Vmdb
