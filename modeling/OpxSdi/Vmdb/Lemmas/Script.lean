import OpxSdi.Vmdb.Script

/-!
# Runs of the script runner

A run is what the runner does to the text of a command in its buffer and to what is left of the script. It is
finite iff the buffer does not get full without a semicolon.
-/

namespace OpxSdi.Vmdb

open Lib

/-- With `acc` in the buffer and this script, the runner executes these texts and comes to the end. -/
inductive Executes : (acc script : List Byte) → List (List Byte) → Prop
  | eof {acc : List Byte} : acc.length < sqlCmdSize - 1 → Executes acc [] []
  | command {acc script piece rest : List Byte} {texts : List (List Byte)} : acc.length < sqlCmdSize - 1 →
      readLine (sqlCmdSize - 1 - acc.length) script = (piece, rest) → semicolon ∈ cstr piece →
        Executes [] rest texts → Executes acc script ((acc ++ cstr piece) :: texts)
  | part {acc script piece rest : List Byte} {texts : List (List Byte)} : acc.length < sqlCmdSize - 1 →
      script ≠ [] → readLine (sqlCmdSize - 1 - acc.length) script = (piece, rest) → semicolon ∉ cstr piece →
        Executes (acc ++ cstr piece) rest texts → Executes acc script texts

/-! ## Turns -/

namespace Runner

/-- The buffer holds `acc` before the cursor. -/
structure Loaded (r : Runner) (acc : List Byte) : Prop where
  ptr : r.sqlCmdPtr = acc.length
  remaining : r.lenRemaining = sqlCmdSize - acc.length
  bytes : r.sqlCmd.toList.take acc.length = acc
  text : 0 ∉ acc
  room : acc.length < sqlCmdSize

variable {r : Runner} {acc : List Byte}

theorem turn_eq {piece sql : List Byte} {sqlCmd : Vector Byte sqlCmdSize} {bytesRead : Nat} {found : Bool}
    (hfgets : fgets r.lenRemaining r.sql = some (piece, sql))
    (hstored : stores r.sqlCmd r.sqlCmdPtr (piece ++ [0]) = .ok sqlCmd)
    (hscan : scan sqlCmd r.sqlCmdPtr = .ok (bytesRead, found)) :
    r.turn = if found then
        (Ptr.loadCStr ⟨sqlCmd.toList, 0⟩).map fun command =>
          (true, { sqlCmd, sqlCmdPtr := 0, lenRemaining := sqlCmdSize, sql, executed := r.executed ++ [command] })
      else .ok (decide (¬r.lenRemaining - (bytesRead : Int) ≤ 0),
        { r with sqlCmd, sqlCmdPtr := r.sqlCmdPtr + bytesRead, lenRemaining := r.lenRemaining - bytesRead, sql }) := by
  rw [turn, hfgets]
  simp only [hstored, hscan, Checked.bind_ok]
  cases found with
  | false => rfl
  | true => cases Ptr.loadCStr ⟨sqlCmd.toList, 0⟩ <;> rfl

/-- The buffer with a piece behind what it holds -/
theorem Loaded.stores_piece (h : r.Loaded acc) {piece : List Byte} (hfits : acc.length + piece.length < sqlCmdSize) :
    ∃ sqlCmd, stores r.sqlCmd r.sqlCmdPtr (piece ++ [0]) = .ok sqlCmd ∧
      scan sqlCmd r.sqlCmdPtr = .ok ((cstr piece).length, decide (semicolon ∈ cstr piece)) ∧
      Ptr.loadCStr ⟨sqlCmd.toList, 0⟩ = .ok (acc ++ cstr piece) ∧
      sqlCmd.toList.take (acc.length + (cstr piece).length) = acc ++ cstr piece := by
  obtain ⟨hptr, -, hbytes, htext, -⟩ := h
  have hlen : r.sqlCmdPtr + (piece ++ [0]).length ≤ sqlCmdSize := by
    rw [List.length_append, List.length_singleton, hptr]
    omega
  obtain ⟨sqlCmd, hstored, hlist⟩ := stores_ok r.sqlCmd r.sqlCmdPtr hlen
  rw [hptr, hbytes, List.append_assoc, List.append_assoc, List.singleton_append] at hlist
  generalize r.sqlCmd.toList.drop _ = rest at hlist
  have hpiece : 0 ∈ piece ++ 0 :: rest := List.mem_append_right _ List.mem_cons_self
  refine ⟨sqlCmd, hstored, ?_, ?_, ?_⟩
  · have hdrop : sqlCmd.toList.drop r.sqlCmdPtr = piece ++ 0 :: rest := by rw [hlist, hptr, List.drop_left]
    rw [scan, Ptr.loadCStr_eq (by rwa [hdrop]), hdrop, cstr_append_zero, Checked.bind_ok, List.contains_eq_mem]
  · rw [Ptr.loadCStr_eq (by rw [List.drop_zero, hlist]; exact List.mem_append_right _ hpiece), List.drop_zero,
      hlist, cstr_append htext, cstr_append_zero]
  · obtain ⟨after, hafter⟩ := cstr_prefix piece
    have hsplit : acc ++ (piece ++ 0 :: rest) = (acc ++ cstr piece) ++ (after ++ 0 :: rest) := by
      rw [List.append_assoc, ← List.append_assoc (cstr piece), ← hafter]
    rw [hlist, hsplit, ← List.length_append, List.take_left]

/-- What a turn does with a piece that fits -/
theorem turn_piece (h : r.Loaded acc) {piece sql : List Byte} (hfgets : fgets r.lenRemaining r.sql = some (piece, sql))
    (hfits : acc.length + piece.length < sqlCmdSize) :
    (semicolon ∈ cstr piece → ∃ r', r.turn = .ok (true, r') ∧ r'.Loaded [] ∧ r'.sql = sql ∧
      r'.executed = r.executed ++ [acc ++ cstr piece]) ∧
    (semicolon ∉ cstr piece → ∃ r', r.turn = .ok (true, r') ∧ r'.Loaded (acc ++ cstr piece) ∧ r'.sql = sql ∧
      r'.executed = r.executed) := by
  obtain ⟨sqlCmd, hstored, hscan, hcommand, hbytes⟩ := h.stores_piece hfits
  have hturn := turn_eq hfgets hstored hscan
  have hshort := length_cstr_le piece
  constructor
  · intro hfound
    rw [decide_eq_true hfound, if_pos rfl, hcommand] at hturn
    exact ⟨_, hturn, ⟨rfl, rfl, rfl, List.not_mem_nil, by decide⟩, rfl, rfl⟩
  · intro hfound
    have hleft : ¬r.lenRemaining - ((cstr piece).length : Int) ≤ 0 := by
      rw [h.remaining]
      omega
    rw [decide_eq_false hfound, if_neg Bool.false_ne_true, decide_eq_true hleft] at hturn
    refine ⟨_, hturn, ⟨?_, ?_, ?_, ?_, ?_⟩, rfl, rfl⟩
    · rw [List.length_append, ← h.ptr]
    · change r.lenRemaining - _ = _
      rw [List.length_append, h.remaining]
      omega
    · rwa [List.length_append]
    · rw [List.mem_append, not_or]
      exact ⟨h.text, zero_notMem_cstr piece⟩
    · rw [List.length_append]
      omega

theorem Loaded.fgets_eq (h : r.Loaded acc) (hroom : acc.length < sqlCmdSize - 1) (hsql : r.sql ≠ []) :
    fgets r.lenRemaining r.sql = some (readLine (sqlCmdSize - 1 - acc.length) r.sql) := by
  have hsize : sqlCmdSize = 1024 := rfl
  rw [fgets, h.remaining, if_neg (by omega), if_neg (by omega), if_neg hsql]
  congr 2
  omega

theorem turn_eof (h : r.Loaded acc) (hroom : acc.length < sqlCmdSize - 1) (hsql : r.sql = []) :
    r.turn = .ok (false, r) := by
  have hsize : sqlCmdSize = 1024 := rfl
  rw [turn, fgets, h.remaining, if_neg (by omega), if_neg (by omega), if_pos hsql]

/-- A full buffer stays full, and nothing is read any more. -/
theorem turn_full (h : r.Loaded acc) (hfull : acc.length = sqlCmdSize - 1) :
    ∃ r', r.turn = .ok (true, r') ∧ r'.Loaded acc := by
  have hsize : sqlCmdSize = 1024 := rfl
  have hfgets : fgets r.lenRemaining r.sql = some ([], r.sql) := by
    rw [fgets, h.remaining, if_neg (by omega), if_pos (by omega)]
  obtain ⟨r', hturn, hloaded, -⟩ := (turn_piece h hfgets (by simp only [List.length_nil]; omega)).2 List.not_mem_nil
  exact ⟨r', hturn, (List.append_nil acc) ▸ hloaded⟩

/-! ## The loop -/

theorem loop_stuck (h : r.Loaded acc) (hfull : acc.length = sqlCmdSize - 1) (fuel : Nat) :
    loop fuel r = .ok none := by
  induction fuel generalizing r with
  | zero => rfl
  | succ fuel ih =>
      obtain ⟨r', hturn, hloaded⟩ := turn_full h hfull
      rw [loop, hturn]
      exact ih hloaded

/-- What a turn does where there is something to read and room for it -/
theorem turn_read (h : r.Loaded acc) (hroom : acc.length < sqlCmdSize - 1) (hsql : r.sql ≠ []) {piece rest : List Byte}
    (hread : readLine (sqlCmdSize - 1 - acc.length) r.sql = (piece, rest)) :
    (semicolon ∈ cstr piece → ∃ r', r.turn = .ok (true, r') ∧ r'.Loaded [] ∧ r'.sql = rest ∧
      r'.executed = r.executed ++ [acc ++ cstr piece]) ∧
    (semicolon ∉ cstr piece → ∃ r', r.turn = .ok (true, r') ∧ r'.Loaded (acc ++ cstr piece) ∧ r'.sql = rest ∧
      r'.executed = r.executed) := by
  have hfgets := h.fgets_eq hroom hsql
  have hlen := length_readLine_le (sqlCmdSize - 1 - acc.length) r.sql
  rw [hread] at hfgets hlen
  change piece.length ≤ _ at hlen
  exact turn_piece h hfgets (by omega)

/-- If the buffer gets full, the runner does not come to an end. -/
theorem loop_of_clogs {used : Nat} {script : List Byte} (hclogs : Clogs used script) (h : r.Loaded acc)
    (hsql : r.sql = script) (hused : acc.length = used) (fuel : Nat) : loop fuel r = .ok none := by
  induction hclogs generalizing r acc fuel with
  | full script => exact loop_stuck h hused fuel
  | @command used script hroom hfound hrest ih =>
      subst hused hsql
      have hne : r.sql ≠ [] := by
        intro hnil
        rw [hnil, readLine_nil] at hfound
        cases hfound
      obtain ⟨r', hturn, hloaded, hsql', -⟩ := (turn_read h hroom hne rfl).1 hfound
      cases fuel with
      | zero => rfl
      | succ fuel =>
          rw [loop, hturn]
          exact ih hloaded hsql' rfl fuel
  | @part used script hroom hne hfound hrest ih =>
      subst hused hsql
      obtain ⟨r', hturn, hloaded, hsql', -⟩ := (turn_read h hroom hne rfl).2 hfound
      cases fuel with
      | zero => rfl
      | succ fuel =>
          rw [loop, hturn]
          exact ih hloaded hsql' (List.length_append ..) fuel

/-- A run that comes to an end takes a number of turns. -/
theorem loop_of_executes {script : List Byte} {texts : List (List Byte)} (hexec : Executes acc script texts)
    (h : r.Loaded acc) (hsql : r.sql = script) :
    ∃ n r', r'.executed = r.executed ++ texts ∧ ∀ fuel, loop fuel r = .ok (if n ≤ fuel then some r' else none) := by
  have hturns : ∀ {r r1 r' : Runner} {n : Nat}, r.turn = .ok (true, r1) →
      (∀ fuel, loop fuel r1 = .ok (if n ≤ fuel then some r' else none)) →
      ∀ fuel, loop fuel r = .ok (if n + 1 ≤ fuel then some r' else none) := by
    intro r r1 r' n hturn hloop fuel
    cases fuel with
    | zero => rfl
    | succ fuel =>
        rw [loop, hturn]
        simp only [Nat.add_le_add_iff_right]
        exact hloop fuel
  induction hexec generalizing r with
  | @eof acc hroom =>
      refine ⟨1, r, (List.append_nil _).symm, fun fuel => ?_⟩
      cases fuel with
      | zero => rfl
      | succ fuel =>
          rw [loop, turn_eof h hroom hsql, if_pos (Nat.le_add_left 1 fuel)]
          rfl
  | @command acc script piece rest texts hroom hread hfound hrest ih =>
      subst hsql
      have hne : r.sql ≠ [] := by
        intro hnil
        rw [hnil, readLine_nil] at hread
        cases hread
        cases hfound
      obtain ⟨r1, hturn, hloaded, hsql', hexecuted⟩ := (turn_read h hroom hne hread).1 hfound
      obtain ⟨n, r', hr', hloop⟩ := ih hloaded hsql'
      refine ⟨n + 1, r', ?_, hturns hturn hloop⟩
      rw [hr', hexecuted, List.append_assoc, List.singleton_append]
  | @part acc script piece rest texts hroom hne hread hfound hrest ih =>
      subst hsql
      obtain ⟨r1, hturn, hloaded, hsql', hexecuted⟩ := (turn_read h hroom hne hread).2 hfound
      obtain ⟨n, r', hr', hloop⟩ := ih hloaded hsql'
      exact ⟨n + 1, r', by rw [hr', hexecuted], hturns hturn hloop⟩

end Runner

/-! ## Which runs are finite -/

/-- A script has a finite run, or it fills the buffer. -/
theorem executes_or_clogs (acc : List Byte) (hfits : acc.length < sqlCmdSize) (script : List Byte) :
    (∃ texts, Executes acc script texts) ∨ Clogs acc.length script := by
  induction hlen : script.length using Nat.strongRecOn generalizing acc script with
  | ind len ih =>
      subst hlen
      rcases Nat.lt_or_ge acc.length (sqlCmdSize - 1) with hroom | hfull
      · by_cases hne : script = []
        · exact .inl ⟨[], hne ▸ .eof hroom⟩
        · have hshort := length_rest_lt (Nat.sub_pos_of_lt hroom) hne
          by_cases hfound : semicolon ∈ cstr (readLine (sqlCmdSize - 1 - acc.length) script).1
          · rcases ih _ hshort [] (by decide) _ rfl with ⟨texts, h⟩ | h
            · exact .inl ⟨_, .command hroom rfl hfound h⟩
            · exact .inr (.command hroom hfound h)
          · have hpiece : acc.length +
                (cstr (readLine (sqlCmdSize - 1 - acc.length) script).1).length < sqlCmdSize := by
              have hle := length_readLine_le (sqlCmdSize - 1 - acc.length) script
              have hcstr := length_cstr_le (readLine (sqlCmdSize - 1 - acc.length) script).1
              omega
            rcases ih _ hshort (acc ++ cstr (readLine (sqlCmdSize - 1 - acc.length) script).1)
              (by rwa [List.length_append]) _ rfl with ⟨texts, h⟩ | h
            · exact .inl ⟨_, .part hroom hne rfl hfound h⟩
            · rw [List.length_append] at h
              exact .inr (.part hroom hne hfound h)
      · have hused : acc.length = sqlCmdSize - 1 := by omega
        rw [hused]
        exact .inr (.full script)

/-- The text of an executed command has no NUL. -/
theorem Executes.text {acc script : List Byte} {texts : List (List Byte)} (h : Executes acc script texts)
    (hacc : 0 ∉ acc) : ∀ text ∈ texts, 0 ∉ text := by
  induction h with
  | eof _ => exact fun _ h => (List.not_mem_nil h).elim
  | @command acc script piece rest texts _ _ _ _ ih =>
      rw [List.forall_mem_cons, List.mem_append, not_or]
      exact ⟨⟨hacc, zero_notMem_cstr piece⟩, ih List.not_mem_nil⟩
  | @part acc script piece rest texts _ _ _ _ _ ih =>
      refine ih ?_
      rw [List.mem_append, not_or]
      exact ⟨hacc, zero_notMem_cstr piece⟩

theorem loaded_start (stack : Vector Byte sqlCmdSize) (script : List Byte) :
    Runner.Loaded ⟨stack, 0, sqlCmdSize, script, []⟩ [] :=
  ⟨rfl, rfl, rfl, List.not_mem_nil, by decide⟩

theorem run_of_executes {script : List Byte} {texts : List (List Byte)} (hexec : Executes [] script texts)
    (stack : Vector Byte sqlCmdSize) : ∃ n, ∀ fuel, sdiDbRunSqlScript stack (some script) fuel =
      .ok (if n ≤ fuel then some texts else none) := by
  obtain ⟨n, r', hexecuted, hloop⟩ := Runner.loop_of_executes hexec (loaded_start stack script) rfl
  refine ⟨n, fun fuel => ?_⟩
  simp only [sdiDbRunSqlScript, hloop, Checked.bind_ok]
  split
  · rw [Option.map_some, hexecuted, List.nil_append]
  · rfl

theorem run_of_clogs {script : List Byte} (hclogs : Clogs 0 script) (stack : Vector Byte sqlCmdSize) (fuel : Nat) :
    sdiDbRunSqlScript stack (some script) fuel = .ok none := by
  simp only [sdiDbRunSqlScript, Runner.loop_of_clogs hclogs (loaded_start stack script) rfl rfl, Checked.bind_ok]
  rfl

theorem Executes.unique {script : List Byte} {texts texts' : List (List Byte)} (h : Executes [] script texts)
    (h' : Executes [] script texts') : texts = texts' := by
  obtain ⟨n, hrun⟩ := run_of_executes h (Vector.replicate _ 0)
  obtain ⟨n', hrun'⟩ := run_of_executes h' (Vector.replicate _ 0)
  have heq := (hrun (n + n')).symm.trans (hrun' (n + n'))
  rw [if_pos (Nat.le_add_right ..), if_pos (Nat.le_add_left ..)] at heq
  exact Option.some.inj (Except.ok.inj heq)

theorem Executes.not_clogs {script : List Byte} {texts : List (List Byte)} (h : Executes [] script texts) :
    ¬Clogs 0 script := by
  intro hclogs
  obtain ⟨n, hrun⟩ := run_of_executes h (Vector.replicate _ 0)
  have heq := (hrun n).symm.trans (run_of_clogs hclogs (Vector.replicate _ 0) n)
  rw [if_pos (Nat.le_refl n)] at heq
  cases heq

/-- What the runner does is what its finite run says. -/
theorem runsScript_iff_executes (script : List Byte) : RunsScript script ↔ ∃ texts, Executes [] script texts ∧
    ∀ commands : List SqlCommand, (∀ c ∈ commands, c.body.length < sqlCmdSize) → ScriptOf commands script →
      List.Forall₂ SqlCommand.Passed texts commands := by
  constructor
  · intro h
    obtain ⟨-, fuel, executed, hout, hpassed⟩ := h (Vector.replicate _ 0)
    rcases executes_or_clogs [] (by decide) script with ⟨texts, hexec⟩ | hclogs
    · obtain ⟨n, hrun⟩ := run_of_executes hexec (Vector.replicate _ 0)
      rw [hrun] at hout
      split at hout
      · cases hout
        exact ⟨_, hexec, hpassed⟩
      · cases hout
    · rw [run_of_clogs hclogs] at hout
      cases hout
  · rintro ⟨texts, hexec, hpassed⟩ stack
    obtain ⟨n, hrun⟩ := run_of_executes hexec stack
    refine ⟨fun fuel => ⟨_, hrun fuel⟩, n, texts, ?_, hpassed⟩
    rw [hrun, if_pos (Nat.le_refl n)]

end OpxSdi.Vmdb
