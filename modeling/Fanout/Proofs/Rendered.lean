import Fanout.Proofs.Template

/-!
# What a built command holds

A built command has its words, its environment bindings, and two lines that show it: the
display line, each word quoted and joined by blanks, and the dry-run line, each binding written
`NAME=value` with the value quoted, then the display line.

The words of a built command have no NUL: a value with one is refused when it is put in, and
the words are checked again after the split. The bindings pair the template's names with the
job's arguments as they are, and nothing checks them (`Template.built_words_nul_free`); an
argument with a NUL that no placeholder uses reaches the environment (`env_binding_keeps_nul`).

The display line reads back as the words. The dry-run line reads back as the bindings and the
words when each name stands for itself at the start of a word and no value has a NUL
(`Template.built_lines_read_back`). Names are written raw: a name with a blank splits its binding
in two (`dry_run_line_splits_spaced_name`).
-/

namespace Fanout

open Shell

/-! ## Quoted words joined by blanks -/

/-- Quoted words joined by blanks, read between words, come back as the words. -/
theorem readWords_gap_intercalate (ws : List (List Char)) (done : List String) :
    readWords .gap ([' '].intercalate (ws.map quoteChars)) [] done =
      some (done.reverse ++ ws.map String.ofList) := by
  induction ws generalizing done with
  | nil => simp [readWords]
  | cons w ws ih =>
    cases ws with
    | nil =>
      rw [List.map_singleton, List.intercalate_singleton, ← List.append_nil (quoteChars w),
        readWords_gap_quoteChars]
      simp [readWords]
    | cons w' ws =>
      rw [List.map_cons, List.map_cons, List.intercalate_cons_cons, List.append_assoc,
        readWords_gap_quoteChars, List.singleton_append, readWords, if_pos (by decide),
        ← List.map_cons, ih]
      simp

theorem mapM_quote {ws : List String} (h : ∀ w ∈ ws, Char.ofNat 0 ∉ w.toList) :
    ws.mapM quote? = some (ws.map fun w => String.ofList (quoteChars w.toList)) := by
  induction ws with
  | nil => rfl
  | cons w ws ih =>
    rw [List.mapM_cons, quote_of_no_nul (h w List.mem_cons_self),
      ih (fun x hx => h x (List.mem_cons_of_mem w hx))]
    rfl

namespace Rendered

/-- The display line of words without a NUL is the words quoted and joined by blanks. -/
theorem display_toList {argv : List String} (env : List (String × String))
    (h : ∀ w ∈ argv, Char.ofNat 0 ∉ w.toList) :
    (make argv env).display.toList = [' '].intercalate ((argv.map String.toList).map quoteChars) := by
  simp [make, join?, mapM_quote h, Function.comp_def]

/-- The display line, read between words, comes back as the words. -/
theorem readWords_display {argv : List String} (env : List (String × String))
    (h : ∀ w ∈ argv, Char.ofNat 0 ∉ w.toList) (done : List String) :
    readWords .gap (make argv env).display.toList [] done = some (done.reverse ++ argv) := by
  rw [display_toList env h, readWords_gap_intercalate]
  simp

theorem split_display {argv : List String} (env : List (String × String))
    (h : ∀ w ∈ argv, Char.ofNat 0 ∉ w.toList) : split? (make argv env).display = some argv := by
  rw [split?]
  simpa using readWords_display env h []

end Rendered

/-! ## Bindings -/

/-- A text that stands for itself at the start of a word: plain characters, and no `#` first. -/
def plainText (s : String) : Bool := s.toList.all plainChar && s.toList.head? != some '#'

/-- A plain name followed by `=` is made of plain characters. -/
theorem plainText_chars {n : String} (hn : plainText n = true) :
    ∀ c ∈ n.toList ++ ['='], plainChar c = true := by
  simp only [plainText, Bool.and_eq_true, List.all_eq_true] at hn
  intro c hc
  rcases List.mem_append.1 hc with hc | hc
  · exact hn.1 c hc
  · simp only [List.mem_singleton] at hc
    subst hc
    decide

/-- A plain name followed by `=` starts with a character that starts a word: the name's first,
or `=` for an empty name. -/
theorem plainText_head {n : String} (hn : plainText n = true) :
    ∃ c cs, n.toList ++ ['='] = c :: cs ∧ isSeparator c = false ∧ c ≠ '#' := by
  have hhead : n.toList.head? ≠ some '#' := by
    simp only [plainText, Bool.and_eq_true, bne_iff_ne, ne_eq] at hn
    exact hn.2
  cases hnl : n.toList with
  | nil => exact ⟨'=', [], rfl, by decide, by decide⟩
  | cons c cs =>
    have hc := plainText_chars hn c (by simp [hnl])
    simp only [plainChar, Bool.and_eq_true, Bool.not_eq_true'] at hc
    exact ⟨c, cs ++ ['='], rfl, hc.1.1.1, fun h => hhead (by simp [hnl, h])⟩

/-- A plain name followed by `=` starts a word and joins it whole. -/
theorem readWords_gap_plain_eq {n : String} (hn : plainText n = true) (rest : List Char)
    (done : List String) :
    readWords .gap (n.toList ++ '=' :: rest) [] done =
      readWords .bare rest ('=' :: n.toList.reverse) done := by
  obtain ⟨c, cs, hcs, hsep, hhash⟩ := plainText_head hn
  have hsplit : n.toList ++ '=' :: rest = (n.toList ++ ['=']) ++ rest := by simp
  rw [hsplit, hcs, List.cons_append, readWords_gap_cons hsep hhash, ← List.cons_append, ← hcs,
    readWords_plain_append (plainText_chars hn)]
  simp

/-- A binding of a plain name to a value without a NUL, written as the dry-run line writes it,
reads back as `NAME=value`. -/
theorem readWords_gap_binding {n v : String} (hn : plainText n = true)
    (hv : Char.ofNat 0 ∉ v.toList) (rest : List Char) (done : List String) :
    readWords .gap ((n ++ "=" ++ (quote? v).getD v ++ " ").toList ++ rest) [] done =
      readWords .gap rest [] ((n ++ "=" ++ v) :: done) := by
  have hchars : (n ++ "=" ++ (quote? v).getD v ++ " ").toList ++ rest =
      n.toList ++ '=' :: (quoteChars v.toList ++ ' ' :: rest) := by
    simp [quote_of_no_nul hv]
  rw [hchars, readWords_gap_plain_eq hn, readWords_quoteChars, readWords, if_pos (by decide)]
  congr 3
  simp [← String.toList_inj]

/-- The bindings of a dry-run line, each of a plain name to a value without a NUL. -/
theorem readWords_gap_bindings (env : List (String × String))
    (h : ∀ b ∈ env, plainText b.1 = true ∧ Char.ofNat 0 ∉ b.2.toList)
    (rest : List Char) (done : List String) :
    readWords .gap ((String.join (env.map fun (name, value) =>
        name ++ "=" ++ (quote? value).getD value ++ " ")).toList ++ rest) [] done =
      readWords .gap rest [] ((env.map fun b => b.1 ++ "=" ++ b.2).reverse ++ done) := by
  induction env generalizing done with
  | nil => simp
  | cons b env ih =>
    obtain ⟨hn, hv⟩ := h b List.mem_cons_self
    rw [List.map_cons, String.join_cons, String.toList_append, List.append_assoc,
      readWords_gap_binding hn hv, ih (fun x hx => h x (List.mem_cons_of_mem b hx))]
    simp

/-- The dry-run line reads back as the bindings and the words, when the words have no NUL, each
name is plain and no value has a NUL. -/
theorem Rendered.split_dryRunLine {argv : List String} {env : List (String × String)}
    (hargv : ∀ w ∈ argv, Char.ofNat 0 ∉ w.toList)
    (henv : ∀ b ∈ env, plainText b.1 = true ∧ Char.ofNat 0 ∉ b.2.toList) :
    split? (Rendered.make argv env).dryRunLine =
      some (env.map (fun b => b.1 ++ "=" ++ b.2) ++ argv) := by
  have hline := readWords_gap_bindings env henv (Rendered.make argv env).display.toList []
  have hkept : (Rendered.make argv env).env = env := rfl
  rw [split?, Rendered.dryRunLine, hkept, String.toList_append, hline,
    Rendered.readWords_display env hargv]
  simp

/-! ## Built commands -/

/-- The check on the words passes only words without a NUL and within the length. -/
theorem checkWords_ok {maxLen : Nat} {ws : List String} (h : Template.checkWords maxLen ws = .ok ()) :
    ∀ w ∈ ws, Char.ofNat 0 ∉ w.toList ∧ w.length ≤ maxLen := by
  induction ws with
  | nil => simp
  | cons w ws ih =>
    simp only [Template.checkWords] at h
    split at h
    · cases h
    · next hnul =>
      split at h
      · cases h
      · next hlong =>
        intro x hx
        rcases List.mem_cons.1 hx with rfl | hx
        · exact ⟨by simpa using hnul, by omega⟩
        · exact ih h x hx

/-- A command that renders has words that passed the final check, and binds the template's
names to the job's arguments. -/
theorem Template.render_ok {t : Template} {taskPath : String} {job : Job} {maxLen : Nat}
    {cmd : Rendered} (h : t.render taskPath job maxLen = .ok cmd) :
    ∃ argv, Template.checkWords maxLen argv = .ok () ∧
      cmd = Rendered.make argv (t.envVars.zip job.args) := by
  unfold Template.render at h
  cases hf : Template.fill taskPath job.args (scanPieces t.text.toList) with
  | error e => simp [hf, bind, Except.bind] at h
  | ok r =>
    obtain ⟨line, missing⟩ := r
    simp only [hf, bind, Except.bind] at h
    split at h
    · cases h
    · cases hs : split? (String.ofList line) with
      | none => simp [hs, throw, throwThe, MonadExceptOf.throw] at h
      | some ws =>
        simp only [hs, pure, Except.pure] at h
        split at h
        · cases h
        · cases hc : Template.checkWords maxLen ws with
          | error e => simp [hc] at h
          | ok u =>
            simp only [hc] at h
            cases h
            exact ⟨ws, hc, rfl⟩

/-- A command renders when the values fill every placeholder, the line splits into words and
the words pass the check. -/
theorem Template.render_of_words {t : Template} {taskPath : String} {job : Job} {maxLen : Nat}
    {line : List Char} {ws : List String}
    (hf : Template.fill taskPath job.args (scanPieces t.text.toList) = .ok (line, []))
    (hs : split? (String.ofList line) = some ws) (hne : ws ≠ [])
    (hc : Template.checkWords maxLen ws = .ok ()) :
    t.render taskPath job maxLen = .ok (Rendered.make ws (t.envVars.zip job.args)) := by
  have hne' : ws.isEmpty = false := List.isEmpty_eq_false_iff.2 hne
  simp [Template.render, hf, hs, hne', hc, bind, Except.bind, pure, Except.pure]

/-! ## Two concrete commands -/

theorem scanPieces_echo_arg :
    scanPieces "echo @ARG@".toList =
      [.char 'e', .char 'c', .char 'h', .char 'o', .char ' ', .hole "@ARG@" (.arg 0)] := by
  simp [scanPieces]

theorem scanPieces_run_sh :
    scanPieces "run.sh".toList = [.char 'r', .char 'u', .char 'n', .char '.', .char 's', .char 'h'] := by
  simp [scanPieces]

/-- A job with two arguments, the first put into the command and both bound to names. -/
theorem build_echo_two_bindings :
    (Template.make "echo @ARG@" ["HOST", " PORT "]).build Host.Fs.empty "/"
        (Job.ofArgs "t" ["db 1", "5432"]) 100 =
      .ok (Rendered.make ["echo", "db 1"] [("HOST", "db 1"), ("PORT", "5432")]) := by
  have hf : Template.fill (taskPath Host.Fs.empty "/" "t") (Job.ofArgs "t" ["db 1", "5432"]).args
      (scanPieces (Template.make "echo @ARG@" ["HOST", " PORT "]).text.toList) =
        .ok ("echo 'db 1'".toList, []) := by
    rw [show (Template.make "echo @ARG@" ["HOST", " PORT "]).text = "echo @ARG@" from rfl,
      scanPieces_echo_arg]
    rfl
  have hs : split? (String.ofList "echo 'db 1'".toList) = some ["echo", "db 1"] := by
    simp [split?, readWords, isSeparator]
  have hc : Template.checkWords 100 ["echo", "db 1"] = .ok () := rfl
  have hr := Template.render_of_words hf hs (by simp) hc
  rw [show (Template.make "echo @ARG@" ["HOST", " PORT "]).envVars.zip
      (Job.ofArgs "t" ["db 1", "5432"]).args = [("HOST", "db 1"), ("PORT", "5432")] by decide] at hr
  exact hr

/-- A template without placeholders, with one name bound to the job's one argument. -/
theorem build_run_sh_binding (name arg : String) :
    (Template.make "run.sh" [name]).build Host.Fs.empty "/" (Job.ofArgs "t" [arg]) 1000 =
      .ok (Rendered.make ["run.sh"] ((Template.make "run.sh" [name]).envVars.zip [arg])) := by
  have hf : Template.fill (taskPath Host.Fs.empty "/" "t") (Job.ofArgs "t" [arg]).args
      (scanPieces (Template.make "run.sh" [name]).text.toList) = .ok ("run.sh".toList, []) := by
    rw [show (Template.make "run.sh" [name]).text = "run.sh" from rfl, scanPieces_run_sh]
    rfl
  have hs : split? (String.ofList "run.sh".toList) = some ["run.sh"] := by
    simp [split?, readWords, isSeparator]
  have hc : Template.checkWords 1000 ["run.sh"] = .ok () := rfl
  exact Template.render_of_words hf hs (by simp) hc

/-! ## What a built command holds -/

/-- A built command has no NUL in its words, and its bindings pair the template's names with
the job's arguments, as they are. -/
theorem Template.built_words_nul_free {t : Template} {fs : Host.Fs} {cwd : String} {job : Job}
    {maxLen : Nat} {cmd : Rendered} (h : t.build fs cwd job maxLen = .ok cmd) :
    (∀ w ∈ cmd.argv, Char.ofNat 0 ∉ w.toList) ∧ cmd.env = t.envVars.zip job.args := by
  obtain ⟨argv, hc, rfl⟩ := Template.render_ok h
  exact ⟨fun w hw => (checkWords_ok hc w hw).1, rfl⟩

/-- Two arguments bound to two names, the first also put into the command. -/
theorem Template.built_words_nul_free_two_bindings :
    let cmd := Rendered.make ["echo", "db 1"] [("HOST", "db 1"), ("PORT", "5432")]
    (Template.make "echo @ARG@" ["HOST", " PORT "]).build Host.Fs.empty "/"
        (Job.ofArgs "t" ["db 1", "5432"]) 100 = .ok cmd ∧
      (∀ w ∈ cmd.argv, Char.ofNat 0 ∉ w.toList) ∧
        cmd.env = (Template.make "echo @ARG@" ["HOST", " PORT "]).envVars.zip
          (Job.ofArgs "t" ["db 1", "5432"]).args :=
  ⟨build_echo_two_bindings, Template.built_words_nul_free build_echo_two_bindings⟩

/-- An argument with a NUL that no placeholder uses reaches the environment: the command builds,
and a binding's value has a NUL. -/
theorem env_binding_keeps_nul :
    ∃ cmd, (Template.make "run.sh" ["NUL"]).build Host.Fs.empty "/"
        (Job.ofArgs "t" ["x\x00y"]) 1000 = .ok cmd ∧ ∃ b ∈ cmd.env, Char.ofNat 0 ∈ b.2.toList :=
  ⟨_, build_run_sh_binding "NUL" "x\x00y", ("NUL", "x\x00y"), by decide, by decide⟩

/-- A built command's display line reads back as its words. Its dry-run line reads back as its
bindings, each written `NAME=value`, then its words, when every bound name is plain text and no
bound value has a NUL. -/
theorem Template.built_lines_read_back {t : Template} {fs : Host.Fs} {cwd : String} {job : Job}
    {maxLen : Nat} {cmd : Rendered} (h : t.build fs cwd job maxLen = .ok cmd) :
    split? cmd.display = some cmd.argv ∧
      ((∀ b ∈ cmd.env, plainText b.1 = true ∧ Char.ofNat 0 ∉ b.2.toList) →
        split? cmd.dryRunLine = some (cmd.env.map (fun b => b.1 ++ "=" ++ b.2) ++ cmd.argv)) := by
  obtain ⟨argv, hc, rfl⟩ := Template.render_ok h
  have hargv : ∀ w ∈ argv, Char.ofNat 0 ∉ w.toList := fun w hw => (checkWords_ok hc w hw).1
  exact ⟨Rendered.split_display _ hargv, Rendered.split_dryRunLine hargv⟩

/-- A quoted argument and two bindings read back from both lines. -/
theorem Template.built_lines_read_back_quoted_value :
    let cmd := Rendered.make ["echo", "db 1"] [("HOST", "db 1"), ("PORT", "5432")]
    (Template.make "echo @ARG@" ["HOST", " PORT "]).build Host.Fs.empty "/"
        (Job.ofArgs "t" ["db 1", "5432"]) 100 = .ok cmd ∧
      split? cmd.display = some ["echo", "db 1"] ∧
      split? cmd.dryRunLine = some ["HOST=db 1", "PORT=5432", "echo", "db 1"] := by
  intro cmd
  have hread := Template.built_lines_read_back build_echo_two_bindings
  exact ⟨build_echo_two_bindings, hread.1, hread.2 (by decide)⟩

/-- A name with a blank is written raw, so the dry-run line splits its binding in two. -/
theorem dry_run_line_splits_spaced_name :
    ∃ cmd, (Template.make "run.sh" ["A B"]).build Host.Fs.empty "/" (Job.ofArgs "t" ["x"]) 1000 =
        .ok cmd ∧ split? cmd.dryRunLine = some ["A", "B=x", "run.sh"] ∧
      split? cmd.dryRunLine ≠ some (cmd.env.map (fun b => b.1 ++ "=" ++ b.2) ++ cmd.argv) := by
  have hline : (Rendered.make ["run.sh"] ((Template.make "run.sh" ["A B"]).envVars.zip ["x"])).dryRunLine =
      "A B=x run.sh" := by decide
  have hsplit : split? "A B=x run.sh" = some ["A", "B=x", "run.sh"] := by
    simp [split?, readWords, isSeparator]
  refine ⟨_, build_run_sh_binding "A B" "x", by rw [hline, hsplit], ?_⟩
  rw [hline, hsplit]
  decide

end Fanout
