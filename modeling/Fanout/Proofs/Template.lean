import Fanout.Proofs.Quote
import Fanout.Command.Template

/-!
# Placeholders are opaque parts of the words of a template

A command is built by putting each placeholder's value into the template quoted, then splitting
the line into words. This module shows that, when every placeholder stands outside quotes,
comments and escapes, and no value has a NUL, the result is the same as reading the template's
words first, each placeholder an opaque unquoted part of the word it stands in, and then putting
each value into its word as it is: the words and their boundaries come from the template alone,
and a value reaches its word literally, never read again.

`readPieces` is the reading of a scanned template; it follows `Shell.readWords` state for state
and refuses a placeholder wherever a quoted value would not stay literal. `readWords_quoted` is
the simulation between the two readers, and `Template.renderBySplit` the command built from the
template's reading.
-/


namespace Fanout

open Shell

/-! ## Reading a template with its placeholders opaque -/

/-- Why a template has no reading with its placeholders as opaque unquoted parts of words. -/
inductive Unreadable where
  /-- An unclosed quote, or a backslash at the very end. -/
  | unclosed
  /-- A placeholder inside quotes or a comment, or right after a backslash. -/
  | misplaced
  deriving DecidableEq, Repr

/-- Read a scanned template into words as `Shell.readWords` reads a line, each placeholder an
opaque part of the word it stands in. -/
def readPieces : Lexeme → List Piece → List Piece → List (List Piece) →
    Except Unreadable (List (List Piece))
  | .gap, [], _, done => .ok done.reverse
  | .comment, [], _, done => .ok done.reverse
  | .bare, [], cur, done => .ok (cur.reverse :: done).reverse
  | .bareEscape, [], _, _ => .error .unclosed
  | .single, [], _, _ => .error .unclosed
  | .double, [], _, _ => .error .unclosed
  | .doubleEscape, [], _, _ => .error .unclosed
  | .gap, .char c :: ps, cur, done =>
    if isSeparator c then readPieces .gap ps cur done
    else if c == '#' then readPieces .comment ps cur done
    else readPieces .bare (.char c :: ps) [] done
  | .gap, .hole t s :: ps, _, done => readPieces .bare (.hole t s :: ps) [] done
  | .comment, .char c :: ps, cur, done =>
    if c == '\n' then readPieces .gap ps cur done else readPieces .comment ps cur done
  | .bare, .char c :: ps, cur, done =>
    if isSeparator c then readPieces .gap ps [] (cur.reverse :: done)
    else if c == '"' then readPieces .double ps cur done
    else if c == '\'' then readPieces .single ps cur done
    else if c == '\\' then readPieces .bareEscape ps cur done
    else readPieces .bare ps (.char c :: cur) done
  | .bare, .hole t s :: ps, cur, done => readPieces .bare ps (.hole t s :: cur) done
  | .bareEscape, .char c :: ps, cur, done =>
    if c == '\n' then readPieces .bare ps cur done else readPieces .bare ps (.char c :: cur) done
  | .single, .char c :: ps, cur, done =>
    if c == '\'' then readPieces .bare ps cur done else readPieces .single ps (.char c :: cur) done
  | .double, .char c :: ps, cur, done =>
    if c == '\\' then readPieces .doubleEscape ps cur done
    else if c == '"' then readPieces .bare ps cur done
    else readPieces .double ps (.char c :: cur) done
  | .doubleEscape, .char c :: ps, cur, done =>
    if c == '$' || c == '`' || c == '"' || c == '\\' then readPieces .double ps (.char c :: cur) done
    else if c == '\n' then readPieces .double ps cur done
    else readPieces .double ps (.char c :: .char '\\' :: cur) done
  | _, .hole _ _ :: _, _, _ => .error .misplaced
termination_by st ps => (ps.length, if st = .gap then 1 else 0)

/-- The characters a piece stands for, its placeholder filled with its value as it is. -/
def Piece.fill (value : Slot → Option String) : Piece → List Char
  | .char c => [c]
  | .hole _ s => ((value s).getD "").toList

/-- The characters a piece is written as in the command line: its placeholder's value quoted. -/
def Piece.quoted (value : Slot → Option String) : Piece → List Char
  | .char c => [c]
  | .hole _ s => quoteChars ((value s).getD "").toList

/-- A word of a template, its placeholders filled. -/
def fillWord (value : Slot → Option String) (w : List Piece) : String :=
  String.ofList (w.flatMap (Piece.fill value))

/-- A word read in reverse, its placeholders filled. -/
theorem fillWord_reverse (value : Slot → Option String) (cur : List Piece) :
    String.ofList (cur.flatMap fun p => (p.fill value).reverse).reverse = fillWord value cur.reverse := by
  simp [fillWord, List.reverse_flatMap, Function.comp_def]

/-- Reading the template's pieces with each value quoted in its place is reading the pieces with
the placeholders opaque, then filling them: the reader's word under construction holds the
characters of `cur` reversed piece by piece. -/
theorem readWords_quoted (value : Slot → Option String) (st : Lexeme) (ps cur : List Piece)
    (done : List (List Piece)) (h : readPieces st ps cur done ≠ .error .misplaced) :
    readWords st (ps.flatMap (Piece.quoted value)) (cur.flatMap fun p => (p.fill value).reverse)
        (done.map (fillWord value)) =
      (readPieces st ps cur done).toOption.map (·.map (fillWord value)) := by
  fun_induction readPieces st ps cur done
  case case1 | case2 => simp [readWords, Except.toOption]
  case case3 => simp [readWords, fillWord_reverse, Except.toOption]
  case case4 | case5 | case6 | case7 => simp [readWords, Except.toOption]
  case case10 c ps cur done hsep hhash ih =>
    simp only [List.flatMap_cons, Piece.quoted, List.singleton_append] at ih ⊢
    rw [readWords_gap_cons (by simpa using hsep) (by simpa using hhash)]
    exact ih h
  case case11 t s ps cur done ih =>
    simp only [List.flatMap_cons, List.flatMap_nil, Piece.quoted, readWords_quoteChars,
      List.append_nil] at ih ⊢
    rw [readWords_gap_quoteChars]
    exact ih h
  case case14 c ps cur done hsep ih =>
    simp only [List.unattach_reverse, List.unattach_attach] at ih
    simp only [List.flatMap_cons, Piece.quoted, List.singleton_append]
    rw [readWords, if_pos hsep, fillWord_reverse]
    exact ih h
  case case19 t s ps cur done ih =>
    simp only [List.flatMap_cons, Piece.quoted, readWords_quoteChars]
    simpa [Piece.fill] using ih h
  case case30 => exact absurd rfl h
  -- every other case reads one character, and both readers take the same step on it
  all_goals
    simp only [List.flatMap_cons, Piece.quoted, List.singleton_append]
    rw [readWords]
    simp_all [Piece.fill]

/-! ## Filling placeholders -/

/-- The texts of the placeholders that have no value, in order. -/
def missingHoles (value : Slot → Option String) (ps : List Piece) : List String :=
  ps.filterMap fun p => match p with
    | .hole t s => if (value s).isNone then some t else none
    | .char _ => none

@[simp] theorem missingHoles_nil (value : Slot → Option String) : missingHoles value [] = [] := rfl

@[simp] theorem missingHoles_char (value : Slot → Option String) (c : Char) (ps : List Piece) :
    missingHoles value (.char c :: ps) = missingHoles value ps := rfl

@[simp] theorem missingHoles_hole (value : Slot → Option String) (t : String) (s : Slot)
    (ps : List Piece) :
    missingHoles value (.hole t s :: ps) =
      if (value s).isNone then t :: missingHoles value ps else missingHoles value ps := by
  simp only [missingHoles, List.filterMap_cons]
  split <;> simp_all

theorem quote_of_no_nul {v : String} (h : Char.ofNat 0 ∉ v.toList) :
    quote? v = some (String.ofList (quoteChars v.toList)) := by
  simp [quote?, h]

/-- Filling the placeholders of values without a NUL succeeds; it collects the placeholders
without a value, and when there are none the line is every piece written quoted. -/
theorem fill_ok (taskPath : String) (args : List String) (ps : List Piece)
    (hnul : ∀ t s v, Piece.hole t s ∈ ps → Slot.value taskPath args s = some v →
      Char.ofNat 0 ∉ v.toList) :
    ∃ line, Template.fill taskPath args ps = .ok (line, missingHoles (Slot.value taskPath args) ps) ∧
      (missingHoles (Slot.value taskPath args) ps = [] →
        line = ps.flatMap (Piece.quoted (Slot.value taskPath args))) := by
  induction ps with
  | nil => exact ⟨[], rfl, fun _ => rfl⟩
  | cons p ps ih =>
      obtain ⟨line, hfill, hline⟩ :=
        ih (fun t s v hp hv => hnul t s v (List.mem_cons_of_mem p hp) hv)
      cases p with
      | char c =>
          refine ⟨c :: line, by rw [Template.fill, hfill]; rfl, fun hm => ?_⟩
          rw [missingHoles_char] at hm
          simp [hline hm, Piece.quoted]
      | hole t s =>
          cases hv : Slot.value taskPath args s with
          | none =>
              refine ⟨line, ?_, fun hm => by simp [hv] at hm⟩
              simp only [Template.fill, hv, hfill, missingHoles_hole, Option.isNone_none, if_true]
              rfl
          | some v =>
              have hq := quote_of_no_nul (hnul t s v List.mem_cons_self hv)
              refine ⟨(quoteChars v.toList) ++ line, ?_, fun hm => ?_⟩
              · simp only [Template.fill, hv, hq, hfill, missingHoles_hole, Option.isNone_some,
                  Bool.false_eq_true, if_false, String.toList_ofList]
                rfl
              · simp only [missingHoles_hole, hv, Option.isNone_some, Bool.false_eq_true,
                  if_false] at hm
                simp [hline hm, Piece.quoted, hv]

/-- Sorting the unmatched placeholders keeps the list empty exactly when it was. -/
theorem sortUnmatched_eq_nil {names : List String} : sortUnmatched names = [] ↔ names = [] := by
  constructor
  · intro h
    cases hs : names.mergeSort (fun a b =>
        a.utf8ByteSize < b.utf8ByteSize || (a.utf8ByteSize == b.utf8ByteSize && decide (a ≤ b))) with
    | nil => simpa using congrArg List.length hs
    | cons a l =>
        simp only [sortUnmatched, hs, List.eraseDups_cons] at h
        cases h
  · rintro rfl
    simp [sortUnmatched]

/-- The placeholders a job leaves without a value, as the template check lists them. -/
theorem unmatched_eq (t : Template) (taskPath : String) (job : Job) :
    t.unmatched job =
      sortUnmatched (missingHoles (Slot.value taskPath job.args) (scanPieces t.text.toList)) := by
  unfold Template.unmatched Template.holes
  congr 1
  induction scanPieces t.text.toList with
  | nil => rfl
  | cons p ps ih =>
      cases p with
      | char c => simpa using ih
      | hole text s =>
          cases s with
          | task => simpa [Slot.value] using ih
          | arg i =>
              by_cases hi : job.args.length ≤ i
              · simp [Slot.value, hi, ih]
              · simp [Slot.value, hi, ih]
          | invalid => simp [Slot.value, ih]

/-! ## Building from the template's reading -/

/-- Build the command the way its template reads: refuse a job that leaves a placeholder
without a value, split the template into words with each placeholder an opaque unquoted part,
then put each value into its word as it is. -/
def Template.renderBySplit (t : Template) (taskPath : String) (job : Job) (maxLen : Nat) :
    Except JobError Rendered := do
  t.check job
  let words ← match readPieces .gap (scanPieces t.text.toList) [] [] with
    | .ok ws => pure ws
    | .error _ => throw (.security "Invalid command syntax: unbalanced quotes or trailing escape")
  if words.isEmpty then throw (.security "Empty command after parsing")
  let argv := words.map (fillWord (Slot.value taskPath job.args))
  Template.checkWords maxLen argv
  return Rendered.make argv (t.envVars.zip job.args)

/-- With its placeholders outside quotes, comments and escapes and no NUL in their values, a
template renders to the command built from its reading. -/
theorem render_eq_renderBySplit (t : Template) (taskPath : String) (job : Job) (maxLen : Nat)
    (hplaced : readPieces .gap (scanPieces t.text.toList) [] [] ≠ .error .misplaced)
    (hnul : ∀ x ∈ t.holes, ∀ v, x.2.value taskPath job.args = some v → Char.ofNat 0 ∉ v.toList) :
    t.render taskPath job maxLen = t.renderBySplit taskPath job maxLen := by
  have hnul' : ∀ text s v, Piece.hole text s ∈ scanPieces t.text.toList →
      s.value taskPath job.args = some v → Char.ofNat 0 ∉ v.toList := fun text s v hp hv =>
    hnul (text, s) (List.mem_filterMap.2 ⟨_, hp, rfl⟩) v hv
  obtain ⟨line, hfill, hline⟩ := fill_ok taskPath job.args _ hnul'
  unfold Template.render Template.renderBySplit Template.check
  rw [hfill, unmatched_eq t taskPath job]
  by_cases hm : missingHoles (Slot.value taskPath job.args) (scanPieces t.text.toList) = []
  · have hsplit : split? (String.ofList line) =
        (readPieces .gap (scanPieces t.text.toList) [] []).toOption.map
          (·.map (fillWord (Slot.value taskPath job.args))) := by
      unfold split?
      rw [String.toList_ofList, hline hm]
      simpa using readWords_quoted (Slot.value taskPath job.args) .gap _ [] [] hplaced
    simp only [hm, sortUnmatched_eq_nil.2 rfl, bind, Except.bind, List.isEmpty_nil, Bool.not_true,
      Bool.false_eq_true, if_false]
    rw [hsplit]
    cases readPieces Lexeme.gap (scanPieces t.text.toList) [] [] with
    | error e => rfl
    | ok ws => cases ws <;> rfl
  · have hs : sortUnmatched (missingHoles (Slot.value taskPath job.args) (scanPieces t.text.toList)) ≠ [] :=
      fun h => hm (sortUnmatched_eq_nil.1 h)
    have hne : (missingHoles (Slot.value taskPath job.args) (scanPieces t.text.toList)).isEmpty = false :=
      List.isEmpty_eq_false_iff.2 hm
    simp only [bind, Except.bind, hne, Bool.not_false, if_true]
    generalize sortUnmatched (missingHoles (Slot.value taskPath job.args) (scanPieces t.text.toList)) = names at hs ⊢
    cases names with
    | nil => contradiction
    | cons n ns => rfl

/-- The final check on the words refuses a word with a NUL, or one longer than the limit. -/
theorem checkWords_error {maxLen : Nat} {ws : List String} {e : JobError}
    (h : Template.checkWords maxLen ws = .error e) :
    ∃ w ∈ ws, (Char.ofNat 0 ∈ w.toList ∧ e = .security Template.nulText) ∨
      (maxLen < w.length ∧
        e = .security ("Argument too long: " ++ toString w.length ++ " characters")) := by
  induction ws with
  | nil => simp [Template.checkWords] at h
  | cons w ws ih =>
      simp only [Template.checkWords] at h
      split at h
      · next hnul =>
          cases h
          exact ⟨w, List.mem_cons_self, .inl ⟨by simpa using hnul, rfl⟩⟩
      · split at h
        · next hlong =>
            cases h
            exact ⟨w, List.mem_cons_self, .inr ⟨hlong, rfl⟩⟩
        · obtain ⟨v, hv, hwhy⟩ := ih h
          exact ⟨v, List.mem_cons_of_mem w hv, hwhy⟩

section Outcomes

variable {t : Template} {taskPath : String} {job : Job} {maxLen : Nat}

/-- A command built from the template's reading has the reading's words, filled. -/
theorem renderBySplit_ok {r : Rendered} (h : t.renderBySplit taskPath job maxLen = .ok r) :
    ∃ words, readPieces .gap (scanPieces t.text.toList) [] [] = .ok words ∧
      r.argv = words.map (fillWord (Slot.value taskPath job.args)) := by
  unfold Template.renderBySplit at h
  cases hc : t.check job with
  | error e => simp [hc, bind, Except.bind] at h
  | ok u =>
      cases hr : readPieces .gap (scanPieces t.text.toList) [] [] with
      | error e => simp [hc, hr, bind, Except.bind, pure, Except.pure] at h
      | ok words =>
          refine ⟨words, rfl, ?_⟩
          simp only [hc, hr, bind, Except.bind, pure, Except.pure] at h
          split at h
          · simp at h
          · split at h
            · simp at h
            · cases h
              rfl

/-- A command built from the template's reading is refused for unmatched placeholders, for a
template that does not read, for an empty reading, or by the final check on its words. -/
theorem renderBySplit_error {e : JobError} (h : t.renderBySplit taskPath job maxLen = .error e) :
    (t.unmatched job ≠ [] ∧ e = .unmatchedPlaceholders (t.unmatched job)) ∨
    ((∃ why, readPieces .gap (scanPieces t.text.toList) [] [] = .error why) ∧
      e = .security "Invalid command syntax: unbalanced quotes or trailing escape") ∨
    (readPieces .gap (scanPieces t.text.toList) [] [] = .ok [] ∧
      e = .security "Empty command after parsing") ∨
    ∃ words, readPieces .gap (scanPieces t.text.toList) [] [] = .ok words ∧
      Template.checkWords maxLen (words.map (fillWord (Slot.value taskPath job.args))) = .error e := by
  unfold Template.renderBySplit Template.check at h
  by_cases hm : t.unmatched job = []
  · cases hr : readPieces .gap (scanPieces t.text.toList) [] [] with
    | error why =>
        simp only [hm, hr, bind, Except.bind] at h
        cases h
        exact .inr (.inl ⟨⟨why, rfl⟩, rfl⟩)
    | ok words =>
        simp only [hm, hr, bind, Except.bind, pure, Except.pure] at h
        split at h
        · next hempty =>
            cases h
            exact .inr (.inr (.inl ⟨by simpa using hempty, rfl⟩))
        · split at h
          · next hwords =>
              cases h
              exact .inr (.inr (.inr ⟨words, rfl, hwords⟩))
          · cases h
  · left
    refine ⟨hm, ?_⟩
    generalize t.unmatched job = names at hm h
    cases names with
    | nil => contradiction
    | cons n ns =>
        cases h
        rfl

end Outcomes

/-- Building a command is safe from its values: when every placeholder of the template stands
outside quotes, comments and escapes, and no value of a placeholder has a NUL, the command is
the one built from the template's reading, and a command that is built has as its words the
template's words with each placeholder's value put in as it is. -/
theorem Template.build_fills_template_words (t : Template) (fs : Host.Fs) (cwd : String)
    (job : Job) (maxLen : Nat)
    (hplaced : readPieces .gap (scanPieces t.text.toList) [] [] ≠ .error .misplaced)
    (hnul : ∀ x ∈ t.holes, ∀ v, x.2.value (taskPath fs cwd job.sourcePath) job.args = some v →
      Char.ofNat 0 ∉ v.toList) :
    t.build fs cwd job maxLen = t.renderBySplit (taskPath fs cwd job.sourcePath) job maxLen ∧
    ∀ r, t.build fs cwd job maxLen = .ok r →
      ∃ words, readPieces .gap (scanPieces t.text.toList) [] [] = .ok words ∧
        r.argv = words.map (fillWord (Slot.value (taskPath fs cwd job.sourcePath) job.args)) := by
  have heq : t.build fs cwd job maxLen =
      t.renderBySplit (taskPath fs cwd job.sourcePath) job maxLen :=
    render_eq_renderBySplit t (taskPath fs cwd job.sourcePath) job maxLen hplaced hnul
  refine ⟨heq, fun r hr => ?_⟩
  rw [heq] at hr
  exact renderBySplit_ok hr

/-- An argument full of shell syntax, even one that spells a placeholder, fills its two places
in the template as it is. -/
theorem Template.build_fills_template_words_injection :
    let t : Template := { text := "echo 'a b' --name=@ARG@ @ARG@" }
    let job := Job.ofArgs "t" ["x; rm -rf / && echo $(id) @ARG@"]
    t.build Host.Fs.empty "/" job 100 =
        t.renderBySplit (taskPath Host.Fs.empty "/" job.sourcePath) job 100 ∧
      ∀ r, t.build Host.Fs.empty "/" job 100 = .ok r →
        ∃ words, readPieces .gap (scanPieces t.text.toList) [] [] = .ok words ∧
          r.argv = words.map
            (fillWord (Slot.value (taskPath Host.Fs.empty "/" job.sourcePath) job.args)) :=
  Template.build_fills_template_words _ _ _ _ _
    (by simp [scanPieces, readPieces, isSeparator])
    (by
      intro x hx v hv
      simp [Template.holes, scanPieces] at hx
      subst hx
      simp [Slot.value, Job.ofArgs, Job.args] at hv
      subst hv
      decide)

end Fanout
