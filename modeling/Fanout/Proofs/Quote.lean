import Fanout.Shell.Quote
import Fanout.Shell.Words

/-!
# Reading quoted words back

`quoteChars` writes a word as chunks, each bare, in single quotes or in double quotes, and
`readWords` reads a line by the rules of a POSIX shell. This module shows that the two agree:
a quoted word, read inside a word, joins that word whole and leaves the reader where it was
(`readWords_quoteChars`), and read between words it starts a word (`readWords_gap_quoteChars`).
So a quoted word splits back into exactly itself (`split_quote`), whatever characters it holds.

The proof goes chunk by chunk. `Fits` says what a chunk's style needs for the chunk to read
back; every chunk that `chunks` cuts fits (`chunks_fits`) and together they are the word
(`chunks_flatten`).
-/

namespace Fanout.Shell

-- Every lemma below steps the reader, so its equations are simp lemmas here.
attribute [local simp] readWords

/-! ## One character at a time -/

theorem bareOk_not_special {c : Char} (h : bareOk c = true) :
    isSeparator c = false ∧ c ≠ '"' ∧ c ≠ '\'' ∧ c ≠ '\\' ∧ c ≠ '#' := by
  refine ⟨?_, ?_, ?_, ?_, ?_⟩
  · cases hsep : isSeparator c
    · rfl
    · simp only [isSeparator, Bool.or_eq_true, beq_iff_eq] at hsep
      rcases hsep with (rfl | rfl) | rfl <;> simp_all [bareOk]
  all_goals (rintro rfl; revert h; decide)

/-- A character that stands for itself inside an unquoted word: no blank, quote or backslash. -/
def plainChar (c : Char) : Bool := !isSeparator c && c != '"' && c != '\'' && c != '\\'

theorem plainChar_of_bareOk {c : Char} (h : bareOk c = true) : plainChar c = true := by
  obtain ⟨hs, hd, hq, hb, -⟩ := bareOk_not_special h
  simp [plainChar, hs, hd, hq, hb]

/-- A run of plain characters joins the word in progress. -/
theorem readWords_plain_append {p : List Char} (hp : ∀ c ∈ p, plainChar c = true)
    (rest cur : List Char) (done : List String) :
    readWords .bare (p ++ rest) cur done = readWords .bare rest (p.reverse ++ cur) done := by
  induction p generalizing cur with
  | nil => rfl
  | cons c p ih =>
      have hc := hp c List.mem_cons_self
      simp only [plainChar, Bool.and_eq_true, Bool.not_eq_true', bne_iff_ne, ne_eq] at hc
      obtain ⟨⟨⟨hs, hd⟩, hq⟩, hb⟩ := hc
      rw [List.cons_append, readWords]
      simp only [hs, hd, hq, hb, beq_iff_eq, Bool.false_eq_true, if_false]
      rw [ih (fun x hx => hp x (List.mem_cons_of_mem c hx))]
      simp

/-- A run of bare characters joins the word in progress. -/
theorem readWords_bare_append {p : List Char} (hp : ∀ c ∈ p, bareOk c = true)
    (rest cur : List Char) (done : List String) :
    readWords .bare (p ++ rest) cur done = readWords .bare rest (p.reverse ++ cur) done :=
  readWords_plain_append (fun c hc => plainChar_of_bareOk (hp c hc)) rest cur done

/-- Inside single quotes, a run without a quote joins the word in progress. -/
theorem readWords_single_append {p : List Char} (hp : '\'' ∉ p)
    (rest cur : List Char) (done : List String) :
    readWords .single (p ++ rest) cur done = readWords .single rest (p.reverse ++ cur) done := by
  induction p generalizing cur with
  | nil => rfl
  | cons c p ih =>
      have hc : c ≠ '\'' := fun h => hp (h ▸ List.mem_cons_self)
      rw [List.cons_append, readWords]
      simp only [hc, beq_iff_eq, if_false]
      rw [ih (fun h => hp (List.mem_cons_of_mem c h))]
      simp

/-- Inside double quotes, characters written with `$`, backquote, `"` and backslash escaped
read back as themselves. -/
theorem readWords_double_escaped (p rest cur : List Char) (done : List String) :
    readWords .double (p.flatMap (fun c =>
        if c == '$' || c == '`' || c == '"' || c == '\\' then ['\\', c] else [c]) ++ rest) cur done =
      readWords .double rest (p.reverse ++ cur) done := by
  induction p generalizing cur with
  | nil => rfl
  | cons c p ih =>
      simp only [List.flatMap_cons, List.append_assoc]
      by_cases hesc : (c == '$' || c == '`' || c == '"' || c == '\\') = true
      · rw [if_pos hesc, List.cons_append, List.cons_append, List.nil_append, readWords]
        simp only [beq_self_eq_true, if_true]
        rw [readWords, if_pos hesc, ih]
        simp
      · rw [if_neg hesc, List.cons_append, List.nil_append, readWords]
        simp only [Bool.or_eq_true, beq_iff_eq, not_or] at hesc
        simp only [hesc.2, hesc.1.2, beq_iff_eq, if_false]
        rw [ih]
        simp

/-! ## Quotes -/

theorem readWords_bare_quote (cs cur : List Char) (done : List String) :
    readWords .bare ('\'' :: cs) cur done = readWords .single cs cur done := by
  simp [isSeparator]

theorem readWords_single_quote (cs cur : List Char) (done : List String) :
    readWords .single ('\'' :: cs) cur done = readWords .bare cs cur done := by
  simp

theorem readWords_bare_dquote (cs cur : List Char) (done : List String) :
    readWords .bare ('"' :: cs) cur done = readWords .double cs cur done := by
  simp [isSeparator]

theorem readWords_double_dquote (cs cur : List Char) (done : List String) :
    readWords .double ('"' :: cs) cur done = readWords .bare cs cur done := by
  simp

/-! ## Chunks -/

/-- A chunk that its style writes so that it reads back: not empty, only bare characters when
written bare, and no single quote when written in single quotes. -/
def Fits (s : Styles) (ch : List Char) : Prop :=
  ch ≠ [] ∧ (s.bare = true → ∀ c ∈ ch, bareOk c = true) ∧ (s.single = true → '\'' ∉ ch)

/-- A written chunk reads back as its characters, and the reader is again in a word. -/
theorem readWords_writeChunk {s : Styles} {ch : List Char} (h : Fits s ch)
    (rest cur : List Char) (done : List String) :
    readWords .bare (writeChunk s ch ++ rest) cur done = readWords .bare rest (ch.reverse ++ cur) done := by
  obtain ⟨-, hbare, hsingle⟩ := h
  unfold writeChunk
  by_cases hb : s.bare = true
  · rw [if_pos hb, readWords_bare_append (hbare hb)]
  by_cases hs : s.single = true
  · rw [if_neg hb, if_pos hs]
    simp only [List.cons_append, List.append_assoc, List.nil_append]
    rw [readWords_bare_quote, readWords_single_append (hsingle hs), readWords_single_quote]
  · rw [if_neg hb, if_neg hs]
    simp only [List.cons_append, List.append_assoc, List.nil_append]
    rw [readWords_bare_dquote, readWords_double_escaped, readWords_double_dquote]

theorem fits_start (c : Char) : Fits (Styles.start c) [c] := by
  unfold Styles.start
  split
  · next h =>
      have hc : c = '^' := by simpa using h
      subst hc
      exact ⟨by simp, by simp, by decide⟩
  · refine ⟨by simp, fun h => by simpa [ Styles.admit] using h, fun h => ?_⟩
    simp only [ Styles.admit, Bool.true_and, singleOk, Bool.and_eq_true, bne_iff_ne, ne_eq] at h
    simpa [eq_comm] using h.1.1

theorem Fits.extend {s : Styles} {ch : List Char} (h : Fits s ch) (c : Char) :
    Fits ( s.admit c) (ch ++ [c]) := by
  obtain ⟨-, hbare, hsingle⟩ := h
  refine ⟨by simp, fun hb => ?_, fun hs => ?_⟩
  · simp only [ Styles.admit, Bool.and_eq_true] at hb
    intro x hx
    rcases List.mem_append.1 hx with hx | hx
    · exact hbare hb.1 x hx
    · simp only [List.mem_singleton] at hx
      exact hx ▸ hb.2
  · simp only [ Styles.admit, singleOk, Bool.and_eq_true, bne_iff_ne, ne_eq] at hs
    simp only [List.mem_append, List.mem_singleton, not_or]
    exact ⟨hsingle hs.1, fun h => hs.2.1.1 h.symm⟩

/-- Every chunk cut from a word fits its style. -/
theorem chunks_fits (cs cur : List Char) (s : Styles) (h : cur ≠ [] → Fits s cur.reverse) :
    ∀ x ∈ chunks cs cur s, Fits x.1 x.2 := by
  fun_induction chunks cs cur s with
  | case1 => simp
  | case2 cur s hcur => simpa using h hcur
  | case3 c cs s ih => exact ih (fun _ => fits_start c)
  | case4 c cs cur s hcur s2 hany ih =>
      exact ih (fun _ => by simpa using (h hcur).extend c)
  | case5 c cs cur s hcur s2 hany ih =>
      intro x hx
      rcases List.mem_cons.1 hx with rfl | hx
      · exact h hcur
      · exact ih (fun _ => fits_start c) x hx

/-- Chunks lose no character and add none. -/
theorem chunks_flatten (cs cur : List Char) (s : Styles) :
    (chunks cs cur s).flatMap (·.2) = cur.reverse ++ cs := by
  fun_induction chunks cs cur s with
  | case1 => rfl
  | case2 cur s hcur => simp
  | case3 c cs s ih => simpa using ih
  | case4 c cs cur s hcur s2 hany ih => simpa using ih
  | case5 c cs cur s hcur s2 hany ih => simp [ih]

/-- Written chunks read back one after the other. -/
theorem readWords_chunks {L : List (Styles × List Char)} (hL : ∀ x ∈ L, Fits x.1 x.2)
    (rest cur : List Char) (done : List String) :
    readWords .bare (L.flatMap (fun x => writeChunk x.1 x.2) ++ rest) cur done =
      readWords .bare rest ((L.flatMap (·.2)).reverse ++ cur) done := by
  induction L generalizing cur with
  | nil => rfl
  | cons x L ih =>
      rw [List.flatMap_cons, List.append_assoc, readWords_writeChunk (hL x List.mem_cons_self),
        ih (fun y hy => hL y (List.mem_cons_of_mem x hy))]
      simp

theorem quoteChars_cons (c : Char) (cs : List Char) :
    quoteChars (c :: cs) =
      (chunks (c :: cs) [] ⟨true, true, true⟩).flatMap (fun x => writeChunk x.1 x.2) := rfl

/-- A quoted word read inside a word joins it whole: quoting is undone by reading. -/
theorem readWords_quoteChars (w rest cur : List Char) (done : List String) :
    readWords .bare (quoteChars w ++ rest) cur done = readWords .bare rest (w.reverse ++ cur) done := by
  cases w with
  | nil =>
      show readWords .bare ('\'' :: '\'' :: rest) cur done = _
      rw [readWords_bare_quote, readWords_single_quote]
      rfl
  | cons c cs =>
      rw [quoteChars_cons, readWords_chunks (chunks_fits _ _ _ (by simp)), chunks_flatten]
      simp

/-- Between words, a character that neither separates nor starts a comment starts a word. -/
theorem readWords_gap_cons {c : Char} (hs : isSeparator c = false) (hh : c ≠ '#')
    (cs cur : List Char) (done : List String) :
    readWords .gap (c :: cs) cur done = readWords .bare (c :: cs) [] done := by
  rw [readWords]
  simp [hs, hh]

theorem writeChunk_head {s : Styles} {ch : List Char} (h : Fits s ch) :
    ∃ d ds, writeChunk s ch = d :: ds ∧ isSeparator d = false ∧ d ≠ '#' := by
  obtain ⟨hne, hbare, -⟩ := h
  unfold writeChunk
  by_cases hb : s.bare = true
  · obtain ⟨d, ds, rfl⟩ := List.exists_cons_of_ne_nil hne
    obtain ⟨hs, -, -, -, hh⟩ := bareOk_not_special (hbare hb d List.mem_cons_self)
    exact ⟨d, ds, by rw [if_pos hb], hs, hh⟩
  by_cases hs : s.single = true
  · exact ⟨'\'', _, by rw [if_neg hb, if_pos hs]; rfl, by decide, by decide⟩
  · exact ⟨'"', _, by rw [if_neg hb, if_neg hs]; rfl, by decide, by decide⟩

/-- A quoted word starts with a character that starts a word. -/
theorem quoteChars_head (w : List Char) :
    ∃ d ds, quoteChars w = d :: ds ∧ isSeparator d = false ∧ d ≠ '#' := by
  cases w with
  | nil => exact ⟨'\'', ['\''], rfl, by decide, by decide⟩
  | cons c cs =>
      have hfits := chunks_fits (c :: cs) [] ⟨true, true, true⟩ (by simp)
      cases hL : chunks (c :: cs) [] ⟨true, true, true⟩ with
      | nil =>
          have := chunks_flatten (c :: cs) [] ⟨true, true, true⟩
          rw [hL] at this
          simp at this
      | cons x L =>
          rw [hL] at hfits
          obtain ⟨d, ds, hx, hs, hh⟩ := writeChunk_head (hfits x List.mem_cons_self)
          refine ⟨d, ds ++ L.flatMap (fun x => writeChunk x.1 x.2), ?_, hs, hh⟩
          rw [quoteChars_cons, hL, List.flatMap_cons, hx]
          rfl

/-- A quoted word read between words starts a word and joins it whole. -/
theorem readWords_gap_quoteChars (w rest cur : List Char) (done : List String) :
    readWords .gap (quoteChars w ++ rest) cur done = readWords .bare rest w.reverse done := by
  obtain ⟨d, ds, hq, hs, hh⟩ := quoteChars_head w
  rw [hq, List.cons_append, readWords_gap_cons hs hh, ← List.cons_append, ← hq,
    readWords_quoteChars, List.append_nil]

/-- Quoting round trip: the shell reads a quoted word back as that one word. -/
theorem split_quote {w q : String} (h : quote? w = some q) : split? q = some [w] := by
  unfold quote? at h
  split at h
  · cases h
  · cases h
    unfold split?
    rw [String.toList_ofList, ← List.append_nil (quoteChars w.toList), readWords_gap_quoteChars]
    simp

end Fanout.Shell
