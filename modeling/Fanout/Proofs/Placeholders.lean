import Mathlib.Data.List.Induction
import Mathlib.Data.List.TakeWhile
import Mathlib.Data.Nat.Digits.Defs
import Mathlib.Data.String.Basic
import Mathlib.Tactic.Ring
import Fanout.Command.Template
import Fanout.Count

/-!
# The placeholders a job leaves without a value

A template's placeholders are the matches of the pattern `@(?:TASK|ARG(?:_(\d+))?)@`, found from
the left without overlap. `Matches` says what that scanning finds, independently of the scanner
`scanPieces`, and `scanPieces_matches` shows the scanner finds exactly it. A job leaves a
placeholder without a value when its text is `Unfillable` for the job's number of arguments; the
check lists those texts once each, shorter first and then in byte order (`ListedBefore`), which
for texts of one length is the order of their code points (`Text.lt_iff_utf8Bytes_lt`).
-/

namespace Fanout.Text

open String

theorem toNat_lt_of_char (c : Char) : c.toNat < 0x110000 := by
  have h := c.valid
  unfold UInt32.isValidChar Nat.isValidChar at h
  change c.val.toNat < 0x110000
  omega

/-- The UTF-8 bytes of a character by its code point: one byte below `0x80`, else a lead byte
that says how many follow, then six bits in each continuation byte. -/
theorem utf8EncodeChar_cases (c : Char) :
    (c.toNat ≤ 0x7f ∧ utf8EncodeChar c = [UInt8.ofNat c.toNat]) ∨
    (0x7f < c.toNat ∧ c.toNat ≤ 0x7ff ∧ utf8EncodeChar c =
      [UInt8.ofNat (c.toNat / 64 + 0xc0), UInt8.ofNat (c.toNat % 64 + 0x80)]) ∨
    (0x7ff < c.toNat ∧ c.toNat ≤ 0xffff ∧ utf8EncodeChar c =
      [UInt8.ofNat (c.toNat / 4096 + 0xe0), UInt8.ofNat (c.toNat / 64 % 64 + 0x80),
       UInt8.ofNat (c.toNat % 64 + 0x80)]) ∨
    (0xffff < c.toNat ∧ utf8EncodeChar c =
      [UInt8.ofNat (c.toNat / 262144 + 0xf0), UInt8.ofNat (c.toNat / 4096 % 64 + 0x80),
       UInt8.ofNat (c.toNat / 64 % 64 + 0x80), UInt8.ofNat (c.toNat % 64 + 0x80)]) := by
  have hc := toNat_lt_of_char c
  unfold utf8EncodeChar
  simp only [Char.toNat] at hc ⊢
  split_ifs with h1 h2 h3
  · exact .inl ⟨h1, rfl⟩
  · refine .inr (.inl ⟨by omega, h2, ?_⟩)
    rw [Nat.mod_eq_of_lt (by omega : c.val.toNat / 64 < 0x20)]
  · refine .inr (.inr (.inl ⟨by omega, h3, ?_⟩))
    rw [Nat.mod_eq_of_lt (by omega : c.val.toNat / 4096 < 0x10)]
  · refine .inr (.inr (.inr ⟨by omega, ?_⟩))
    rw [Nat.mod_eq_of_lt (by omega : c.val.toNat / 262144 < 0x08)]

/-- Lists of one length keep their order whatever follows each. -/
theorem append_lt_append_of_length {p q : List UInt8} (hl : p.length = q.length) (h : p < q)
    (A B : List UInt8) : p ++ A < q ++ B := by
  induction p generalizing q with
  | nil => cases q <;> simp_all
  | cons x p ih =>
    cases q with
    | nil => simp at hl
    | cons y q =>
      rcases List.cons_lt_cons_iff.1 h with hxy | ⟨rfl, hpq⟩
      · exact List.Lex.rel hxy
      · exact List.Lex.cons (ih (by simpa using hl) hpq)

/-- Two byte strings keep their order whatever follows each, when they differ in their first
byte or have one length. -/
theorem append_lt_append {p q : List UInt8}
    (h : (p ≠ [] ∧ q ≠ [] ∧ p.headD 0 < q.headD 0) ∨ (p.length = q.length ∧ p < q))
    (A B : List UInt8) : p ++ A < q ++ B := by
  rcases h with ⟨hp, hq, hxy⟩ | ⟨hl, hpq⟩
  · obtain ⟨x, r, rfl⟩ := List.exists_cons_of_ne_nil hp
    obtain ⟨y, s, rfl⟩ := List.exists_cons_of_ne_nil hq
    exact List.Lex.rel hxy
  · exact append_lt_append_of_length hl hpq A B

theorem utf8EncodeChar_append_lt {c d : Char} (h : c < d) (A B : List UInt8) :
    utf8EncodeChar c ++ A < utf8EncodeChar d ++ B := by
  have hcd : c.toNat < d.toNat := h
  have hd := toNat_lt_of_char d
  apply append_lt_append
  rcases utf8EncodeChar_cases c with ⟨c1, ec⟩ | ⟨c1, c2, ec⟩ | ⟨c1, c2, ec⟩ | ⟨c1, ec⟩ <;>
  rcases utf8EncodeChar_cases d with ⟨d1, ed⟩ | ⟨d1, d2, ed⟩ | ⟨d1, d2, ed⟩ | ⟨d1, ed⟩ <;>
  · rw [ec, ed]
    simp only [ne_eq, reduceCtorEq, not_false_eq_true, List.headD_cons, List.length_cons,
      List.length_nil, List.cons_lt_cons_iff, List.nil_lt_cons, UInt8.lt_iff_toNat_lt,
      ← UInt8.toNat_inj, UInt8.toNat_ofNat', true_and]
    simp (disch := omega) only [Nat.mod_eq_of_lt]
    omega

/-- The UTF-8 bytes of a text. -/
def utf8Bytes (s : String) : List UInt8 := s.toUTF8.data.toList

theorem utf8Bytes_eq (s : String) : utf8Bytes s = s.toList.flatMap utf8EncodeChar := by
  rw [utf8Bytes, String.toUTF8_eq_toByteArray, ← String.utf8Encode_toList, List.utf8Encode,
    List.toList_data_toByteArray]

theorem utf8ByteSize_eq_length (s : String) : s.utf8ByteSize = (utf8Bytes s).length := by
  rw [String.utf8ByteSize, utf8Bytes, String.toUTF8_eq_toByteArray, ByteArray.size,
    Array.length_toList]

theorem append_lt_append_left {p A B : List UInt8} (h : A < B) : p ++ A < p ++ B := by
  induction p with
  | nil => exact h
  | cons x p ih => exact List.Lex.cons ih

/-- Encoding keeps the order of texts: code point by code point is byte by byte. -/
theorem flatMap_utf8EncodeChar_lt {l l' : List Char} (h : l < l') :
    l.flatMap utf8EncodeChar < l'.flatMap utf8EncodeChar := by
  induction h with
  | nil =>
    rename_i d ds
    obtain ⟨x, r, hx⟩ := List.exists_cons_of_ne_nil (utf8EncodeChar_ne_nil (c := d))
    rw [List.flatMap_cons, hx]
    exact List.Lex.nil
  | cons _ ih =>
    rw [List.flatMap_cons, List.flatMap_cons]
    exact append_lt_append_left ih
  | rel hcd =>
    rw [List.flatMap_cons, List.flatMap_cons]
    exact utf8EncodeChar_append_lt hcd _ _

theorem lt_iff_utf8Bytes_lt {a b : String} : a < b ↔ utf8Bytes a < utf8Bytes b := by
  rw [utf8Bytes_eq, utf8Bytes_eq, String.lt_iff]
  refine ⟨flatMap_utf8EncodeChar_lt, fun h => ?_⟩
  rcases lt_trichotomy a.toList b.toList with hlt | heq | hgt
  · exact hlt
  · rw [heq] at h
    exact absurd h (List.lt_irrefl _)
  · exact absurd h (List.lt_asymm (flatMap_utf8EncodeChar_lt hgt))

end Fanout.Text

namespace Fanout

/-- The texts that the placeholder pattern `@(?:TASK|ARG(?:_(\d+))?)@` matches, `\d` being a
decimal digit of any script. -/
inductive IsPlaceholder : List Char → Prop
  | task : IsPlaceholder "@TASK@".toList
  | arg : IsPlaceholder "@ARG@".toList
  | index (ds : List Char) : ds ≠ [] → (∀ c ∈ ds, Text.isDecimalDigit c = true) →
      IsPlaceholder ("@ARG_".toList ++ ds ++ ['@'])

/-- `Matches s ms`: scanning `s` for the placeholder pattern from the left, taking each match
and going on after it, and going on at the next character where no match starts, finds `ms`. -/
inductive Matches : List Char → List (List Char) → Prop
  | nil : Matches [] []
  | take {s m r l} : IsPlaceholder m → m ++ r = s → Matches r l → Matches s (m :: l)
  | skip {c r l} : (∀ m, IsPlaceholder m → ¬ m <+: c :: r) → Matches r l → Matches (c :: r) l

theorem IsPlaceholder.ne_nil {m : List Char} (h : IsPlaceholder m) : m ≠ [] := by
  cases h <;> simp

/-- A run of digits ends where the `@` after it starts. -/
theorem digits_before_at {ds : List Char} (hd : ∀ c ∈ ds, Text.isDecimalDigit c = true)
    (r : List Char) :
    (ds ++ '@' :: r).takeWhile Text.isDecimalDigit = ds ∧
      (ds ++ '@' :: r).dropWhile Text.isDecimalDigit = '@' :: r := by
  induction ds with
  | nil => simp [show Text.isDecimalDigit '@' = false by decide]
  | cons c ds ih =>
    obtain ⟨h1, h2⟩ := ih fun x hx => hd x (by simp [hx])
    have hc := hd c (by simp)
    simp [hc, h1, h2]

/-- Two matches that start at one place are the same: no text of the pattern begins another. -/
theorem IsPlaceholder.eq_of_append_eq {m m' r r' : List Char} (h : IsPlaceholder m)
    (h' : IsPlaceholder m') (he : m ++ r = m' ++ r') : m = m' := by
  cases h with
  | task => cases h' <;> simp_all
  | arg => cases h' <;> simp_all
  | index ds hne hd =>
    cases h' with
    | task | arg => simp at he
    | index ds' hne' hd' =>
      simp only [List.append_assoc, List.cons_append, List.nil_append, List.append_cancel_left_eq]
        at he ⊢
      rw [← (digits_before_at hd r).1, ← (digits_before_at hd' r').1, he]

/-- The scanning finds one list of matches: where a match starts, it is the only one. -/
theorem Matches.unique {s : List Char} {ms ms' : List (List Char)} (h : Matches s ms)
    (h' : Matches s ms') : ms = ms' := by
  induction h generalizing ms' with
  | nil =>
    cases h' with
    | nil => rfl
    | take hm he _ => simp [hm.ne_nil] at he
  | @take s m rest ms hm he hrest ih =>
    cases h' with
    | nil => simp [hm.ne_nil] at he
    | @take _ m' rest' ms' hm' he' hrest' =>
      -- both matches start at the front: they are one match, and the scans go on alike
      have hmm : m = m' := hm.eq_of_append_eq hm' (he.trans he'.symm)
      subst hmm
      rw [← he', List.append_cancel_left_eq] at he
      subst he
      rw [ih hrest']
    | skip hno _ => exact absurd ⟨_, he⟩ (hno _ hm)
  | skip hno hrest ih =>
    cases h' with
    | take hm' he' _ => exact absurd ⟨_, he'⟩ (hno _ hm')
    | skip _ hrest' => exact ih hrest'

/-- A placeholder's text with the slot the scanner gives it. -/
inductive Classified : String → Slot → Prop
  | task : Classified "@TASK@" .task
  | arg : Classified "@ARG@" (.arg 0)
  | index (ds : List Char) : Classified ("@ARG_" ++ String.ofList ds ++ "@") (indexSlot ds)

/-- A piece's placeholder with its slot, if it is one. -/
def Piece.hole? : Piece → Option (String × Slot)
  | .hole text slot => some (text, slot)
  | .char _ => none

theorem holes_eq (t : Template) : t.holes = (scanPieces t.text.toList).filterMap Piece.hole? := rfl

/-- No placeholder starts a text whose first five characters are `@ARG_` unless digits and an
`@` follow them. -/
theorem not_prefix_of_arg_underscore {rest : List Char}
    (h : ∀ ds after, ds ≠ [] → (∀ c ∈ ds, Text.isDecimalDigit c = true) → rest ≠ ds ++ '@' :: after) :
    ∀ m, IsPlaceholder m → ¬ m <+: '@' :: 'A' :: 'R' :: 'G' :: '_' :: rest := by
  rintro m hm ⟨u, hu⟩
  cases hm with
  | task => simp at hu
  | arg => simp at hu
  | index ds hne hd =>
    simp at hu
    exact h _ _ hne hd hu.symm

/-- The scanner finds the matches of the pattern, and gives each the slot its text names. -/
theorem scanPieces_matches (cs : List Char) :
    Matches cs (((scanPieces cs).filterMap Piece.hole?).map (·.1.toList)) ∧
      ∀ x ∈ (scanPieces cs).filterMap Piece.hole?, Classified x.1 x.2 := by
  fun_induction scanPieces cs
  case case1 => exact ⟨.nil, by simp⟩
  case case2 rest ih =>
    refine ⟨.take .task (by simp) ih.1, ?_⟩
    simp only [List.filterMap_cons, Piece.hole?, List.mem_cons, forall_eq_or_imp]
    exact ⟨.task, ih.2⟩
  case case3 rest ih =>
    refine ⟨.take .arg (by simp) ih.1, ?_⟩
    simp only [List.filterMap_cons, Piece.hole?, List.mem_cons, forall_eq_or_imp]
    exact ⟨.arg, ih.2⟩
  case case4 rest ds after hdrop hempty ih =>
    refine ⟨.skip (not_prefix_of_arg_underscore fun ds' after' hne hd heq => ?_) ih.1, ih.2⟩
    -- the digits after `@ARG_` would be the scanned ones, which are none
    have hds := (digits_before_at hd after').1
    rw [← heq] at hds
    simp_all [ds]
  case case5 rest ds after hdrop hempty ih =>
    have hds : ds ≠ [] := by simpa using hempty
    have hdig : ∀ c ∈ ds, Text.isDecimalDigit c = true := fun c hc => List.mem_takeWhile_imp hc
    have hrest : rest = ds ++ '@' :: after := by rw [← hdrop]; exact (List.takeWhile_append_dropWhile).symm
    refine ⟨.take (m := ("@ARG_" ++ String.ofList ds ++ "@").toList) (by simpa using IsPlaceholder.index ds hds hdig)
      (by simp [hrest]) ih.1, ?_⟩
    simp only [List.filterMap_cons, Piece.hole?, List.mem_cons, forall_eq_or_imp]
    exact ⟨.index ds, ih.2⟩
  case case6 rest hnone ih =>
    refine ⟨.skip (not_prefix_of_arg_underscore fun ds' after' hne hd heq => ?_) ih.1, ih.2⟩
    have := (digits_before_at hd after').2
    rw [← heq] at this
    exact hnone _ this
  case case7 c rest htask harg hindex ih =>
    refine ⟨.skip ?_ ih.1, ih.2⟩
    rintro m hm ⟨u, hu⟩
    cases hm with
    | task => simp at hu; exact htask _ hu.1.symm hu.2.symm
    | arg => simp at hu; exact harg _ hu.1.symm hu.2.symm
    | index ds hne hd => simp at hu; exact hindex _ hu.1.symm hu.2.symm

/-! ## Which placeholders a job leaves without a value -/

/-- The value of a numeral in ASCII digits. -/
def numeral (ds : List Char) : Nat := Nat.ofDigits 10 (ds.reverse.map fun c => c.toNat - 48)

/-- Reading the digits from the left, each time ten times the value so far plus the digit, gives
the numeral's value. -/
theorem foldl_digits (ds : List Char) :
    ds.foldl (fun n c => 10 * n + (c.toNat - 48)) 0 = numeral ds := by
  induction ds using List.reverseRecOn with
  | nil => rfl
  | append_singleton ds c ih =>
    rw [List.foldl_append, ih]
    simp [numeral, Nat.ofDigits_cons]
    ring

theorem asciiValue?_eq (ds : List Char) :
    asciiValue? ds = if ds.all Char.isDigit then some (numeral ds) else none := by
  rw [asciiValue?, foldl_digits]

/-- A placeholder text that leaves a job with `a` arguments without a value: any but `@TASK@`
that is `@ARG@` when there is no argument, or `@ARG_s@` whose index is not all ASCII digits,
is zero, is beyond the word range, or exceeds `a`. -/
def Unfillable (a : Nat) (m : List Char) : Prop :=
  m ≠ "@TASK@".toList ∧
    ((m = "@ARG@".toList ∧ a = 0) ∨
      ∃ s, m = "@ARG_".toList ++ s ++ ['@'] ∧
        ((∃ c ∈ s, c.isDigit = false) ∨ numeral s = 0 ∨ wordMax < numeral s ∨ a < numeral s))

/-- Whether a slot has no value among `a` arguments. -/
def Slot.unfilled (a : Nat) : Slot → Bool
  | .task => false
  | .arg i => a ≤ i
  | .invalid => true

theorem unmatched_eq_filter (t : Template) (job : Job) :
    t.unmatched job =
      sortUnmatched ((t.holes.filter fun x => x.2.unfilled job.args.length).map (·.1)) := rfl

/-- A placeholder is left without a value exactly when its text is unfillable. -/
theorem Classified.unfilled_iff {text : String} {slot : Slot} (h : Classified text slot) (a : Nat) :
    slot.unfilled a = true ↔ Unfillable a text.toList := by
  cases h with
  | task => simp [Slot.unfilled, Unfillable]
  | arg => simp [Slot.unfilled, Unfillable]
  | index ds =>
    have htext : ("@ARG_" ++ String.ofList ds ++ "@").toList = "@ARG_".toList ++ ds ++ ['@'] := by
      simp
    have hiff : Unfillable a ("@ARG_".toList ++ ds ++ ['@']) ↔
        (∃ c ∈ ds, c.isDigit = false) ∨ numeral ds = 0 ∨ wordMax < numeral ds ∨ a < numeral ds := by
      simp [Unfillable]
    rw [htext, hiff, indexSlot, asciiValue?_eq]
    by_cases hall : ∀ c ∈ ds, c.isDigit = true
    · have hno : ¬ ∃ c ∈ ds, c.isDigit = false := fun ⟨c, hc, hf⟩ => by simp [hall c hc] at hf
      have h64 : Nat.pow 2 64 = wordMax + 1 := rfl
      rw [if_pos (List.all_eq_true.2 hall)]
      dsimp only
      split <;> simp [Slot.unfilled, hno] <;> omega
    · have hsome : ∃ c ∈ ds, c.isDigit = false := by simpa using hall
      rw [if_neg (mt List.all_eq_true.1 hall)]
      simp [Slot.unfilled, hsome]

/-! ## The order of the list -/

/-- The order in which unmatched placeholders are listed: fewer bytes first, and of texts with
as many bytes, the one whose bytes come first. -/
def ListedBefore (a b : String) : Prop :=
  (Text.utf8Bytes a).length < (Text.utf8Bytes b).length ∨
    ((Text.utf8Bytes a).length = (Text.utf8Bytes b).length ∧ Text.utf8Bytes a < Text.utf8Bytes b)

/-- The comparison the unmatched placeholders are sorted by. -/
def placeholderLe (a b : String) : Bool :=
  a.utf8ByteSize < b.utf8ByteSize || (a.utf8ByteSize == b.utf8ByteSize && decide (a ≤ b))

theorem sortUnmatched_eq (names : List String) :
    sortUnmatched names = (names.mergeSort placeholderLe).eraseDups := rfl

theorem placeholderLe_trans (a b c : String) (hab : placeholderLe a b = true)
    (hbc : placeholderLe b c = true) : placeholderLe a c = true := by
  simp only [placeholderLe, Bool.or_eq_true, decide_eq_true_eq, Bool.and_eq_true, beq_iff_eq]
    at hab hbc ⊢
  rcases hab with hab | ⟨hab, hab'⟩ <;> rcases hbc with hbc | ⟨hbc, hbc'⟩
  · exact .inl (by omega)
  · exact .inl (by omega)
  · exact .inl (by omega)
  · exact .inr ⟨hab.trans hbc, le_trans hab' hbc'⟩

theorem placeholderLe_total (a b : String) : (placeholderLe a b || placeholderLe b a) = true := by
  simp only [placeholderLe, Bool.or_eq_true, decide_eq_true_eq, Bool.and_eq_true, beq_iff_eq]
  rcases Nat.lt_trichotomy a.utf8ByteSize b.utf8ByteSize with h | h | h
  · exact .inl (.inl h)
  · rcases le_total a b with hab | hba
    · exact .inl (.inr ⟨h, hab⟩)
    · exact .inr (.inr ⟨h.symm, hba⟩)
  · exact .inr (.inl h)

/-- Of two different texts in sorted order, the first is listed before the second. -/
theorem listedBefore_of_le {a b : String} (h : placeholderLe a b = true) (hne : a ≠ b) :
    ListedBefore a b := by
  simp only [placeholderLe, Bool.or_eq_true, decide_eq_true_eq, Bool.and_eq_true, beq_iff_eq,
    Text.utf8ByteSize_eq_length] at h
  rcases h with h | ⟨h, hab⟩
  · exact .inl h
  · exact .inr ⟨h, Text.lt_iff_utf8Bytes_lt.1 (lt_of_le_of_ne hab hne)⟩

theorem eraseDups_sublist_nodup (l : List String) : l.eraseDups.Sublist l ∧ l.eraseDups.Nodup := by
  induction h : l.length using Nat.strongRecOn generalizing l with
  | _ n ih =>
    cases l with
    | nil => simp
    | cons a as =>
      have hlen : (as.filter fun b => !b == a).length < n := by
        have := List.length_filter_le (fun b => !b == a) as
        simp at h
        omega
      obtain ⟨hsub, hnd⟩ := ih _ hlen _ rfl
      rw [List.eraseDups_cons]
      refine ⟨(hsub.trans List.filter_sublist).cons_cons a, List.nodup_cons.2 ⟨fun ha => ?_, hnd⟩⟩
      simpa using List.mem_eraseDups.1 ha

/-- The listed placeholders are those given, each once, each listed before the next. -/
theorem sortUnmatched_spec (names : List String) :
    (∀ m, m ∈ sortUnmatched names ↔ m ∈ names) ∧ (sortUnmatched names).Pairwise ListedBefore := by
  rw [sortUnmatched_eq]
  obtain ⟨hsub, hnd⟩ := eraseDups_sublist_nodup (names.mergeSort placeholderLe)
  refine ⟨fun m => by rw [List.mem_eraseDups, (List.mergeSort_perm names _).mem_iff], ?_⟩
  have hsorted := (List.pairwise_mergeSort placeholderLe_trans placeholderLe_total names).sublist hsub
  exact (hsorted.and hnd).imp fun ⟨hle, hne⟩ => listedBefore_of_le hle hne

/-! ## The list a check reports -/

/-- The check's verdict on a job, read off the list of placeholders it leaves without a value. -/
theorem check_eq_ite (t : Template) (job : Job) :
    t.check job =
      if t.unmatched job = [] then .ok () else .error (.unmatchedPlaceholders (t.unmatched job)) := by
  unfold Template.check
  split <;> simp_all

/-- **The unmatched placeholders.** Let `ms` be the matches of the placeholder pattern in a
template, found from the left without overlap. The check refuses a job exactly when one of them
is unfillable for the job's number of arguments, and then lists every unfillable match once,
each before the next by length and then by bytes; so the list depends only on the template and
the number of arguments. -/
theorem check_lists_unfillable_matches (t : Template) (job : Job) {ms : List (List Char)}
    (hms : Matches t.text.toList ms) :
    ∃ L : List String,
      (∀ m : String, m ∈ L ↔ m.toList ∈ ms ∧ Unfillable job.args.length m.toList) ∧
      L.Pairwise ListedBefore ∧
      t.check job = (if L = [] then .ok () else .error (.unmatchedPlaceholders L)) ∧
      ∀ job' : Job, job'.args.length = job.args.length → t.check job' = t.check job := by
  obtain ⟨hscan, hclass⟩ := scanPieces_matches t.text.toList
  rw [← holes_eq] at hscan hclass
  -- the matches are the scanner's placeholders
  obtain rfl : ms = t.holes.map (·.1.toList) := hms.unique hscan
  obtain ⟨hmem, hsorted⟩ :=
    sortUnmatched_spec ((t.holes.filter fun x => x.2.unfilled job.args.length).map (·.1))
  refine ⟨t.unmatched job, fun m => ?_, hsorted, check_eq_ite t job, fun job' hlen => ?_⟩
  · rw [unmatched_eq_filter, hmem]
    simp only [List.mem_map, List.mem_filter, String.toList_inj]
    constructor
    · rintro ⟨x, ⟨hx, hun⟩, rfl⟩
      exact ⟨⟨x, hx, rfl⟩, ((hclass x hx).unfilled_iff _).1 hun⟩
    · rintro ⟨⟨x, hx, rfl⟩, hun⟩
      exact ⟨x, ⟨hx, ((hclass x hx).unfilled_iff _).2 hun⟩, rfl⟩
  · rw [check_eq_ite, check_eq_ite, unmatched_eq_filter, unmatched_eq_filter, hlen]

/-- The check of a template whose placeholders follow one another: an index within the
arguments, one beyond them, a zero index, an index in Arabic-Indic digits, and the task. -/
theorem check_lists_unfillable_matches_mixed :
    let t : Template := { text := "@ARG_1@@ARG_5@@ARG_0@@ARG_١@@TASK@" }
    let job := Job.ofArgs "t" ["a", "b"]
    let ms := ["@ARG_1@".toList, "@ARG_5@".toList, "@ARG_0@".toList, "@ARG_١@".toList,
      "@TASK@".toList]
    Matches t.text.toList ms ∧
      ∃ L : List String,
        (∀ m : String, m ∈ L ↔ m.toList ∈ ms ∧ Unfillable job.args.length m.toList) ∧
        L.Pairwise ListedBefore ∧
        t.check job = (if L = [] then .ok () else .error (.unmatchedPlaceholders L)) ∧
        ∀ job' : Job, job'.args.length = job.args.length → t.check job' = t.check job := by
  intro t job ms
  have hms : Matches t.text.toList ms :=
    .take (r := "@ARG_5@@ARG_0@@ARG_١@@TASK@".toList) (.index ['1'] (by simp) (by simp; decide))
      (by simp [t]) <|
    .take (r := "@ARG_0@@ARG_١@@TASK@".toList) (.index ['5'] (by simp) (by simp; decide)) (by simp) <|
    .take (r := "@ARG_١@@TASK@".toList) (.index ['0'] (by simp) (by simp; decide)) (by simp) <|
    .take (r := "@TASK@".toList) (.index ['١'] (by simp) (by simp; decide)) (by simp) <|
    .take (r := []) .task (by simp) .nil
  exact ⟨hms, check_lists_unfillable_matches t job hms⟩

end Fanout
