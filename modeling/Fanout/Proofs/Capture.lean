import Fanout.Process.Runner
import Fanout.Proofs.Supervision

/-!
# The tail a buffer keeps

A `TailBuffer` sees a stream only chunk by chunk and keeps a bounded part of it. Its invariant
`TailBuffer.Holds` says what that part is: bytes that end the stream, at least `keep` of them
unless the stream is shorter, and at most twice `keep`. Every push keeps it as long as twice
`keep` is a word (`TailBuffer.Holds.push`), and since the last `4 * n + 3` bytes of a stream
decide its last `n` characters (`tailText_eq_lastChars`), the buffer gives exactly those
(`TailBuffer.foldlM_push_new`). That holds below `2^61` characters; from there on twice `keep`
leaves the word range and a push of any chunk shorter than `keep` stops the buffer.

For the supervisor this means: below `2^61` characters each record carries the text its
buffers give (`supervise_streams_captured`), and an execution breaks down on its capture only
from `2^61` characters on (`executeJob_fault`).
-/

namespace Fanout

/-! ## Checked products and tails of a stream -/

theorem wordMax_eq : wordMax = 18446744073709551615 := rfl

theorem mulCounts_ok {a b : Nat} (h : a * b ≤ wordMax) : mulCounts a b = .ok (a * b) := by
  simp [mulCounts, h]

theorem mulCounts_error {a b : Nat} (h : wordMax < a * b) :
    mulCounts a b = .error Abort.mulOverflow := by
  simp [mulCounts, Nat.not_le.mpr h]

/-- The last `n` characters of a stream are those of any tail of it that has at least
`4 * n + 3` bytes, or all of them. -/
theorem lastChars_decodeLossy_of_suffix (n : Nat) {s whole : List UInt8} (hs : s <:+ whole)
    (hlen : min (4 * n + 3) whole.length ≤ s.length) :
    Text.lastChars n (Text.decodeLossy s) = Text.lastChars n (Text.decodeLossy whole) := by
  rw [← tailText_eq_lastChars, ← tailText_eq_lastChars]
  unfold tailText
  split
  · rfl
  · -- both keep the last `4 * n + 3` bytes of the stream
    obtain ⟨p, rfl⟩ := hs
    have hdrop : s.drop (s.length - (4 * n + 3)) =
        (p ++ s).drop ((p ++ s).length - (4 * n + 3)) := by
      rw [List.length_append] at hlen ⊢
      have hp : p.drop (p.length + s.length - (4 * n + 3)) = [] := List.drop_eq_nil_of_le (by omega)
      rw [List.drop_append, hp, List.nil_append]
      congr 1
      omega
    dsimp only
    rw [hdrop]

namespace TailBuffer

/-! ## How many bytes a buffer keeps -/

/-- Below `2^61` characters nothing saturates: the buffer keeps `4 * maxChars + 3` bytes. -/
theorem keepFor_of_lt {n : Nat} (h0 : n ≠ 0) (h : n < 2 ^ 61) : keepFor n = 4 * n + 3 := by
  simp only [keepFor, satWord, if_neg h0, wordMax_eq]
  omega

theorem keepFor_zero : keepFor 0 = 0 := rfl

theorem two_mul_keepFor_le {n : Nat} (h : n < 2 ^ 61) : 2 * keepFor n ≤ wordMax := by
  by_cases h0 : n = 0
  · simp [h0, keepFor_zero]
  · rw [keepFor_of_lt h0 h, wordMax_eq]
    omega

/-- From `2^61` characters on, twice the bytes kept leaves the word range. -/
theorem wordMax_lt_two_mul_keepFor {n : Nat} (h : 2 ^ 61 ≤ n) : wordMax < 2 * keepFor n := by
  have h0 : n ≠ 0 := by omega
  simp only [keepFor, satWord, if_neg h0, wordMax_eq]
  omega

/-! ## One push -/

/-- A buffer holds the tail of `stream`: its bytes end the stream, there are at least `keep` of
them unless the stream is shorter, and at most twice `keep`. -/
def Holds (b : TailBuffer) (stream : List UInt8) : Prop :=
  b.bytes <:+ stream ∧ min b.keep stream.length ≤ b.bytes.length ∧ b.bytes.length ≤ 2 * b.keep

theorem holds_new (n : Nat) : (new n).Holds [] := by
  simp [Holds, new]

theorem push_of_keep_eq_zero {b : TailBuffer} (h0 : b.keep = 0) (c : List UInt8) :
    b.push c = .ok b := if_pos h0

/-- A chunk of `keep` bytes or more leaves only its own last `keep`. -/
theorem push_of_le {b : TailBuffer} {c : List UInt8} (h0 : b.keep ≠ 0) (h : b.keep ≤ c.length) :
    b.push c = .ok { b with bytes := c.drop (c.length - b.keep) } := by
  rw [push, if_neg h0, if_pos h]

/-- A shorter chunk is appended, and the excess over `keep` is dropped once the bytes pass twice
`keep`; the bound is computed in the word range. -/
theorem push_of_lt {b : TailBuffer} {c : List UInt8} (h0 : b.keep ≠ 0) (h : c.length < b.keep) :
    b.push c = (mulCounts b.keep 2).bind fun limit =>
      if limit < (b.bytes ++ c).length then
        .ok { b with bytes := (b.bytes ++ c).drop ((b.bytes ++ c).length - b.keep) }
      else .ok { b with bytes := b.bytes ++ c } := by
  rw [push, if_neg h0, if_neg (Nat.not_le.mpr h)]
  rfl

/-- A push stops only on the product that bounds the bytes. -/
theorem push_error {b : TailBuffer} {c : List UInt8} {a : Abort} (h : b.push c = .error a) :
    a = Abort.mulOverflow := by
  by_cases h0 : b.keep = 0
  · rw [push_of_keep_eq_zero h0] at h
    cases h
  by_cases hlong : b.keep ≤ c.length
  · rw [push_of_le h0 hlong] at h
    cases h
  rw [push_of_lt h0 (Nat.lt_of_not_le hlong)] at h
  by_cases hk : b.keep * 2 ≤ wordMax
  · rw [mulCounts_ok hk] at h
    dsimp only [Except.bind] at h
    split at h <;> cases h
  · rw [mulCounts_error (Nat.lt_of_not_le hk)] at h
    cases h
    rfl

/-- One push keeps the tail of the stream with the chunk after it, as long as twice `keep` is a
word. -/
theorem Holds.push {b : TailBuffer} {stream : List UInt8} (h : b.Holds stream)
    (hk : 2 * b.keep ≤ wordMax) (c : List UInt8) :
    ∃ b', b.push c = .ok b' ∧ b'.keep = b.keep ∧ b'.maxChars = b.maxChars ∧
      b'.Holds (stream ++ c) := by
  obtain ⟨hsuf, hlo, hhi⟩ := h
  by_cases h0 : b.keep = 0
  · -- a buffer that keeps nothing holds nothing
    have hnil : b.bytes = [] := List.eq_nil_of_length_eq_zero (by omega)
    exact ⟨b, push_of_keep_eq_zero h0 c, rfl, rfl, by simp [hnil], by simp [h0, hnil], by simp [hnil]⟩
  by_cases hlong : b.keep ≤ c.length
  · refine ⟨_, push_of_le h0 hlong, rfl, rfl, ?_, ?_, ?_⟩
    · exact (List.drop_suffix _ _).trans (List.suffix_append _ _)
    · simp only [List.length_drop, List.length_append]
      omega
    · simp only [List.length_drop]
      omega
  · rw [push_of_lt h0 (Nat.lt_of_not_le hlong), mulCounts_ok (by omega)]
    have hsuf' : b.bytes ++ c <:+ stream ++ c := by
      obtain ⟨t, ht⟩ := hsuf
      exact ⟨t, by rw [← ht, List.append_assoc]⟩
    by_cases hover : b.keep * 2 < (b.bytes ++ c).length
    · refine ⟨_, if_pos hover, rfl, rfl, (List.drop_suffix _ _).trans hsuf', ?_, ?_⟩
      · simp only [List.length_drop, List.length_append] at hover ⊢
        omega
      · simp only [List.length_drop]
        omega
    · refine ⟨_, if_neg hover, rfl, rfl, hsuf', ?_, ?_⟩
      · simp only [List.length_append]
        omega
      · dsimp only
        omega

/-! ## A run of pushes -/

/-- Pushing chunks one after another keeps the tail of the stream with all of them after it, as
long as twice `keep` is a word. -/
theorem Holds.foldlM {b : TailBuffer} {stream : List UInt8} (h : b.Holds stream)
    (hk : 2 * b.keep ≤ wordMax) (cs : List (List UInt8)) :
    ∃ b', cs.foldlM TailBuffer.push b = .ok b' ∧ b'.keep = b.keep ∧ b'.maxChars = b.maxChars ∧
      b'.Holds (stream ++ cs.flatten) := by
  induction cs generalizing b stream with
  | nil => exact ⟨b, rfl, rfl, rfl, by simpa using h⟩
  | cons c cs ih =>
    obtain ⟨b1, h1, hk1, hm1, hold1⟩ := h.push hk c
    obtain ⟨b2, h2, hk2, hm2, hold2⟩ := ih hold1 (hk1 ▸ hk)
    refine ⟨b2, ?_, hk2.trans hk1, hm2.trans hm1, by simpa using hold2⟩
    rw [List.foldlM_cons, h1]
    exact h2

theorem foldlM_push_error {b : TailBuffer} {cs : List (List UInt8)} {a : Abort}
    (h : cs.foldlM TailBuffer.push b = .error a) : a = Abort.mulOverflow := by
  induction cs generalizing b with
  | nil => cases h
  | cons c cs ih =>
    rw [List.foldlM_cons] at h
    cases hp : b.push c with
    | error e =>
      rw [hp] at h
      cases h
      exact push_error hp
    | ok b1 =>
      rw [hp] at h
      exact ih h

/-- A buffer whose bound leaves the word range stops at the first chunk shorter than `keep`,
and only there: chunks of `keep` bytes or more go through. -/
theorem foldlM_push_eq_error_iff {b : TailBuffer} (h0 : b.keep ≠ 0) (hk : wordMax < 2 * b.keep)
    (cs : List (List UInt8)) :
    cs.foldlM TailBuffer.push b = .error Abort.mulOverflow ↔ ∃ c ∈ cs, c.length < b.keep := by
  induction cs generalizing b with
  | nil => simp [List.foldlM_nil, pure, Except.pure]
  | cons c cs ih =>
    rw [List.foldlM_cons]
    by_cases hlong : b.keep ≤ c.length
    · -- a long chunk replaces the bytes and keeps `keep`; the rest decides
      rw [push_of_le h0 hlong]
      simp only [bind, Except.bind]
      refine (ih (b := { b with bytes := c.drop (c.length - b.keep) }) h0 hk).trans ?_
      constructor
      · rintro ⟨x, hx, hlt⟩
        exact ⟨x, List.mem_cons_of_mem _ hx, hlt⟩
      · rintro ⟨x, hx, hlt⟩
        rcases List.mem_cons.1 hx with rfl | hx
        · omega
        · exact ⟨x, hx, hlt⟩
    · rw [push_of_lt h0 (Nat.lt_of_not_le hlong), mulCounts_error (by omega)]
      exact ⟨fun _ => ⟨c, List.mem_cons_self, Nat.lt_of_not_le hlong⟩, fun _ => rfl⟩

/-! ## What the buffer gives -/

theorem intoString_eq (b : TailBuffer) :
    b.intoString = Text.lastChars b.maxChars (Text.decodeLossy b.bytes) := by
  unfold intoString Text.lastChars
  dsimp only
  split
  · next h =>
    rw [String.length_toList, Nat.sub_eq_zero_of_le h, List.drop_zero, String.ofList_toList]
  · rw [String.length_toList]


theorem keepFor_le (n : Nat) : keepFor n ≤ 4 * n + 3 := by
  unfold keepFor satWord
  split <;> omega

/-- Below `2^61` characters, pushing chunks into a new buffer never stops, never holds more
than `2 * (4 * n + 3)` bytes, and gives the last `n` characters of the whole stream. -/
theorem foldlM_push_new {n : Nat} (h : n < 2 ^ 61) (cs : List (List UInt8)) :
    ∃ b, cs.foldlM TailBuffer.push (new n) = .ok b ∧ b.bytes.length ≤ 2 * (4 * n + 3) ∧
      b.intoString = Text.lastChars n (Text.decodeLossy cs.flatten) := by
  obtain ⟨b, hrun, hkeep, hmax, hsuf, hlo, hhi⟩ := (holds_new n).foldlM (two_mul_keepFor_le h) cs
  have hle := keepFor_le n
  refine ⟨b, hrun, by simp only [new] at hkeep; omega, ?_⟩
  rw [intoString_eq, hmax]
  by_cases h0 : n = 0
  · subst h0
    simp [new, Text.lastChars]
  · -- the buffer holds at least the last `4 * n + 3` bytes of the stream
    simp only [new, keepFor_of_lt h0 h, List.nil_append] at hkeep hsuf hlo ⊢
    rw [hkeep] at hlo
    exact lastChars_decodeLossy_of_suffix n hsuf hlo

end TailBuffer


/-- **Tail capture.** Below `2^61` characters, pushing any chunks in order into a new buffer
never stops, never holds more than `2 * (4 * n + 3)` bytes, and gives the last `n` characters of
the whole stream read as UTF-8 with replacement. From `2^61` characters on, twice the bytes
kept leaves the word range, and the pushes stop exactly when a chunk is shorter than the bytes
kept. -/
theorem tail_capture_exact (n : Nat) (cs : List (List UInt8)) :
    (n < 2 ^ 61 → ∃ b, cs.foldlM TailBuffer.push (TailBuffer.new n) = .ok b ∧
        b.bytes.length ≤ 2 * (4 * n + 3) ∧
        b.intoString = Text.lastChars n (Text.decodeLossy cs.flatten)) ∧
    (2 ^ 61 ≤ n → (cs.foldlM TailBuffer.push (TailBuffer.new n) = .error Abort.mulOverflow ↔
        ∃ c ∈ cs, c.length < TailBuffer.keepFor n)) := by
  refine ⟨fun h => TailBuffer.foldlM_push_new h cs, fun h => ?_⟩
  have hk := TailBuffer.wordMax_lt_two_mul_keepFor h
  exact TailBuffer.foldlM_push_eq_error_iff (by simp only [TailBuffer.new]; omega) hk cs

/-- A euro sign cut between two chunks is read whole, and a capture of `2^61` characters stops
at its first chunk. -/
theorem tail_capture_exact_cut_euro :
    (∃ b, [[0x41, 0xe2, 0x82], [0xac, 0x42]].foldlM TailBuffer.push (TailBuffer.new 2) = .ok b ∧
        b.bytes.length ≤ 2 * (4 * 2 + 3) ∧
        b.intoString = Text.lastChars 2 (Text.decodeLossy [[0x41, 0xe2, 0x82], [0xac, 0x42]].flatten)) ∧
    (([[0x68, 0x69]] : List (List UInt8)).foldlM TailBuffer.push (TailBuffer.new (2 ^ 61)) =
        .error Abort.mulOverflow ↔
      ∃ c ∈ ([[0x68, 0x69]] : List (List UInt8)), c.length < TailBuffer.keepFor (2 ^ 61)) :=
  ⟨(tail_capture_exact 2 _).1 (by decide), (tail_capture_exact (2 ^ 61) _).2 (Nat.le_refl _)⟩

/-- A capture of `2^61` characters stops at the first chunk pushed into it. -/
theorem huge_capture_stops_at_first_chunk :
    (TailBuffer.new (2 ^ 61)).push [0x68, 0x65, 0x6c, 0x6c, 0x6f, 0x0a] = .error Abort.mulOverflow := by
  rw [TailBuffer.push_of_lt (by decide) (by decide), mulCounts_error (by decide)]
  rfl

/-! ## The supervisor's streams -/

theorem pushedChunks_flatten (rs : List Read) : (pushedChunks rs).flatten = received rs := by
  fun_induction pushedChunks rs <;> simp_all [received]

/-- Below `2^61` characters a stream's capture gives the last characters of everything its reader
got. -/
theorem capture_eq {n : Nat} (h : n < 2 ^ 61) (rs : List Read) :
    capture n rs = .ok (Text.lastChars n (Text.decodeLossy (received rs))) := by
  obtain ⟨b, hrun, -, hstr⟩ := TailBuffer.foldlM_push_new h (pushedChunks rs)
  rw [capture, hrun, ← pushedChunks_flatten, ← hstr]
  rfl

theorem captureFault_eq_none {n : Nat} (h : n < 2 ^ 61) (t : List (List Ready)) :
    captureFault n t = none := by
  simp [captureFault, capture_eq h]

theorem capture_error {n : Nat} {rs : List Read} {a : Abort} (h : capture n rs = .error a) :
    a = Abort.mulOverflow := by
  unfold capture at h
  cases hrun : (pushedChunks rs).foldlM TailBuffer.push (TailBuffer.new n) with
  | error e =>
    rw [hrun] at h
    cases h
    exact TailBuffer.foldlM_push_error hrun
  | ok b =>
    rw [hrun] at h
    cases h

/-- Capturing a child's streams stops only from `2^61` characters on, and on the product that
bounds the bytes. -/
theorem captureFault_some {n : Nat} {t : List (List Ready)} {a : Abort}
    (h : captureFault n t = some a) : a = Abort.mulOverflow ∧ 2 ^ 61 ≤ n := by
  refine ⟨?_, Nat.le_of_not_lt fun hn => by rw [captureFault_eq_none hn] at h; cases h⟩
  unfold captureFault at h
  dsimp only at h
  split at h <;> cases h <;> exact capture_error (by assumption)

/-- The process runner's execution of a job breaks down only when it captures `2^61`
characters or more of each stream, and then on the product that bounds the bytes. -/
theorem executeJob_fault {π : Type} {t : Template} {cfg : Config} {m : Machine π} {d : Dispatch}
    {cancelledFirst cancelledLate : Bool} {stops : StopTimes} {a : Abort}
    (h : (executeJob t cfg m d cancelledFirst cancelledLate stops).fault = some a) :
    a = Abort.mulOverflow ∧ 2 ^ 61 ≤ cfg.limits.maxOutputCapture := by
  -- every refusal before the child runs has no fault; after it, the fault is the capture's
  unfold executeJob at h
  repeat' (first | split at h | dsimp only at h)
  all_goals (try cases h)
  all_goals exact captureFault_some (by assumption)

/-- Below `2^61` characters the supervisor's record carries what the buffers give. -/
theorem supervise_streams_captured {keep : Nat} (h : keep < 2 ^ 61) (o : Outcome) (secs : Nat)
    (t : List (List Ready)) :
    capture keep (t.flatten.filterMap Ready.stdoutRead) = .ok (supervise o keep secs t).outcome.stdout ∧
      capture keep (t.flatten.filterMap Ready.stderrRead) =
        .ok (supervise o keep secs t).outcome.stderr := by
  rw [(supervise_streams o keep secs t).1, (supervise_streams o keep secs t).2, capture_eq h,
    capture_eq h]
  exact ⟨rfl, rfl⟩

end Fanout
