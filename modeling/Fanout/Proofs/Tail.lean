import Fanout.Process.Watch

/-!
# Reading the tail of a stream

`decodeLossy` reads one character at a time, from the first byte on, and never looks back. A
reading that starts inside a character finds continuation bytes there, which cannot start one,
and puts one replacement for each; at most three of them stand before the next character's
first byte, and from there it reads as the whole stream does (`decodeLossy_drop_sync`). Every
character takes at most four bytes, so the last `n` characters of a stream are those of its
last `4n + 3` bytes: the supervisor keeps no more (`tailText_eq_lastChars`).
-/

namespace Fanout.Text

theorem leadInfo_spec {b : UInt8} {len : Nat} {lo hi : UInt8}
    (h : leadInfo b = some (len, lo, hi)) : len ≤ 4 ∧ 0x80 ≤ lo ∧ hi ≤ 0xBF := by
  unfold leadInfo at h
  repeat' split at h
  all_goals cases h <;> decide

theorem leadInfo_of_isContinuation {b : UInt8} (h : isContinuation b = true) :
    leadInfo b = none := by
  simp only [isContinuation, Bool.and_eq_true, decide_eq_true_eq, UInt8.le_iff_toNat_le] at h
  simp only [leadInfo, Bool.and_eq_true, Bool.or_eq_true, decide_eq_true_eq, beq_iff_eq,
    UInt8.le_iff_toNat_le, ← UInt8.toNat_inj]
  simp only [UInt8.reduceToNat] at h ⊢
  repeat' rw [if_neg (by omega)]

theorem validTail_le (need : Nat) (lo hi : UInt8) (bs : List UInt8) :
    validTail need lo hi bs ≤ need ∧ validTail need lo hi bs ≤ bs.length := by
  cases bs with
  | nil => simp [validTail]
  | cons x xs =>
    have hw : ((xs.take (need - 1)).takeWhile isContinuation).length ≤ min (need - 1) xs.length :=
      Nat.le_trans (List.takeWhile_sublist _).length_le (by simp)
    simp only [validTail, List.length_cons]
    split
    · omega
    · next h0 =>
      simp only [beq_iff_eq] at h0
      split <;> omega

theorem validTail_continues {need : Nat} {lo hi : UInt8} (hlo : 0x80 ≤ lo) (hhi : hi ≤ 0xBF)
    (bs : List UInt8) : ∀ x ∈ bs.take (validTail need lo hi bs), isContinuation x = true := by
  cases bs with
  | nil => simp
  | cons y ys =>
    simp only [validTail]
    split
    · simp
    · split
      · next hy =>
        simp only [Bool.and_eq_true, decide_eq_true_eq] at hy
        -- the bytes after the second are the continuation bytes that `takeWhile` kept
        have hpre := List.takeWhile_prefix (p := isContinuation) (l := ys.take (need - 1))
        have hm := Nat.le_trans hpre.length_le (List.length_take_le _ _)
        have hkept : ys.take ((ys.take (need - 1)).takeWhile isContinuation).length =
            (ys.take (need - 1)).takeWhile isContinuation := by
          calc _ = (ys.take (need - 1)).take ((ys.take (need - 1)).takeWhile isContinuation).length := by
                rw [List.take_take, Nat.min_eq_left hm]
            _ = _ := (List.prefix_iff_eq_take.1 hpre).symm
        rw [Nat.add_comm, List.take_succ_cons, hkept]
        intro x hx
        rcases List.mem_cons.1 hx with rfl | hx
        · simp only [isContinuation, Bool.and_eq_true, decide_eq_true_eq]
          exact ⟨UInt8.le_trans hlo hy.1, UInt8.le_trans hy.2 hhi⟩
        · exact List.all_eq_true.1 List.all_takeWhile x hx
      · simp

theorem readChar_width (b : UInt8) (rest : List UInt8) :
    (readChar b rest).2 ≤ 3 ∧ (readChar b rest).2 ≤ rest.length := by
  unfold readChar
  split
  · simp
  · split
    · simp
    · next len lo hi hl =>
      obtain ⟨hlen, -, -⟩ := leadInfo_spec hl
      have := validTail_le (len - 1) lo hi rest
      dsimp only
      split <;> (dsimp only; omega)

theorem readChar_continues (b : UInt8) (rest : List UInt8) :
    ∀ x ∈ rest.take (readChar b rest).2, isContinuation x = true := by
  unfold readChar
  split
  · simp
  · split
    · simp
    · next len lo hi hl =>
      obtain ⟨-, hlo, hhi⟩ := leadInfo_spec hl
      dsimp only
      split <;> exact validTail_continues hlo hhi rest

theorem readChar_of_isContinuation {b : UInt8} (h : isContinuation b = true) (rest : List UInt8) :
    readChar b rest = (replacement, 0) := by
  have hb : ¬ b < 0x80 := by
    simp only [isContinuation, Bool.and_eq_true, decide_eq_true_eq, UInt8.le_iff_toNat_le,
      UInt8.reduceToNat] at h
    simp only [UInt8.lt_iff_toNat_lt, UInt8.reduceToNat]
    omega
  simp [readChar, hb, leadInfo_of_isContinuation h]

theorem decodeInto_acc (fuel : Nat) (bs : List UInt8) (acc : List Char) :
    decodeInto fuel bs acc = decodeInto fuel bs [] ++ acc := by
  induction fuel generalizing bs acc with
  | zero => simp [decodeInto]
  | succ f ih =>
    cases bs with
    | nil => simp [decodeInto]
    | cons b rest =>
      rcases h : readChar b rest with ⟨c, k⟩
      simp only [decodeInto, h]
      rw [ih _ (_ :: acc), ih _ [_]]
      simp

theorem decodeInto_fuel {f f' : Nat} {bs : List UInt8} (acc : List Char) (hf : bs.length < f)
    (hf' : bs.length < f') : decodeInto f bs acc = decodeInto f' bs acc := by
  induction f generalizing f' bs acc with
  | zero => omega
  | succ f ih =>
    obtain ⟨g, rfl⟩ : ∃ g, f' = g + 1 := ⟨f' - 1, by omega⟩
    cases bs with
    | nil => simp [decodeInto]
    | cons b rest =>
      rcases h : readChar b rest with ⟨c, k⟩
      simp only [decodeInto, h]
      simp only [List.length_cons] at hf hf'
      exact ih _ (by simp; omega) (by simp; omega)

theorem toList_decodeLossy (bs : List UInt8) :
    (decodeLossy bs).toList = (decodeInto (bs.length + 1) bs []).reverse := by
  simp [decodeLossy]

@[simp] theorem decodeLossy_nil : (decodeLossy []).toList = [] := by
  simp [toList_decodeLossy, decodeInto]

/-- Reading bytes is reading their first character, then the bytes after it. -/
theorem decodeLossy_cons (b : UInt8) (rest : List UInt8) :
    (decodeLossy (b :: rest)).toList =
      (readChar b rest).1 :: (decodeLossy (rest.drop (readChar b rest).2)).toList := by
  have hw := (readChar_width b rest).2
  rcases h : readChar b rest with ⟨c, k⟩
  rw [h] at hw
  rw [toList_decodeLossy, toList_decodeLossy]
  simp only [List.length_cons, decodeInto, h]
  rw [decodeInto_acc, @decodeInto_fuel _ ((rest.drop k).length + 1) _ []
    (by simp only [List.length_drop]; omega) (by simp)]
  simp

/-- Continuation bytes read alone are one replacement each. -/
theorem decodeLossy_continuations {xs : List UInt8} (hx : ∀ x ∈ xs, isContinuation x = true)
    (ys : List UInt8) :
    (decodeLossy (xs ++ ys)).toList =
      List.replicate xs.length replacement ++ (decodeLossy ys).toList := by
  induction xs with
  | nil => simp
  | cons x xs ih =>
    rw [List.cons_append, decodeLossy_cons, readChar_of_isContinuation (hx x (by simp))]
    simp only [List.drop_zero, List.length_cons, List.replicate_succ, List.cons_append]
    rw [ih fun y hy => hx y (by simp [hy])]

/-- A character takes at most four bytes. -/
theorem length_le_decodeLossy (bs : List UInt8) :
    bs.length ≤ 4 * (decodeLossy bs).toList.length := by
  induction h : bs.length using Nat.strongRecOn generalizing bs with
  | _ n ih =>
    cases bs with
    | nil => simp at h; omega
    | cons b rest =>
      have hw := readChar_width b rest
      have hrest := ih (rest.drop (readChar b rest).2).length (by simp at h ⊢; omega)
        (rest.drop (readChar b rest).2) rfl
      rw [decodeLossy_cons, List.length_cons]
      simp only [List.length_drop, List.length_cons] at h hrest
      omega

/-- Reading from byte `i` on falls in step with reading from the start within three bytes: both
go on as the reading from some `j` with `i ≤ j ≤ i + 3`, and before that the reading from `i`
finds only continuation bytes. -/
theorem decodeLossy_drop_sync (bs : List UInt8) (i : Nat) (hi : i ≤ bs.length) :
    ∃ j, i ≤ j ∧ j ≤ i + 3 ∧ j ≤ bs.length ∧
      (∃ pre, (decodeLossy bs).toList = pre ++ (decodeLossy (bs.drop j)).toList) ∧
      (decodeLossy (bs.drop i)).toList =
        List.replicate (j - i) replacement ++ (decodeLossy (bs.drop j)).toList := by
  induction h : bs.length using Nat.strongRecOn generalizing bs i with
  | _ n ih =>
    rcases Nat.eq_zero_or_pos i with rfl | hpos
    · exact ⟨0, Nat.le_refl 0, by omega, by omega, ⟨[], by simp⟩, by simp⟩
    cases bs with
    | nil => simp at hi; omega
    | cons b rest =>
      have hw := readChar_width b rest
      have hcont := readChar_continues b rest
      have hstep := decodeLossy_cons b rest
      rcases hc : readChar b rest with ⟨c, k⟩
      rw [hc] at hw hcont hstep
      dsimp only at hw hcont hstep
      simp only [List.length_cons] at h hi
      rcases Nat.lt_or_ge k i with hki | hik
      · -- the first character ends before byte `i`: go on from the byte after it
        obtain ⟨j, hij, hj3, hjn, ⟨pre, hpre⟩, hsync⟩ :=
          ih (rest.drop k).length (by simp; omega) (rest.drop k) (i - (k + 1)) (by simp; omega) rfl
        simp only [List.length_drop] at hjn
        refine ⟨k + j + 1, by omega, by omega, by omega, ⟨c :: pre, ?_⟩, ?_⟩
        · rw [hstep, hpre, List.drop_drop, List.cons_append, List.drop_succ_cons]
        · have hi' : (b :: rest).drop i = (rest.drop k).drop (i - (k + 1)) := by
            obtain ⟨m, rfl⟩ : ∃ m, i = m + 1 := ⟨i - 1, by omega⟩
            rw [List.drop_drop, List.drop_succ_cons]
            congr 1
            omega
          rw [hi', hsync, List.drop_drop, List.drop_succ_cons]
          congr 2
          omega
      · -- byte `i` lies inside the first character: continuation bytes up to its end
        refine ⟨k + 1, by omega, by omega, by omega, ⟨[c], ?_⟩, ?_⟩
        · rw [hstep, List.drop_succ_cons]
          rfl
        · obtain ⟨m, rfl⟩ : ∃ m, i = m + 1 := ⟨i - 1, by omega⟩
          have hsplit : rest.drop m = (rest.take k).drop m ++ rest.drop k := by
            rw [← List.drop_append_of_le_length (by simp; omega), List.take_append_drop]
          rw [List.drop_succ_cons, List.drop_succ_cons, hsplit,
            decodeLossy_continuations (fun x hx => hcont x (List.mem_of_mem_drop hx))]
          simp only [List.length_drop, List.length_take]
          congr 2
          omega

/-- The last `n` characters of a text that ends with `u`, when `u` has at least `n`. -/
theorem lastChars_of_toList {s : String} {pre u : List Char} (hs : s.toList = pre ++ u)
    {n : Nat} (hn : n ≤ u.length) : lastChars n s = String.ofList (u.drop (u.length - n)) := by
  rw [lastChars, hs, List.length_append,
    show pre.length + u.length - n = pre.length + (u.length - n) by omega]
  simp [List.drop_append]

end Fanout.Text

namespace Fanout

/-- Keeping the last `4n + 3` bytes keeps the last `n` characters: the stream's tail text is the
last `n` characters of all it carried, read as UTF-8 with replacement. -/
theorem tailText_eq_lastChars (n : Nat) (bs : List UInt8) :
    tailText n bs = Text.lastChars n (Text.decodeLossy bs) := by
  unfold tailText
  split
  · next h0 =>
    simp only [beq_iff_eq] at h0
    subst h0
    simp [Text.lastChars]
  · next h0 =>
    simp only [beq_iff_eq] at h0
    rcases Nat.eq_zero_or_pos (bs.length - (4 * n + 3)) with hz | hpos
    · simp only [hz, List.drop_zero]
    · obtain ⟨j, hij, hj3, hjn, ⟨pre, hpre⟩, hsync⟩ :=
        Text.decodeLossy_drop_sync bs (bs.length - (4 * n + 3)) (by omega)
      -- what follows byte `j` holds at least `4n` bytes, so at least `n` characters
      have hlen := Text.length_le_decodeLossy (bs.drop j)
      simp only [List.length_drop] at hlen
      have hn : n ≤ (Text.decodeLossy (bs.drop j)).toList.length := by omega
      rw [Text.lastChars_of_toList hsync hn, Text.lastChars_of_toList hpre hn]

end Fanout
