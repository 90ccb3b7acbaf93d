import Fanout.Proofs.Template
import Fanout.Command.Plan

/-!
# Checking jobs before they run

Before a job set runs, each job is checked against the template: the check lists the
placeholders the job leaves without a value. This module shows that the check and the builder
agree on that refusal: building refuses a job for unmatched placeholders exactly when the check
does, with the same list, unless a value put in has a NUL and the builder refuses it for that
first. A job set is then refused with its first refused job and the count of them.
-/

namespace Fanout

namespace Template

variable {taskPath : String} {args : List String}

/-- A filling is refused only for a NUL in a value. -/
theorem fill_error {ps : List Piece} {e : JobError} (h : fill taskPath args ps = .error e) :
    e = .security nulText := by
  induction ps with
  | nil => simp [fill] at h
  | cons p ps ih =>
    cases p with
    | char c =>
      cases hf : fill taskPath args ps with
      | error e' => rw [fill, hf] at h; cases h; exact ih hf
      | ok r => rw [fill, hf] at h; cases h
    | hole text s =>
      rw [fill] at h
      split at h
      · split at h
        · cases hf : fill taskPath args ps with
          | error e' => rw [hf] at h; cases h; exact ih hf
          | ok r => rw [hf] at h; cases h
        · cases h
          rfl
      · cases hf : fill taskPath args ps with
        | error e' => rw [hf] at h; cases h; exact ih hf
        | ok r => rw [hf] at h; cases h

/-- A filling that went through filled the rest of the pieces too. -/
theorem fill_tail_ok {p : Piece} {ps : List Piece} {r : List Char × List String}
    (h : fill taskPath args (p :: ps) = .ok r) : ∃ r', fill taskPath args ps = .ok r' := by
  cases hf : fill taskPath args ps with
  | ok r' => exact ⟨r', rfl⟩
  | error e =>
    exfalso
    cases p with
    | char c => rw [fill, hf] at h; cases h
    | hole text s =>
      rw [fill] at h
      split at h
      · split at h
        · rw [hf] at h; cases h
        · cases h
      · rw [hf] at h; cases h

/-- A filling that went through put no value with a NUL in. -/
theorem nulFree_of_fill_ok {ps : List Piece} {r : List Char × List String}
    (h : fill taskPath args ps = .ok r) :
    ∀ text s v, Piece.hole text s ∈ ps → s.value taskPath args = some v → Char.ofNat 0 ∉ v.toList := by
  induction ps generalizing r with
  | nil => simp
  | cons p ps ih =>
    obtain ⟨r', hr'⟩ := fill_tail_ok h
    intro text s v hmem hv
    rcases List.mem_cons.1 hmem with rfl | hmem
    · -- the value of the first placeholder was quoted, so it has no NUL
      rw [fill, hv] at h
      dsimp only at h
      split at h
      · next q hq =>
        simp only [Shell.quote?] at hq
        split at hq
        · cases hq
        · next hnul => simpa using hnul
      · cases h
    · exact ih hr' text s v hmem hv

/-- The values a template puts in for a job have no NUL. -/
def NulFree (t : Template) (taskPath : String) (job : Job) : Prop :=
  ∀ x ∈ t.holes, ∀ v, x.2.value taskPath job.args = some v → Char.ofNat 0 ∉ v.toList

theorem nulFree_iff (t : Template) (taskPath : String) (job : Job) :
    t.NulFree taskPath job ↔ ∀ text s v, Piece.hole text s ∈ scanPieces t.text.toList →
      s.value taskPath job.args = some v → Char.ofNat 0 ∉ v.toList := by
  constructor
  · intro h text s v hp hv
    exact h (text, s) (List.mem_filterMap.2 ⟨_, hp, rfl⟩) v hv
  · intro h x hx v hv
    obtain ⟨p, hp, hpx⟩ := List.mem_filterMap.1 hx
    cases p with
    | char c => cases hpx
    | hole text s => cases hpx; exact h text s v hp hv

/-- Past the filling, a command is refused only by a security rule. -/
theorem render_error_after_fill {t : Template} {taskPath : String} {job : Job} {maxLen : Nat}
    {line : List Char} {e : JobError}
    (hf : fill taskPath job.args (scanPieces t.text.toList) = .ok (line, []))
    (h : t.render taskPath job maxLen = .error e) : ∃ m, e = .security m := by
  simp only [render, hf, bind, Except.bind, List.isEmpty_nil, Bool.not_true, Bool.false_eq_true,
    if_false] at h
  cases hs : Shell.split? (String.ofList line) with
  | none =>
    rw [hs] at h
    cases h
    exact ⟨_, rfl⟩
  | some ws =>
    rw [hs] at h
    dsimp only [pure, Except.pure] at h
    by_cases hw : ws.isEmpty = true
    · rw [if_pos hw] at h
      cases h
      exact ⟨_, rfl⟩
    · rw [if_neg hw] at h
      cases hc : checkWords maxLen ws with
      | error e' =>
        rw [hc] at h
        cases h
        obtain ⟨w, -, hwhy⟩ := checkWords_error hc
        rcases hwhy with ⟨-, he⟩ | ⟨-, he⟩ <;> exact ⟨_, he⟩
      | ok u => rw [hc] at h; cases h

/-- A command is refused for unmatched placeholders exactly when no value put in has a NUL and
some placeholder has no value; the list is then the one the check gives. -/
theorem render_unmatched_iff (t : Template) (taskPath : String) (job : Job) (maxLen : Nat)
    (L : List String) :
    t.render taskPath job maxLen = .error (.unmatchedPlaceholders L) ↔
      t.NulFree taskPath job ∧ t.unmatched job ≠ [] ∧ L = t.unmatched job := by
  rw [unmatched_eq t taskPath job]
  constructor
  · intro h
    cases hf : fill taskPath job.args (scanPieces t.text.toList) with
    | error e =>
      have he := fill_error hf
      simp only [render, hf, bind, Except.bind] at h
      cases h
      cases he
    | ok r =>
      obtain ⟨line, missing⟩ := r
      have hfree := (nulFree_iff t taskPath job).2 (nulFree_of_fill_ok hf)
      obtain ⟨line', hfill, -⟩ := fill_ok taskPath job.args _ ((nulFree_iff t taskPath job).1 hfree)
      rw [hf] at hfill
      obtain ⟨-, rfl⟩ := Prod.mk.inj (Except.ok.inj hfill)
      by_cases hm : missingHoles (Slot.value taskPath job.args) (scanPieces t.text.toList) = []
      · rw [hm] at hf
        obtain ⟨m, hm'⟩ := render_error_after_fill hf h
        cases hm'
      · simp only [render, hf, bind, Except.bind, List.isEmpty_eq_false_iff.2 hm, Bool.not_false,
          if_true] at h
        cases h
        exact ⟨hfree, fun h => hm (sortUnmatched_eq_nil.1 h), rfl⟩
  · rintro ⟨hfree, hne, rfl⟩
    obtain ⟨line, hfill, -⟩ := fill_ok taskPath job.args _ ((nulFree_iff t taskPath job).1 hfree)
    have hm : missingHoles (Slot.value taskPath job.args) (scanPieces t.text.toList) ≠ [] :=
      fun h => hne (sortUnmatched_eq_nil.2 h)
    simp only [render, hfill, bind, Except.bind, List.isEmpty_eq_false_iff.2 hm, Bool.not_false,
      if_true]
    rfl

/-- The check refuses a job for exactly the placeholders it leaves without a value. -/
theorem check_unmatched_iff (t : Template) (job : Job) (L : List String) :
    t.check job = .error (.unmatchedPlaceholders L) ↔ t.unmatched job ≠ [] ∧ L = t.unmatched job := by
  unfold check
  split
  · next h => simp [h]
  · next hne =>
    simp only [Except.error.injEq, JobError.unmatchedPlaceholders.injEq]
    exact ⟨fun h => ⟨hne, h.symm⟩, fun h => h.2.symm⟩

/-- A position is listed among the refused jobs, with an error, exactly when the job there is
refused with it. -/
theorem mem_checkAll (t : Template) (jobs : List Job) (i : Nat) (e : JobError) :
    (i, e) ∈ t.checkAll jobs ↔ ∃ job, jobs[i]? = some job ∧ t.check job = .error e := by
  unfold checkAll
  rw [List.mem_filterMap]
  constructor
  · rintro ⟨⟨job, k⟩, hk, hf⟩
    cases hc : t.check job with
    | ok u => simp [hc] at hf
    | error e' =>
      simp only [hc, Option.some.injEq, Prod.mk.injEq] at hf
      obtain ⟨rfl, rfl⟩ := hf
      exact ⟨job, List.mem_zipIdx_iff_getElem?.1 hk, hc⟩
  · rintro ⟨job, hj, hc⟩
    exact ⟨(job, i), List.mem_zipIdx_iff_getElem?.2 hj, by simp [hc]⟩

/-- The refused jobs are listed in increasing order of position. -/
theorem checkAll_sorted (t : Template) (jobs : List Job) :
    ((t.checkAll jobs).map (·.1)).Pairwise (· < ·) := by
  have hidx : jobs.zipIdx.Pairwise fun a b => a.2 < b.2 := by
    rw [← List.pairwise_map (f := Prod.snd), List.zipIdx_map_snd]
    exact List.pairwise_lt_range' 1
  rw [List.pairwise_map]
  refine hidx.filterMap _ fun a a' haa' b hb b' hb' => ?_
  -- each listed position is the position of its job
  obtain ⟨job, i⟩ := a
  obtain ⟨job', i'⟩ := a'
  dsimp only at hb hb' haa'
  split at hb <;> cases hb
  split at hb' <;> cases hb'
  exact haa'

section JobSets

variable {t : Template} {jobs : List Job}

theorem checkJobs_blank (h : t.isBlank = true) :
    t.checkJobs jobs = .error (.invalidTask "command template is empty") := by
  simp [checkJobs, h]

theorem checkJobs_ok_iff (h : t.isBlank = false) : t.checkJobs jobs = .ok () ↔ t.checkAll jobs = [] := by
  unfold checkJobs
  rw [if_neg (by simp [h])]
  split <;> simp_all

/-- A job set with a refused job is refused with the count of refused jobs and the first of them,
named with its identity and the check's error. -/
theorem checkJobs_first (h : t.isBlank = false) {i : Nat} {job : Job} {e : JobError}
    (hj : jobs[i]? = some job) (hc : t.check job = .error e)
    (hbefore : ∀ k j, k < i → jobs[k]? = some j → t.check j = .ok ()) :
    t.checkJobs jobs = .error (.validation (t.checkAll jobs).length (job.identity ++ ": " ++ e.text)) := by
  have hmem : (i, e) ∈ t.checkAll jobs := (mem_checkAll t jobs i e).2 ⟨job, hj, hc⟩
  obtain ⟨⟨i', e'⟩, rest, hcons⟩ := List.exists_cons_of_ne_nil (List.ne_nil_of_mem hmem)
  obtain ⟨j', hj', hc'⟩ := (mem_checkAll t jobs i' e').1 (hcons ▸ List.mem_cons_self)
  -- the first listed position is `i`: none before it is refused, and the list is sorted
  have hii : i' = i := by
    rcases Nat.lt_trichotomy i' i with hlt | heq | hgt
    · rw [hbefore i' j' hlt hj'] at hc'
      cases hc'
    · exact heq
    · have hsorted := checkAll_sorted t jobs
      rw [hcons, List.map_cons, List.pairwise_cons] at hsorted
      rw [hcons] at hmem
      rcases List.mem_cons.1 hmem with hhead | hin
      · cases hhead
        omega
      · have := hsorted.1 i (List.mem_map_of_mem (f := (·.1)) hin)
        omega
  subst hii
  rw [hj] at hj'
  cases hj'
  rw [hc] at hc'
  cases hc'
  unfold checkJobs
  rw [if_neg (by simp [h]), hcons]
  simp [List.getD_eq_getElem?_getD, hj]

end JobSets

end Template

/-- **The check agrees with the builder.** Building a job's command is refused for unmatched
placeholders exactly when the check refuses the job with the same list and no value put in has
a NUL; so a job the check accepts is never refused for that reason. The refused jobs of a set
are listed with their positions, in increasing order. A job set is refused as a whole for a
blank template; otherwise it is accepted exactly when no job is refused, and else refused with
the count of refused jobs and the first of them, named by its identity and its error. -/
theorem Template.check_agrees_with_build (t : Template) (fs : Host.Fs) (cwd : String)
    (maxLen : Nat) :
    (∀ (job : Job) (L : List String),
      t.build fs cwd job maxLen = .error (.unmatchedPlaceholders L) ↔
        t.check job = .error (.unmatchedPlaceholders L) ∧
          t.NulFree (taskPath fs cwd job.sourcePath) job) ∧
    (∀ job : Job, t.check job = .ok () →
      ∀ L, t.build fs cwd job maxLen ≠ .error (.unmatchedPlaceholders L)) ∧
    (∀ (jobs : List Job) (i : Nat) (e : JobError),
      (i, e) ∈ t.checkAll jobs ↔ ∃ job, jobs[i]? = some job ∧ t.check job = .error e) ∧
    (∀ jobs : List Job, ((t.checkAll jobs).map (·.1)).Pairwise (· < ·)) ∧
    (t.isBlank = true →
      ∀ jobs : List Job, t.checkJobs jobs = .error (.invalidTask "command template is empty")) ∧
    (t.isBlank = false → ∀ jobs : List Job, (t.checkJobs jobs = .ok () ↔ t.checkAll jobs = []) ∧
      ∀ (i : Nat) (job : Job) (e : JobError), jobs[i]? = some job → t.check job = .error e →
        (∀ (k : Nat) (j : Job), k < i → jobs[k]? = some j → t.check j = .ok ()) →
        t.checkJobs jobs =
          .error (.validation (t.checkAll jobs).length (job.identity ++ ": " ++ e.text))) := by
  have hbuild : ∀ (job : Job) (L : List String), t.build fs cwd job maxLen = .error (.unmatchedPlaceholders L) ↔
      t.check job = .error (.unmatchedPlaceholders L) ∧
        t.NulFree (taskPath fs cwd job.sourcePath) job := by
    intro job L
    rw [Template.build, Template.render_unmatched_iff, Template.check_unmatched_iff]
    exact ⟨fun ⟨hfree, hne, hL⟩ => ⟨⟨hne, hL⟩, hfree⟩, fun ⟨⟨hne, hL⟩, hfree⟩ => ⟨hfree, hne, hL⟩⟩
  refine ⟨hbuild, fun job hok L hL => ?_, Template.mem_checkAll t, Template.checkAll_sorted t,
    fun h _ => Template.checkJobs_blank h, fun h jobs => ⟨Template.checkJobs_ok_iff h,
      fun i job e hj hc hbefore => Template.checkJobs_first h hj hc hbefore⟩⟩
  -- a job the check accepts cannot be refused for unmatched placeholders
  rw [((hbuild job L).1 hL).1] at hok
  cases hok

/-- Of two argument jobs, the one without an argument for `@ARG@` is refused, and the set with
it. -/
theorem Template.check_agrees_with_build_second_refused :
    let t : Template := { text := "run @ARG@ --from @TASK@" }
    let jobs := [Job.ofArgs "t" ["x"], Job.ofArgs "t" []]
    t.isBlank = false ∧ jobs[1]? = some (Job.ofArgs "t" []) ∧
      t.check (Job.ofArgs "t" []) = .error (.unmatchedPlaceholders ["@ARG@"]) ∧
      (∀ k j, k < 1 → jobs[k]? = some j → t.check j = .ok ()) ∧
      t.checkJobs jobs = .error (.validation (t.checkAll jobs).length
        ((Job.ofArgs "t" []).identity ++ ": " ++ (JobError.unmatchedPlaceholders ["@ARG@"]).text)) := by
  intro t jobs
  have hblank : t.isBlank = false := by decide
  have hsecond : jobs[1]? = some (Job.ofArgs "t" []) := rfl
  have hcheck : t.check (Job.ofArgs "t" []) = .error (.unmatchedPlaceholders ["@ARG@"]) := by
    simp [t, Template.check, Template.unmatched, Template.holes, scanPieces, sortUnmatched,
      Job.ofArgs, Job.args, List.eraseDups_cons]
  have hfirst : ∀ k j, k < 1 → jobs[k]? = some j → t.check j = .ok () := by
    intro k j hk hj
    obtain rfl : k = 0 := by omega
    cases hj
    simp [t, Template.check, Template.unmatched, Template.holes, scanPieces, sortUnmatched,
      Job.ofArgs, Job.args]
  exact ⟨hblank, hsecond, hcheck, hfirst,
    ((Template.check_agrees_with_build t Host.Fs.empty "/" 1000).2.2.2.2.2 hblank jobs).2 1 _ _
      hsecond hcheck hfirst⟩

end Fanout
