import Fanout.Job.Basic
import Fanout.Run.Summary

/-!
# Wire forms read back

Jobs, trips, stop reasons and summaries are written as JSON values and read back from them by
their decoders. A value held in memory is decoded in canonical form, its members sorted by key;
each lemma below runs a decoder over the canonical form of what `toJson` wrote and finds the
value it started from, provided its numbers fit the words of the wire form and its floats are
finite (`Job.Fits`, `Trip.Fits`, `StopReason.Fits`, `Summary.Fits`). The condition on floats is
needed: a rate that is not finite is written as `null`, which the reader refuses.
-/

namespace Fanout

open Json Json.Decoder

namespace Json

theorem canonical_arr (items : List Json) :
    (Json.arr items).canonical = .arr (items.map canonical) := by
  rw [canonical]
  simp

/-- An object's canonical form: its members with canonical values, inserted in key order. -/
theorem canonical_obj (ms : List (String × Json)) :
    (Json.obj ms).canonical =
      .obj ((ms.map fun kv => (kv.1, kv.2.canonical)).foldl (fun acc kv => insertSorted kv acc) []) := by
  rw [canonical]
  simp only [List.attach_map_val (f := fun kv : String × Json => (kv.1, kv.2.canonical))]

@[simp] theorem canonical_str (s : String) : (Json.str s).canonical = .str s := by
  rw [canonical] <;> simp

@[simp] theorem canonical_num (n : Number) : (Json.num n).canonical = .num n := by
  rw [canonical] <;> simp

@[simp] theorem canonical_null : Json.null.canonical = .null := by
  rw [canonical] <;> simp

theorem float_of_isFinite {x : Float} (h : x.isFinite = true) : Json.float x = .num (.float x) :=
  if_pos h

theorem float_of_not_isFinite {x : Float} (h : x.isFinite = false) : Json.float x = .null := by
  simp [Json.float, h]

/-- A value decodes in memory as its canonical form's tree does. -/
theorem fromValue_of_decoder {α : Type} {d : Decoder α} {j : Json} {v : α}
    (h : d (Tree.ofJson j.canonical) = .ok v) : fromValue d j = .ok v := by
  simp [fromValue, h]

end Json

namespace Json.Decoder

theorem string_leaf (s : String) (b a : Pos) : string (Tree.leaf (.str s) b a) = .ok s := rfl

/-- An array of strings reads back as its strings. -/
theorem list_string_strs (xs : List String) :
    list string (Tree.arr (Tree.ofItems (xs.map Json.str)) Pos.origin Pos.origin) = .ok xs := by
  induction xs with
  | nil => rfl
  | cons x xs ih =>
    simp only [list, List.map_cons, Tree.ofItems, List.mapM_cons] at ih ⊢
    rw [ih]
    rfl

end Json.Decoder

/-! ## The canonical forms of what is written

`toJson` writes members in the order of the fields; the canonical form has them in key order.
-/

@[simp] theorem Json.canonical_float (x : Float) : (Json.float x).canonical = Json.float x := by
  cases h : x.isFinite
  · rw [float_of_not_isFinite h, canonical_null]
  · rw [float_of_isFinite h, canonical_num]

theorem Job.canonical_toJson_file (p : String) :
    (Job.toJson (.file p)).canonical = .obj [("path", .str p), ("type", .str "file")] := by
  simp +decide only [Job.toJson, canonical_obj, List.map_cons, List.map_nil, canonical_str,
    List.foldl_cons, List.foldl_nil, insertSorted, ↓reduceIte]

theorem Job.canonical_toJson_argument (a : ArgumentJob) :
    (Job.toJson (.argument a)).canonical =
      .obj ([("args", .arr (a.args.map .str))] ++
        a.lineNumber.toList.map (fun n => ("lineNumber", Json.nat n)) ++
        [("sourceLine", .str a.sourceLine), ("template", .str a.template),
          ("type", .str "argument")]) := by
  obtain ⟨template, args, line, number⟩ := a
  cases number <;>
  simp +decide only [Job.toJson, canonical_obj, canonical_arr, List.map_map, Function.comp_def,
    List.map_cons, List.map_nil, canonical_str, Json.nat, canonical_num, List.cons_append,
    List.nil_append, List.foldl_cons, List.foldl_nil, insertSorted, ↓reduceIte, Option.toList]

theorem Trip.canonical_toJson_consecutive (count limit : Nat) :
    (Trip.consecutive count limit).toJson.canonical =
      .obj [("count", Json.nat count), ("kind", .str "consecutiveFailures"),
        ("limit", Json.nat limit)] := by
  simp +decide only [Trip.toJson, canonical_obj, List.map_cons, List.map_nil, canonical_str,
    Json.nat, canonical_num, List.foldl_cons, List.foldl_nil, insertSorted, ↓reduceIte]

theorem Trip.canonical_toJson_rate (r limit : Float) (completed : Nat) :
    (Trip.rate r limit completed).toJson.canonical =
      .obj [("completed", Json.nat completed), ("kind", .str "failureRate"),
        ("limit", Json.float limit), ("rate", Json.float r)] := by
  simp +decide only [Trip.toJson, canonical_obj, List.map_cons, List.map_nil, canonical_str,
    canonical_float, Json.nat, canonical_num, List.foldl_cons, List.foldl_nil, insertSorted,
    ↓reduceIte]

theorem StopReason.canonical_toJson_autoStop (t : Trip) :
    (StopReason.autoStop t).toJson.canonical =
      .obj [("reason", .str "autoStop"), ("trip", t.toJson.canonical)] := by
  simp +decide only [StopReason.toJson, canonical_obj, List.map_cons, List.map_nil, canonical_str,
    List.foldl_cons, List.foldl_nil, insertSorted, ↓reduceIte]

theorem Summary.canonical_toJson (s : Summary) :
    s.toJson.canonical =
      .obj [("cancelled", Json.nat s.cancelled), ("completed", Json.nat s.completed),
        ("failed", Json.nat s.failed), ("stopReason", s.stopReason.toJson.canonical),
        ("total", Json.nat s.total)] := by
  simp +decide only [Summary.toJson, canonical_obj, List.map_cons, List.map_nil, Json.nat,
    canonical_num, List.foldl_cons, List.foldl_nil, insertSorted, ↓reduceIte]

-- Decoding a written value runs each decoder over its members in key order; these unfold the
-- readers of trees and the tagged and structure decoders.
attribute [local simp] Tree.ofJson Tree.ofMembers tagged tagged.scan record foldMembers Field.of
  Decoder.map Except.map Except.bind unsignedBelow Json.nat

/-! ## Reading back -/

/-- A job whose line number, when it has one, is a word. -/
def Job.Fits : Job → Prop
  | .file _ => True
  | .argument a => ∀ n ∈ a.lineNumber, n ≤ wordMax

theorem Job.decoder_canonical (d : Job) (h : d.Fits) :
    Job.decoder (Tree.ofJson d.toJson.canonical) = .ok d := by
  cases d with
  | file p => simp [Job.canonical_toJson_file, Job.decoder, path, stringAs, bind]
  | argument a =>
    rw [Job.canonical_toJson_argument]
    obtain ⟨template, args, line, number⟩ := a
    cases number with
    | none => simp [Job.decoder, path, stringAs, bind, list_string_strs, string_leaf]
    | some n =>
      have hn : n < Nat.pow 2 64 := Nat.lt_of_le_of_lt (h n rfl) (by decide)
      simp [hn, Job.decoder, path, stringAs, bind, list_string_strs, string_leaf, usize, option]

/-- A trip whose counts fit their words, 32 bits for a run of failures and 64 for the outcomes
counted, and whose rates are finite. -/
def Trip.Fits : Trip → Prop
  | .consecutive count limit => count ≤ halfWordMax ∧ limit ≤ halfWordMax
  | .rate r limit completed => r.isFinite = true ∧ limit.isFinite = true ∧ completed ≤ wordMax

theorem Trip.decoder_canonical (t : Trip) (h : t.Fits) :
    Trip.decoder (Tree.ofJson t.toJson.canonical) = .ok t := by
  cases t with
  | consecutive count limit =>
    obtain ⟨hc, hl⟩ := h
    have hc' : count < Nat.pow 2 32 := Nat.lt_of_le_of_lt hc (by decide)
    have hl' : limit < Nat.pow 2 32 := Nat.lt_of_le_of_lt hl (by decide)
    simp [hc', hl', Trip.canonical_toJson_consecutive, Trip.decoder, bind, u32]
  | rate r limit completed =>
    obtain ⟨hr, hl, hc⟩ := h
    have hc' : completed < Nat.pow 2 64 := Nat.lt_of_le_of_lt hc (by decide)
    simp [hc', float_of_isFinite hr, float_of_isFinite hl, Trip.canonical_toJson_rate,
      Trip.decoder, bind, u64, f64]

/-- A rate that is not finite is written as `null`, and the trip does not read back: the reader
of the first such member refuses a `null` where it expects a float. -/
theorem Trip.fromValue_rate_of_not_finite {r limit : Float} {completed : Nat}
    (hc : completed ≤ wordMax) (h : r.isFinite = false ∨ limit.isFinite = false) :
    fromValue Trip.decoder (Trip.rate r limit completed).toJson =
      .error (Fault.invalidType .null "f64").text := by
  have hc' : completed < Nat.pow 2 64 := Nat.lt_of_le_of_lt hc (by decide)
  rw [fromValue, Trip.canonical_toJson_rate]
  -- the limit comes before the rate in key order
  cases hl : limit.isFinite with
  | false =>
    simp [hc', float_of_not_isFinite hl, Trip.decoder, bind, u64, f64, mismatch,
      Tree.ownError?, Tree.found, Tree.faultPos, DecodeError.message]
  | true =>
    have hr : r.isFinite = false := by simpa [hl] using h
    simp [hc', float_of_not_isFinite hr, float_of_isFinite hl, Trip.decoder, bind, u64, f64,
      mismatch, Tree.ownError?, Tree.found, Tree.faultPos, DecodeError.message]

/-- A reason whose trip, if it has one, fits its wire form. -/
def StopReason.Fits : StopReason → Prop
  | .autoStop t => t.Fits
  | _ => True

theorem StopReason.decoder_canonical (r : StopReason) (h : r.Fits) :
    StopReason.decoder (Tree.ofJson r.toJson.canonical) = .ok r := by
  cases r with
  | autoStop t =>
    simp [StopReason.canonical_toJson_autoStop, Trip.decoder_canonical t h, StopReason.decoder,
      bind]
  | _ => simp [StopReason.toJson, canonical_obj, insertSorted, StopReason.decoder, Decoder.unit]

/-- A summary whose counts are words and whose reason fits its wire form. -/
def Summary.Fits (s : Summary) : Prop :=
  s.total ≤ wordMax ∧ s.completed ≤ wordMax ∧ s.failed ≤ wordMax ∧ s.cancelled ≤ wordMax ∧
    s.stopReason.Fits

theorem Summary.decoder_canonical (s : Summary) (h : s.Fits) :
    Summary.decoder (Tree.ofJson s.toJson.canonical) = .ok s := by
  obtain ⟨h1, h2, h3, h4, hr⟩ := h
  have h64 : wordMax < Nat.pow 2 64 := by decide
  obtain ⟨total, completed, failed, cancelled, reason⟩ := s
  simp [Summary.canonical_toJson, StopReason.decoder_canonical reason hr,
    Nat.lt_of_le_of_lt h1 h64, Nat.lt_of_le_of_lt h2 h64, Nat.lt_of_le_of_lt h3 h64,
    Nat.lt_of_le_of_lt h4 h64, Summary.decoder, bind, usize]

/-- **Wire forms read back.** Every job, trip, stop reason and summary whose numbers fit the
words of its wire form and whose floats are finite is read back from the value it is written
as. -/
theorem wire_forms_round_trip :
    (∀ d : Job, d.Fits → fromValue Job.decoder d.toJson = .ok d) ∧
    (∀ t : Trip, t.Fits → fromValue Trip.decoder t.toJson = .ok t) ∧
    (∀ r : StopReason, r.Fits → fromValue StopReason.decoder r.toJson = .ok r) ∧
    (∀ s : Summary, s.Fits → fromValue Summary.decoder s.toJson = .ok s) :=
  ⟨fun d h => fromValue_of_decoder (Job.decoder_canonical d h),
    fun t h => fromValue_of_decoder (Trip.decoder_canonical t h),
    fun r h => fromValue_of_decoder (StopReason.decoder_canonical r h),
    fun s h => fromValue_of_decoder (Summary.decoder_canonical s h)⟩

/-- An argument job with its line number, and the summary of a run the breaker stopped after
three failures in a row. -/
theorem wire_forms_round_trip_auto_stop :
    let d := Job.argument ⟨"job.sh", ["a", "b"], "a b", some 7⟩
    let s : Summary := ⟨10, 2, 3, 5, .autoStop (.consecutive 3 3)⟩
    fromValue Job.decoder d.toJson = .ok d ∧ fromValue Summary.decoder s.toJson = .ok s := by
  intro d s
  have hd : d.Fits := by
    intro n hn
    cases hn
    decide
  have hs : s.Fits := ⟨by decide, by decide, by decide, by decide, by decide, by decide⟩
  exact ⟨wire_forms_round_trip.1 d hd, wire_forms_round_trip.2.2.2 s hs⟩

end Fanout
