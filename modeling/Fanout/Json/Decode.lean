import Fanout.Json.Parse
import Fanout.Decimal.Text
import Fanout.Text.Escape

/-!
# Decoding JSON into typed values

Decoders turn a positioned JSON tree into a value of the library or a `DecodeError` that says
what was found, what was expected, and where a text reader would have stopped. Structures are
decoded member by member in the order the members come, so of two bad members the first one is
reported; unknown members are skipped, and a missing required field is reported after the last
member. A structure may also be given as an array of its fields in declaration order.

Tagged unions carry their variant in a member (`"type"`, `"kind"`, `"reason"`): the tag is found
first, then the variant's fields are decoded from the other members.

`fromValue` decodes a value held in memory (members sorted, the last of duplicate keys kept) and
reports no position; `fromText` reads text and reports `at line L column C`.
-/

namespace Fanout.Json

/-! ## What was found -/

/-- The shape of a value that a decoder could not use. -/
inductive Found where
  | null
  | bool (b : Bool)
  | unsigned (n : Nat)
  | signed (i : Int)
  | float (x : Float)
  | str (s : String)
  | seq
  | map

/-- `boolean `true``, `integer `5``, `string "x"`, `floating point `1.5``, … -/
def Found.text : Found → String
  | .null => "null"
  | .bool b => "boolean `" ++ (if b then "true" else "false") ++ "`"
  | .unsigned n => "integer `" ++ toString n ++ "`"
  | .signed i => "integer `" ++ toString i ++ "`"
  | .float x => "floating point `" ++ Decimal.render Decimal.FloatStyle.report x ++ "`"
  | .str s => "string " ++ Text.quoted s
  | .seq => "sequence"
  | .map => "map"

/-- Why a value could not be decoded. -/
inductive Fault where
  | invalidType (found : Found) (expected : String)
  | invalidValue (found : Found) (expected : String)
  | invalidLength (n : Nat) (expected : String)
  | missingField (name : String)
  | duplicateField (name : String)
  | unknownVariant (name : String) (allowed : List String)
  | custom (text : String)
  /-- The text stopped being JSON, or holds what a strict reader refuses. -/
  | unreadable (code : SyntaxCode)

/-- Names in backticks: `` `a` ``, `` `a` or `b` ``, `` one of `a`, `b`, `c` ``. -/
def oneOf (names : List String) : String :=
  let tick (s : String) := "`" ++ s ++ "`"
  match names with
  | [] => ""
  | [a] => tick a
  | [a, b] => tick a ++ " or " ++ tick b
  | _ => "one of " ++ ", ".intercalate (names.map tick)

/-- The sentence of a fault. -/
def Fault.text : Fault → String
  | .invalidType f e => "invalid type: " ++ f.text ++ ", expected " ++ e
  | .invalidValue f e => "invalid value: " ++ f.text ++ ", expected " ++ e
  | .invalidLength n e => "invalid length " ++ toString n ++ ", expected " ++ e
  | .missingField n => "missing field `" ++ n ++ "`"
  | .duplicateField n => "duplicate field `" ++ n ++ "`"
  | .unknownVariant n [] => "unknown variant `" ++ n ++ "`, there are no variants"
  | .unknownVariant n allowed => "unknown variant `" ++ n ++ "`, expected " ++ oneOf allowed
  | .custom t => t
  | .unreadable c => c.text

/-- A fault with the position where a text reader reports it. -/
structure DecodeError where
  fault : Fault
  pos : Pos

/-- The fault's sentence alone. -/
def DecodeError.message (e : DecodeError) : String := e.fault.text

/-- The fault's sentence with its place in the text. -/
def DecodeError.messageAt (e : DecodeError) : String :=
  e.fault.text ++ " at line " ++ toString e.pos.line ++ " column " ++ toString e.pos.col

/-- A decoding result. -/
abbrev Result (α : Type) := Except DecodeError α

/-- A decoder of positioned values. -/
abbrev Decoder (α : Type) := Tree → Result α

/-! ## Trees -/

/-- What a tree holds, for a message. -/
def Tree.found : Tree → Found
  | .leaf .null _ _ => .null
  | .leaf (.bool b) _ _ => .bool b
  | .leaf (.num (.nat n)) _ _ => .unsigned n
  | .leaf (.num (.neg i)) _ _ => .signed i
  | .leaf (.num (.float x)) _ _ => .float x
  | .leaf (.str s) _ _ => .str s
  | .leaf (.arr _) _ _ | .arr .. => .seq
  | .leaf (.obj _) _ _ | .obj .. => .map
  | .broken .. => .null
  | .fault _ t => t.found

/-- Where a wrong value is reported: after a scalar, before an array or object. -/
def Tree.faultPos : Tree → Pos
  | .leaf _ _ a => a
  | .arr _ b _ | .obj _ b _ => b
  | .broken e _ => e.pos
  | .fault e _ => e.pos

/-- A reading error as a decoding error. -/
def SyntaxError.asDecode (e : SyntaxError) : DecodeError := ⟨.unreadable e.code, e.pos⟩

/-- Whether a tree was read from text rather than held in memory: values held in memory stand
at the origin, line 0, which no text has. -/
def Tree.wasRead (t : Tree) : Bool := t.before.line != 0

/-- The origin, used for values that were never text. -/
def Pos.origin : Pos := ⟨0, 0⟩

mutual
/-- A value held in memory as a tree without positions. -/
def Tree.ofJson : Json → Tree
  | .arr items => .arr (Tree.ofItems items) Pos.origin Pos.origin
  | .obj members => .obj (Tree.ofMembers members) Pos.origin Pos.origin
  | other => .leaf other Pos.origin Pos.origin

/-- Items of an array without positions. -/
def Tree.ofItems : List Json → List Tree
  | [] => []
  | j :: js => Tree.ofJson j :: Tree.ofItems js

/-- Members of an object without positions. -/
def Tree.ofMembers : List (String × Json) → List (String × Pos × Tree)
  | [] => []
  | (k, j) :: ms => (k, Pos.origin, Tree.ofJson j) :: Tree.ofMembers ms
end

/-! ## Scalars -/

namespace Decoder

/-- Fail with the wrong type of `t`; a value that could not be read reports that first. -/
def mismatch {α : Type} (t : Tree) (expected : String) : Result α :=
  match t.ownError? with
  | some e => .error e.asDecode
  | none => .error ⟨.invalidType t.found expected, t.faultPos⟩

/-- A non-negative integer below `bound`. -/
def unsignedBelow (expected : String) (bound : Nat) : Decoder Nat := fun t =>
  match t with
  | .leaf (.num (.nat n)) _ a =>
    if n < bound then .ok n else .error ⟨.invalidValue (.unsigned n) expected, a⟩
  | .leaf (.num (.neg i)) _ a => .error ⟨.invalidValue (.signed i) expected, a⟩
  | t => mismatch t expected

/-- A 64-bit unsigned integer. -/
def u64 : Decoder Nat := unsignedBelow "u64" (Nat.pow 2 64)

/-- A 64-bit size. -/
def usize : Decoder Nat := unsignedBelow "usize" (Nat.pow 2 64)

/-- A 32-bit unsigned integer. -/
def u32 : Decoder Nat := unsignedBelow "u32" (Nat.pow 2 32)

/-- A 32-bit signed integer. -/
def i32 : Decoder Int := fun t =>
  match t with
  | .leaf (.num (.nat n)) _ a =>
    if n < Nat.pow 2 31 then .ok n else .error ⟨.invalidValue (.unsigned n) "i32", a⟩
  | .leaf (.num (.neg i)) _ a =>
    if -Int.ofNat (Nat.pow 2 31) ≤ i then .ok i else .error ⟨.invalidValue (.signed i) "i32", a⟩
  | t => mismatch t "i32"

/-- The binary64 value nearest to an integer of the reader's classes. -/
def intToFloat (i : Int) : Float :=
  if i < 0 then -(UInt64.ofNat i.natAbs).toFloat else (UInt64.ofNat i.natAbs).toFloat

/-- A binary64 number; integers are converted. -/
def f64 : Decoder Float := fun t =>
  match t with
  | .leaf (.num (.nat n)) _ _ => .ok (UInt64.ofNat n).toFloat
  | .leaf (.num (.neg i)) _ _ => .ok (intToFloat i)
  | .leaf (.num (.float x)) _ _ => .ok x
  | t => mismatch t "f64"

/-- `true` or `false`. -/
def bool : Decoder Bool := fun t =>
  match t with
  | .leaf (.bool b) _ _ => .ok b
  | t => mismatch t "a boolean"

/-- A string, under the name the message uses for it. -/
def stringAs (expected : String) : Decoder String := fun t =>
  match t with
  | .leaf (.str s) _ _ => .ok s
  | t => mismatch t expected

/-- A string. -/
def string : Decoder String := stringAs "a string"

/-- A file system path given as a string. -/
def path : Decoder String := stringAs "path string"

/-- `null` as absent, anything else through `d`. -/
def option {α : Type} (d : Decoder α) : Decoder (Option α) := fun t =>
  match t with
  | .leaf .null _ _ => .ok none
  | t => (d t).map some

/-- An array, every item through `d`. -/
def list {α : Type} (d : Decoder α) : Decoder (List α) := fun t =>
  match t with
  | .arr items _ _ => items.mapM d
  | t => mismatch t "a sequence"

/-! ## Structures -/

/-- One field of a structure: its name, how a member updates the value, and whether it must be
present. -/
structure Field (α : Type) where
  name : String
  set : Tree → Result (α → α)
  required : Bool := false

/-- A field decoded by `d` and stored by `put`. -/
def Field.of {α β : Type} (name : String) (d : Decoder β) (put : β → α → α)
    (required : Bool := false) : Field α :=
  ⟨name, fun t => (d t).map put, required⟩

/-- Fold the members into the value: known names update it, others are skipped, a repeated
name is refused. Returns the value and the names seen. -/
def foldMembers {α : Type} (fields : List (Field α)) :
    α × List String → List (String × Pos × Tree) → Result (α × List String)
  | acc, [] => .ok acc
  | (v, seen), (k, keyPos, t) :: rest =>
    match fields.find? (·.name == k) with
    | none =>
      match t.skipError? with
      | some e => .error e.asDecode
      | none => foldMembers fields (v, seen) rest
    | some f =>
      if seen.contains k then .error ⟨.duplicateField k, keyPos⟩
      else
        match f.set t with
        | .ok upd => foldMembers fields (upd v, k :: seen) rest
        | .error e => .error e

/-- Fold positional items into the value, field by field. -/
def foldItems {α : Type} : List (Field α) → α → List Tree → Result α
  | f :: fs, v, t :: ts =>
    match f.set t with
    | .ok upd => foldItems fs (upd v) ts
    | .error e => .error e
  | _, v, _ => .ok v

/-- What a reader of text reports when an array holds more items than the structure read from
it has fields: the item that follows the last field is not read, only the comma before it. -/
def trailingItem (extra : Tree) : SyntaxError :=
  let peek (p : Pos) : Pos := ⟨p.line, p.col + 1⟩
  match extra with
  | .broken e b =>
    if e.code == .trailingComma || e.code == .eofList then e
    else if e.code == .eofValue || e.code == .expectedListCommaOrEnd then ⟨.trailingCharacters, e.pos⟩
    else ⟨.trailingCharacters, peek b⟩
  | t => ⟨.trailingCharacters, peek t.before⟩

/-- A structure named `what` (for messages), starting from `init`. -/
def record {α : Type} (what : String) (fields : List (Field α)) (init : α) : Decoder α := fun t =>
  match t with
  | .obj members _ after => do
    let (v, seen) ← foldMembers fields (init, []) members
    match fields.find? (fun f => f.required && !seen.contains f.name) with
    | some f => .error ⟨.missingField f.name, after⟩
    | none => .ok v
  | .arr items _ after => do
    let v ← foldItems fields init items
    if items.length > fields.length then
      match items.drop fields.length with
      | extra :: _ =>
        if Tree.wasRead t then .error (trailingItem extra).asDecode
        else .error ⟨.invalidLength items.length "fewer elements in array", after⟩
      | [] => .ok v
    else
      match (fields.drop items.length).find? (·.required) with
      | some _ =>
        .error ⟨.invalidLength items.length
          (what ++ " with " ++ toString fields.length ++
            (if fields.length == 1 then " element" else " elements")), after⟩
      | none => .ok v
  | t => mismatch t what

/-! ## Tagged unions -/

/-- A union tagged by the member `tag`; `variants` pairs each tag text with the decoder of the
remaining members. -/
def tagged {α : Type} (what : String) (tag : String) (variants : List (String × Decoder α)) :
    Decoder α := fun t =>
  let names := variants.map (·.1)
  let pick (tagTree : Tree) : Result (Decoder α) :=
    match tagTree with
    | .leaf (.str s) _ a =>
      match variants.find? (·.1 == s) with
      | some (_, d) => .ok d
      | none => .error ⟨.unknownVariant s names, a⟩
    | .leaf (.num (.nat n)) _ a =>
      match variants[n]? with
      | some (_, d) => .ok d
      | none => .error ⟨.invalidValue (.unsigned n)
          ("variant index 0 <= i < " ++ toString variants.length), a⟩
    | other => mismatch other "variant identifier"
  match t with
  | .obj members b after =>
    let rec scan (rest : List (String × Pos × Tree)) (kept : List (String × Pos × Tree))
        (found : Option (Decoder α)) : Result α :=
      match rest with
      | [] =>
        match found with
        | some d => d (.obj kept.reverse b after)
        | none => .error ⟨.missingField tag, after⟩
      | (k, kp, v) :: more =>
        if k == tag then
          match found with
          | some _ => .error ⟨.duplicateField tag, kp⟩
          | none =>
            match pick v with
            | .ok d => scan more kept (some d)
            | .error e => .error e
        else scan more ((k, kp, v) :: kept) found
    scan members [] none
  | .arr items b after =>
    match items with
    | [] => .error ⟨.missingField tag, after⟩
    | first :: rest =>
      match pick first with
      | .ok d => d (.arr rest b after)
      | .error e => .error e
  | t => mismatch t what

/-- A choice among named constants, written as the name or as a map whose one member is the
name with `null`. -/
def named {α : Type} (choices : List (String × α)) : Decoder α := fun t =>
  let pick (s : String) (a : Pos) : Result α :=
    match choices.find? (·.1 == s) with
    | some (_, v) => .ok v
    | none => .error ⟨.unknownVariant s (choices.map (·.1)), a⟩
  match t with
  | .leaf (.str s) _ a => pick s a
  | .obj [(k, kp, v)] _ _ =>
    match pick k kp with
    | .ok x =>
      match v with
      | .leaf .null _ _ => .ok x
      | other => mismatch other "unit"
    | .error e => .error e
  | .obj _ _ a => .error ⟨.invalidValue .map "map with a single key", a⟩
  | t => mismatch t "string or map"

/-- Any value, kept as it is. -/
def raw : Decoder Json := fun t =>
  match t.firstError? with
  | some e => .error e.asDecode
  | none => .ok t.toJson

/-- Decode with `d`, then apply `f`. -/
def map {α β : Type} (f : α → β) (d : Decoder α) : Decoder β := fun t => (d t).map f

/-- A variant without fields: any remaining members are ignored. -/
def unit {α : Type} (v : α) : Decoder α := fun _ => .ok v

end Decoder

/-! ## Entry points -/

/-- Decode a value held in memory: members sorted with the last duplicate kept. -/
def fromValue {α : Type} (d : Decoder α) (j : Json) : Except String α :=
  match d (Tree.ofJson j.canonical) with
  | .ok v => .ok v
  | .error e => .error e.message

/-- Read text and decode it as it is read, reporting positions: of a problem in the text and a
value of the wrong kind, the one met first is reported, and what follows the value is looked
at only once it is decoded. -/
def fromText {α : Type} (d : Decoder α) (text : String) : Except String α :=
  let (t, trailing) := readDocument text
  match d t with
  | .error e => .error e.messageAt
  | .ok v =>
    match trailing with
    | some e => .error e.message
    | none => .ok v

end Fanout.Json
