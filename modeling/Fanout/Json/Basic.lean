/-!
# JSON values

A JSON document as the library reads and writes it. Numbers keep the class a reader gives them:
a non-negative integer that fits in 64 bits, a negative integer that fits in 64 signed bits, or a
binary64 float for everything else. Objects keep their members in document order; `Json.canonical`
turns them into the sorted, duplicate-free form in which a decoded document is visited.
-/

namespace Fanout

/-- A JSON number by the class a reader assigns it. -/
inductive Number where
  /-- A non-negative integer below `2^64`. -/
  | nat (n : Nat)
  /-- A negative integer not below `-2^63`. -/
  | neg (i : Int)
  /-- Every other number, as a binary64 value. -/
  | float (x : Float)
  deriving Inhabited

/-- A JSON value. -/
inductive Json where
  | null
  | bool (b : Bool)
  | num (n : Number)
  | str (s : String)
  | arr (items : List Json)
  | obj (members : List (String × Json))
  deriving Inhabited

namespace Json

/-- A natural number as a JSON integer. -/
def nat (n : Nat) : Json := .num (.nat n)

/-- A float as a JSON value: a number when it is finite, else `null`, as a serializer holds it. -/
def float (x : Float) : Json := if x.isFinite then .num (.float x) else .null

/-- The value of the last member named `key`, as a reader that keeps the last of duplicate keys. -/
def get? (j : Json) (key : String) : Option Json :=
  match j with
  | .obj members => (members.reverse.find? (·.1 == key)).map (·.2)
  | _ => none

/-- The member named `key`, with `null` read as absent. -/
def field? (j : Json) (key : String) : Option Json :=
  match j.get? key with
  | some .null => none
  | other => other

/-- Insert a member into a list sorted by key, replacing a member of the same key. -/
def insertSorted (kv : String × Json) : List (String × Json) → List (String × Json)
  | [] => [kv]
  | m :: ms =>
    if kv.1 < m.1 then kv :: m :: ms
    else if kv.1 == m.1 then kv :: ms
    else m :: insertSorted kv ms

/-- Objects sorted by key with the last of duplicate keys kept, at every depth: the form in which
a parsed document is held before it is decoded into a typed value. -/
def canonical : Json → Json
  | .arr items => .arr (items.attach.map fun ⟨x, _⟩ => canonical x)
  | .obj members =>
    .obj ((members.attach.map fun ⟨(k, v), _⟩ => (k, canonical v)).foldl
      (fun acc kv => insertSorted kv acc) [])
  | other => other
decreasing_by
  all_goals simp_wf
  all_goals
    first
    | (have h := List.sizeOf_lt_of_mem ‹_›; (try simp at h); omega)

end Json

end Fanout
