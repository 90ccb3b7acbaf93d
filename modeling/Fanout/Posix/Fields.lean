/-!
# Building fields

Expanding a word gives a list of fields. Text written in the word joins the field being built;
the result of an unquoted expansion is split at the characters of `IFS`: runs of blanks
separate fields and vanish at the ends, while any other `IFS` character ends a field even when
it is empty. Quoted text is never split, and `""` alone still makes an empty field. Each
character keeps whether it was quoted, because only unquoted characters act in patterns.
-/

namespace Fanout.Posix

/-- A character of an expanded word, with whether it was quoted. -/
abbrev QChar := Char × Bool

/-- Fields under construction: the finished ones (reversed), the current one (reversed),
whether the current one has started, and whether a blank separator just ended a field. -/
structure Fields where
  done : List (List QChar) := []
  cur : List QChar := []
  started : Bool := false
  afterBlank : Bool := false
  deriving Inhabited, Repr

namespace Fields

/-- Add characters to the current field. -/
def add (f : Fields) (s : String) (quoted : Bool) : Fields :=
  { f with cur := (s.toList.map (·, quoted)).reverse ++ f.cur, started := true, afterBlank := false }

/-- End the current field, even when it is empty. -/
def close (f : Fields) : Fields :=
  { f with done := f.cur.reverse :: f.done, cur := [], started := false, afterBlank := false }

/-- Add the result of an unquoted expansion, split at the characters of `ifs`. -/
def addSplit (f : Fields) (s : String) (ifs : String) : Fields :=
  s.foldl (fun f c =>
    if ifs.contains c then
      if c == ' ' || c == '\t' || c == '\n' then
        if f.started then { f.close with afterBlank := true } else f
      else if !f.started && f.afterBlank then { f with afterBlank := false }
      else f.close
    else { f with cur := (c, false) :: f.cur, started := true, afterBlank := false }) f

/-- The finished fields, in order. -/
def finish (f : Fields) : List (List QChar) :=
  (if f.started then f.cur.reverse :: f.done else f.done).reverse

end Fields

/-- The text of a field. -/
def fieldText (f : List QChar) : String := String.ofList (f.map (·.1))

/-- Remove every trailing newline. -/
def trimNewlines (s : String) : String :=
  String.ofList (s.toList.reverse.dropWhile (· == '\n')).reverse

end Fanout.Posix
