/-
**The arrows between two nodes.**

Four spellings, each of any length:

* dotted: a hyphen, one or more dots, a hyphen and perhaps a closing angle;
* thick: two or more equals signs and a closing angle, or three or more equals signs;
* plain: two or more hyphens and a closing angle;
* line: three or more hyphens.

`Arrow.read?` reads the arrow at the head of a text, as far as it goes, and `Arrow.length_of_read?`
says that it uses up at least two characters.
-/

namespace ChartGuide

/-- How an arrow is drawn. -/
inductive Arrow where
  | plain
  | dotted
  | thick
  | line
  deriving DecidableEq, Repr, Inhabited

namespace Arrow

def name : Arrow → String
  | plain => "plain"
  | dotted => "dotted"
  | thick => "thick"
  | line => "line"

/-- The arrow at the head of a text and what follows it. -/
def read? : List Char → Option (Arrow × List Char)
  | '-' :: '.' :: rest =>
    match rest.dropWhile (· == '.') with
    | '-' :: '>' :: after => some (dotted, after)
    | '-' :: after => some (dotted, after)
    | _ => none
  | '=' :: '=' :: rest =>
    match rest.dropWhile (· == '=') with
    | '>' :: after => some (thick, after)
    | after => if rest.head? = some '=' then some (thick, after) else none
  | '-' :: '-' :: rest =>
    match rest.dropWhile (· == '-') with
    | '>' :: after => some (plain, after)
    | after => if rest.head? = some '-' then some (line, after) else none
  | _ => none

/-- Reading an arrow uses up at least two characters. -/
theorem length_of_read? {text after : List Char} {arrow : Arrow}
    (found : read? text = some (arrow, after)) : after.length + 2 ≤ text.length := by
  unfold read? at found
  split at found
  · next rest =>
    have dropped := (List.dropWhile_sublist (· == '.') (l := rest)).length_le
    split at found <;> (simp_all; try omega)
  · next rest =>
    have dropped := (List.dropWhile_sublist (· == '=') (l := rest)).length_le
    split at found <;> (simp_all; try omega)
  · next rest =>
    have dropped := (List.dropWhile_sublist (· == '-') (l := rest)).length_le
    split at found <;> (simp_all; try omega)
  · simp at found

end Arrow

end ChartGuide
