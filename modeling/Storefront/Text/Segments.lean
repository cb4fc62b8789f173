/-!
# Segments between separators

`segments` cuts a text at every separator and always gives at least one segment, which may be empty.
`splitLast` cuts at the last separator only.
-/

namespace Storefront.Text

/-- The segments between the separators. -/
def segments (sep : Char) : List Char → List (List Char)
  | [] => [[]]
  | c :: cs =>
    if c = sep then [] :: segments sep cs
    else match segments sep cs with
      | [] => [[c]]
      | s :: ss => (c :: s) :: ss

/-- What precedes the last separator, and what follows it; without a separator nothing precedes. -/
def splitLast (sep : Char) (cs : List Char) : List Char × List Char :=
  let name := (cs.reverse.takeWhile (· ≠ sep)).reverse
  (cs.take (cs.length - name.length - 1), name)

theorem segments_ne_nil (sep : Char) (cs : List Char) : segments sep cs ≠ [] := by
  cases cs with
  | nil => simp [segments]
  | cons c cs =>
    simp only [segments]
    split
    · simp
    · split <;> simp

end Storefront.Text
