import Storefront.Text.Blank

/-!
# The lines of an environment file

A line ends at a line break, unless the break stands between quotes. A number sign starts a comment at
the start of a line and right behind a single blank; a comment is no part of its line. A file may start
with a byte order mark, and whatever is still open where the file ends is left out.
-/

namespace Storefront.EnvFile

/-- What has been seen of a line so far. -/
inductive Scan where
  /-- Nothing but blanks. -/
  | start
  /-- Something outside quotes. -/
  | bare
  /-- A blank behind something outside quotes. -/
  | gap
  /-- A backslash outside quotes. -/
  | escape
  | single
  /-- A backslash between single quotes. -/
  | singleEscape
  | double
  /-- A backslash between double quotes. -/
  | doubleEscape
  | comment
  deriving DecidableEq

namespace Scan

/-- What a character outside quotes leads to if it is neither a blank nor a number sign. -/
def ofMark (c : Char) : Scan :=
  if c = '\\' then escape else if c = '"' then double else if c = '\'' then single else bare

/-- What has been seen after one more character. -/
def next : Scan → Char → Scan
  | start, c => if Text.isBlank c then start else if c = '#' then comment else ofMark c
  | bare, c => if Text.isBlank c ∧ c ≠ '\r' then gap else ofMark c
  | gap, c => if c = '#' then comment else ofMark c
  | escape, _ => bare
  | single, c => if c = '\\' then singleEscape else if c = '\'' then bare else single
  | singleEscape, _ => single
  | double, c => if c = '\\' then doubleEscape else if c = '"' then bare else double
  | doubleEscape, _ => double
  | comment, _ => comment

/-- Does a line break end the line here? -/
def endsAtBreak : Scan → Bool
  | single | singleEscape | double | doubleEscape => false
  | start | bare | gap | escape | comment => true

/-- Does the end of the file end the line here? -/
def endsAtEnd : Scan → Bool
  | bare | comment => true
  | _ => false

end Scan

/-- The lines of a text, given what has been seen of the first one and its characters so far, the last
one first. -/
def linesFrom (seen : Scan) (line : List Char) : List Char → List (List Char)
  | [] => if seen.endsAtEnd then [line.reverse] else []
  | c :: rest =>
    if c = '\n' ∧ seen.endsAtBreak then line.reverse :: linesFrom .start [] rest
    else
      let seen := seen.next c
      linesFrom seen (if seen = .comment then line else c :: line) rest

/-- The character that may mark the start of a file. -/
def byteOrderMark : Char := Char.ofNat 0xFEFF

/-- The lines of a file. -/
def lines (text : List Char) : List (List Char) :=
  linesFrom .start [] (if text.head? = some byteOrderMark then text.drop 1 else text)

end Storefront.EnvFile
