/-!
# Bytes as symbols

A document is a run of bytes. `symbols` reads it as UTF-8, one symbol a character; a byte that
belongs to no well-formed character is the symbol `none`.
-/

namespace Storefront.Text

/-- A character, or `none` for a byte that belongs to no character. -/
abbrev Symbol := Option Char

/-- The symbols of the bytes from a position on. -/
def symbolsFrom (bytes : ByteArray) (position : Nat) : List Symbol :=
  if position < bytes.size then
    match bytes.utf8DecodeChar? position with
    | some c => some c :: symbolsFrom bytes (position + c.utf8Size)
    | none => none :: symbolsFrom bytes (position + 1)
  else []
termination_by bytes.size - position
decreasing_by
  · have := Char.utf8Size_pos c; omega
  · omega

/-- The symbols of a run of bytes. -/
def symbols (bytes : ByteArray) : List Symbol := symbolsFrom bytes 0

/-- The symbols of a text. -/
def ofText (s : String) : List Symbol := s.toList.map some

end Storefront.Text
