/-!
# Refused words

Some settings and fields take one of a few words. A text that is none of them is refused with the
kind of word that was looked for.
-/

namespace Storefront

/-- A text that is none of the words it should have been. -/
structure InvalidWord where
  /-- The kind of word that was looked for. -/
  kind : String
  /-- The text that was refused. -/
  word : String
  deriving DecidableEq

/-- The text under which a refused word is reported. -/
def InvalidWord.message (e : InvalidWord) : String :=
  "Invalid conversion: Invalid " ++ e.kind ++ ": " ++ e.word

end Storefront
