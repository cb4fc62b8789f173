import Storefront.Json.Printer
import Storefront.Json.Quoted

/-!
# Reading what was quoted

A quoted text is read as the text that was quoted, whatever follows it. Each character is one piece; a
control character without an escape of its own is a UTF-16 unit.
-/

namespace Storefront.Json

open Text (Symbol)

/-- Is the character written as a UTF-16 unit? -/
def isUnit (c : Char) : Prop :=
  c.toNat < 0x20 ∧ c ≠ '\x08' ∧ c ≠ '\t' ∧ c ≠ '\n' ∧ c ≠ '\x0c' ∧ c ≠ '\r'

instance (c : Char) : Decidable (isUnit c) := inferInstanceAs (Decidable (_ ∧ _))

/-- The piece that a character is read as. -/
def pieceOf (c : Char) : Piece := if isUnit c then .unit c.toNat else .char c

/-- A hexadecimal digit has its value. -/
theorem hexValue?_digitChar {k : Nat} (hk : k < 16) : hexValue? (Nat.digitChar k) = some k := by
  have h : ∀ k < 16, hexValue? (Nat.digitChar k) = some k := by decide
  exact h k hk

theorem unitOf?_digitChars {code : Nat} (h : code < 0x20) :
    unitOf? '0' '0' (Nat.digitChar (code / 16)) (Nat.digitChar (code % 16)) = some code := by
  have hzero : hexValue? '0' = some 0 := rfl
  simp only [unitOf?, hzero, hexValue?_digitChar (show code / 16 < 16 by omega),
    hexValue?_digitChar (show code % 16 < 16 by omega), Option.bind_eq_bind, Option.bind_some]
  exact congrArg some (by omega)

/-- What a character is written as is read as its piece. -/
theorem readPieces?_escapeChar (c : Char) (rest : List Symbol) :
    readPieces? ((escapeChar c).map some ++ rest) =
      (readPieces? rest).map fun (ps, r) => (pieceOf c :: ps, r) := by
  unfold escapeChar
  split
  · next h => subst h; rfl
  split
  · next h => subst h; rfl
  split
  · next h => subst h; rfl
  split
  · next h => subst h; rfl
  split
  · next h => subst h; rfl
  split
  · next h => subst h; rfl
  split
  · next h => subst h; rfl
  next hquote hback h₁ h₂ h₃ h₄ h₅ =>
  split
  · next hlt =>
    have hpiece : pieceOf c = .unit c.toNat := if_pos ⟨hlt, h₁, h₂, h₃, h₄, h₅⟩
    simp only [List.map_cons, List.map_nil, List.cons_append, List.nil_append, readPieces?,
      unitOf?_digitChars hlt, hpiece]
  · next hge =>
    have hpiece : pieceOf c = .char c := if_neg fun h => hge h.1
    rw [hpiece]
    simp only [List.map_cons, List.map_nil, List.cons_append, List.nil_append]
    rw [readPieces?]
    · rw [if_neg hquote, if_neg (not_or.2 ⟨hback, hge⟩)]
    · exact fun _ _ _ _ _ _ => hback
    · exact fun _ _ _ => hback

/-- The pieces of a quoted text end at its closing quote. -/
theorem readPieces?_quote (cs : List Char) (rest : List Symbol) :
    readPieces? ((cs.flatMap escapeChar).map some ++ some '"' :: rest) =
      some (cs.map pieceOf, rest) := by
  induction cs with
  | nil => rfl
  | cons c cs ih =>
    rw [List.flatMap_cons, List.map_append, List.append_assoc, readPieces?_escapeChar, ih]
    rfl

/-- A unit that is no surrogate is a character by itself. -/
theorem assemble?_unit {code : Nat} (h : code < 0x20) (ps : List Piece) :
    assemble? (.unit code :: ps) = (assemble? ps).map (Char.ofNat code :: ·) := by
  have hhigh : isHighSurrogate code = false := by
    simp only [isHighSurrogate, Bool.and_eq_false_iff, decide_eq_false_iff_not]
    exact .inl (by omega)
  have hlow : isLowSurrogate code = false := by
    simp only [isLowSurrogate, Bool.and_eq_false_iff, decide_eq_false_iff_not]
    exact .inl (by omega)
  cases ps with
  | nil => simp [assemble?, hhigh, hlow]
  | cons p ps => cases p <;> simp [assemble?, hhigh, hlow]

/-- The pieces of characters make up these characters. -/
theorem assemble?_pieceOf (cs : List Char) : assemble? (cs.map pieceOf) = some cs := by
  induction cs with
  | nil => rfl
  | cons c cs ih =>
    rw [List.map_cons, pieceOf]
    split
    · next h => rw [assemble?_unit h.1, ih, Char.ofNat_toNat, Option.map_some]
    · rw [assemble?, ih, Option.map_some]

/-- Behind its opening quote a quoted text is read as the text that was quoted. -/
theorem readQuoted?_quote (s : String) (rest : List Symbol) :
    readQuoted? ((s.toList.flatMap escapeChar).map some ++ some '"' :: rest) =
      some (some s, rest) := by
  rw [readQuoted?, readPieces?_quote, Option.map_some]
  simp only [assemble?_pieceOf, Option.map_some, String.ofList_toList]

end Storefront.Json
