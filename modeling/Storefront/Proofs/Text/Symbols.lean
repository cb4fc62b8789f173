import Storefront.Text.Symbols

/-!
# The symbols of a text

The bytes of a text are read as its characters.
-/

namespace Storefront.Text

/-- At the end of some characters the next one is decoded. -/
theorem utf8DecodeChar?_append (before after : List Char) (c : Char) :
    (before.utf8Encode ++ (c :: after).utf8Encode).utf8DecodeChar? before.utf8Encode.size =
      some c := by
  rw [ByteArray.utf8DecodeChar?_eq_utf8DecodeChar?_extract, ByteArray.size_append]
  have hextract := ByteArray.extract_append_size_add (a := before.utf8Encode)
    (b := (c :: after).utf8Encode) (i := 0) (j := (c :: after).utf8Encode.size)
  rw [Nat.add_zero, ByteArray.extract_zero_size] at hextract
  rw [hextract]
  exact List.utf8DecodeChar?_utf8Encode_cons

theorem size_utf8Encode_singleton (c : Char) : [c].utf8Encode.size = c.utf8Size := by
  simp [List.utf8Encode_singleton]

/-- What is left of a text is read as its characters. -/
theorem symbolsFrom_append (before after : List Char) :
    symbolsFrom (before ++ after).utf8Encode before.utf8Encode.size = after.map some := by
  induction after generalizing before with
  | nil =>
    rw [List.append_nil, symbolsFrom, if_neg (Nat.lt_irrefl _)]
    rfl
  | cons c after ih =>
    have hdecode := utf8DecodeChar?_append before after c
    have hnext := ih (before ++ [c])
    have hsize : (before ++ [c]).utf8Encode.size = before.utf8Encode.size + c.utf8Size := by
      rw [List.utf8Encode_append, ByteArray.size_append, size_utf8Encode_singleton]
    rw [List.append_assoc, List.singleton_append, hsize] at hnext
    have hlt : before.utf8Encode.size < (before ++ c :: after).utf8Encode.size := by
      have hpos := c.utf8Size_pos
      rw [List.utf8Encode_append, List.utf8Encode_cons, ByteArray.size_append,
        ByteArray.size_append, size_utf8Encode_singleton]
      omega
    rw [← List.utf8Encode_append] at hdecode
    rw [symbolsFrom, if_pos hlt, hdecode]
    simp only [hnext, List.map_cons]

/-- The symbols of a text are its characters. -/
theorem symbols_toUTF8 (s : String) : symbols s.toUTF8 = ofText s := by
  have h := symbolsFrom_append [] s.toList
  rw [List.nil_append, String.utf8Encode_toList] at h
  exact h

end Storefront.Text
