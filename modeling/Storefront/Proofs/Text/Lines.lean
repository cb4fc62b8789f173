import Mathlib.Data.List.Basic
import Storefront.Proofs.Text.Digits
import Storefront.Proofs.Text.Segments

/-!
# The lines of a text

A text is cut at its line feeds. One at its end leaves nothing behind it, and that is no line. A text that is put
together of lines with a line feed each has these lines again, but for those that held a line feed themselves.
-/

namespace Storefront.Text

/-- What stands between the line feeds of a text. -/
def pieces (text : String) : List String := (segments '\n' text.toList).map String.ofList

/-- The lines of a text: its pieces, without an empty last one. -/
def lines (text : String) : List String :=
  if (pieces text).getLast? = some "" then (pieces text).dropLast else pieces text

/-- Is the text without line feeds? -/
def Unbroken (text : String) : Prop := '\n' ∉ text.toList

instance (text : String) : Decidable (Unbroken text) := inferInstanceAs (Decidable (¬ _))

variable {a b text : String}

/-! ## Texts without line feeds -/

theorem unbroken_append : Unbroken (a ++ b) ↔ Unbroken a ∧ Unbroken b := by
  simp only [Unbroken, String.toList_append, List.mem_append, not_or]

theorem Unbroken.append (ha : Unbroken a) (hb : Unbroken b) : Unbroken (a ++ b) := unbroken_append.2 ⟨ha, hb⟩

theorem unbroken_ofList {cs : List Char} (h : cs.all isDigit = true) : Unbroken (String.ofList cs) := by
  unfold Unbroken
  rw [String.toList_ofList]
  intro hmem
  exact absurd (List.all_eq_true.1 h _ hmem) (by decide)

theorem unbroken_natText (n : Nat) : Unbroken (natText n) :=
  unbroken_ofList (List.all_eq_true.2 fun _ hc => isDigit_of_mem_digits hc)

/-! ## Pieces -/

theorem pieces_ne_nil (text : String) : pieces text ≠ [] := by
  intro hnil
  exact segments_ne_nil _ _ (List.map_eq_nil_iff.1 hnil)

theorem pieces_of_unbroken (h : Unbroken text) : pieces text = [text] := by
  rw [pieces, segments_of_not_mem h, List.map_singleton, String.ofList_toList]

theorem pieces_append_feed (a b : String) : pieces (a ++ "\n" ++ b) = pieces a ++ pieces b := by
  have hfeed : "\n".toList = ['\n'] := rfl
  rw [pieces, String.toList_append, String.toList_append, hfeed, List.append_assoc, List.singleton_append,
    segments_append_sep, List.map_append]
  rfl

/-- Only the last piece knows what a text without line feeds is put behind. -/
theorem exists_getLast?_pieces_append (a : String) (hb : Unbroken b) :
    ∃ a', (pieces (a ++ b)).getLast? = some (a' ++ b) := by
  rcases splitLast_cases '\n' a.toList with ⟨ha, -⟩ | ⟨before, after, ha, hafter, -⟩
  · exact ⟨a, by rw [pieces_of_unbroken (Unbroken.append ha hb), List.getLast?_singleton]⟩
  · have hcut : a = String.ofList before ++ "\n" ++ String.ofList after := by
      apply String.toList_inj.1
      simp [ha, String.toList_append]
    have hlast : Unbroken (String.ofList after ++ b) :=
      Unbroken.append (by rwa [Unbroken, String.toList_ofList]) hb
    refine ⟨String.ofList after, ?_⟩
    rw [hcut, @String.append_assoc _ (String.ofList after), pieces_append_feed, pieces_of_unbroken hlast]
    exact List.getLast?_concat

/-! ## Lines -/

theorem lines_empty : lines "" = [] := by decide

theorem lines_append_feed (a b : String) : lines (a ++ "\n" ++ b) = pieces a ++ lines b := by
  have hlast : (pieces a ++ pieces b).getLast? = (pieces b).getLast? :=
    List.getLast?_append_of_ne_nil _ (pieces_ne_nil b)
  unfold lines
  rw [pieces_append_feed, hlast]
  split
  · exact List.dropLast_append_of_ne_nil (pieces_ne_nil b)
  · rfl

theorem lines_feed (a : String) : lines (a ++ "\n") = pieces a := by
  have h := lines_append_feed a ""
  rwa [String.append_empty, lines_empty, List.append_nil] at h

/-- Lines that are put together are cut apart again, whatever follows them. -/
theorem lines_join (ls : List String) (rest : String) :
    lines (String.join (ls.map (· ++ "\n")) ++ rest) = ls.flatMap pieces ++ lines rest := by
  induction ls with
  | nil =>
    rw [List.map_nil, String.join_nil, String.empty_append]
    rfl
  | cons l ls ih =>
    rw [List.map_cons, String.join_cons, String.append_assoc, lines_append_feed, ih, List.flatMap_cons,
      List.append_assoc]

theorem flatMap_pieces {ls : List String} (h : ∀ l ∈ ls, Unbroken l) : ls.flatMap pieces = ls := by
  induction ls with
  | nil => rfl
  | cons l ls ih =>
    rw [List.flatMap_cons, pieces_of_unbroken (h l List.mem_cons_self),
      ih fun l hl => h l (List.mem_cons_of_mem _ hl)]
    rfl

end Storefront.Text
