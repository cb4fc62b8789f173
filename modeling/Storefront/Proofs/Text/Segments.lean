import Storefront.Text.Segments

/-!
# Cutting a text at its separators

The equations from which all else about `Text.segments` and `Text.splitLast` follows: a text without
the separator is one segment, and a text with a separator in it is cut there.
-/

namespace Storefront.Text

variable {sep : Char}

theorem segments_of_not_mem {cs : List Char} (h : sep ∉ cs) : segments sep cs = [cs] := by
  induction cs with
  | nil => rfl
  | cons c cs ih =>
    obtain ⟨hc, hcs⟩ := not_or.1 fun hm => h (List.mem_cons.2 hm)
    simp [segments, Ne.symm hc, ih hcs]

/-- Segments are cut at a separator, whatever precedes and follows it. -/
theorem segments_append_sep (before after : List Char) :
    segments sep (before ++ sep :: after) = segments sep before ++ segments sep after := by
  induction before with
  | nil => simp [segments]
  | cons c before ih =>
    by_cases hc : c = sep
    · simp [segments, hc, ih]
    · obtain ⟨s, ss, hs⟩ := List.exists_cons_of_ne_nil (segments_ne_nil sep before)
      simp [segments, hc, ih, hs]

/-- A segment holds characters of the text, and never the separator. -/
theorem mem_of_mem_segments {cs s : List Char} {c : Char} (hs : s ∈ segments sep cs) (hc : c ∈ s) :
    c ∈ cs ∧ c ≠ sep := by
  induction cs generalizing s with
  | nil =>
    rw [List.mem_singleton.1 hs] at hc
    cases hc
  | cons d cs ih =>
    obtain ⟨first, others, hcut⟩ := List.exists_cons_of_ne_nil (segments_ne_nil sep cs)
    have hlater : ∀ s ∈ segments sep cs, c ∈ s → c ∈ d :: cs ∧ c ≠ sep := fun s hs hc =>
      ⟨List.mem_cons_of_mem _ (ih hs hc).1, (ih hs hc).2⟩
    rw [hcut] at hlater
    by_cases hd : d = sep
    · rw [segments, if_pos hd, hcut] at hs
      rcases List.mem_cons.1 hs with rfl | hs
      · cases hc
      · exact hlater s hs hc
    · rw [segments, if_neg hd, hcut] at hs
      rcases List.mem_cons.1 hs with rfl | hs
      · rcases List.mem_cons.1 hc with rfl | hc
        · exact ⟨List.mem_cons_self, hd⟩
        · exact hlater first List.mem_cons_self hc
      · exact hlater s (List.mem_cons_of_mem _ hs) hc

/-- A text whose first segments are those of another one is this text, or continues it behind a separator. -/
theorem eq_or_append_sep_of_segments {a b : List Char} {more : List (List Char)}
    (h : segments sep b = segments sep a ++ more) :
    (b = a ∧ more = []) ∨ ∃ rest, b = a ++ sep :: rest ∧ more = segments sep rest := by
  induction a generalizing b with
  | nil =>
    cases b with
    | nil => exact .inl ⟨rfl, (List.cons.inj h).2.symm⟩
    | cons d b =>
      by_cases hd : d = sep
      · simp only [segments, hd, if_true, List.cons_append, List.nil_append, List.cons.injEq, true_and] at h
        exact .inr ⟨b, by rw [hd]; rfl, h.symm⟩
      · obtain ⟨t, ts, ht⟩ := List.exists_cons_of_ne_nil (segments_ne_nil sep b)
        simp [segments, hd, ht] at h
  | cons c a ih =>
    obtain ⟨s, ss, hs⟩ := List.exists_cons_of_ne_nil (segments_ne_nil sep a)
    cases b with
    | nil => by_cases hc : c = sep <;> simp [segments, hc, hs] at h
    | cons d b =>
      obtain ⟨t, ts, ht⟩ := List.exists_cons_of_ne_nil (segments_ne_nil sep b)
      have hrest : c = d ∧ segments sep b = segments sep a ++ more := by
        by_cases hc : c = sep
        · by_cases hd : d = sep
          · simp only [segments, hc, hd, if_true, List.cons_append, List.cons.injEq, true_and] at h
            exact ⟨hc.trans hd.symm, h⟩
          · simp [segments, hc, hd, ht] at h
        · by_cases hd : d = sep
          · simp [segments, hc, hd, hs] at h
          · simp only [segments, hc, hd, if_false, hs, ht, List.cons_append, List.cons.injEq] at h
            obtain ⟨⟨rfl, rfl⟩, rfl⟩ := h
            exact ⟨rfl, by rw [ht, hs, List.cons_append]⟩
      obtain ⟨rfl, hsegments⟩ := hrest
      rcases ih hsegments with ⟨rfl, hmore⟩ | ⟨rest, rfl, hmore⟩
      · exact .inl ⟨rfl, hmore⟩
      · exact .inr ⟨rest, rfl, hmore⟩

/-- The segments tell the text. -/
theorem segments_inj {a b : List Char} (h : segments sep a = segments sep b) : a = b := by
  rcases eq_or_append_sep_of_segments (h.trans (List.append_nil _).symm) with ⟨hab, -⟩ | ⟨rest, -, hmore⟩
  · exact hab
  · exact absurd hmore.symm (segments_ne_nil sep rest)

theorem segments_eq_singleton_iff {cs s : List Char} : segments sep cs = [s] ↔ cs = s ∧ sep ∉ cs := by
  constructor
  · intro h
    have hsep : sep ∉ cs := by
      intro hmem
      obtain ⟨before, after, rfl⟩ := List.append_of_mem hmem
      have hlength := congrArg List.length h
      have hbefore := List.length_pos_iff.2 (segments_ne_nil sep before)
      have hafter := List.length_pos_iff.2 (segments_ne_nil sep after)
      rw [segments_append_sep, List.length_append, List.length_singleton] at hlength
      omega
    rw [segments_of_not_mem hsep] at h
    exact ⟨(List.cons.inj h).1, hsep⟩
  · rintro ⟨rfl, hsep⟩
    exact segments_of_not_mem hsep

/-- The first separator of a text is where it is cut in only one way. -/
theorem append_sep_inj {a b x y : List Char} (ha : sep ∉ a) (hb : sep ∉ b)
    (h : a ++ sep :: x = b ++ sep :: y) : a = b ∧ x = y := by
  induction a generalizing b with
  | nil =>
    cases b with
    | nil => exact ⟨rfl, (List.cons.inj h).2⟩
    | cons d b => exact absurd ((List.cons.inj h).1 ▸ List.mem_cons_self) hb
  | cons c a ih =>
    cases b with
    | nil => exact absurd ((List.cons.inj h).1 ▸ List.mem_cons_self) ha
    | cons d b =>
      obtain ⟨rfl, htail⟩ := List.cons.inj h
      obtain ⟨rfl, rfl⟩ := ih (fun hm => ha (List.mem_cons_of_mem _ hm))
        (fun hm => hb (List.mem_cons_of_mem _ hm)) htail
      exact ⟨rfl, rfl⟩

/-- The last segment is what the separator does not occur in, seen from the end. -/
theorem takeWhile_reverse_of_not_mem {name : List Char} (h : sep ∉ name) (rest : List Char)
    (hrest : rest.head? = none ∨ rest.head? = some sep) :
    (name.reverse ++ rest).takeWhile (· ≠ sep) = name.reverse := by
  have hall : ∀ c ∈ name.reverse, decide (c ≠ sep) = true := by
    intro c hc
    exact decide_eq_true fun e => h (e ▸ List.mem_reverse.1 hc)
  rw [List.takeWhile_append_of_pos hall]
  cases rest with
  | nil => simp
  | cons c rest =>
    have hc : c = sep := by simpa using hrest
    simp [hc]

theorem splitLast_of_not_mem {cs : List Char} (h : sep ∉ cs) : splitLast sep cs = ([], cs) := by
  have htake := takeWhile_reverse_of_not_mem h [] (.inl rfl)
  rw [List.append_nil] at htake
  rw [splitLast, htake]
  simp

theorem splitLast_append_sep (folder : List Char) {name : List Char} (h : sep ∉ name) :
    splitLast sep (folder ++ sep :: name) = (folder, name) := by
  have htake := takeWhile_reverse_of_not_mem h (sep :: folder.reverse) (.inr rfl)
  have hrev : (folder ++ sep :: name).reverse = name.reverse ++ sep :: folder.reverse := by simp
  have hlen : (folder ++ sep :: name).length - name.length - 1 = folder.length := by
    simp only [List.length_append, List.length_cons]
    omega
  rw [splitLast, hrev, htake, List.reverse_reverse, hlen, List.take_left']
  rfl

theorem toList_append_slash (a b : String) : (a ++ "/" ++ b).toList = a.toList ++ '/' :: b.toList := by
  simp [String.toList_append]

theorem splitLast_append_slash (folder : String) {name : String} (h : '/' ∉ name.toList) :
    splitLast '/' (folder ++ "/" ++ name).toList = (folder.toList, name.toList) := by
  rw [toList_append_slash, splitLast_append_sep _ h]

theorem splitLast_cases (sep : Char) (cs : List Char) :
    (sep ∉ cs ∧ splitLast sep cs = ([], cs)) ∨
      ∃ folder name, cs = folder ++ sep :: name ∧ sep ∉ name ∧
        splitLast sep cs = (folder, name) := by
  by_cases h : sep ∈ cs
  · obtain ⟨name, folder, hcs, hnot⟩ := List.eq_append_cons_of_mem (List.mem_reverse.2 h)
    have hcs' : cs = folder.reverse ++ sep :: name.reverse := by
      simpa using congrArg List.reverse hcs
    have hnot' : sep ∉ name.reverse := fun hm => hnot (List.mem_reverse.1 hm)
    exact .inr ⟨_, _, hcs', hnot', hcs' ▸ splitLast_append_sep _ hnot'⟩
  · exact .inl ⟨h, splitLast_of_not_mem h⟩

/-- What follows the last separator is the end of the text that the separator precedes but does not occur in. -/
theorem snd_splitLast_eq_iff {cs name : List Char} :
    (splitLast sep cs).2 = name ↔ sep ∉ name ∧ (cs = name ∨ ∃ folder, cs = folder ++ sep :: name) := by
  constructor
  · rintro rfl
    rcases splitLast_cases sep cs with ⟨hsep, hcut⟩ | ⟨folder, name, hcs, hsep, hcut⟩
    · rw [hcut]
      exact ⟨hsep, .inl rfl⟩
    · rw [hcut]
      exact ⟨hsep, .inr ⟨folder, hcs⟩⟩
  · rintro ⟨hsep, rfl | ⟨folder, rfl⟩⟩
    · rw [splitLast_of_not_mem hsep]
    · rw [splitLast_append_sep folder hsep]

end Storefront.Text
