import CatalogRules.Text.Line

/-!
Lines across a seam. Two texts with a line feed between them have the pieces of
the first and then those of the second, and a carriage return in front of the
line feed is trimmed away with the other blanks; so the rule lines of the whole
are those of the parts.
-/

namespace CatalogRules.Text

theorem exists_splitAt_cons {sep c : Char} (h : c ≠ sep) (cs : List Char) :
    ∃ piece rest, splitAt sep cs = piece :: rest ∧
      splitAt sep (c :: cs) = (c :: piece) :: rest := by
  cases hcs : splitAt sep cs with
  | nil => exact absurd hcs (splitAt_ne_nil sep cs)
  | cons piece rest =>
      refine ⟨piece, rest, rfl, ?_⟩
      simp only [splitAt, List.foldr_cons, if_neg h] at hcs ⊢
      rw [hcs]

theorem splitAt_of_not_mem {sep : Char} {cs : List Char} (h : sep ∉ cs) :
    splitAt sep cs = [cs] := by
  induction cs with
  | nil => rfl
  | cons c cs ih =>
      rw [List.mem_cons, not_or] at h
      obtain ⟨piece, rest, hcs, hcons⟩ := exists_splitAt_cons (Ne.symm h.1) cs
      rw [ih h.2, List.cons.injEq] at hcs
      obtain ⟨rfl, rfl⟩ := hcs
      exact hcons

theorem splitAt_append_sep (sep : Char) (cs ds : List Char) :
    splitAt sep (cs ++ sep :: ds) = splitAt sep cs ++ splitAt sep ds := by
  induction cs with
  | nil => exact splitAt_sep sep ds
  | cons c cs ih =>
      by_cases h : c = sep
      · subst h
        rw [List.cons_append, splitAt_sep, splitAt_sep, ih, List.cons_append]
      · obtain ⟨piece, rest, hcs, hcons⟩ := exists_splitAt_cons h cs
        obtain ⟨piece', rest', happend, hcons'⟩ := exists_splitAt_cons h (cs ++ sep :: ds)
        rw [ih, hcs, List.cons_append, List.cons.injEq] at happend
        obtain ⟨rfl, rfl⟩ := happend
        rw [List.cons_append, hcons', hcons, List.cons_append]

theorem exists_splitAt_concat {sep c : Char} (h : c ≠ sep) (cs : List Char) :
    ∃ before piece, splitAt sep cs = before ++ [piece] ∧
      splitAt sep (cs ++ [c]) = before ++ [piece ++ [c]] := by
  induction cs with
  | nil =>
      obtain ⟨piece, rest, hnil, hcons⟩ := exists_splitAt_cons h []
      obtain ⟨rfl, rfl⟩ : [] = piece ∧ [] = rest := by simpa using hnil
      exact ⟨[], [], rfl, hcons⟩
  | cons d cs ih =>
      obtain ⟨before, piece, hcs, hconcat⟩ := ih
      by_cases hd : d = sep
      · subst hd
        refine ⟨[] :: before, piece, ?_, ?_⟩
        · rw [splitAt_sep, hcs, List.cons_append]
        · rw [List.cons_append, splitAt_sep, hconcat, List.cons_append]
      · obtain ⟨first, rest, hfirst, hcons⟩ := exists_splitAt_cons hd cs
        obtain ⟨first', rest', hfirst', hcons'⟩ := exists_splitAt_cons hd (cs ++ [c])
        rw [hcs] at hfirst
        rw [hconcat] at hfirst'
        -- The first piece is the last one as well if the text has no separator.
        cases before with
        | nil =>
            obtain ⟨rfl, rfl⟩ : piece = first ∧ [] = rest := by simpa using hfirst
            obtain ⟨rfl, rfl⟩ : piece ++ [c] = first' ∧ [] = rest' := by simpa using hfirst'
            exact ⟨[], d :: piece, hcons, hcons'⟩
        | cons p before =>
            obtain ⟨rfl, rfl⟩ : p = first ∧ before ++ [piece] = rest := by simpa using hfirst
            obtain ⟨rfl, rfl⟩ : p = first' ∧ before ++ [piece ++ [c]] = rest' := by
              simpa using hfirst'
            exact ⟨(d :: p) :: before, piece, hcons, hcons'⟩

theorem mem_of_mem_splitAt {sep c : Char} {cs piece : List Char} (hpiece : piece ∈ splitAt sep cs)
    (hc : c ∈ piece) : c ∈ cs := by
  induction cs generalizing piece with
  | nil =>
      obtain rfl : piece = [] := by simpa using hpiece
      exact hc
  | cons d cs ih =>
      by_cases h : d = sep
      · subst h
        rw [splitAt_sep, List.mem_cons] at hpiece
        rcases hpiece with rfl | hpiece
        · cases hc
        · exact List.mem_cons_of_mem d (ih hpiece hc)
      · obtain ⟨first, rest, hcs, hcons⟩ := exists_splitAt_cons h cs
        rw [hcons, List.mem_cons] at hpiece
        rcases hpiece with rfl | hpiece
        · rcases List.mem_cons.1 hc with rfl | hc
          · exact List.mem_cons_self
          · exact List.mem_cons_of_mem d (ih (hcs ▸ List.mem_cons_self) hc)
        · exact List.mem_cons_of_mem d (ih (hcs ▸ List.mem_cons_of_mem _ hpiece) hc)

theorem exists_piece_of_mem {sep c : Char} {cs : List Char} (hc : c ∈ cs) (hne : c ≠ sep) :
    ∃ piece ∈ splitAt sep cs, c ∈ piece := by
  induction cs with
  | nil => cases hc
  | cons d cs ih =>
      by_cases h : d = sep
      · subst h
        have hcs : c ∈ cs := (List.mem_cons.1 hc).resolve_left hne
        obtain ⟨piece, hpiece, hmem⟩ := ih hcs
        exact ⟨piece, by simp [hpiece], hmem⟩
      · obtain ⟨first, rest, hcs, hcons⟩ := exists_splitAt_cons h cs
        rw [hcons]
        rw [hcs] at ih
        rcases List.mem_cons.1 hc with rfl | hc
        · exact ⟨c :: first, List.mem_cons_self, List.mem_cons_self⟩
        · obtain ⟨piece, hpiece, hmem⟩ := ih hc
          rcases List.mem_cons.1 hpiece with rfl | hrest
          · exact ⟨d :: piece, List.mem_cons_self, List.mem_cons_of_mem d hmem⟩
          · exact ⟨piece, List.mem_cons_of_mem _ hrest, hmem⟩

theorem trimChars_concat_blank {c : Char} (h : isBlank c = true) (cs : List Char) :
    trimChars (cs ++ [c]) = trimChars cs := by
  have hblank : dropBlanks [c] = [] := by simp [dropBlanks, h]
  have hconcat : dropBlanks (cs ++ [c]) =
      if (dropBlanks cs).isEmpty then dropBlanks [c] else dropBlanks cs ++ [c] :=
    List.dropWhile_append
  rw [trimChars, trimChars, hconcat, hblank]
  split
  · rename_i hempty
    rw [List.isEmpty_iff.1 hempty]
  · simp [dropBlanks, h]

theorem dropBlanks_eq_self {cs : List Char} (h : ∀ c ∈ cs.head?, isBlank c = false) :
    dropBlanks cs = cs := by
  cases cs with
  | nil => rfl
  | cons c cs =>
      have hc : isBlank c = false := h c rfl
      simp [dropBlanks, hc]

theorem trimChars_eq_self {cs : List Char} (hhead : ∀ c ∈ cs.head?, isBlank c = false)
    (hlast : ∀ c ∈ cs.getLast?, isBlank c = false) : trimChars cs = cs := by
  rw [← List.head?_reverse] at hlast
  rw [trimChars, dropBlanks_eq_self hhead, dropBlanks_eq_self hlast, List.reverse_reverse]

theorem trimChars_starts_dropBlanks (cs : List Char) : trimChars cs <+: dropBlanks cs :=
  List.reverse_suffix.1 (by
    rw [trimChars, List.reverse_reverse]
    exact List.dropWhile_suffix isBlank)

theorem trimChars_occurs (cs : List Char) : trimChars cs <:+: cs :=
  (trimChars_starts_dropBlanks cs).isInfix.trans (List.dropWhile_suffix isBlank).isInfix

theorem isBlank_of_mem_head?_dropBlanks {c : Char} {cs : List Char}
    (h : c ∈ (dropBlanks cs).head?) : isBlank c = false := by
  have hhead := List.head?_dropWhile_not isBlank cs
  rw [dropBlanks, Option.mem_def] at h
  rw [h] at hhead
  simpa using hhead

theorem isBlank_of_mem_head? {c : Char} {cs : List Char} (h : c ∈ (trimChars cs).head?) :
    isBlank c = false := by
  obtain ⟨rest, hrest⟩ := trimChars_starts_dropBlanks cs
  apply @isBlank_of_mem_head?_dropBlanks c cs
  rw [← hrest, List.head?_append, Option.mem_def.1 h, Option.some_or]
  rfl

theorem isBlank_of_mem_getLast? {c : Char} {cs : List Char} (h : c ∈ (trimChars cs).getLast?) :
    isBlank c = false := by
  rw [trimChars, List.getLast?_reverse] at h
  exact isBlank_of_mem_head?_dropBlanks h

@[simp] theorem trimChars_trimChars (cs : List Char) : trimChars (trimChars cs) = trimChars cs :=
  trimChars_eq_self (fun _ => isBlank_of_mem_head?) fun _ => isBlank_of_mem_getLast?

theorem trimChars_cons_blank {c : Char} (h : isBlank c = true) (cs : List Char) :
    trimChars (c :: cs) = trimChars cs := by
  have hcons : dropBlanks (c :: cs) = dropBlanks cs := by simp [dropBlanks, h]
  rw [trimChars, trimChars, hcons]

theorem ruleLines_eq_singleton {s : String} (hnewline : '\n' ∉ s.toList)
    (htrim : trimChars s.toList = s.toList) (hne : s.toList ≠ []) : ruleLines s = [s] := by
  have hchars : ruleLineChars s.toList = [s.toList] := by
    rw [ruleLineChars, splitLines, splitAt_of_not_mem hnewline, List.map_singleton, htrim]
    simp [hne]
  rw [ruleLines, hchars, List.map_singleton, String.ofList_toList]

theorem ruleLineChars_append_newline (cs ds : List Char) :
    ruleLineChars (cs ++ '\n' :: ds) = ruleLineChars cs ++ ruleLineChars ds := by
  rw [ruleLineChars, splitLines, splitAt_append_sep, List.map_append, List.filter_append]
  rfl

theorem ruleLineChars_cons_blank {c : Char} (h : isBlank c = true) (cs : List Char) :
    ruleLineChars (c :: cs) = ruleLineChars cs := by
  by_cases hc : c = '\n'
  · subst hc
    rw [ruleLineChars, splitLines_newline]
    rfl
  · obtain ⟨piece, rest, hcs, hcons⟩ := exists_splitAt_cons hc cs
    simp only [ruleLineChars, splitLines, hcs, hcons, List.map_cons]
    rw [trimChars_cons_blank h]

theorem ruleLineChars_concat_blank {c : Char} (h : isBlank c = true) (cs : List Char) :
    ruleLineChars (cs ++ [c]) = ruleLineChars cs := by
  by_cases hc : c = '\n'
  · subst hc
    rw [ruleLineChars_append_newline]
    exact List.append_nil _
  · obtain ⟨before, piece, hcs, hconcat⟩ := exists_splitAt_concat hc cs
    simp only [ruleLineChars, splitLines, hcs, hconcat, List.map_append, List.map_cons,
      List.map_nil]
    rw [trimChars_concat_blank h]

/-- The rule lines of two texts with an end of line between them. -/
theorem ruleLines_append {sep : String} (h : sep ∈ ["\n", "\r\n"]) (a b : String) :
    ruleLines (a ++ sep ++ b) = ruleLines a ++ ruleLines b := by
  have hchars : ruleLineChars (a ++ sep ++ b).toList =
      ruleLineChars a.toList ++ ruleLineChars b.toList := by
    simp only [List.mem_cons, List.not_mem_nil, or_false] at h
    rcases h with rfl | rfl
    · have hlist : (a ++ "\n" ++ b).toList = a.toList ++ '\n' :: b.toList := by simp
      rw [hlist, ruleLineChars_append_newline]
    · have hlist : (a ++ "\r\n" ++ b).toList = (a.toList ++ ['\r']) ++ '\n' :: b.toList := by simp
      rw [hlist, ruleLineChars_append_newline, ruleLineChars_concat_blank (by decide)]
  rw [ruleLines, hchars, List.map_append]
  rfl

/-- A text has no rule lines exactly when all of it is blank. -/
theorem ruleLines_eq_nil_iff {s : String} : ruleLines s = [] ↔ trimChars s.toList = [] := by
  rw [ruleLines, List.map_eq_nil_iff, ruleLineChars, List.filter_eq_nil_iff, trimChars_eq_nil_iff]
  simp only [List.mem_map, Bool.not_eq_true', Bool.not_eq_false, List.isEmpty_iff,
    forall_exists_index, and_imp, forall_apply_eq_imp_iff₂, trimChars_eq_nil_iff]
  constructor
  · intro hpieces c hc
    by_cases hne : c = '\n'
    · rw [hne]
      decide
    · obtain ⟨piece, hpiece, hmem⟩ := exists_piece_of_mem hc hne
      exact hpieces piece hpiece c hmem
  · exact fun hall piece hpiece c hmem => hall c (mem_of_mem_splitAt hpiece hmem)

end CatalogRules.Text
