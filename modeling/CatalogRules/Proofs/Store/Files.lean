import CatalogRules.Store.Files

/-!
Writing files. A file is written under the names of its path and nowhere else, so every
directory stays one, every path that led somewhere leads there still, and the content
can be read back and written again without any further change.
-/

namespace CatalogRules.Files

variable {fs fs' : Files} {path content : String} {names : List String}

theorem lookup_put_of_ne {other : List String} (h : other ≠ names) (entry : FileEntry)
    (entries : List (List String × FileEntry)) :
    List.lookup other (put names entry entries) = List.lookup other entries := by
  induction entries with
  | nil => simpa [put] using h
  | cons e entries ih =>
      obtain ⟨found, old⟩ := e
      simp only [put]
      split
      · rename_i heq
        subst heq
        simp [List.lookup_cons, beq_false_of_ne h]
      · simp only [List.lookup_cons, ih]

theorem put_put (names : List String) (entry : FileEntry)
    (entries : List (List String × FileEntry)) :
    put names entry (put names entry entries) = put names entry entries := by
  induction entries with
  | nil => simp [put]
  | cons e entries ih =>
      obtain ⟨found, old⟩ := e
      by_cases h : names = found
      · simp [put, h]
      · simp [put, h, ih]

theorem find?_put_of_ne {other : List String} (h : other ≠ names) (entry : FileEntry) :
    find? ⟨put names entry fs.entries⟩ other = fs.find? other := by
  simp only [find?, lookup_put_of_ne h]

/-- The names of the file that is always empty. -/
def null : List String := ["/", "dev", "null"]

theorem outside?_of_find? (h : fs.find? names ≠ some .directory) :
    isAbove names = false ∧ (outside? names = none ∨ names = null) := by
  have habove : isAbove names = false := by
    rw [← Bool.not_eq_true]
    intro htrue
    simp [find?, htrue] at h
  refine ⟨habove, ?_⟩
  have hdirectory : outside? names ≠ some .directory := by
    intro heq
    simp [find?, habove, heq] at h
  unfold outside? at hdirectory ⊢
  split at hdirectory <;> simp_all [null]

theorem find?_put_self (content : String) (h : fs.find? names ≠ some .directory) :
    find? ⟨put names (.file content) fs.entries⟩ names =
      some (.file (if names = null then "" else content)) := by
  obtain ⟨habove, houtside⟩ := outside?_of_find? h
  by_cases hnull : names = null
  · subst hnull
    rfl
  · simp [find?, habove, houtside.resolve_right hnull, lookup_put_self, hnull]

def KeepsDirectories (fs fs' : Files) : Prop :=
  ∀ names, fs.find? names = some .directory → fs'.find? names = some .directory

section

variable (h : KeepsDirectories fs fs')

include h

theorem KeepsDirectories.follow {parts found : List String}
    (hfollow : fs.follow names parts = .ok found) : fs'.follow names parts = .ok found := by
  induction parts generalizing names with
  | nil => exact hfollow
  | cons part rest ih =>
      rw [Files.follow] at hfollow ⊢
      split at hfollow
      · rename_i hdirectory
        rw [h names hdirectory]
        simp only
        split at hfollow
        · cases hfollow
        · rename_i hlong
          rw [if_neg hlong]
          exact ih hfollow
      · cases hfollow
      · cases hfollow

theorem KeepsDirectories.resolve (hresolve : fs.resolve path = .ok names) :
    fs'.resolve path = .ok names := by
  unfold Files.resolve at hresolve ⊢
  cases hparts : parts path with
  | error e => simp [hparts, bind, Except.bind] at hresolve
  | ok parts =>
      rw [hparts] at hresolve
      exact h.follow hresolve

end

/-- A path under which a file can be written leads to this file. -/
theorem resolve_of_target (h : fs.target path = .ok names) : fs.resolve path = .ok names := by
  unfold target at h
  unfold resolve
  cases hparts : parts path with
  | error e => simp [hparts, bind, Except.bind] at h
  | ok parts =>
      rw [hparts] at h
      simp only [bind, Except.bind] at h ⊢
      split at h
      · split at h <;> cases h
      · exact h

theorem KeepsDirectories.target (h : KeepsDirectories fs fs')
    (htarget : fs.target path = .ok names) : fs'.target path = .ok names := by
  unfold Files.target at htarget ⊢
  cases hparts : parts path with
  | error e => simp [hparts, bind, Except.bind] at htarget
  | ok parts =>
      rw [hparts] at htarget
      simp only [bind, Except.bind] at htarget ⊢
      split at htarget
      · split at htarget <;> cases htarget
      · rename_i hslash
        rw [if_neg hslash]
        exact h.follow htarget

theorem read_of_find? {text : String} (hresolve : fs.resolve path = .ok names)
    (hfind : fs.find? names = some (.file text)) : fs.read path = .ok text := by
  simp [read, look, hresolve, hfind]

theorem exists_find?_of_read {text : String} (h : fs.read path = .ok text) :
    ∃ names, fs.resolve path = .ok names ∧ fs.find? names = some (.file text) := by
  unfold read look at h
  cases hresolve : fs.resolve path with
  | error e => simp [hresolve] at h
  | ok names =>
      refine ⟨names, rfl, ?_⟩
      simp only [hresolve] at h
      match hfind : fs.find? names with
      | none => simp [hfind] at h
      | some .directory => simp [hfind] at h
      | some (.file content) =>
          obtain rfl : content = text := by simpa [hfind] using h
          rfl

theorem exists_target_of_write (h : fs.write path content = .ok fs') :
    ∃ names, fs.target path = .ok names ∧ fs.find? names ≠ some .directory ∧
      fs' = ⟨put names (.file content) fs.entries⟩ := by
  unfold write at h
  split at h
  · cases h
  · rename_i names htarget
    refine ⟨names, htarget, ?_⟩
    split at h
    · cases h
    · rename_i hdirectory
      exact ⟨hdirectory, (Except.ok.inj h).symm⟩

/-- A write changes nothing but what its path leads to. -/
theorem find?_of_write (h : fs.write path content = .ok fs')
    (hnames : fs.resolve path ≠ .ok names) : fs'.find? names = fs.find? names := by
  obtain ⟨written, htarget, -, rfl⟩ := exists_target_of_write h
  refine find?_put_of_ne ?_ _
  rintro rfl
  exact hnames (resolve_of_target htarget)

theorem keepsDirectories_of_write (h : fs.write path content = .ok fs') :
    KeepsDirectories fs fs' := by
  obtain ⟨written, htarget, hfile, rfl⟩ := exists_target_of_write h
  intro names hdirectory
  have hne : names ≠ written := by
    rintro rfl
    exact hfile hdirectory
  rw [find?_put_of_ne hne, hdirectory]

theorem write_of_write (h : fs.write path content = .ok fs') :
    fs'.write path content = .ok fs' := by
  have hkeeps := keepsDirectories_of_write h
  obtain ⟨names, htarget, hfile, rfl⟩ := exists_target_of_write h
  simp [write, hkeeps.target htarget, find?_put_self content hfile, put_put]

/-- What has been written is read back, unless it is gone at once. -/
theorem read_of_write (h : fs.write path content = .ok fs')
    (hnull : fs.resolve path ≠ .ok null) : fs'.read path = .ok content := by
  have hkeeps := keepsDirectories_of_write h
  obtain ⟨names, htarget, hfile, rfl⟩ := exists_target_of_write h
  have hresolve := resolve_of_target htarget
  have hkept : names ≠ null := by
    rintro rfl
    exact hnull hresolve
  refine read_of_find? (hkeeps.resolve hresolve) ?_
  rw [find?_put_self content hfile, if_neg hkept]

theorem read_of_write_elsewhere {other text : String} (h : fs.write path content = .ok fs')
    (hother : fs.resolve other ≠ fs.resolve path) (hread : fs.read other = .ok text) :
    fs'.read other = .ok text := by
  obtain ⟨names, hresolve, hfind⟩ := exists_find?_of_read hread
  refine read_of_find? ((keepsDirectories_of_write h).resolve hresolve) ?_
  rw [find?_of_write h (fun heq => hother (hresolve.trans heq.symm)), hfind]

end CatalogRules.Files
