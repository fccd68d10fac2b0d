import CatalogRules.Proofs.Evaluation.Residual

/-!
The division of candidates between threads. The runs are not empty, there are no
more of them than threads, and together they are the candidates; so the answers
of the runs, put together, are the answers of one thread, and nothing that an
evaluation returns tells how many threads there were.
-/

namespace CatalogRules.Evaluation

variable {α : Type}

theorem flatten_runs (size : Nat) (as : List α) : (runs size as).flatten = as := by
  fun_induction runs size as with
  | case1 => rfl
  | case2 a as ih => rw [List.flatten_cons, ih, List.cons_append, List.take_append_drop]

theorem ne_nil_of_mem_runs {size : Nat} {as run : List α} (h : run ∈ runs size as) : run ≠ [] := by
  fun_induction runs size as with
  | case1 => simp at h
  | case2 a as ih =>
      rcases List.mem_cons.1 h with rfl | hrest
      · simp
      · exact ih hrest

theorem length_le_of_mem_runs {size : Nat} {as run : List α} (h : run ∈ runs size as) :
    run.length ≤ size + 1 := by
  fun_induction runs size as with
  | case1 => simp at h
  | case2 a as ih =>
      rcases List.mem_cons.1 h with rfl | hrest
      · rw [List.length_cons, List.length_take]
        omega
      · exact ih hrest

/-- All runs but the last are full. -/
theorem length_runs_mul_lt (size : Nat) {as : List α} (h : as ≠ []) :
    ((runs size as).length - 1) * (size + 1) < as.length := by
  fun_induction runs size as with
  | case1 => exact absurd rfl h
  | case2 a as ih =>
      rw [List.length_cons, List.length_cons, Nat.add_sub_cancel]
      rcases Nat.lt_or_ge size as.length with hlong | hshort
      · have hne : as.drop size ≠ [] := by
          rw [Ne, List.drop_eq_nil_iff]
          omega
        have hpos : 0 < (runs size (as.drop size)).length := by
          cases hd : as.drop size with
          | nil => exact absurd hd hne
          | cons b bs => simp [runs]
        have hrest := ih hne
        rw [List.length_drop] at hrest
        obtain ⟨k, hk⟩ := Nat.exists_eq_add_of_lt hpos
        rw [hk] at hrest ⊢
        rw [show 0 + k + 1 = k + 1 by omega, Nat.add_sub_cancel] at hrest
        rw [show 0 + k + 1 = k + 1 by omega, Nat.add_mul]
        omega
      · have hnil : as.drop size = [] := List.drop_eq_nil_iff.2 hshort
        rw [hnil]
        simp [runs]

theorem runLength_pos {n : Nat} (threads : Nat) (h : 0 < n) : 0 < runLength n threads := by
  have hthreads : 0 < max 1 threads := by omega
  exact Nat.div_pos (by omega) hthreads

/-- Runs of this length, one for each thread, hold all elements. -/
theorem le_runLength_mul (n threads : Nat) : n ≤ runLength n threads * max 1 threads := by
  have hthreads : 0 < max 1 threads := by omega
  have hdiv := Nat.div_add_mod (n + (max 1 threads - 1)) (max 1 threads)
  have hmod := Nat.mod_lt (n + (max 1 threads - 1)) hthreads
  rw [runLength, Nat.mul_comm]
  omega

theorem length_threadRuns_le (threads : Nat) (as : List α) :
    (threadRuns threads as).length ≤ max 1 threads := by
  cases has : as with
  | nil => simp [threadRuns, runs]
  | cons a rest =>
      have hne : as ≠ [] := by simp [has]
      rw [← has]
      have hpos := runLength_pos threads (List.length_pos_iff.2 hne)
      have hlt := length_runs_mul_lt (runLength as.length threads - 1) hne
      have hle := le_runLength_mul as.length threads
      rw [Nat.sub_add_cancel hpos, Nat.mul_comm] at hlt
      have hruns : (threadRuns threads as).length - 1 < max 1 threads :=
        Nat.lt_of_mul_lt_mul_left (Nat.lt_of_lt_of_le hlt hle)
      omega

theorem length_le_of_mem_threadRuns {threads : Nat} {as run : List α}
    (h : run ∈ threadRuns threads as) : run.length ≤ runLength as.length threads := by
  have hle := length_le_of_mem_runs h
  cases has : as with
  | nil =>
      rw [has] at h
      simp [threadRuns, runs] at h
  | cons a rest =>
      have hpos := runLength_pos threads (show 0 < as.length by simp [has])
      rw [← has]
      omega

theorem flatten_threadRuns (threads : Nat) (as : List α) : (threadRuns threads as).flatten = as :=
  flatten_runs _ as

variable {residuals : List Residual}

theorem joinMasks_map_mask (runs : List (List Record)) :
    joinMasks (runs.map (mask residuals)) = mask residuals runs.flatten := by
  induction runs with
  | nil => rfl
  | cons run runs ih =>
      rw [List.map_cons, List.flatten_cons, mask_append, ← ih]
      cases mask residuals run with
      | error e => rfl
      | ok keeps => cases h : joinMasks (runs.map (mask residuals)) <;> simp [joinMasks, h]

theorem parallelMask_eq_mask (threads : Nat) (records : List Record) :
    parallelMask residuals threads records = mask residuals records := by
  rw [parallelMask, joinMasks_map_mask, flatten_threadRuns]

/-- Where there is nothing to test, testing keeps everything. -/
theorem applyResiduals_eq_keepAnswered (limits : Limits) (residuals : List Residual)
    (records : List Record) :
    applyResiduals limits residuals records = keepAnswered records (mask residuals records) := by
  cases h : schedule limits residuals records with
  | sequential => simp only [applyResiduals, h]
  | parallel => simp only [applyResiduals, h, parallelMask_eq_mask]
  | idle =>
      have hempty : residuals = [] ∨ records = [] := by
        unfold schedule at h
        split at h
        · rename_i hidle
          simpa using hidle
        · split at h <;> cases h
      simp only [applyResiduals, h]
      -- Without residuals every answer is yes; without candidates there is no answer.
      rcases hempty with rfl | rfl
      · have hall : records.filter (accepts []) = records :=
          List.filter_eq_self.2 fun r _ => rfl
        rw [mask_eq_ok fun r _ => ⟨true, rfl⟩, keepAnswered, keepMasked_map, hall]
      · rfl

theorem applyResiduals_eq_ok {records : List Record} (limits : Limits)
    (h : ∀ r ∈ records, ∃ answer, satisfiesAll r residuals = .ok answer) :
    applyResiduals limits residuals records = .ok (records.filter (accepts residuals)) := by
  rw [applyResiduals_eq_keepAnswered, mask_eq_ok h, keepAnswered, keepMasked_map]

theorem applyResiduals_eq_error_iff {limits : Limits} {records : List Record}
    {fault : ResidualFault} :
    applyResiduals limits residuals records = .error fault ↔
      FirstFault residuals records fault := by
  rw [applyResiduals_eq_keepAnswered, ← mask_eq_error_iff]
  cases mask residuals records <;> simp [keepAnswered]

/-- An evaluation that works with threads is an evaluation that works without:
the same records in the same order, or the fault of the same first candidate,
whatever the limits. The runs that the threads share are the candidates, cut into
at most as many stretches as there are threads, none of them empty. -/
theorem applyResiduals_indifferent_to_threads (limits : Limits) (residuals : List Residual)
    (records : List Record) :
    applyResiduals limits residuals records = applyResiduals .sequential residuals records ∧
    (∀ kept, applyResiduals limits residuals records = .ok kept ↔
      (∀ r ∈ records, ∃ answer, satisfiesAll r residuals = .ok answer) ∧
        kept = records.filter (accepts residuals)) ∧
    (∀ fault, applyResiduals limits residuals records = .error fault ↔
      FirstFault residuals records fault) ∧
    ∀ threads,
      parallelMask residuals threads records = mask residuals records ∧
      (records ≠ [] → 0 < runLength records.length threads) ∧
      (∀ run ∈ threadRuns threads records,
        run ≠ [] ∧ run.length ≤ runLength records.length threads) ∧
      (threadRuns threads records).length ≤ max 1 threads ∧
      (threadRuns threads records).flatten = records := by
  refine ⟨?_, ?_, fun fault => applyResiduals_eq_error_iff, fun threads => ⟨?_, ?_, ?_, ?_, ?_⟩⟩
  · rw [applyResiduals_eq_keepAnswered, applyResiduals_eq_keepAnswered]
  · intro kept
    constructor
    · intro hkept
      rcases isOk_or_firstFault residuals records with hall | ⟨fault, hfault⟩
      · rw [applyResiduals_eq_ok limits hall] at hkept
        exact ⟨hall, (Except.ok.inj hkept).symm⟩
      · rw [applyResiduals_eq_error_iff.2 hfault] at hkept
        cases hkept
    · rintro ⟨hall, rfl⟩
      exact applyResiduals_eq_ok limits hall
  · exact parallelMask_eq_mask threads records
  · exact fun hne => runLength_pos threads (List.length_pos_iff.2 hne)
  · exact fun run hrun => ⟨ne_nil_of_mem_runs hrun, length_le_of_mem_threadRuns hrun⟩
  · exact length_threadRuns_le threads records
  · exact flatten_threadRuns threads records

end CatalogRules.Evaluation
