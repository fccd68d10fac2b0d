import CatalogRules.Evaluation.Residual
import CatalogRules.Proofs.Traversal

/-!
Residuals on one record and on a list of candidates. Testing stops at the first
residual that fails, and a fault is that of the first candidate on which a
residual on a field other than the price is reached. The threads work on
consecutive runs of the candidates, so their answers put together are those of
one thread: neither the records that are kept nor the fault depend on how the
work is split.
-/

namespace CatalogRules.Evaluation

variable {record : Record} {residuals : List Residual} {records : List Record}

def accepts (residuals : List Residual) (record : Record) : Bool :=
  match satisfiesAll record residuals with
  | .ok answer => answer
  | .error _ => false

/-- A residual that is not on the price is reached: all residuals before it are
on the price and hold. -/
def Faults (residuals : List Residual) (record : Record) (fault : ResidualFault) : Prop :=
  ∃ before residual after, residuals = before ++ residual :: after ∧
    (∀ r ∈ before, satisfies record r = .ok true) ∧
    residual.field ≠ .price ∧ fault = ⟨residual.field⟩

@[simp] theorem satisfiesAll_nil (record : Record) : satisfiesAll record [] = .ok true := rfl

theorem satisfies_eq_error_iff {r : Residual} {fault : ResidualFault} :
    satisfies record r = .error fault ↔ r.field ≠ .price ∧ fault = ⟨r.field⟩ := by
  obtain ⟨field, comparison, operand⟩ := r
  cases field with
  | price => cases h : record.priceValue? <;> simp [satisfies, h]
  | _ => simp [satisfies, eq_comm]

theorem satisfies_isOk_of_price (record : Record) {r : Residual} (h : r.field = .price) :
    ∃ answer, satisfies record r = .ok answer := by
  cases hs : satisfies record r with
  | ok answer => exact ⟨answer, rfl⟩
  | error fault => exact absurd h (satisfies_eq_error_iff.1 hs).1

theorem satisfiesAll_eq_true_iff :
    satisfiesAll record residuals = .ok true ↔ ∀ r ∈ residuals, satisfies record r = .ok true := by
  induction residuals with
  | nil => simp
  | cons r rs ih =>
      rw [satisfiesAll, List.forall_mem_cons]
      cases h : satisfies record r with
      | error fault => simp
      | ok answer => cases answer <;> simp [ih]

theorem satisfiesAll_append_eq_true_iff {rs ss : List Residual} :
    satisfiesAll record (rs ++ ss) = .ok true ↔
      satisfiesAll record rs = .ok true ∧ satisfiesAll record ss = .ok true := by
  simp only [satisfiesAll_eq_true_iff, List.forall_mem_append]

theorem satisfiesAll_isOk_of_price (record : Record) (h : ∀ r ∈ residuals, r.field = .price) :
    ∃ answer, satisfiesAll record residuals = .ok answer := by
  induction residuals with
  | nil => exact ⟨true, rfl⟩
  | cons r rs ih =>
      obtain ⟨hr, hrs⟩ := List.forall_mem_cons.1 h
      obtain ⟨answer, hanswer⟩ := satisfies_isOk_of_price record hr
      rw [satisfiesAll, hanswer]
      cases answer with
      | false => exact ⟨false, rfl⟩
      | true => exact ih hrs

theorem satisfiesAll_eq_error_iff {fault : ResidualFault} :
    satisfiesAll record residuals = .error fault ↔ Faults residuals record fault := by
  constructor
  · intro h
    induction residuals with
    | nil => simp at h
    | cons r rs ih =>
        rw [satisfiesAll] at h
        cases hr : satisfies record r with
        | error e =>
            rw [hr] at h
            obtain rfl : e = fault := by simpa using h
            obtain ⟨hfield, hfault⟩ := satisfies_eq_error_iff.1 hr
            exact ⟨[], r, rs, rfl, by simp, hfield, hfault⟩
        | ok answer =>
            cases answer with
            | false => simp [hr] at h
            | true =>
                have hrest : satisfiesAll record rs = .error fault := by simpa [hr] using h
                obtain ⟨before, residual, after, rfl, hbefore, hfield, hfault⟩ := ih hrest
                refine ⟨r :: before, residual, after, rfl, ?_, hfield, hfault⟩
                exact List.forall_mem_cons.2 ⟨hr, hbefore⟩
  · rintro ⟨before, residual, after, rfl, hbefore, hfield, hfault⟩
    -- Residuals that hold are passed over, up to the one that faults.
    induction before with
    | nil => simp [satisfiesAll, satisfies_eq_error_iff.2 ⟨hfield, hfault⟩]
    | cons r before ih =>
        obtain ⟨hr, hrest⟩ := List.forall_mem_cons.1 hbefore
        simpa [satisfiesAll, hr] using ih hrest

theorem satisfiesAll_eq_accepts_of_isOk
    (h : ∃ answer, satisfiesAll record residuals = .ok answer) :
    satisfiesAll record residuals = .ok (accepts residuals record) := by
  obtain ⟨answer, hanswer⟩ := h
  rw [accepts, hanswer]

theorem accepts_iff :
    accepts residuals record = true ↔ satisfiesAll record residuals = .ok true := by
  unfold accepts
  cases satisfiesAll record residuals <;> simp

def FirstFault (residuals : List Residual) (records : List Record) (fault : ResidualFault) :
    Prop :=
  ∃ before record after, records = before ++ record :: after ∧
    (∀ r ∈ before, ∃ answer, satisfiesAll r residuals = .ok answer) ∧
    Faults residuals record fault

theorem mask_append (rs ss : List Record) :
    mask residuals (rs ++ ss) = match mask residuals rs with
      | .error e => .error e
      | .ok keeps => match mask residuals ss with
        | .error e => .error e
        | .ok more => .ok (keeps ++ more) := by
  induction rs with
  | nil =>
      simp only [List.nil_append, mask]
      cases mask residuals ss <;> rfl
  | cons r rs ih =>
      simp only [List.cons_append, mask, ih]
      cases satisfiesAll r residuals with
      | error e => rfl
      | ok keep =>
          cases mask residuals rs with
          | error e => rfl
          | ok keeps => cases mask residuals ss <;> rfl

theorem mask_eq_ok (h : ∀ r ∈ records, ∃ answer, satisfiesAll r residuals = .ok answer) :
    mask residuals records = .ok (records.map (accepts residuals)) := by
  induction records with
  | nil => rfl
  | cons r rs ih =>
      obtain ⟨hr, hrs⟩ := List.forall_mem_cons.1 h
      rw [mask, satisfiesAll_eq_accepts_of_isOk hr, ih hrs]
      rfl

theorem mask_eq_error_iff {fault : ResidualFault} :
    mask residuals records = .error fault ↔ FirstFault residuals records fault := by
  constructor
  · intro h
    induction records with
    | nil => simp [mask] at h
    | cons r rs ih =>
        rw [mask] at h
        cases hr : satisfiesAll r residuals with
        | error e =>
            obtain rfl : e = fault := by simpa [hr] using h
            exact ⟨[], r, rs, rfl, by simp, satisfiesAll_eq_error_iff.1 hr⟩
        | ok keep =>
            have hrest : mask residuals rs = .error fault := by
              cases hm : mask residuals rs <;> simp_all
            obtain ⟨before, record, after, rfl, hbefore, hfault⟩ := ih hrest
            exact ⟨r :: before, record, after, rfl,
              List.forall_mem_cons.2 ⟨⟨keep, hr⟩, hbefore⟩, hfault⟩
  · rintro ⟨before, record, after, rfl, hbefore, hfault⟩
    rw [mask_append, mask_eq_ok hbefore]
    simp only [mask, satisfiesAll_eq_error_iff.2 hfault]

/-- Either every candidate is answered, or one of them is the first to fault. -/
theorem isOk_or_firstFault (residuals : List Residual) (records : List Record) :
    (∀ r ∈ records, ∃ answer, satisfiesAll r residuals = .ok answer) ∨
      ∃ fault, FirstFault residuals records fault := by
  rcases allOk_or_firstError (satisfiesAll · residuals) records with
    hall | ⟨before, record, after, fault, rfl, hbefore, hfault⟩
  · exact .inl hall
  · exact .inr ⟨fault, before, record, after, rfl, hbefore, satisfiesAll_eq_error_iff.1 hfault⟩

theorem keepMasked_map (p : Record → Bool) (records : List Record) :
    keepMasked records (records.map p) = records.filter p := by
  induction records with
  | nil => rfl
  | cons r rs ih =>
      simp only [keepMasked] at ih
      cases h : p r <;> simp [keepMasked, h, ih]

end CatalogRules.Evaluation
