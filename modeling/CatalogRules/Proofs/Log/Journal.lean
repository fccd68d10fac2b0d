import CatalogRules.Log.Journal

/-!
What the journal makes of several entries. An event has the texts of its entry
under their keys, clipped, and the id of the request.
-/

namespace CatalogRules.Log

namespace Context

variable {key text : String}

theorem lookup_cons_eq_ite (other key text : String) (c : Context) :
    List.lookup other ((key, text) :: c) =
      if other = key then some text else List.lookup other c := by
  rw [List.lookup_cons]
  by_cases h : other = key
  · rw [if_pos h, h, beq_self_eq_true]
  · rw [if_neg h, beq_false_of_ne h]

theorem lookup_insert (other key text : String) (c : Context) :
    List.lookup other (insert key text c) =
      if other = key then some text else List.lookup other c := by
  -- The pairs in front of the place of the key are passed by on both sides.
  induction c with
  | nil => exact lookup_cons_eq_ite other key text []
  | cons p rest ih =>
      obtain ⟨k, old⟩ := p
      simp only [insert]
      split
      · rename_i hk
        rw [lookup_cons_eq_ite, lookup_cons_eq_ite, ← hk]
        split <;> rfl
      · rename_i hk
        split
        · exact lookup_cons_eq_ite other key text _
        · rw [lookup_cons_eq_ite, lookup_cons_eq_ite, ih]
          by_cases hother : other = k
          · rw [if_pos hother, if_pos hother, if_neg fun h => hk (h.symm.trans hother)]
          · rw [if_neg hother, if_neg hother]

theorem mem_insert {p : String × String} {c : Context} (h : p ∈ insert key text c) :
    p = (key, text) ∨ p ∈ c := by
  induction c with
  | nil => exact .inl (List.mem_singleton.1 h)
  | cons q rest ih =>
      simp only [insert] at h
      split at h
      · exact (List.mem_cons.1 h).imp_right (List.mem_cons_of_mem _)
      · split at h
        · exact List.mem_cons.1 h
        · rcases List.mem_cons.1 h with h | h
          · exact .inr (h ▸ List.mem_cons_self)
          · exact (ih h).imp_right (List.mem_cons_of_mem _)

end Context

/-- A text that is written in full, or cut and marked as such. -/
def Clipped (text : String) : Prop :=
  text.length ≤ contextLimit ∨
    ∃ start : String, start.length = contextLimit ∧ text = start ++ "..."

theorem clipText_of_length_le {text : String} (h : text.length ≤ contextLimit) :
    clipText text = text :=
  Text.clip_of_length_le h

theorem clipped_clipText (text : String) : Clipped (clipText text) := by
  unfold clipText Text.clip
  split
  · rename_i h
    exact .inl h
  · refine .inr ⟨_, ?_, rfl⟩
    rw [String.length_ofList, List.length_take, String.length_toList]
    omega

namespace Journal

variable (j : Journal) {id : String}

theorem lookup_foldl_insert (key : String) (entries : List (String × String)) (c : Context) :
    List.lookup key (entries.foldl (fun c (k, v) => Context.insert k (clipText v) c) c) =
      ((entries.reverse.lookup key).map clipText).or (List.lookup key c) := by
  induction entries generalizing c with
  | nil => rfl
  | cons p rest ih =>
      obtain ⟨k, text⟩ := p
      rw [List.foldl_cons, ih, Context.lookup_insert, List.reverse_cons, List.lookup_append,
        Context.lookup_cons_eq_ite]
      cases List.lookup key rest.reverse with
      | some found => rfl
      | none => by_cases h : key = k <;> simp [h]

theorem lookup_eventContext (key : String) (entries : List (String × String)) :
    List.lookup key (eventContext (some id) entries) =
      if key = "request_id" then some id else (entries.reverse.lookup key).map clipText := by
  rw [eventContext, Context.lookup_insert, lookup_foldl_insert, List.lookup_nil, Option.or_none]

theorem mem_foldl_insert {p : String × String} {entries : List (String × String)} {c : Context}
    (h : p ∈ entries.foldl (fun c (k, v) => Context.insert k (clipText v) c) c) :
    Clipped p.2 ∨ p ∈ c := by
  induction entries generalizing c with
  | nil => exact .inr h
  | cons q rest ih =>
      rcases ih h with h | h
      · exact .inl h
      · rcases Context.mem_insert h with rfl | h
        · exact .inl (clipped_clipText q.2)
        · exact .inr h

theorem clipped_of_mem_eventContext {p : String × String} {entries : List (String × String)}
    (hid : id.length ≤ contextLimit) (h : p ∈ eventContext (some id) entries) : Clipped p.2 := by
  rcases Context.mem_insert h with rfl | h
  · exact .inl hid
  · exact (mem_foldl_insert h).resolve_right List.not_mem_nil

def writeAll (entries : List Entry) : Journal := entries.foldl write j

@[simp] theorem writeAll_nil : j.writeAll [] = j := rfl

theorem writeAll_append (entries rest : List Entry) :
    j.writeAll (entries ++ rest) = (j.writeAll entries).writeAll rest :=
  List.foldl_append

theorem write_of_debug (h : j.threshold = .debug) (e : Entry) :
    j.write e = { j with events := j.events ++ [j.eventOf e] } := by
  have hadmits : j.threshold.admits e.level = true := by
    rw [h]
    cases e.level <;> rfl
  exact if_pos hadmits

theorem writeAll_of_debug (h : j.threshold = .debug) (entries : List Entry) :
    j.writeAll entries = { j with events := j.events ++ entries.map j.eventOf } := by
  induction entries generalizing j with
  | nil => simp
  | cons e rest ih =>
      have hrest := ih (j.write e) (by rw [write_of_debug j h, h])
      rw [write_of_debug j h, List.append_assoc] at hrest
      rw [writeAll, List.foldl_cons, write_of_debug j h]
      exact hrest

end Journal

end CatalogRules.Log
