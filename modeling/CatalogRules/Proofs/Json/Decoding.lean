import CatalogRules.Json.Decode
import Mathlib.Data.List.Forall2

/-!
Decoding drafts without flaws. A decoder is measured against a way to write values: it
reads them back when the draft of what was written decodes to the value. Decoders of
optional values, lists and structures read back as soon as those of their parts do.
-/

namespace CatalogRules.Json

variable {α : Type}

def Decoder.ReadsBack (decode : Decoder α) (write : α → Json) : Prop :=
  ∀ a, decode (.ofJson (write a)) = .ok a

theorem Draft.ofMembers_eq_map (ms : List (String × Json)) :
    ofMembers ms = ms.map fun m => (some m.1, ofJson m.2) := by
  induction ms with
  | nil => rfl
  | cons m ms ih => rw [ofMembers, ih, List.map_cons]

namespace Decode

/-! ### Single values -/

theorem text_readsBack : text.ReadsBack Json.string := fun _ => by
  simp [text, Draft.ofJson]

theorem flag_readsBack : flag.ReadsBack Json.bool := fun _ => by
  simp [flag, Draft.ofJson]

theorem integerBetween_ofInt {low high i : Int} (hlow : low ≤ i) (hhigh : i ≤ high)
    (expected : String) : integerBetween low high expected (.ofJson (.ofInt i)) = .ok i := by
  simp [integerBetween, Draft.ofJson, ofInt, hlow, hhigh]

theorem unsigned_readsBack : unsigned.ReadsBack fun n => .ofNat n.toNat := fun n => by
  have hlow : (0 : Int) ≤ n.toNat := Int.natCast_nonneg _
  have hhigh : (n.toNat : Int) ≤ greatestInteger := by
    have hn := n.toNat_lt
    simp only [greatestInteger]
    omega
  have hofNat : Json.ofNat n.toNat = .ofInt n.toNat := rfl
  simp [unsigned, hofNat, integerBetween_ofInt hlow hhigh, Except.map]

theorem signed_readsBack : signed.ReadsBack fun q => .ofInt q.toInt := fun q => by
  have hlow : leastInteger ≤ q.toInt := by
    have hq := q.le_toInt
    simp only [leastInteger]
    omega
  have hhigh : q.toInt ≤ 0x7FFFFFFFFFFFFFFF := by
    have hq := q.toInt_lt
    omega
  simp [signed, integerBetween_ofInt hlow hhigh, Except.map]

theorem optional_readsBack {decode : Decoder α} {write : α → Json} (h : decode.ReadsBack write)
    (hnull : ∀ a, write a ≠ .null) :
    (optional decode).ReadsBack fun o => o.elim .null write := by
  rintro (_ | a)
  · simp [optional, Draft.ofJson]
  · have ha := h a
    have hdraft : Draft.ofJson (write a) ≠ .null := by
      have hne := hnull a
      cases hv : write a <;> simp_all [Draft.ofJson]
    simp only [Option.elim_some]
    unfold optional
    split
    · contradiction
    · rw [ha]
      rfl

theorem optional_text_readsBack : (optional text).ReadsBack .ofText? := by
  intro o
  have hwrite : Json.ofText? o = o.elim .null .string := by cases o <;> rfl
  rw [hwrite]
  exact optional_readsBack text_readsBack (by simp) o

theorem float_readsBack : float.ReadsBack Json.ofFloat := fun _ => by
  simp [float, Draft.ofJson, ofFloat]

section

variable {find : String → Option α} {name : α → String} (h : ∀ a, find (name a) = some a)
  (expected : String)

include h

theorem named_readsBack : (named find expected).ReadsBack fun a => .string (name a) := fun a => by
  simp [named, nameIn, Draft.ofJson, h]

theorem namedLoosely_readsBack :
    (namedLoosely find expected).ReadsBack fun a => .string (name a) := fun a => by
  simp [namedLoosely, named, nameIn, Draft.ofJson, h]

end

/-! ### Lists -/

theorem items_eq_ok_iff {decode : Decoder α} {ds : List Draft} {as : List α} :
    items decode ds = .ok as ↔ List.Forall₂ (fun d a => decode d = .ok a) ds as := by
  induction ds generalizing as with
  | nil => simp [items, eq_comm]
  | cons d ds ih =>
      rw [List.forall₂_cons_left_iff]
      cases hd : decode d with
      | error e => simp [items, hd, bind, Except.bind]
      | ok a =>
          simp only [← ih, Except.ok.injEq]
          cases hds : items decode ds with
          | error e => simp [items, hd, hds, bind, Except.bind]
          | ok as => simp [items, hd, hds, bind, Except.bind, pure, Except.pure, eq_comm]

theorem items_ofItems {decode : Decoder α} {write : α → Json} {as : List α}
    (h : ∀ a ∈ as, decode (.ofJson (write a)) = .ok a) :
    items decode (Draft.ofItems (as.map write)) = .ok as := by
  induction as with
  | nil => rfl
  | cons a as ih =>
      have ha := h a List.mem_cons_self
      have has := ih fun b hb => h b (List.mem_cons_of_mem a hb)
      simp [Draft.ofItems, items, ha, has, bind, Except.bind, pure, Except.pure]

theorem list_readsBack {decode : Decoder α} {write : α → Json} (h : decode.ReadsBack write) :
    (list decode).ReadsBack fun as => .array (as.map write) := by
  intro as
  simp only [Draft.ofJson, list, items_ofItems fun a _ => h a]
  rfl

/-! ### Structures -/

def known (shape : List Field) (ms : List (Option String × Draft)) : Fields :=
  ms.filterMap fun m => m.1.bind fun name =>
    (shape.find? fun f => f.name == name).map fun _ => (name, m.2)

/-- The member has a name. Its value passes the check of its field, or is passed over where there
is none. -/
def Admits (shape : List Field) (m : Option String × Draft) : Prop :=
  ∃ name, m.1 = some name ∧
    (match shape.find? fun f => f.name == name with
    | some f => f.check m.2
    | none => m.2.pass) = .ok ()

section

variable {shape : List Field} {ms : List (Option String × Draft)} {seen : List String}
  {found : Fields} {name : String} {d : Draft}

theorem known_cons_of_unknown (hfind : (shape.find? fun f => f.name == name) = none) :
    known shape ((some name, d) :: ms) = known shape ms := by
  rw [known, List.filterMap_cons_none]
  · rfl
  · simp only [Option.bind_some, hfind, Option.map_none]

theorem known_cons_of_known {f : Field} (hfind : (shape.find? fun f => f.name == name) = some f) :
    known shape ((some name, d) :: ms) = (name, d) :: known shape ms := by
  rw [known, List.filterMap_cons_some]
  · rfl
  · simp only [Option.bind_some, hfind, Option.map_some]

theorem known_append (ms ms' : List (Option String × Draft)) :
    known shape (ms ++ ms') = known shape ms ++ known shape ms' :=
  List.filterMap_append

theorem mem_of_mem_known {m : String × Draft} (h : m ∈ known shape ms) :
    (some m.1, m.2) ∈ ms := by
  obtain ⟨⟨_ | name, d⟩, hmem, hm⟩ := List.mem_filterMap.1 h
  · cases hm
  · obtain ⟨f, -, rfl⟩ := Option.map_eq_some_iff.1 hm
    exact hmem

theorem admits_iff_of_unknown (hfind : (shape.find? fun f => f.name == name) = none) :
    Admits shape (some name, d) ↔ d.pass = .ok () := by
  simp only [Admits, Option.some.injEq, exists_eq_left', hfind]

theorem admits_iff_of_known {f : Field} (hfind : (shape.find? fun f => f.name == name) = some f) :
    Admits shape (some name, d) ↔ f.check d = .ok () := by
  simp only [Admits, Option.some.injEq, exists_eq_left', hfind]

theorem not_admits_none : ¬Admits shape (none, d) := by
  simp [Admits]

theorem membersOf_unknown_iff (hfind : (shape.find? fun f => f.name == name) = none) :
    membersOf shape seen ((some name, d) :: ms) = .ok found ↔
      d.pass = .ok () ∧ membersOf shape seen ms = .ok found := by
  simp only [membersOf, hfind]
  cases d.pass <;> simp [bind, Except.bind]

theorem membersOf_known_iff {f : Field} (hfind : (shape.find? fun f => f.name == name) = some f) :
    membersOf shape seen ((some name, d) :: ms) = .ok found ↔
      name ∉ seen ∧ f.check d = .ok () ∧
        ∃ rest, membersOf shape (name :: seen) ms = .ok rest ∧ found = (name, d) :: rest := by
  simp only [membersOf, hfind]
  by_cases hseen : name ∈ seen
  · simp [hseen]
  · cases f.check d <;> cases membersOf shape (name :: seen) ms <;>
      simp [hseen, bind, Except.bind, pure, Except.pure, eq_comm]

/-- The members of an object make up a structure if each of them is admitted and none of the known
ones occurs twice. -/
theorem membersOf_eq_ok_iff :
    membersOf shape seen ms = .ok found ↔
      found = known shape ms ∧ (∀ m ∈ ms, Admits shape m) ∧ (found.map Prod.fst).Nodup ∧
        ∀ m ∈ found, m.1 ∉ seen := by
  induction ms generalizing seen found with
  | nil =>
      simp only [membersOf, Except.ok.injEq, known, List.filterMap_nil]
      constructor
      · rintro rfl
        simp
      · exact fun h => h.1.symm
  | cons m ms ih =>
      rw [List.forall_mem_cons]
      obtain ⟨_ | name, d⟩ := m
      · simp [membersOf, not_admits_none]
      cases hfind : shape.find? fun f => f.name == name with
      | none =>
          rw [membersOf_unknown_iff hfind, known_cons_of_unknown hfind,
            admits_iff_of_unknown hfind, ih]
          exact ⟨fun ⟨hpass, heq, hall, hrest⟩ => ⟨heq, ⟨hpass, hall⟩, hrest⟩,
            fun ⟨heq, ⟨hpass, hall⟩, hrest⟩ => ⟨hpass, heq, hall, hrest⟩⟩
      | some f =>
          simp only [membersOf_known_iff hfind, known_cons_of_known hfind,
            admits_iff_of_known hfind, ih]
          constructor
          · rintro ⟨hseen, hcheck, rest, ⟨rfl, hall, hnodup, hnew⟩, rfl⟩
            rw [List.map_cons, List.nodup_cons, List.forall_mem_cons]
            refine ⟨rfl, ⟨hcheck, hall⟩, ⟨fun hmem => ?_, hnodup⟩, hseen, fun m hm h => ?_⟩
            · obtain ⟨m, hm, heq⟩ := List.mem_map.1 hmem
              exact hnew m hm (heq ▸ List.mem_cons_self)
            · exact hnew m hm (List.mem_cons_of_mem _ h)
          · rintro ⟨rfl, ⟨hcheck, hall⟩, hnodup, hnew⟩
            rw [List.map_cons, List.nodup_cons] at hnodup
            rw [List.forall_mem_cons] at hnew
            refine ⟨hnew.1, hcheck, _, ⟨rfl, hall, hnodup.2, fun m hm h => ?_⟩, rfl⟩
            rcases List.mem_cons.1 h with heq | h
            · exact hnodup.1 (List.mem_map.2 ⟨m, hm, heq⟩)
            · exact hnew.2 m hm h

theorem fields_object_eq_ok_iff {expected : String} {cut : Option Flaw} :
    fields expected shape (.object ms cut) = .ok found ↔
      cut = none ∧ found = known shape ms ∧ (∀ m ∈ ms, Admits shape m) ∧
        (found.map Prod.fst).Nodup := by
  have hmembers : membersOf shape [] ms = .ok found ↔ _ := membersOf_eq_ok_iff
  simp only [List.not_mem_nil, not_false_eq_true, implies_true, and_true] at hmembers
  rw [← hmembers]
  cases hms : membersOf shape [] ms <;> cases cut <;>
    simp [fields, hms, checkCut, bind, Except.bind, pure, Except.pure]

theorem known_named (ms : List (String × Draft)) :
    known shape (ms.map fun m => (some m.1, m.2)) =
      ms.filter fun m => (shape.find? fun f => f.name == m.1).isSome := by
  induction ms with
  | nil => rfl
  | cons m ms ih =>
      rw [List.map_cons, List.filter_cons]
      cases hfind : shape.find? fun f => f.name == m.1 with
      | none =>
          rw [known_cons_of_unknown hfind, ih]
          rfl
      | some f =>
          rw [known_cons_of_known hfind, ih]
          rfl

end

theorem fields_object {expected : String} {shape : List Field} {ms : List (String × Json)}
    (hnames : (ms.map Prod.fst).Nodup)
    (h : ∀ m ∈ ms, ∃ f, shape.find? (fun f => f.name == m.1) = some f ∧
      f.check (.ofJson m.2) = .ok ()) :
    fields expected shape (.ofJson (.object ms)) = .ok (ms.map fun m => (m.1, .ofJson m.2)) := by
  have hmembers : Draft.ofMembers ms =
      (ms.map fun m => (m.1, Draft.ofJson m.2)).map fun m => (some m.1, m.2) := by
    rw [Draft.ofMembers_eq_map, List.map_map]
    rfl
  rw [Draft.ofJson, hmembers, fields_object_eq_ok_iff, known_named]
  refine ⟨rfl, (List.filter_eq_self.2 ?_).symm, ?_, ?_⟩
  · simp only [List.forall_mem_map]
    intro m hm
    obtain ⟨f, hfind, -⟩ := h m hm
    rw [hfind, Option.isSome_some]
  · simp only [List.forall_mem_map]
    intro m hm
    obtain ⟨f, hfind, hcheck⟩ := h m hm
    exact (admits_iff_of_known hfind).2 hcheck
  · rwa [List.map_map]

theorem itemsOf_eq_ok {shape : List Field} {ms : List (String × Draft)}
    (h : List.Forall₂ (fun f m => f.name = m.1 ∧ f.check m.2 = .ok ()) shape ms)
    (more : List Field) : itemsOf none (shape ++ more) (ms.map Prod.snd) = .ok ms := by
  induction h with
  | nil => cases more <;> rfl
  | @cons f m shape ms hm h ih =>
      obtain ⟨name, d⟩ := m
      obtain ⟨rfl, hcheck⟩ := hm
      simp [itemsOf, hcheck, ih, bind, Except.bind, pure, Except.pure]

section

variable {shape : List Field} {written kept extra ms : List (String × Draft)}
  (h : List.Forall₂ (fun f m => f.name = m.1 ∧ f.check m.2 = .ok ()) shape written)
  (hnames : (written.map Prod.fst).Nodup)

include h hnames

theorem find?_of_mem {m : String × Draft} (hm : m ∈ written) :
    ∃ f, shape.find? (fun f => f.name == m.1) = some f ∧ f.check m.2 = .ok () := by
  induction h with
  | nil => cases hm
  | @cons f m' shape written hfirst h ih =>
      obtain ⟨hname, hcheck⟩ := hfirst
      rw [List.map_cons, List.nodup_cons] at hnames
      rcases List.mem_cons.1 hm with rfl | hmem
      · exact ⟨f, by rw [List.find?_cons, hname, beq_self_eq_true], hcheck⟩
      · have hne : f.name ≠ m.1 := fun heq =>
          hnames.1 (List.mem_map.2 ⟨m, hmem, heq.symm.trans hname⟩)
        rw [List.find?_cons, beq_false_of_ne hne]
        exact ih hnames.2 hmem

/-- The members of an object may stand in any order, some of them may be left out, and there may
be unknown ones among them. -/
theorem exists_fields_object (expected : String) (hkept : kept.Sublist written)
    (hextra : ∀ m ∈ extra, m.1 ∉ shape.map Field.name ∧ m.2.pass = .ok ())
    (hms : ms.Perm (kept ++ extra)) :
    ∃ found, found.Perm kept ∧
      fields expected shape (.object (ms.map fun m => (some m.1, m.2)) none) = .ok found := by
  have hunknown : ∀ m ∈ extra, shape.find? (fun f => f.name == m.1) = none := by
    intro m hm
    rw [List.find?_eq_none]
    intro f hf heq
    exact (hextra m hm).1 (List.mem_map.2 ⟨f, hf, beq_iff_eq.1 heq⟩)
  have hknown : (kept ++ extra).filter
      (fun m => (shape.find? fun f => f.name == m.1).isSome) = kept := by
    rw [List.filter_append, List.filter_eq_self.2, List.filter_eq_nil_iff.2, List.append_nil]
    · intro m hm
      rw [hunknown m hm]
      simp
    · intro m hm
      obtain ⟨f, hfind, -⟩ := find?_of_mem h hnames (hkept.subset hm)
      rw [hfind, Option.isSome_some]
  have hperm := (hms.filter fun m => (shape.find? fun f => f.name == m.1).isSome).trans
    (.of_eq hknown)
  refine ⟨_, hperm, fields_object_eq_ok_iff.2 ⟨rfl, (known_named ms).symm, ?_, ?_⟩⟩
  · simp only [List.forall_mem_map]
    intro m hm
    rcases List.mem_append.1 (hms.subset hm) with hm | hm
    · obtain ⟨f, hfind, hcheck⟩ := find?_of_mem h hnames (hkept.subset hm)
      exact (admits_iff_of_known hfind).2 hcheck
    · exact (admits_iff_of_unknown (hunknown m hm)).2 (hextra m hm).2
  · exact (hperm.map Prod.fst).nodup_iff.2 (hnames.sublist (hkept.map Prod.fst))

end

theorem check_of_eq_ok {name : String} {decode : Decoder α} {d : Draft} {a : α}
    (h : decode d = .ok a) : (Field.of name decode).check d = .ok () := by
  simp [Field.of, h, Except.map]

/-! ### Fields that were found -/

section

variable {name other : String} {d : Draft} {found : Fields} {decode : Decoder α} {default : α}

@[simp]
theorem get?_nil : Fields.get? [] name = none := rfl

theorem get?_cons : Fields.get? ((other, d) :: found) name =
    if name = other then some d else found.get? name := by
  rw [Fields.get?, List.lookup_cons]
  by_cases h : name = other
  · rw [if_pos h, h, beq_self_eq_true]
  · rw [if_neg h, beq_false_of_ne h]
    rfl

theorem get?_eq_some_of_mem (hnames : (found.map Prod.fst).Nodup) (h : (name, d) ∈ found) :
    found.get? name = some d := by
  induction found with
  | nil => cases h
  | cons m found ih =>
      obtain ⟨other, d'⟩ := m
      rw [List.map_cons, List.nodup_cons] at hnames
      rw [get?_cons]
      rcases List.mem_cons.1 h with heq | hmem
      · obtain ⟨rfl, rfl⟩ := Prod.mk.inj heq
        rw [if_pos rfl]
      · have hne : name ≠ other := by
          rintro rfl
          exact hnames.1 (List.mem_map.2 ⟨_, hmem, rfl⟩)
        rw [if_neg hne, ih hnames.2 hmem]

theorem get?_eq_none_of_not_mem (h : ∀ m ∈ found, m.1 ≠ name) : found.get? name = none := by
  induction found with
  | nil => rfl
  | cons m found ih =>
      rw [List.forall_mem_cons] at h
      rw [get?_cons, if_neg (Ne.symm h.1), ih h.2]

theorem required_eq_ok {write : α → Json} (hdecode : decode.ReadsBack write) {a : α}
    (h : found.get? name = some (.ofJson (write a))) : found.required name decode = .ok a := by
  rw [Fields.required, h]
  exact hdecode a

/-- A field that is found with its value or left out with the default has its value. -/
theorem withDefault_eq_ok (default : α) {write : α → Json} (hdecode : decode.ReadsBack write)
    {a : α}
    (h : found.get? name = some (.ofJson (write a)) ∨
      found.get? name = none ∧ Draft.ofJson (write a) = .ofJson (write default)) :
    found.withDefault name decode default = .ok a := by
  have hvalue := hdecode a
  rcases h with h | ⟨h, hwrite⟩
  · rwa [Fields.withDefault, h]
  · rwa [Fields.withDefault, h, ← hdecode default, ← hwrite]

theorem withDefault_optional {write : α → Json} (hdecode : decode.ReadsBack write)
    (hnull : ∀ a, write a ≠ .null) {o : Option α}
    (h : found.get? name = o.map fun a => .ofJson (write a)) :
    found.withDefault name (optional decode) none = .ok o := by
  cases o with
  | none => rw [Fields.withDefault, h, Option.map_none]
  | some a =>
      rw [Fields.withDefault, h, Option.map_some]
      exact optional_readsBack hdecode hnull (some a)

@[simp]
theorem required_cons : Fields.required ((other, d) :: found) name decode =
    if name = other then decode d else found.required name decode := by
  by_cases h : name = other <;> simp [Fields.required, get?_cons, h]

end

end Decode

end CatalogRules.Json
