import CatalogRules.Config.Document

/-!
Settings and their layers. A setting is what the document says of it; where the document is
silent, what its entry in the environment says; and where there is no entry that can be read,
what is built in. The five settings differ in where they stand, how they are written and what is
built in, and are decided in one way.
-/

namespace CatalogRules

namespace Toml

/-- A value that is a name, alone or as a table with nothing under it. -/
inductive Names (name : String) : Toml → Prop
  | alone : Names name (.string name)
  | table {origin : Origin} {inner : Toml} (void : Config.isVoid inner = true) :
      Names name (.table origin [(name, inner)])

inductive IsGroup : Toml → Prop
  | table {origin : Origin} {members : Members} : IsGroup (.table origin members)
  | array {items : List Toml} : IsGroup (.array items)
  | tables {front : List Members} {last : Members} : IsGroup (.tables front last)
  | date : IsGroup .date

end Toml

namespace Config

variable {α : Type} {v : Toml}

theorem find?_name_eq_some_iff {all : List α} {name : α → String}
    (hname : ∀ a, all.find? (fun b => name b == name a) = some a) (n : String) (a : α) :
    all.find? (fun b => name b == n) = some a ↔ name a = n := by
  constructor
  · intro h
    have hfound := List.find?_some h
    exact beq_iff_eq.1 hfound
  · rintro rfl
    exact hname a

theorem choice_eq_ok_iff {find : String → Option α} {name : α → String}
    (hfind : ∀ n a, find n = some a ↔ name a = n) {a : α} :
    choice find v = .ok a ↔ v.Names (name a) := by
  cases v with
  | string n =>
      have hfound : choice find (.string n) = .ok a ↔ find n = some a := by
        cases hn : find n <;> simp [choice, hn]
      rw [hfound, hfind]
      constructor
      · rintro rfl
        exact .alone
      · intro h
        cases h
        rfl
  | table origin members =>
      rcases members with _ | ⟨⟨n, inner⟩, _ | ⟨other, rest⟩⟩
      · exact ⟨nofun, nofun⟩
      · have hfound : choice find (.table origin [(n, inner)]) = .ok a ↔
            isVoid inner = true ∧ find n = some a := by
          by_cases hvoid : isVoid inner = true
          · cases hn : find n <;> simp [choice, hvoid, hn]
          · simp [choice, hvoid]
        rw [hfound, hfind]
        constructor
        · rintro ⟨hvoid, rfl⟩
          exact .table hvoid
        · intro h
          cases h with
          | table void => exact ⟨void, rfl⟩
      · exact ⟨nofun, nofun⟩
  | _ => exact ⟨nofun, nofun⟩

theorem flag_eq_ok_iff {b : Bool} : flag v = .ok b ↔ v = .boolean b := by
  cases v <;> simp [flag]

theorem count_eq_ok_iff {n : Nat} : count v = .ok n ↔ v = .integer n := by
  cases v with
  | integer i =>
      simp only [count, Toml.integer.injEq]
      split
      · simp only [Except.ok.injEq]
        omega
      · simp only [reduceCtorEq, false_iff]
        omega
  | _ => simp [count]

end Config

/-- A setting of a configuration, and what its layers are. -/
structure Setting where
  Value : Type
  /-- Where a configuration has it. -/
  of : Config → Value
  group : String
  name : String
  /-- Where it stands in a group without names. -/
  position : Nat
  /-- How a document writes its values. -/
  Writes : Toml → Value → Prop
  decode : Toml → Except ConfigError Value
  decode_eq_ok_iff : ∀ {v : Toml} {a : Value}, decode v = .ok a ↔ Writes v a
  /-- Its name in the environment. -/
  entry : String
  /-- How the environment writes its values. -/
  Tells : String → Value → Prop
  parse : String → Option Value
  parse_eq_some_iff : ∀ {text : String} {a : Value}, parse text = some a ↔ Tells text a
  builtIn : Environment → Value
  /-- The values that it is kept to. -/
  bound : Value → Value
  bound_bound : ∀ a : Value, bound (bound a) = bound a

namespace Setting

def inGroup? (s : Setting) : Toml → Option Toml
  | .table _ members => Toml.Members.get? members s.name
  | .array items => items[s.position]?
  | .tables front last => (front ++ [last])[s.position]?.map (.table .header)
  | _ => none

def written? (s : Setting) (root : Toml.Members) : Option Toml :=
  (root.get? s.group).bind s.inGroup?

/-- The value of a setting of which a document says what is given. -/
inductive Decides (s : Setting) (env : Environment) : Option Toml → s.Value → Prop
  | document {v : Toml} {a : s.Value} (writes : s.Writes v a) : Decides s env (some v) (s.bound a)
  | environment {text : String} {a : s.Value} (entry : env.get? s.entry = some text)
      (tells : s.Tells text a) : Decides s env none (s.bound a)
  | builtIn (silent : ∀ text a, env.get? s.entry = some text → ¬s.Tells text a) :
      Decides s env none (s.bound (s.builtIn env))

def target : Setting where
  Value := LogTarget
  of c := c.logging.target
  group := "logging"
  name := "backend"
  position := 0
  Writes v t := v.Names t.name
  decode := Config.choice LogTarget.ofName?
  decode_eq_ok_iff :=
    Config.choice_eq_ok_iff (Config.find?_name_eq_some_iff LogTarget.ofName?_name)
  entry := "SEGMENTS_LOG_BACKEND"
  Tells text t := String.ofList (Value.lowerAscii text.toList) ∈ t.variableNames
  parse := LogTarget.ofVariable?
  parse_eq_some_iff := LogTarget.ofVariable?_eq_some_iff
  builtIn _ := .console
  bound := id
  bound_bound _ := rfl

def level : Setting where
  Value := Log.Level
  of c := c.logging.level
  group := "logging"
  name := "min_log_level"
  position := 1
  Writes v l := v.Names l.longName
  decode := Config.choice Log.Level.ofLongName?
  decode_eq_ok_iff :=
    Config.choice_eq_ok_iff (Config.find?_name_eq_some_iff Log.Level.ofLongName?_longName)
  entry := "SEGMENTS_LOG_LEVEL"
  Tells text l := String.ofList (Value.lowerAscii text.toList) ∈ l.variableNames
  parse := Log.Level.ofVariable?
  parse_eq_some_iff := Log.Level.ofVariable?_eq_some_iff
  builtIn _ := .warning
  bound := id
  bound_bound _ := rfl

def logsFilters : Setting where
  Value := Bool
  of c := c.logging.logsFilters
  group := "logging"
  name := "log_compiled_filters"
  position := 2
  Writes v b := v = .boolean b
  decode := Config.flag
  decode_eq_ok_iff := Config.flag_eq_ok_iff
  entry := "SEGMENTS_LOG_COMPILED_FILTERS"
  Tells text b := text = Value.booleanText b
  parse := Config.readFlag?
  parse_eq_some_iff := Config.readFlag?_eq_some_iff
  builtIn _ := false
  bound := id
  bound_bound _ := rfl

def threshold : Setting where
  Value := Nat
  of c := c.evaluation.threshold
  group := "evaluation"
  name := "parallel_residual_threshold"
  position := 0
  Writes v n := v = .integer n
  decode := Config.count
  decode_eq_ok_iff := Config.count_eq_ok_iff
  entry := "SEGMENTS_PARALLEL_RESIDUAL_THRESHOLD"
  Tells text n := Config.IsCount text.toList n ∧ n ≤ Config.greatestCount
  parse := Config.readCount?
  parse_eq_some_iff := Config.readCount?_eq_some_iff
  builtIn _ := 10000
  bound := id
  bound_bound _ := rfl

def threads : Setting where
  Value := Nat
  of c := c.evaluation.threads
  group := "evaluation"
  name := "max_residual_threads"
  position := 1
  Writes v n := v = .integer n
  decode := Config.count
  decode_eq_ok_iff := Config.count_eq_ok_iff
  entry := "SEGMENTS_MAX_RESIDUAL_THREADS"
  Tells text n := Config.IsCount text.toList n ∧ n ≤ Config.greatestCount
  parse := Config.readCount?
  parse_eq_some_iff := Config.readCount?_eq_some_iff
  builtIn env := env.processors
  bound n := max 1 (min n 8)
  bound_bound n := by omega

def all : List Setting := [target, level, logsFilters, threshold, threads]

theorem forall_mem_all {motive : Setting → Prop} :
    (∀ s ∈ all, motive s) ↔
      motive target ∧ motive level ∧ motive logsFilters ∧ motive threshold ∧ motive threads := by
  simp [all]

variable {env : Environment} {g : Toml} {w : Option Toml}

theorem setting?_eq_ok_iff (s : Setting) :
    Config.setting? g s.position s.name = .ok w ↔ g.IsGroup ∧ s.inGroup? g = w := by
  cases g with
  | table => simp [Config.setting?, inGroup?, Toml.IsGroup.table]
  | array => simp [Config.setting?, inGroup?, Toml.IsGroup.array]
  | tables => simp [Config.setting?, inGroup?, Toml.IsGroup.tables]
  | date => simp [Config.setting?, inGroup?, Toml.IsGroup.date]
  | _ =>
      simp only [Config.setting?, reduceCtorEq, false_iff]
      exact fun h => nomatch h.1

theorem Decides.eq {s : Setting} {a b : s.Value} (ha : s.Decides env w a)
    (hb : s.Decides env w b) : a = b := by
  cases ha with
  | document writes =>
      cases hb with
      | document writes' =>
          have hdecode := (s.decode_eq_ok_iff.2 writes).symm.trans (s.decode_eq_ok_iff.2 writes')
          rw [Except.ok.inj hdecode]
  | environment entry tells =>
      cases hb with
      | environment entry' tells' =>
          obtain rfl := Option.some.inj (entry.symm.trans entry')
          have hparse := (s.parse_eq_some_iff.2 tells).symm.trans (s.parse_eq_some_iff.2 tells')
          rw [Option.some.inj hparse]
      | builtIn silent => exact absurd tells (silent _ _ entry)
  | builtIn silent =>
      cases hb with
      | environment entry tells => exact absurd tells (silent _ _ entry)
      | builtIn => rfl

theorem Decides.exists_bound {s : Setting} {a : s.Value} (h : s.Decides env w a) :
    ∃ b, s.bound b = a := by
  cases h with
  | document writes => exact ⟨_, rfl⟩
  | environment entry tells => exact ⟨_, rfl⟩
  | builtIn silent => exact ⟨_, rfl⟩

/-- The value that a setting has without a document. -/
def start (s : Setting) (env : Environment) : s.Value :=
  s.bound (((env.get? s.entry).bind s.parse).getD (s.builtIn env))

theorem decides_start (s : Setting) (env : Environment) : s.Decides env none (s.start env) := by
  rw [start]
  cases hentry : env.get? s.entry with
  | none => exact .builtIn fun text a htext => nomatch hentry.symm.trans htext
  | some text =>
      rw [Option.bind_some]
      cases hparse : s.parse text with
      | none =>
          refine .builtIn ?_
          intro text' a htext' htells
          obtain rfl := Option.some.inj (hentry.symm.trans htext')
          cases hparse.symm.trans (s.parse_eq_some_iff.2 htells)
      | some a => exact .environment hentry (s.parse_eq_some_iff.1 hparse)

theorem bound_start (s : Setting) (env : Environment) : s.bound (s.start env) = s.start env :=
  s.bound_bound _

/-- A setting is decided by decoding what the document says over the value without one. -/
theorem exists_read_iff (s : Setting) {b : s.Value} :
    (∃ a, Config.read s.decode (s.start env) w = .ok a ∧ s.bound a = b) ↔
      s.Decides env w b := by
  cases w with
  | none =>
      constructor
      · rintro ⟨a, ha, rfl⟩
        rw [← Except.ok.inj ha, s.bound_start]
        exact s.decides_start env
      · intro h
        exact ⟨s.start env, rfl, (s.bound_start env).trans ((s.decides_start env).eq h)⟩
  | some v =>
      constructor
      · rintro ⟨a, ha, rfl⟩
        exact .document (s.decode_eq_ok_iff.1 ha)
      · intro h
        cases h with
        | document writes => exact ⟨_, s.decode_eq_ok_iff.2 writes, rfl⟩

end Setting

end CatalogRules
