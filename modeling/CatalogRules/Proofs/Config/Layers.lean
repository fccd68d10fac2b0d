import CatalogRules.Proofs.Config.Setting

/-!
Configurations from their layers. No setting looks at another one, so a group that is missing,
empty or incomplete leaves its other settings as they are, and unknown names change nothing.
However the number of threads is arrived at, it is at least one and at most eight.
-/

namespace CatalogRules

namespace Config

theorem bind_eq_ok_iff {α β : Type} {x : Except ConfigError α} {f : α → Except ConfigError β}
    {b : β} : x >>= f = .ok b ↔ ∃ a, x = .ok a ∧ f a = .ok b := by
  cases x <;> simp [bind, Except.bind]

end Config

namespace Setting

variable {env : Environment} {root : Toml.Members} {g : Toml} {w : Option Toml}

theorem decode_logging_eq_ok_iff {p : LogPreferences} :
    (LogPreferences.ofEnvironment env).decode g = .ok p ↔ g.IsGroup ∧
      target.Decides env (target.inGroup? g) p.target ∧
      level.Decides env (level.inGroup? g) p.level ∧
      logsFilters.Decides env (logsFilters.inGroup? g) p.logsFilters := by
  have htarget {w} := @setting?_eq_ok_iff g w target
  have hlevel {w} := @setting?_eq_ok_iff g w level
  have hfilters {w} := @setting?_eq_ok_iff g w logsFilters
  obtain ⟨t, l, b⟩ := p
  simp only [LogPreferences.decode, Config.bind_eq_ok_iff]
  constructor
  · rintro ⟨_, h₁, _, h₂, _, h₃, _, ht, _, hl, _, hb, hp⟩
    cases hp
    obtain ⟨hg, rfl⟩ := htarget.1 h₁
    obtain ⟨-, rfl⟩ := hlevel.1 h₂
    obtain ⟨-, rfl⟩ := hfilters.1 h₃
    exact ⟨hg, target.exists_read_iff.1 ⟨_, ht, rfl⟩, level.exists_read_iff.1 ⟨_, hl, rfl⟩,
      logsFilters.exists_read_iff.1 ⟨_, hb, rfl⟩⟩
  · rintro ⟨hg, htarget', hlevel', hfilters'⟩
    obtain ⟨_, ht, rfl⟩ := target.exists_read_iff.2 htarget'
    obtain ⟨_, hl, rfl⟩ := level.exists_read_iff.2 hlevel'
    obtain ⟨_, hb, rfl⟩ := logsFilters.exists_read_iff.2 hfilters'
    exact ⟨_, htarget.2 ⟨hg, rfl⟩, _, hlevel.2 ⟨hg, rfl⟩, _, hfilters.2 ⟨hg, rfl⟩, _, ht, _, hl,
      _, hb, rfl⟩

theorem decode_evaluation_eq_ok_iff {p : EvaluationPreferences} :
    (EvaluationPreferences.ofEnvironment env).decode g = .ok p ↔ g.IsGroup ∧
      threshold.Decides env (threshold.inGroup? g) p.threshold ∧
      threads.Decides env (threads.inGroup? g) p.threads := by
  have hthreshold {w} := @setting?_eq_ok_iff g w threshold
  have hthreads {w} := @setting?_eq_ok_iff g w threads
  obtain ⟨m, n⟩ := p
  simp only [EvaluationPreferences.decode, Config.bind_eq_ok_iff]
  constructor
  · rintro ⟨_, h₁, _, h₂, _, hm, _, hn, hp⟩
    cases hp
    obtain ⟨hg, rfl⟩ := hthreshold.1 h₁
    obtain ⟨-, rfl⟩ := hthreads.1 h₂
    exact ⟨hg, threshold.exists_read_iff.1 ⟨_, hm, rfl⟩, threads.exists_read_iff.1 ⟨_, hn, rfl⟩⟩
  · rintro ⟨hg, hthreshold', hthreads'⟩
    obtain ⟨_, hm, rfl⟩ := threshold.exists_read_iff.2 hthreshold'
    obtain ⟨_, hn, rfl⟩ := threads.exists_read_iff.2 hthreads'
    exact ⟨_, hthreshold.2 ⟨hg, rfl⟩, _, hthreads.2 ⟨hg, rfl⟩, _, hm, _, hn, rfl⟩

/-- A group without settings. One that is missing is read as it would be. -/
def emptyGroup : Toml := .table .header []

theorem read_logging (w : Option Toml) :
    Config.read (LogPreferences.ofEnvironment env).decode (.ofEnvironment env) w =
      (LogPreferences.ofEnvironment env).decode (w.getD emptyGroup) := by
  cases w <;> rfl

theorem read_evaluation (w : Option Toml) :
    Config.read (EvaluationPreferences.ofEnvironment env).decode (.ofEnvironment env) w =
      (EvaluationPreferences.ofEnvironment env).decode (w.getD emptyGroup) := by
  cases w with
  | none =>
      symm
      rw [Config.read, Option.getD_none, decode_evaluation_eq_ok_iff]
      exact ⟨.table, threshold.decides_start env, threads.decides_start env⟩
  | some v => rfl

theorem written?_eq (s : Setting) :
    s.written? root = s.inGroup? ((root.get? s.group).getD emptyGroup) := by
  rw [written?]
  cases root.get? s.group <;> rfl

theorem isGroup_getD_iff : (w.getD emptyGroup).IsGroup ↔ ∀ g ∈ w, g.IsGroup := by
  cases w with
  | none => simp [emptyGroup, Toml.IsGroup.table]
  | some g => simp

theorem read_logging_eq_ok_iff {p : LogPreferences} :
    Config.read (LogPreferences.ofEnvironment env).decode (.ofEnvironment env)
        (root.get? "logging") = .ok p ↔
      (∀ g ∈ root.get? "logging", g.IsGroup) ∧
        target.Decides env (target.written? root) p.target ∧
        level.Decides env (level.written? root) p.level ∧
        logsFilters.Decides env (logsFilters.written? root) p.logsFilters := by
  rw [read_logging, decode_logging_eq_ok_iff, isGroup_getD_iff, written?_eq, written?_eq,
    written?_eq]
  rfl

theorem read_evaluation_eq_ok_iff {p : EvaluationPreferences} :
    Config.read (EvaluationPreferences.ofEnvironment env).decode (.ofEnvironment env)
        (root.get? "evaluation") = .ok p ↔
      (∀ g ∈ root.get? "evaluation", g.IsGroup) ∧
        threshold.Decides env (threshold.written? root) p.threshold ∧
        threads.Decides env (threads.written? root) p.threads := by
  rw [read_evaluation, decode_evaluation_eq_ok_iff, isGroup_getD_iff, written?_eq, written?_eq]
  rfl

end Setting

namespace Config

open Setting

/-- What a document makes of an environment: its groups are groups, and every setting is
decided. -/
structure Layered (env : Environment) (root : Toml.Members) (c : Config) : Prop where
  groups : ∀ group ∈ ["logging", "evaluation"], ∀ g ∈ root.get? group, g.IsGroup
  settings : ∀ s ∈ Setting.all, s.Decides env (s.written? root) (s.of c)

variable {env : Environment} {text : String} {root : Toml.Members} {c : Config}

theorem decode_eq_ok_iff : decode (.ofEnvironment env) root = .ok c ↔ Layered env root c := by
  simp only [decode, bind_eq_ok_iff]
  constructor
  · rintro ⟨p, hp, q, hq, hc⟩
    cases hc
    obtain ⟨hlogs, ht, hl, hb⟩ := read_logging_eq_ok_iff.1 hp
    obtain ⟨hevals, hm, hn⟩ := read_evaluation_eq_ok_iff.1 hq
    refine ⟨?_, forall_mem_all.2 ⟨ht, hl, hb, hm, hn⟩⟩
    intro group hgroup
    simp only [List.mem_cons, List.not_mem_nil, or_false] at hgroup
    rcases hgroup with rfl | rfl
    · exact hlogs
    · exact hevals
  · intro h
    obtain ⟨ht, hl, hb, hm, hn⟩ := forall_mem_all.1 h.settings
    exact ⟨c.logging, read_logging_eq_ok_iff.2 ⟨h.groups _ (by simp), ht, hl, hb⟩,
      c.evaluation, read_evaluation_eq_ok_iff.2 ⟨h.groups _ (by simp), hm, hn⟩, rfl⟩

theorem ofText_eq_ok_iff :
    ofText env text = .ok c ↔ ∃ root, Toml.read? text = some root ∧ Layered env root c := by
  unfold ofText
  split
  · rename_i root hroot
    simp [decode_eq_ok_iff, hroot]
  · rename_i hroot
    simp [hroot]

end Config

namespace Evaluation

/-- Limits as they can be made: from preferences or for one thread, and then changed. -/
inductive Limits.Made : Limits → Prop
  | ofPreferences (p : EvaluationPreferences) : Made p.limits
  | sequential : Made sequential
  | withThreshold {l : Limits} (made : Made l) (threshold : Nat) : Made (l.withThreshold threshold)
  | withThreads {l : Limits} (made : Made l) (threads : Nat) : Made (l.withThreads threads)

theorem clampThreads_bounds (n : Nat) : 1 ≤ clampThreads n ∧ clampThreads n ≤ 8 :=
  ⟨one_le_clampThreads n, clampThreads_le n⟩

theorem Limits.Made.threads_bounds {l : Limits} (h : l.Made) : 1 ≤ l.threads ∧ l.threads ≤ 8 := by
  induction h with
  | ofPreferences p => exact clampThreads_bounds p.threads
  | sequential => exact ⟨Nat.le_refl 1, by decide⟩
  | withThreshold _ _ ih => exact ih
  | withThreads _ threads _ => exact clampThreads_bounds threads

end Evaluation

namespace Config

open Setting (threads all)

variable {env : Environment} {text : String} {root : Toml.Members} {c : Config}

structure Gives (env : Environment) (text : String) (root : Toml.Members) (c : Config) : Prop where
  read : Toml.read? text = some root
  ofText : Config.ofText env text = .ok c

theorem Gives.layered (h : Gives env text root c) : Layered env root c := by
  obtain ⟨root', hroot, hlayered⟩ := ofText_eq_ok_iff.1 h.ofText
  obtain rfl := Option.some.inj (h.read.symm.trans hroot)
  exact hlayered

theorem Layered.threads_bounds (h : Layered env root c) :
    1 ≤ c.evaluation.threads ∧ c.evaluation.threads ≤ 8 := by
  obtain ⟨n, hn⟩ := (h.settings threads (by simp [all])).exists_bound
  change Evaluation.clampThreads n = c.evaluation.threads at hn
  rw [← hn]
  exact Evaluation.clampThreads_bounds n

/-- Each setting is decided by its own layers, the document before the environment and the
environment before what is built in, whatever else the document says; and the number of threads
is between one and eight in every configuration and in all limits that are made. -/
theorem settings_in_layers (env : Environment) :
    (∀ text c, ofText env text = .ok c ↔
      ∃ root, Toml.read? text = some root ∧ Layered env root c) ∧
    (∀ text text' root root' c c', Gives env text root c → Gives env text' root' c' →
      ∀ s ∈ all, s.written? root = s.written? root' → s.of c = s.of c') ∧
    (∀ c, c = ofEnvironment env ∨ (∃ text, ofText env text = .ok c) →
      1 ≤ c.evaluation.threads ∧ c.evaluation.threads ≤ 8) ∧
    ∀ l : Evaluation.Limits, l.Made → 1 ≤ l.threads ∧ l.threads ≤ 8 := by
  refine ⟨fun text c => ofText_eq_ok_iff, ?_, ?_, fun l hl => hl.threads_bounds⟩
  · intro text text' root root' c c' h h' s hs hwritten
    have hdecides := h.layered.settings s hs
    rw [hwritten] at hdecides
    exact hdecides.eq (h'.layered.settings s hs)
  · intro c hc
    rcases hc with rfl | ⟨text, htext⟩
    · exact Evaluation.clampThreads_bounds _
    · obtain ⟨root, -, hlayered⟩ := ofText_eq_ok_iff.1 htext
      exact hlayered.threads_bounds

/-- Two entries that can be read, one that cannot, and one out of bounds. -/
def patchyEnvironment : Environment where
  entries := [("SEGMENTS_LOG_LEVEL", "Info"), ("SEGMENTS_LOG_BACKEND", "syslog"),
    ("SEGMENTS_PARALLEL_RESIDUAL_THRESHOLD", "+500"), ("SEGMENTS_MAX_RESIDUAL_THREADS", "0")]
  processors := 4

/-- A document with two of the settings, each beside an unknown name. -/
def patchyDocument : String :=
  "shop = 7\n[logging]\nlog_compiled_filters = true\ncolour = \"red\"\n" ++
    "[evaluation]\nmax_residual_threads = 64\nretries = 3\n"

def patchyConfig : Config := ⟨⟨.console, .info, true⟩, ⟨500, 8⟩⟩

theorem patchyConfig_in_layers :
    ofText patchyEnvironment patchyDocument = .ok patchyConfig ∧
      (∃ root, Toml.read? patchyDocument = some root ∧
        Layered patchyEnvironment root patchyConfig) ∧
      1 ≤ patchyConfig.evaluation.threads ∧ patchyConfig.evaluation.threads ≤ 8 := by
  obtain ⟨hlayers, -, hthreads, -⟩ := settings_in_layers patchyEnvironment
  have hsome : (ofText patchyEnvironment patchyDocument).toOption = some patchyConfig := by
    decide +kernel
  have htext : ofText patchyEnvironment patchyDocument = .ok patchyConfig := by
    cases h : ofText patchyEnvironment patchyDocument with
    | error e =>
        rw [h] at hsome
        cases hsome
    | ok c =>
        rw [h] at hsome
        rw [Option.some.inj hsome]
  exact ⟨htext, (hlayers _ _).1 htext, hthreads _ (.inr ⟨_, htext⟩)⟩

end Config

end CatalogRules
