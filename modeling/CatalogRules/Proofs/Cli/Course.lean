import CatalogRules.Cli.Run
import CatalogRules.Proofs.Ingest.Run
import CatalogRules.Proofs.Store.Document

/-!
What the commands do to files. An evaluation and a listing leave all files as they are.
An ingestion writes its record file, as its last step and only when every product has
been saved, so it leaves all files as they are when it fails. Whatever happens, one answer
is printed, and it says what the exit code says.
-/

namespace CatalogRules.Cli

variable {s : Surroundings} {config : Config} {files files' : Files} {j : Log.Journal}

/-- The answer says whether the command has succeeded. -/
def Ran.Honest (ran : Ran) : Prop :=
  ∃ members, ran.answer = .object members ∧
    List.lookup "success" members = some (.bool ran.succeeded)

theorem honest_of_envelope (e : Envelope Record) (j : Log.Journal) (files : Files) :
    Ran.Honest ⟨e.success, Service.envelopeJson e, j, files⟩ :=
  ⟨_, rfl, by simp⟩

theorem serve_eq_ok {store : Store} {p : Program (Envelope Record)} {ran : Ran}
    (h : serve files j store p = .ok ran) : ran.Honest ∧ ran.files = files := by
  unfold serve at h
  simp only at h
  split at h
  · cases h
    exact ⟨honest_of_envelope _ _ _, rfl⟩
  · cases h

/-- An ingestion that succeeds: the store of the record file, the products of the source
and their records, and the files once the records are in the store and it is saved. -/
structure Ingests (files : Files) (source records : String) (old : Store)
    (products : List Product) (new : List Record) (files' : Files) : Prop where
  loaded : Store.load files records = .ok old
  sourced : Ingest.Sourced files source products new
  saved : (new.foldl Store.insert old).save files records = .ok files'

variable {source records : String} {old : Store} {products : List Product} {new : List Record}

theorem runIngest_of_ingests (h : Ingests files source records old products new files')
    (s : Surroundings) (j : Log.Journal) :
    ∃ j', runIngest s files j source records =
      .ok ⟨true, summaryJson s.time (Ingest.summaryOf old new), j', files'⟩ := by
  obtain ⟨j', hrun⟩ := Ingest.run_ingestFile_of_sourced h.sourced j old
  exact ⟨j', by simp [runIngest, h.loaded, hrun, h.saved]⟩

/-- An ingestion fails, or it has done all of its steps. -/
theorem runIngest_cases (s : Surroundings) (files : Files) (j : Log.Journal)
    (source records : String) :
    (∃ failure, runIngest s files j source records = .error failure) ∨
    ∃ old products new files', Ingests files source records old products new files' := by
  unfold runIngest
  cases hload : Store.load files records with
  | error e => exact .inl ⟨_, rfl⟩
  | ok old =>
      rcases Ingest.exists_sourced_or_run_eq_error files source j old with
        ⟨products, new, hsourced⟩ | ⟨e, j', s', hrun⟩
      · cases hsave : (new.foldl Store.insert old).save files records with
        | error e =>
            obtain ⟨j', hrun⟩ := Ingest.run_ingestFile_of_sourced hsourced j old
            exact .inl ⟨⟨e.message, j'⟩, by simp [hrun, hsave]⟩
        | ok files' => exact .inr ⟨old, products, new, files', hload, hsourced, hsave⟩
      · exact .inl ⟨⟨e.message, j'⟩, by simp [hrun]⟩

namespace Ingests

theorem load_records (h : Ingests files source records old products new files') :
    Store.load files' records = .ok (new.foldl Store.insert old) :=
  ((Store.load_save _ _).2 _ _ h.saved (Store.resolve_ne_null_of_load h.loaded)).2.1

/-- The same ingestion once more finds its own records, if it reads the same source. -/
theorem again (h : Ingests files source records old products new files')
    (hsource : files.resolve source ≠ files.resolve records) :
    Ingests files' source records (new.foldl Store.insert old) products new files' := by
  obtain ⟨text, hread, htext, hmapped⟩ := h.sourced
  have hwrite := Store.write_of_save h.saved
  refine ⟨h.load_records, ⟨text, ?_, htext, hmapped⟩, ?_⟩
  · exact Files.read_of_write_elsewhere hwrite hsource hread
  · rw [Store.foldl_insert_foldl_insert]
    exact Store.save_of_write (Files.write_of_write hwrite)

end Ingests

theorem runCommand_honest {command : Command} {ran : Ran}
    (h : runCommand s config files j command = .ok ran) : ran.Honest := by
  cases command with
  | evaluate records rules =>
      simp only [runCommand, runEvaluate] at h
      split at h
      · cases h
      · split at h
        · cases h
        · exact (serve_eq_ok h).1
  | products records =>
      simp only [runCommand, runProducts] at h
      split at h
      · cases h
      · exact (serve_eq_ok h).1
  | ingest source records =>
      rcases runIngest_cases s files j source records with
        ⟨failure, herror⟩ | ⟨old, products, new, files', hingests⟩
      · simp [runCommand, herror] at h
      · obtain ⟨j', hrun⟩ := runIngest_of_ingests hingests s j
        simp only [runCommand, hrun, Except.ok.injEq] at h
        subst h
        exact ⟨_, rfl, by simp⟩

theorem files_of_runEvaluate {records : String} {rules : RuleSource} {ran : Ran}
    (h : runEvaluate s config files j records rules = .ok ran) : ran.files = files := by
  unfold runEvaluate at h
  split at h
  · cases h
  · split at h
    · cases h
    · exact (serve_eq_ok h).2

theorem files_of_runProducts {records : String} {ran : Ran}
    (h : runProducts files j records = .ok ran) : ran.files = files := by
  unfold runProducts at h
  split at h
  · cases h
  · exact (serve_eq_ok h).2

/-- The standard output is one JSON object, and its member `success` says whether the exit
code is that of success. -/
def Outcome.Honest (o : Outcome) : Prop :=
  ∃ members, o.stdout = (Json.object members).pretty ++ "\n" ∧
    (o.exit = 0 ↔ List.lookup "success" members = some (.bool true))

theorem settle_honest {result : Except Failure Ran} (h : ∀ ran, result = .ok ran → ran.Honest)
    (files : Files) : (settle files result).Honest := by
  cases result with
  | error failure => exact honest_of_envelope (.ofFailure failure.message 500) _ _
  | ok ran => exact h ran rfl

theorem runConfigured_honest (s : Surroundings) (config : Config) (files : Files)
    (command : Command) : (runConfigured s config files command).Honest := by
  obtain ⟨members, hanswer, hsuccess⟩ := settle_honest
    (fun _ => runCommand_honest (s := s) (j := .opened config.logging.level s.time)) files
  refine ⟨members, by rw [runConfigured, hanswer], ?_⟩
  rw [hsuccess, runConfigured]
  cases (settle files (runCommand s config files _ command)).succeeded <;> simp

theorem runConfigured_of_failure {command : Command} {failure : Failure}
    (h : runCommand s config files (.opened config.logging.level s.time) command =
      .error failure) :
    (runConfigured s config files command).exit = 1 ∧
      (runConfigured s config files command).files = files := by
  simp [runConfigured, h, settle]

theorem runConfigured_of_ingests (h : Ingests files source records old products new files')
    (s : Surroundings) (config : Config) :
    (runConfigured s config files (.ingest source records)).exit = 0 ∧
      (runConfigured s config files (.ingest source records)).files = files' ∧
      (runConfigured s config files (.ingest source records)).stdout =
        (summaryJson s.time (Ingest.summaryOf old new)).pretty ++ "\n" := by
  obtain ⟨j', hrun⟩ := runIngest_of_ingests h s (.opened config.logging.level s.time)
  simp [runConfigured, runCommand, hrun, settle]

theorem files_of_runConfigured_evaluate (s : Surroundings) (config : Config) (files : Files)
    (records : String) (rules : RuleSource) :
    (runConfigured s config files (.evaluate records rules)).files = files := by
  simp only [runConfigured, runCommand]
  cases h : runEvaluate s config files (.opened config.logging.level s.time) records rules with
  | error failure => rfl
  | ok ran => exact files_of_runEvaluate h

theorem files_of_runConfigured_products (s : Surroundings) (config : Config) (files : Files)
    (records : String) : (runConfigured s config files (.products records)).files = files := by
  simp only [runConfigured, runCommand]
  cases h : runProducts files (.opened config.logging.level s.time) records with
  | error failure => rfl
  | ok ran => exact files_of_runProducts h

theorem run_of_loadConfig {args : List String} {i : Invocation}
    (hargs : readArguments args = .ok (.run i))
    (hconfig : loadConfig s.environment files i.config = .ok config) :
    run s files args = runConfigured s config files i.command := by
  simp [run, hargs, runInvocation, hconfig]

theorem loadConfig_of_write {env : Environment} {path content : String} {source : Option String}
    (hwrite : files.write path content = .ok files')
    (hsource : ∀ other, source = some other → files.resolve other ≠ files.resolve path)
    (h : loadConfig env files source = .ok config) :
    loadConfig env files' source = .ok config := by
  cases source with
  | none => exact h
  | some other =>
      simp only [loadConfig, Config.load] at h ⊢
      cases hread : files.read other with
      | error cause => simp [hread] at h
      | ok text =>
          rw [Files.read_of_write_elsewhere hwrite (hsource other rfl) hread]
          simpa [hread] using h

/-- An ingestion that is run again where it has succeeded, with its source and its
configuration apart from the record file, finds every record in the store. -/
theorem runConfigured_again (h : Ingests files source records old products new files')
    (hsource : files.resolve source ≠ files.resolve records) (s : Surroundings)
    (config : Config) :
    (runConfigured s config files' (.ingest source records)).exit = 0 ∧
      (runConfigured s config files' (.ingest source records)).files = files' ∧
      (runConfigured s config files' (.ingest source records)).stdout =
        (summaryJson s.time ⟨products.length, products.length, 0, products.length⟩).pretty ++
          "\n" := by
  have hagain := runConfigured_of_ingests (h.again hsource) s config
  have hsummary : Ingest.summaryOf (new.foldl Store.insert old) new =
      ⟨products.length, products.length, 0, products.length⟩ := by
    obtain ⟨-, -, -, hmapped⟩ := h.sourced
    rw [Ingest.summaryOf_of_present fun r hr => Store.isSome_get?_foldl_insert old hr,
      List.Forall₂.length_eq hmapped]
  rwa [hsummary] at hagain

theorem run_again {args : List String} {path : Option String}
    (hargs : readArguments args = .ok (.run ⟨path, .ingest source records⟩))
    (hconfig : loadConfig s.environment files path = .ok config)
    (h : Ingests files source records old products new files')
    (hsource : files.resolve source ≠ files.resolve records)
    (hpath : ∀ other, path = some other → files.resolve other ≠ files.resolve records)
    (s' : Surroundings) (henvironment : s'.environment = s.environment) :
    (run s' files' args).exit = 0 ∧ (run s' files' args).files = files' ∧
      (run s' files' args).stdout =
        (summaryJson s'.time ⟨products.length, products.length, 0, products.length⟩).pretty ++
          "\n" := by
  have hconfig' : loadConfig s'.environment files' path = .ok config := by
    rw [henvironment]
    exact loadConfig_of_write (Store.write_of_save h.saved) hpath hconfig
  rw [run_of_loadConfig hargs hconfig']
  exact runConfigured_again h hsource s' config

/-- What a command does once its arguments have been read and its configuration has been
loaded. One JSON object is printed, and the exit code is zero exactly if its `success` is
true. An evaluation and a listing change no file. An ingestion changes no file but its
record file, and none when it fails; when it succeeds, its record file has the records
that it had, overridden by those of the products of which the last one counts. If neither
the products nor the configuration stand in the record file themselves, the same command
once more leaves all files as they are and has nothing but updates to report. -/
theorem run_course (s : Surroundings) (files : Files) (args : List String) (i : Invocation)
    (config : Config) (hargs : readArguments args = .ok (.run i))
    (hconfig : loadConfig s.environment files i.config = .ok config) :
    let o := run s files args
    o.Honest ∧
    match i.command with
    | .evaluate _ _ | .products _ => o.files = files
    | .ingest source records =>
        (∀ names, files.resolve records ≠ .ok names →
          o.files.find? names = files.find? names) ∧
        (o.exit ≠ 0 → o.files = files) ∧
        (o.exit = 0 → ∃ old products new stored,
          Store.load files records = .ok old ∧
          Ingest.Sourced files source products new ∧
          Store.load o.files records = .ok stored ∧
          (∀ id, stored.get? id = (Store.latest? id new).or (old.get? id)) ∧
          (files.resolve source ≠ files.resolve records →
            (∀ path, i.config = some path → files.resolve path ≠ files.resolve records) →
            ∀ s' : Surroundings, s'.environment = s.environment →
              let again := run s' o.files args
              again.exit = 0 ∧ again.files = o.files ∧
                again.stdout = (summaryJson s'.time
                  ⟨products.length, products.length, 0, products.length⟩).pretty ++ "\n")) := by
  intro o
  have hrun : o = runConfigured s config files i.command := run_of_loadConfig hargs hconfig
  refine ⟨hrun ▸ runConfigured_honest s config files i.command, ?_⟩
  obtain ⟨source?, command⟩ := i
  cases command with
  | evaluate records rules =>
      rw [hrun]
      exact files_of_runConfigured_evaluate s config files records rules
  | products records =>
      rw [hrun]
      exact files_of_runConfigured_products s config files records
  | ingest source records =>
      simp only at hrun ⊢
      rcases runIngest_cases s files (.opened config.logging.level s.time) source records with
        ⟨failure, herror⟩ | ⟨old, products, new, files', hingests⟩
      · have hfailed : o.exit = 1 ∧ o.files = files := hrun ▸ runConfigured_of_failure herror
        obtain ⟨hexit, hfiles⟩ := hfailed
        refine ⟨fun names _ => by rw [hfiles], fun _ => hfiles, fun hzero => ?_⟩
        rw [hexit] at hzero
        cases hzero
      · obtain ⟨hexit, hfiles, -⟩ := hrun ▸ runConfigured_of_ingests hingests s config
        have hwrite := Store.write_of_save hingests.saved
        refine ⟨fun names hnames => ?_, fun hfailed => absurd hexit hfailed, fun _ => ?_⟩
        · rw [hfiles]
          exact Files.find?_of_write hwrite hnames
        · rw [hfiles]
          refine ⟨old, products, new, new.foldl Store.insert old, hingests.loaded,
            hingests.sourced, hingests.load_records, Store.get?_foldl_insert old new, ?_⟩
          exact fun hsource hother => run_again hargs hconfig hingests hsource hother

def bare : Surroundings := ⟨⟨[], 4⟩, "", "request", "0"⟩

def shop : String := "[\x7b\"id\":1,\"name\":\"Mug\"\x7d]"

def toRecords : List String := ["ingest", "--source", "shop.json", "--records", "records.json"]

theorem run_toRecords_again :
    let files : Files := ⟨[(["shop.json"], .file shop)]⟩
    let o := run bare files toRecords
    o.exit = 0 ∧ o.files.find? ["shop.json"] = files.find? ["shop.json"] ∧
      (run bare o.files toRecords).files = o.files := by
  intro files o
  have hcourse := run_course bare files toRecords ⟨none, .ingest "shop.json" "records.json"⟩ _
    (by decide +kernel) rfl
  have hexit : o.exit = 0 := by decide +kernel
  obtain ⟨-, helsewhere, -, hsuccess⟩ := hcourse
  obtain ⟨_, _, _, _, _, _, _, _, hagain⟩ := hsuccess hexit
  refine ⟨hexit, helsewhere ["shop.json"] (by decide +kernel), ?_⟩
  exact (hagain (by decide +kernel) (by simp) bare rfl).2.1

/-- A record file that is its own source need not stay as it is: its records have titles,
but products have names, so the titles are lost when it is ingested again. One that is
also the configuration file is none any more once it has been written. -/
theorem run_shared_file_again :
    (let args := ["ingest", "--source", "shop.json", "--records", "shop.json"]
      let o := run bare ⟨[(["shop.json"], .file shop)]⟩ args
      let again := run bare o.files args
      o.exit = 0 ∧ again.exit = 0 ∧
        again.files.read "shop.json" ≠ o.files.read "shop.json") ∧
    (let args := ["--config", "both", "ingest", "--source", "shop.json", "--records", "both"]
      let o := run bare ⟨[(["shop.json"], .file "[]"), (["both"], .file "[[1]]")]⟩ args
      o.exit = 0 ∧ (run bare o.files args).exit ≠ 0) := by
  decide +kernel

end CatalogRules.Cli
