import CatalogRules.Evaluation.Outage
import CatalogRules.Evaluation.RequestId
import CatalogRules.Proofs.Evaluation.Evaluate
import CatalogRules.Proofs.Text.Digits

/-!
The trace that an evaluation leaves in a log of all details. Its events follow from
how far the evaluation gets and from its result. All of them carry the id of the
request, and they give the statistics that the evaluation returns.
-/

namespace CatalogRules

open Log (Journal Entry Event Level Clipped)

namespace Evaluation

structure Progress where
  /-- Its lines are conditions. -/
  parsed : Bool
  /-- The conditions make a filter. -/
  compiled : Bool
  /-- The store answers the query of the filter. -/
  found : Bool
  deriving DecidableEq

def progress {σ : Type} (b : Backend σ) (s : σ) (text : String) : Progress :=
  match RuleSet.read text with
  | .error _ => ⟨false, false, false⟩
  | .ok conditions =>
    match Filter.compile conditions with
    | .error _ => ⟨true, false, false⟩
    | .ok filter => ⟨true, true, (b.find s filter.query).1.isOk⟩

/-- The level, the code and the message of an event. -/
abbrev Heading := Level × String × String

def headings (p : Progress) (logsFilters : Bool) (result : Except EvaluationError Outcome) :
    List Heading :=
  (if p.parsed then [(.info, Code.rulesParsed, "Rule lines parsed")] else []) ++
  (if p.compiled then [(.info, Code.filterCompiled, "Rule set compiled")] else []) ++
  (if p.compiled && logsFilters then [(.debug, Code.plainDebug, "Compiled store query")] else []) ++
  (if p.found then [(.debug, Code.plainDebug, "Store query executed")] else []) ++
  [match result with
    | .ok _ => (.info, Code.evaluationComplete, "Segment evaluated")
    | .error e =>
      (.error, e.code,
        if e.isClientError then "Rule set rejected" else "Segment evaluation failed")]

/-- What the events say of an evaluation with these statistics, by their messages. -/
def told (s : Statistics) : String → List (String × String)
  | "Rule lines parsed" => [("conditions", toString s.conditions)]
  | "Rule set compiled" =>
    [("conditions", toString s.conditions), ("store_clauses", toString s.storeClauses),
     ("residuals", toString s.residuals)]
  | "Store query executed" =>
    [("candidates", toString s.candidates),
     ("parallel_residuals", Value.booleanText s.parallel)]
  | "Segment evaluated" =>
    [("conditions", toString s.conditions), ("candidates", toString s.candidates),
     ("matched", toString s.matched)]
  | _ => []

def headingOf (e : Entry) : Heading := (e.level, e.code, e.message)

variable {σ : Type} {text : String} {rules : RuleSet} {result : Except EvaluationError Outcome}

theorem headings_of_rejected (b : Backend σ) (s : σ) (logsFilters : Bool) {e : RuleSetError}
    (h : RuleSet.ofText text = .error e) :
    (readEntries text ++ (logRejection e).entries).map headingOf =
      headings (progress b s text) logsFilters (.error (.rules e)) := by
  unfold readEntries progress
  unfold RuleSet.ofText RuleSet.ofConditions at h
  cases hread : RuleSet.read text with
  | error e' =>
      rw [hread] at h
      cases h
      rfl
  | ok conditions =>
      simp only [hread] at h
      cases hcompile : Filter.compile conditions with
      | error e' =>
          simp only [hcompile]
          rfl
      | ok filter =>
          rw [hcompile] at h
          cases h

theorem headings_of_accepted (b : Backend σ) (s : σ) (settings : Settings) {id : String}
    (h : RuleSet.ofText text = .ok rules)
    (hconcludes : Concludes settings id rules (b.find s rules.filter.query).1 result) :
    (readEntries text ++ (logRuleSet settings rules).entries ++
        closingEntries settings rules result).map headingOf =
      headings (progress b s text) settings.logsFilters result := by
  obtain ⟨hread, hcompile⟩ := RuleSet.ofText_eq_ok_iff.1 h
  unfold readEntries progress logRuleSet
  simp only [hread, hcompile]
  cases hanswer : (b.find s rules.filter.query).1 with
  | error e =>
      rw [hanswer] at hconcludes
      cases hconcludes
      cases settings.logsFilters <;> rfl
  | ok candidates =>
      rw [hanswer] at hconcludes
      obtain ⟨o, rfl, -⟩ := hconcludes
      cases settings.logsFilters <;> rfl

/-- The entry says all that the events with its message say. -/
def Tells (s : Statistics) (e : Entry) : Prop :=
  ∀ p ∈ told s e.message, p.1 ≠ "request_id" ∧ e.context.reverse.lookup p.1 = some p.2

theorem tells_trace (settings : Settings) {id : String} {candidates : List Record} {o : Outcome}
    (h : RuleSet.ofText text = .ok rules) (hreports : Reports settings id rules candidates o) :
    ∀ e ∈ readEntries text ++ (logRuleSet settings rules).entries ++
      closingEntries settings rules (.ok o), Tells o.statistics e := by
  obtain ⟨hread, hcompile⟩ := RuleSet.ofText_eq_ok_iff.1 h
  have hclosing : ∀ e ∈ closingEntries settings rules (.ok o), Tells o.statistics e := by
    simp [closingEntries, logCandidates, logEvaluated, Program.emit, Program.entries, Tells, told,
      Entry.success, Entry.debug, Log.Context.lookup_cons_eq_ite, -Prod.forall]
  have hreadEntries : ∀ e ∈ readEntries text, Tells o.statistics e := by
    simp [readEntries, hread, logRead, Program.emit, Program.entries, Tells, told, Entry.success,
      hreports.conditions]
  have hruleSet : ∀ e ∈ (logRuleSet settings rules).entries, Tells o.statistics e := by
    unfold logRuleSet
    cases settings.logsFilters <;>
      simp [logFilter, Program.emit, Program.entries, Tells, told, Entry.success, Entry.debug,
        hreports.conditions, hreports.storeClauses, hreports.residuals, bind, Program.bind, pure,
        Log.Context.lookup_cons_eq_ite, -Prod.forall]
  simp only [List.mem_append]
  rintro e ((he | he) | he)
  · exact hreadEntries e he
  · exact hruleSet e he
  · exact hclosing e he

def Statistics.counts (s : Statistics) : List Nat :=
  [s.conditions, s.storeClauses, s.residuals, s.candidates, s.matched]

/-- Only the number of candidates depends on the store; the rules are few. -/
theorem counts_lt {settings : Settings} {id : String} {candidates : List Record} {o : Outcome}
    (h : RuleSet.ofText text = .ok rules) (hreports : Reports settings id rules candidates o)
    (hcandidates : o.statistics.candidates < 10 ^ Log.contextLimit) :
    ∀ n ∈ o.statistics.counts, n < 10 ^ Log.contextLimit := by
  have hlimit : RuleSet.conditionLimit < 10 ^ Log.contextLimit := by decide
  have hconditions : o.statistics.conditions < 10 ^ Log.contextLimit := by
    rw [hreports.conditions]
    exact Nat.lt_of_le_of_lt (RuleSet.length_le_of_read (RuleSet.ofText_eq_ok_iff.1 h).1) hlimit
  have hmatched : o.statistics.matched ≤ o.statistics.candidates := by
    rw [hreports.matched, hreports.records, hreports.candidates]
    exact List.length_filter_le _ _
  have hsplit := hreports.split
  simp only [Statistics.counts, List.forall_mem_cons, List.not_mem_nil, false_imp_iff,
    implies_true, and_true]
  omega

/-- Counts of no more digits than a context takes are given in full. -/
theorem length_le_of_mem_told {s : Statistics} {message : String} {p : String × String}
    (hp : p ∈ told s message) (hcounts : ∀ n ∈ s.counts, n < 10 ^ Log.contextLimit) :
    p.2.length ≤ Log.contextLimit := by
  have hcount {n : Nat} (h : n ∈ s.counts) : (toString n).length ≤ Log.contextLimit :=
    Text.length_toString_le (by decide) (hcounts n h)
  unfold told at hp
  split at hp <;> simp only [List.mem_cons, List.not_mem_nil, or_false] at hp
  · subst hp
    exact hcount (by simp [Statistics.counts])
  · rcases hp with rfl | rfl | rfl <;> exact hcount (by simp [Statistics.counts])
  · rcases hp with rfl | rfl
    · exact hcount (by simp [Statistics.counts])
    · cases s.parallel <;> decide
  · rcases hp with rfl | rfl | rfl <;> exact hcount (by simp [Statistics.counts])

theorem lookup_context {j : Journal} {id : String} {s : Statistics} {e : Entry}
    {p : String × String} (htells : Tells s e) (hp : p ∈ told s e.message)
    (hlength : p.2.length ≤ Log.contextLimit) :
    List.lookup p.1 ((j.withRequest (some id)).eventOf e).context = some p.2 := by
  obtain ⟨hkey, hlookup⟩ := htells p hp
  refine (Journal.lookup_eventContext p.1 e.context).trans ?_
  rw [if_neg hkey, hlookup, Option.map_some, Log.clipText_of_length_le hlength]

theorem journalAfter_of_debug {j : Journal} (hlevel : j.threshold = .debug) (id : String)
    (entries : List Entry) :
    journalAfter j id entries =
      { j with events := j.events ++ entries.map (j.withRequest (some id)).eventOf } := by
  rw [journalAfter, Journal.writeAll_of_debug (j.withRequest (some id)) hlevel]
  rfl

/-- The entries of an evaluation, whatever the text and the store: their headings, and
what they say of the result. -/
theorem exists_entries (b : Backend σ) (settings : Settings) (id text : String) (j : Journal)
    (s : σ) :
    ∃ result entries,
      ((evaluate settings id text).run b j s).result = .ok result ∧
      ((evaluate settings id text).run b j s).journal = journalAfter j id entries ∧
      entries.map headingOf = headings (progress b s text) settings.logsFilters result ∧
      ∀ o, result = .ok o → o.requestId = id ∧ (∀ e ∈ entries, Tells o.statistics e) ∧
        (o.statistics.candidates < 10 ^ Log.contextLimit →
          ∀ n ∈ o.statistics.counts, n < 10 ^ Log.contextLimit) := by
  cases h : RuleSet.ofText text with
  | error e =>
      refine ⟨.error (.rules e), _, ?_, ?_, headings_of_rejected b s settings.logsFilters h,
        nofun⟩ <;> rw [run_evaluate_eq_of_rejected settings id h]
  | ok rules =>
      obtain ⟨result, hconcludes, hruns⟩ :=
        exists_run_evaluate_eq settings id h (b.find s rules.filter.query).1
      have hrun := hruns b j s _ rfl
      refine ⟨result, _, congrArg Run.result hrun, congrArg Run.journal hrun,
        headings_of_accepted b s settings h hconcludes, ?_⟩
      rintro o rfl
      cases hanswer : (b.find s rules.filter.query).1 with
      | error e =>
          rw [hanswer] at hconcludes
          cases hconcludes
      | ok candidates =>
          rw [hanswer] at hconcludes
          obtain ⟨_, ho, hreports⟩ := hconcludes
          cases ho
          exact ⟨hreports.requestId, tells_trace settings h hreports, counts_lt h hreports⟩

/-- The trace of an evaluation in a log of all details, whatever the store, the text and
the request before. The events follow from the progress and from the result. Each one
carries the id of the request, and its texts are clipped. If there is an outcome, the
events give its statistics; a number of candidates that a machine word holds is far from
being clipped. Afterwards the journal is back in the request before. -/
theorem evaluate_trace (b : Backend σ) (settings : Settings) {bytes : List Nat}
    (hbytes : bytes.length = 16) (text : String) {j : Journal} (hlevel : j.threshold = .debug)
    (s : σ) :
    ∃ result events,
      ((evaluate settings (requestId bytes) text).run b j s).result = .ok result ∧
      ((evaluate settings (requestId bytes) text).run b j s).journal =
        { j with events := j.events ++ events } ∧
      (events.map fun e => (e.level, e.code, e.message)) =
        headings (progress b s text) settings.logsFilters result ∧
      (∀ e ∈ events, List.lookup "request_id" e.context = some (requestId bytes) ∧
        ∀ p ∈ e.context, Clipped p.2) ∧
      ∀ o, result = .ok o → o.requestId = requestId bytes ∧
        (o.statistics.candidates < 10 ^ Log.contextLimit →
          ∀ e ∈ events, ∀ p ∈ told o.statistics e.message,
            List.lookup p.1 e.context = some p.2) := by
  have hid : (requestId bytes).length ≤ Log.contextLimit := by
    rw [length_requestId hbytes]
    decide
  obtain ⟨result, entries, hresult, hjournal, hheadings, houtcome⟩ :=
    exists_entries b settings (requestId bytes) text j s
  refine ⟨result, _, hresult, hjournal.trans (journalAfter_of_debug hlevel _ entries), ?_, ?_, ?_⟩
  · rw [List.map_map]
    exact hheadings
  · rintro _ he
    obtain ⟨e, -, rfl⟩ := List.mem_map.1 he
    exact ⟨Journal.lookup_eventContext "request_id" e.context,
      fun p hp => Journal.clipped_of_mem_eventContext hid hp⟩
  · intro o ho
    obtain ⟨hrequest, htells, hcounts⟩ := houtcome o ho
    refine ⟨hrequest, fun hcandidates _ hevent => ?_⟩
    obtain ⟨e, he, rfl⟩ := List.mem_map.1 hevent
    exact fun p hp => lookup_context (htells e he) hp
      (length_le_of_mem_told hp (hcounts hcandidates))

def lostStore : Fragile Store := ⟨.empty, some ⟨0, "down"⟩⟩

def outerJournal : Journal := (Journal.empty .debug "").withRequest (some "outer")

theorem lostStore_trace :
    (List.range 16).length = 16 ∧ outerJournal.threshold = .debug ∧
    ∃ events,
      ((evaluate ⟨.sequential, true, "0"⟩ (requestId (List.range 16)) "tags = new").run
        Store.backend.fragile outerJournal lostStore).journal =
          { outerJournal with events := outerJournal.events ++ events } ∧
      (events.map fun e => (e.level, e.code, e.message)) =
        [(.info, "I010", "Rule lines parsed"), (.info, "I011", "Rule set compiled"),
         (.debug, "D000", "Compiled store query"),
         (.error, "E140", "Segment evaluation failed")] ∧
      ∀ e ∈ events, List.lookup "request_id" e.context =
        some "00010203-0405-4607-8809-0a0b0c0d0e0f" := by
  have hbytes : (List.range 16).length = 16 := by decide
  obtain ⟨result, events, hresult, hjournal, hheadings, hcontexts, -⟩ :=
    evaluate_trace Store.backend.fragile ⟨.sequential, true, "0"⟩ hbytes "tags = new"
      (j := outerJournal) rfl lostStore
  have hfails : ((evaluate ⟨.sequential, true, "0"⟩ (requestId (List.range 16)) "tags = new").run
      Store.backend.fragile outerJournal lostStore).result =
        .ok (.error (.store (.unavailable "down"))) := by decide +kernel
  have hprogress : progress Store.backend.fragile lostStore "tags = new" = ⟨true, true, false⟩ := by
    decide +kernel
  have hid : requestId (List.range 16) = "00010203-0405-4607-8809-0a0b0c0d0e0f" := by
    decide +kernel
  rw [hfails] at hresult
  cases hresult
  rw [hprogress] at hheadings
  rw [hid] at hcontexts
  exact ⟨hbytes, rfl, events, hjournal, hheadings, fun e he => (hcontexts e he).1⟩

end Evaluation

end CatalogRules
