import CatalogRules.Proofs.Evaluation.Program
import Mathlib.Algebra.BigOperators.Group.Finset.Piecewise

/-!
Programs that share a store. Each runs in a thread of its own, and one step of a thread
is one log entry or one request to the store. Between two steps anyone may look at the
store. In whatever order the steps come, the store has its exchanges one after the other,
and a thread meets of the others only what the store answers it.
-/

namespace CatalogRules

open Log (Journal)

inductive Exchange where
  | find (query : Query) (answer : Except StoreError (List Record))
  | upsert (record : Record) (answer : Except StoreError UpsertOutcome)

namespace Backend

variable {σ : Type} (b : Backend σ)

/-- The store can have the exchange in the first state, and is in the second one after it. -/
def Has (s : σ) : Exchange → σ → Prop
  | .find query answer, s' => b.find s query = (answer, s')
  | .upsert record answer, s' => b.upsert s record = (answer, s')

/-- The store can have the exchanges one after the other. -/
def Serial (s : σ) : List Exchange → σ → Prop
  | [], s' => s = s'
  | e :: es, s' => ∃ s₁, b.Has s e s₁ ∧ Serial s₁ es s'

theorem serial_append {s s' : σ} {es es' : List Exchange} :
    b.Serial s (es ++ es') s' ↔ ∃ s₁, b.Serial s es s₁ ∧ b.Serial s₁ es' s' := by
  induction es generalizing s with
  | nil => simp [Serial]
  | cons e es ih =>
      simp only [List.cons_append, Serial, ih]
      constructor
      · rintro ⟨s₁, he, s₂, hes, hes'⟩
        exact ⟨s₂, ⟨s₁, he, hes⟩, hes'⟩
      · rintro ⟨s₂, ⟨s₁, he, hes⟩, hes'⟩
        exact ⟨s₁, he, s₂, hes, hes'⟩

end Backend

structure Step (σ α : Type) where
  /-- The exchange with the store, if the step has one. -/
  exchange : Option Exchange
  program : Program α
  journal : Journal
  state : σ

namespace Program

variable {σ α : Type} (b : Backend σ) (j : Journal) (s : σ)

/-- A program that has ended stays as it is. -/
def step : Program α → Step σ α
  | done a => ⟨none, done a, j, s⟩
  | halt fault => ⟨none, halt fault, j, s⟩
  | log entry next => ⟨none, next, j.write entry, s⟩
  | exchangeRequest request next => ⟨none, next j.request, j.withRequest request, s⟩
  | find query next =>
    let (answer, state) := b.find s query
    ⟨some (.find query answer), next answer, j, state⟩
  | upsert record next =>
    let (answer, state) := b.upsert s record
    ⟨some (.upsert record answer), next answer, j, state⟩

theorem serial_step (p : Program α) :
    b.Serial s (p.step b j s).exchange.toList (p.step b j s).state := by
  cases p with
  | done a => rfl
  | halt fault => rfl
  | log entry next => rfl
  | exchangeRequest request next => rfl
  | find query next => exact ⟨_, rfl, rfl⟩
  | upsert record next => exact ⟨_, rfl, rfl⟩

def ended : Except ResidualFault α → Program α
  | .ok a => done a
  | .error fault => halt fault

/-- A run goes on from a step as it would have done without it. -/
theorem run_step (p : Program α) :
    (p.step b j s).program.run b (p.step b j s).journal (p.step b j s).state = p.run b j s := by
  cases p <;> rfl

end Program

/-- A program in the course of its run, with the journal that it writes to. -/
structure Thread (α : Type) where
  program : Program α
  journal : Journal

/-- What happens next: a step of a thread, or a look at the store from outside. -/
inductive Move (ι : Type) where
  | advance (i : ι)
  | look (query : Query)
  deriving DecidableEq

/-- An exchange that a thread has had with the store, or the answer to a look. -/
inductive Occurrence (ι : Type) where
  | had (i : ι) (exchange : Exchange)
  | seen (query : Query) (answer : Except StoreError (List Record))

namespace Occurrence

variable {ι : Type}

def exchange : Occurrence ι → Exchange
  | had _ e => e
  | seen query answer => .find query answer

def exchangeOf? [DecidableEq ι] (i : ι) : Occurrence ι → Option Exchange
  | had k e => if k = i then some e else none
  | seen _ _ => none

end Occurrence

/-- Threads that share a store, and what has happened at the store so far. -/
structure World (ι σ α : Type) where
  threads : ι → Thread α
  state : σ
  past : List (Occurrence ι)

namespace World

variable {ι σ α : Type}

def start (s : σ) (threads : ι → Thread α) : World ι σ α := ⟨threads, s, []⟩

def exchanges (w : World ι σ α) : List Exchange := w.past.map Occurrence.exchange

variable {b : Backend σ} {w : World ι σ α} {s : σ} {threads : ι → Thread α}

/-- The run of a thread, if no one interrupts it from here on. -/
def runOf (b : Backend σ) (w : World ι σ α) (i : ι) : Run σ α :=
  (w.threads i).program.run b (w.threads i).journal w.state

/-- In the second world the thread has ended as its run in the first one. -/
def EndsIn (b : Backend σ) (i : ι) (w w' : World ι σ α) : Prop :=
  w'.threads i = ⟨.ended (w.runOf b i).result, (w.runOf b i).journal⟩ ∧
    w'.state = (w.runOf b i).state

theorem endsIn_self {i : ι} {r : Except ResidualFault α}
    (h : (w.threads i).program = .ended r) : EndsIn b i w w := by
  have hrun : w.runOf b i = ⟨r, (w.threads i).journal, w.state⟩ := by
    rw [runOf, h]
    cases r <;> rfl
  rw [EndsIn, hrun, ← h]
  exact ⟨rfl, rfl⟩

variable [DecidableEq ι]

def exchangesOf (w : World ι σ α) (i : ι) : List Exchange :=
  w.past.filterMap (Occurrence.exchangeOf? i)

def step (b : Backend σ) (w : World ι σ α) : Move ι → World ι σ α
  | .advance i =>
    let next := (w.threads i).program.step b (w.threads i).journal w.state
    ⟨Function.update w.threads i ⟨next.program, next.journal⟩, next.state,
      w.past ++ next.exchange.toList.map (.had i)⟩
  | .look query =>
    let (answer, state) := b.find w.state query
    ⟨w.threads, state, w.past ++ [.seen query answer]⟩

def after (b : Backend σ) (w : World ι σ α) (moves : List (Move ι)) : World ι σ α :=
  moves.foldl (step b) w

theorem after_append (moves moves' : List (Move ι)) :
    w.after b (moves ++ moves') = (w.after b moves).after b moves' :=
  List.foldl_append

theorem threads_step_advance (i k : ι) :
    (w.step b (.advance i)).threads k =
      if k = i then
        let next := (w.threads i).program.step b (w.threads i).journal w.state
        ⟨next.program, next.journal⟩
      else w.threads k :=
  Function.update_apply _ _ _ _

theorem exchanges_step_advance (i : ι) :
    (w.step b (.advance i)).exchanges = w.exchanges ++
      ((w.threads i).program.step b (w.threads i).journal w.state).exchange.toList := by
  simp [exchanges, step, Function.comp_def, Occurrence.exchange]

theorem exchangesOf_step_advance (i k : ι) :
    (w.step b (.advance i)).exchangesOf k = w.exchangesOf k ++
      if k = i then
        ((w.threads i).program.step b (w.threads i).journal w.state).exchange.toList
      else [] := by
  rw [exchangesOf, step, List.filterMap_append, List.filterMap_map]
  congr 1
  split
  · rename_i h
    simp [h, Occurrence.exchangeOf?]
  · rename_i h
    simp [Ne.symm h, Occurrence.exchangeOf?]

theorem exchangesOf_step_look (query : Query) (k : ι) :
    (w.step b (.look query)).exchangesOf k = w.exchangesOf k := by
  simp [exchangesOf, step, Occurrence.exchangeOf?]

theorem serial_step (h : b.Serial s w.exchanges w.state) (m : Move ι) :
    b.Serial s (w.step b m).exchanges (w.step b m).state := by
  cases m with
  | advance i =>
      rw [exchanges_step_advance]
      exact b.serial_append.2
        ⟨w.state, h, Program.serial_step b (w.threads i).journal w.state (w.threads i).program⟩
  | look query =>
      rw [step, exchanges, List.map_append]
      exact b.serial_append.2 ⟨w.state, h, _, rfl, rfl⟩

/-- However the steps interleave, the store has its exchanges one after the other. -/
theorem serial_after (s : σ) (threads : ι → Thread α) (moves : List (Move ι)) :
    b.Serial s ((start s threads).after b moves).exchanges
      ((start s threads).after b moves).state := by
  induction moves using List.reverseRecOn with
  | nil => rfl
  | append_singleton moves m ih =>
      rw [after_append]
      exact serial_step ih m

/-- What has happened stays. -/
theorem past_prefix_after (w : World ι σ α) (moves : List (Move ι)) :
    w.past <+: (w.after b moves).past := by
  induction moves using List.reverseRecOn with
  | nil => exact List.prefix_refl _
  | append_singleton moves m ih =>
      rw [after_append]
      refine ih.trans ?_
      cases m <;> exact List.prefix_append _ _

theorem runOf_step_advance (i : ι) : (w.step b (.advance i)).runOf b i = w.runOf b i := by
  rw [runOf, threads_step_advance, if_pos rfl]
  exact Program.run_step b (w.threads i).journal w.state (w.threads i).program

theorem runOf_after_advances (w : World ι σ α) (i : ι) (n : ℕ) :
    (w.after b (List.replicate n (.advance i))).runOf b i = w.runOf b i := by
  induction n generalizing w with
  | zero => rfl
  | succ n ih =>
      rw [List.replicate_succ]
      show ((w.step b (.advance i)).after b _).runOf b i = w.runOf b i
      rw [ih, runOf_step_advance]

/-- A thread that no one interrupts ends as its run. -/
theorem endsIn_of_ended {i : ι} {n : ℕ} {r : Except ResidualFault α}
    (h : ((w.after b (List.replicate n (.advance i))).threads i).program = .ended r) :
    EndsIn b i w (w.after b (List.replicate n (.advance i))) := by
  have hself := endsIn_self (b := b) h
  rw [EndsIn, runOf_after_advances] at hself
  exact hself

/-- What each step of a thread preserves, whatever the others have done to the store, holds
after any moves. It may speak of the number of steps of the thread and of the exchanges
that it has had. -/
theorem thread_after {P : Nat → List Exchange → Program α → Prop} {i : ι}
    (hstart : P 0 [] (threads i).program)
    (hstep : ∀ n es p, P n es p → ∀ j s,
      P (n + 1) (es ++ (p.step b j s).exchange.toList) (p.step b j s).program)
    (moves : List (Move ι)) :
    P (moves.count (.advance i)) (((start s threads).after b moves).exchangesOf i)
      (((start s threads).after b moves).threads i).program := by
  induction moves using List.reverseRecOn with
  | nil => exact hstart
  | append_singleton moves m ih =>
      rw [after_append, List.count_append]
      cases m with
      | look query =>
          rw [List.count_singleton, if_neg (by simp)]
          change P _ ((step b _ (.look query)).exchangesOf i) _
          rw [exchangesOf_step_look]
          exact ih
      | advance k =>
          change P _ ((step b _ (.advance k)).exchangesOf i)
            ((step b _ (.advance k)).threads i).program
          rw [exchangesOf_step_advance, threads_step_advance, List.count_singleton]
          by_cases h : i = k
          · subst h
            simpa using hstep _ _ _ ih _ _
          · have hne : Move.advance k ≠ Move.advance i := fun heq => h (Move.advance.inj heq).symm
            simpa [h, hne] using ih

/-- The exchanges of a thread come in their order, among others. -/
theorem exchangesOf_sublist (w : World ι σ α) (i : ι) :
    (w.exchangesOf i).Sublist w.exchanges := by
  rw [exchangesOf, exchanges]
  induction w.past with
  | nil => exact .slnil
  | cons o past ih =>
      cases o with
      | seen query answer => exact ih.cons _
      | had k e =>
          by_cases h : k = i
          · have hown : (Occurrence.had k e).exchangeOf? i = some e := if_pos h
            rw [List.filterMap_cons_some hown]
            exact ih.cons_cons e
          · have hother : (Occurrence.had k e).exchangeOf? i = none := if_neg h
            rw [List.filterMap_cons_none hother]
            exact ih.cons e

theorem mem_exchanges {w : World ι σ α} {e : Exchange} (h : e ∈ w.exchanges) :
    (∃ query answer, e = .find query answer) ∨ ∃ i, e ∈ w.exchangesOf i := by
  obtain ⟨o, ho, rfl⟩ := List.mem_map.1 h
  cases o with
  | seen query answer => exact .inl ⟨query, answer, rfl⟩
  | had i e => exact .inr ⟨i, List.mem_filterMap.2 ⟨.had i e, ho, if_pos rfl⟩⟩

/-- What is counted of the exchanges is counted in each thread, unless it is a look. -/
theorem sum_countP_exchangesOf [Fintype ι] (w : World ι σ α) {p : Exchange → Bool}
    (hp : ∀ query answer, p (.find query answer) = false) :
    ∑ i, (w.exchangesOf i).countP p = w.exchanges.countP p := by
  simp only [exchangesOf, exchanges, List.countP_filterMap, List.countP_map]
  induction w.past with
  | nil => simp
  | cons o past ih =>
      simp only [List.countP_cons, Finset.sum_add_distrib, ih]
      congr 1
      cases o with
      | seen query answer => simp [Occurrence.exchangeOf?, Occurrence.exchange, hp]
      | had k e =>
          -- Only the thread that has had the exchange counts it.
          have hone (i : ι) :
              (if (((Occurrence.had k e).exchangeOf? i).map p).getD false then 1 else 0) =
                if k = i then (if p e then 1 else 0) else 0 := by
            by_cases h : k = i <;> simp [Occurrence.exchangeOf?, h]
          simp only [hone, Finset.sum_ite_eq, Finset.mem_univ, if_true]
          rfl

end World

end CatalogRules
