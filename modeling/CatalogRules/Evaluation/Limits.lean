/-!
How much work one evaluation may split between threads. At most eight threads
work on the residuals of one request, and at least one does.
-/

namespace CatalogRules.Evaluation

def defaultThreshold : Nat := 10000

def threadLimit : Nat := 8

def clampThreads (n : Nat) : Nat := max 1 (min n threadLimit)

def unreachedThreshold : Nat := 0xFFFFFFFFFFFFFFFF

structure Limits where
  /-- The number of candidates from which on the residuals are split. -/
  threshold : Nat
  threads : Nat
  deriving DecidableEq

namespace Limits

def sequential : Limits := ⟨unreachedThreshold, 1⟩

def ofPreferences (threshold threads : Nat) : Limits := ⟨threshold, clampThreads threads⟩

def withThreshold (l : Limits) (threshold : Nat) : Limits := { l with threshold := threshold }

def withThreads (l : Limits) (threads : Nat) : Limits := { l with threads := clampThreads threads }

def isParallel (l : Limits) (candidates : Nat) : Bool :=
  1 < l.threads && 1 < candidates && l.threshold ≤ candidates

end Limits

theorem one_le_clampThreads (n : Nat) : 1 ≤ clampThreads n := Nat.le_max_left _ _

theorem clampThreads_le (n : Nat) : clampThreads n ≤ threadLimit :=
  Nat.max_le.2 ⟨by decide, Nat.min_le_right _ _⟩

end CatalogRules.Evaluation
