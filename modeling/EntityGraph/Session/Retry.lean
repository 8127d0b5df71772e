import EntityGraph.Error

/-!
# Retrying writes

A failed write is tried again while attempts are left and the failure may pass by itself. The wait grows by the
same span with every attempt.
-/
namespace EntityGraph.Session

/-- Whether a failure may pass by itself. -/
def retryable (fault : DatabaseFault) : Bool :=
  match fault.kind with
  | .transient => true
  | .connection => true
  | .query => false

/-- How often a write is attempted and how long to wait in between. -/
structure RetryPolicy where
  maxAttempts : Nat
  baseDelay : Duration
  deriving Repr, DecidableEq

namespace RetryPolicy

/-- A policy with at least one attempt. -/
def ofAttempts (maxAttempts : Nat) (baseDelay : Duration) : RetryPolicy := ⟨max 1 maxAttempts, baseDelay⟩

/-- One attempt only. -/
def never : RetryPolicy := ofAttempts 1 ⟨0⟩

instance : Inhabited RetryPolicy := ⟨ofAttempts 3 (.ofMillis 100)⟩

/-- The wait after an attempt; attempts count from one. -/
def backoff (p : RetryPolicy) (attempt : Nat) : Duration := p.baseDelay.scale attempt

/-- Whether an attempt that failed is followed by another. -/
def retries (p : RetryPolicy) (attempt : Nat) (fault : DatabaseFault) : Bool :=
  decide (attempt < p.maxAttempts) && retryable fault

theorem lt_of_retries {p : RetryPolicy} {attempt : Nat} {fault : DatabaseFault}
    (h : p.retries attempt fault = true) : attempt < p.maxAttempts := by
  simp only [retries, Bool.and_eq_true, decide_eq_true_eq] at h
  exact h.1

end RetryPolicy
end EntityGraph.Session
