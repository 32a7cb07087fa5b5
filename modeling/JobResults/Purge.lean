import JobResults.Engine

/-!
  # Purging

  A purge removes from both sets of outcomes the jobs with a score between zero and the cutoff, a
  window before now, and then the values that have expired.  The removals are written like any
  other command.  Both are tried even if the first one fails; values are removed only if neither
  does.
-/

namespace JobResults

/-- What a completed purge reports. -/
structure PurgeReport where
  cutoff : Score
  evicted : Nat
  deriving DecidableEq, Repr

namespace Engine

/-- The score up to which a purge with a window removes jobs. -/
def cutoff (e : Engine) (window : Duration) : Score :=
  e.clock.now.subSaturating window.signedNanos

/-- Removes from the set of an outcome the jobs with a score between zero and a cutoff. -/
def trim (e : Engine) (o : Outcome) (cutoff : Score) : Engine × Except StoreError Unit :=
  e.submit (.unrankRange o.indexKey 0 cutoff)

/-- Removes the values that have expired, and counts them. -/
def evict (e : Engine) : Engine × Except StoreError Nat :=
  match e.call .evict with
  | (e, .ok (.evicted n)) => (e, .ok n)
  | (e, .ok _) => (e, .ok 0)
  | (e, .error err) => (e, .error err)

def purgeFailure (e : Engine) (err : StoreError) : Engine × Except StoreError PurgeReport :=
  (e.count Metrics.purgeFailed, .error err)

def purge (e : Engine) (window : Duration) : Engine × Except StoreError PurgeReport :=
  let cutoff := e.cutoff window
  let (e, failed) := e.trim .failed cutoff
  let (e, success) := e.trim .success cutoff
  match failed, success with
  | .error err, _ => e.purgeFailure err
  | .ok _, .error err => e.purgeFailure err
  | .ok _, .ok _ =>
    match e.evict with
    | (e, .error err) => e.purgeFailure err
    | (e, .ok n) => (e.count Metrics.purgeCompleted, .ok ⟨cutoff, n⟩)

end Engine

end JobResults
