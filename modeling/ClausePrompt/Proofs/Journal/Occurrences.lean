import ClausePrompt.Proofs.Journal.Report

namespace ClausePrompt

def Mark.count? : Mark → Option Count
  | .count counted => some counted
  | .stored .. => none

-- The occurrences that some marks count, in order.
def occurrences (marks : List Mark) : List Count := marks.filterMap Mark.count?

namespace Metrics

variable {metrics : Metrics}

-- The numbers of all the labels that are wanted, taken together.
def total (metrics : Metrics) (wanted : Count → Bool) : Nat :=
  ((metrics.counts.entries.filter (wanted ·.1)).map (·.2)).sum

-- One more occurrence makes the total one more if it is wanted, whether or not it is the first of
-- its label.
theorem sum_insertIn (wanted : Count → Bool) (key : Count) (entries : List (Count × Nat)) :
    (((OrderedMap.insertIn key (((entries.find? (·.1 = key)).map (·.2)).getD 0 + 1)
        entries).filter (wanted ·.1)).map (·.2)).sum =
      ((entries.filter (wanted ·.1)).map (·.2)).sum + (wanted key).toNat := by
  induction entries with
  | nil => cases hwanted : wanted key <;> simp [OrderedMap.insertIn, hwanted]
  | cons entry rest ih =>
    obtain ⟨found, number⟩ := entry
    by_cases hfound : found = key
    · subst hfound
      cases hwanted : wanted found with
      | false => simp [OrderedMap.insertIn, hwanted]
      | true =>
        simp [OrderedMap.insertIn, hwanted]
        omega
    · rw [OrderedMap.insertIn, if_neg hfound, List.find?_cons_of_neg (by simpa using hfound)]
      cases hwanted : wanted found with
      | false => simpa [List.filter_cons, hwanted] using ih
      | true =>
        simp only [List.filter_cons, hwanted, if_true, List.map_cons, List.sum_cons, ih]
        omega

theorem total_record (henabled : metrics.enabled = true) (mark : Mark) (wanted : Count → Bool) :
    (metrics.record mark).total wanted =
      metrics.total wanted + mark.count?.toList.countP wanted := by
  unfold record
  rw [if_pos henabled]
  cases mark with
  | count counted =>
    refine (sum_insertIn wanted counted metrics.counts.entries).trans ?_
    cases hwanted : wanted counted <;> simp [total, Mark.count?, hwanted]
  | stored kind number => rfl

theorem occurrences_cons (mark : Mark) (marks : List Mark) :
    occurrences (mark :: marks) = mark.count?.toList ++ occurrences marks := by
  cases mark <;> rfl

theorem total_recordAll (henabled : metrics.enabled = true) (marks : List Mark)
    (wanted : Count → Bool) :
    (metrics.recordAll marks).total wanted =
      metrics.total wanted + (occurrences marks).countP wanted := by
  induction marks generalizing metrics with
  | nil => rfl
  | cons mark marks ih =>
    have hrest := ih ((enabled_record metrics mark).trans henabled)
    rw [total_record henabled] at hrest
    rw [occurrences_cons, List.countP_append, ← Nat.add_assoc]
    exact hrest

theorem count_recordAll (henabled : metrics.enabled = true) (marks : List Mark) (count : Count) :
    (metrics.recordAll marks).count count =
      metrics.count count + (occurrences marks).count count := by
  induction marks generalizing metrics with
  | nil => rfl
  | cons mark marks ih =>
    have hrest := ih ((enabled_record metrics mark).trans henabled)
    rw [count_record henabled] at hrest
    have hfirst : mark.count?.toList.count count = if mark = .count count then 1 else 0 := by
      cases mark with
      | count counted => by_cases hsame : counted = count <;> simp [Mark.count?, hsame]
      | stored kind number => rfl
    rw [occurrences_cons, List.count_append, hfirst, ← Nat.add_assoc]
    exact hrest

end Metrics

namespace Step

variable {σ α : Type}

-- Whether a step gives what it was made for.
def succeeded (step : Step σ α) : Bool := step.outcome.isOk

-- Whether a step is turned down. One that is broken off is neither this nor a success.
def declined (step : Step σ α) : Bool := (Outcome.refusal? step.outcome).isSome

-- Whether a step gives the caller an answer.
def returned (step : Step σ α) : Bool := step.succeeded || step.declined

-- The steps of a run, each with the action that it was made for.
def history (attempt : σ → α → Step σ Unit) : σ → List α → List (α × Step σ Unit)
  | _, [] => []
  | state, action :: actions =>
    (action, attempt state action) :: history attempt (attempt state action).state actions

-- The occurrences that some steps count, in order.
def counted (steps : List (α × Step σ Unit)) : List Count :=
  occurrences (steps.flatMap (·.2.marks))

-- The metrics after some steps, if nothing was counted before.
def recorded (steps : List (α × Step σ Unit)) : Metrics :=
  ({} : Metrics).recordAll (steps.flatMap (·.2.marks))

theorem total_recorded (steps : List (α × Step σ Unit)) (wanted : Count → Bool) :
    (recorded steps).total wanted = (counted steps).countP wanted :=
  (Metrics.total_recordAll rfl _ wanted).trans (Nat.zero_add _)

theorem count_recorded (steps : List (α × Step σ Unit)) (count : Count) :
    (recorded steps).count count = (counted steps).count count :=
  (Metrics.count_recordAll rfl _ count).trans (Nat.zero_add _)

theorem counted_history_cons (attempt : σ → α → Step σ Unit) (state : σ) (action : α)
    (actions : List α) :
    counted (history attempt state (action :: actions)) =
      occurrences (attempt state action).marks ++
        counted (history attempt (attempt state action).state actions) := by
  rw [history, counted, List.flatMap_cons, occurrences, List.filterMap_append, counted,
    occurrences, occurrences]

-- Where a step counts what is wanted once if it is asked for and otherwise not at all, a run counts
-- as many as there are such steps in it.
theorem countP_counted_history {attempt : σ → α → Step σ Unit} {wanted : Count → Bool}
    {asked : α × Step σ Unit → Bool}
    (hstep : ∀ state action, (occurrences (attempt state action).marks).countP wanted =
      (asked (action, attempt state action)).toNat) (state : σ) (actions : List α) :
    (counted (history attempt state actions)).countP wanted =
      (history attempt state actions).countP asked := by
  induction actions generalizing state with
  | nil => rfl
  | cons action actions ih =>
    rw [counted_history_cons, List.countP_append, hstep, ih, history, List.countP_cons]
    cases asked (action, attempt state action) <;> simp [Nat.add_comm]

theorem count_counted_history {attempt : σ → α → Step σ Unit} {count : Count}
    {asked : α × Step σ Unit → Bool}
    (hstep : ∀ state action, (occurrences (attempt state action).marks).count count =
      (asked (action, attempt state action)).toNat) (state : σ) (actions : List α) :
    (counted (history attempt state actions)).count count =
      (history attempt state actions).countP asked := by
  simp only [List.count_eq_countP] at hstep ⊢
  exact countP_counted_history hstep state actions

end Step

end ClausePrompt
