import ClausePrompt.Proofs.Desk.Run
import ClausePrompt.Proofs.OrderedMap
import Mathlib.Algebra.GroupWithZero.Nat

namespace ClausePrompt

-- The kind of the failure that a mark counts.
def Mark.failure? : Mark → Option ErrorKind
  | .count (.failure kind _) => some kind
  | _ => none

def Component.all : List Component := [.assembler, .codec, .wizard, .composer]

namespace Metrics

-- How many failures of a kind are counted, whichever part of the engine reported them.
def failures (metrics : Metrics) (kind : ErrorKind) : Nat :=
  (Component.all.map fun component => metrics.count (.failure kind component)).sum

theorem count_record {metrics : Metrics} (henabled : metrics.enabled = true) (mark : Mark)
    (count : Count) :
    (metrics.record mark).count count =
      metrics.count count + if mark = .count count then 1 else 0 := by
  unfold record
  rw [if_pos henabled]
  cases mark with
  | count counted =>
    by_cases hsame : count = counted
    · subst hsame
      simp [Metrics.count, OrderedMap.get?_insert]
    · simp [Metrics.count, OrderedMap.get?_insert, hsame, Ne.symm hsame]
  | stored kind number => simp [Metrics.count]

@[simp] theorem enabled_record (metrics : Metrics) (mark : Mark) :
    (metrics.record mark).enabled = metrics.enabled := by
  unfold record
  split
  · cases mark <;> rfl
  · rfl

@[simp] theorem enabled_recordAll (metrics : Metrics) (marks : List Mark) :
    (metrics.recordAll marks).enabled = metrics.enabled := by
  induction marks generalizing metrics with
  | nil => rfl
  | cons mark marks ih => exact (ih (metrics.record mark)).trans (enabled_record metrics mark)

-- A mark that counts a failure is reported by one component, and the others count what they did.
theorem failures_record {metrics : Metrics} (henabled : metrics.enabled = true) (mark : Mark)
    (kind : ErrorKind) :
    (metrics.record mark).failures kind =
      metrics.failures kind + mark.failure?.toList.count kind := by
  simp only [failures, count_record henabled]
  cases mark with
  | count counted =>
    cases counted with
    | failure found component =>
      by_cases hkind : found = kind
      · cases component <;> simp [Component.all, Mark.failure?, hkind] <;> omega
      · simp [Component.all, Mark.failure?, hkind]
    | clause | parse | move | completion => simp [Component.all, Mark.failure?]
  | stored => simp [Component.all, Mark.failure?]

theorem failures_recordAll {metrics : Metrics} (henabled : metrics.enabled = true)
    (marks : List Mark) (kind : ErrorKind) :
    (metrics.recordAll marks).failures kind =
      metrics.failures kind + (marks.filterMap Mark.failure?).count kind := by
  induction marks generalizing metrics with
  | nil => rfl
  | cons mark marks ih =>
    have hrest := ih ((enabled_record metrics mark).trans henabled)
    rw [failures_record henabled] at hrest
    have hfirst : ((mark :: marks).filterMap Mark.failure?).count kind =
        mark.failure?.toList.count kind + (marks.filterMap Mark.failure?).count kind := by
      cases hmark : mark.failure? <;> simp [hmark, Nat.add_comm, List.count_cons]
    rw [hfirst, ← Nat.add_assoc]
    exact hrest

end Metrics

-- The refusal that an operation ends in, if it does.
def Outcome.refusal? {α : Type} : Outcome α → Option Refusal
  | .error (.refused refusal) => some refusal
  | .error (.broken _) | .ok _ => none

@[simp] theorem Outcome.refusal?_map {α β : Type} (f : α → β) (outcome : Outcome α) :
    Outcome.refusal? (outcome.map f) = Outcome.refusal? outcome := by
  cases outcome with
  | ok a => rfl
  | error failure => cases failure <;> rfl

theorem Outcome.refusal?_eq_none {α : Type} {outcome : Outcome α}
    (h : ∀ refusal, outcome ≠ refuse refusal) : Outcome.refusal? outcome = none := by
  cases outcome with
  | ok a => rfl
  | error failure =>
    cases failure with
    | refused refusal => exact absurd rfl (h refusal)
    | broken fault => rfl

namespace Step

variable {σ τ α : Type}

-- Whether the journal is warned.
def warns (step : Step σ α) : Bool := step.log.any (·.level = .warning)

-- The kinds of the failures that are counted, in order.
def failures (step : Step σ α) : List ErrorKind := step.marks.filterMap Mark.failure?

-- A refusal is told with a warning and counted once, under its own kind. A step that is not refused
-- neither warns nor counts a failure.
structure Reported (step : Step σ α) : Prop where
  warns : step.warns = (Outcome.refusal? step.outcome).isSome
  failures : step.failures = ((Outcome.refusal? step.outcome).map (·.kind)).toList

theorem warns_iff {step : Step σ α} :
    step.warns = true ↔ ∃ event ∈ step.log, event.level = .warning := by
  simp [warns]

theorem Reported.refused {step : Step σ α} (h : step.Reported) {refusal : Refusal}
    (houtcome : step.outcome = refuse refusal) :
    step.warns = true ∧ step.failures = [refusal.kind] := by
  obtain ⟨hwarns, hfailures⟩ := h
  rw [houtcome] at hwarns hfailures
  exact ⟨hwarns, hfailures⟩

theorem Reported.quiet {step : Step σ α} (h : step.Reported)
    (houtcome : ∀ refusal, step.outcome ≠ refuse refusal) :
    step.warns = false ∧ step.failures = [] := by
  obtain ⟨hwarns, hfailures⟩ := h
  rw [Outcome.refusal?_eq_none houtcome] at hwarns hfailures
  exact ⟨hwarns, hfailures⟩

theorem Reported.quiet_of_ok {step : Step σ α} (h : step.Reported) {a : α}
    (houtcome : step.outcome = .ok a) : step.warns = false ∧ step.failures = [] :=
  h.quiet fun _ hrefused => nomatch houtcome.symm.trans hrefused

theorem Reported.within {step : Step σ α} (h : step.Reported) (embed : σ → τ) :
    (step.within embed).Reported := ⟨h.warns, h.failures⟩

theorem Reported.discard {step : Step σ α} (h : step.Reported) : step.discard.Reported := by
  have hsame : Outcome.refusal? step.discard.outcome = Outcome.refusal? step.outcome :=
    Outcome.refusal?_map _ step.outcome
  constructor
  · rw [hsame]
    exact h.warns
  · rw [hsame]
    exact h.failures

end Step

namespace Sheet

theorem reported_reject (sheet : Sheet) (keyword : String) (refusal : Refusal) :
    (sheet.reject keyword refusal).Reported := ⟨rfl, rfl⟩

theorem reported_place (sheet : Sheet) (typed raw : String) :
    (sheet.place typed raw).Reported := by
  unfold place
  split
  · exact ⟨rfl, rfl⟩
  · exact reported_reject sheet typed _
  · rename_i clause _
    dsimp only
    split
    · exact reported_reject sheet clause.keyword.id _
    · refine ⟨?_, rfl⟩
      cases sheet.prompt.contains clause.keyword.id <;> rfl

-- A text within the limit is reported as it is read.
theorem reported_load {sheet : Sheet} {text : String} (hfits : text.length ≤ sheet.limit) :
    (sheet.load text).Reported := by
  rw [load, if_neg (by omega)]
  split <;> exact ⟨rfl, rfl⟩

-- A text beyond the limit is told of, but the refusal is not counted.
theorem load_of_long {sheet : Sheet} {text : String} (hlong : sheet.limit < text.length) :
    (sheet.load text).outcome = refuse (.malformed none (exceeds sheet.limit)) ∧
      (sheet.load text).warns = true ∧ (sheet.load text).failures = [] := by
  rw [load, if_pos hlong]
  exact ⟨rfl, rfl, rfl⟩

end Sheet

namespace Session

theorem reported_reject (session : Session) (move : Move) (failure : Failure) :
    (session.reject move failure).Reported := by
  cases failure <;> exact ⟨rfl, rfl⟩

theorem reported_accept (session : Session) (move : Move) (next : Interview) :
    (session.accept move next).Reported := ⟨rfl, rfl⟩

theorem reported_advance (session : Session) (answer : String) (limit : Option Int) :
    (session.advance answer limit).Reported := by
  unfold advance
  split
  · exact reported_reject session .advance _
  · split
    · exact reported_accept session .advance _
    · exact ⟨rfl, rfl⟩

theorem reported_take (session : Session) (move : Move) (outcome : Outcome Interview) :
    (session.take move outcome).Reported := by
  cases outcome with
  | error failure => exact reported_reject session move failure
  | ok next => exact reported_accept session move next

theorem reported_restart (session : Session) (id : String) : (session.restart id).Reported :=
  ⟨rfl, rfl⟩

theorem reported_fire (session : Session) (i : Nat) (force : Bool) :
    (session.fire i force).Reported := by
  unfold fire
  split
  · exact ⟨rfl, rfl⟩
  · dsimp only
    split
    · exact ⟨rfl, rfl⟩
    · unfold expire
      split <;> exact ⟨rfl, rfl⟩

end Session

end ClausePrompt
