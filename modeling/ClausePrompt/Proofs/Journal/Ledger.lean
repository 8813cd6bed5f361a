import ClausePrompt.Proofs.Desk.Direct
import ClausePrompt.Proofs.Journal.Report

namespace ClausePrompt

def Sheet.attempt (sheet : Sheet) : Sheet.Action → Step Sheet Unit
  | .place typed raw => (sheet.place typed raw).discard
  | .load text => (sheet.load text).discard
  | .clear => { outcome := .ok (), state := sheet.clear }

def Session.attempt (session : Session) : Session.Action → Step Session Unit
  | .advance answer limit => (session.advance answer limit).discard
  | .skip => session.skip.discard
  | .back => session.back.discard
  | .restart id => (session.restart id).discard
  | .close => { outcome := .ok (), state := session.close }
  | .fire i force => (session.fire i force).discard

theorem Sheet.reported_attempt {sheet : Sheet} {action : Sheet.Action}
    (hfits : ∀ text, action = .load text → text.length ≤ sheet.limit) :
    (sheet.attempt action).Reported := by
  cases action with
  | place typed raw => exact (reported_place sheet typed raw).discard
  | load text => exact (reported_load (hfits text rfl)).discard
  | clear => exact ⟨rfl, rfl⟩

theorem Session.reported_attempt (session : Session) (action : Action) :
    (session.attempt action).Reported := by
  cases action with
  | advance answer limit => exact (reported_advance session answer limit).discard
  | skip | back => exact (reported_take session _ _).discard
  | restart id => exact (reported_restart session id).discard
  | close => exact ⟨rfl, rfl⟩
  | fire i force => exact (reported_fire session i force).discard

namespace Desk

-- An operation on a desk, or on its sheet or its session alone.
inductive Call where
  | desk (action : Desk.Action)
  | sheet (action : Sheet.Action)
  | session (action : Session.Action)

def call (desk : Desk) : Call → Step Desk Unit
  | .desk action => desk.attempt action
  | .sheet action => (desk.sheet.attempt action).within fun sheet => { desk with sheet }
  | .session action => (desk.session.attempt action).within desk.withSession

-- The result that an answer brings out.
def result? (desk : Desk) (answer : String) : Option String :=
  match (desk.session.advance answer (some desk.sheet.limit)).outcome with
  | .ok next => next.result
  | .error _ => none

-- The text that a call is about to load into the sheet.
def loaded? (desk : Desk) : Call → Option String
  | .sheet (.load text) => some text
  | .desk .finishEditing => if desk.directEnabled then some desk.draft else none
  | .desk (.advance answer) => if desk.interviewEnabled then desk.result? answer else none
  | _ => none

-- The text is too long for the sheet.
def Oversized (desk : Desk) (call : Call) : Prop :=
  ∃ text, desk.loaded? call = some text ∧ desk.sheet.limit < text.length

-- The call is a key to which no keyword, or no move of the interview, is bound.
def Unbound (desk : Desk) : Call → Prop
  | .desk (.insertShortcut key) =>
    desk.directEnabled = true ∧ desk.sheet.lexicon.byShortcut? key = none
  | .desk (.pressKey key) => moveOfKey? key = none
  | _ => False

section Reported

variable {desk : Desk}

theorem reported_conflict {α : Type} (desk : Desk) (reason : String) :
    (desk.conflict reason : Step Desk α).Reported := ⟨rfl, rfl⟩

theorem reported_edit (desk : Desk) (text : String) : (desk.edit text).Reported := by
  unfold edit
  split
  · exact ⟨rfl, rfl⟩
  · exact reported_conflict desk locked

theorem reported_finishEditing
    (hfits : desk.directEnabled = true → desk.draft.length ≤ desk.sheet.limit) :
    desk.finishEditing.Reported := by
  unfold finishEditing
  split
  · rename_i hdirect
    exact (Sheet.reported_load (hfits hdirect)).within _
  · exact reported_conflict desk locked

theorem reported_place (desk : Desk) (typed raw : String) : (desk.place typed raw).Reported := by
  have hplaced := Sheet.reported_place desk.sheet typed raw
  by_cases hdirect : desk.directEnabled = true
  · cases houtcome : (desk.sheet.place typed raw).outcome with
    | ok prompt =>
      rw [place_of_ok hdirect houtcome]
      exact hplaced.within _
    | error failure =>
      rw [place_of_error hdirect houtcome]
      exact hplaced.within _
  · rw [place, if_neg hdirect]
    exact reported_conflict desk locked

theorem reported_insertShortcut {key : String}
    (hbound : ¬ (desk.directEnabled = true ∧ desk.sheet.lexicon.byShortcut? key = none)) :
    (desk.insertShortcut key).Reported := by
  unfold insertShortcut
  split
  · rename_i hdirect
    split
    · rename_i hnone
      exact absurd ⟨hdirect, hnone⟩ hbound
    · exact ⟨rfl, rfl⟩
  · exact reported_conflict desk locked

theorem reported_guide (desk : Desk) (move : Move) (outcome : Outcome Interview) :
    (desk.guide (desk.session.take move outcome)).Reported := by
  unfold guide
  split
  · exact (Session.reported_take desk.session move outcome).within _
  · exact reported_conflict desk unfinished

-- A key moves the interview back or forth, or not at all.
theorem moveOfKey?_cases (key : String) :
    moveOfKey? key = some .back ∨ moveOfKey? key = some .skip ∨ moveOfKey? key = none := by
  unfold moveOfKey?
  split <;> simp

theorem reported_pressKey {key : String} (hbound : moveOfKey? key ≠ none) :
    (desk.pressKey key).Reported := by
  rcases moveOfKey?_cases key with hback | hskip | hnone
  · simp only [pressKey, hback]
    exact reported_guide desk .back _
  · simp only [pressKey, hskip]
    exact reported_guide desk .skip _
  · exact absurd hnone hbound

-- An answer that brings out no result is left to the session.
theorem advance_of_no_result {answer : String} (henabled : desk.interviewEnabled = true)
    (h : desk.result? answer = none) :
    desk.advance answer =
      (desk.session.advance answer (some desk.sheet.limit)).within desk.withSession := by
  rw [advance, if_pos henabled]
  unfold result? at h
  cases houtcome : (desk.session.advance answer (some desk.sheet.limit)).outcome with
  | error failure => simp only [houtcome]
  | ok next =>
    obtain ⟨questions, index, answers, transcript, result, hlt⟩ := next
    rw [houtcome] at h
    obtain rfl : result = none := h
    simp only [houtcome]

theorem exists_next_of_result? {answer result : String} (h : desk.result? answer = some result) :
    ∃ next, (desk.session.advance answer (some desk.sheet.limit)).outcome = .ok next ∧
      next.result = some result := by
  unfold result? at h
  split at h
  · rename_i next houtcome
    exact ⟨next, houtcome, h⟩
  · cases h

theorem warns_takeResult (step : Step Session Interview) (result : String) :
    (desk.takeResult step result).warns = (step.warns || (desk.sheet.load result).warns) := by
  unfold takeResult
  dsimp only
  split <;> simp only [Step.warns, List.any_append]

theorem failures_takeResult (step : Step Session Interview) (result : String) :
    (desk.takeResult step result).failures =
      step.failures ++ (desk.sheet.load result).failures := by
  unfold takeResult
  dsimp only
  split <;> simp only [Step.failures, List.filterMap_append]

theorem outcome_takeResult_of_error {step : Step Session Interview} {result : String}
    {failure : Failure} (h : (desk.sheet.load result).outcome = .error failure) :
    (desk.takeResult step result).outcome = .error failure := by
  simp only [takeResult, h]

theorem outcome_takeResult_of_ok {step : Step Session Interview} {result : String}
    {prompt : Prompt} (h : (desk.sheet.load result).outcome = .ok prompt) :
    (desk.takeResult step result).outcome = step.outcome := by
  simp only [takeResult, h]

-- The session has nothing to report when its result is taken over, so that the report is that of
-- the sheet.
theorem reported_takeResult {step : Step Session Interview} {next : Interview}
    (hstep : step.Reported) (houtcome : step.outcome = .ok next) {result : String}
    (hloaded : (desk.sheet.load result).Reported) : (desk.takeResult step result).Reported := by
  obtain ⟨hwarns, hfailures⟩ := hstep.quiet_of_ok houtcome
  have hsame : Outcome.refusal? (desk.takeResult step result).outcome =
      Outcome.refusal? (desk.sheet.load result).outcome := by
    cases hload : (desk.sheet.load result).outcome with
    | ok prompt =>
      rw [outcome_takeResult_of_ok hload, houtcome]
      rfl
    | error failure =>
      rw [outcome_takeResult_of_error hload]
      cases failure <;> rfl
  constructor
  · rw [warns_takeResult, hwarns, Bool.false_or, hsame]
    exact hloaded.warns
  · rw [failures_takeResult, hfailures, List.nil_append, hsame]
    exact hloaded.failures

theorem reported_advance {answer : String}
    (hfits : desk.interviewEnabled = true → ∀ result, desk.result? answer = some result →
      result.length ≤ desk.sheet.limit) :
    (desk.advance answer).Reported := by
  have hsession := Session.reported_advance desk.session answer (some desk.sheet.limit)
  by_cases henabled : desk.interviewEnabled = true
  · cases hresult : desk.result? answer with
    | none =>
      rw [advance_of_no_result henabled hresult]
      exact hsession.within _
    | some result =>
      obtain ⟨next, houtcome, hnext⟩ := exists_next_of_result? hresult
      have hloaded := Sheet.reported_load (hfits henabled result hresult)
      rw [advance_of_result henabled houtcome hnext]
      exact reported_takeResult hsession houtcome hloaded
  · rw [advance, if_neg henabled]
    exact reported_conflict desk unfinished

-- Every call is reported, unless it is one of the two kinds that are told apart here.
theorem reported_call {call : Call} (hfits : ¬ desk.Oversized call)
    (hbound : ¬ desk.Unbound call) : (desk.call call).Reported := by
  have hloads : ∀ text, desk.loaded? call = some text → text.length ≤ desk.sheet.limit :=
    fun text htext => Int.not_lt.mp fun hlong => hfits ⟨text, htext, hlong⟩
  cases call with
  | sheet action =>
    have hsheet : (desk.sheet.attempt action).Reported := by
      refine Sheet.reported_attempt fun text hload => hloads text ?_
      rw [hload]
      rfl
    rw [Desk.call]
    exact hsheet.within _
  | session action => exact (Session.reported_attempt desk.session action).within _
  | desk action =>
    cases action with
    | edit text => exact (reported_edit desk text).discard
    | insertShortcut key => exact (reported_insertShortcut hbound).discard
    | finishEditing =>
      refine (reported_finishEditing fun hdirect => ?_).discard
      exact hloads desk.draft (if_pos hdirect)
    | place typed raw => exact (reported_place desk typed raw).discard
    | advance answer =>
      refine (reported_advance fun henabled result hresult => ?_).discard
      exact hloads result ((if_pos henabled).trans hresult)
    | skip | back => exact (reported_guide desk _ _).discard
    | pressKey key => exact (reported_pressKey hbound).discard
    | reset id => exact ((Session.reported_restart desk.session id).within _).discard
    | close => exact ⟨rfl, rfl⟩
    | fire i force => exact ((Session.reported_fire desk.session i force).within _).discard

-- A text that is too long is refused and told of, and not counted.
theorem call_of_oversized {call : Call} (h : desk.Oversized call) :
    (desk.call call).outcome = refuse (.malformed none (Sheet.exceeds desk.sheet.limit)) ∧
      (desk.call call).warns = true ∧ (desk.call call).failures = [] := by
  obtain ⟨text, hloaded, hlong⟩ := h
  obtain ⟨houtcome, hwarns, hfailures⟩ := Sheet.load_of_long hlong
  cases call with
  | sheet action =>
    cases action with
    | load given =>
      obtain rfl : given = text := Option.some.inj hloaded
      exact ⟨Step.outcome_discard houtcome, hwarns, hfailures⟩
    | place | clear => cases hloaded
  | session action => cases hloaded
  | desk action =>
    cases action with
    | finishEditing =>
      simp only [loaded?] at hloaded
      split at hloaded
      · rename_i hdirect
        obtain rfl := Option.some.inj hloaded
        simp only [call, attempt, finishEditing, if_pos hdirect]
        exact ⟨Step.outcome_discard houtcome, hwarns, hfailures⟩
      · cases hloaded
    | advance answer =>
      simp only [loaded?] at hloaded
      split at hloaded
      · rename_i henabled
        obtain ⟨next, hnext, hresult⟩ := exists_next_of_result? hloaded
        have hsession := Session.reported_advance desk.session answer (some desk.sheet.limit)
        obtain ⟨hquiet, hnothing⟩ := hsession.quiet_of_ok hnext
        simp only [call, attempt, advance_of_result henabled hnext hresult]
        refine ⟨Step.outcome_discard (outcome_takeResult_of_error houtcome), ?_, ?_⟩
        · refine (warns_takeResult _ text).trans ?_
          rw [hquiet, Bool.false_or, hwarns]
        · refine (failures_takeResult _ text).trans ?_
          rw [hnothing, List.nil_append, hfailures]
      · cases hloaded
    | edit | insertShortcut | place | skip | back | pressKey | reset | close | fire =>
      cases hloaded

-- A key that nothing is bound to is refused, and neither told of nor counted.
theorem call_of_unbound {call : Call} (h : desk.Unbound call) :
    (∃ refusal, (desk.call call).outcome = refuse refusal) ∧ (desk.call call).log = [] ∧
      (desk.call call).marks = [] := by
  cases call with
  | sheet action => cases h
  | session action => cases h
  | desk action =>
    cases action with
    | insertShortcut key =>
      obtain ⟨hdirect, hnone⟩ := h
      simp only [call, attempt, insertShortcut, if_pos hdirect, hnone]
      exact ⟨⟨_, rfl⟩, rfl, rfl⟩
    | pressKey key =>
      have hnone : moveOfKey? key = none := h
      simp only [call, attempt, pressKey, hnone]
      exact ⟨⟨_, rfl⟩, rfl, rfl⟩
    | edit | finishEditing | place | advance | skip | back | reset | close | fire => cases h

end Reported

end Desk

-- A desk and the metrics in which its calls are counted.
structure Ledger where
  desk : Desk
  metrics : Metrics

namespace Ledger

def enter (ledger : Ledger) (call : Desk.Call) : Ledger :=
  let step := ledger.desk.call call
  { desk := step.state, metrics := ledger.metrics.recordAll step.marks }

def run (ledger : Ledger) (calls : List Desk.Call) : Ledger := calls.foldl enter ledger

theorem enabled_run (ledger : Ledger) (calls : List Desk.Call) :
    (ledger.run calls).metrics.enabled = ledger.metrics.enabled := by
  induction calls generalizing ledger with
  | nil => rfl
  | cons call calls ih => exact (ih (ledger.enter call)).trans (Metrics.enabled_recordAll _ _)

-- A call adds to the failures what its step counts.
theorem failures_enter {ledger : Ledger} (henabled : ledger.metrics.enabled = true)
    (call : Desk.Call) (kind : ErrorKind) :
    (ledger.enter call).metrics.failures kind =
      ledger.metrics.failures kind + (ledger.desk.call call).failures.count kind :=
  Metrics.failures_recordAll henabled (ledger.desk.call call).marks kind

-- After any run a call that is refused warns, and one failure more is counted, of the kind of its
-- refusal; a call that is not refused does neither. Two kinds of refusal are missed: a text that is
-- too long for the sheet is told of without being counted, and a key that nothing is bound to is
-- not even told of.
theorem report_of_run (desk : Desk) (metrics : Metrics) (henabled : metrics.enabled = true)
    (calls : List Desk.Call) (ledger : Ledger) (hrun : run ⟨desk, metrics⟩ calls = ledger)
    (call : Desk.Call) :
    ((∀ refusal, (ledger.desk.call call).outcome ≠ refuse refusal) →
      (∀ event ∈ (ledger.desk.call call).log, event.level ≠ .warning) ∧
      ∀ kind, (ledger.enter call).metrics.failures kind = ledger.metrics.failures kind) ∧
    (∀ refusal, (ledger.desk.call call).outcome = refuse refusal →
      ¬ ledger.desk.Oversized call → ¬ ledger.desk.Unbound call →
      (∃ event ∈ (ledger.desk.call call).log, event.level = .warning) ∧
      ∀ kind, (ledger.enter call).metrics.failures kind =
        ledger.metrics.failures kind + if kind = refusal.kind then 1 else 0) ∧
    (ledger.desk.Oversized call →
      (ledger.desk.call call).outcome =
        refuse (.malformed none (Sheet.exceeds ledger.desk.sheet.limit)) ∧
      (∃ event ∈ (ledger.desk.call call).log, event.level = .warning) ∧
      ∀ kind, (ledger.enter call).metrics.failures kind = ledger.metrics.failures kind) ∧
    (ledger.desk.Unbound call →
      (∃ refusal, (ledger.desk.call call).outcome = refuse refusal) ∧
      (ledger.desk.call call).log = [] ∧ (ledger.enter call).metrics = ledger.metrics) := by
  have hcounts : ledger.metrics.enabled = true := by
    rw [← hrun, enabled_run]
    exact henabled
  have hadds := failures_enter hcounts call
  refine ⟨fun hpassed => ?_, fun refusal hrefused hfits hbound => ?_, fun hlong => ?_,
    fun hunbound => ?_⟩
  · have hfits : ¬ ledger.desk.Oversized call :=
      fun hlong => hpassed _ (Desk.call_of_oversized hlong).1
    have hbound : ¬ ledger.desk.Unbound call := fun hunbound => by
      obtain ⟨⟨refusal, hrefused⟩, -, -⟩ := Desk.call_of_unbound hunbound
      exact hpassed refusal hrefused
    obtain ⟨hwarns, hfailures⟩ := (Desk.reported_call hfits hbound).quiet hpassed
    refine ⟨fun event hevent hlevel => ?_, fun kind => by simp [hadds, hfailures]⟩
    simp [Step.warns_iff.mpr ⟨event, hevent, hlevel⟩] at hwarns
  · obtain ⟨hwarns, hfailures⟩ := (Desk.reported_call hfits hbound).refused hrefused
    refine ⟨Step.warns_iff.mp hwarns, fun kind => ?_⟩
    rw [hadds, hfailures]
    by_cases hkind : kind = refusal.kind
    · simp [hkind]
    · simp [hkind, Ne.symm hkind]
  · obtain ⟨houtcome, hwarns, hfailures⟩ := Desk.call_of_oversized hlong
    exact ⟨houtcome, Step.warns_iff.mp hwarns, fun kind => by simp [hadds, hfailures]⟩
  · obtain ⟨hrefused, hlog, hmarks⟩ := Desk.call_of_unbound hunbound
    exact ⟨hrefused, hlog, by rw [enter, hmarks]; rfl⟩

-- A clause of an unknown keyword, placed on the sheet itself after a result was shown and a draft
-- begun.
theorem report_of_run_unknown :
    ∃ session ledger,
      Session.start { lexicon := .standard }
        [{ id := "colour", text := "Which colour?", keyword := "background" }] 5.0 "wiz_1" =
          .ok session ∧
      run ⟨{ sheet := { lexicon := .standard }, session }, {}⟩
        [.desk (.advance "FF"), .desk (.fire 0 false), .desk (.edit "late"), .desk .skip] =
          ledger ∧
      (ledger.desk.call (.sheet (.place "mars" "x"))).outcome =
        refuse (.unknownKeyword "mars") ∧
      ledger.metrics.failures .modeConflict = 1 ∧
      (∃ event ∈ (ledger.desk.call (.sheet (.place "mars" "x"))).log, event.level = .warning) ∧
      ∀ kind, (ledger.enter (.sheet (.place "mars" "x"))).metrics.failures kind =
        ledger.metrics.failures kind + if kind = .unknownKeyword then 1 else 0 := by
  refine ⟨_, _, rfl, rfl, by decide, by decide, ?_⟩
  exact (report_of_run _ {} rfl _ _ rfl (.sheet (.place "mars" "x"))).2.1
    (.unknownKeyword "mars") (by decide) (by rintro ⟨text, htext, -⟩; cases htext) id

-- A text of ten characters is too long for five, and no keyword is bound to the key 1.
theorem report_of_run_missed :
    ∃ session ledger,
      Session.start { lexicon := .standard }
        [{ id := "colour", text := "Which colour?", keyword := "background" }] 5.0 "wiz_1" =
          .ok session ∧
      run ⟨{ sheet := { lexicon := .standard, limit := 5 }, session }, {}⟩ [] = ledger ∧
      (ledger.desk.call (.sheet (.load "*in* swift"))).outcome =
        refuse (.malformed none (Sheet.exceeds 5)) ∧
      (ledger.enter (.sheet (.load "*in* swift"))).metrics.failures .malformedArgument =
        ledger.metrics.failures .malformedArgument ∧
      (ledger.desk.call (.desk (.insertShortcut "1"))).outcome =
        refuse (.unknownKeyword "Tab + 1") ∧
      (ledger.desk.call (.desk (.insertShortcut "1"))).log = [] ∧
      (ledger.desk.call (.desk (.pressKey "q"))).outcome =
        refuse (.invalidTransition "no wizard action bound to 'q'") ∧
      (ledger.desk.call (.desk (.pressKey "q"))).log = [] :=
  ⟨_, _, rfl, rfl, by decide, by decide, by decide, by decide, by decide, by decide⟩

end Ledger

end ClausePrompt
