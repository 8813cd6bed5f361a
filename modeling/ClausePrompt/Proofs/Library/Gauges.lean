import ClausePrompt.Proofs.Desk.Run
import ClausePrompt.Proofs.Journal.Report
import ClausePrompt.Proofs.Journal.Samples
import ClausePrompt.Proofs.Library.Stock

namespace ClausePrompt

-- What the gauge of a kind shows. It is not there before a snippet of the kind is first saved, and
-- then it is read as zero.
def Metrics.gauge (metrics : Metrics) (kind : SnippetKind) : Nat :=
  (metrics.value? kind.series).getD 0

theorem Metrics.gauge_stored {metrics : Metrics} (henabled : metrics.enabled = true)
    (published kind : SnippetKind) (number : Nat) :
    (metrics.record (.stored published number)).gauge kind =
      if kind = published then number else metrics.gauge kind := by
  rw [gauge, gauge, value?_stored, value?_stored, record, if_pos henabled, OrderedMap.get?_insert]
  split <;> rfl

namespace Library

-- A call to a library. To look a snippet up and to list the snippets is only to read.
inductive Call where
  | act (action : Action)
  | get (id : String)
  | list (isPublic : Bool) (kind : Option SnippetKind)

def Call.action? : Call → Option Action
  | .act action => some action
  | .get _ | .list _ _ => none

def attempt (library : Library) : Call → Step Library Unit
  | .act (.create draft id createdAt) => (library.create draft id createdAt).discard
  | .act (.update id changes) => (library.update id changes).discard
  | .act (.delete id) => (library.delete id).discard
  | .get id => Step.discard { outcome := .ok (library.get? id), state := library }
  | .list isPublic kind =>
    Step.discard { outcome := .ok (library.list isPublic kind), state := library }

theorem state_attempt_act (library : Library) (action : Action) :
    (library.attempt (.act action)).state = library.perform action := by
  cases action <;> rfl

theorem marks_update (library : Library) (id : String) (changes : Snippet.Changes) :
    (library.update id changes).marks = [] := by
  unfold update
  cases library.get? id <;> rfl

theorem delete_of_none {library : Library} {id : String} (h : library.get? id = none) :
    (library.delete id).state = library ∧ (library.delete id).marks = [] := by
  rw [delete, h]
  exact ⟨rfl, rfl⟩

theorem marks_delete_of_some {library : Library} {id : String} {snippet : Snippet}
    (h : library.get? id = some snippet) :
    (library.delete id).marks = [(library.delete id).state.stored snippet.kind] := by
  rw [delete, h]

-- Every snippet is of one of the kinds.
theorem sum_countOf (library : Library) :
    (SnippetKind.all.map library.countOf).sum = library.size := by
  have hsize : library.size = library.snippets.values.length :=
    (List.length_map Prod.snd).symm
  rw [hsize]
  simp only [SnippetKind.all, countOf, List.map_cons, List.map_nil, List.sum_cons, List.sum_nil]
  induction library.snippets.values with
  | nil => rfl
  | cons snippet snippets ih =>
    simp only [List.countP_cons, List.length_cons, decide_eq_true_iff]
    cases snippet.kind <;> simp <;> omega

-- A library and the metrics in which its calls are recorded.
structure Metered where
  library : Library := {}
  metrics : Metrics := {}

namespace Metered

def enter (metered : Metered) (call : Call) : Metered :=
  let step := metered.library.attempt call
  { library := step.state, metrics := metered.metrics.recordAll step.marks }

def run (metered : Metered) (calls : List Call) : Metered := calls.foldl enter metered

-- Every gauge shows how many snippets of its kind there are.
structure Tracked (metered : Metered) : Prop where
  enabled : metered.metrics.enabled = true
  gauge : ∀ kind, metered.metrics.gauge kind = metered.library.countOf kind

namespace Tracked

variable {metered : Metered} {call : Call}

-- It is enough to publish the one kind of which there may be more or fewer than before.
theorem publish (h : metered.Tracked) {published : SnippetKind}
    (hmarks : (metered.library.attempt call).marks =
      [(metered.library.attempt call).state.stored published])
    (hothers : ∀ kind, kind ≠ published →
      (metered.library.attempt call).state.countOf kind = metered.library.countOf kind) :
    (metered.enter call).Tracked := by
  obtain ⟨henabled, hgauge⟩ := h
  have hmetrics : (metered.enter call).metrics =
      metered.metrics.record ((metered.library.attempt call).state.stored published) := by
    rw [enter, hmarks]
    rfl
  constructor
  · rw [hmetrics, Metrics.enabled_record]
    exact henabled
  · intro kind
    rw [hmetrics, stored, Metrics.gauge_stored henabled]
    by_cases hkind : kind = published
    · rw [if_pos hkind, hkind]
      rfl
    · rw [if_neg hkind, hgauge kind]
      exact (hothers kind hkind).symm

-- Nothing has to be published where there are as many of every kind as before.
theorem silent (h : metered.Tracked) (hmarks : (metered.library.attempt call).marks = [])
    (hsame : ∀ kind,
      (metered.library.attempt call).state.countOf kind = metered.library.countOf kind) :
    (metered.enter call).Tracked := by
  obtain ⟨henabled, hgauge⟩ := h
  have hmetrics : (metered.enter call).metrics = metered.metrics := by
    rw [enter, hmarks]
    rfl
  constructor
  · rw [hmetrics]
    exact henabled
  · intro kind
    rw [hmetrics, hgauge kind]
    exact (hsame kind).symm

theorem create (h : metered.Tracked) (draft : Snippet.Draft) {id : String} (createdAt : Nat)
    (hfree : metered.library.get? id = none) :
    (metered.enter (.act (.create draft id createdAt))).Tracked := by
  apply h.publish rfl
  intro kind hkind
  have hcount := countOf_create kind draft createdAt hfree
  rw [decide_eq_false (Ne.symm hkind)] at hcount
  exact hcount

theorem update (h : metered.Tracked) (id : String) (changes : Snippet.Changes) :
    (metered.enter (.act (.update id changes))).Tracked :=
  h.silent (marks_update metered.library id changes) fun kind => countOf_update kind id changes

-- A snippet that is found is taken out of its own kind.
theorem delete (h : metered.Tracked) (id : String) :
    (metered.enter (.act (.delete id))).Tracked := by
  cases hget : metered.library.get? id with
  | none =>
    obtain ⟨hstate, hmarks⟩ := delete_of_none hget
    exact h.silent hmarks fun kind => congrArg (countOf · kind) hstate
  | some snippet =>
    have hmarks : (metered.library.attempt (.act (.delete id))).marks =
        [(metered.library.attempt (.act (.delete id))).state.stored snippet.kind] :=
      marks_delete_of_some hget
    apply h.publish hmarks
    intro kind hkind
    have hcount := @countOf_delete metered.library kind id
    rw [hget, Option.any_some, decide_eq_false (Ne.symm hkind)] at hcount
    exact hcount

theorem act (h : metered.Tracked) {action : Action}
    (hfree : ∀ id ∈ action.created?, metered.library.get? id = none) :
    (metered.enter (.act action)).Tracked := by
  cases action with
  | create draft id createdAt => exact h.create draft createdAt (hfree id rfl)
  | update id changes => exact h.update id changes
  | delete id => exact h.delete id

theorem run (h : metered.Tracked) {calls : List Call}
    (hfresh : metered.library.Fresh (calls.filterMap Call.action?)) :
    (metered.run calls).Tracked := by
  induction calls generalizing metered with
  | nil => exact h
  | cons call calls ih =>
    cases call with
    | act action =>
      have hacts : metered.library.Fresh (action :: calls.filterMap Call.action?) := hfresh
      have hnext := hacts.tail
      rw [← state_attempt_act] at hnext
      exact ih (h.act hacts.head) hnext
    | get | list => exact ih (h.silent rfl fun _ => rfl) hfresh

end Tracked

-- Whatever is done with a library that begins without snippets, the gauge of every kind shows how
-- many snippets of the kind there are, and all the gauges together how many there are at all. The
-- ids that are created have to be different, since a new snippet under an id that is taken would
-- displace one whose kind is not published.
theorem gauges_of_run {metrics : Metrics} (henabled : metrics.enabled = true)
    (hstored : metrics.stored = .empty) {calls : List Call} {metered : Metered}
    (hrun : run ⟨{}, metrics⟩ calls = metered)
    (hids : ((calls.filterMap Call.action?).filterMap Action.created?).Nodup) :
    (∀ kind, metered.metrics.gauge kind = metered.library.countOf kind) ∧
      (SnippetKind.all.map metered.metrics.gauge).sum = metered.library.size := by
  have hempty : Tracked ⟨{}, metrics⟩ := by
    refine ⟨henabled, fun kind => ?_⟩
    rw [Metrics.gauge, Metrics.value?_stored, hstored]
    rfl
  have htracked := hempty.run (Fresh.empty hids)
  rw [hrun] at htracked
  refine ⟨htracked.gauge, ?_⟩
  rw [← sum_countOf, funext htracked.gauge]

-- Two snippets are taken out again, one of them the last of its kind, and one of the calls on ids
-- that are not there is a second deletion.
theorem gauges_of_run_missing :
    let swift : Snippet.Draft := { content := "*in* swift" }
    let page : Snippet.Draft := { content := "*mold* [home]", kind := .mold }
    let calls : List Call := [.act (.create swift "a" 10), .act (.create page "b" 20),
      .act (.update "a" { comment := some "kept" }), .act (.delete "b"), .act (.delete "b"),
      .get "b", .act (.create swift "c" 30), .act (.create swift "d" 40), .list false none,
      .act (.delete "a"), .act (.update "x" {})]
    let metered := run {} calls
    metered.library.snippets.keys = ["c", "d"] ∧
      metered.metrics.gauge .prompt = 2 ∧ metered.metrics.gauge .mold = 0 ∧
      metered.metrics.gauge .forge = 0 ∧
      (SnippetKind.all.map metered.metrics.gauge).sum = metered.library.size := by
  intro swift page calls metered
  obtain ⟨hgauges, hsum⟩ := @gauges_of_run {} rfl rfl calls metered rfl (by decide)
  refine ⟨by decide, ?_, ?_, ?_, hsum⟩
  · rw [hgauges]
    decide
  · rw [hgauges]
    decide
  · rw [hgauges]
    decide

end Metered

end Library

end ClausePrompt
