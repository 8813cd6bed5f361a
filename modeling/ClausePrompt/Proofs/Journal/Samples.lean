import ClausePrompt.Journal.Exposition
import ClausePrompt.Proofs.OrderedMap

namespace ClausePrompt

theorem Placement.name_inj {first second : Placement} :
    first.name = second.name ↔ first = second := by
  cases first <;> cases second <;> decide

theorem ErrorKind.name_inj {first second : ErrorKind} :
    first.name = second.name ↔ first = second := by
  cases first <;> cases second <;> decide

theorem Component.name_inj {first second : Component} :
    first.name = second.name ↔ first = second := by
  cases first <;> cases second <;> decide

theorem Move.name_inj {first second : Move} : first.name = second.name ↔ first = second := by
  cases first <;> cases second <;> decide

theorem SnippetKind.name_inj {first second : SnippetKind} :
    first.name = second.name ↔ first = second := by
  cases first <;> cases second <;> decide

-- The name and the labels, by which a sample is told from every other.
def Sample.series (sample : Sample) : String × List (String × String) :=
  (sample.name, sample.labels)

def Count.series (count : Count) : String × List (String × String) :=
  (Metrics.Count.sample 0 count).series

def SnippetKind.series (kind : SnippetKind) : String × List (String × String) :=
  (Metrics.snippetsName, [("kind", kind.name)])

@[simp] theorem Metrics.series_sample (value : Nat) (count : Count) :
    (Metrics.Count.sample value count).series = count.series := by
  cases count <;> rfl

@[simp] theorem Metrics.value_sample (value : Nat) (count : Count) :
    (Metrics.Count.sample value count).value = value := by
  cases count <;> rfl

-- What is counted apart is shown apart.
theorem Count.series_inj {first second : Count} :
    first.series = second.series ↔ first = second := by
  constructor
  · intro h
    obtain ⟨hname, hlabels⟩ := Prod.mk.inj h
    cases first <;> cases second
    case clause.clause => simpa [Metrics.Count.sample, Placement.name_inj] using hlabels
    case parse.parse first second =>
      cases first <;> cases second <;> simp_all [Metrics.Count.sample]
    case move.move one first other second =>
      cases first <;> cases second <;> simp_all [Metrics.Count.sample, Move.name_inj]
    case completion.completion => rfl
    case failure.failure =>
      simpa [Metrics.Count.sample, Component.name_inj, ErrorKind.name_inj, and_comm] using hlabels
    all_goals simp [Metrics.Count.sample, Metrics.clausesName, Metrics.parsesName,
      Metrics.movesName, Metrics.completionsName, Metrics.failuresName] at hname
  · rintro rfl
    rfl

theorem Count.series_ne_stored (count : Count) (kind : SnippetKind) :
    count.series ≠ kind.series := by
  intro h
  obtain ⟨hname, -⟩ := Prod.mk.inj h
  cases count <;> simp [Metrics.Count.sample, Metrics.clausesName, Metrics.parsesName,
    Metrics.movesName, Metrics.completionsName, Metrics.failuresName, Metrics.snippetsName] at hname

theorem SnippetKind.series_inj {first second : SnippetKind} :
    first.series = second.series ↔ first = second := by
  simp [SnippetKind.series, SnippetKind.name_inj]

namespace Metrics

variable {metrics : Metrics}

theorem get?_record_count (henabled : metrics.enabled = true) (counted count : Count) :
    (metrics.record (.count counted)).counts.get? count =
      if count = counted then some (metrics.count count + 1) else metrics.counts.get? count := by
  rw [record, if_pos henabled]
  refine (OrderedMap.get?_insert metrics.counts counted count (metrics.count counted + 1)).trans ?_
  by_cases hsame : count = counted
  · rw [hsame]
  · rw [if_neg hsame, if_neg hsame]

theorem stored_record_count (metrics : Metrics) (counted : Count) :
    (metrics.record (.count counted)).stored = metrics.stored := by
  unfold record
  split <;> rfl

-- The value that is shown for a series, if it is shown at all.
def value? (metrics : Metrics) (series : String × List (String × String)) : Option Nat :=
  (metrics.samples.find? (·.series = series)).map (·.value)

-- What is shown of an occurrence. The completions are shown from the start, and the others from the
-- first one on.
def shown? (metrics : Metrics) (count : Count) : Option Nat :=
  if count = .completion then some (metrics.count .completion) else metrics.counts.get? count

theorem mem_samples_iff {sample : Sample} :
    sample ∈ metrics.samples ↔
      (∃ count value, metrics.shown? count = some value ∧ Count.sample value count = sample) ∨
      ∃ kind number, metrics.stored.get? kind = some number ∧
        ⟨snippetsName, [("kind", kind.name)], number⟩ = sample := by
  simp only [samples, List.mem_mergeSort, List.mem_append, List.mem_map, List.mem_filter,
    List.mem_singleton, ← OrderedMap.get?_eq_some_iff, Prod.exists, decide_eq_true_iff, shown?]
  grind

-- What is shown for a series is what all its samples say, as long as there is one wherever
-- something is to be shown.
theorem value?_eq {series : String × List (String × String)} {value : Option Nat}
    (hsaid : ∀ sample ∈ metrics.samples, sample.series = series → value = some sample.value)
    (hthere : value ≠ none → ∃ sample ∈ metrics.samples, sample.series = series) :
    metrics.value? series = value := by
  cases hfind : metrics.samples.find? (·.series = series) with
  | none =>
    have hall := List.find?_eq_none.mp hfind
    have hnone : value = none := by
      by_contra hsome
      obtain ⟨sample, hmem, hseries⟩ := hthere hsome
      exact absurd hseries (by simpa using hall sample hmem)
    rw [value?, hfind, hnone, Option.map_none]
  | some found =>
    have hseries : found.series = series := by simpa using List.find?_some hfind
    rw [value?, hfind, Option.map_some, hsaid found (List.mem_of_find?_eq_some hfind) hseries]

theorem value?_count (count : Count) : metrics.value? count.series = metrics.shown? count := by
  apply value?_eq
  · intro sample hmem hseries
    obtain ⟨other, value, hshown, rfl⟩ | ⟨kind, number, -, rfl⟩ := mem_samples_iff.mp hmem
    · obtain rfl := Count.series_inj.mp ((series_sample value other).symm.trans hseries)
      rw [value_sample, hshown]
    · exact absurd hseries.symm (count.series_ne_stored kind)
  · intro hsome
    obtain ⟨value, hshown⟩ := Option.ne_none_iff_exists'.mp hsome
    exact ⟨_, mem_samples_iff.mpr (.inl ⟨count, value, hshown, rfl⟩), series_sample value count⟩

theorem value?_stored (kind : SnippetKind) :
    metrics.value? kind.series = metrics.stored.get? kind := by
  apply value?_eq
  · intro sample hmem hseries
    obtain ⟨count, value, -, rfl⟩ | ⟨other, number, hget, rfl⟩ := mem_samples_iff.mp hmem
    · exact absurd ((series_sample value count).symm.trans hseries) (count.series_ne_stored kind)
    · obtain rfl := SnippetKind.series_inj.mp hseries
      exact hget
  · intro hsome
    obtain ⟨number, hget⟩ := Option.ne_none_iff_exists'.mp hsome
    exact ⟨_, mem_samples_iff.mpr (.inr ⟨kind, number, hget, rfl⟩), rfl⟩

-- Nothing else is shown.
theorem value?_eq_none {series : String × List (String × String)}
    (hcount : ∀ count : Count, count.series ≠ series)
    (hkind : ∀ kind : SnippetKind, kind.series ≠ series) : metrics.value? series = none := by
  apply value?_eq
  · intro sample hmem hseries
    obtain ⟨count, value, -, rfl⟩ | ⟨kind, number, -, rfl⟩ := mem_samples_iff.mp hmem
    · exact absurd ((series_sample value count).symm.trans hseries) (hcount count)
    · exact absurd hseries (hkind kind)
  · intro hsome
    exact absurd rfl hsome

-- Two collections show one value for a series if they have counted alike whatever is shown there.
theorem value?_congr {other : Metrics} {series : String × List (String × String)}
    (hcounts : ∀ count : Count, count.series = series →
      metrics.counts.get? count = other.counts.get? count)
    (hstored : metrics.stored = other.stored) : metrics.value? series = other.value? series := by
  by_cases hcount : ∃ count : Count, count.series = series
  · obtain ⟨count, rfl⟩ := hcount
    have hget := hcounts count rfl
    rw [value?_count, value?_count, shown?, shown?, hget]
    split
    · rename_i hcompletion
      rw [Metrics.count, Metrics.count, ← hcompletion, hget]
    · rfl
  · by_cases hkind : ∃ kind : SnippetKind, kind.series = series
    · obtain ⟨kind, rfl⟩ := hkind
      rw [value?_stored, value?_stored, hstored]
    · rw [not_exists] at hcount hkind
      rw [value?_eq_none hcount hkind, value?_eq_none hcount hkind]

end Metrics

end ClausePrompt
