import ClausePrompt.Lexicon.Standard
import ClausePrompt.Proofs.Journal.Report
import ClausePrompt.Proofs.Journal.Samples
import ClausePrompt.Proofs.Lexicon.Lookup

namespace ClausePrompt.Sheet

variable {sheet : Sheet} {keyword : Keyword} {typed raw : String} {metrics : Metrics}

-- What is refused in reading is counted against the keyword as it was typed.
theorem place_of_refused (hresolve : sheet.lexicon.resolve typed = .ok keyword)
    {refusal : Refusal} (hread : Clause.readFor keyword raw = refuse refusal) :
    sheet.place typed raw = sheet.reject typed refusal := by
  rw [place, Clause.read, hresolve]
  dsimp only
  rw [hread]
  rfl

-- Whatever else comes of a clause is told of its keyword.
theorem place_of_not_refused {other : String}
    (hresolve : sheet.lexicon.resolve typed = .ok keyword)
    (hother : sheet.lexicon.resolve other = .ok keyword)
    (hread : ∀ refusal, Clause.readFor keyword raw ≠ refuse refusal) :
    sheet.place typed raw = sheet.place other raw := by
  rw [place, place, Clause.read, Clause.read, hresolve, hother]
  dsimp only
  split
  · rfl
  · rename_i refusal hrefused
    exact absurd hrefused (hread refusal)
  · rfl

-- A rejection counts one more against the keyword that it names, and one more failure.
theorem get?_reject (henabled : metrics.enabled = true) (named : String) (refusal : Refusal)
    (count : Count) :
    (metrics.recordAll (sheet.reject named refusal).marks).counts.get? count =
      if count = .clause named .rejected ∨ count = .failure refusal.kind .assembler then
        some (metrics.count count + 1)
      else metrics.counts.get? count := by
  have hmarks : metrics.recordAll (sheet.reject named refusal).marks =
      (metrics.record (.count (.clause named .rejected))).record
        (.count (.failure refusal.kind .assembler)) := rfl
  rw [hmarks, Metrics.get?_record_count ((Metrics.enabled_record _ _).trans henabled),
    Metrics.get?_record_count henabled, Metrics.count_record henabled]
  by_cases hclause : count = .clause named .rejected
  · simp [hclause]
  · by_cases hfailure : count = .failure refusal.kind .assembler
    · simp [hfailure]
    · simp [hclause, hfailure]

theorem stored_reject (named : String) (refusal : Refusal) :
    (metrics.recordAll (sheet.reject named refusal).marks).stored = metrics.stored :=
  (Metrics.stored_record_count _ _).trans (Metrics.stored_record_count metrics _)

-- What is shown after a rejection, for the rejections of a keyword and for everything else.
theorem value?_reject (henabled : metrics.enabled = true) (named shown : String)
    (refusal : Refusal) :
    (metrics.recordAll (sheet.reject named refusal).marks).value?
        (Count.clause shown .rejected).series =
      if shown = named then some (metrics.count (.clause shown .rejected) + 1)
      else metrics.value? (Count.clause shown .rejected).series := by
  have hget : (metrics.recordAll (sheet.reject named refusal).marks).counts.get?
      (.clause shown .rejected) = _ := get?_reject henabled named refusal _
  rw [Metrics.value?_count, Metrics.value?_count]
  refine hget.trans ?_
  by_cases hsame : shown = named
  · rw [if_pos (.inl (by rw [hsame])), if_pos hsame]
  · rw [if_neg (by simpa using hsame), if_neg hsame]
    rfl

theorem value?_reject_congr (henabled : metrics.enabled = true) {first second : String}
    (refusal : Refusal) {series : String × List (String × String)}
    (hfirst : series ≠ (Count.clause first .rejected).series)
    (hsecond : series ≠ (Count.clause second .rejected).series) :
    (metrics.recordAll (sheet.reject first refusal).marks).value? series =
      (metrics.recordAll (sheet.reject second refusal).marks).value? series := by
  apply Metrics.value?_congr
  · rintro count rfl
    have hnotFirst : count ≠ .clause first .rejected := fun h => hfirst (Count.series_inj.mpr h)
    have hnotSecond : count ≠ .clause second .rejected := fun h => hsecond (Count.series_inj.mpr h)
    rw [get?_reject henabled, get?_reject henabled]
    simp only [hnotFirst, hnotSecond, false_or]
  · rw [stored_reject, stored_reject]

-- However a keyword is spelled, a clause is placed alike and the sheet is left alike. So are all
-- the metrics, unless the argument is refused in reading: the rejection is then counted against the
-- keyword as it was typed and not against its id, and everything else is shown alike.
theorem place_of_spelling (hmem : keyword ∈ sheet.lexicon.keywords)
    (hspelling : Lexicon.spelling typed = keyword.id) (raw : String)
    (henabled : metrics.enabled = true) :
    let asTyped := sheet.place typed raw
    let asListed := sheet.place keyword.id raw
    asTyped.outcome = asListed.outcome ∧ asTyped.state = asListed.state ∧
    ((∀ refusal, Clause.readFor keyword raw ≠ refuse refusal) →
      (metrics.recordAll asTyped.marks).samples = (metrics.recordAll asListed.marks).samples) ∧
    ∀ refusal, Clause.readFor keyword raw = refuse refusal →
      (∀ series, series ≠ (Count.clause typed .rejected).series →
        series ≠ (Count.clause keyword.id .rejected).series →
        (metrics.recordAll asTyped.marks).value? series =
          (metrics.recordAll asListed.marks).value? series) ∧
      (metrics.recordAll asTyped.marks).value? (Count.clause typed .rejected).series =
        some (metrics.count (.clause typed .rejected) + 1) ∧
      (metrics.recordAll asListed.marks).value? (Count.clause keyword.id .rejected).series =
        some (metrics.count (.clause keyword.id .rejected) + 1) ∧
      (typed ≠ keyword.id →
        (metrics.recordAll asTyped.marks).value? (Count.clause keyword.id .rejected).series =
            metrics.value? (Count.clause keyword.id .rejected).series ∧
          (metrics.recordAll asListed.marks).value? (Count.clause typed .rejected).series =
            metrics.value? (Count.clause typed .rejected).series) := by
  intro asTyped asListed
  have hresolve : sheet.lexicon.resolve typed = .ok keyword :=
    Lexicon.resolve_eq_ok_iff.mpr ⟨hmem, hspelling.symm⟩
  have hlisted : sheet.lexicon.resolve keyword.id = .ok keyword := Lexicon.resolve_id hmem
  by_cases hrefused : ∃ refusal, Clause.readFor keyword raw = refuse refusal
  · obtain ⟨refusal, hread⟩ := hrefused
    have htyped : asTyped = sheet.reject typed refusal := place_of_refused hresolve hread
    have hid : asListed = sheet.reject keyword.id refusal := place_of_refused hlisted hread
    rw [htyped, hid]
    refine ⟨rfl, rfl, fun hnone => absurd hread (hnone refusal), ?_⟩
    intro found hfound
    obtain rfl : refusal = found := Failure.refused.inj (Except.error.inj (hread.symm.trans hfound))
    refine ⟨fun series hfirst hsecond => value?_reject_congr henabled refusal hfirst hsecond,
      ?_, ?_, fun hne => ⟨?_, ?_⟩⟩
    · rw [value?_reject henabled, if_pos rfl]
    · rw [value?_reject henabled, if_pos rfl]
    · rw [value?_reject henabled, if_neg (Ne.symm hne)]
    · rw [value?_reject henabled, if_neg hne]
  · rw [not_exists] at hrefused
    have hsame : asTyped = asListed := place_of_not_refused hresolve hlisted hrefused
    rw [hsame]
    exact ⟨rfl, rfl, fun _ => rfl, fun refusal hread => absurd hread (hrefused refusal)⟩

-- An empty argument is refused under both spellings, but each run shows a rejection of its own.
theorem place_of_spelling_upper :
    let sheet : Sheet := { lexicon := .standard }
    let metrics : Metrics := {}
    let rejections := (Count.clause "in" .rejected).series
    Lexicon.spelling "IN" = "in" ∧
      (metrics.recordAll (sheet.place "in" "").marks).value? rejections = some 1 ∧
      (metrics.recordAll (sheet.place "IN" "").marks).value? rejections = none := by
  intro sheet metrics rejections
  refine ⟨by decide, ?_, ?_⟩
  · rw [Metrics.value?_count]
    decide
  · rw [Metrics.value?_count]
    decide

-- A clause that would not fit is counted against the id, and an argument that is refused in reading
-- against the keyword as it was typed.
theorem place_of_spelling_for :
    let sheet : Sheet := { lexicon := .standard, limit := 8 }
    let metrics : Metrics := {}
    let after := metrics.recordAll (sheet.place " FOR " "web").marks
    (sheet.place " FOR " "web").outcome =
        refuse (.malformed (some "for") (Prompt.wouldExceed 8)) ∧
      after.samples = (metrics.recordAll (sheet.place "for" "web").marks).samples ∧
      (after.recordAll (sheet.place " FOR " "a|b").marks).value?
        (Count.clause " FOR " .rejected).series = some 1 ∧
      (after.recordAll (sheet.place "for" "a|b").marks).value?
        (Count.clause "for" .rejected).series = some 2 := by
  intro sheet metrics after
  have hmem : Lexicon.standardKeywords[1] ∈ sheet.lexicon.keywords := by decide
  have hspelling : Lexicon.spelling " FOR " = Lexicon.standardKeywords[1].id := by decide
  obtain ⟨-, -, hsamples, -⟩ :=
    @place_of_spelling sheet Lexicon.standardKeywords[1] " FOR " metrics hmem hspelling "web" rfl
  obtain ⟨-, -, -, hrejected⟩ :=
    @place_of_spelling sheet Lexicon.standardKeywords[1] " FOR " after hmem hspelling "a|b"
      (Metrics.enabled_recordAll metrics _)
  have hread : Clause.readFor Lexicon.standardKeywords[1] "web" = .ok _ := rfl
  obtain ⟨-, htyped, hlisted, -⟩ := hrejected _ rfl
  have hnone : after.count (.clause " FOR " .rejected) = 0 := by decide
  have hone : after.count (.clause "for" .rejected) = 1 := by decide
  rw [hnone] at htyped
  refine ⟨by decide, hsamples fun refusal hrefused => ?_, htyped, ?_⟩
  · cases hread.symm.trans hrefused
  · exact hlisted.trans (congrArg (fun number => some (number + 1)) hone)

end ClausePrompt.Sheet
