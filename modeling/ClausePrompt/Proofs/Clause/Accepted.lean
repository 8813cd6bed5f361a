import ClausePrompt.Clause
import ClausePrompt.Proofs.Lexicon.Lookup

namespace ClausePrompt

namespace Argument

-- The blanks around an argument say nothing.
@[simp] theorem read_trim (shape : Shape) (rules : Rules) (raw : List Char) :
    read shape rules (Text.trim raw) = read shape rules raw := by
  simp [read]

theorem read_eq_ok_iff {shape : Shape} {rules : Rules} {raw : List Char} {argument : Argument} :
    read shape rules raw = .ok argument ↔
      Text.trim raw ≠ [] ∧ clauseSeparator ∉ Text.trim raw ∧
        readShape shape rules (Text.trim raw) = .ok argument := by
  unfold read
  by_cases hempty : Text.trim raw = []
  · simp [hempty, malformed]
  · by_cases hsep : clauseSeparator ∈ Text.trim raw
    · simp [hempty, hsep, malformed]
    · simp [hempty, hsep]

-- A text that is trimmed already is read as it stands.
theorem read_of_trimmed {shape : Shape} {rules : Rules} {text : List Char}
    (htrimmed : Text.trim text = text) (hne : text ≠ []) (hsep : clauseSeparator ∉ text) :
    read shape rules text = readShape shape rules text := by
  simp [read, htrimmed, hne, hsep]

end Argument

namespace Clause

theorem readFor_eq_ok_iff {keyword : Keyword} {raw : String} {clause : Clause} :
    readFor keyword raw = .ok clause ↔
      clause.keyword = keyword ∧ clause.raw = raw ∧
        Argument.read keyword.shape keyword.rules raw.toList = .ok clause.argument := by
  obtain ⟨k, r, a⟩ := clause
  unfold readFor
  cases Argument.read keyword.shape keyword.rules raw.toList with
  | error defect => simp
  | ok argument =>
    simp only [Except.ok.injEq, mk.injEq]
    constructor
    · rintro ⟨rfl, rfl, rfl⟩
      exact ⟨rfl, rfl, rfl⟩
    · rintro ⟨rfl, rfl, rfl⟩
      exact ⟨rfl, rfl, rfl⟩

theorem readFor_eq_error_iff {keyword : Keyword} {raw : String} {f : Failure} :
    readFor keyword raw = .error f ↔
      ∃ defect, Argument.read keyword.shape keyword.rules raw.toList = .error defect ∧
        f = failure keyword defect := by
  unfold readFor
  cases Argument.read keyword.shape keyword.rules raw.toList with
  | error defect => simp [eq_comm]
  | ok argument => simp

-- A trimmed text that is not empty and has no clause separator is left to the reader of its shape.
theorem readFor_eq_ok_of_trimmed_iff {keyword : Keyword} {text : String}
    (htrimmed : Text.trimmed text = text) (hne : text ≠ "")
    (hseparator : Argument.clauseSeparator ∉ text.toList) {clause : Clause} :
    readFor keyword text = .ok clause ↔
      ∃ argument, clause = ⟨keyword, text, argument⟩ ∧
        Argument.readShape keyword.shape keyword.rules text.toList = .ok argument := by
  obtain ⟨found, raw, argument⟩ := clause
  rw [readFor_eq_ok_iff, Argument.read_of_trimmed (Text.trim_toList htrimmed)
    (by simpa using hne) hseparator]
  constructor
  · rintro ⟨rfl, rfl, hargument⟩
    exact ⟨argument, rfl, hargument⟩
  · rintro ⟨argument, hclause, hargument⟩
    obtain ⟨rfl, rfl, rfl⟩ := Clause.mk.inj hclause
    exact ⟨rfl, rfl, hargument⟩

theorem readFor_eq_error_of_trimmed_iff {keyword : Keyword} {text : String}
    (htrimmed : Text.trimmed text = text) (hne : text ≠ "")
    (hseparator : Argument.clauseSeparator ∉ text.toList) {f : Failure} :
    readFor keyword text = .error f ↔
      ∃ defect, Argument.readShape keyword.shape keyword.rules text.toList = .error defect ∧
        f = failure keyword defect := by
  rw [readFor_eq_error_iff, Argument.read_of_trimmed (Text.trim_toList htrimmed)
    (by simpa using hne) hseparator]

-- Only a key that is repeated is reported as one.
theorem eq_duplicateKey_of_failure {keyword : Keyword} {defect : Defect} {refusal : Refusal}
    (h : failure keyword defect = .refused refusal) (hkind : refusal.kind = .duplicateKey) :
    ∃ key, defect = .duplicateKey key ∧ refusal = .duplicateKey keyword.id key := by
  cases defect with
  | malformed malformation =>
    obtain rfl := Failure.refused.inj h
    cases hkind
  | duplicateKey key => exact ⟨key, rfl, (Failure.refused.inj h).symm⟩
  | tooManyDigits digits => cases h

theorem read_eq_ok_iff {lexicon : Lexicon} {typed raw : String} {clause : Clause} :
    read lexicon typed raw = .ok clause ↔
      lexicon.resolve typed = .ok clause.keyword ∧ readFor clause.keyword raw = .ok clause := by
  unfold read
  cases hresolve : lexicon.resolve typed with
  | error refusal => simp [refuse]
  | ok keyword =>
    simp only [Except.ok.injEq]
    constructor
    · intro h
      obtain ⟨rfl, -, -⟩ := readFor_eq_ok_iff.mp h
      exact ⟨rfl, h⟩
    · rintro ⟨rfl, h⟩
      exact h

theorem separator_not_mem_of_read {lexicon : Lexicon} {typed raw : String} {clause : Clause}
    (h : read lexicon typed raw = .ok clause) : Argument.clauseSeparator ∉ raw.toList := by
  obtain ⟨-, hfor⟩ := read_eq_ok_iff.mp h
  obtain ⟨-, -, hargument⟩ := readFor_eq_ok_iff.mp hfor
  obtain ⟨-, hseparator, -⟩ := Argument.read_eq_ok_iff.mp hargument
  rwa [Text.mem_trim_iff (by decide)] at hseparator

-- An id stands for its own keyword.
theorem keyword_of_read_id {lexicon : Lexicon} {keyword : Keyword} {raw : String} {clause : Clause}
    (hmem : keyword ∈ lexicon.keywords) (h : read lexicon keyword.id raw = .ok clause) :
    clause.keyword = keyword := by
  obtain ⟨hresolve, -⟩ := read_eq_ok_iff.mp h
  rw [Lexicon.resolve_id hmem] at hresolve
  exact (Except.ok.inj hresolve).symm

-- A clause that was read under the lexicon, whatever was typed for its keyword.
def Accepted (lexicon : Lexicon) (clause : Clause) : Prop :=
  ∃ typed raw, read lexicon typed raw = .ok clause

theorem accepted_iff {lexicon : Lexicon} {clause : Clause} :
    clause.Accepted lexicon ↔
      clause.keyword ∈ lexicon.keywords ∧
        Argument.read clause.keyword.shape clause.keyword.rules clause.raw.toList =
          .ok clause.argument := by
  constructor
  · rintro ⟨typed, raw, h⟩
    obtain ⟨hresolve, hread⟩ := read_eq_ok_iff.mp h
    obtain ⟨-, rfl, hargument⟩ := readFor_eq_ok_iff.mp hread
    exact ⟨(Lexicon.resolve_eq_ok_iff.mp hresolve).1, hargument⟩
  · rintro ⟨hmem, hargument⟩
    refine ⟨clause.keyword.id, clause.raw, read_eq_ok_iff.mpr ⟨Lexicon.resolve_id hmem, ?_⟩⟩
    exact readFor_eq_ok_iff.mpr ⟨rfl, rfl, hargument⟩

-- The clause as it comes back from its canonical form.
def tidy (clause : Clause) : Clause := { clause with raw := Text.trimmed clause.raw }

@[simp] theorem canonical_tidy (clause : Clause) : clause.tidy.canonical = clause.canonical := by
  simp [canonical, canonicalChars, tidy]

theorem equivalent_tidy (clause : Clause) : clause.equivalent clause.tidy = true := by
  simp [equivalent, tidy]

theorem tidy_eq_self {clause : Clause} (h : Text.trimmed clause.raw = clause.raw) :
    clause.tidy = clause := by
  rw [tidy, h]

-- An argument without the blanks around it is read as the tidy clause.
theorem read_trimmed (lexicon : Lexicon) (typed raw : String) :
    read lexicon typed (Text.trimmed raw) = (read lexicon typed raw).map tidy := by
  unfold read
  cases lexicon.resolve typed with
  | error refusal => rfl
  | ok keyword =>
    simp only [readFor, Text.toList_trimmed, Argument.read_trim]
    cases Argument.read keyword.shape keyword.rules raw.toList <;> rfl

-- Reading the id of an accepted clause with its trimmed argument gives the clause again.
theorem read_tidy {lexicon : Lexicon} {clause : Clause} (h : clause.Accepted lexicon) :
    read lexicon clause.keyword.id (Text.trimmed clause.raw) = .ok clause.tidy := by
  obtain ⟨hmem, hargument⟩ := accepted_iff.mp h
  refine read_eq_ok_iff.mpr ⟨Lexicon.resolve_id hmem, readFor_eq_ok_iff.mpr ⟨rfl, rfl, ?_⟩⟩
  simpa [tidy] using hargument

@[simp] theorem toList_canonical (clause : Clause) :
    clause.canonical.toList = clause.canonicalChars := by
  simp [canonical]

-- The canonical form of an accepted clause begins with an asterisk and ends as its argument does.
theorem trim_canonicalChars {lexicon : Lexicon} {clause : Clause} (h : clause.Accepted lexicon) :
    Text.trim clause.canonicalChars = clause.canonicalChars := by
  obtain ⟨-, hargument⟩ := accepted_iff.mp h
  obtain ⟨hne, -, -⟩ := Argument.read_eq_ok_iff.mp hargument
  apply Text.trim_eq_self
  · intro c hc
    obtain rfl : '*' = c := by simpa [canonicalChars] using hc
    decide
  · have hsplit : clause.canonicalChars =
        ('*' :: clause.keyword.id.toList ++ ['*', ' ']) ++ Text.trim clause.raw.toList := by
      simp [canonicalChars]
    rw [hsplit, List.getLast?_append_of_ne_nil _ hne]
    exact Text.isBlank_getLast_trim

theorem separator_not_mem_canonicalChars {lexicon : Lexicon} {clause : Clause}
    (h : clause.Accepted lexicon) : Argument.clauseSeparator ∉ clause.canonicalChars := by
  obtain ⟨-, hargument⟩ := accepted_iff.mp h
  obtain ⟨-, hsep, -⟩ := Argument.read_eq_ok_iff.mp hargument
  have hid : Argument.clauseSeparator ∉ clause.keyword.id.toList :=
    clause.keyword.not_mem_id_of_lt (by decide)
  simp only [canonicalChars, List.mem_append, List.mem_cons, hid, hsep]
  decide

end Clause

end ClausePrompt
