import ClausePrompt.Proofs.Argument.Call

namespace ClausePrompt.Call

open Nesting (WellNested)

-- What a call is made of. The parentheses of the value are balanced, whatever its brackets do.
structure Parts where
  name : List Char
  blanks : List Char
  value : List Char
  name_valid : IsName name
  blanks_blank : Text.allBlank blanks = true
  value_balanced : Balanced value

namespace Parts

def segment (parts : Parts) : List Char :=
  parts.name ++ parts.blanks ++ '(' :: parts.value ++ [')']

theorem isCall (parts : Parts) : IsCall parts.segment parts.name parts.value :=
  ⟨parts.blanks, rfl, parts.name_valid, parts.blanks_blank, parts.value_balanced⟩

theorem split?_segment (parts : Parts) : split? parts.segment = some (parts.name, parts.value) :=
  split?_eq_some_iff.mpr parts.isCall

-- A split gives the name and the value back, and the blanks are what is left of the segment.
theorem segment_injective : Function.Injective segment := by
  intro parts other h
  have hsplit : some (parts.name, parts.value) = some (other.name, other.value) := by
    rw [← split?_segment, ← split?_segment, h]
  cases parts with
  | mk name blanks value =>
    cases other with
    | mk name' blanks' value' =>
      obtain ⟨rfl, rfl⟩ : name = name' ∧ value = value' := by simpa using hsplit
      obtain rfl : blanks = blanks' := by simpa [segment] using h
      rfl

-- Neither the name nor the blanks hold a delimiter, and the value stands between two that match.
theorem wellNested_segment_iff (parts : Parts) :
    WellNested parts.segment ↔ WellNested parts.value := by
  constructor
  · exact parts.isCall.wellNested
  · intro hvalue
    have hname : WellNested parts.name :=
      .of_plain (isDelimiter_of_isName parts.name_valid)
    have hblanks : WellNested parts.blanks :=
      .of_plain fun c hc => isDelimiter_of_isBlank (Text.allBlank_iff.mp parts.blanks_blank c hc)
    rw [segment, List.append_assoc]
    exact (hname.append hblanks).append (.wrap .round hvalue .nil)

end Parts

theorem isCall_iff_exists_parts {segment name value : List Char} :
    IsCall segment name value ↔
      ∃ parts : Parts, parts.segment = segment ∧ parts.name = name ∧ parts.value = value := by
  constructor
  · rintro ⟨blanks, rfl, hname, hblanks, hvalue⟩
    exact ⟨⟨name, blanks, value, hname, hblanks, hvalue⟩, rfl, rfl, rfl⟩
  · rintro ⟨parts, rfl, rfl, rfl⟩
    exact parts.isCall

theorem split?_eq_none_iff {segment : List Char} :
    split? segment = none ↔ ∀ parts : Parts, parts.segment ≠ segment := by
  constructor
  · rintro h parts rfl
    rw [parts.split?_segment] at h
    cases h
  · intro h
    cases hsplit : split? segment with
    | none => rfl
    | some call =>
      obtain ⟨parts, hparts, -, -⟩ := isCall_iff_exists_parts.mp (split?_eq_some_iff.mp hsplit)
      exact absurd hparts (h parts)

-- A segment is split exactly if it is made of the parts of a call, and it is made of them in one
-- way only. It is well nested exactly if its value is: the parenthesis that ends the value by the
-- count of the parentheses alone is the one that matches when brackets count too.
theorem split_into_parts (segment : List Char) :
    (∀ name value, split? segment = some (name, value) ↔
      ∃ parts : Parts, parts.segment = segment ∧ parts.name = name ∧ parts.value = value) ∧
    (split? segment = none ↔ ∀ parts : Parts, parts.segment ≠ segment) ∧
    (∀ parts other : Parts, parts.segment = segment → other.segment = segment → parts = other) ∧
    ∀ name value, split? segment = some (name, value) →
      (WellNested segment ↔ WellNested value) := by
  refine ⟨fun name value => ?_, split?_eq_none_iff, ?_, fun name value h => ?_⟩
  · rw [split?_eq_some_iff, isCall_iff_exists_parts]
  · intro parts other hparts hother
    exact Parts.segment_injective (hparts.trans hother.symm)
  · obtain ⟨parts, rfl, -, rfl⟩ := isCall_iff_exists_parts.mp (split?_eq_some_iff.mp h)
    exact parts.wellNested_segment_iff

-- A value may hold calls of its own. Where a bracket opens in one of them and closes in another,
-- the segment is still split, but neither it nor its value is well nested.
theorem split_into_parts_start :
    split? "start (f(3); [g(x)])".toList = some ("start".toList, "f(3); [g(x)]".toList) ∧
    (∀ parts : Parts, parts.segment = "start (f(3); [g(x)])".toList → parts.blanks = [' ']) ∧
    WellNested "f(3); [g(x)]".toList ∧
    split? "start(f([); g(]))".toList = some ("start".toList, "f([); g(])".toList) ∧
    ¬WellNested "f([); g(])".toList := by
  have hnested : WellNested "start (f(3); [g(x)])".toList := by decide
  have hcrossed : ¬WellNested "start(f([); g(]))".toList := by decide
  have hsplit : split? "start (f(3); [g(x)])".toList =
      some ("start".toList, "f(3); [g(x)]".toList) := by decide
  have hsplit' : split? "start(f([); g(]))".toList =
      some ("start".toList, "f([); g(])".toList) := by decide
  have hvalue := ((split_into_parts _).2.2.2 _ _ hsplit).mp hnested
  refine ⟨hsplit, fun parts hparts => ?_, hvalue, hsplit', fun h => ?_⟩
  · let start : Parts :=
      ⟨"start".toList, [' '], "f(3); [g(x)]".toList, by decide, by decide,
        balanced_of_wellNested hvalue⟩
    have hstart : start.segment = "start (f(3); [g(x)])".toList := rfl
    rw [(split_into_parts _).2.2.1 parts start hparts hstart]
  · exact hcrossed (((split_into_parts _).2.2.2 _ _ hsplit').mpr h)

end ClausePrompt.Call
