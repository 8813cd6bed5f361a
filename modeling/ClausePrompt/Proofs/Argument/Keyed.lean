import ClausePrompt.Lexicon.Standard
import ClausePrompt.Proofs.Argument.Call
import ClausePrompt.Proofs.Argument.TopLevel
import ClausePrompt.Proofs.Clause.Accepted
import Mathlib.Data.List.Forall2

namespace ClausePrompt

namespace Argument

open Nesting (WellNested topSegments)

-- The segment is a name, blanks and a value in parentheses that is well nested. The name in lower
-- case is the key, and the trimmed value is not empty.
def IsEntry (segment : List Char) (entry : List Char × List Char) : Prop :=
  ∃ name blanks value, segment = name ++ blanks ++ '(' :: value ++ [')'] ∧ Call.IsName name ∧
    Text.allBlank blanks = true ∧ WellNested value ∧ Text.trim value ≠ [] ∧
    entry = (Text.lower name, Text.trim value)

theorem IsEntry.exists_split? {segment : List Char} {entry : List Char × List Char}
    (h : IsEntry segment entry) :
    ∃ name body, Call.split? segment = some (name, body) ∧ Text.trim body ≠ [] ∧
      entry = (Text.lower name, Text.trim body) := by
  obtain ⟨name, blanks, value, hform, hname, hblanks, hvalue, hne, hentry⟩ := h
  refine ⟨name, value, Call.split?_eq_some_iff.mpr ?_, hne, hentry⟩
  exact ⟨blanks, hform, hname, hblanks, Call.balanced_of_wellNested hvalue⟩

-- Within a well-nested text the calls that are found by counting parentheses are the same.
theorem isEntry_of_split? {segment name body : List Char} (hsegment : WellNested segment)
    (hcall : Call.split? segment = some (name, body)) (hbody : Text.trim body ≠ []) :
    IsEntry segment (Text.lower name, Text.trim body) := by
  have hcall := Call.split?_eq_some_iff.mp hcall
  have hvalue := hcall.wellNested hsegment
  obtain ⟨blanks, hform, hname, hblanks, -⟩ := hcall
  exact ⟨name, blanks, body, hform, hname, hblanks, hvalue, hbody, rfl⟩

theorem IsEntry.unique {segment : List Char} {first second : List Char × List Char}
    (hfirst : IsEntry segment first) (hsecond : IsEntry segment second) : first = second := by
  obtain ⟨name, body, hcall, -, rfl⟩ := hfirst.exists_split?
  obtain ⟨name', body', hcall', -, rfl⟩ := hsecond.exists_split?
  obtain ⟨rfl, rfl⟩ := Prod.mk.inj (Option.some.inj (hcall.symm.trans hcall'))
  rfl

theorem forall₂_isEntry_cons_iff {segment : List Char} {entry : List Char × List Char}
    (h : IsEntry segment entry) {rest : List (List Char)}
    {entries : List (List Char × List Char)} :
    List.Forall₂ IsEntry (segment :: rest) entries ↔
      ∃ tail, List.Forall₂ IsEntry rest tail ∧ entries = entry :: tail := by
  constructor
  · intro hall
    obtain ⟨first, tail, hfirst, htail, rfl⟩ := List.forall₂_cons_left_iff.mp hall
    obtain rfl := h.unique hfirst
    exact ⟨tail, htail, rfl⟩
  · rintro ⟨tail, htail, rfl⟩
    exact .cons h htail

theorem not_forall₂_isEntry_cons {segment : List Char} (h : ∀ entry, ¬IsEntry segment entry)
    {rest : List (List Char)} {entries : List (List Char × List Char)} :
    ¬List.Forall₂ IsEntry (segment :: rest) entries := by
  intro hall
  obtain ⟨entry, -, hentry, -⟩ := List.forall₂_cons_left_iff.mp hall
  exact h entry hentry

theorem nodup_concat {seen : List (List Char)} {key : List Char} (hnew : key ∉ seen)
    (hseen : seen.Nodup) : (seen ++ [key]).Nodup := by
  simpa using List.Nodup.concat hnew hseen

-- Keys that are all different, one of which comes after those that were seen.
theorem nodup_keys_cons_iff {seen : List (List Char)} {key value : List Char}
    {entries : List (List Char × List Char)} :
    (seen ++ ((key, value) :: entries).map (·.1)).Nodup ↔
      key ∉ seen ∧ (seen ++ [key] ++ entries.map (·.1)).Nodup := by
  rw [List.map_cons, List.append_assoc, List.singleton_append, iff_and_self, List.nodup_middle]
  exact fun h hmem => h.notMem (List.mem_append_left _ hmem)

theorem readEntries_cons (seen : List (List Char)) (segment : List Char)
    (rest : List (List Char)) :
    readEntries seen (segment :: rest) =
      if segment.isEmpty then malformed .emptySegment
      else match Call.split? segment with
        | none => malformed (.notCall (String.ofList segment))
        | some (name, body) =>
          let key := Text.lower name
          let value := Text.trim body
          if value.isEmpty then malformed (.emptyValue (String.ofList key))
          else if key ∈ seen then .error (.duplicateKey (String.ofList key))
          else (readEntries (seen ++ [key]) rest).map ((key, value) :: ·) := rfl

-- A segment that is an entry is read as it, unless its key was there before.
theorem readEntries_cons_of_isEntry {seen rest : List (List Char)} {segment key value : List Char}
    (h : IsEntry segment (key, value)) :
    readEntries seen (segment :: rest) =
      if key ∈ seen then .error (.duplicateKey (String.ofList key))
      else (readEntries (seen ++ [key]) rest).map ((key, value) :: ·) := by
  obtain ⟨name, body, hcall, hbody, hentry⟩ := h.exists_split?
  obtain ⟨rfl, rfl⟩ := Prod.mk.inj hentry
  have hsegment : segment ≠ [] := by
    rintro rfl
    cases hcall
  rw [readEntries_cons]
  simp [hsegment, hcall, hbody]

-- Any other segment is refused for its form.
theorem readEntries_cons_of_not_isEntry {seen rest : List (List Char)} {segment : List Char}
    (hsegment : WellNested segment) (h : ∀ entry, ¬IsEntry segment entry) :
    ∃ malformation, readEntries seen (segment :: rest) = malformed malformation := by
  rw [readEntries_cons]
  by_cases hempty : segment = []
  · exact ⟨.emptySegment, by simp [hempty]⟩
  · cases hcall : Call.split? segment with
    | none => exact ⟨.notCall (String.ofList segment), by simp [hempty]⟩
    | some call =>
      obtain ⟨name, body⟩ := call
      have hbody : Text.trim body = [] := by
        by_contra hne
        exact h _ (isEntry_of_split? hsegment hcall hne)
      exact ⟨.emptyValue (String.ofList (Text.lower name)), by simp [hempty, hbody]⟩

-- The induction is on the segments, with the keys of those before as the ones that were seen.
theorem readEntries_eq_ok_iff {seen segments : List (List Char)} (hseen : seen.Nodup)
    (hnested : ∀ segment ∈ segments, WellNested segment)
    {entries : List (List Char × List Char)} :
    readEntries seen segments = .ok entries ↔
      List.Forall₂ IsEntry segments entries ∧ (seen ++ entries.map (·.1)).Nodup := by
  induction segments generalizing seen entries with
  | nil =>
    constructor
    · intro h
      obtain rfl : [] = entries := Except.ok.inj h
      exact ⟨.nil, by simpa using hseen⟩
    · rintro ⟨hentries, -⟩
      cases hentries
      rfl
  | cons segment rest ih =>
    obtain ⟨hsegment, hrest⟩ := List.forall_mem_cons.mp hnested
    by_cases hentry : ∃ entry, IsEntry segment entry
    · obtain ⟨⟨key, value⟩, hentry⟩ := hentry
      rw [readEntries_cons_of_isEntry hentry, forall₂_isEntry_cons_iff hentry]
      by_cases hold : key ∈ seen
      · rw [if_pos hold]
        refine ⟨fun h => (nomatch h), ?_⟩
        rintro ⟨⟨tail, -, rfl⟩, hnodup⟩
        exact absurd hold (nodup_keys_cons_iff.mp hnodup).1
      · rw [if_neg hold, Outcome.map_eq_ok_iff]
        constructor
        · rintro ⟨tail, htail, rfl⟩
          obtain ⟨hall, hnodup⟩ := (ih (nodup_concat hold hseen) hrest).mp htail
          exact ⟨⟨tail, hall, rfl⟩, nodup_keys_cons_iff.mpr ⟨hold, hnodup⟩⟩
        · rintro ⟨⟨tail, hall, rfl⟩, hnodup⟩
          obtain ⟨-, hnodup⟩ := nodup_keys_cons_iff.mp hnodup
          exact ⟨tail, (ih (nodup_concat hold hseen) hrest).mpr ⟨hall, hnodup⟩, rfl⟩
    · have hnone : ∀ entry, ¬IsEntry segment entry := fun entry h => hentry ⟨entry, h⟩
      obtain ⟨malformation, hrefused⟩ := readEntries_cons_of_not_isEntry hsegment hnone
      rw [hrefused]
      exact ⟨fun h => (nomatch h), fun h => absurd h.1 (not_forall₂_isEntry_cons hnone)⟩

-- Some segment has the key of an entry before it, or one that was seen, and up to that segment
-- everything is in order.
def Repeats (seen segments : List (List Char)) (key : List Char) : Prop :=
  ∃ front segment rest entries value, segments = front ++ segment :: rest ∧
    List.Forall₂ IsEntry front entries ∧ (seen ++ entries.map (·.1)).Nodup ∧
    IsEntry segment (key, value) ∧ key ∈ seen ++ entries.map (·.1)

theorem repeats_cons_of_isEntry {seen rest : List (List Char)} {segment key value : List Char}
    (hseen : seen.Nodup) (hentry : IsEntry segment (key, value)) {repeated : List Char} :
    Repeats seen (segment :: rest) repeated ↔
      if key ∈ seen then repeated = key else Repeats (seen ++ [key]) rest repeated := by
  constructor
  · rintro ⟨front, found, back, entries, last, hsegments, hall, hnodup, hfound, hmem⟩
    cases front with
    | nil =>
      obtain ⟨rfl, -⟩ := List.cons.inj hsegments
      obtain ⟨rfl, rfl⟩ := Prod.mk.inj (hentry.unique hfound)
      cases hall
      rw [if_pos (by simpa using hmem)]
    | cons first front =>
      obtain ⟨rfl, hrest⟩ := List.cons.inj hsegments
      obtain ⟨tail, htail, rfl⟩ := (forall₂_isEntry_cons_iff hentry).mp hall
      obtain ⟨hnew, hnodup⟩ := nodup_keys_cons_iff.mp hnodup
      rw [if_neg hnew]
      exact ⟨front, found, back, tail, last, hrest, htail, hnodup, hfound, by simpa using hmem⟩
  · intro h
    split at h
    · rename_i hold
      subst h
      exact ⟨[], segment, rest, [], value, rfl, .nil, by simpa using hseen, hentry,
        by simpa using hold⟩
    · rename_i hnew
      obtain ⟨front, found, back, entries, last, rfl, hall, hnodup, hfound, hmem⟩ := h
      exact ⟨segment :: front, found, back, (key, value) :: entries, last, rfl,
        .cons hentry hall, nodup_keys_cons_iff.mpr ⟨hnew, hnodup⟩, hfound, by simpa using hmem⟩

theorem readEntries_eq_duplicateKey_iff {seen segments : List (List Char)} (hseen : seen.Nodup)
    (hnested : ∀ segment ∈ segments, WellNested segment) {key : String} :
    readEntries seen segments = .error (.duplicateKey key) ↔
      ∃ repeated, Repeats seen segments repeated ∧ key = String.ofList repeated := by
  induction segments generalizing seen with
  | nil =>
    refine ⟨fun h => (nomatch h), ?_⟩
    rintro ⟨_, ⟨front, _, _, _, _, hsegments, -⟩, -⟩
    simp at hsegments
  | cons segment rest ih =>
    obtain ⟨hsegment, hrest⟩ := List.forall_mem_cons.mp hnested
    by_cases hentry : ∃ entry, IsEntry segment entry
    · obtain ⟨⟨found, value⟩, hentry⟩ := hentry
      simp only [repeats_cons_of_isEntry hseen hentry, readEntries_cons_of_isEntry hentry]
      split
      · simp [eq_comm]
      · rename_i hnew
        rw [Outcome.map_eq_error_iff, ih (nodup_concat hnew hseen) hrest]
    · have hnone : ∀ entry, ¬IsEntry segment entry := fun entry h => hentry ⟨entry, h⟩
      obtain ⟨malformation, hrefused⟩ := readEntries_cons_of_not_isEntry hsegment hnone
      rw [hrefused]
      refine ⟨fun h => (nomatch h), ?_⟩
      rintro ⟨_, ⟨front, found, back, entries, last, hsegments, hall, -, hfound, -⟩, -⟩
      cases front with
      | nil =>
        obtain ⟨rfl, -⟩ := List.cons.inj hsegments
        exact absurd hfound (hnone _)
      | cons first front =>
        obtain ⟨rfl, -⟩ := List.cons.inj hsegments
        exact absurd hall (not_forall₂_isEntry_cons hnone)

-- The entries as the argument holds them.
def keyedOf (entries : List (List Char × List Char)) : List (String × String) :=
  entries.map fun (key, value) => (String.ofList key, String.ofList value)

theorem nodup_keys_keyedOf {entries : List (List Char × List Char)} :
    ((keyedOf entries).map (·.1)).Nodup ↔ (entries.map (·.1)).Nodup := by
  have hkeys : (keyedOf entries).map (·.1) = (entries.map (·.1)).map String.ofList := by
    simp [keyedOf, List.map_map, Function.comp_def]
  rw [hkeys, List.nodup_map_iff fun _ _ h => String.ofList_injective h]

theorem readKeyed_eq_ok_iff {text : List Char} {argument : Argument} :
    readKeyed text = .ok argument ↔
      ∃ entries, argument = .keyed (keyedOf entries) ∧ WellNested text ∧
        List.Forall₂ IsEntry (topSegments ';' text) entries ∧ (entries.map (·.1)).Nodup := by
  constructor
  · intro h
    obtain ⟨parts, hparts, hrest⟩ := Outcome.bind_eq_ok_iff.mp h
    obtain ⟨entries, hentries, hargument⟩ := Outcome.bind_eq_ok_iff.mp hrest
    obtain ⟨hnested, rfl⟩ := segments_eq_ok_iff.mp hparts
    have hsegments := wellNested_of_mem_topSegments hnested
    obtain ⟨hall, hnodup⟩ := (readEntries_eq_ok_iff List.nodup_nil hsegments).mp hentries
    exact ⟨entries, (Except.ok.inj hargument).symm, hnested, hall, hnodup⟩
  · rintro ⟨entries, rfl, hnested, hall, hnodup⟩
    have hsegments := wellNested_of_mem_topSegments hnested
    refine Outcome.bind_eq_ok_iff.mpr ⟨_, segments_eq_ok_iff.mpr ⟨hnested, rfl⟩, ?_⟩
    exact Outcome.bind_eq_ok_iff.mpr
      ⟨entries, (readEntries_eq_ok_iff List.nodup_nil hsegments).mpr ⟨hall, hnodup⟩, rfl⟩

theorem readKeyed_eq_duplicateKey_iff {text : List Char} {key : String} :
    readKeyed text = .error (.duplicateKey key) ↔
      ∃ repeated, key = String.ofList repeated ∧ WellNested text ∧
        Repeats [] (topSegments ';' text) repeated := by
  constructor
  · intro h
    obtain hsegments | ⟨parts, hparts, hrest⟩ := Outcome.bind_eq_error_iff.mp h
    · unfold segments at hsegments
      split at hsegments <;> cases hsegments
    · obtain hentries | ⟨entries, -, hargument⟩ := Outcome.bind_eq_error_iff.mp hrest
      · obtain ⟨hnested, rfl⟩ := segments_eq_ok_iff.mp hparts
        obtain ⟨repeated, hrepeats, hkey⟩ := (readEntries_eq_duplicateKey_iff List.nodup_nil
          (wellNested_of_mem_topSegments hnested)).mp hentries
        exact ⟨repeated, hkey, hnested, hrepeats⟩
      · cases hargument
  · rintro ⟨repeated, rfl, hnested, hrepeats⟩
    refine Outcome.bind_eq_error_iff.mpr (.inr ⟨_, segments_eq_ok_iff.mpr ⟨hnested, rfl⟩, ?_⟩)
    exact Outcome.bind_eq_error_iff.mpr (.inl ((readEntries_eq_duplicateKey_iff List.nodup_nil
      (wellNested_of_mem_topSegments hnested)).mpr ⟨repeated, hrepeats, rfl⟩))

-- Where no two entries share a key, the value of a key is that of its only entry.
theorem entry?_eq_some_iff {entries : List (String × String)}
    (hkeys : (entries.map (·.1)).Nodup) {key value : String} :
    entry? entries key = some value ↔ (key, value) ∈ entries := by
  induction entries with
  | nil => simp [ entry?]
  | cons entry rest ih =>
    obtain ⟨found, first⟩ := entry
    obtain ⟨hnew, hrest⟩ := List.nodup_cons.mp hkeys
    unfold entry? at ih ⊢
    by_cases hkey : key = found
    · subst hkey
      have hnone : (key, value) ∉ rest := fun hmem =>
        hnew (List.mem_map.mpr ⟨(key, value), hmem, rfl⟩)
      simp [hnone, eq_comm]
    · have hother : (key == found) = false := by simpa using hkey
      simp only [List.lookup_cons, hother, ih hrest]
      simp [hkey]

end Argument

namespace Clause

open Nesting (WellNested topSegments)

-- A keyed list is read if its text is well nested, every segment is an entry and no two entries
-- share a key. It is refused for a key if up to the entry that repeats it all is in order.
theorem readFor_keyed (keyword : Keyword) (hshape : keyword.shape = .keyedList) (text : String)
    (htrimmed : Text.trimmed text = text) (hne : text ≠ "")
    (hseparator : Argument.clauseSeparator ∉ text.toList) :
    (∀ clause, readFor keyword text = .ok clause ↔
      ∃ entries, clause = ⟨keyword, text, .keyed (Argument.keyedOf entries)⟩ ∧
        WellNested text.toList ∧
        List.Forall₂ Argument.IsEntry (topSegments ';' text.toList) entries ∧
        (entries.map (·.1)).Nodup) ∧
    (∀ entries, readFor keyword text = .ok ⟨keyword, text, .keyed entries⟩ →
      (entries.map (·.1)).Nodup ∧
      ∀ key value, Argument.entry? entries key = some value ↔ (key, value) ∈ entries) ∧
    ∀ refusal, readFor keyword text = refuse refusal ∧ refusal.kind = .duplicateKey ↔
      ∃ key, refusal = .duplicateKey keyword.id (String.ofList key) ∧ WellNested text.toList ∧
        Argument.Repeats [] (topSegments ';' text.toList) key := by
  have hread : Argument.read keyword.shape keyword.rules text.toList =
      Argument.readKeyed text.toList := by
    rw [Argument.read_of_trimmed (by rw [← Text.toList_trimmed, htrimmed]) (by simpa using hne)
      hseparator, hshape]
    rfl
  have haccepted : ∀ clause, readFor keyword text = .ok clause ↔
      ∃ entries, clause = ⟨keyword, text, .keyed (Argument.keyedOf entries)⟩ ∧
        WellNested text.toList ∧
        List.Forall₂ Argument.IsEntry (topSegments ';' text.toList) entries ∧
        (entries.map (·.1)).Nodup := by
    rintro ⟨found, raw, argument⟩
    rw [readFor_eq_ok_iff, hread, Argument.readKeyed_eq_ok_iff]
    constructor
    · rintro ⟨rfl, rfl, entries, rfl, hentries⟩
      exact ⟨entries, rfl, hentries⟩
    · rintro ⟨entries, hclause, hentries⟩
      obtain ⟨rfl, rfl, rfl⟩ := Clause.mk.inj hclause
      exact ⟨rfl, rfl, entries, rfl, hentries⟩
  refine ⟨haccepted, ?_, ?_⟩
  · intro entries hok
    obtain ⟨chars, hclause, -, -, hnodup⟩ := (haccepted _).mp hok
    obtain ⟨-, -, hargument⟩ := Clause.mk.inj hclause
    obtain rfl := Argument.keyed.inj hargument
    have hkeys := Argument.nodup_keys_keyedOf.mpr hnodup
    exact ⟨hkeys, fun key value => Argument.entry?_eq_some_iff hkeys⟩
  · intro refusal
    rw [refuse, readFor_eq_error_iff, hread]
    constructor
    · rintro ⟨⟨defect, hdefect, hrefusal⟩, hkind⟩
      obtain ⟨key, rfl, rfl⟩ := eq_duplicateKey_of_failure hrefusal.symm hkind
      obtain ⟨repeated, rfl, hrepeats⟩ := Argument.readKeyed_eq_duplicateKey_iff.mp hdefect
      exact ⟨repeated, rfl, hrepeats⟩
    · rintro ⟨key, rfl, hrepeats⟩
      exact ⟨⟨.duplicateKey (String.ofList key),
        Argument.readKeyed_eq_duplicateKey_iff.mpr ⟨key, rfl, hrepeats⟩, rfl⟩, rfl⟩

-- A semicolon and a bracket inside a value, a blank before a parenthesis, and a key that comes
-- again in other letters.
theorem readFor_keyed_animate :
    ∃ keyword ∈ Lexicon.standardKeywords, keyword.id = "animate" ∧ keyword.shape = .keyedList ∧
      readFor keyword "Start(3; [x]); end (f(in))" = .ok ⟨keyword, "Start(3; [x]); end (f(in))",
        .keyed [("start", "3; [x]"), ("end", "f(in)")]⟩ ∧
      Argument.entry? [("start", "3; [x]"), ("end", "f(in)")] "end" = some "f(in)" ∧
      readFor keyword "start(1);Start(2);x" = refuse (.duplicateKey "animate" "start") := by
  have hstart : Call.IsName "start".toList :=
    ⟨'s', "tart".toList, rfl, by decide, List.all_eq_true.mp (by decide)⟩
  have hStart : Call.IsName "Start".toList :=
    ⟨'S', "tart".toList, rfl, by decide, List.all_eq_true.mp (by decide)⟩
  have hend : Call.IsName "end".toList :=
    ⟨'e', "nd".toList, rfl, by decide, List.all_eq_true.mp (by decide)⟩
  have hsegments : topSegments ';' "Start(3; [x]); end (f(in))".toList =
      ["Start(3; [x])".toList, "end (f(in))".toList] := by decide
  have hrepeated : topSegments ';' "start(1);Start(2);x".toList =
      ["start(1)".toList, "Start(2)".toList, "x".toList] := by decide
  have hread := readFor_keyed Lexicon.standardKeywords[18] rfl "Start(3; [x]); end (f(in))"
    (by decide) (by decide) (by decide)
  have hok := (hread.1 _).mpr
    ⟨[("start".toList, "3; [x]".toList), ("end".toList, "f(in)".toList)], rfl, by decide, by
      rw [hsegments]
      refine .cons ⟨"Start".toList, [], "3; [x]".toList, ?_⟩
        (.cons ⟨"end".toList, [' '], "f(in)".toList, ?_⟩ .nil)
      · exact ⟨by decide, hStart, by decide, by decide, by decide, by decide⟩
      · exact ⟨by decide, hend, by decide, by decide, by decide, by decide⟩, by decide⟩
  have hduplicate := readFor_keyed Lexicon.standardKeywords[18] rfl "start(1);Start(2);x"
    (by decide) (by decide) (by decide)
  refine ⟨_, List.getElem_mem _, rfl, rfl, hok, ((hread.2.1 _ hok).2 _ _).mpr (by decide), ?_⟩
  refine ((hduplicate.2.2 _).mpr ⟨"start".toList, rfl, by decide, ?_⟩).1
  rw [hrepeated]
  refine ⟨["start(1)".toList], "Start(2)".toList, ["x".toList], [("start".toList, "1".toList)],
    "2".toList, rfl, .cons ⟨"start".toList, [], "1".toList, ?_⟩ .nil, by decide,
    ⟨"Start".toList, [], "2".toList, ?_⟩, by decide⟩
  · exact ⟨by decide, hstart, by decide, by decide, by decide, by decide⟩
  · exact ⟨by decide, hStart, by decide, by decide, by decide, by decide⟩

end Clause

end ClausePrompt
