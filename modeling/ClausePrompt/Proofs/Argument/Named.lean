import ClausePrompt.Lexicon.Standard
import ClausePrompt.Proofs.Argument.TopLevel
import ClausePrompt.Proofs.Clause.Accepted

namespace ClausePrompt

namespace Argument

open Nesting (WellNested Whole cuts topPieces topSegments)

-- A name between two delimiters. Neither of them nor any other stands in it, and it is not blank.
def IsNamed (delimiter : Delimiter) (text name : List Char) : Prop :=
  ∃ inner, text = delimiter.opener :: inner ++ [delimiter.closer] ∧
    (∀ c ∈ inner, isDelimiter c = false) ∧ name = Text.trim inner ∧ name ≠ []

-- Nothing in a member ends it.
def IsMember (member : List Char) : Prop :=
  Text.trim member = member ∧ member ≠ [] ∧ Whole ';' member

-- A delimited name after any number of members, each of which has a semicolon behind it.
inductive IsListing (delimiter : Delimiter) (name : List Char) :
    List (List Char) → List Char → Prop
  | last {text : List Char} (h : IsNamed delimiter text name) : IsListing delimiter name [] text
  | member {member before after rest : List Char} {members : List (List Char)}
      (hmember : IsMember member) (hbefore : Text.allBlank before = true)
      (hafter : Text.allBlank after = true) (hrest : IsListing delimiter name members rest) :
      IsListing delimiter name (member :: members)
        (member ++ before ++ ';' :: (after ++ rest))

section Named

variable {delimiter : Delimiter} {text name : List Char}

theorem isNamed_iff :
    IsNamed delimiter text name ↔
      text.head? = some delimiter.opener ∧ text.getLast? = some delimiter.closer ∧
        (∀ c ∈ text.tail.dropLast, isDelimiter c = false) ∧ name = Text.trim text.tail.dropLast ∧
        name ≠ [] := by
  constructor
  · rintro ⟨inner, rfl, hinner⟩
    exact ⟨rfl, List.getLast?_concat, by simpa using hinner⟩
  · rintro ⟨hhead, hlast, hinner⟩
    obtain ⟨tail, rfl⟩ := List.head?_eq_some_iff.mp hhead
    obtain rfl | hne := eq_or_ne tail []
    · -- one character cannot be both delimiters
      have hsame : delimiter.opener = delimiter.closer := by simpa using hlast
      cases delimiter <;> exact absurd hsame (by decide)
    · rw [List.getLast?_cons_of_ne_nil hne] at hlast
      obtain ⟨inner, rfl⟩ := List.getLast?_eq_some_iff.mp hlast
      exact ⟨inner, rfl, by simpa using hinner⟩

theorem IsNamed.whole (h : IsNamed delimiter text name) : Whole ';' text := by
  obtain ⟨inner, rfl, hinner, -⟩ := h
  have hnested : WellNested inner := .of_plain hinner
  exact ⟨.wrap delimiter hnested .nil, Nesting.cuts_wrap (by decide) delimiter hnested⟩

-- A delimited name starts and ends with its delimiters, which are no blanks.
theorem IsNamed.trim_eq_self (h : IsNamed delimiter text name) : Text.trim text = text := by
  obtain ⟨inner, rfl, -⟩ := h
  apply Text.trim_eq_self
  · rintro c hc
    obtain rfl : delimiter.opener = c := by simpa using hc
    cases delimiter <;> decide
  · rintro c hc
    obtain rfl : delimiter.closer = c := Option.some.inj (List.getLast?_concat.symm.trans hc)
    cases delimiter <;> decide

theorem IsListing.ne_nil {members : List (List Char)}
    (h : IsListing delimiter name members text) : text ≠ [] := by
  cases h with
  | last h =>
    obtain ⟨inner, rfl, -⟩ := h
    simp
  | member => simp

theorem IsListing.nil_not_mem {members : List (List Char)}
    (h : IsListing delimiter name members text) : [] ∉ members := by
  induction h with
  | last => exact List.not_mem_nil
  | member hmember _ _ _ ih =>
    rw [List.mem_cons, not_or]
    exact ⟨hmember.2.1.symm, ih⟩

-- The segments of a listing are its members and then the name with its delimiters.
theorem IsListing.exists_topSegments {members : List (List Char)}
    (h : IsListing delimiter name members text) :
    WellNested text ∧ ∃ last, IsNamed delimiter last name ∧
      topSegments ';' text = members ++ [last] := by
  induction h with
  | @last text h =>
    refine ⟨h.whole.1, text, h, ?_⟩
    rw [Nesting.topSegments_of_whole h.whole, h.trim_eq_self]
    rfl
  | @member member before after rest members hmember hbefore hafter _ ih =>
    obtain ⟨hnested, last, hlast, hsegments⟩ := ih
    obtain ⟨htrim, -, hwhole⟩ := hmember
    have hblank : Whole ';' before := Nesting.whole_of_allBlank (by decide) hbefore
    have hgap : Whole ';' after := Nesting.whole_of_allBlank (by decide) hafter
    have hfront : Whole ';' (member ++ before) := hwhole.append hblank
    refine ⟨hfront.1.append (.plain (by decide) (hgap.1.append hnested)), last, hlast, ?_⟩
    rw [Nesting.topSegments_append_separator (by decide) hfront,
      Nesting.topSegments_append_left (by decide) hafter, hsegments,
      Text.trim_append_right member hbefore, htrim]
    rfl

-- Pieces whose trimmed texts are members, with a name as the last one, are a listing once they are
-- joined and trimmed. The induction is on the pieces.
theorem isListing_of_pieces {pieces : List (List Char)} {last : List Char}
    (hwhole : ∀ piece ∈ pieces, Whole ';' piece)
    (hmembers : ∀ piece ∈ pieces, Text.trim piece ≠ [])
    (hlast : IsNamed delimiter (Text.trim last) name) :
    IsListing delimiter name (pieces.map Text.trim)
      (Text.trim ([';'].intercalate (pieces ++ [last]))) := by
  induction pieces with
  | nil => simpa using IsListing.last hlast
  | cons piece pieces ih =>
    obtain ⟨hpieceWhole, hwhole⟩ := List.forall_mem_cons.mp hwhole
    obtain ⟨hpiece, hmembers⟩ := List.forall_mem_cons.mp hmembers
    have hrest := ih hwhole hmembers
    obtain ⟨before, after, hbefore, hafter, htrim⟩ :=
      Text.exists_trim_append [';'] hpiece hrest.ne_nil
    have hjoined : [';'].intercalate (piece :: pieces ++ [last]) =
        piece ++ [';'] ++ [';'].intercalate (pieces ++ [last]) := by
      cases pieces <;> simp
    have hmember : IsMember (Text.trim piece) := ⟨Text.trim_trim piece, hpiece, hpieceWhole.trim⟩
    have hlisting := IsListing.member hmember hbefore hafter hrest
    rw [hjoined, htrim]
    simpa using hlisting

end Named

-- What is read from the parts of a text.
def nameParts (delimiter : Delimiter) (parts : List (List Char)) :
    Reading (List Char × List (List Char)) :=
  let last := parts.getLast?.getD []
  let inner := last.tail.dropLast
  if parts.dropLast.any (·.isEmpty) then malformed .emptySegment
  else if last.head? ≠ some delimiter.opener then malformed (.missingOpener delimiter)
  else if last.getLast? ≠ some delimiter.closer then malformed (.missingCloser delimiter)
  else if inner.any isDelimiter then malformed .mismatchedDelimiters
  else if (Text.trim inner).isEmpty then malformed .emptyName
  else .ok (Text.trim inner, parts.dropLast)

theorem readNamed_eq (delimiter : Delimiter) (membersAllowed : Bool) (text : List Char) :
    readNamed delimiter membersAllowed text =
      (if membersAllowed then segments text else .ok [text]) >>= nameParts delimiter := by
  cases membersAllowed <;> rfl

-- The last part is the name in its delimiters, and the parts before it are not empty.
theorem nameParts_eq_ok_iff {delimiter : Delimiter} {parts members : List (List Char)}
    {name : List Char} :
    nameParts delimiter parts = .ok (name, members) ↔
      ∃ last, parts = members ++ [last] ∧ [] ∉ members ∧ IsNamed delimiter last name := by
  obtain rfl | ⟨front, last, rfl⟩ := List.eq_nil_or_concat' parts
  · simp [nameParts, malformed]
  · simp only [nameParts, List.dropLast_concat, List.getLast?_concat, Option.getD_some]
    constructor
    · intro h
      split_ifs at h with hempty hopener hcloser hinner hname
      · cases h
      · cases h
      · cases h
      · cases h
      · cases h
      · obtain ⟨rfl, rfl⟩ := Prod.mk.inj (Except.ok.inj h)
        refine ⟨last, rfl, by simpa using hempty, isNamed_iff.mpr ?_⟩
        exact ⟨not_not.mp hopener, not_not.mp hcloser, by simpa using hinner, rfl,
          by simpa using hname⟩
    · rintro ⟨last', hparts, hmembers, hnamed⟩
      obtain ⟨rfl, hlast⟩ := List.append_inj' hparts rfl
      obtain rfl := List.singleton_inj.mp hlast
      obtain ⟨hopener, hcloser, hinner, rfl, hname⟩ := isNamed_iff.mp hnamed
      rw [if_neg (by simpa using hmembers), if_neg (not_not.mpr hopener),
        if_neg (not_not.mpr hcloser), if_neg (by simpa using hinner), if_neg (by simpa using hname)]

theorem readNamed_eq_ok_iff {delimiter : Delimiter} {membersAllowed : Bool}
    {text name : List Char} {members : List (List Char)} :
    readNamed delimiter membersAllowed text = .ok (name, members) ↔
      ∃ last, (if membersAllowed then segments text else .ok [text]) = .ok (members ++ [last]) ∧
        [] ∉ members ∧ IsNamed delimiter last name := by
  rw [readNamed_eq, Outcome.bind_eq_ok_iff]
  constructor
  · rintro ⟨parts, hparts, hname⟩
    obtain ⟨last, rfl, hlast⟩ := nameParts_eq_ok_iff.mp hname
    exact ⟨last, hparts, hlast⟩
  · rintro ⟨last, hparts, hlast⟩
    exact ⟨_, hparts, nameParts_eq_ok_iff.mpr ⟨last, rfl, hlast⟩⟩

theorem readNamed_eq_ok_iff_isListing {delimiter : Delimiter} {membersAllowed : Bool}
    {text name : List Char} (htrim : Text.trim text = text) {members : List (List Char)} :
    readNamed delimiter membersAllowed text = .ok (name, members) ↔
      IsListing delimiter name members text ∧ (membersAllowed = true ∨ members = []) := by
  rw [readNamed_eq_ok_iff]
  cases membersAllowed with
  | false =>
    simp only [Bool.false_eq_true, if_false, false_or]
    constructor
    · rintro ⟨last, hparts, -, hlast⟩
      have hparts := Except.ok.inj hparts
      cases members with
      | nil =>
        obtain rfl : text = last := by simpa using hparts
        exact ⟨.last hlast, rfl⟩
      | cons member members => simp at hparts
    · rintro ⟨hlisting, rfl⟩
      cases hlisting with
      | last h => exact ⟨text, rfl, List.not_mem_nil, h⟩
  | true =>
    simp only [if_true, true_or, and_true, segments_eq_ok_iff]
    constructor
    · rintro ⟨last, ⟨hnested, hsegments⟩, hmembers, hlast⟩
      have hwhole : ∀ piece ∈ topPieces ';' text, Whole ';' piece :=
        Nesting.whole_topPieces (by decide) hnested
      have hjoined : [';'].intercalate (topPieces ';' text) = text :=
        Nesting.intercalate_topPieces (by decide) hnested
      obtain ⟨pieces, lastPieces, hpieces, rfl, hlastPiece⟩ :=
        List.map_eq_append_iff.mp hsegments.symm
      obtain ⟨piece, rfl, rfl⟩ := List.map_eq_singleton_iff.mp hlastPiece
      rw [hpieces] at hwhole hjoined
      have hlisting := isListing_of_pieces
        (fun piece hmem => hwhole piece (List.mem_append_left _ hmem))
        (fun piece hmem hnil => hmembers (hnil ▸ List.mem_map_of_mem hmem)) hlast
      rwa [hjoined, htrim] at hlisting
    · intro hlisting
      obtain ⟨hnested, last, hlast, hsegments⟩ := hlisting.exists_topSegments
      exact ⟨last, ⟨hnested, hsegments.symm⟩, hlisting.nil_not_mem, hlast⟩

-- A name that is read may stand alone, or behind members where the rules allow for them.
theorem readDelimited_eq_ok_iff {delimiter : Delimiter} {rules : Rules} {text : List Char}
    (htrim : Text.trim text = text) {argument : Argument} :
    readDelimited delimiter rules text = .ok argument ↔
      ∃ members name,
        argument = .named delimiter (String.ofList name) (members.map String.ofList) ∧
        IsListing delimiter name members text ∧ (rules.leadingMembers = true ∨ members = []) := by
  rw [readDelimited, Outcome.map_eq_ok_iff]
  constructor
  · rintro ⟨⟨name, members⟩, hread, rfl⟩
    exact ⟨members, name, rfl, (readNamed_eq_ok_iff_isListing htrim).mp hread⟩
  · rintro ⟨members, name, rfl, hlisting⟩
    exact ⟨(name, members), (readNamed_eq_ok_iff_isListing htrim).mpr hlisting, rfl⟩

theorem isHandleChar_iff {c : Char} :
    isHandleChar c = true ↔ c.isAlphanum = true ∨ c = '_' ∨ c = '-' := by
  simp [isHandleChar, or_assoc]

-- A reference is a handle, or a name in brackets where the rules allow for it.
theorem readReference_eq_ok_iff {rules : Rules} {text : List Char} (hne : text ≠ [])
    {argument : Argument} :
    readReference rules text = .ok argument ↔
      argument = .reference (String.ofList text) false ∧ (∀ c ∈ text, isHandleChar c = true) ∨
      rules.bracketedAlias = true ∧ ∃ name, argument = .reference (String.ofList name) true ∧
        IsNamed .square text name := by
  unfold readReference
  by_cases halias : rules.bracketedAlias ∧ text.head? = some Delimiter.square.opener
  · -- no handle starts with a bracket
    have hhandle : ¬∀ c ∈ text, isHandleChar c = true := by
      intro hall
      exact absurd (hall _ (List.mem_of_mem_head? halias.2)) (by decide)
    rw [if_pos halias, Outcome.map_eq_ok_iff]
    constructor
    · rintro ⟨⟨name, members⟩, hread, rfl⟩
      obtain ⟨last, hlast, -, hnamed⟩ := readNamed_eq_ok_iff.mp hread
      obtain ⟨-, hlast⟩ := List.append_inj' (Except.ok.inj hlast : [] ++ [text] = members ++ [last]) rfl
      obtain rfl := List.singleton_inj.mp hlast
      exact .inr ⟨halias.1, name, rfl, hnamed⟩
    · rintro (⟨-, hall⟩ | ⟨-, name, rfl, hnamed⟩)
      · exact absurd hall hhandle
      · exact ⟨(name, []), readNamed_eq_ok_iff.mpr ⟨text, rfl, List.not_mem_nil, hnamed⟩, rfl⟩
  · have hnamed : ¬(rules.bracketedAlias = true ∧ ∃ name,
        argument = .reference (String.ofList name) true ∧ IsNamed .square text name) := by
      rintro ⟨hallowed, name, -, hnamed⟩
      exact halias ⟨hallowed, (isNamed_iff.mp hnamed).1⟩
    rw [if_neg halias, or_iff_left hnamed]
    by_cases hall : ∀ c ∈ text, isHandleChar c = true
    · have hplain : (!text.isEmpty && text.all isHandleChar) = true := by simpa [hne] using hall
      rw [if_pos hplain, and_iff_left hall, Except.ok.injEq, eq_comm]
    · have hplain : ¬(!text.isEmpty && text.all isHandleChar) = true := by simpa [hne] using hall
      rw [if_neg hplain]
      simp [malformed, hall]

end Argument

namespace Shape

-- The delimiters around the name of a shape that has one.
def delimiter? : Shape → Option Delimiter
  | parenthesizedName => some .round
  | bracketedName => some .square
  | _ => none

end Shape

namespace Clause

-- A delimited name is read exactly if its text is a listing of its shape's delimiter, which has
-- members only where they may lead. A reference is read exactly if it is a handle, or a name in
-- square brackets where an alias may be one.
theorem readFor_named (keyword : Keyword) (text : String) (htrimmed : Text.trimmed text = text)
    (hne : text ≠ "") (hseparator : Argument.clauseSeparator ∉ text.toList) :
    (∀ delimiter, keyword.shape.delimiter? = some delimiter → ∀ clause,
      readFor keyword text = .ok clause ↔
        ∃ name members, clause = ⟨keyword, text,
            .named delimiter (String.ofList name) (members.map String.ofList)⟩ ∧
          Argument.IsListing delimiter name members text.toList ∧
          (keyword.rules.leadingMembers = true ∨ members = [])) ∧
    (keyword.shape = .idReference → ∀ clause,
      readFor keyword text = .ok clause ↔
        clause = ⟨keyword, text, .reference text false⟩ ∧
          (∀ c ∈ text.toList, c.isAlphanum = true ∨ c = '_' ∨ c = '-') ∨
        keyword.rules.bracketedAlias = true ∧ ∃ name,
          clause = ⟨keyword, text, .reference (String.ofList name) true⟩ ∧
          Argument.IsNamed .square text.toList name) := by
  have htrim := Text.trim_toList htrimmed
  constructor
  · intro delimiter hdelimiter clause
    have hread : Argument.readShape keyword.shape keyword.rules text.toList =
        Argument.readDelimited delimiter keyword.rules text.toList := by
      cases hshape : keyword.shape <;> rw [hshape] at hdelimiter <;> cases hdelimiter <;> rfl
    rw [readFor_eq_ok_of_trimmed_iff htrimmed hne hseparator, hread]
    constructor
    · rintro ⟨argument, rfl, hargument⟩
      obtain ⟨members, name, rfl, hlisting⟩ := (Argument.readDelimited_eq_ok_iff htrim).mp hargument
      exact ⟨name, members, rfl, hlisting⟩
    · rintro ⟨name, members, rfl, hlisting⟩
      exact ⟨_, rfl, (Argument.readDelimited_eq_ok_iff htrim).mpr ⟨members, name, rfl, hlisting⟩⟩
  · intro hshape clause
    have hread : Argument.readShape keyword.shape keyword.rules text.toList =
        Argument.readReference keyword.rules text.toList := by rw [hshape]; rfl
    have hchars : (∀ c ∈ text.toList, c.isAlphanum = true ∨ c = '_' ∨ c = '-') ↔
        ∀ c ∈ text.toList, Argument.isHandleChar c = true := by
      simp only [Argument.isHandleChar_iff]
    have hne' : text.toList ≠ [] := by simpa using hne
    rw [readFor_eq_ok_of_trimmed_iff htrimmed hne hseparator, hread, hchars]
    constructor
    · rintro ⟨argument, rfl, hargument⟩
      obtain ⟨rfl, hall⟩ | ⟨hallowed, name, rfl, hnamed⟩ :=
        (Argument.readReference_eq_ok_iff hne').mp hargument
      · exact .inl ⟨by rw [String.ofList_toList], hall⟩
      · exact .inr ⟨hallowed, name, rfl, hnamed⟩
    · rintro (⟨rfl, hall⟩ | ⟨hallowed, name, rfl, hnamed⟩)
      · exact ⟨_, rfl, (Argument.readReference_eq_ok_iff hne').mpr
          (.inl ⟨by rw [String.ofList_toList], hall⟩)⟩
      · exact ⟨_, rfl, (Argument.readReference_eq_ok_iff hne').mpr (.inr ⟨hallowed, name, rfl, hnamed⟩)⟩

-- A semicolon inside the delimiters of a member, a reference to a saved prompt by its name, and one
-- that is a handle.
theorem readFor_named_mold :
    ∃ mold ∈ Lexicon.standardKeywords, ∃ prompt ∈ Lexicon.standardKeywords,
      mold.shape = .bracketedName ∧ mold.rules.leadingMembers = true ∧
      prompt.shape = .idReference ∧ prompt.rules.bracketedAlias = true ∧
      readFor mold "home (a; b) ;page;[ main page ]" =
        .ok ⟨mold, "home (a; b) ;page;[ main page ]",
          .named .square "main page" ["home (a; b)", "page"]⟩ ∧
      readFor prompt "[ home; page]" =
        .ok ⟨prompt, "[ home; page]", .reference "home; page" true⟩ ∧
      readFor prompt "saved-1_b" = .ok ⟨prompt, "saved-1_b", .reference "saved-1_b" false⟩ := by
  have hmold := readFor_named Lexicon.standardKeywords[24] "home (a; b) ;page;[ main page ]"
    (by decide) (by decide) (by decide)
  have halias := readFor_named Lexicon.standardKeywords[5] "[ home; page]"
    (by decide) (by decide) (by decide)
  have hhandle := readFor_named Lexicon.standardKeywords[5] "saved-1_b"
    (by decide) (by decide) (by decide)
  have hlisting : Argument.IsListing .square "main page".toList ["home (a; b)".toList, "page".toList]
      "home (a; b) ;page;[ main page ]".toList := by
    have hlast : Argument.IsListing .square "main page".toList [] "[ main page ]".toList :=
      .last ⟨" main page ".toList, by decide, any_isDelimiter_eq_false_iff.mp (by decide),
        by decide, by decide⟩
    have hpage : Argument.IsMember "page".toList := ⟨by decide, by decide, by decide, by decide⟩
    have hhome : Argument.IsMember "home (a; b)".toList := ⟨by decide, by decide, by decide, by decide⟩
    have hnone : Text.allBlank [] = true := rfl
    have hblank : Text.allBlank [' '] = true := by decide
    exact .member hhome hblank hnone (.member hpage hnone hnone hlast)
  refine ⟨Lexicon.standardKeywords[24], by decide, Lexicon.standardKeywords[5], by decide,
    rfl, rfl, rfl, rfl, ?_, ?_, ?_⟩
  · exact (hmold.1 .square rfl _).mpr ⟨_, _, rfl, hlisting, .inl rfl⟩
  · exact (halias.2 rfl _).mpr (.inr ⟨rfl, "home; page".toList, rfl, " home; page".toList,
      by decide, any_isDelimiter_eq_false_iff.mp (by decide), by decide, by decide⟩)
  · refine (hhandle.2 rfl _).mpr (.inl ⟨rfl, fun c hc => Argument.isHandleChar_iff.mp ?_⟩)
    have hall : "saved-1_b".toList.all Argument.isHandleChar = true := by decide
    exact List.all_eq_true.mp hall c hc

end Clause

end ClausePrompt
