import ClausePrompt.Lexicon.Standard
import ClausePrompt.Proofs.Argument.Overlong
import ClausePrompt.Proofs.Argument.TopLevel
import ClausePrompt.Proofs.Clause.Accepted
import Mathlib.Data.Nat.Digits.Defs

namespace ClausePrompt

namespace Numeral

-- The digits of a numeral by their places, the last one first.
def decimal (text : List Char) : Nat :=
  Nat.ofDigits 10 (text.reverse.map fun c => (Text.digitValue? c).getD 0)

@[simp] theorem value_eq_decimal (text : List Char) : value text = decimal text := by
  rw [decimal, Nat.ofDigits_eq_foldr, List.foldr_map, List.foldr_reverse, value]
  simp only [Nat.cast_id, Nat.add_comm]

theorem isDelimiter_of_mem {text : List Char} (h : isNumeral text = true) :
    ∀ c ∈ text, isDelimiter c = false := by
  intro c hc
  exact isDelimiter_of_kind (p := Text.isDigit) (by decide) ((isNumeral_iff.mp h).2 c hc)

theorem whole {text : List Char} (h : isNumeral text = true) : Nesting.Whole ';' text :=
  Nesting.whole_of_plain (isDelimiter_of_mem h) (not_mem_of_isDigit h (by decide))

theorem check_of_isNumeral {parts : List (List Char)}
    (h : ∀ part ∈ parts, isNumeral part = true) : check parts = .ok () := by
  induction parts with
  | nil => rfl
  | cons part parts ih =>
    obtain ⟨hpart, hparts⟩ := List.forall_mem_cons.mp h
    rw [check, if_pos hpart, ih hparts]

-- The first numeral that is too long stops the reading.
theorem mapM_read (numerals : List (List Char)) :
    numerals.mapM read = match numerals.find? (4300 < ·.length) with
      | some numeral => .error (.tooManyDigits numeral.length)
      | none => .ok (numerals.map decimal) := by
  induction numerals with
  | nil => rfl
  | cons numeral rest ih =>
    rw [List.mapM_cons, List.find?_cons]
    by_cases hlong : 4300 < numeral.length
    · have hread : read numeral = .error (.tooManyDigits numeral.length) := if_pos hlong
      simp [hread, hlong, bind, Except.bind]
    · have hread : read numeral = .ok (decimal numeral) := by
        rw [← value_eq_decimal]
        exact if_neg hlong
      rw [hread, ih]
      cases rest.find? (4300 < ·.length) <;> simp [hlong, bind, Except.bind, pure, Except.pure]

end Numeral

namespace Span

-- The word `to` with blanks on both sides.
def IsSeparator (gap : List Char) : Prop :=
  ∃ before after, gap = before ++ 't' :: 'o' :: after ∧ before ≠ [] ∧
    Text.allBlank before = true ∧ after ≠ [] ∧ Text.allBlank after = true

theorem IsSeparator.whole {gap : List Char} (h : IsSeparator gap) : Nesting.Whole ';' gap := by
  obtain ⟨before, after, rfl, -, hbefore, -, hafter⟩ := h
  have hword : Nesting.Whole ';' "to".toList := ⟨by decide, by decide⟩
  have hback := hword.append (Nesting.whole_of_allBlank (by decide) hafter)
  exact (Nesting.whole_of_allBlank (by decide) hbefore).append hback

theorem IsSeparator.extend {before gap after : List Char} (h : IsSeparator gap)
    (hbefore : Text.allBlank before = true) (hafter : Text.allBlank after = true) :
    IsSeparator (before ++ gap ++ after) := by
  obtain ⟨inner, inner', rfl, hinner, hinnerBlank, hinner', hinnerBlank'⟩ := h
  refine ⟨before ++ inner, inner' ++ after, by simp, by simp [hinner], ?_, by simp [hinner'], ?_⟩
  · rw [Text.allBlank, List.all_append]
    exact Bool.and_eq_true_iff.mpr ⟨hbefore, hinnerBlank⟩
  · rw [Text.allBlank, List.all_append]
    exact Bool.and_eq_true_iff.mpr ⟨hinnerBlank', hafter⟩

private theorem allBlank_cons_takeWhile {c : Char} (hc : Text.isBlank c = true) (cs : List Char) :
    Text.allBlank (c :: cs.takeWhile Text.isBlank) = true :=
  Text.allBlank_iff.mpr (List.forall_mem_cons.mpr ⟨hc, fun _ => List.mem_takeWhile_imp⟩)

-- All the blanks after the word belong to the separator.
theorem afterTo?_eq_some_iff {text rest : List Char} :
    afterTo? text = some rest ↔
      ∃ gap, text = gap ++ rest ∧ IsSeparator gap ∧ ∀ c ∈ rest.head?, Text.isBlank c = false := by
  constructor
  · intro h
    unfold afterTo? at h
    split at h
    · cases h
    · rename_i c cs
      split_ifs at h with hc
      split at h
      · rename_i d tail hword
        split_ifs at h with hd
        obtain rfl := Option.some.inj h
        have hcs : cs = cs.takeWhile Text.isBlank ++ 't' :: 'o' :: d :: tail := by
          rw [← hword, List.takeWhile_append_dropWhile]
        refine ⟨(c :: cs.takeWhile Text.isBlank) ++ 't' :: 'o' :: d :: tail.takeWhile Text.isBlank,
          ?_, ⟨_, _, rfl, List.cons_ne_nil _ _, ?_, List.cons_ne_nil _ _, ?_⟩, ?_⟩
        · conv_lhs => rw [hcs, ← List.takeWhile_append_dropWhile (p := Text.isBlank) (l := tail)]
          simp
        · exact allBlank_cons_takeWhile hc cs
        · exact allBlank_cons_takeWhile hd tail
        · intro e he
          have hend := List.head?_dropWhile_not Text.isBlank tail
          simpa [Option.mem_def.mp he] using hend
      · cases h
  · rintro ⟨_, rfl, ⟨before, after, rfl, hbefore, hbeforeBlank, hafter, hafterBlank⟩, hrest⟩
    obtain ⟨b, before, rfl⟩ := List.exists_cons_of_ne_nil hbefore
    obtain ⟨a, after, rfl⟩ := List.exists_cons_of_ne_nil hafter
    obtain ⟨hb, hbefore⟩ := List.forall_mem_cons.mp (Text.allBlank_iff.mp hbeforeBlank)
    obtain ⟨ha, hafter⟩ := List.forall_mem_cons.mp (Text.allBlank_iff.mp hafterBlank)
    have hword : (before ++ 't' :: 'o' :: a :: after ++ rest).dropWhile Text.isBlank =
        't' :: 'o' :: a :: (after ++ rest) := by
      rw [List.append_assoc]
      refine Text.dropWhile_append_of_head hbefore fun c hc => ?_
      obtain rfl := Option.some.inj hc
      decide
    have hend : (after ++ rest).dropWhile Text.isBlank = rest :=
      Text.dropWhile_append_of_head hafter hrest
    simp only [List.cons_append, List.append_assoc] at hword ⊢
    simp only [afterTo?, if_pos hb, hword, if_pos ha, hend]

-- A text that starts with a separator is cut at once.
theorem piecesFrom_of_afterTo? {text rest : List Char} (h : afterTo? text = some rest) :
    piecesFrom 0 text = [] :: piecesFrom 0 rest := by
  cases text with
  | nil => cases h
  | cons c cs =>
    obtain ⟨_, htext, ⟨before, after, rfl, hbefore, -⟩, -⟩ := afterTo?_eq_some_iff.mp h
    obtain ⟨b, before, rfl⟩ := List.exists_cons_of_ne_nil hbefore
    have hcs : cs = before ++ 't' :: 'o' :: after ++ rest := (List.cons.inj htext).2
    have hskip : cs.length - rest.length = (before ++ 't' :: 'o' :: after).length := by
      rw [hcs, List.length_append, Nat.add_sub_cancel]
    rw [piecesFrom, h]
    dsimp only
    rw [piecesFrom_skip, hskip, hcs, List.drop_left]

-- A word with no blank in it is a piece of its own, and the rest of the text is cut as if it stood
-- alone.
theorem piecesFrom_append_separator {front gap rest : List Char}
    (hfront : ∀ c ∈ front, Text.isBlank c = false) (hgap : IsSeparator gap)
    (hrest : ∀ c ∈ rest.head?, Text.isBlank c = false) :
    piecesFrom 0 (front ++ gap ++ rest) = front :: piecesFrom 0 rest := by
  induction front with
  | nil =>
    have hafter : afterTo? (gap ++ rest) = some rest :=
      afterTo?_eq_some_iff.mpr ⟨gap, rfl, hgap, hrest⟩
    exact piecesFrom_of_afterTo? hafter
  | cons c front ih =>
    obtain ⟨hc, hfront⟩ := List.forall_mem_cons.mp hfront
    have hafter : afterTo? (c :: (front ++ gap ++ rest)) = none := by simp [afterTo?, hc]
    rw [List.cons_append, List.cons_append, piecesFrom, hafter, ih hfront]
    rfl

theorem piecesFrom_ne_nil (text : List Char) : piecesFrom 0 text ≠ [] := by
  obtain ⟨first, rest, hcut, -⟩ := isCut_piecesFrom 0 text
  simp [hcut]

-- The first piece is the whole text, or it ends at a separator.
theorem exists_separator_of_piecesFrom {text first : List Char} {rest : List (List Char)}
    (h : piecesFrom 0 text = first :: rest) :
    first = text ∧ rest = [] ∨
      ∃ gap tail, IsSeparator gap ∧ text = first ++ gap ++ tail ∧ piecesFrom 0 tail = rest := by
  induction text generalizing first with
  | nil =>
    obtain ⟨rfl, rfl⟩ := List.cons.inj h
    exact .inl ⟨rfl, rfl⟩
  | cons c cs ih =>
    cases hafter : afterTo? (c :: cs) with
    | some tail =>
      obtain ⟨gap, htext, hgap, -⟩ := afterTo?_eq_some_iff.mp hafter
      rw [piecesFrom_of_afterTo? hafter] at h
      obtain ⟨rfl, htail⟩ := List.cons.inj h
      exact .inr ⟨gap, tail, hgap, htext, htail⟩
    | none =>
      rw [piecesFrom, hafter] at h
      obtain ⟨piece, pieces, hpieces⟩ := List.exists_cons_of_ne_nil (piecesFrom_ne_nil cs)
      dsimp only at h
      rw [hpieces] at h
      obtain ⟨rfl, rfl⟩ := List.cons.inj h
      obtain ⟨rfl, rfl⟩ | ⟨gap, tail, hgap, rfl, htail⟩ := ih hpieces
      · exact .inl ⟨rfl, rfl⟩
      · exact .inr ⟨gap, tail, hgap, rfl, htail⟩

theorem exists_separator_of_two {text p q : List Char} (h : piecesFrom 0 text = [p, q]) :
    ∃ gap, IsSeparator gap ∧ text = p ++ gap ++ q := by
  obtain ⟨-, hnil⟩ | ⟨gap, tail, hgap, htext, htail⟩ := exists_separator_of_piecesFrom h
  · cases hnil
  · obtain ⟨rfl, -⟩ | ⟨_, _, -, -, hnil⟩ := exists_separator_of_piecesFrom htail
    · exact ⟨gap, hgap, htext⟩
    · exact absurd hnil (piecesFrom_ne_nil _)

end Span

namespace Argument

open Nesting (Whole topPieces topSegments)

-- A numeral, or two of them with a semicolon or the word `to` in between.
inductive IsRange : List Char → List (List Char) → Option IndexJoin → Prop
  | single {n : List Char} (hn : Numeral.isNumeral n = true) : IsRange n [n] none
  | list {n before after m : List Char} (hn : Numeral.isNumeral n = true)
      (hbefore : Text.allBlank before = true) (hafter : Text.allBlank after = true)
      (hm : Numeral.isNumeral m = true) :
      IsRange (n ++ before ++ ';' :: (after ++ m)) [n, m] (some .list)
  | span {n gap m : List Char} (hn : Numeral.isNumeral n = true) (hgap : Span.IsSeparator gap)
      (hm : Numeral.isNumeral m = true) : IsRange (n ++ gap ++ m) [n, m] (some .span)

variable {rules : Rules} {text : List Char} {numerals : List (List Char)} {join : Option IndexJoin}

theorem IsRange.isNumeral (h : IsRange text numerals join) :
    ∀ numeral ∈ numerals, Numeral.isNumeral numeral = true := by
  cases h with
  | single hn => exact List.forall_mem_singleton.mpr hn
  | list hn _ _ hm => exact List.forall_mem_cons.mpr ⟨hn, List.forall_mem_singleton.mpr hm⟩
  | span hn _ hm => exact List.forall_mem_cons.mpr ⟨hn, List.forall_mem_singleton.mpr hm⟩

-- A range comes apart into its numerals.
theorem IsRange.splitPair (hnumeric : rules.numeric ≠ .none) (h : IsRange text numerals join) :
    splitPair rules text = .ok (numerals, join) := by
  have hempty : [] ∉ numerals := fun hmem =>
    absurd (h.isNumeral [] hmem) (by decide)
  cases h with
  | single hn => exact splitPair_of_isNumeral rules hn
  | @list n before after m hn hbefore hafter hm =>
    have hfront : Whole ';' (n ++ before) :=
      (Numeral.whole hn).append (Nesting.whole_of_allBlank (by decide) hbefore)
    have hback : Whole ';' (after ++ m) :=
      (Nesting.whole_of_allBlank (by decide) hafter).append (Numeral.whole hm)
    have hsegments : topSegments ';' (n ++ before ++ ';' :: (after ++ m)) = [n, m] := by
      rw [Nesting.topSegments_append_separator (by decide) hfront, Nesting.topSegments_of_whole hback,
        Text.trim_append_right n hbefore, Text.trim_append_left m hafter,
        Numeral.trim_eq_self hn, Numeral.trim_eq_self hm]
    refine splitPair_eq_ok_iff.mpr ⟨⟨[n, m], segments_eq_ok_iff.mpr ⟨?_, hsegments.symm⟩, rfl⟩,
      Nat.le_refl 2, hempty⟩
    exact hfront.1.append (.plain (by decide) hback.1)
  | @span n gap m hn hgap hm =>
    have hwhole : Whole ';' (n ++ gap ++ m) :=
      ((Numeral.whole hn).append hgap.whole).append (Numeral.whole hm)
    have hwords : Span.split (n ++ gap ++ m) = [n, m] := by
      have hm' := Numeral.isBlank_of_mem hm
      rw [Span.split, Span.piecesFrom_append_separator (Numeral.isBlank_of_mem hn) hgap
        fun c hc => hm' c (List.mem_of_mem_head? hc), Span.piecesFrom_zero_of_no_blank hm']
      simp [Numeral.trim_eq_self hn, Numeral.trim_eq_self hm]
    refine splitPair_eq_ok_iff.mpr ⟨⟨_, segments_eq_ok_iff.mpr ⟨hwhole.1, rfl⟩, ?_⟩,
      Nat.le_refl 2, hempty⟩
    rw [Nesting.topSegments_of_whole hwhole, hwords]
    simp [hnumeric]

-- Two numerals with blanks at their ends make a range once the text is trimmed.
theorem isRange_trim_list {p q : List Char} (hp : Numeral.isNumeral (Text.trim p) = true)
    (hq : Numeral.isNumeral (Text.trim q) = true) :
    IsRange (Text.trim (p ++ [';'] ++ q)) [Text.trim p, Text.trim q] (some .list) := by
  obtain ⟨before, after, hbefore, hafter, htrim⟩ := Text.exists_trim_append [';']
    (Numeral.isNumeral_iff.mp hp).1 (Numeral.isNumeral_iff.mp hq).1
  have hrange : IsRange (Text.trim p ++ before ++ ';' :: (after ++ Text.trim q))
      [Text.trim p, Text.trim q] (some .list) := .list hp hbefore hafter hq
  rw [htrim]
  simpa using hrange

theorem isRange_trim_span {p gap q : List Char} (hp : Numeral.isNumeral (Text.trim p) = true)
    (hgap : Span.IsSeparator gap) (hq : Numeral.isNumeral (Text.trim q) = true) :
    IsRange (Text.trim (p ++ gap ++ q)) [Text.trim p, Text.trim q] (some .span) := by
  obtain ⟨before, after, hbefore, hafter, htrim⟩ := Text.exists_trim_append gap
    (Numeral.isNumeral_iff.mp hp).1 (Numeral.isNumeral_iff.mp hq).1
  rw [htrim, List.append_assoc _ before, List.append_assoc _ (before ++ gap)]
  exact .span hp (hgap.extend hbefore hafter) hq

-- Numerals that a text came apart into make a range of it. Each way to cut the text has its own form.
theorem isRange_of_splitPair (htrim : Text.trim text = text)
    (h : splitPair rules text = .ok (numerals, join))
    (hnumerals : ∀ numeral ∈ numerals, Numeral.isNumeral numeral = true) :
    IsRange text numerals join := by
  obtain ⟨⟨found, hfound, hcut⟩, hlength, -⟩ := splitPair_eq_ok_iff.mp h
  obtain ⟨hnested, rfl⟩ := segments_eq_ok_iff.mp hfound
  have hjoined : [';'].intercalate (topPieces ';' text) = text :=
    Nesting.intercalate_topPieces (by decide) hnested
  split_ifs at hcut with hmany hwords
  · obtain ⟨rfl, rfl⟩ := Prod.mk.inj hcut
    rw [topSegments, List.length_map] at hmany hlength
    obtain ⟨p, q, hpieces⟩ := List.length_eq_two.mp (Nat.le_antisymm hlength hmany)
    rw [topSegments, hpieces] at hnumerals ⊢
    have hrange := isRange_trim_list (hnumerals (Text.trim p) (by simp))
      (hnumerals (Text.trim q) (by simp))
    rw [hpieces, List.intercalate_cons_cons, List.intercalate_singleton] at hjoined
    rwa [hjoined, htrim] at hrange
  · obtain ⟨rfl, rfl⟩ := Prod.mk.inj hcut
    obtain ⟨-, hmany⟩ := hwords
    rw [Span.split, List.length_map] at hmany hlength
    obtain ⟨p, q, hpieces⟩ := List.length_eq_two.mp (Nat.le_antisymm hlength hmany)
    obtain ⟨gap, hgap, htext⟩ := Span.exists_separator_of_two hpieces
    rw [Span.split, hpieces] at hnumerals ⊢
    have hrange := isRange_trim_span (hnumerals (Text.trim p) (by simp)) hgap
      (hnumerals (Text.trim q) (by simp))
    rwa [← htext, htrim] at hrange
  · obtain ⟨rfl, rfl⟩ := Prod.mk.inj hcut
    have hne : topPieces ';' text ≠ [] := Nesting.topPieces_ne_nil text
    obtain ⟨p, more, hpieces⟩ := List.exists_cons_of_ne_nil hne
    obtain rfl : more = [] := by simpa [topSegments, hpieces] using hmany
    obtain rfl : p = text := by simpa [hpieces] using hjoined
    have hsegments : topSegments ';' p = [p] := by
      rw [topSegments, hpieces, List.map_singleton, htrim]
    rw [hsegments] at hnumerals ⊢
    exact .single (hnumerals p List.mem_cons_self)

theorem readRange_of_isRange (hnumeric : rules.numeric ≠ .none) (h : IsRange text numerals join) :
    readRange rules text = match numerals.find? (4300 < ·.length) with
      | some numeral => .error (.tooManyDigits numeral.length)
      | none => .ok (.range (numerals.map Numeral.decimal) join) := by
  have hcheck : Numeral.check numerals = .ok () := Numeral.check_of_isNumeral h.isNumeral
  simp only [readRange, h.splitPair hnumeric, hcheck, Numeral.mapM_read, bind, Except.bind]
  cases numerals.find? (4300 < ·.length) <;> rfl

-- Any other text is refused for its form.
theorem readRange_of_not_isRange (htrim : Text.trim text = text)
    (h : ∀ numerals join, ¬IsRange text numerals join) :
    ∃ malformation, readRange rules text = malformed malformation := by
  cases hsplit : Argument.splitPair rules text with
  | error defect =>
    obtain ⟨malformation, rfl⟩ := isMalformed_splitPair rules text defect hsplit
    exact ⟨malformation, by rw [readRange, hsplit]; rfl⟩
  | ok pair =>
    obtain ⟨parts, join⟩ := pair
    cases hcheck : Numeral.check parts with
    | error defect =>
      obtain ⟨malformation, rfl⟩ := Numeral.isMalformed_check parts defect hcheck
      exact ⟨malformation, by simp only [readRange, hsplit, hcheck, bind, Except.bind]; rfl⟩
    | ok =>
      have hrange := isRange_of_splitPair htrim hsplit (Numeral.isNumeral_of_check hcheck)
      exact absurd hrange (h parts join)

theorem splitPair_trimmed {parts : List (List Char)}
    (h : Argument.splitPair rules text = .ok (parts, join)) :
    parts ≠ [] ∧ ∀ part ∈ parts, Text.trim part = part := by
  have htrimmed : ∀ pieces : List (List Char), ∀ part ∈ pieces.map Text.trim,
      Text.trim part = part := by
    intro pieces part hmem
    obtain ⟨piece, -, rfl⟩ := List.mem_map.mp hmem
    exact Text.trim_trim piece
  obtain ⟨⟨found, hfound, hcut⟩, -⟩ := splitPair_eq_ok_iff.mp h
  obtain ⟨-, rfl⟩ := segments_eq_ok_iff.mp hfound
  have hsegments : topSegments ';' text ≠ [] := by
    simpa [topSegments] using Nesting.topPieces_ne_nil text
  split_ifs at hcut
  · obtain ⟨rfl, -⟩ := Prod.mk.inj hcut
    exact ⟨hsegments, htrimmed _⟩
  · obtain ⟨rfl, -⟩ := Prod.mk.inj hcut
    exact ⟨by simpa [Span.split] using Span.piecesFrom_ne_nil text, htrimmed _⟩
  · obtain ⟨rfl, -⟩ := Prod.mk.inj hcut
    exact ⟨hsegments, htrimmed _⟩

-- Where the last part is to be a number, it is one.
theorem exists_last_of_readPair (hnumeric : rules.numeric = .last) {argument : Argument}
    (h : readPair rules text = .ok argument) :
    ∃ front last,
      argument = .pair ((front ++ [last]).map String.ofList) (some (Numeral.decimal last)) ∧
      front.length ≤ 1 ∧ (∀ part ∈ front ++ [last], part ≠ [] ∧ Text.trim part = part) ∧
      Numeral.isNumeral last = true := by
  obtain ⟨⟨parts, join⟩, hsplit, hrest⟩ := Outcome.bind_eq_ok_iff.mp h
  obtain ⟨⟨⟩, hcheck, hrest⟩ := Outcome.bind_eq_ok_iff.mp hrest
  obtain ⟨index, hindex, hargument⟩ := Outcome.bind_eq_ok_iff.mp hrest
  obtain ⟨-, hlength, hempty⟩ := splitPair_eq_ok_iff.mp hsplit
  obtain ⟨hne, htrimmed⟩ := splitPair_trimmed hsplit
  obtain ⟨front, last, rfl⟩ := (List.eq_nil_or_concat' parts).resolve_left hne
  have hlast : Numeral.isNumeral last = true := by
    refine Numeral.isNumeral_of_check hcheck last ?_
    simp [hnumeric, numericParts]
  rw [hnumeric] at hindex
  obtain ⟨value, hread, rfl⟩ := Outcome.map_eq_ok_iff.mp hindex
  have hvalue : value = Numeral.decimal last := by
    rw [List.getLast?_concat, Option.getD_some, Numeral.read] at hread
    split_ifs at hread
    rw [← Numeral.value_eq_decimal]
    exact (Except.ok.inj hread).symm
  refine ⟨front, last, ?_, ?_, fun part hmem => ⟨?_, htrimmed part hmem⟩, hlast⟩
  · rw [← hvalue]
    exact (Except.ok.inj hargument).symm
  · simpa using hlength
  · rintro rfl
    exact hempty hmem

end Argument

namespace Clause

-- Where an index is asked for, a text is read as a range of numbers if it is one and none of its
-- numerals is too long to be converted. The first one that is breaks the reading off, and any text
-- that is no range is refused. Where only the last part of a pair is to be a number, it always is.
theorem readFor_numeric (keyword : Keyword) :
    (keyword.shape = .indexRange → keyword.rules.numeric ≠ .none →
      ∀ text, Text.trimmed text = text → text ≠ "" → Argument.clauseSeparator ∉ text.toList →
        (∀ numerals join, Argument.IsRange text.toList numerals join →
          (∀ numeral ∈ numerals, numeral.length ≤ 4300) →
          readFor keyword text =
            .ok ⟨keyword, text, .range (numerals.map Numeral.decimal) join⟩) ∧
        (∀ numerals join, Argument.IsRange text.toList numerals join →
          (∃ numeral ∈ numerals, 4300 < numeral.length) →
          ∃ numeral, numerals.find? (4300 < ·.length) = some numeral ∧
            readFor keyword text = breakOff (.tooManyDigits numeral.length)) ∧
        ((∀ numerals join, ¬Argument.IsRange text.toList numerals join) →
          ∃ refusal, readFor keyword text = refuse refusal ∧
            refusal.kind = .malformedArgument ∧ refusal.keyword = some keyword.id)) ∧
    (keyword.shape = .tokenPair → keyword.rules.numeric = .last →
      ∀ raw clause, readFor keyword raw = .ok clause →
        ∃ front last,
          clause = ⟨keyword, raw,
            .pair ((front ++ [last]).map String.ofList) (some (Numeral.decimal last))⟩ ∧
          front.length ≤ 1 ∧ (∀ part ∈ front ++ [last], part ≠ [] ∧ Text.trim part = part) ∧
          Numeral.isNumeral last = true) := by
  constructor
  · intro hshape hnumeric text htrimmed hne hseparator
    have htrim := Text.trim_toList htrimmed
    have hread : Argument.readShape keyword.shape keyword.rules text.toList =
        Argument.readRange keyword.rules text.toList := by rw [hshape]; rfl
    refine ⟨?_, ?_, ?_⟩
    · intro numerals join hrange hshort
      have hfind : numerals.find? (4300 < ·.length) = none := by simpa using hshort
      refine (readFor_eq_ok_of_trimmed_iff htrimmed hne hseparator).mpr ⟨_, rfl, ?_⟩
      rw [hread, Argument.readRange_of_isRange hnumeric hrange, hfind]
    · intro numerals join hrange hlong
      obtain ⟨numeral, hfind⟩ : ∃ numeral, numerals.find? (4300 < ·.length) = some numeral := by
        simpa [← Option.isSome_iff_exists] using hlong
      refine ⟨numeral, hfind, (readFor_eq_error_of_trimmed_iff htrimmed hne hseparator).mpr
        ⟨.tooManyDigits numeral.length, ?_, rfl⟩⟩
      rw [hread, Argument.readRange_of_isRange hnumeric hrange, hfind]
    · intro hnone
      obtain ⟨malformation, hrefused⟩ := Argument.readRange_of_not_isRange htrim hnone
      refine ⟨_, (readFor_eq_error_of_trimmed_iff htrimmed hne hseparator).mpr
        ⟨.malformed malformation, ?_, rfl⟩, rfl, rfl⟩
      rw [hread]
      exact hrefused
  · intro hshape hnumeric raw clause hclause
    obtain ⟨hkeyword, hraw, hargument⟩ := readFor_eq_ok_iff.mp hclause
    obtain ⟨-, -, hpair⟩ := Argument.read_eq_ok_iff.mp hargument
    rw [hshape] at hpair
    obtain ⟨front, last, hlast, hparts⟩ := Argument.exists_last_of_readPair hnumeric hpair
    obtain ⟨found, source, argument⟩ := clause
    obtain rfl : found = keyword := hkeyword
    obtain rfl : source = raw := hraw
    obtain rfl := hlast
    exact ⟨front, last, rfl, hparts⟩

-- Digits of another script and two blanks before the word, a word that comes twice, a number of one
-- digit too many, and a line of a page.
theorem readFor_numeric_context :
    ∃ context ∈ Lexicon.standardKeywords, ∃ line ∈ Lexicon.standardKeywords,
      context.shape = .indexRange ∧ context.rules.numeric = .all ∧
      line.shape = .tokenPair ∧ line.rules.numeric = .last ∧
      readFor context "07  to ٤٢" = .ok ⟨context, "07  to ٤٢", .range [7, 42] (some .span)⟩ ∧
      (∃ refusal, readFor context "3 to 4 to 5" = refuse refusal ∧
        refusal.kind = .malformedArgument ∧ refusal.keyword = some "context") ∧
      readFor context (String.ofList (List.replicate 4301 '1')) = breakOff (.tooManyDigits 4301) ∧
      readFor line "react; 150" = .ok ⟨line, "react; 150", .pair ["react", "150"] (some 150)⟩ ∧
      ∃ front last, .pair ["react", "150"] (some 150) =
          Argument.pair ((front ++ [last]).map String.ofList) (some (Numeral.decimal last)) ∧
        front.length ≤ 1 ∧ Numeral.isNumeral last = true := by
  refine ⟨Lexicon.standardKeywords[2], by decide, Lexicon.standardKeywords[3], by decide,
    rfl, rfl, rfl, rfl, ?_, ?_, ?_, rfl, ?_⟩
  · have hread := (readFor_numeric Lexicon.standardKeywords[2]).1 rfl (by decide) "07  to ٤٢"
      (by decide) (by decide) (by decide)
    have hfirst : Numeral.isNumeral "07".toList = true := by decide
    have hsecond : Numeral.isNumeral "٤٢".toList = true := by decide
    have hgap : Span.IsSeparator "  to ".toList := ⟨"  ".toList, " ".toList, by decide⟩
    exact hread.1 _ _ (.span hfirst hgap hsecond) (by decide)
  · have hread := (readFor_numeric Lexicon.standardKeywords[2]).1 rfl (by decide) "3 to 4 to 5"
      (by decide) (by decide) (by decide)
    refine hread.2.2 fun numerals join hrange => ?_
    have hsplit : Argument.splitPair { numeric := .all } "3 to 4 to 5".toList =
        malformed (.tooManyParts 3) := rfl
    cases hsplit.symm.trans (hrange.splitPair (by decide))
  · have hones : Numeral.isNumeral (List.replicate 4301 '1') = true := by
      refine Numeral.isNumeral_iff.mpr ⟨List.replicate_succ_ne_nil, fun c hc => ?_⟩
      rw [List.eq_of_mem_replicate hc]
      decide
    have hlong : (List.replicate 4301 '1').length = 4301 := List.length_replicate
    generalize List.replicate 4301 '1' = ones at hones hlong ⊢
    have htrimmed : Text.trimmed (String.ofList ones) = String.ofList ones := by
      rw [Text.trimmed, String.toList_ofList, Numeral.trim_eq_self hones]
    have hread := (readFor_numeric Lexicon.standardKeywords[2]).1 rfl (by decide)
      (String.ofList ones) htrimmed (by simpa using (Numeral.isNumeral_iff.mp hones).1)
      (by rw [String.toList_ofList]; exact Numeral.not_mem_of_isDigit hones (by decide))
    rw [String.toList_ofList] at hread
    obtain ⟨numeral, hfind, hbroken⟩ := hread.2.1 _ _ (.single hones)
      ⟨ones, List.mem_singleton_self ones, by rw [hlong]; decide⟩
    obtain rfl := List.mem_singleton.mp (List.mem_of_find?_eq_some hfind)
    rwa [hlong] at hbroken
  · have hclause : readFor Lexicon.standardKeywords[3] "react; 150" =
        .ok ⟨Lexicon.standardKeywords[3], "react; 150", .pair ["react", "150"] (some 150)⟩ := rfl
    obtain ⟨front, last, hpair, hfront, -, hlast⟩ :=
      (readFor_numeric Lexicon.standardKeywords[3]).2 rfl rfl _ _ hclause
    exact ⟨front, last, (Clause.mk.inj hpair).2.2, hfront, hlast⟩

end Clause

end ClausePrompt
