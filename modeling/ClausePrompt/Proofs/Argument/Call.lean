import ClausePrompt.Argument.Call
import ClausePrompt.Proofs.Argument.WellNested
import ClausePrompt.Proofs.Text.Word

namespace ClausePrompt.Call

open Nesting (WellNested)

-- A text that closes as many parentheses as it opens and `depth` more, and never more than that.
def Closes (depth : Nat) (text : List Char) : Prop :=
  (∀ front, front <+: text → front.count ')' ≤ front.count '(' + depth) ∧
    text.count ')' = text.count '(' + depth

-- The parentheses of a text, whatever is between them.
def Balanced (text : List Char) : Prop :=
  (∀ front, front <+: text → front.count ')' ≤ front.count '(') ∧ text.count ')' = text.count '('

theorem closes_nil_iff {depth : Nat} : Closes depth [] ↔ depth = 0 := by
  simp [Closes, eq_comm]

private theorem forall_prefix_cons {c : Char} {cs : List Char} {p : List Char → Prop} :
    (∀ front, front <+: c :: cs → p front) ↔ p [] ∧ ∀ front, front <+: cs → p (c :: front) := by
  constructor
  · intro h
    exact ⟨h [] List.nil_prefix, fun front hfront => h _ (List.cons_prefix_cons.mpr ⟨rfl, hfront⟩)⟩
  · rintro ⟨hnil, hcons⟩ front hfront
    obtain rfl | ⟨rest, rfl, hrest⟩ := List.prefix_cons_iff.mp hfront
    · exact hnil
    · exact hcons rest hrest

theorem closes_cons_opener {depth : Nat} {cs : List Char} :
    Closes depth ('(' :: cs) ↔ Closes (depth + 1) cs := by
  simp [Closes, forall_prefix_cons, Nat.add_assoc, Nat.add_comm 1]

theorem not_closes_zero_cons_closer {cs : List Char} : ¬Closes 0 (')' :: cs) := by
  intro h
  exact absurd (h.1 [')'] (List.cons_prefix_cons.mpr ⟨rfl, List.nil_prefix⟩)) (by decide)

theorem closes_succ_cons_closer {depth : Nat} {cs : List Char} :
    Closes (depth + 1) (')' :: cs) ↔ Closes depth cs := by
  simp [Closes, forall_prefix_cons, ← Nat.add_assoc]

theorem closes_cons_plain {depth : Nat} {c : Char} {cs : List Char} (hopener : c ≠ '(')
    (hcloser : c ≠ ')') : Closes depth (c :: cs) ↔ Closes depth cs := by
  simp [Closes, forall_prefix_cons, hopener, hcloser]

-- What is well nested closes its parentheses by itself. Brackets do not count.
theorem closes_append_iff {inner : List Char} (h : WellNested inner) {depth : Nat}
    {rest : List Char} : Closes depth (inner ++ rest) ↔ Closes depth rest := by
  induction h generalizing depth rest with
  | nil => rfl
  | @plain c cs hc _ ih =>
    have hopener : c ≠ '(' := by
      rintro rfl
      exact absurd hc (by decide)
    have hcloser : c ≠ ')' := by
      rintro rfl
      exact absurd hc (by decide)
    rw [List.cons_append, closes_cons_plain hopener hcloser, ih]
  | wrap d _ _ ihinner ihrest =>
    rw [List.append_assoc, List.cons_append]
    cases d with
    | round =>
      rw [Delimiter.opener, closes_cons_opener, ihinner, List.cons_append, Delimiter.closer,
        closes_succ_cons_closer, ihrest]
    | square =>
      rw [Delimiter.opener, closes_cons_plain (by decide) (by decide), ihinner, List.cons_append,
        Delimiter.closer, closes_cons_plain (by decide) (by decide), ihrest]

theorem balanced_of_wellNested {text : List Char} (h : WellNested text) : Balanced text := by
  have hclosed : Closes 0 (text ++ []) := (closes_append_iff h).mpr (closes_nil_iff.mpr rfl)
  rwa [List.append_nil] at hclosed

theorem value?_opener (depth : Nat) (cs : List Char) :
    value? depth ('(' :: cs) = (value? (depth + 1) cs).map ('(' :: ·) := by
  rw [value?.eq_def]
  rfl

theorem value?_closer_zero (cs : List Char) :
    value? 0 (')' :: cs) = if cs = [] then some [] else none := by
  rw [value?.eq_def]
  rfl

theorem value?_closer_succ (depth : Nat) (cs : List Char) :
    value? (depth + 1) (')' :: cs) = (value? depth cs).map (')' :: ·) := by
  rw [value?.eq_def]
  rfl

theorem value?_plain {c : Char} (hopener : c ≠ '(') (hcloser : c ≠ ')') (depth : Nat)
    (cs : List Char) : value? depth (c :: cs) = (value? depth cs).map (c :: ·) := by
  rw [value?.eq_def]
  dsimp only
  rw [if_neg hopener, if_neg hcloser]

-- Where a character only adds to the value, it is enough to know of the text after it. The last
-- parenthesis is never such a character.
private theorem value?_cons_iff {depth inner : Nat} {c : Char} {cs value : List Char}
    (hstep : value? depth (c :: cs) = (value? inner cs).map (c :: ·))
    (hcloses : ∀ tail, Closes depth (c :: tail) ↔ Closes inner tail)
    (hlast : c = ')' → depth ≠ 0)
    (ih : ∀ {tail}, value? inner cs = some tail ↔ cs = tail ++ [')'] ∧ Closes inner tail) :
    value? depth (c :: cs) = some value ↔ c :: cs = value ++ [')'] ∧ Closes depth value := by
  rw [hstep, Option.map_eq_some_iff]
  constructor
  · rintro ⟨tail, htail, rfl⟩
    obtain ⟨rfl, hinner⟩ := ih.mp htail
    exact ⟨rfl, (hcloses tail).mpr hinner⟩
  · rintro ⟨htext, hvalue⟩
    cases value with
    | nil => exact absurd (closes_nil_iff.mp hvalue) (hlast (List.cons.inj htext).1)
    | cons d tail =>
      obtain ⟨rfl, hcs⟩ := List.cons.inj htext
      exact ⟨tail, ih.mpr ⟨hcs, (hcloses tail).mp hvalue⟩, rfl⟩

-- The value goes up to the parenthesis that closes the call, which has to be the last character.
theorem value?_eq_some_iff {depth : Nat} {text value : List Char} :
    value? depth text = some value ↔ text = value ++ [')'] ∧ Closes depth value := by
  induction text generalizing depth value with
  | nil => simp [value?]
  | cons c cs ih =>
    by_cases hopener : c = '('
    · subst hopener
      exact value?_cons_iff (value?_opener depth cs) (fun _ => closes_cons_opener)
        (fun h => absurd h (by decide)) ih
    · by_cases hcloser : c = ')'
      · subst hcloser
        cases depth with
        | succ inner =>
          exact value?_cons_iff (value?_closer_succ inner cs) (fun _ => closes_succ_cons_closer)
            (fun _ => Nat.succ_ne_zero inner) ih
        | zero =>
          rw [value?_closer_zero]
          constructor
          · intro h
            obtain ⟨rfl, rfl⟩ : cs = [] ∧ [] = value := by simpa using h
            exact ⟨rfl, closes_nil_iff.mpr rfl⟩
          · rintro ⟨htext, hcloses⟩
            cases value with
            | nil =>
              obtain rfl : cs = [] := by simpa using htext
              rfl
            | cons d tail =>
              obtain ⟨rfl, -⟩ := List.cons.inj htext
              exact absurd hcloses not_closes_zero_cons_closer
      · exact value?_cons_iff (value?_plain hopener hcloser depth cs)
          (fun _ => closes_cons_plain hopener hcloser) (fun h => absurd h hcloser) ih

-- An ASCII letter and any number of word characters and hyphens.
def IsName (name : List Char) : Prop :=
  ∃ first rest, name = first :: rest ∧ first.isAlpha = true ∧ ∀ c ∈ rest, isNameChar c = true

instance : (name : List Char) → Decidable (IsName name)
  | [] => .isFalse (by rintro ⟨first, rest, hname, -⟩; cases hname)
  | first :: rest =>
    decidable_of_iff (first.isAlpha = true ∧ rest.all isNameChar = true)
      ⟨fun h => ⟨first, rest, rfl, h.1, List.all_eq_true.mp h.2⟩,
        by rintro ⟨_, _, ⟨rfl, rfl⟩, halpha, hrest⟩; exact ⟨halpha, List.all_eq_true.mpr hrest⟩⟩

-- The segment is a name, blanks and a value between parentheses that close at its end.
def IsCall (segment name value : List Char) : Prop :=
  ∃ blanks, segment = name ++ blanks ++ '(' :: value ++ [')'] ∧ IsName name ∧
    Text.allBlank blanks = true ∧ Balanced value

theorem isNameChar_of_isBlank {c : Char} (h : Text.isBlank c = true) : isNameChar c = false := by
  have hhyphen : c ≠ '-' := by
    rintro rfl
    exact absurd h (by decide)
  simp [isNameChar, Text.isWord_of_isBlank h, hhyphen]

-- What follows a name is no part of it: neither the blanks nor the parenthesis.
theorem isNameChar_head_of_blanks {blanks : List Char} (h : Text.allBlank blanks = true)
    (rest : List Char) : ∀ c ∈ (blanks ++ '(' :: rest).head?, isNameChar c = false := by
  intro c hc
  cases blanks with
  | nil =>
    obtain rfl : '(' = c := by simpa using hc
    decide
  | cons d blanks =>
    obtain rfl : d = c := by simpa using hc
    exact isNameChar_of_isBlank (Text.allBlank_iff.mp h d List.mem_cons_self)

theorem split?_eq_some_iff {segment name value : List Char} :
    split? segment = some (name, value) ↔ IsCall segment name value := by
  constructor
  · intro h
    cases segment with
    | nil => cases h
    | cons c cs =>
      rw [split?] at h
      split at h
      · rename_i halpha
        split at h
        · rename_i body hbody
          obtain ⟨v, hv, hpair⟩ := Option.map_eq_some_iff.mp h
          obtain ⟨rfl, rfl⟩ := Prod.mk.inj hpair
          obtain ⟨rfl, hcloses⟩ := value?_eq_some_iff.mp hv
          have hname := List.takeWhile_append_dropWhile (p := isNameChar) (l := cs)
          have hblanks := List.takeWhile_append_dropWhile (p := Text.isBlank)
            (l := cs.dropWhile isNameChar)
          rw [hbody] at hblanks
          refine ⟨(cs.dropWhile isNameChar).takeWhile Text.isBlank, ?_, ?_, ?_, hcloses⟩
          · conv_lhs => rw [← hname, ← hblanks]
            simp
          · exact ⟨c, _, rfl, halpha, fun d hd => List.mem_takeWhile_imp hd⟩
          · exact Text.allBlank_iff.mpr fun d hd => List.mem_takeWhile_imp hd
        · cases h
      · cases h
  · rintro ⟨blanks, rfl, ⟨first, rest, rfl, halpha, hrest⟩, hblanks, hbalanced⟩
    have hhead := isNameChar_head_of_blanks hblanks (value ++ [')'])
    have hopener : ∀ c ∈ ('(' :: (value ++ [')'])).head?, Text.isBlank c = false := by
      rintro c hc
      obtain rfl : '(' = c := by simpa using hc
      decide
    have hsegment : first :: rest ++ blanks ++ '(' :: value ++ [')'] =
        first :: (rest ++ (blanks ++ '(' :: (value ++ [')']))) := by simp
    rw [hsegment, split?, if_pos halpha, Text.dropWhile_append_of_head hrest hhead,
      Text.dropWhile_append_of_head (Text.allBlank_iff.mp hblanks) hopener,
      Text.takeWhile_append_of_head hrest hhead]
    exact Option.map_eq_some_iff.mpr ⟨value, value?_eq_some_iff.mpr ⟨rfl, hbalanced⟩, rfl⟩

theorem isDelimiter_of_isName {name : List Char} (h : IsName name) :
    ∀ c ∈ name, isDelimiter c = false := by
  obtain ⟨first, rest, rfl, halpha, hrest⟩ := h
  have hfirst : isDelimiter first = false := isDelimiter_of_kind (by decide) halpha
  have hchar : ∀ c, isNameChar c = true → isDelimiter c = false :=
    fun c => isDelimiter_of_kind (by decide)
  exact List.forall_mem_cons.mpr ⟨hfirst, fun c hc => hchar c (hrest c hc)⟩

-- The parenthesis that is closed by its count is the one that is closed by its nesting.
private theorem wellNested_of_enclosed {value : List Char}
    (h : WellNested ('(' :: (value ++ [')']))) (hbalanced : Balanced value) : WellNested value := by
  generalize htext : '(' :: (value ++ [')']) = text at h
  cases h with
  | nil => cases htext
  | plain hc _ =>
    obtain ⟨rfl, -⟩ := List.cons.inj htext
    exact absurd hc (by decide)
  | @wrap d inner rest hinner _ =>
    obtain ⟨hopener, hvalue⟩ := List.cons.inj htext
    cases d with
    | square => exact absurd hopener (by decide)
    | round =>
      change value ++ [')'] = inner ++ ')' :: rest at hvalue
      obtain rfl | ⟨back, last, rfl⟩ := List.eq_nil_or_concat' rest
      · obtain rfl := List.append_cancel_right hvalue
        exact hinner
      · -- the value would close one parenthesis more than it opened
        rw [← List.cons_append, ← List.append_assoc] at hvalue
        obtain ⟨rfl, -⟩ := List.append_inj' hvalue rfl
        have hcloses : Closes 0 (')' :: back) := (closes_append_iff hinner).mp hbalanced
        exact absurd hcloses not_closes_zero_cons_closer

theorem IsCall.wellNested {segment name value : List Char} (h : IsCall segment name value)
    (hsegment : WellNested segment) : WellNested value := by
  obtain ⟨blanks, rfl, hname, hblanks, hbalanced⟩ := h
  have hfront : ∀ c ∈ name ++ blanks, isDelimiter c = false := by
    intro c hc
    obtain hc | hc := List.mem_append.mp hc
    · exact isDelimiter_of_isName hname c hc
    · exact isDelimiter_of_isBlank (Text.allBlank_iff.mp hblanks c hc)
  rw [List.append_assoc] at hsegment
  exact wellNested_of_enclosed (hsegment.of_append_plain hfront) hbalanced

end ClausePrompt.Call
