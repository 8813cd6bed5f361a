import ClausePrompt.Lexicon.Standard
import ClausePrompt.Proofs.Argument.Keyed
import ClausePrompt.Proofs.Argument.Overlong
import ClausePrompt.Proofs.Text.Folding

namespace ClausePrompt

namespace Variant

theorem ofName?_eq_some_iff {text : List Char} {variant : Variant} :
    ofName? text = some variant ↔ text = variant.name.toList := by
  constructor
  · intro h
    have hname := List.find?_some h
    exact (beq_iff_eq.mp hname).symm
  · rintro rfl
    cases variant <;> decide

theorem isSmall_name (variant : Variant) : ∀ c ∈ variant.name.toList, Text.IsSmall c :=
  Text.all_isSmall_iff.mp (by cases variant <;> decide)

end Variant

namespace Text

-- Exactly one of the two characters that meet between the texts belongs to a word.
def IsBoundary (front back : List Char) : Prop :=
  front.getLast?.any isWord ≠ back.head?.any isWord

end Text

namespace Argument

open Nesting (WellNested topSegments)

-- The name of a variant in any case, blanks and an opening parenthesis.
def BeginsVariant (text : List Char) : Prop :=
  ∃ variant : Variant, ∃ word blanks rest, text = word ++ blanks ++ '(' :: rest ∧
    word.map Text.foldLetter = variant.name.toList ∧ Text.allBlank blanks = true

-- A variant begins at some word boundary of the text.
def HoldsVariant (text : List Char) : Prop :=
  ∃ front back, text = front ++ back ∧ Text.IsBoundary front back ∧ BeginsVariant back

section Heads

variable {text : List Char}

theorem startsVariant_iff : startsVariant text = true ↔ BeginsVariant text := by
  rw [startsVariant, List.any_eq_true]
  constructor
  · rintro ⟨variant, -, h⟩
    split at h
    · rename_i rest hdrop
      obtain ⟨word, rfl, hword⟩ := Text.dropWord?_eq_some_iff.mp hdrop
      obtain ⟨tail, htail⟩ := List.head?_eq_some_iff.mp (beq_iff_eq.mp h)
      refine ⟨variant, word, rest.takeWhile Text.isBlank, tail, ?_, hword,
        Text.allBlank_iff.mpr fun c hc => List.mem_takeWhile_imp hc⟩
      rw [List.append_assoc, ← htail, List.takeWhile_append_dropWhile]
    · cases h
  · rintro ⟨variant, word, blanks, rest, rfl, hword, hblanks⟩
    have hdrop : Text.dropWord? variant.name.toList (word ++ blanks ++ '(' :: rest) =
        some (blanks ++ '(' :: rest) :=
      Text.dropWord?_eq_some_iff.mpr ⟨word, List.append_assoc word blanks _, hword⟩
    have hopener : (blanks ++ '(' :: rest).dropWhile Text.isBlank = '(' :: rest := by
      refine Text.dropWhile_append_of_head (Text.allBlank_iff.mp hblanks) fun c hc => ?_
      obtain rfl := Option.some.inj hc
      decide
    refine ⟨variant, by cases variant <;> decide, ?_⟩
    rw [hdrop]
    dsimp only
    rw [hopener]
    rfl

theorem BeginsVariant.isWord_head (h : BeginsVariant text) : text.head?.any Text.isWord = true := by
  obtain ⟨variant, word, blanks, rest, rfl, hword, -⟩ := h
  obtain ⟨letter, letters, hname⟩ : ∃ letter letters, variant.name.toList = letter :: letters := by
    cases variant <;> exact ⟨_, _, rfl⟩
  cases word with
  | nil => cases hword.trans hname
  | cons c word =>
    have hsmall := variant.isSmall_name (Text.foldLetter c) (by rw [← hword]; exact List.mem_cons_self)
    exact Text.isWord_of_foldLetter hsmall

-- The scan finds a variant wherever no word character stands before it. The induction is on the
-- text, with the character before it as the one that was passed last.
theorem holdsVariant_iff {inWord : Bool} :
    holdsVariant inWord text = true ↔
      ∃ front back, text = front ++ back ∧ (front.getLast?.map Text.isWord).getD inWord = false ∧
        BeginsVariant back := by
  induction text generalizing inWord with
  | nil =>
    constructor
    · rintro ⟨⟩
    · rintro ⟨front, back, hcut, -, hback⟩
      obtain ⟨rfl, rfl⟩ := List.append_eq_nil_iff.mp hcut.symm
      cases hback.isWord_head
  | cons c cs ih =>
    rw [holdsVariant, Bool.or_eq_true, Bool.and_eq_true, startsVariant_iff, ih]
    constructor
    · rintro (⟨hword, hbegins⟩ | ⟨front, back, rfl, hfront, hbegins⟩)
      · exact ⟨[], c :: cs, rfl, by simpa using hword, hbegins⟩
      · refine ⟨c :: front, back, rfl, ?_, hbegins⟩
        rw [List.getLast?_cons]
        cases hlast : front.getLast? <;> simpa [hlast] using hfront
    · rintro ⟨front, back, hcut, hfront, hbegins⟩
      cases front with
      | nil =>
        obtain rfl : c :: cs = back := hcut
        exact .inl ⟨by simpa using hfront, hbegins⟩
      | cons d front =>
        obtain ⟨rfl, rfl⟩ := List.cons.inj hcut
        refine .inr ⟨front, back, rfl, ?_, hbegins⟩
        rw [List.getLast?_cons] at hfront
        cases hlast : front.getLast? <;> simpa [hlast] using hfront

theorem holdsVariant_false_iff : holdsVariant false text = true ↔ HoldsVariant text := by
  have hboundary : ∀ front back : List Char, BeginsVariant back →
      ((front.getLast?.map Text.isWord).getD false = false ↔ Text.IsBoundary front back) := by
    intro front back hback
    rw [Text.IsBoundary, hback.isWord_head]
    cases front.getLast? <;> simp
  rw [holdsVariant_iff]
  constructor
  · rintro ⟨front, back, hcut, hfront, hback⟩
    exact ⟨front, back, hcut, (hboundary front back hback).mp hfront, hback⟩
  · rintro ⟨front, back, hcut, hfront, hback⟩
    exact ⟨front, back, hcut, (hboundary front back hback).mpr hfront, hback⟩

instance (text : List Char) : Decidable (HoldsVariant text) :=
  decidable_of_iff _ holdsVariant_false_iff

end Heads

-- What a segment of a variant pair says.
inductive VariantPart where
  | plain (text : List Char)
  | call (variant : Variant) (value : List Char)

-- The plain segments in order.
def plains : List VariantPart → List (List Char)
  | [] => []
  | .plain text :: parts => text :: plains parts
  | .call _ _ :: parts => plains parts

-- The variants with their values, in order.
def calls : List VariantPart → List (Variant × List Char)
  | [] => []
  | .plain _ :: parts => calls parts
  | .call variant value :: parts => (variant, value) :: calls parts

-- A segment is a call of a variant, or it holds no variant anywhere and stands for itself.
def IsPart (segment : List Char) : VariantPart → Prop
  | .plain text => text = segment ∧ segment ≠ [] ∧ ¬HoldsVariant segment
  | .call variant value => IsEntry segment (variant.name.toList, value)

section Parts

variable {state last : VariantParts} {segment : List Char}

theorem length_plains_add_length_calls (parts : List VariantPart) :
    (plains parts).length + (calls parts).length = parts.length := by
  induction parts with
  | nil => rfl
  | cons part parts ih => cases part <;> simp only [plains, calls, List.length_cons] <;> omega

theorem lookup_eq_none_iff_not_mem {found : List (Variant × List Char)} {variant : Variant} :
    found.lookup variant = none ↔ variant ∉ found.map (·.1) := by
  rw [List.lookup_eq_none_iff]
  constructor
  · intro h hmem
    obtain ⟨call, hcall, rfl⟩ := List.mem_map.mp hmem
    exact bne_iff_ne.mp (h call hcall) rfl
  · intro h call hcall
    refine bne_iff_ne.mpr ?_
    rintro rfl
    exact h (List.mem_map_of_mem hcall)

theorem call?_eq_some_iff {variant : Variant} {body : List Char} :
    VariantParts.call? segment = some (variant, body) ↔
      ∃ name, Call.split? segment = some (name, body) ∧ Text.lower name = variant.name.toList := by
  unfold VariantParts.call?
  cases Call.split? segment with
  | none => simp
  | some call =>
    obtain ⟨name, value⟩ := call
    simp only [Option.map_eq_some_iff, Variant.ofName?_eq_some_iff]
    constructor
    · rintro ⟨found, hname, hpair⟩
      obtain ⟨rfl, rfl⟩ := Prod.mk.inj hpair
      exact ⟨name, rfl, hname⟩
    · rintro ⟨found, hcall, hname⟩
      obtain ⟨rfl, rfl⟩ := Prod.mk.inj (Option.some.inj hcall)
      exact ⟨variant, hname, rfl⟩

-- A call of a variant holds that variant, so it is never plain.
theorem holdsVariant_of_call? {variant : Variant} {body : List Char}
    (h : VariantParts.call? segment = some (variant, body)) : HoldsVariant segment := by
  obtain ⟨name, hcall, hname⟩ := call?_eq_some_iff.mp h
  obtain ⟨blanks, hform, -, hblanks, -⟩ := Call.split?_eq_some_iff.mp hcall
  have hbegins : BeginsVariant segment :=
    ⟨variant, name, blanks, body ++ [')'], by simpa using hform,
      Text.map_foldLetter_of_lowerFrom hname variant.isSmall_name, hblanks⟩
  refine ⟨[], segment, rfl, ?_, hbegins⟩
  rw [Text.IsBoundary, hbegins.isWord_head]
  decide

theorem add_of_plain (hne : segment ≠ []) (hplain : ¬HoldsVariant segment) :
    state.add segment = .ok { state with base := state.base ++ [segment] } := by
  have hcall : VariantParts.call? segment = none :=
    Option.eq_none_iff_forall_ne_some.mpr fun _ h => hplain (holdsVariant_of_call? h)
  have hscan : ¬holdsVariant false segment = true := fun h => hplain (holdsVariant_false_iff.mp h)
  simp only [VariantParts.add, hcall, hscan, List.isEmpty_eq_false_iff.mpr hne]
  rfl

theorem add_of_isEntry {variant : Variant} {value : List Char}
    (h : IsEntry segment (variant.name.toList, value)) :
    state.add segment = if (state.get? variant).isSome then .error (.duplicateKey variant.name)
      else .ok (state.set value variant) := by
  obtain ⟨name, body, hcall, hbody, hentry⟩ := h.exists_split?
  obtain ⟨hname, rfl⟩ := Prod.mk.inj hentry
  have hne : segment ≠ [] := by
    rintro rfl
    cases hcall
  have hcall : VariantParts.call? segment = some (variant, body) :=
    call?_eq_some_iff.mpr ⟨name, hcall, hname.symm⟩
  simp [VariantParts.add, hcall, hne, hbody]

theorem add_of_not_isPart (hsegment : WellNested segment) (h : ∀ part, ¬IsPart segment part) :
    ∃ malformation, state.add segment = malformed malformation := by
  by_cases hempty : segment = []
  · exact ⟨.emptySegment, by simp [VariantParts.add, hempty]⟩
  · cases hcall : VariantParts.call? segment with
    | none =>
      have hscan : holdsVariant false segment = true := by
        by_contra hscan
        exact h (.plain segment) ⟨rfl, hempty, fun hholds => hscan (holdsVariant_false_iff.mpr hholds)⟩
      exact ⟨.joinedVariants (String.ofList segment), by simp [VariantParts.add, hempty, hcall, hscan]⟩
    | some call =>
      obtain ⟨variant, body⟩ := call
      obtain ⟨name, hsplit, hname⟩ := call?_eq_some_iff.mp hcall
      have hbody : Text.trim body = [] := by
        by_contra hbody
        have hentry := isEntry_of_split? hsegment hsplit hbody
        rw [hname] at hentry
        exact h (.call variant (Text.trim body)) hentry
      exact ⟨.emptyVariant variant, by simp [VariantParts.add, hempty, hcall, hbody]⟩

end Parts

-- What a part adds to those that were read before.
def VariantParts.take (state : VariantParts) : VariantPart → VariantParts
  | .plain text => { state with base := state.base ++ [text] }
  | .call variant value => state.set value variant

-- No variant comes twice among the parts, and none of them was there before.
def Fresh (state : VariantParts) (parts : List VariantPart) : Prop :=
  ((calls parts).map (·.1)).Nodup ∧
    ∀ variant ∈ (calls parts).map (·.1), state.get? variant = none

section Runs

variable {state last : VariantParts}

@[simp] theorem get?_take_plain (text : List Char) (variant : Variant) :
    (state.take (.plain text)).get? variant = state.get? variant := by
  cases variant <;> rfl

@[simp] theorem get?_take_call (found variant : Variant) (value : List Char) :
    (state.take (.call found value)).get? variant =
      if variant = found then some value else state.get? variant := by
  cases found <;> cases variant <;> rfl

theorem fresh_nil (state : VariantParts) : Fresh state [] := by simp [Fresh, calls]

theorem fresh_cons_iff {part : VariantPart} {parts : List VariantPart} :
    Fresh state (part :: parts) ↔ Fresh state [part] ∧ Fresh (state.take part) parts := by
  cases part with
  | plain text => simp [Fresh, calls]
  | call variant value =>
    simp only [Fresh, calls, List.map_cons, List.map_nil, List.nodup_cons, List.forall_mem_cons,
      get?_take_call]
    constructor
    · rintro ⟨⟨hnew, hnodup⟩, hvariant, hparts⟩
      refine ⟨⟨⟨List.not_mem_nil, List.nodup_nil⟩, hvariant, by simp⟩, hnodup, fun other hmem => ?_⟩
      have hne : other ≠ variant := by
        rintro rfl
        exact hnew hmem
      rw [if_neg hne, hparts other hmem]
    · rintro ⟨⟨-, hvariant, -⟩, hnodup, hparts⟩
      have hnew : variant ∉ (calls parts).map (·.1) := by
        intro hmem
        simpa using hparts variant hmem
      refine ⟨⟨hnew, hnodup⟩, hvariant, fun other hmem => ?_⟩
      have hne : other ≠ variant := by
        rintro rfl
        exact hnew hmem
      have hother := hparts other hmem
      rwa [if_neg hne] at hother

-- What a step can do: it takes a part, meets a variant that was there before, or refuses.
theorem add_cases (state : VariantParts) {segment : List Char} (hsegment : WellNested segment) :
    (∃ part, IsPart segment part ∧ Fresh state [part] ∧
      state.add segment = .ok (state.take part)) ∨
    (∃ variant value, IsEntry segment (variant.name.toList, value) ∧ state.get? variant ≠ none ∧
      state.add segment = .error (.duplicateKey variant.name)) ∨
    ∃ malformation, state.add segment = malformed malformation := by
  by_cases hpart : ∃ part, IsPart segment part
  · obtain ⟨part, hpart⟩ := hpart
    cases part with
    | plain text =>
      obtain ⟨rfl, hne, hplain⟩ := hpart
      exact .inl ⟨.plain text, ⟨rfl, hne, hplain⟩, by simp [Fresh, calls], add_of_plain hne hplain⟩
    | call variant value =>
      by_cases hnew : state.get? variant = none
      · refine .inl ⟨.call variant value, hpart, by simpa [Fresh, calls] using hnew, ?_⟩
        rw [add_of_isEntry hpart, hnew]
        rfl
      · refine .inr (.inl ⟨variant, value, hpart, hnew, ?_⟩)
        rw [add_of_isEntry hpart, if_pos (Option.isSome_iff_ne_none.mpr hnew)]
  · exact .inr (.inr (add_of_not_isPart hsegment (not_exists.mp hpart)))

-- A segment is added exactly if it is a part, and its variant is not there yet if it has one.
theorem add_eq_ok_iff {segment : List Char} (hsegment : WellNested segment) :
    state.add segment = .ok last ↔
      ∃ part, IsPart segment part ∧ Fresh state [part] ∧ last = state.take part := by
  constructor
  · intro h
    obtain ⟨part, hpart, hfresh, hadd⟩ | ⟨_, _, -, -, hadd⟩ | ⟨_, hadd⟩ := add_cases state hsegment
    · exact ⟨part, hpart, hfresh, Except.ok.inj (h.symm.trans hadd)⟩
    · cases hadd.symm.trans h
    · cases hadd.symm.trans h
  · rintro ⟨part, hpart, hfresh, rfl⟩
    cases part with
    | plain text =>
      obtain ⟨rfl, hne, hplain⟩ := hpart
      exact add_of_plain hne hplain
    | call variant value =>
      have hnone : state.get? variant = none := hfresh.2 variant (by simp [calls])
      rw [add_of_isEntry hpart, hnone]
      rfl

theorem add_eq_duplicateKey_iff {segment : List Char} (hsegment : WellNested segment)
    {key : String} :
    state.add segment = .error (.duplicateKey key) ↔
      ∃ variant value, key = variant.name ∧ IsEntry segment (variant.name.toList, value) ∧
        state.get? variant ≠ none := by
  constructor
  · intro h
    obtain ⟨_, -, -, hadd⟩ | ⟨variant, value, hentry, hknown, hadd⟩ | ⟨_, hadd⟩ :=
      add_cases state hsegment
    · cases hadd.symm.trans h
    · obtain rfl := Defect.duplicateKey.inj (Except.error.inj (hadd.symm.trans h))
      exact ⟨variant, value, rfl, hentry, hknown⟩
    · cases hadd.symm.trans h
  · rintro ⟨variant, value, rfl, hentry, hknown⟩
    rw [add_of_isEntry hentry, if_pos (Option.isSome_iff_ne_none.mpr hknown)]

-- The induction is on the segments, with the parts of those before as the state.
theorem foldlM_add_eq_ok_iff {segments : List (List Char)}
    (hsegments : ∀ segment ∈ segments, WellNested segment) :
    segments.foldlM VariantParts.add state = .ok last ↔
      ∃ parts, List.Forall₂ IsPart segments parts ∧ Fresh state parts ∧
        last = parts.foldl VariantParts.take state := by
  induction segments generalizing state with
  | nil =>
    constructor
    · intro h
      exact ⟨[], .nil, fresh_nil state, (Except.ok.inj h).symm⟩
    · rintro ⟨parts, hparts, -, rfl⟩
      cases hparts
      rfl
  | cons segment rest ih =>
    obtain ⟨hsegment, hrest⟩ := List.forall_mem_cons.mp hsegments
    rw [List.foldlM_cons, Outcome.bind_eq_ok_iff]
    constructor
    · rintro ⟨next, hnext, hlast⟩
      obtain ⟨part, hpart, hfresh, rfl⟩ := (add_eq_ok_iff hsegment).mp hnext
      obtain ⟨parts, hparts, hfreshRest, rfl⟩ := (ih hrest).mp hlast
      exact ⟨part :: parts, .cons hpart hparts, fresh_cons_iff.mpr ⟨hfresh, hfreshRest⟩, rfl⟩
    · rintro ⟨_, hall, hfresh, rfl⟩
      obtain ⟨part, parts, hpart, hparts, rfl⟩ := List.forall₂_cons_left_iff.mp hall
      obtain ⟨hfresh, hfreshRest⟩ := fresh_cons_iff.mp hfresh
      exact ⟨_, (add_eq_ok_iff hsegment).mpr ⟨part, hpart, hfresh, rfl⟩,
        (ih hrest).mpr ⟨parts, hparts, hfreshRest, rfl⟩⟩

theorem base_foldl_take (parts : List VariantPart) :
    (parts.foldl VariantParts.take state).base = state.base ++ plains parts := by
  induction parts generalizing state with
  | nil => simp [plains]
  | cons part parts ih =>
    rw [List.foldl_cons, ih]
    cases part with
    | plain text => simp [VariantParts.take, plains]
    | call variant value => cases variant <;> rfl

-- A variant has the value of its call, wherever that stands.
theorem get?_foldl_take {parts : List VariantPart} (h : Fresh state parts) (variant : Variant) :
    (parts.foldl VariantParts.take state).get? variant =
      ((calls parts).lookup variant).or (state.get? variant) := by
  induction parts generalizing state with
  | nil => simp [calls]
  | cons part parts ih =>
    obtain ⟨hfresh, hrest⟩ := fresh_cons_iff.mp h
    rw [List.foldl_cons, ih hrest]
    cases part with
    | plain text => simp [calls]
    | call found value =>
      rw [calls, List.lookup_cons, get?_take_call]
      obtain rfl | hne := eq_or_ne variant found
      · -- no later call has the variant
        have hnone : (calls parts).lookup variant = none := by
          refine lookup_eq_none_iff_not_mem.mpr fun hmem => ?_
          simpa using hrest.2 variant hmem
        simp [hnone]
      · have hother : (variant == found) = false := beq_eq_false_iff_ne.mpr hne
        simp [hother, hne]

theorem fresh_empty_iff {parts : List VariantPart} :
    Fresh {} parts ↔ ((calls parts).map (·.1)).Nodup := by
  refine and_iff_left fun variant _ => ?_
  cases variant <;> rfl

end Runs

-- A call of a variant that was there before, and up to it every segment is in order.
def RepeatsVariant (segments : List (List Char)) (variant : Variant) : Prop :=
  ∃ front segment rest parts value, segments = front ++ segment :: rest ∧
    List.Forall₂ IsPart front parts ∧ ((calls parts).map (·.1)).Nodup ∧
    IsEntry segment (variant.name.toList, value) ∧ variant ∈ (calls parts).map (·.1)

-- Parts that may stand together where plain segments may not stand beside the variants.
def Unmixed (parts : List VariantPart) : Prop :=
  (∃ text, parts = [.plain text]) ∨ plains parts = []

-- What the parts are together.
def variantsOf (parts : List VariantPart) : Argument :=
  .variants ((plains parts).map String.ofList)
    (((calls parts).lookup .light).map String.ofList)
    (((calls parts).lookup .dark).map String.ofList)

-- The rule on mixed segments, which is the last thing that is looked at.
def checkMixed (rules : Rules) (parts : VariantParts) : Reading Argument :=
  if !rules.mixedSegments && parts.hasVariant && !parts.base.isEmpty then malformed .mixedVariants
  else if !rules.mixedSegments && 1 < parts.base.length then malformed .severalValues
  else .ok (.variants (parts.base.map String.ofList) (parts.light.map String.ofList)
    (parts.dark.map String.ofList))

theorem readVariants_eq (rules : Rules) (text : List Char) :
    readVariants rules text =
      segments text >>= fun found => found.foldlM VariantParts.add {} >>= checkMixed rules := rfl

section Readers

variable {parts : List VariantPart}

theorem foldl_take_eq (h : Fresh {} parts) :
    parts.foldl VariantParts.take {} =
      ⟨plains parts, (calls parts).lookup .light, (calls parts).lookup .dark⟩ := by
  have hbase : (parts.foldl VariantParts.take {}).base = plains parts := base_foldl_take parts
  have hlight := get?_foldl_take h .light
  have hdark := get?_foldl_take h .dark
  generalize parts.foldl VariantParts.take {} = last at hbase hlight hdark
  obtain ⟨base, light, dark⟩ := last
  obtain rfl : base = plains parts := hbase
  obtain rfl : light = (calls parts).lookup .light := hlight.trans Option.or_none
  obtain rfl : dark = (calls parts).lookup .dark := hdark.trans Option.or_none
  rfl

theorem hasVariant_iff {base : List (List Char)} :
    VariantParts.hasVariant ⟨base, (calls parts).lookup .light, (calls parts).lookup .dark⟩ = true ↔
      calls parts ≠ [] := by
  cases hcalls : calls parts with
  | nil => simp [VariantParts.hasVariant]
  | cons call rest =>
    obtain ⟨variant, value⟩ := call
    cases variant <;> simp [VariantParts.hasVariant, List.lookup_cons]

theorem unmixed_iff (hne : parts ≠ []) :
    Unmixed parts ↔ ¬(calls parts ≠ [] ∧ plains parts ≠ []) ∧ ¬1 < (plains parts).length := by
  have hlength := length_plains_add_length_calls parts
  constructor
  · rintro (⟨text, rfl⟩ | hplains)
    · exact ⟨fun h => h.1 rfl, Nat.lt_irrefl 1⟩
    · exact ⟨fun h => h.2 hplains, by simp [hplains]⟩
  · rintro ⟨hmixed, hone⟩
    obtain hplains | hplains := eq_or_ne (plains parts) []
    · exact .inr hplains
    · have hcalls : calls parts = [] := by
        by_contra hcalls
        exact hmixed ⟨hcalls, hplains⟩
      have hpos := List.length_pos_of_ne_nil hplains
      rw [hcalls, List.length_nil] at hlength
      obtain ⟨part, rfl⟩ := List.length_eq_one_iff.mp (by omega : parts.length = 1)
      cases part with
      | plain text => exact .inl ⟨text, rfl⟩
      | call variant value => cases hcalls

theorem checkMixed_eq_ok_iff {rules : Rules} {argument : Argument} (h : Fresh {} parts)
    (hne : parts ≠ []) :
    checkMixed rules (parts.foldl VariantParts.take {}) = .ok argument ↔
      argument = variantsOf parts ∧ (rules.mixedSegments = true ∨ Unmixed parts) := by
  rw [unmixed_iff hne, checkMixed, foldl_take_eq h]
  simp only [Bool.and_eq_true, hasVariant_iff]
  constructor
  · intro hchecked
    split_ifs at hchecked with hmixed hseveral
    · cases hchecked
    · cases hchecked
    · refine ⟨(Except.ok.inj hchecked).symm, ?_⟩
      cases hrule : rules.mixedSegments with
      | true => exact .inl rfl
      | false => exact .inr (by simpa [hrule] using And.intro hmixed hseveral)
  · rintro ⟨rfl, hrule | ⟨hmixed, hone⟩⟩
    · rw [if_neg (by simp [hrule]), if_neg (by simp [hrule])]
      rfl
    · rw [if_neg (fun h => hmixed ⟨h.1.2, by simpa using h.2⟩),
        if_neg (fun h => hone (by simpa using h.2))]
      rfl

theorem readVariants_eq_ok_iff {rules : Rules} {text : List Char} {argument : Argument} :
    readVariants rules text = .ok argument ↔
      ∃ parts, argument = variantsOf parts ∧ WellNested text ∧
        List.Forall₂ IsPart (topSegments ';' text) parts ∧ ((calls parts).map (·.1)).Nodup ∧
        (rules.mixedSegments = true ∨ Unmixed parts) := by
  have hnonempty : ∀ parts, List.Forall₂ IsPart (topSegments ';' text) parts → parts ≠ [] := by
    rintro _ hparts rfl
    have hsegments : topSegments ';' text = [] := List.forall₂_nil_right_iff.mp hparts
    rw [topSegments, List.map_eq_nil_iff] at hsegments
    exact Nesting.topPieces_ne_nil text hsegments
  rw [readVariants_eq]
  constructor
  · intro h
    obtain ⟨segments, hsegments, hrest⟩ := Outcome.bind_eq_ok_iff.mp h
    obtain ⟨last, hlast, hchecked⟩ := Outcome.bind_eq_ok_iff.mp hrest
    obtain ⟨hnested, rfl⟩ := segments_eq_ok_iff.mp hsegments
    obtain ⟨parts, hparts, hfresh, rfl⟩ :=
      (foldlM_add_eq_ok_iff (wellNested_of_mem_topSegments hnested)).mp hlast
    obtain ⟨rfl, hunmixed⟩ := (checkMixed_eq_ok_iff hfresh (hnonempty parts hparts)).mp hchecked
    exact ⟨parts, rfl, hnested, hparts, fresh_empty_iff.mp hfresh, hunmixed⟩
  · rintro ⟨parts, hargument, hnested, hparts, hnodup, hunmixed⟩
    have hfresh := fresh_empty_iff.mpr hnodup
    refine Outcome.bind_eq_ok_iff.mpr ⟨_, segments_eq_ok_iff.mpr ⟨hnested, rfl⟩, ?_⟩
    refine Outcome.bind_eq_ok_iff.mpr ⟨_, (foldlM_add_eq_ok_iff
      (wellNested_of_mem_topSegments hnested)).mpr ⟨parts, hparts, hfresh, rfl⟩, ?_⟩
    exact (checkMixed_eq_ok_iff hfresh (hnonempty parts hparts)).mpr ⟨hargument, hunmixed⟩

-- The variants that are there are those of the calls so far.
theorem get?_ne_none_iff (h : Fresh {} parts) (variant : Variant) :
    (parts.foldl VariantParts.take {}).get? variant ≠ none ↔ variant ∈ (calls parts).map (·.1) := by
  have hnone : ({} : VariantParts).get? variant = none := by cases variant <;> rfl
  rw [get?_foldl_take h, hnone, Option.or_none, Ne, lookup_eq_none_iff_not_mem, not_not]

theorem readVariants_eq_duplicateKey_iff {rules : Rules} {text : List Char} {key : String} :
    readVariants rules text = .error (.duplicateKey key) ↔
      ∃ variant, key = variant.name ∧ WellNested text ∧
        RepeatsVariant (topSegments ';' text) variant := by
  -- the loop fails at the call that repeats a variant, and gets through the segments before it
  have hloop : WellNested text →
      ((topSegments ';' text).foldlM VariantParts.add {} = .error (.duplicateKey key) ↔
        ∃ variant, key = variant.name ∧ RepeatsVariant (topSegments ';' text) variant) := by
    intro hnested
    have hsegments := wellNested_of_mem_topSegments hnested
    rw [Outcome.foldlM_eq_error_iff]
    constructor
    · rintro ⟨front, segment, rest, last, hcut, hfront, hrepeated⟩
      rw [hcut] at hsegments ⊢
      obtain ⟨hfrontNested, htail⟩ := List.forall_mem_append.mp hsegments
      have hsegment := htail segment List.mem_cons_self
      obtain ⟨parts, hparts, hfresh, rfl⟩ := (foldlM_add_eq_ok_iff hfrontNested).mp hfront
      obtain ⟨variant, value, hkey, hentry, hknown⟩ := (add_eq_duplicateKey_iff hsegment).mp hrepeated
      exact ⟨variant, hkey, front, segment, rest, parts, value, rfl, hparts,
        fresh_empty_iff.mp hfresh, hentry, (get?_ne_none_iff hfresh variant).mp hknown⟩
    · rintro ⟨variant, rfl, front, segment, rest, parts, value, hcut, hparts, hnodup, hentry, hmem⟩
      have hfresh := fresh_empty_iff.mpr hnodup
      rw [hcut] at hsegments ⊢
      obtain ⟨hfrontNested, htail⟩ := List.forall_mem_append.mp hsegments
      have hsegment := htail segment List.mem_cons_self
      exact ⟨front, segment, rest, _, rfl,
        (foldlM_add_eq_ok_iff hfrontNested).mpr ⟨parts, hparts, hfresh, rfl⟩,
        (add_eq_duplicateKey_iff hsegment).mpr ⟨variant, value, rfl, hentry,
          (get?_ne_none_iff hfresh variant).mpr hmem⟩⟩
  rw [readVariants_eq]
  constructor
  · intro h
    obtain hsegments | ⟨segments, hsegments, hrest⟩ := Outcome.bind_eq_error_iff.mp h
    · obtain ⟨malformation, hdefect⟩ := isMalformed_segments text _ hsegments
      cases hdefect
    · obtain ⟨hnested, rfl⟩ := segments_eq_ok_iff.mp hsegments
      obtain hfold | ⟨last, -, hchecks⟩ := Outcome.bind_eq_error_iff.mp hrest
      · obtain ⟨variant, hkey, hrepeats⟩ := (hloop hnested).mp hfold
        exact ⟨variant, hkey, hnested, hrepeats⟩
      · unfold checkMixed at hchecks
        split_ifs at hchecks <;> cases hchecks
  · rintro ⟨variant, hkey, hnested, hrepeats⟩
    refine Outcome.bind_eq_error_iff.mpr (.inr ⟨_, segments_eq_ok_iff.mpr ⟨hnested, rfl⟩, ?_⟩)
    exact Outcome.bind_eq_error_iff.mpr (.inl ((hloop hnested).mpr ⟨variant, hkey, hrepeats⟩))

-- There are only two variants, so every call is found under one of them.
theorem length_eq_of_nodup_variants {found : List (Variant × List Char)}
    (h : (found.map (·.1)).Nodup) :
    found.length = (found.lookup .light).toList.length + (found.lookup .dark).toList.length := by
  induction found with
  | nil => rfl
  | cons call rest ih =>
    obtain ⟨variant, value⟩ := call
    obtain ⟨hnew, hnodup⟩ := List.nodup_cons.mp h
    have hnone : rest.lookup variant = none := lookup_eq_none_iff_not_mem.mpr hnew
    have hlength := ih hnodup
    cases variant with
    | light =>
      have hdark : (Variant.dark == Variant.light) = false := rfl
      simp only [List.lookup_cons, hdark, beq_self_eq_true, hnone, Option.toList_none,
        Option.toList_some, List.length_cons, List.length_nil] at hlength ⊢
      omega
    | dark =>
      have hlight : (Variant.light == Variant.dark) = false := rfl
      simp only [List.lookup_cons, hlight, beq_self_eq_true, hnone, Option.toList_none,
        Option.toList_some, List.length_cons, List.length_nil] at hlength ⊢
      omega

end Readers

end Argument

namespace Clause

open Nesting (WellNested topSegments)

-- A variant pair is read if its text is well nested, every segment is a call of a variant or holds
-- none, no variant comes twice, and, where the two kinds may not be mixed, there is one plain segment
-- or none. Every segment has its place in what is read. A variant that comes again is reported as a
-- repeated key if up to it all is in order, and any other text is refused for its form.
theorem readFor_variants (keyword : Keyword) (hshape : keyword.shape = .variantPair) (text : String)
    (htrimmed : Text.trimmed text = text) (hne : text ≠ "")
    (hseparator : Argument.clauseSeparator ∉ text.toList) :
    (∀ clause, readFor keyword text = .ok clause ↔
      ∃ parts, clause = ⟨keyword, text, Argument.variantsOf parts⟩ ∧ WellNested text.toList ∧
        List.Forall₂ Argument.IsPart (topSegments ';' text.toList) parts ∧
        ((Argument.calls parts).map (·.1)).Nodup ∧
        (keyword.rules.mixedSegments = true ∨ Argument.Unmixed parts)) ∧
    (∀ base light dark, readFor keyword text = .ok ⟨keyword, text, .variants base light dark⟩ →
      (topSegments ';' text.toList).length =
        base.length + light.toList.length + dark.toList.length) ∧
    (∀ refusal, readFor keyword text = refuse refusal ∧ refusal.kind = .duplicateKey ↔
      ∃ variant, refusal = .duplicateKey keyword.id variant.name ∧ WellNested text.toList ∧
        Argument.RepeatsVariant (topSegments ';' text.toList) variant) ∧
    ∀ failure, readFor keyword text = .error failure →
      ∃ refusal, failure = .refused refusal ∧ refusal.keyword = some keyword.id ∧
        (refusal.kind = .duplicateKey ∨ refusal.kind = .malformedArgument) := by
  have hread : Argument.readShape keyword.shape keyword.rules text.toList =
      Argument.readVariants keyword.rules text.toList := by rw [hshape]; rfl
  have haccepted : ∀ clause, readFor keyword text = .ok clause ↔
      ∃ parts, clause = ⟨keyword, text, Argument.variantsOf parts⟩ ∧ WellNested text.toList ∧
        List.Forall₂ Argument.IsPart (topSegments ';' text.toList) parts ∧
        ((Argument.calls parts).map (·.1)).Nodup ∧
        (keyword.rules.mixedSegments = true ∨ Argument.Unmixed parts) := by
    intro clause
    rw [readFor_eq_ok_of_trimmed_iff htrimmed hne hseparator, hread]
    constructor
    · rintro ⟨argument, rfl, hargument⟩
      obtain ⟨parts, rfl, hparts⟩ := Argument.readVariants_eq_ok_iff.mp hargument
      exact ⟨parts, rfl, hparts⟩
    · rintro ⟨parts, rfl, hparts⟩
      exact ⟨_, rfl, Argument.readVariants_eq_ok_iff.mpr ⟨parts, rfl, hparts⟩⟩
  refine ⟨haccepted, ?_, ?_, ?_⟩
  · intro base light dark hok
    obtain ⟨parts, hclause, -, hparts, hnodup, -⟩ := (haccepted _).mp hok
    obtain ⟨-, -, hargument⟩ := Clause.mk.inj hclause
    obtain ⟨rfl, rfl, rfl⟩ := Argument.variants.inj hargument
    rw [hparts.length_eq, ← Argument.length_plains_add_length_calls,
      Argument.length_eq_of_nodup_variants hnodup]
    simp only [List.length_map, Option.toList_map, Nat.add_assoc]
  · intro refusal
    rw [refuse, readFor_eq_error_of_trimmed_iff htrimmed hne hseparator, hread]
    constructor
    · rintro ⟨⟨defect, hdefect, hrefusal⟩, hkind⟩
      obtain ⟨key, rfl, rfl⟩ := eq_duplicateKey_of_failure hrefusal.symm hkind
      obtain ⟨variant, rfl, hrepeats⟩ := Argument.readVariants_eq_duplicateKey_iff.mp hdefect
      exact ⟨variant, rfl, hrepeats⟩
    · rintro ⟨variant, rfl, hrepeats⟩
      exact ⟨⟨.duplicateKey variant.name,
        Argument.readVariants_eq_duplicateKey_iff.mpr ⟨variant, rfl, hrepeats⟩, rfl⟩, rfl⟩
  · intro failure hfailure
    obtain ⟨defect, hdefect, rfl⟩ :=
      (readFor_eq_error_of_trimmed_iff htrimmed hne hseparator).mp hfailure
    rw [hread] at hdefect
    have hblames : Defect.Blames [] defect := Argument.failsWith_readVariants _ _ defect hdefect
    cases defect with
    | malformed malformation => exact ⟨_, rfl, rfl, .inr rfl⟩
    | duplicateKey key => exact ⟨_, rfl, rfl, .inl rfl⟩
    | tooManyDigits digits => exact absurd hblames.digitLimit_lt_length (by decide)

-- Parentheses in a plain segment, capitals and a blank in a call, and a variant that comes again.
theorem readFor_variants_font :
    ∃ font ∈ Lexicon.standardKeywords, ∃ background ∈ Lexicon.standardKeywords,
      font.shape = .variantPair ∧ font.rules.mixedSegments = true ∧
      background.shape = .variantPair ∧ background.rules.mixedSegments = false ∧
      readFor font "rgb(0; 0); LIGHT ( a ); 15" =
        .ok ⟨font, "rgb(0; 0); LIGHT ( a ); 15", .variants ["rgb(0; 0)", "15"] (some "a") none⟩ ∧
      readFor background "light(a); Light(b)" = refuse (.duplicateKey "background" "light") := by
  have hsegments : topSegments ';' "rgb(0; 0); LIGHT ( a ); 15".toList =
      ["rgb(0; 0)".toList, "LIGHT ( a )".toList, "15".toList] := by decide
  have hrepeated : topSegments ';' "light(a); Light(b)".toList =
      ["light(a)".toList, "Light(b)".toList] := by decide
  refine ⟨Lexicon.standardKeywords[20], by decide, Lexicon.standardKeywords[19], by decide,
    rfl, rfl, rfl, rfl, ?_, ?_⟩
  · have hread := readFor_variants Lexicon.standardKeywords[20] rfl "rgb(0; 0); LIGHT ( a ); 15"
      (by decide) (by decide) (by decide)
    refine (hread.1 _).mpr ⟨[.plain "rgb(0; 0)".toList, .call .light "a".toList,
      .plain "15".toList], rfl, by decide, ?_, by decide, .inl rfl⟩
    rw [hsegments]
    refine .cons ⟨rfl, by decide, by decide⟩ (.cons ⟨"LIGHT".toList, [' '], " a ".toList, ?_⟩
      (.cons ⟨rfl, by decide, by decide⟩ .nil))
    exact ⟨by decide, by decide, by decide, by decide, by decide, by decide⟩
  · have hread := readFor_variants Lexicon.standardKeywords[19] rfl "light(a); Light(b)"
      (by decide) (by decide) (by decide)
    refine ((hread.2.2.1 _).mpr ⟨.light, rfl, by decide, ?_⟩).1
    rw [hrepeated]
    refine ⟨["light(a)".toList], "Light(b)".toList, [], [.call .light "a".toList], "b".toList, rfl,
      .cons ⟨"light".toList, [], "a".toList, ?_⟩ .nil, by decide,
      ⟨"Light".toList, [], "b".toList, ?_⟩, by decide⟩
    · exact ⟨by decide, by decide, by decide, by decide, by decide, by decide⟩
    · exact ⟨by decide, by decide, by decide, by decide, by decide, by decide⟩

end Clause

end ClausePrompt
