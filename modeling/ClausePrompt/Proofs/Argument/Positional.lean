import ClausePrompt.Lexicon.Standard
import ClausePrompt.Proofs.Clause.Accepted
import ClausePrompt.Proofs.Text.Folding
import ClausePrompt.Proofs.Text.Word

namespace ClausePrompt

namespace Direction

def isJoint (c : Char) : Bool := Text.isBlank c || c == '-'

-- Every run of blanks and hyphens that cannot be made longer is written as one hyphen.
inductive Hyphenates : List Char → List Char → Prop
  | nil : Hyphenates [] []
  | keep {c : Char} {cs ds : List Char} (hc : isJoint c = false) (hcs : Hyphenates cs ds) :
      Hyphenates (c :: cs) (c :: ds)
  | join {joints rest ds : List Char} (hne : joints ≠ []) (hjoints : ∀ c ∈ joints, isJoint c = true)
      (hmaximal : ∀ c ∈ rest.head?, isJoint c = false) (hrest : Hyphenates rest ds) :
      Hyphenates (joints ++ rest) ('-' :: ds)

theorem hyphenate_cons_joint {c : Char} (hc : isJoint c = true) (within : Bool) (cs : List Char) :
    hyphenate within (c :: cs) =
      if within then hyphenate true cs else '-' :: hyphenate true cs := by
  rw [isJoint] at hc
  rw [hyphenate, if_pos hc]

theorem hyphenate_cons_plain {c : Char} (hc : isJoint c = false) (within : Bool)
    (cs : List Char) : hyphenate within (c :: cs) = c :: hyphenate false cs := by
  rw [isJoint] at hc
  rw [hyphenate, if_neg (by simp [hc])]

-- Within a run nothing is written until it ends.
theorem hyphenate_true_append {joints rest : List Char} (hjoints : ∀ c ∈ joints, isJoint c = true)
    (hmaximal : ∀ c ∈ rest.head?, isJoint c = false) :
    hyphenate true (joints ++ rest) = hyphenate false rest := by
  induction joints with
  | nil =>
    cases rest with
    | nil => rfl
    | cons c rest => rw [List.nil_append, hyphenate_cons_plain (hmaximal c rfl),
        hyphenate_cons_plain (hmaximal c rfl)]
  | cons c joints ih =>
    obtain ⟨hc, hjoints⟩ := List.forall_mem_cons.mp hjoints
    rw [List.cons_append, hyphenate_cons_joint hc, if_pos rfl, ih hjoints]

theorem Hyphenates.hyphenate_eq {cs ds : List Char} (h : Hyphenates cs ds) :
    hyphenate false cs = ds := by
  induction h with
  | nil => rfl
  | keep hc _ ih => rw [hyphenate_cons_plain hc, ih]
  | @join joints rest ds hne hjoints hmaximal _ ih =>
    obtain ⟨c, joints, rfl⟩ := List.exists_cons_of_ne_nil hne
    obtain ⟨hc, hjoints⟩ := List.forall_mem_cons.mp hjoints
    rw [List.cons_append, hyphenate_cons_joint hc, hyphenate_true_append hjoints hmaximal, ih]
    rfl

-- A text that is read within a run first has the rest of that run. Both readings are needed for the
-- induction, since each goes over into the other.
private theorem hyphenates_and_run (cs : List Char) :
    Hyphenates cs (hyphenate false cs) ∧
      ∃ joints rest, cs = joints ++ rest ∧ (∀ c ∈ joints, isJoint c = true) ∧
        (∀ c ∈ rest.head?, isJoint c = false) ∧ Hyphenates rest (hyphenate true cs) := by
  induction cs with
  | nil => exact ⟨.nil, [], [], rfl, by simp, by simp, .nil⟩
  | cons c cs ih =>
    obtain ⟨hcs, joints, rest, hcut, hjoints, hmaximal, hrest⟩ := ih
    cases hc : isJoint c with
    | true =>
      have hrun : ∀ d ∈ c :: joints, isJoint d = true := List.forall_mem_cons.mpr ⟨hc, hjoints⟩
      rw [hyphenate_cons_joint hc, hyphenate_cons_joint hc, if_pos rfl, if_neg (by simp)]
      refine ⟨?_, c :: joints, rest, by rw [hcut, List.cons_append], hrun, hmaximal, hrest⟩
      have hjoin := Hyphenates.join (List.cons_ne_nil c joints) hrun hmaximal hrest
      rwa [List.cons_append, ← hcut] at hjoin
    | false =>
      rw [hyphenate_cons_plain hc, hyphenate_cons_plain hc]
      exact ⟨.keep hc hcs, [], c :: cs, rfl, by simp, by simpa using hc, .keep hc hcs⟩

theorem hyphenates_iff {cs ds : List Char} : Hyphenates cs ds ↔ hyphenate false cs = ds :=
  ⟨Hyphenates.hyphenate_eq, fun h => h ▸ (hyphenates_and_run cs).1⟩

instance (cs ds : List Char) : Decidable (Hyphenates cs ds) :=
  decidable_of_iff _ hyphenates_iff.symm

theorem ofName?_eq_some_iff {text : String} {direction : Direction} :
    ofName? text = some direction ↔ direction.name = text := by
  constructor
  · intro h
    simpa using List.find?_some h
  · rintro rfl
    cases direction <;> rfl

end Direction

namespace Argument

-- No parenthesis stands in the text.
def Unenclosed (text : List Char) : Prop := '(' ∉ text ∧ ')' ∉ text

theorem unenclosed_iff {text : List Char} :
    Unenclosed text ↔ ∀ c ∈ text, (c != '(' && c != ')') = true := by
  constructor
  · rintro ⟨hopener, hcloser⟩ c hc
    have hne : c ≠ '(' ∧ c ≠ ')' := ⟨fun h => hopener (h ▸ hc), fun h => hcloser (h ▸ hc)⟩
    simpa using hne
  · intro h
    exact ⟨fun hmem => absurd (h _ hmem) (by decide), fun hmem => absurd (h _ hmem) (by decide)⟩

theorem unenclosed_append {front back : List Char} :
    Unenclosed (front ++ back) ↔ Unenclosed front ∧ Unenclosed back := by
  simp only [unenclosed_iff, List.forall_mem_append]

theorem unenclosed_of_allBlank {blanks : List Char} (h : Text.allBlank blanks = true) :
    Unenclosed blanks :=
  ⟨Text.not_mem_of_allBlank (by decide) h, Text.not_mem_of_allBlank (by decide) h⟩

theorem unenclosed_trim {text : List Char} : Unenclosed (Text.trim text) ↔ Unenclosed text := by
  obtain ⟨before, after, htext, hbefore, hafter⟩ := Text.exists_eq_append_trim text
  conv_rhs => rw [htext]
  simp [unenclosed_append, unenclosed_of_allBlank hbefore, unenclosed_of_allBlank hafter]

-- The target starts at the first parenthesis and goes up to the last character.
theorem splitTarget?_eq_some_iff {text lead body : List Char} :
    splitTarget? text = some (lead, body) ↔
      text = lead ++ '(' :: body ++ [')'] ∧ lead ≠ [] ∧ Unenclosed lead := by
  constructor
  · intro h
    unfold splitTarget? at h
    split at h
    · rename_i c cs body' hlead hbody
      split at h
      · rename_i hlast
        obtain ⟨inner, rfl⟩ := List.getLast?_eq_some_iff.mp hlast
        obtain ⟨rfl, rfl⟩ := Prod.mk.inj (Option.some.inj h)
        have hcut := List.takeWhile_append_dropWhile (p := fun c => c != '(' && c != ')') (l := text)
        rw [hlead, hbody] at hcut
        refine ⟨by simpa using hcut.symm, List.cons_ne_nil c cs, unenclosed_iff.mpr ?_⟩
        rw [← hlead]
        exact fun d => List.mem_takeWhile_imp
      · cases h
    · cases h
  · rintro ⟨rfl, hne, hlead⟩
    have hopener : ∀ c ∈ ('(' :: body ++ [')']).head?, (c != '(' && c != ')') = false := by
      intro c hc
      obtain rfl : '(' = c := by simpa using hc
      decide
    have hlead := unenclosed_iff.mp hlead
    obtain ⟨c, cs, rfl⟩ := List.exists_cons_of_ne_nil hne
    have htake := Text.takeWhile_append_of_head hlead hopener
    have hdrop := Text.dropWhile_append_of_head hlead hopener
    rw [List.append_assoc, splitTarget?, htake, hdrop]
    simp

-- The word `within` in any case and the blanks after it, or nothing.
def IsWithin (within : Bool) (lead : List Char) : Prop :=
  within = false ∧ lead = [] ∨
    within = true ∧ ∃ word blanks, lead = word ++ blanks ∧
      word.map Text.foldLetter = "within".toList ∧ blanks ≠ [] ∧ Text.allBlank blanks = true

-- A phrase that gives a direction and a target in parentheses. The word `within` may stand first.
def IsPosition (text : List Char) (direction : Direction) (target : List Char) (within : Bool) :
    Prop :=
  ∃ lead phrase blanks body, text = lead ++ phrase ++ blanks ++ '(' :: body ++ [')'] ∧
    IsWithin within lead ∧ Unenclosed phrase ∧ Text.allBlank blanks = true ∧ Unenclosed body ∧
    Direction.Hyphenates (Text.lower (Text.trim phrase)) direction.name.toList ∧
    target = Text.trim body ∧ target ≠ []

-- What is dropped from a phrase is the word with a blank, or nothing.
theorem exists_isWithin (lead : List Char) :
    ∃ front, lead = front ++ (dropWithin lead).2 ∧ IsWithin (dropWithin lead).1 front := by
  unfold dropWithin
  split
  · rename_i blank c rest hdrop
    split
    · rename_i hblank
      obtain ⟨word, rfl, hword⟩ := Text.dropWord?_eq_some_iff.mp hdrop
      refine ⟨word ++ [blank], by simp, .inr ⟨rfl, word, [blank], rfl, hword, by simp, ?_⟩⟩
      simpa [Text.allBlank] using hblank
    · exact ⟨[], rfl, .inl ⟨rfl, rfl⟩⟩
  · exact ⟨[], rfl, .inl ⟨rfl, rfl⟩⟩

-- The characters of a word that is read without regard to case are no parentheses.
theorem IsWithin.unenclosed {within : Bool} {lead : List Char} (h : IsWithin within lead) :
    Unenclosed lead := by
  obtain ⟨-, rfl⟩ | ⟨-, word, blanks, rfl, hword, -, hblanks⟩ := h
  · exact ⟨List.not_mem_nil, List.not_mem_nil⟩
  · refine unenclosed_append.mpr ⟨?_, unenclosed_of_allBlank hblanks⟩
    have hletters : ∀ c ∈ word, Text.isWord c = true := by
      intro c hc
      have hmem : Text.foldLetter c ∈ "within".toList := hword ▸ List.mem_map_of_mem hc
      exact Text.isWord_of_foldLetter
        (Text.all_isSmall_iff.mp (by decide) _ hmem)
    exact ⟨fun hmem => absurd (hletters _ hmem) (by decide),
      fun hmem => absurd (hletters _ hmem) (by decide)⟩

section Phrase

variable {phrase : List Char} {direction : Direction}

theorem phrase_ne_nil (h : Direction.Hyphenates (Text.lower (Text.trim phrase))
    direction.name.toList) : phrase ≠ [] := by
  rintro rfl
  have hname : [] = direction.name.toList := h.hyphenate_eq
  cases direction <;> exact absurd hname (by decide)

-- No direction starts like the word `within`.
theorem foldLetter_ne_of_hyphenates {c : Char} {cs : List Char}
    (h : Direction.Hyphenates (Text.lower (Text.trim (c :: cs))) direction.name.toList) :
    Text.foldLetter c ≠ 'w' := by
  intro hw
  have hsmall : Text.IsSmall (Text.foldLetter c) := by rw [hw]; decide
  have hlower := Text.lowerChar_of_foldLetter hsmall (by rw [hw]; decide) (by rw [hw]; decide)
  have hsigma : c ≠ 'Σ' := by
    rintro rfl
    exact absurd hw (by decide)
  obtain ⟨rest, hrest⟩ := Text.exists_trim_cons
    (Text.isBlank_of_isWord (Text.isWord_of_foldLetter hsmall)) cs
  have hname := h.hyphenate_eq
  rw [hrest, Text.lower, Text.lowerFrom, if_neg hsigma, hlower, hw, List.singleton_append,
    Direction.hyphenate_cons_plain (by decide)] at hname
  have hhead := congrArg List.head? hname
  cases direction <;> exact absurd hhead (by simp [Direction.name])

end Phrase

-- A phrase that gives a direction is found behind the word, if the word is there.
theorem exists_dropWithin {within : Bool} {lead phrase blanks : List Char} {direction : Direction}
    (hlead : IsWithin within lead) (hblanks : Text.allBlank blanks = true)
    (hdirection : Direction.Hyphenates (Text.lower (Text.trim phrase)) direction.name.toList) :
    ∃ rest, dropWithin (lead ++ phrase ++ blanks) = (within, rest) ∧
      Text.trim rest = Text.trim phrase := by
  obtain ⟨c, cs, rfl⟩ := List.exists_cons_of_ne_nil (phrase_ne_nil hdirection)
  obtain ⟨rfl, rfl⟩ | ⟨rfl, word, gap, rfl, hword, hgap, hgapBlank⟩ := hlead
  · refine ⟨c :: cs ++ blanks, ?_, Text.trim_append_right _ hblanks⟩
    have hnone : Text.dropWord? "within".toList (c :: cs ++ blanks) = none := by
      rw [Option.eq_none_iff_forall_ne_some]
      intro rest hrest
      obtain ⟨front, htext, hfront⟩ := Text.dropWord?_eq_some_iff.mp hrest
      cases front with
      | nil => cases hfront
      | cons d front =>
        obtain ⟨rfl, -⟩ := List.cons.inj htext
        exact foldLetter_ne_of_hyphenates hdirection (List.cons.inj hfront).1
    rw [List.nil_append, dropWithin, hnone]
  · obtain ⟨blank, gap, rfl⟩ := List.exists_cons_of_ne_nil hgap
    obtain ⟨hblank, hgap⟩ := List.forall_mem_cons.mp (Text.allBlank_iff.mp hgapBlank)
    have hgap := Text.allBlank_iff.mpr hgap
    obtain ⟨d, rest, hrest⟩ :=
      List.exists_cons_of_ne_nil (List.append_ne_nil_of_right_ne_nil gap (List.cons_ne_nil c (cs ++ blanks)))
    have hdrop : Text.dropWord? "within".toList (word ++ blank :: gap ++ c :: cs ++ blanks) =
        some (blank :: d :: rest) := by
      refine Text.dropWord?_eq_some_iff.mpr ⟨word, ?_, hword⟩
      rw [← hrest]
      simp
    refine ⟨d :: rest, by rw [dropWithin, hdrop]; simp [hblank], ?_⟩
    rw [← hrest, Text.trim_append_left _ hgap, ← List.cons_append, Text.trim_append_right _ hblanks]

theorem readPositional_eq_ok_iff {text : List Char} {argument : Argument} :
    readPositional text = .ok argument ↔
      ∃ direction target within, argument = .positional direction (String.ofList target) within ∧
        IsPosition text direction target within := by
  constructor
  · intro h
    unfold readPositional at h
    split at h
    · split_ifs at h <;> cases h
    · rename_i lead body hsplit
      obtain ⟨rfl, -, hlead⟩ := splitTarget?_eq_some_iff.mp hsplit
      obtain ⟨front, hcut, hwithin⟩ := exists_isWithin lead
      dsimp only at h
      split at h
      · cases h
      · rename_i direction hname
        have hname := congrArg String.toList (Direction.ofName?_eq_some_iff.mp hname)
        rw [String.toList_ofList] at hname
        split_ifs at h with hempty henclosed
        · cases h
        · cases h
        · rw [hcut] at hlead
          refine ⟨direction, Text.trim body, (dropWithin lead).1, (Except.ok.inj h).symm, front,
            (dropWithin lead).2, [], body, by rw [List.append_nil, ← hcut], hwithin,
            (unenclosed_append.mp hlead).2, rfl, unenclosed_trim.mp (unenclosed_iff.mpr ?_),
            Direction.hyphenates_iff.mpr hname.symm, rfl, by simpa using hempty⟩
          simpa using henclosed
  · rintro ⟨direction, target, within, rfl, lead, phrase, blanks, body, rfl, hlead, hphrase,
      hblanks, hbody, hdirection, rfl, htarget⟩
    have hfront : Unenclosed (lead ++ phrase ++ blanks) :=
      unenclosed_append.mpr
        ⟨unenclosed_append.mpr ⟨hlead.unenclosed, hphrase⟩, unenclosed_of_allBlank hblanks⟩
    have hne : lead ++ phrase ++ blanks ≠ [] := by simp [phrase_ne_nil hdirection]
    have hsplit : splitTarget? (lead ++ phrase ++ blanks ++ '(' :: body ++ [')']) =
        some (lead ++ phrase ++ blanks, body) :=
      splitTarget?_eq_some_iff.mpr ⟨rfl, hne, hfront⟩
    obtain ⟨rest, hdrop, hrest⟩ := exists_dropWithin hlead hblanks hdirection
    have hname : Direction.ofName? (String.ofList
        (Direction.hyphenate false (Text.lower (Text.trim phrase)))) = some direction := by
      rw [hdirection.hyphenate_eq, String.ofList_toList]
      exact Direction.ofName?_eq_some_iff.mpr rfl
    have hopen : ¬(Text.trim body).any (fun c => c == '(' || c == ')') = true := by
      simpa using unenclosed_iff.mp (unenclosed_trim.mpr hbody)
    have htarget : ¬(Text.trim body).isEmpty = true := by simpa using htarget
    simp only [readPositional, hsplit, hdrop, hrest, hname, if_neg htarget, if_neg hopen]

-- However a text is taken apart, it says the same.
theorem IsPosition.unique {text target target' : List Char} {direction direction' : Direction}
    {within within' : Bool} (h : IsPosition text direction target within)
    (h' : IsPosition text direction' target' within') :
    direction = direction' ∧ target = target' ∧ within = within' := by
  have hread := readPositional_eq_ok_iff.mpr ⟨direction, target, within, rfl, h⟩
  have hread' := readPositional_eq_ok_iff.mpr ⟨direction', target', within', rfl, h'⟩
  obtain ⟨hdirection, htarget, hwithin⟩ :=
    Argument.positional.inj (Except.ok.inj (hread.symm.trans hread'))
  exact ⟨hdirection, String.ofList_injective htarget, hwithin⟩

end Argument

namespace Clause

-- A positional reference is read exactly if its text can be taken apart into the word `within` or
-- nothing, a phrase that is a direction once it is trimmed, put in lower case and hyphenated, and a
-- target in parentheses. There are never two ways to do so that say different things.
theorem readFor_positional (keyword : Keyword) (hshape : keyword.shape = .positionalReference)
    (text : String) (htrimmed : Text.trimmed text = text) (hne : text ≠ "")
    (hseparator : Argument.clauseSeparator ∉ text.toList) :
    (∀ clause, readFor keyword text = .ok clause ↔
      ∃ direction target within,
        clause = ⟨keyword, text, .positional direction (String.ofList target) within⟩ ∧
        Argument.IsPosition text.toList direction target within) ∧
    ∀ cs direction target within direction' target' within',
      Argument.IsPosition cs direction target within →
      Argument.IsPosition cs direction' target' within' →
      direction = direction' ∧ target = target' ∧ within = within' := by
  refine ⟨fun clause => ?_, fun _ _ _ _ _ _ _ => Argument.IsPosition.unique⟩
  have hread : Argument.readShape keyword.shape keyword.rules text.toList =
      Argument.readPositional text.toList := by rw [hshape]; rfl
  rw [readFor_eq_ok_of_trimmed_iff htrimmed hne hseparator, hread]
  constructor
  · rintro ⟨argument, rfl, hargument⟩
    obtain ⟨direction, target, within, rfl, hposition⟩ :=
      Argument.readPositional_eq_ok_iff.mp hargument
    exact ⟨direction, target, within, rfl, hposition⟩
  · rintro ⟨direction, target, within, rfl, hposition⟩
    exact ⟨_, rfl, Argument.readPositional_eq_ok_iff.mpr
      ⟨direction, target, within, rfl, hposition⟩⟩

-- A dotted capital letter in `within`, blanks and a hyphen between the two words of a direction, and
-- brackets inside the target.
theorem readFor_positional_nextto :
    ∃ keyword ∈ Lexicon.standardKeywords, keyword.id = "nextto" ∧
      keyword.shape = .positionalReference ∧
      readFor keyword "WİTHIN  Bottom - RIGHT(checkout [page )" = .ok ⟨keyword,
        "WİTHIN  Bottom - RIGHT(checkout [page )", .positional .bottomRight "checkout [page" true⟩ ∧
      ∀ direction target within,
        Argument.IsPosition "WİTHIN  Bottom - RIGHT(checkout [page )".toList direction target within →
        direction = .bottomRight ∧ target = "checkout [page".toList ∧ within = true := by
  have hposition : Argument.IsPosition "WİTHIN  Bottom - RIGHT(checkout [page )".toList .bottomRight
      "checkout [page".toList true := by
    refine ⟨"WİTHIN  ".toList, "Bottom - RIGHT".toList, [], "checkout [page ".toList, by decide,
      .inr ⟨rfl, "WİTHIN".toList, "  ".toList, by decide, by decide, by decide, by decide⟩,
      ⟨by decide, by decide⟩, rfl, ⟨by decide, by decide⟩, ?_, by decide, by decide⟩
    exact Direction.hyphenates_iff.mpr (by decide)
  have hread := readFor_positional Lexicon.standardKeywords[16] rfl
    "WİTHIN  Bottom - RIGHT(checkout [page )" (by decide) (by decide) (by decide)
  refine ⟨_, List.getElem_mem _, rfl, rfl, (hread.1 _).mpr ⟨_, _, _, rfl, hposition⟩, ?_⟩
  intro direction target within hother
  exact hread.2 _ _ _ _ _ _ _ hother hposition

end Clause

end ClausePrompt
