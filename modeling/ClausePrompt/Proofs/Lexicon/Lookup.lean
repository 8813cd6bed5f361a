import ClausePrompt.Lexicon
import ClausePrompt.Proofs.OrderedMap
import ClausePrompt.Proofs.Text.Casing
import ClausePrompt.Proofs.Text.Trim

namespace ClausePrompt

-- The letters that the ids of keywords are made of.
private def isIdLetter (c : Char) : Prop := 'a' ≤ c ∧ c ≤ 'z'

private theorem toNat_of_isIdLetter {c : Char} (h : isIdLetter c) :
    97 ≤ c.toNat ∧ c.toNat ≤ 122 := by
  obtain ⟨ha, hz⟩ := h
  exact ⟨ha, hz⟩

private theorem isBlank_of_isIdLetter {c : Char} (h : isIdLetter c) : Text.isBlank c = false := by
  obtain ⟨ha, hz⟩ := toNat_of_isIdLetter h
  simp only [Text.isBlank, Text.inRanges, Text.blankRanges, List.any_cons, List.any_nil]
  simp
  omega

private theorem toLower_of_isIdLetter {c : Char} (h : isIdLetter c) : c.toLower = c := by
  obtain ⟨ha, hz⟩ := toNat_of_isIdLetter h
  unfold Char.toLower
  rw [dif_neg]
  rintro ⟨-, hle⟩
  have : c.toNat ≤ 90 := hle
  omega

private theorem lowerFrom_of_isIdLetter (after : Bool) {cs : List Char}
    (h : ∀ c ∈ cs, isIdLetter c) : Text.lowerFrom after cs = cs := by
  induction cs generalizing after with
  | nil => rfl
  | cons c cs ih =>
    obtain ⟨hc, hcs⟩ := List.forall_mem_cons.mp h
    obtain ⟨ha, hz⟩ := toNat_of_isIdLetter hc
    have hsigma : c ≠ 'Σ' := by
      rintro rfl
      exact absurd hz (by decide)
    rw [Text.lowerFrom, if_neg hsigma, ih _ hcs, Text.lowerChar, if_pos (by omega),
      toLower_of_isIdLetter hc]
    rfl

namespace Keyword

theorem id_ne_nil (keyword : Keyword) : keyword.id.toList ≠ [] := by
  have h := keyword.id_valid
  simp [isKeywordId] at h
  simpa using h.1

private theorem isIdLetter_of_mem_id {keyword : Keyword} {c : Char}
    (h : c ∈ keyword.id.toList) : isIdLetter c := by
  have hid := keyword.id_valid
  simp [isKeywordId] at hid
  exact hid.2 c h

theorem isBlank_of_mem_id {keyword : Keyword} {c : Char} (h : c ∈ keyword.id.toList) :
    Text.isBlank c = false :=
  isBlank_of_isIdLetter (isIdLetter_of_mem_id h)

-- An id has no sign that marks a clause in a text.
theorem not_mem_id_of_lt (keyword : Keyword) {c : Char} (hc : c.toNat < 97 ∨ 122 < c.toNat) :
    c ∉ keyword.id.toList := by
  intro hmem
  obtain ⟨ha, hz⟩ := toNat_of_isIdLetter (isIdLetter_of_mem_id hmem)
  omega

theorem ne_of_mem_id {keyword : Keyword} {c d : Char} (hc : c ∈ keyword.id.toList)
    (hd : d.toNat < 97 ∨ 122 < d.toNat) : c ≠ d := by
  rintro rfl
  exact keyword.not_mem_id_of_lt hd hc

end Keyword

namespace Lexicon

-- An id is its own spelling.
@[simp] theorem spelling_id (keyword : Keyword) : spelling keyword.id = keyword.id := by
  have htrim : Text.trim keyword.id.toList = keyword.id.toList :=
    Text.trim_eq_self (fun c hc => Keyword.isBlank_of_mem_id (List.mem_of_mem_head? hc))
      (fun c hc => Keyword.isBlank_of_mem_id (List.mem_of_mem_getLast? hc))
  rw [spelling, htrim, Text.lower, lowerFrom_of_isIdLetter false
    (fun c hc => Keyword.isIdLetter_of_mem_id hc), String.ofList_toList]

theorem find?_eq_some_iff {lexicon : Lexicon} {typed : String} {keyword : Keyword} :
    lexicon.find? typed = some keyword ↔
      keyword ∈ lexicon.keywords ∧ keyword.id = spelling typed :=
  find?_eq_some_iff_of_nodup lexicon.ids_nodup

theorem byShortcut?_eq_some_iff {lexicon : Lexicon} {key : String} {keyword : Keyword} :
    lexicon.byShortcut? key = some keyword ↔
      keyword ∈ lexicon.keywords ∧ keyword.shortcut.binding = Text.upper key.toList :=
  find?_eq_some_iff_of_nodup lexicon.bindings_nodup

theorem resolve_eq_ok_iff {lexicon : Lexicon} {typed : String} {keyword : Keyword} :
    lexicon.resolve typed = .ok keyword ↔
      keyword ∈ lexicon.keywords ∧ keyword.id = spelling typed := by
  rw [← find?_eq_some_iff, resolve]
  cases lexicon.find? typed <;> simp

theorem resolve_id {lexicon : Lexicon} {keyword : Keyword} (h : keyword ∈ lexicon.keywords) :
    lexicon.resolve keyword.id = .ok keyword :=
  resolve_eq_ok_iff.mpr ⟨h, (spelling_id keyword).symm⟩

-- An id is found under any spelling of it, and all of them are equally long.
theorem length_id_of_resolve {lexicon : Lexicon} {typed : String} {keyword : Keyword}
    (h : lexicon.resolve typed = .ok keyword) :
    keyword.id.length = (Text.trim typed.toList).length := by
  obtain ⟨-, hid⟩ := resolve_eq_ok_iff.mp h
  have hdot : '\u0307' ∉ keyword.id.toList := keyword.not_mem_id_of_lt (by decide)
  rw [hid, spelling, String.toList_ofList] at hdot
  rw [hid, spelling, String.length_ofList, Text.lower, Text.length_lowerFrom hdot]

end Lexicon

end ClausePrompt
