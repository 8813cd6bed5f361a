import ClausePrompt.Identifier
import ClausePrompt.Proofs.Text.Pieces

namespace ClausePrompt.Identifier

-- A character of a code: a digit of the alphabet, where letters count in both cases.
def IsSymbol (c : Char) : Prop := c.toUpper ∈ alphabet

theorem isSome_digit?_iff {c : Char} : (digit? c).isSome = true ↔ IsSymbol c := by
  simp [digit?, IsSymbol]

private theorem toUpper_le_seven_ascii :
    ∀ n < 128, (Char.ofNat n).toUpper ≤ '7' ↔ Char.ofNat n ≤ '7' := by
  decide

private theorem toUpper_le_seven_iff {c : Char} : c.toUpper ≤ '7' ↔ c ≤ '7' := by
  by_cases hascii : c.toNat < 128
  · have hchar := toUpper_le_seven_ascii c.toNat hascii
    rwa [Char.ofNat_toNat] at hchar
  · have hself : c.toUpper = c := by
      unfold Char.toUpper
      rw [dif_neg]
      rintro ⟨-, hz⟩
      have hbound : c.toNat ≤ 122 := hz
      omega
    rw [hself]

private theorem digit?_le_seven :
    (alphabet.all fun capital =>
      (alphabet.findIdx? (· == capital)).any (· ≤ 7) == decide (capital ≤ '7')) = true := by
  decide +kernel

theorem any_digit?_le_iff {c : Char} (h : IsSymbol c) :
    (digit? c).any (· ≤ 7) = true ↔ c ≤ '7' := by
  have hcapital := beq_iff_eq.mp (List.all_eq_true.mp digit?_le_seven _ h)
  rw [digit?, hcapital, decide_eq_true_iff, toUpper_le_seven_iff]

-- A code as it is written, without the number that it stands for.
structure HasCodeForm (code : List Char) : Prop where
  length : code.length = 26
  symbols : ∀ c ∈ code, IsSymbol c
  first : ∀ c ∈ code.head?, c ≤ '7'

theorem isCode_iff {code : List Char} : isCode code = true ↔ HasCodeForm code := by
  cases code with
  | nil =>
    constructor
    · intro h
      cases h
    · intro h
      cases h.length
  | cons c rest =>
    have hsymbols : (c :: rest).all (fun c => (digit? c).isSome) = true ↔
        ∀ d ∈ c :: rest, IsSymbol d := by
      rw [List.all_eq_true]
      exact forall₂_congr fun d _ => isSome_digit?_iff
    rw [isCode, Bool.and_eq_true, Bool.and_eq_true, hsymbols, beq_iff_eq, codeLength]
    constructor
    · rintro ⟨⟨hlength, hall⟩, hfirst⟩
      refine ⟨hlength, hall, fun d hd => ?_⟩
      obtain rfl : c = d := by simpa using hd
      exact (any_digit?_le_iff (hall c List.mem_cons_self)).mp hfirst
    · rintro ⟨hlength, hall, hfirst⟩
      exact ⟨⟨hlength, hall⟩, (any_digit?_le_iff (hall c List.mem_cons_self)).mpr (hfirst c rfl)⟩

theorem HasCodeForm.underscore_not_mem {code : List Char} (h : HasCodeForm code) : '_' ∉ code := by
  intro hmem
  exact absurd (h.symbols '_' hmem) (by rw [IsSymbol]; decide)

-- An identifier as it is put together.
def joined : Option String → List Char → String
  | none, code => String.ofList code
  | some label, code => label ++ "_" ++ String.ofList code

theorem toList_joined_some (label : String) (code : List Char) :
    (joined (some label) code).toList = label.toList ++ '_' :: code := by
  simp [joined]

theorem codePart_of_not_mem {id : List Char} (h : '_' ∉ id) : codePart id = id := by
  have hnone : id.dropWhile (· != '_') = [] := by
    rw [List.dropWhile_eq_nil_iff]
    intro c hc
    simpa using ne_of_mem_of_not_mem hc h
  rw [codePart, hnone]

theorem codePart_append {label : List Char} (h : '_' ∉ label) (code : List Char) :
    codePart (label ++ '_' :: code) = code := by
  have hlabel : ∀ c ∈ label, (c != '_') = true := by
    intro c hc
    simpa using ne_of_mem_of_not_mem hc h
  have hcode : (label ++ '_' :: code).dropWhile (· != '_') = '_' :: code := by
    rw [List.dropWhile_append_of_pos hlabel]
    rfl
  rw [codePart, hcode]

-- What a valid identifier is made of. Without a label it is the code alone.
structure Parts where
  label : Option String
  code : List Char
  label_plain : ∀ text ∈ label, '_' ∉ text.toList
  code_form : HasCodeForm code

namespace Parts

def id (parts : Parts) : String := joined parts.label parts.code

theorem codePart_id (parts : Parts) : codePart parts.id.toList = parts.code := by
  obtain ⟨label, code, hlabel, hcode⟩ := parts
  cases label with
  | none =>
    rw [id, joined, String.toList_ofList, codePart_of_not_mem hcode.underscore_not_mem]
  | some label =>
    rw [id, toList_joined_some, codePart_append (hlabel label rfl)]

-- The code starts behind the first underscore, while a label is only read where there is no other.
-- Neither label nor code holds one, so that both cut the identifier at the same place.
theorem label?_id (parts : Parts) : label? parts.id = parts.label := by
  obtain ⟨label, code, hlabel, hcode⟩ := parts
  have hpiece := Text.pieces_eq_singleton hcode.underscore_not_mem
  cases label with
  | none => rw [label?, id, joined, String.toList_ofList, hpiece]
  | some label =>
    rw [label?, id, toList_joined_some, Text.pieces_append_cons, hpiece,
      Text.pieces_eq_singleton (hlabel label rfl)]
    simp

theorem isValid_id (parts : Parts) : isValid parts.id = true := by
  rw [isValid, codePart_id, isCode_iff]
  exact parts.code_form

end Parts

theorem exists_parts_of_isValid {text : String} (h : isValid text = true) :
    ∃ parts : Parts, parts.id = text := by
  rw [isValid, isCode_iff] at h
  by_cases hmem : '_' ∈ text.toList
  · obtain ⟨front, code, htext, hfront⟩ := List.eq_append_cons_of_mem hmem
    obtain ⟨label, rfl⟩ : ∃ label : String, label.toList = front :=
      ⟨String.ofList front, String.toList_ofList⟩
    rw [htext, codePart_append hfront] at h
    refine ⟨⟨some label, code, ?_, h⟩, ?_⟩
    · rintro _ ⟨⟩
      exact hfront
    · rw [← String.toList_inj, Parts.id, toList_joined_some, htext]
  · rw [codePart_of_not_mem hmem] at h
    exact ⟨⟨none, text.toList, nofun, h⟩, String.ofList_toList⟩

-- A text is a valid identifier if it is a code, or a label without an underscore, an underscore
-- and a code. The label that is read off a valid identifier is the one that it was made with, so
-- that label and code give the identifier back.
theorem parts_of_valid (text : String) :
    (isValid text = true ↔ ∃ parts : Parts, parts.id = text) ∧
    (∀ parts : Parts, parts.id = text →
      label? text = parts.label ∧ codePart text.toList = parts.code) ∧
    (isValid text = true → joined (label? text) (codePart text.toList) = text) := by
  have hparts : ∀ parts : Parts, parts.id = text →
      label? text = parts.label ∧ codePart text.toList = parts.code := by
    rintro parts rfl
    exact ⟨parts.label?_id, parts.codePart_id⟩
  refine ⟨⟨exists_parts_of_isValid, ?_⟩, hparts, fun h => ?_⟩
  · rintro ⟨parts, rfl⟩
    exact parts.isValid_id
  · obtain ⟨parts, hid⟩ := exists_parts_of_isValid h
    obtain ⟨hlabel, hcode⟩ := hparts parts hid
    rw [hlabel, hcode]
    exact hid

-- An empty label is a label. Behind two underscores there is no code, whatever follows them.
theorem parts_of_valid_empty_label :
    isValid "_01ARZ3NDEKTSV4RRFFQ69G5FAV" = true ∧
    (∃ parts : Parts, parts.id = "_01ARZ3NDEKTSV4RRFFQ69G5FAV" ∧ parts.label = some "" ∧
      parts.code = "01ARZ3NDEKTSV4RRFFQ69G5FAV".toList) ∧
    joined (label? "_01ARZ3NDEKTSV4RRFFQ69G5FAV")
      (codePart "_01ARZ3NDEKTSV4RRFFQ69G5FAV".toList) = "_01ARZ3NDEKTSV4RRFFQ69G5FAV" ∧
    ∀ parts : Parts, parts.id ≠ "wiz__01ARZ3NDEKTSV4RRFFQ69G5FAV" := by
  have hvalid : isValid "_01ARZ3NDEKTSV4RRFFQ69G5FAV" = true := by decide
  have hinvalid : isValid "wiz__01ARZ3NDEKTSV4RRFFQ69G5FAV" = false := by decide
  obtain ⟨parts, hid⟩ := (parts_of_valid "_01ARZ3NDEKTSV4RRFFQ69G5FAV").1.mp hvalid
  obtain ⟨hlabel, hcode⟩ := (parts_of_valid "_01ARZ3NDEKTSV4RRFFQ69G5FAV").2.1 parts hid
  refine ⟨hvalid, ⟨parts, hid, hlabel.symm, hcode.symm⟩, ?_, fun other hother => ?_⟩
  · exact (parts_of_valid "_01ARZ3NDEKTSV4RRFFQ69G5FAV").2.2 hvalid
  · have hboth := (parts_of_valid "wiz__01ARZ3NDEKTSV4RRFFQ69G5FAV").1.mpr ⟨other, hother⟩
    rw [hinvalid] at hboth
    cases hboth

end ClausePrompt.Identifier
