import ClausePrompt.Proofs.Desk.Direct
import ClausePrompt.Proofs.Prompt.Joined

namespace ClausePrompt.Desk

section Commit

variable (desk : Desk)

theorem edit_of_direct (hdirect : desk.directEnabled = true) (text : String) :
    (desk.edit text).outcome = .ok text ∧
      (desk.edit text).state =
        { desk with draft := text, typing := !Text.allBlank text.toList } := by
  rw [edit, if_pos hdirect]
  exact ⟨rfl, rfl⟩

theorem insertShortcut_of_bound {key : String} {keyword : Keyword}
    (hdirect : desk.directEnabled = true)
    (hkey : desk.sheet.lexicon.byShortcut? key = some keyword) :
    (desk.insertShortcut key).outcome = .ok (extendDraft desk.draft keyword.insertion) ∧
      (desk.insertShortcut key).state =
        { desk with draft := extendDraft desk.draft keyword.insertion, typing := true } := by
  rw [insertShortcut, if_pos hdirect, hkey]
  exact ⟨rfl, rfl⟩

-- A draft that can be read and is not too long becomes the prompt.
theorem finishEditing_of_parse {prompt : Prompt} (hdirect : desk.directEnabled = true)
    (hparse : Prompt.parse desk.sheet.lexicon desk.draft = .ok prompt)
    (hfits : desk.draft.length ≤ desk.sheet.limit) :
    desk.finishEditing.outcome = .ok prompt ∧
      desk.finishEditing.state =
        { desk with sheet := { desk.sheet with prompt }, typing := false } := by
  obtain ⟨houtcome, hstate⟩ := Sheet.load_of_parse hparse hfits
  rw [finishEditing, if_pos hdirect]
  exact ⟨houtcome, by rw [Step.within, hstate]⟩

end Commit

section Shortcut

-- What the key inserts and an argument after it are read as one clause of the keyword.
theorem parse_insertion {lexicon : Lexicon} {keyword : Keyword} {argument : String}
    {clause : Clause} (hread : Clause.read lexicon keyword.id argument = .ok clause) :
    Prompt.parse lexicon (keyword.insertion ++ argument) = .ok ⟨[clause.tidy]⟩ := by
  have hid : ∀ c ∈ keyword.id.toList, Text.isBlank c = false ∧ c ≠ '*' ∧
      c ≠ Argument.clauseSeparator := by
    intro c hc
    exact ⟨Keyword.isBlank_of_mem_id hc, Keyword.ne_of_mem_id hc (by decide),
      Keyword.ne_of_mem_id hc (by decide)⟩
  have hne : keyword.id ≠ "" := by simpa using keyword.id_ne_nil
  have hseparator := Clause.separator_not_mem_of_read hread
  rw [Keyword.insertion, Prompt.parse_written_clause lexicon hne hid hseparator, hread]
  rfl

-- The clause that is begun with a key comes after those of the draft, as soon as it has its
-- argument. A blank draft has none, and the blanks at its end do not matter.
theorem parse_extendDraft {lexicon : Lexicon} {draft argument : String} {prompt : Prompt}
    {keyword : Keyword} {clause : Clause} (hdraft : Prompt.parse lexicon draft = .ok prompt)
    (hread : Clause.read lexicon keyword.id argument = .ok clause) :
    Prompt.parse lexicon (extendDraft draft keyword.insertion ++ argument) =
      .ok ⟨prompt.clauses ++ [clause.tidy]⟩ := by
  have hclause := parse_insertion hread
  have hstem := Prompt.parse_trimEnd lexicon draft
  rw [hdraft] at hstem
  unfold extendDraft
  dsimp only
  cases hblank : Text.allBlank draft.toList with
  | true =>
    have hempty : Text.trimEnd draft.toList = [] := Text.trimEnd_eq_nil_iff.mpr hblank
    rw [hempty] at hstem
    obtain rfl : {} = prompt := Except.ok.inj hstem
    rw [hempty]
    exact hclause
  | false =>
    have hkept : (Text.trimEnd draft.toList).isEmpty = false := by
      simp [List.isEmpty_eq_false_iff, Text.trimEnd_eq_nil_iff, hblank]
    have hbegun : Text.allBlank (keyword.insertion ++ argument).toList = false :=
      Text.allBlank_eq_false_of_mem (c := '*') (by simp [Keyword.insertion]) (by decide)
    have htext : String.ofList (Text.trimEnd draft.toList) ++ Prompt.separator ++
        keyword.insertion ++ argument =
          String.ofList (Text.trimEnd draft.toList) ++ " " ++ "|" ++ " " ++
            (keyword.insertion ++ argument) := by
      simp [Prompt.separator, String.ext_iff]
    have hbefore : Text.allBlank (String.ofList (Text.trimEnd draft.toList)).toList = false := by
      rwa [String.toList_ofList, Text.allBlank_trimEnd]
    rw [hkept, if_neg Bool.false_ne_true, htext,
      Prompt.parse_append_separator hbefore hbegun (by decide) (by decide), hstem, hclause]
    rfl

-- A clause that is begun with its key and ended by hand comes after those of the draft, in
-- whatever state the desk is by then.
theorem finishEditing_of_shortcut (desk : Desk) (hdirect : desk.directEnabled = true)
    (prompt : Prompt) (hdraft : Prompt.parse desk.sheet.lexicon desk.draft = .ok prompt)
    (key : String) (keyword : Keyword) (hkey : desk.sheet.lexicon.byShortcut? key = some keyword)
    (argument : String) (clause : Clause)
    (hread : Clause.read desk.sheet.lexicon keyword.id argument = .ok clause)
    (inserted edited finished : Desk) (hinserted : (desk.insertShortcut key).state = inserted)
    (hedited : (inserted.edit (inserted.draft ++ argument)).state = edited)
    (hfinished : edited.finishEditing.state = finished)
    (hfits : (inserted.draft ++ argument).length ≤ desk.sheet.limit) :
    (desk.insertShortcut key).outcome = .ok inserted.draft ∧
    (inserted.edit (inserted.draft ++ argument)).outcome = .ok (inserted.draft ++ argument) ∧
    ∃ last : Clause, last.keyword = keyword ∧ last.argument = clause.argument ∧
      edited.finishEditing.outcome = .ok ⟨prompt.clauses ++ [last]⟩ ∧
      finished.sheet.prompt = ⟨prompt.clauses ++ [last]⟩ ∧ finished.typing = false := by
  have hkeyword : clause.keyword = keyword :=
    Clause.keyword_of_read_id (List.mem_of_find?_eq_some hkey) hread
  obtain ⟨hinsert, hstate⟩ := insertShortcut_of_bound desk hdirect hkey
  rw [hstate] at hinserted
  subst hinserted
  obtain ⟨hedit, hstate⟩ := edit_of_direct
    { desk with draft := extendDraft desk.draft keyword.insertion, typing := true }
    hdirect (extendDraft desk.draft keyword.insertion ++ argument)
  rw [hstate] at hedited
  subst hedited
  obtain ⟨hfinish, hstate⟩ := finishEditing_of_parse
    { desk with draft := extendDraft desk.draft keyword.insertion ++ argument, typing := _ }
    hdirect (parse_extendDraft hdraft hread) hfits
  rw [hstate] at hfinished
  subst hfinished
  exact ⟨hinsert, hedit, clause.tidy, hkeyword, rfl, hfinish, rfl, rfl⟩

-- The draft ends in blanks, and the key is typed in lower case.
theorem finishEditing_of_shortcut_animate :
    ∃ session desk prompt keyword clause inserted edited finished,
      Session.start { lexicon := .standard }
        [{ id := "colour", text := "Which colour?", keyword := "background" }] 5.0 "wiz_1" =
          .ok session ∧
      run { sheet := { lexicon := .standard }, session } [.edit "*IN* a*b |*for* web \n"] = desk ∧
      Prompt.parse .standard desk.draft = .ok prompt ∧
      Lexicon.standard.byShortcut? "l" = some keyword ∧ keyword.id = "animate" ∧
      Clause.read .standard keyword.id " start(3);\tEnd (5)" = .ok clause ∧
      (desk.insertShortcut "l").state = inserted ∧
      (inserted.edit (inserted.draft ++ " start(3);\tEnd (5)")).state = edited ∧
      edited.finishEditing.state = finished ∧
      edited.draft = "*IN* a*b |*for* web | *animate*  start(3);\tEnd (5)" ∧
      finished.sheet.prompt.text = "*in* a*b | *for* web | *animate* start(3);\tEnd (5)" ∧
      (desk.insertShortcut "l").outcome = .ok inserted.draft ∧
      (inserted.edit (inserted.draft ++ " start(3);\tEnd (5)")).outcome =
        .ok (inserted.draft ++ " start(3);\tEnd (5)") ∧
      ∃ last : Clause, last.keyword = keyword ∧ last.argument = clause.argument ∧
        edited.finishEditing.outcome = .ok ⟨prompt.clauses ++ [last]⟩ ∧
        finished.sheet.prompt = ⟨prompt.clauses ++ [last]⟩ ∧ finished.typing = false := by
  refine ⟨_, _, ⟨[_, _]⟩, _, _, _, _, _, rfl, rfl, rfl, rfl, rfl, rfl, rfl, rfl, rfl, by decide,
    by decide, ?_⟩
  exact finishEditing_of_shortcut _ (by decide) _ rfl "l" _ rfl _ _ rfl _ _ _ rfl rfl rfl
    (by decide)

end Shortcut

section Refresh

variable {desk : Desk}

-- What comes of placing a clause is written into the draft.
theorem place_eq_ok {typed raw : String} {prompt : Prompt}
    (h : (desk.place typed raw).outcome = .ok prompt) :
    desk.directEnabled = true ∧
      (∃ clause, Clause.read desk.sheet.lexicon typed raw = .ok clause ∧
        prompt = desk.sheet.prompt.place clause) ∧
      prompt.length ≤ desk.sheet.limit ∧
      (desk.place typed raw).state =
        { desk with sheet := { desk.sheet with prompt }, draft := prompt.text } := by
  by_cases hdirect : desk.directEnabled = true
  · cases hsheet : (desk.sheet.place typed raw).outcome with
    | error failure =>
      rw [place_of_error hdirect hsheet] at h
      cases hsheet.symm.trans h
    | ok placed =>
      rw [place_of_ok hdirect hsheet] at h ⊢
      obtain rfl : placed = prompt := Except.ok.inj (hsheet.symm.trans h)
      obtain ⟨clause, hread, hfits, hprompt, hstate⟩ := Sheet.place_eq_ok hsheet
      exact ⟨hdirect, ⟨clause, hread, hprompt⟩, hfits, by rw [Step.within, hstate]⟩
  · rw [place, if_neg hdirect] at h
    cases h

-- Whatever is done at a desk, its prompt consists of clauses that were read.
theorem accepted_run (h : desk.sheet.prompt.Accepted desk.sheet.lexicon) (actions : List Action) :
    (desk.run actions).sheet.prompt.Accepted (desk.run actions).sheet.lexicon := by
  obtain ⟨taken, hsheet⟩ := exists_sheet_run desk actions
  rw [hsheet]
  exact Sheet.accepted_run h taken

-- A draft that is the text of the prompt can always be finished, since it is not longer than the
-- prompt. It only loses the blanks around its arguments.
theorem finishEditing_of_text (desk : Desk) {prompt : Prompt} (hdirect : desk.directEnabled = true)
    (haccepted : prompt.Accepted desk.sheet.lexicon) (hfits : prompt.length ≤ desk.sheet.limit)
    (hdraft : desk.draft = prompt.text) :
    desk.finishEditing.outcome = .ok prompt.tidy ∧
      desk.finishEditing.state =
        { desk with sheet := { desk.sheet with prompt := prompt.tidy }, typing := false } := by
  have hparse : Prompt.parse desk.sheet.lexicon desk.draft = .ok prompt.tidy := by
    rw [hdraft, Prompt.parse_text haccepted]
  have hlength : desk.draft.length ≤ desk.sheet.limit := by rwa [hdraft]
  exact finishEditing_of_parse desk hdirect hparse hlength

-- Once a clause is placed the draft is the text of the prompt, and to finish it changes neither,
-- whatever was loaded or typed before. The interview may go on then.
theorem finishEditing_of_place (lexicon : Lexicon) (limit : Int) (taken : List Sheet.Action)
    (session : Session) (actions : List Action) (desk : Desk)
    (hrun : run { sheet := Sheet.run { lexicon, limit } taken, session } actions = desk)
    (typed raw : String) (prompt : Prompt)
    (hplaced : (desk.place typed raw).outcome = .ok prompt)
    (placed finished : Desk) (hstate : (desk.place typed raw).state = placed)
    (hfinished : placed.finishEditing.state = finished) :
    placed.sheet.prompt = prompt ∧ placed.draft = prompt.text ∧
    ∃ again : Prompt, placed.finishEditing.outcome = .ok again ∧
      finished.sheet.prompt = again ∧ again.text = prompt.text ∧
      finished.draft = placed.draft ∧ prompt.equivalent again = true ∧
      finished.interviewEnabled = true := by
  have haccepted : desk.sheet.prompt.Accepted desk.sheet.lexicon := by
    rw [← hrun]
    exact accepted_run (Sheet.accepted_run (Prompt.accepted_empty lexicon) taken) actions
  obtain ⟨hdirect, ⟨clause, hread, hprompt⟩, hfits, hsheet⟩ := place_eq_ok hplaced
  have hnext : prompt.Accepted desk.sheet.lexicon := by
    rw [hprompt]
    exact haccepted.place ⟨typed, raw, hread⟩
  rw [hsheet] at hstate
  subst hstate
  obtain ⟨houtcome, hfinal⟩ := finishEditing_of_text
    { desk with sheet := { desk.sheet with prompt }, draft := prompt.text }
    hdirect hnext hfits rfl
  rw [hfinal] at hfinished
  subst hfinished
  exact ⟨rfl, rfl, prompt.tidy, houtcome, rfl, Prompt.text_tidy prompt, rfl,
    Prompt.equivalent_tidy prompt, rfl⟩

-- The prompt was loaded from a text with one keyword twice, and another draft is begun already.
theorem finishEditing_of_place_in :
    ∃ session desk prompt placed finished,
      Session.start { lexicon := .standard }
        [{ id := "colour", text := "Which colour?", keyword := "background" }] 5.0 "wiz_1" =
          .ok session ∧
      run { sheet := Sheet.run { lexicon := .standard } [.load "*for* web"], session }
        [.edit "*IN*  a |*in* b\n", .finishEditing, .edit "*font*"] = desk ∧
      (desk.place "In" "\t c ").outcome = .ok prompt ∧
      (desk.place "In" "\t c ").state = placed ∧
      placed.finishEditing.state = finished ∧
      prompt.text = "*in* c | *in* b" ∧ placed.typing = true ∧
      placed.sheet.prompt = prompt ∧ placed.draft = prompt.text ∧
      ∃ again : Prompt, placed.finishEditing.outcome = .ok again ∧
        finished.sheet.prompt = again ∧ again.text = prompt.text ∧
        finished.draft = placed.draft ∧ prompt.equivalent again = true ∧
        finished.interviewEnabled = true := by
  refine ⟨_, _, ⟨[_, _]⟩, _, _, rfl, rfl, rfl, rfl, rfl, by decide, by decide, ?_⟩
  exact finishEditing_of_place .standard _ _ _ _ _ rfl "In" "\t c " _ rfl _ _ rfl rfl

end Refresh

end ClausePrompt.Desk
