import ClausePrompt.Journal.Step
import ClausePrompt.Prompt.Written

namespace ClausePrompt

-- The prompt of one authoring context, which may not become longer than its limit.
structure Sheet where
  lexicon : Lexicon
  limit : Int := 10000
  prompt : Prompt := {}

namespace Sheet

-- A clause that is not taken counts against the keyword it was meant for.
def reject (sheet : Sheet) (keyword : String) (refusal : Refusal) : Step Sheet Prompt :=
  { outcome := refuse refusal
    state := sheet
    log := [.clauseRejected keyword refusal.kind refusal.reason]
    marks := [.count (.clause keyword .rejected), .count (.failure refusal.kind .assembler)] }

def exceeds (limit : Int) : String := "prompt exceeds " ++ toString limit ++ " characters"

-- Puts one clause into the prompt: in place of the first one with its keyword, or at the end.
def place (sheet : Sheet) (typed raw : String) : Step Sheet Prompt :=
  match Clause.read sheet.lexicon typed raw with
  | .error (.broken fault) => .failed sheet (.broken fault)
  | .error (.refused refusal) => sheet.reject typed refusal
  | .ok clause =>
    let id := clause.keyword.id
    let updated := sheet.prompt.place clause
    if sheet.limit < updated.length then
      sheet.reject id (.malformed (some id) (Prompt.wouldExceed sheet.limit))
    else
      let replaced := sheet.prompt.contains id
      { outcome := .ok updated
        state := { sheet with prompt := updated }
        log := [if replaced then .clauseReplaced id else .clauseAppended id]
        marks := [.count (.clause id (if replaced then .replaced else .appended))] }

-- Replaces the whole prompt. The limit is on the text as it was given.
def load (sheet : Sheet) (text : String) : Step Sheet Prompt :=
  if sheet.limit < text.length then
    { outcome := refuse (.malformed none (exceeds sheet.limit))
      state := sheet
      log := [.promptOversized text.length sheet.limit]
      marks := [.count (.parse false)] }
  else match Prompt.parse sheet.lexicon text with
    | .error (.broken fault) => .failed sheet (.broken fault)
    | .error (.refused refusal) =>
      { outcome := refuse refusal
        state := sheet
        log := [.promptRejected refusal.kind refusal.message]
        marks := [.count (.parse false), .count (.failure refusal.kind .codec)] }
    | .ok prompt =>
      { outcome := .ok prompt
        state := { sheet with prompt }
        log := [.promptLoaded prompt.clauses.length]
        marks := [.count (.parse true)] }

def clear (sheet : Sheet) : Sheet := { sheet with prompt := {} }

end Sheet

end ClausePrompt
