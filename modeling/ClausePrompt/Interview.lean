import ClausePrompt.Interview.Message
import ClausePrompt.OrderedMap
import ClausePrompt.Prompt.Written

namespace ClausePrompt

-- Questions that are asked one after another. The answers that are kept become a prompt, whose
-- text is the result.
structure Interview where
  questions : List Question
  index : Nat := 0
  -- what is kept for a question, by the question's id
  answers : OrderedMap String String := .empty
  transcript : List Message
  result : Option String := none
  index_lt : index < questions.length
  deriving DecidableEq, Repr

namespace Interview

-- How answers are read, and how long the prompt may become.
structure Terms where
  lexicon : Lexicon
  lowercase : Bool := true
  limit : Int := 10000

def start : List Question → Outcome Interview
  | [] => breakOff .noQuestions
  | question :: rest =>
    (Message.asking question).map fun message =>
      { questions := question :: rest
        transcript := [message]
        index_lt := Nat.zero_lt_succ rest.length }

def current (interview : Interview) : Question :=
  interview.questions.get ⟨interview.index, interview.index_lt⟩

def isLast (interview : Interview) : Bool := interview.index + 1 == interview.questions.length

theorem isLast_iff {interview : Interview} :
    interview.isLast = true ↔ interview.index + 1 = interview.questions.length :=
  beq_iff_eq

-- A question that is not the last one has one after it.
theorem index_succ_lt {interview : Interview} (h : interview.isLast = false) :
    interview.index + 1 < interview.questions.length := by
  have hindex := interview.index_lt
  have hne : interview.index + 1 ≠ interview.questions.length := beq_eq_false_iff_ne.mp h
  omega

def completed (interview : Interview) : Bool := interview.result.isSome

def canSkip (interview : Interview) : Bool := !interview.completed && !interview.isLast

def canGoBack (interview : Interview) : Bool := !interview.completed && 0 < interview.index

-- The answer without the blanks around it, and in lower case if the terms and the question ask
-- for that.
def normalize (terms : Terms) (question : Question) (answer : String) : String :=
  let text := Text.trim answer.toList
  String.ofList (if terms.lowercase && question.lowercase then Text.lower text else text)

def readAnswer (terms : Terms) (question : Question) (answer : String) : Outcome Clause :=
  Clause.read terms.lexicon question.keyword (normalize terms question answer)

-- Adds the clause of one question. A question that is not answered, or was skipped, adds nothing.
def placeAnswer (terms : Terms) (answers : OrderedMap String String) (prompt : Prompt)
    (question : Question) : Outcome Prompt :=
  match answers.get? question.id with
  | none => .ok prompt
  | some answer =>
    if answer = "" ∨ answer = Response.skippedWord then .ok prompt
    else (readAnswer terms question answer).map prompt.place

-- The prompt that the kept answers make, in the order of the questions.
def toPrompt (terms : Terms) (questions : List Question) (answers : OrderedMap String String) :
    Outcome Prompt :=
  questions.foldlM (placeAnswer terms answers) {}

-- A blank answer skips a question that is optional. Any other answer has to be an argument of the
-- question's keyword.
def respond (terms : Terms) (question : Question) (answer : String) : Outcome Response :=
  let text := Text.trimmed answer
  if h : text = "" then
    if question.required then refuse (.answerRequired question.id) else .ok .skipped
  else
    (readAnswer terms question text).map fun _ => .typed text h

def record (interview : Interview) (response : Response) : OrderedMap String String :=
  interview.answers.insert interview.current.id response.record

-- Keeps a response and asks the next question.
def follow (interview : Interview) (response : Response) (h : interview.isLast = false) :
    Outcome Interview :=
  have hnext := index_succ_lt h
  (Message.asking interview.questions[interview.index + 1]).map fun message =>
    { interview with
      index := interview.index + 1
      answers := interview.record response
      transcript := interview.transcript ++ [response.message, message]
      index_lt := hnext }

-- Keeps the last response and makes the prompt.
def finish (terms : Terms) (interview : Interview) (response : Response) : Outcome Interview :=
  let answers := interview.record response
  match toPrompt terms interview.questions answers with
  | .error failure => .error failure
  | .ok prompt =>
    if terms.limit < prompt.length then
      refuse (.malformed (some interview.current.keyword) (Prompt.wouldExceed terms.limit))
    else
      .ok { interview with
        answers
        transcript := interview.transcript ++ [response.message, .presenting prompt.text]
        result := some prompt.text }

-- A finished interview takes no further move.
def finished : Refusal := .invalidTransition "session completed, waiting for reset"

-- Answers the current question.
def advance (terms : Terms) (interview : Interview) (answer : String) : Outcome Interview :=
  if interview.completed then refuse finished
  else match respond terms interview.current answer with
    | .error failure => .error failure
    | .ok response =>
      if h : interview.isLast = false then interview.follow response h
      else interview.finish terms response

-- Leaves the current question without an answer, even if it asks for one. The last question
-- cannot be left like that.
def skip (interview : Interview) : Outcome Interview :=
  if interview.completed then refuse finished
  else if h : interview.isLast = true then
    refuse (.invalidTransition "the last question cannot be skipped")
  else interview.follow .skipped (Bool.eq_false_iff.mpr h)

-- Asks the previous question again. What is kept for it and for later questions stays.
def back (interview : Interview) : Outcome Interview :=
  if interview.completed then refuse finished
  else if interview.index = 0 then refuse (.invalidTransition "already at the first question")
  else
    have h : interview.index - 1 < interview.questions.length :=
      Nat.lt_of_le_of_lt (Nat.sub_le _ _) interview.index_lt
    (Message.asking interview.questions[interview.index - 1]).map fun message =>
      { interview with
        index := interview.index - 1
        transcript := interview.transcript ++ [message]
        index_lt := h }

end Interview

end ClausePrompt
