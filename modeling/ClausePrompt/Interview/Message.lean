import ClausePrompt.Interview.Question
import ClausePrompt.Refusal

namespace ClausePrompt

inductive Speaker where
  | assistant
  | user
  deriving DecidableEq, Repr

def Speaker.name : Speaker → String
  | assistant => "assistant"
  | user => "user"

-- One message of a transcript. No message is empty.
structure Message where
  speaker : Speaker
  content : String
  content_ne : content ≠ "" := by decide
  deriving DecidableEq, Repr

namespace Message

-- A question without a text cannot be asked.
def asking (question : Question) : Outcome Message :=
  if h : question.text = "" then breakOff .blankMessage else .ok ⟨.assistant, question.text, h⟩

private theorem append_ne_empty {a b : String} (h : a ≠ "") : a ++ b ≠ "" := by
  simp [h]

-- The last message of a finished interview hands over the prompt.
def presenting (output : String) : Message :=
  ⟨.assistant, "Here's your ChimPrompt:\n" ++ output, append_ne_empty (by decide)⟩

end Message

-- What the author says to a question.
inductive Response where
  | skipped
  | typed (text : String) (text_ne : text ≠ "")
  deriving DecidableEq, Repr

namespace Response

-- The word that is kept for a question without an answer.
def skippedWord : String := "skipped"

-- The response as it is kept. The word for a skipped question may also be typed, and means the
-- same then.
def record : Response → String
  | skipped => skippedWord
  | typed text _ => text

def message : Response → Message
  | skipped => { speaker := .user, content := "Skipped" }
  | typed text h => ⟨.user, text, h⟩

end Response

end ClausePrompt
