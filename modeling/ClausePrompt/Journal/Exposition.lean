import ClausePrompt.Journal.Metrics

namespace ClausePrompt

-- One labelled number, with its labels in the order of their names.
structure Sample where
  name : String
  labels : List (String × String)
  value : Nat
  deriving DecidableEq, Repr

-- A family of samples as it is announced in the exposition.
structure Family where
  name : String
  help : String
  type : String

namespace Metrics

def clausesName : String := "chimprompt_clauses_total"

def parsesName : String := "chimprompt_parses_total"

def movesName : String := "chimprompt_wizard_transitions_total"

def completionsName : String := "chimprompt_wizard_completions_total"

def snippetsName : String := "chimprompt_snippets"

def failuresName : String := "chimprompt_errors_total"

def families : List Family := [
  ⟨clausesName, "Clause append/replace attempts", "counter"⟩,
  ⟨parsesName, "Prompt parse attempts", "counter"⟩,
  ⟨movesName, "Wizard transitions", "counter"⟩,
  ⟨completionsName, "Wizard sessions that produced a prompt", "counter"⟩,
  ⟨snippetsName, "Saved snippets currently stored", "gauge"⟩,
  ⟨failuresName, "Total number of errors", "counter"⟩,
  ⟨"chimprompt_uptime_seconds", "Engine uptime in seconds", "gauge"⟩]

def Count.sample (value : Nat) : Count → Sample
  | .clause keyword placement =>
    ⟨clausesName, [("keyword", keyword), ("status", placement.name)], value⟩
  | .parse accepted =>
    ⟨parsesName, [("status", if accepted then "success" else "error")], value⟩
  | .move move accepted =>
    ⟨movesName, [("action", move.name), ("status", if accepted then "success" else "rejected")],
      value⟩
  | .completion => ⟨completionsName, [], value⟩
  | .failure kind component =>
    ⟨failuresName, [("component", component.name), ("error_type", kind.name)], value⟩

-- Texts are compared by code point, and a list of texts from its first text on.
def textsLe : List String → List String → Bool
  | [], _ => true
  | _ :: _, [] => false
  | a :: as, b :: bs => if a < b then true else if b < a then false else textsLe as bs

def Sample.key (sample : Sample) : List String :=
  sample.name :: sample.labels.flatMap fun (name, value) => [name, value]

-- Every sample with its labels. Only the completions have no labels, and so they are there before
-- the first one.
def samples (metrics : Metrics) : List Sample :=
  let labelled := metrics.counts.entries.filter (·.1 ≠ .completion)
  let all := labelled.map (fun (count, value) => Count.sample value count) ++
    [Count.sample (metrics.count .completion) .completion] ++
    metrics.stored.entries.map fun (kind, number) => ⟨snippetsName, [("kind", kind.name)], number⟩
  all.mergeSort fun a b => textsLe (Sample.key a) (Sample.key b)

def escapeLabel : List Char → List Char
  | [] => []
  | '\\' :: cs => '\\' :: '\\' :: escapeLabel cs
  | '"' :: cs => '\\' :: '"' :: escapeLabel cs
  | '\n' :: cs => '\\' :: 'n' :: escapeLabel cs
  | c :: cs => c :: escapeLabel cs

def labelText (label : String × String) : String :=
  label.1 ++ "=\"" ++ String.ofList (escapeLabel label.2.toList) ++ "\""

-- A whole number with one place. From a million on it is written with an exponent, and the zeros
-- at the end of the mantissa are left out together with its point.
def numberText (n : Nat) : String :=
  let digits := (Nat.repr n).toList
  if digits.length ≤ 6 then String.ofList digits ++ ".0"
  else
    let mantissa := digits.take 1 ++ '.' :: digits.drop 1 ++ ['0']
    let kept := (mantissa.reverse.dropWhile fun c => c == '0' || c == '.').reverse
    String.ofList kept ++ "e+0" ++ toString (digits.length - 1)

def sampleLine (sample : Sample) : String :=
  let labels := match sample.labels with
    | [] => ""
    | labels => "\x7b" ++ ",".intercalate (labels.map labelText) ++ "\x7d"
  sample.name ++ labels ++ " " ++ numberText sample.value

-- The lines of the exposition, sorted. The uptime is announced, but its value is left out.
def exposition (metrics : Metrics) : List String :=
  let announced := families.flatMap fun family =>
    ["# HELP " ++ family.name ++ " " ++ family.help, "# TYPE " ++ family.name ++ " " ++ family.type]
  (announced ++ metrics.samples.map sampleLine).mergeSort fun a b => textsLe [a] [b]

end Metrics

end ClausePrompt
