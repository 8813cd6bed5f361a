import ClausePrompt.Keyword
import ClausePrompt.Refusal
import ClausePrompt.Text.Pieces

namespace ClausePrompt

-- The keywords of an authoring context in menu order. No two share an id, and no two share a
-- shortcut key, so each of the two finds at most one keyword.
structure Lexicon where
  keywords : List Keyword
  ids_nodup : (keywords.map (·.id)).Nodup
  bindings_nodup : (keywords.map (·.shortcut.binding)).Nodup

namespace Lexicon

-- Why a list of keywords is no lexicon.
inductive Clash where
  | keyword (id : String)
  | shortcut (shortcut : Shortcut)
  deriving DecidableEq, Repr

def Clash.message : Clash → String
  | keyword id => "Duplicate keyword: " ++ id
  | shortcut key => "Shortcut " ++ key.text ++ " bound twice"

def empty : Lexicon := ⟨[], .nil, .nil⟩

private theorem nodup_map_snoc {α β : Type} {f : α → β} {xs : List α} {x : α}
    (hxs : (xs.map f).Nodup) (hx : f x ∉ xs.map f) : ((xs ++ [x]).map f).Nodup := by
  rw [List.map_append, List.map_singleton, List.nodup_append]
  exact ⟨hxs, by simp, fun a ha b hb hab => hx (by simp_all)⟩

-- The id is checked before the shortcut.
def extend (lexicon : Lexicon) (keyword : Keyword) : Except Clash Lexicon :=
  if hid : keyword.id ∈ lexicon.keywords.map (·.id) then
    .error (.keyword keyword.id)
  else if hkey : keyword.shortcut.binding ∈ lexicon.keywords.map (·.shortcut.binding) then
    .error (.shortcut keyword.shortcut)
  else
    .ok ⟨lexicon.keywords ++ [keyword], nodup_map_snoc lexicon.ids_nodup hid,
      nodup_map_snoc lexicon.bindings_nodup hkey⟩

def ofList (keywords : List Keyword) : Except Clash Lexicon :=
  keywords.foldlM extend empty

-- An id as it is looked up: without the blanks around it and in lower case.
def spelling (typed : String) : String :=
  String.ofList (Text.lower (Text.trim typed.toList))

def find? (lexicon : Lexicon) (typed : String) : Option Keyword :=
  lexicon.keywords.find? (·.id == spelling typed)

-- The refusal names the keyword as it was typed.
def resolve (lexicon : Lexicon) (typed : String) : Except Refusal Keyword :=
  match lexicon.find? typed with
  | some keyword => .ok keyword
  | none => .error (.unknownKeyword typed)

def contains (lexicon : Lexicon) (typed : String) : Bool := (lexicon.find? typed).isSome

def byShortcut? (lexicon : Lexicon) (key : String) : Option Keyword :=
  lexicon.keywords.find? (·.shortcut.binding == Text.upper key.toList)

-- The keywords whose id or description holds the query, in any case. A blank query asks for all.
def search (lexicon : Lexicon) (query : String) : List Keyword :=
  let needle := Text.lower (Text.trim query.toList)
  lexicon.keywords.filter fun keyword =>
    Text.occursIn needle keyword.id.toList ||
      Text.occursIn needle (Text.lower keyword.description.toList)

-- The keywords that a half-typed word may become. Leading asterisks are not part of the word.
def complete (lexicon : Lexicon) (typed : String) : List Keyword :=
  let stem := Text.lower ((Text.trim typed.toList).dropWhile (· == '*'))
  lexicon.keywords.filter fun keyword => stem.isPrefixOf keyword.id.toList

end Lexicon

end ClausePrompt
