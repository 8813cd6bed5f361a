import ClausePrompt.Lexicon.Standard
import ClausePrompt.Proofs.Lexicon.Lookup
import ClausePrompt.Proofs.Outcome

namespace ClausePrompt.Lexicon

theorem eq_of_keywords_eq {lexicon other : Lexicon} (h : lexicon.keywords = other.keywords) :
    lexicon = other := by
  cases lexicon
  cases other
  cases h
  rfl

-- The keywords up to a place in a lexicon are a lexicon.
def front (lexicon : Lexicon) {keywords : List Keyword} (h : keywords <+: lexicon.keywords) :
    Lexicon :=
  ⟨keywords, lexicon.ids_nodup.sublist (h.sublist.map _),
    lexicon.bindings_nodup.sublist (h.sublist.map _)⟩

-- Why a keyword cannot follow others. The shortcut only matters if the id is new.
def Repeats (earlier : List Keyword) (keyword : Keyword) : Clash → Prop
  | .keyword id => keyword.id = id ∧ keyword.id ∈ earlier.map (·.id)
  | .shortcut shortcut => keyword.shortcut = shortcut ∧ keyword.id ∉ earlier.map (·.id) ∧
      keyword.shortcut.binding ∈ earlier.map (·.shortcut.binding)

theorem extend_eq_ok_iff {lexicon next : Lexicon} {keyword : Keyword} :
    lexicon.extend keyword = .ok next ↔ next.keywords = lexicon.keywords ++ [keyword] := by
  unfold extend
  constructor
  · intro h
    split at h
    · cases h
    · split at h
      · cases h
      · obtain rfl := Except.ok.inj h
        rfl
  · intro h
    have hids := next.ids_nodup
    have hbindings := next.bindings_nodup
    rw [h, List.map_append, List.map_singleton] at hids hbindings
    rw [dif_neg (List.disjoint_singleton.mp (List.disjoint_of_nodup_append hids)),
      dif_neg (List.disjoint_singleton.mp (List.disjoint_of_nodup_append hbindings))]
    exact congrArg Except.ok (eq_of_keywords_eq h.symm)

theorem extend_eq_error_iff {lexicon : Lexicon} {keyword : Keyword} {clash : Clash} :
    lexicon.extend keyword = .error clash ↔ Repeats lexicon.keywords keyword clash := by
  unfold extend
  by_cases hid : keyword.id ∈ lexicon.keywords.map (·.id)
  · rw [dif_pos hid]
    cases clash <;> simp [Repeats, hid]
  · rw [dif_neg hid]
    by_cases hkey : keyword.shortcut.binding ∈ lexicon.keywords.map (·.shortcut.binding)
    · rw [dif_pos hkey]
      cases clash <;> simp [Repeats, hid, hkey]
    · rw [dif_neg hkey]
      cases clash <;> simp [Repeats, hid, hkey]

-- Every round takes its keyword to the end. The other direction goes through since what stands
-- before a keyword of the result is a lexicon already.
theorem foldlM_extend_eq_ok_iff {keywords : List Keyword} {start lexicon : Lexicon} :
    keywords.foldlM extend start = .ok lexicon ↔
      lexicon.keywords = start.keywords ++ keywords := by
  induction keywords generalizing start with
  | nil =>
    rw [List.foldlM_nil, List.append_nil]
    constructor
    · intro h
      obtain rfl := Except.ok.inj h
      rfl
    · intro h
      exact congrArg Except.ok (eq_of_keywords_eq h.symm)
  | cons keyword keywords ih =>
    rw [List.foldlM_cons, Outcome.bind_eq_ok_iff]
    constructor
    · rintro ⟨next, hnext, hrest⟩
      rw [ih.mp hrest, extend_eq_ok_iff.mp hnext, List.append_assoc, List.singleton_append]
    · intro h
      have hfront : start.keywords ++ [keyword] <+: lexicon.keywords := by
        rw [h]
        exact ⟨keywords, by simp⟩
      refine ⟨lexicon.front hfront, extend_eq_ok_iff.mpr rfl, ih.mpr ?_⟩
      rw [h, front, List.append_assoc, List.singleton_append]

theorem ofList_eq_ok_iff {keywords : List Keyword} {lexicon : Lexicon} :
    ofList keywords = .ok lexicon ↔ lexicon.keywords = keywords :=
  foldlM_extend_eq_ok_iff

theorem exists_ofList_iff {keywords : List Keyword} :
    (∃ lexicon, ofList keywords = .ok lexicon) ↔
      (keywords.map (·.id)).Nodup ∧ (keywords.map (·.shortcut.binding)).Nodup := by
  constructor
  · rintro ⟨lexicon, h⟩
    rw [← ofList_eq_ok_iff.mp h]
    exact ⟨lexicon.ids_nodup, lexicon.bindings_nodup⟩
  · rintro ⟨hids, hbindings⟩
    exact ⟨⟨keywords, hids, hbindings⟩, ofList_eq_ok_iff.mpr rfl⟩

-- The first keyword that repeats something is told.
theorem ofList_eq_error_iff {keywords : List Keyword} {clash : Clash} :
    ofList keywords = .error clash ↔
      ∃ earlier keyword rest, keywords = earlier ++ keyword :: rest ∧
        (∃ lexicon, ofList earlier = .ok lexicon) ∧ Repeats earlier keyword clash := by
  rw [ofList, Outcome.foldlM_eq_error_iff]
  constructor
  · rintro ⟨earlier, keyword, rest, lexicon, hcut, hlexicon, hclash⟩
    rw [← ofList, ofList_eq_ok_iff] at hlexicon
    rw [extend_eq_error_iff, hlexicon] at hclash
    exact ⟨earlier, keyword, rest, hcut, ⟨lexicon, ofList_eq_ok_iff.mpr hlexicon⟩, hclash⟩
  · rintro ⟨earlier, keyword, rest, hcut, ⟨lexicon, hlexicon⟩, hclash⟩
    rw [← ofList_eq_ok_iff.mp hlexicon, ← extend_eq_error_iff] at hclash
    exact ⟨earlier, keyword, rest, lexicon, hcut, hlexicon, hclash⟩

theorem resolve_of_not_contains {lexicon : Lexicon} {typed : String}
    (h : lexicon.contains typed = false) : lexicon.resolve typed = .error (.unknownKeyword typed) := by
  rw [contains, Option.isSome_eq_false_iff, Option.isNone_iff_eq_none] at h
  rw [resolve, h]

theorem contains_eq_true_iff {lexicon : Lexicon} {typed : String} :
    lexicon.contains typed = true ↔ ∃ keyword ∈ lexicon.keywords, keyword.id = spelling typed := by
  rw [contains, Option.isSome_iff_exists]
  exact exists_congr fun keyword => find?_eq_some_iff

-- A key that was typed is the shortcut of the keyword with the same capitals.
theorem byShortcut?_key {lexicon : Lexicon} {keyword : Keyword} (h : keyword ∈ lexicon.keywords) :
    lexicon.byShortcut? (String.singleton keyword.shortcut.key) = some keyword := by
  rw [byShortcut?_eq_some_iff, String.toList_singleton]
  exact ⟨h, rfl⟩

-- The keywords of a lexicon are those of the list in its order. Each of them has one entry in
-- each of the two indexes, and neither index has any others.
structure Indexes (keywords : List Keyword) (lexicon : Lexicon) : Prop where
  in_order : lexicon.keywords = keywords
  resolve_iff : ∀ typed keyword, lexicon.resolve typed = .ok keyword ↔
    keyword ∈ keywords ∧ keyword.id = spelling typed
  contains_iff : ∀ typed, lexicon.contains typed = true ↔
    ∃ keyword ∈ keywords, keyword.id = spelling typed
  unknown : ∀ typed, lexicon.contains typed = false →
    lexicon.resolve typed = .error (.unknownKeyword typed)
  shortcut_iff : ∀ key keyword, lexicon.byShortcut? key = some keyword ↔
    keyword ∈ keywords ∧ keyword.shortcut.binding = Text.upper key.toList
  reached : ∀ keyword ∈ keywords, lexicon.resolve keyword.id = .ok keyword ∧
    lexicon.byShortcut? (String.singleton keyword.shortcut.key) = some keyword
  apart : ∀ keyword ∈ keywords, ∀ other ∈ keywords,
    keyword.id = other.id ∨ keyword.shortcut.binding = other.shortcut.binding → keyword = other

theorem indexes (lexicon : Lexicon) : Indexes lexicon.keywords lexicon where
  in_order := rfl
  resolve_iff _ _ := resolve_eq_ok_iff
  contains_iff _ := contains_eq_true_iff
  unknown _ := resolve_of_not_contains
  shortcut_iff _ _ := byShortcut?_eq_some_iff
  reached _ h := ⟨resolve_id h, byShortcut?_key h⟩
  apart _ h _ hother hsame :=
    hsame.elim (List.inj_on_of_nodup_map lexicon.ids_nodup h hother)
      (List.inj_on_of_nodup_map lexicon.bindings_nodup h hother)

-- A list becomes a lexicon if no two of its keywords share an id and no two share the capitals of
-- a key. It is refused otherwise, for the first keyword that repeats one of those before it.
theorem indexes_of_list (keywords : List Keyword) :
    ((∃ lexicon, ofList keywords = .ok lexicon) ↔
      (keywords.map (·.id)).Nodup ∧ (keywords.map (·.shortcut.binding)).Nodup) ∧
    (∀ lexicon, ofList keywords = .ok lexicon → Indexes keywords lexicon) ∧
    ∀ clash, ofList keywords = .error clash ↔
      ∃ earlier keyword rest, keywords = earlier ++ keyword :: rest ∧
        (∃ lexicon, ofList earlier = .ok lexicon) ∧ Repeats earlier keyword clash := by
  refine ⟨exists_ofList_iff, fun lexicon h => ?_, fun clash => ofList_eq_error_iff⟩
  rw [← ofList_eq_ok_iff.mp h]
  exact lexicon.indexes

-- A keyword of an author's own on some key.
def ownKeyword (key : Char) : Keyword :=
  { id := "own", shape := .singleToken, description := "As you like it",
    shortcut := { key := key } }

-- The capitals of the sharp s are two letters and do not meet the key S, on which a standard
-- keyword is. The capital of the long s is that key.
theorem indexes_of_list_sharp :
    (∃ lexicon, ofList (standardKeywords ++ [ownKeyword 'ß']) = .ok lexicon ∧
      lexicon.byShortcut? "ss" = some (ownKeyword 'ß') ∧
      lexicon.resolve " Own\n" = .ok (ownKeyword 'ß')) ∧
    ofList (standardKeywords ++ [ownKeyword 'ſ']) =
      .error (.shortcut (ownKeyword 'ſ').shortcut) := by
  constructor
  · obtain ⟨lexicon, hlexicon⟩ := (indexes_of_list (standardKeywords ++ [ownKeyword 'ß'])).1.mpr
      ⟨by decide, by decide⟩
    have hindexes := (indexes_of_list _).2.1 lexicon hlexicon
    have hmem : ownKeyword 'ß' ∈ standardKeywords ++ [ownKeyword 'ß'] := by simp
    refine ⟨lexicon, hlexicon, ?_, ?_⟩
    · exact (hindexes.shortcut_iff _ _).mpr ⟨hmem, by decide⟩
    · exact (hindexes.resolve_iff _ _).mpr ⟨hmem, by decide⟩
  · refine ((indexes_of_list _).2.2 _).mpr ⟨standardKeywords, _, [], rfl, ?_, rfl, ?_, ?_⟩
    · exact (indexes_of_list standardKeywords).1.mpr ⟨by decide, by decide⟩
    · decide
    · decide

end ClausePrompt.Lexicon
