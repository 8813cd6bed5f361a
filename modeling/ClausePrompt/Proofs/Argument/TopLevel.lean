import ClausePrompt.Proofs.Argument.WellNested

namespace ClausePrompt.Nesting

-- How many delimiters a text opens and does not close.
def depth (text : List Char) : Int :=
  (text.countP fun c => (Delimiter.ofOpener? c).isSome : Nat) -
    (text.countP fun c => (Delimiter.ofCloser? c).isSome : Nat)

@[simp] theorem depth_nil : depth [] = 0 := rfl

@[simp] theorem depth_append (front back : List Char) :
    depth (front ++ back) = depth front + depth back := by
  simp only [depth, List.countP_append]
  omega

theorem depth_cons_of_plain {c : Char} (hc : isDelimiter c = false) (cs : List Char) :
    depth (c :: cs) = depth cs := by
  obtain ⟨hopener, hcloser⟩ := isDelimiter_eq_false_iff.mp hc
  simp [depth, hopener, hcloser]

@[simp] theorem depth_cons_opener (d : Delimiter) (cs : List Char) :
    depth (d.opener :: cs) = depth cs + 1 := by
  simp only [depth, List.countP_cons, Delimiter.ofOpener?_opener, Delimiter.ofCloser?_opener]
  simp
  omega

@[simp] theorem depth_cons_closer (d : Delimiter) (cs : List Char) :
    depth (d.closer :: cs) = depth cs - 1 := by
  simp only [depth, List.countP_cons, Delimiter.ofOpener?_closer, Delimiter.ofCloser?_closer]
  simp
  omega

theorem WellNested.depth_eq_zero {text : List Char} (h : WellNested text) : depth text = 0 := by
  induction h with
  | nil => rfl
  | plain hc _ ih => rw [depth_cons_of_plain hc, ih]
  | wrap d _ _ ihinner ihrest =>
    rw [depth_append, depth_cons_opener, depth_cons_closer, ihinner, ihrest]
    rfl

-- No beginning of the text closes more than it opens.
theorem WellNested.depth_take_nonneg {text : List Char} (h : WellNested text) (i : Nat) :
    0 ≤ depth (text.take i) := by
  induction h generalizing i with
  | nil => simp
  | plain hc _ ih =>
    cases i with
    | zero => exact Int.le_refl 0
    | succ i =>
      rw [List.take_succ_cons, depth_cons_of_plain hc]
      exact ih i
  | @wrap d inner rest hinner _ ihinner ihrest =>
    cases i with
    | zero => exact Int.le_refl 0
    | succ i =>
      have hin := ihinner i
      rw [List.cons_append, List.take_succ_cons, depth_cons_opener, List.take_append, depth_append]
      cases hback : i - inner.length with
      | zero => simp only [List.take_zero, depth_nil]; omega
      | succ j =>
        have hrest := ihrest j
        rw [List.take_of_length_le (by omega), hinner.depth_eq_zero, List.take_succ_cons,
          depth_cons_closer]
        omega

-- The places of the separators outside all delimiters.
def cuts (separator : Char) (text : List Char) : List Nat :=
  (List.range text.length).filter fun i => text[i]? = some separator ∧ depth (text.take i) = 0

variable {separator : Char}

theorem mem_cuts_iff {text : List Char} {i : Nat} :
    i ∈ cuts separator text ↔ text[i]? = some separator ∧ depth (text.take i) = 0 := by
  simp only [cuts, List.mem_filter, List.mem_range, decide_eq_true_eq, and_iff_right_iff_imp]
  rintro ⟨hchar, -⟩
  exact (List.getElem?_eq_some_iff.mp hchar).1

@[simp] theorem cuts_nil : cuts separator [] = [] := rfl

theorem cuts_append {front : List Char} (h : depth front = 0) (back : List Char) :
    cuts separator (front ++ back) =
      cuts separator front ++ (cuts separator back).map (front.length + ·) := by
  unfold cuts
  rw [List.length_append, List.range_add, List.filter_append, List.filter_map]
  congr 1
  · apply List.filter_congr
    intro i hi
    have hlt : i < front.length := List.mem_range.mp hi
    rw [List.getElem?_append_left hlt, List.take_append_of_le_length hlt.le]
  · congr 1
    apply List.filter_congr
    intro i _
    simp [List.take_length_add_append, List.getElem?_append_right, h]

theorem cuts_singleton {c : Char} (hne : c ≠ separator) : cuts separator [c] = [] := by
  simp [cuts, hne]

theorem cuts_singleton_self : cuts separator [separator] = [0] := by
  simp [cuts]

-- Nothing between a delimiter and its closer is at the top level.
theorem cuts_wrap (hseparator : isDelimiter separator = false) (d : Delimiter)
    {inner : List Char} (hinner : WellNested inner) :
    cuts separator (d.opener :: inner ++ [d.closer]) = [] := by
  refine List.eq_nil_iff_forall_not_mem.mpr fun i hi => ?_
  obtain ⟨hchar, hdepth⟩ := mem_cuts_iff.mp hi
  cases i with
  | zero =>
    obtain rfl : d.opener = separator := by simpa using hchar
    simp at hseparator
  | succ i =>
    have hle : i ≤ inner.length := by
      have hlt := (List.getElem?_eq_some_iff.mp hchar).1
      simp only [List.length_append, List.length_cons, List.length_nil] at hlt
      omega
    have hin := hinner.depth_take_nonneg i
    rw [List.cons_append, List.take_succ_cons, depth_cons_opener,
      List.take_append_of_le_length hle] at hdepth
    omega

-- The pieces of a text between the places of its separators, the first of which begins at `start`.
def between (text : List Char) : (start : Nat) → (stops : List Nat) → List (List Char)
  | start, [] => [text.drop start]
  | start, stop :: stops => text.extract start stop :: between text (stop + 1) stops

@[simp] theorem length_between (text : List Char) (start : Nat) (stops : List Nat) :
    (between text start stops).length = stops.length + 1 := by
  induction stops generalizing start with
  | nil => rfl
  | cons stop stops ih => rw [between, List.length_cons, ih, List.length_cons]

theorem between_append (front back : List Char) (start : Nat) (stops : List Nat) :
    between (front ++ back) (front.length + start) (stops.map (front.length + ·)) =
      between back start stops := by
  induction stops generalizing start with
  | nil => simp [between, List.drop_append]
  | cons stop stops ih =>
    rw [List.map_cons, between, between, Nat.add_assoc, ih]
    congr 1
    rw [List.extract_eq_take_drop, List.extract_eq_take_drop, List.drop_length_add_append,
      Nat.add_sub_add_left]

-- A text put in front belongs to the first piece.
theorem between_append_zero (front back : List Char) (stops : List Nat) :
    between (front ++ back) 0 (stops.map (front.length + ·)) =
      (between back 0 stops).modifyHead (front ++ ·) := by
  cases stops with
  | nil => simp [between]
  | cons stop stops =>
    rw [List.map_cons, between, between, Nat.add_assoc, between_append, List.modifyHead_cons]
    congr 1
    simp [List.extract_eq_take_drop, List.take_length_add_append]

-- The pieces between the separators at the top level.
def topPieces (separator : Char) (text : List Char) : List (List Char) :=
  between text 0 (cuts separator text)

theorem topPieces_ne_nil (text : List Char) : topPieces separator text ≠ [] := by
  refine List.ne_nil_of_length_pos ?_
  rw [topPieces, length_between]
  exact Nat.succ_pos _

theorem topPieces_nil : topPieces separator [] = [[]] := rfl

theorem topPieces_append {front : List Char} (hdepth : depth front = 0)
    (huncut : cuts separator front = []) (back : List Char) :
    topPieces separator (front ++ back) =
      (topPieces separator back).modifyHead (front ++ ·) := by
  rw [topPieces, cuts_append hdepth, huncut, List.nil_append, between_append_zero, topPieces]

theorem topPieces_of_uncut {text : List Char} (huncut : cuts separator text = []) :
    topPieces separator text = [text] := by
  rw [topPieces, huncut, between, List.drop_zero]

theorem topPieces_append_separator (hseparator : isDelimiter separator = false)
    {front : List Char} (hdepth : depth front = 0) (huncut : cuts separator front = [])
    (back : List Char) :
    topPieces separator (front ++ separator :: back) = front :: topPieces separator back := by
  have hself : depth [separator] = 0 := depth_cons_of_plain hseparator []
  have hcuts : cuts separator (separator :: back) =
      0 :: (cuts separator back).map (1 + ·) := by
    rw [← List.singleton_append, cuts_append hself, cuts_singleton_self]
    rfl
  have hrest := between_append [separator] back 0 (cuts separator back)
  rw [topPieces_append hdepth huncut, topPieces, hcuts, between]
  simp only [List.modifyHead_cons, List.extract_eq_take_drop, List.drop_zero, Nat.sub_self,
    List.take_zero, List.append_nil]
  exact congrArg (front :: ·) hrest

theorem topPieces_cons_separator (hseparator : isDelimiter separator = false) (cs : List Char) :
    topPieces separator (separator :: cs) = [] :: topPieces separator cs :=
  topPieces_append_separator hseparator depth_nil cuts_nil cs

theorem topPieces_cons_plain {c : Char} (hc : isDelimiter c = false) (hne : c ≠ separator)
    (cs : List Char) :
    topPieces separator (c :: cs) = (topPieces separator cs).modifyHead ([c] ++ ·) :=
  topPieces_append (depth_cons_of_plain hc []) (cuts_singleton hne) cs

theorem topPieces_wrap (hseparator : isDelimiter separator = false) (d : Delimiter)
    {inner : List Char} (hinner : WellNested inner) (rest : List Char) :
    topPieces separator (d.opener :: inner ++ d.closer :: rest) =
      (topPieces separator rest).modifyHead ((d.opener :: inner ++ [d.closer]) ++ ·) := by
  have hfront : WellNested (d.opener :: inner ++ [d.closer]) := .wrap d hinner .nil
  rw [← topPieces_append hfront.depth_eq_zero (cuts_wrap hseparator d hinner), List.append_assoc,
    List.singleton_append]

-- Inside a delimiter a well-nested text is passed over as a whole.
theorem piecesFrom_append_of_ok {inner : List Char} (h : WellNested inner) {d : Delimiter}
    {stack : List Delimiter} {rest first : List Char} {more : List (List Char)}
    (hrest : piecesFrom (some separator) (d :: stack) rest = .ok (first :: more)) :
    piecesFrom (some separator) (d :: stack) (inner ++ rest) =
      .ok ((inner ++ first) :: more) := by
  induction h generalizing d stack rest first with
  | nil => exact hrest
  | plain hc _ ih =>
    rw [List.cons_append, piecesFrom_plain hc (fun hnil => absurd hnil (List.cons_ne_nil d stack)),
      ih hrest]
    rfl
  | @wrap e inside back _ _ ihinside ihback =>
    have hcloser : piecesFrom (some separator) (e :: d :: stack) (e.closer :: (back ++ rest)) =
        .ok ((e.closer :: (back ++ first)) :: more) := by
      rw [piecesFrom_closer, ihback hrest]
      rfl
    rw [List.append_assoc, List.cons_append, List.cons_append, piecesFrom_opener, ihinside hcloser]
    simp [Except.map, Text.extendFirst]

theorem piecesFrom_eq_topPieces (hseparator : isDelimiter separator = false) {text : List Char}
    (h : WellNested text) : piecesFrom (some separator) [] text = .ok (topPieces separator text) := by
  induction h with
  | nil => rfl
  | @plain c cs hc _ ih =>
    by_cases hcut : c = separator
    · subst hcut
      rw [piecesFrom_separator hc, ih, topPieces_cons_separator hc]
      rfl
    · have huncut : some separator ≠ some c := fun he => hcut (Option.some.inj he).symm
      rw [piecesFrom_plain hc fun _ => huncut, ih, topPieces_cons_plain hc hcut]
      exact congrArg Except.ok (Text.extendFirst_of_ne_nil c (topPieces_ne_nil cs))
  | @wrap d inner rest hinner _ _ ihrest =>
    obtain ⟨first, more, hpieces⟩ := List.exists_cons_of_ne_nil (topPieces_ne_nil rest)
    have hcloser : piecesFrom (some separator) [d] (d.closer :: rest) =
        .ok ((d.closer :: first) :: more) := by
      rw [piecesFrom_closer, ihrest, hpieces]
      rfl
    rw [topPieces_wrap hseparator d hinner, hpieces, List.cons_append, piecesFrom_opener,
      piecesFrom_append_of_ok hinner hcloser]
    simp [Except.map, Text.extendFirst]

-- A piece that closes what it opens and has no separator left that could cut it.
def Whole (separator : Char) (piece : List Char) : Prop :=
  WellNested piece ∧ cuts separator piece = []

theorem Whole.append {front back : List Char} (hfront : Whole separator front)
    (hback : Whole separator back) : Whole separator (front ++ back) := by
  refine ⟨hfront.1.append hback.1, ?_⟩
  rw [cuts_append hfront.1.depth_eq_zero, hfront.2, hback.2]
  rfl

theorem whole_of_plain {text : List Char} (hplain : ∀ c ∈ text, isDelimiter c = false)
    (hseparator : separator ∉ text) : Whole separator text := by
  refine ⟨.of_plain hplain, List.eq_nil_iff_forall_not_mem.mpr fun i hi => ?_⟩
  exact hseparator (List.mem_of_getElem? (mem_cuts_iff.mp hi).1)

theorem whole_of_allBlank (hseparator : Text.isBlank separator = false) {blanks : List Char}
    (h : Text.allBlank blanks = true) : Whole separator blanks :=
  whole_of_plain (fun c hc => isDelimiter_of_isBlank (Text.allBlank_iff.mp h c hc))
    (Text.not_mem_of_allBlank hseparator h)

theorem Whole.trim {piece : List Char} (h : Whole separator piece) :
    Whole separator (Text.trim piece) := by
  obtain ⟨before, after, hcut, hbefore, -⟩ := Text.exists_eq_append_trim piece
  have hblank : WellNested before :=
    .of_plain fun c hc => isDelimiter_of_isBlank (Text.allBlank_iff.mp hbefore c hc)
  obtain ⟨hnested, hcuts⟩ := h
  rw [hcut, List.append_assoc, cuts_append hblank.depth_eq_zero,
    cuts_append hnested.trim.depth_eq_zero] at hcuts
  simp only [List.map_append, List.append_eq_nil_iff, List.map_eq_nil_iff] at hcuts
  exact ⟨hnested.trim, hcuts.2.1⟩

theorem Whole.modifyHead {front : List Char} (hfront : Whole separator front)
    {pieces : List (List Char)} (h : ∀ piece ∈ pieces, Whole separator piece) :
    ∀ piece ∈ pieces.modifyHead (front ++ ·), Whole separator piece := by
  cases pieces with
  | nil => exact h
  | cons first more =>
    obtain ⟨hfirst, hmore⟩ := List.forall_mem_cons.mp h
    exact List.forall_mem_cons.mpr ⟨hfront.append hfirst, hmore⟩

theorem whole_topPieces (hseparator : isDelimiter separator = false) {text : List Char}
    (h : WellNested text) : ∀ piece ∈ topPieces separator text, Whole separator piece := by
  induction h with
  | nil =>
    rw [topPieces_nil]
    exact List.forall_mem_singleton.mpr ⟨.nil, rfl⟩
  | @plain c cs hc _ ih =>
    by_cases hcut : c = separator
    · subst hcut
      rw [topPieces_cons_separator hc]
      exact List.forall_mem_cons.mpr ⟨⟨.nil, rfl⟩, ih⟩
    · have hfront : Whole separator [c] := ⟨.plain hc .nil, cuts_singleton hcut⟩
      rw [topPieces_cons_plain hc hcut]
      exact hfront.modifyHead ih
  | @wrap d inner rest hinner _ _ ihrest =>
    have hfront : Whole separator (d.opener :: inner ++ [d.closer]) :=
      ⟨.wrap d hinner .nil, cuts_wrap hseparator d hinner⟩
    rw [topPieces_wrap hseparator d hinner]
    exact hfront.modifyHead ihrest

-- The trimmed pieces between the separators at the top level.
def topSegments (separator : Char) (text : List Char) : List (List Char) :=
  (topPieces separator text).map Text.trim

theorem length_topSegments (text : List Char) :
    (topSegments separator text).length = (cuts separator text).length + 1 := by
  rw [topSegments, List.length_map, topPieces, length_between]

theorem split_eq_ok_iff (hseparator : isDelimiter separator = false) {text : List Char}
    {segments : List (List Char)} :
    split (some separator) text = .ok segments ↔
      WellNested text ∧ segments = topSegments separator text := by
  constructor
  · intro h
    have hnested : WellNested text := exists_split_eq_ok_iff.mp ⟨segments, h⟩
    rw [split, piecesFrom_eq_topPieces hseparator hnested] at h
    exact ⟨hnested, (Except.ok.inj h).symm⟩
  · rintro ⟨hnested, rfl⟩
    rw [split, piecesFrom_eq_topPieces hseparator hnested]
    rfl

theorem wellNested_topSegments (hseparator : isDelimiter separator = false) {text : List Char}
    (h : WellNested text) : ∀ segment ∈ topSegments separator text, WellNested segment := by
  intro segment hmem
  obtain ⟨piece, hpiece, rfl⟩ := List.mem_map.mp hmem
  exact (whole_topPieces hseparator h piece hpiece).1.trim

-- A separator between two well-nested texts is at the top level of both together.
theorem wellNested_intercalate (hseparator : isDelimiter separator = false)
    {segments : List (List Char)} (h : ∀ segment ∈ segments, WellNested segment) :
    WellNested ([separator].intercalate segments) := by
  induction segments with
  | nil => exact .nil
  | cons segment rest ih =>
    obtain ⟨hsegment, hrest⟩ := List.forall_mem_cons.mp h
    cases rest with
    | nil => simpa using hsegment
    | cons next rest =>
      rw [List.intercalate_cons_cons, List.append_assoc, List.singleton_append]
      exact hsegment.append (.plain hseparator (ih hrest))

theorem topPieces_intercalate (hseparator : isDelimiter separator = false)
    {segments : List (List Char)} (hne : segments ≠ [])
    (h : ∀ segment ∈ segments, Whole separator segment) :
    topPieces separator ([separator].intercalate segments) = segments := by
  induction segments with
  | nil => exact absurd rfl hne
  | cons segment rest ih =>
    obtain ⟨⟨hsegment, huncut⟩, hrest⟩ := List.forall_mem_cons.mp h
    cases rest with
    | nil =>
      rw [List.intercalate_singleton]
      exact topPieces_of_uncut huncut
    | cons next rest =>
      rw [List.intercalate_cons_cons, List.append_assoc, List.singleton_append,
        topPieces_append_separator hseparator hsegment.depth_eq_zero huncut,
        ih (List.cons_ne_nil next rest) hrest]

theorem topSegments_of_whole {text : List Char} (h : Whole separator text) :
    topSegments separator text = [Text.trim text] := by
  rw [topSegments, topPieces_of_uncut h.2, List.map_singleton]

theorem topSegments_append_separator (hseparator : isDelimiter separator = false)
    {front : List Char} (hfront : Whole separator front) (back : List Char) :
    topSegments separator (front ++ separator :: back) =
      Text.trim front :: topSegments separator back := by
  rw [topSegments, topPieces_append_separator hseparator hfront.1.depth_eq_zero hfront.2,
    List.map_cons, topSegments]

-- Blanks in front of a text are trimmed off its first segment.
theorem topSegments_append_left (hseparator : Text.isBlank separator = false) {blanks : List Char}
    (h : Text.allBlank blanks = true) (text : List Char) :
    topSegments separator (blanks ++ text) = topSegments separator text := by
  have hwhole := whole_of_allBlank hseparator h
  obtain ⟨first, more, hpieces⟩ := List.exists_cons_of_ne_nil (topPieces_ne_nil text)
  rw [topSegments, topSegments, topPieces_append hwhole.1.depth_eq_zero hwhole.2, hpieces,
    List.modifyHead_cons, List.map_cons, List.map_cons, Text.trim_append_left first h]

private theorem intercalate_modifyHead (front : List Char) {pieces : List (List Char)}
    (hne : pieces ≠ []) :
    [separator].intercalate (pieces.modifyHead (front ++ ·)) =
      front ++ [separator].intercalate pieces := by
  obtain ⟨first, more, rfl⟩ := List.exists_cons_of_ne_nil hne
  cases more with
  | nil => simp
  | cons next more => simp

-- Nothing is lost between the pieces.
theorem intercalate_topPieces (hseparator : isDelimiter separator = false) {text : List Char}
    (h : WellNested text) : [separator].intercalate (topPieces separator text) = text := by
  induction h with
  | nil => simp [topPieces_nil]
  | @plain c cs hc _ ih =>
    by_cases hcut : c = separator
    · subst hcut
      obtain ⟨first, more, hpieces⟩ := List.exists_cons_of_ne_nil (topPieces_ne_nil cs)
      rw [hpieces] at ih
      rw [topPieces_cons_separator hc, hpieces, List.intercalate_cons_cons, ih]
      rfl
    · rw [topPieces_cons_plain hc hcut, intercalate_modifyHead [c] (topPieces_ne_nil cs), ih]
      rfl
  | @wrap d inner rest hinner _ _ ihrest =>
    rw [topPieces_wrap hseparator d hinner, intercalate_modifyHead _ (topPieces_ne_nil rest),
      ihrest]
    simp

-- A text is split exactly if it is well nested, and then at the separators of depth zero. The reason
-- of a failure names the first closer that does not match, or else the one that is missing for the
-- innermost delimiter. Segments that are joined are found again.
theorem split_by_depth (separator : Char) (hseparator : isDelimiter separator = false)
    (text : List Char) :
    ((∃ segments, split (some separator) text = .ok segments) ↔ WellNested text) ∧
    (∀ segments, split (some separator) text = .ok segments →
      segments = (between text 0 (cuts separator text)).map Text.trim ∧
      segments.length = (cuts separator text).length + 1 ∧
      ∀ segment ∈ segments, WellNested segment) ∧
    (∀ reason, (split (some separator) text).mapError Flaw.message = .error reason ↔
      (∃ d, Mismatched d text ∧ reason = "unexpected '" ++ String.singleton d.closer ++
        "' without matching '" ++ String.singleton d.opener ++ "'") ∨
      ∃ d stack, LeavesOpen (d :: stack) text ∧
        reason = "missing closing '" ++ String.singleton d.closer ++ "'") ∧
    ∀ segments, segments ≠ [] →
      (∀ segment ∈ segments, Text.trim segment = segment ∧ WellNested segment ∧
        cuts separator segment = []) →
      split (some separator) ([separator].intercalate segments) = .ok segments := by
  refine ⟨exists_split_eq_ok_iff, ?_, ?_, ?_⟩
  · intro segments h
    obtain ⟨hnested, rfl⟩ := (split_eq_ok_iff hseparator).mp h
    exact ⟨rfl, length_topSegments text, wellNested_topSegments hseparator hnested⟩
  · intro reason
    constructor
    · intro h
      cases hsplit : split (some separator) text with
      | ok segments => simp [hsplit, Except.mapError] at h
      | error flaw =>
        obtain rfl : flaw.message = reason := by simpa [hsplit, Except.mapError] using h
        cases flaw with
        | unexpected d => exact .inl ⟨d, split_eq_unexpected_iff.mp hsplit, rfl⟩
        | unclosed d =>
          obtain ⟨stack, hopen⟩ := split_eq_unclosed_iff.mp hsplit
          exact .inr ⟨d, stack, hopen, rfl⟩
    · rintro (⟨d, hmismatched, rfl⟩ | ⟨d, stack, hopen, rfl⟩)
      · rw [hmismatched.split_eq_error]
        rfl
      · rw [hopen.split_eq_error]
        rfl
  · intro segments hne hall
    have hpieces := topPieces_intercalate hseparator hne fun segment hmem => (hall segment hmem).2
    refine (split_eq_ok_iff hseparator).mpr ⟨?_, ?_⟩
    · exact wellNested_intercalate hseparator fun segment hmem => (hall segment hmem).2.1
    · have htrimmed : segments.map Text.trim = segments.map id :=
        List.map_congr_left fun segment hmem => (hall segment hmem).1
      rw [topSegments, hpieces, htrimmed, List.map_id]

-- A semicolon inside a call does not split, and a bracket does not close a parenthesis.
theorem split_by_depth_calls :
    isDelimiter ';' = false ∧
    split (some ';') "start(3; [x]);end(5)".toList =
      .ok ["start(3; [x])".toList, "end(5)".toList] ∧
    (split (some ';') "start(3]".toList).mapError Flaw.message =
      .error "unexpected ']' without matching '['" := by
  have hopen : LeavesOpen [.round] ("start".toList ++ '(' :: "3".toList) :=
    .opened (.closed (by decide)) .round (by decide)
  refine ⟨by decide, ?_, ?_⟩
  · exact (split_by_depth ';' (by decide) []).2.2.2
      ["start(3; [x])".toList, "end(5)".toList] (by decide) (by decide)
  · refine ((split_by_depth ';' (by decide) "start(3]".toList).2.2.1 _).mpr (.inl ?_)
    exact ⟨.square, ⟨[.round], _, [], by decide, hopen, by decide⟩, by decide⟩

end ClausePrompt.Nesting

namespace ClausePrompt.Argument

open Nesting (WellNested topSegments)

theorem segments_eq_ok_iff {text : List Char} {parts : List (List Char)} :
    segments text = .ok parts ↔ WellNested text ∧ parts = topSegments ';' text := by
  rw [← Nesting.split_eq_ok_iff (by decide), segments]
  cases Nesting.split (some ';') text with
  | ok found => simp
  | error flaw => simp [malformed]

theorem wellNested_of_mem_topSegments {text : List Char} (h : WellNested text) :
    ∀ segment ∈ topSegments ';' text, WellNested segment :=
  Nesting.wellNested_topSegments (by decide) h

end ClausePrompt.Argument
