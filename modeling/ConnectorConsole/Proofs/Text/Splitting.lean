import ConnectorConsole.Proofs.Text.Trimming

/-!
# Splitting joined texts

Pieces hold no separator, and pieces without a separator come back when they are joined
with separators between them.
-/

namespace ConnectorConsole

namespace Text

section

variable {isSeparator : Char → Bool}

theorem splitOn_eq_splitOnP (chars : List Char) :
    splitOn isSeparator chars = chars.splitOnP isSeparator := by
  induction chars with
  | nil => rfl
  | cons c rest ih =>
      rw [splitOn, List.splitOnP_cons_eq_if_modifyHead, ← ih]
      cases pieces : splitOn isSeparator rest with
      | nil => exact absurd pieces (splitOn_ne_nil isSeparator rest)
      | cons piece pieces => rfl

theorem splitOn_append_cons {piece : List Char} (whole : ∀ c ∈ piece, isSeparator c = false)
    {separator : Char} (separates : isSeparator separator = true) (rest : List Char) :
    splitOn isSeparator (piece ++ separator :: rest) = piece :: splitOn isSeparator rest := by
  simp only [splitOn_eq_splitOnP]
  exact List.splitOnP_append_cons_of_forall_mem whole separator separates rest

theorem splitOn_whole {piece : List Char} (whole : ∀ c ∈ piece, isSeparator c = false) :
    splitOn isSeparator piece = [piece] := by
  rw [splitOn_eq_splitOnP]
  exact List.splitOnP_eq_singleton whole

theorem not_separator_of_mem_splitOn {chars piece : List Char}
    (member : piece ∈ splitOn isSeparator chars) : ∀ c ∈ piece, isSeparator c = false := by
  induction chars generalizing piece with
  | nil =>
      obtain rfl := List.mem_singleton.mp member
      exact List.forall_mem_nil _
  | cons c rest ih =>
      rw [splitOn] at member
      cases pieces : splitOn isSeparator rest with
      | nil => exact absurd pieces (splitOn_ne_nil isSeparator rest)
      | cons first further =>
          simp only [pieces] at member ih
          split_ifs at member with separates
          · rcases List.mem_cons.mp member with rfl | inRest
            · exact List.forall_mem_nil _
            · exact ih inRest
          · rcases List.mem_cons.mp member with rfl | inRest
            · exact List.forall_mem_cons.mpr
                ⟨Bool.eq_false_iff.mpr separates, ih List.mem_cons_self⟩
            · exact ih (List.mem_cons_of_mem first inRest)

/-- The pieces of a text are not empty and hold no separator. -/
theorem mem_fields {text piece : String} (member : piece ∈ fields isSeparator text) :
    piece ≠ "" ∧ ∀ c ∈ piece.toList, isSeparator c = false := by
  rw [fields, List.mem_map] at member
  obtain ⟨chars, isPiece, rfl⟩ := member
  obtain ⟨inSplit, notEmpty⟩ := List.mem_filter.mp isPiece
  rw [String.toList_ofList]
  refine ⟨fun empty => ?_, not_separator_of_mem_splitOn inSplit⟩
  rw [← String.toList_eq_nil_iff, String.toList_ofList] at empty
  rw [empty] at notEmpty
  cases notEmpty

theorem fields_append_cons {piece : List Char} (whole : ∀ c ∈ piece, isSeparator c = false)
    {separator : Char} (separates : isSeparator separator = true) (rest : List Char) :
    fields isSeparator (String.ofList (piece ++ separator :: rest)) =
      fields isSeparator (String.ofList piece) ++ fields isSeparator (String.ofList rest) := by
  simp only [fields, String.toList_ofList, splitOn_append_cons whole separates, splitOn_whole whole,
    ← List.map_append, ← List.filter_append, List.singleton_append]

theorem fields_of_whole {text : String} (notEmpty : text ≠ "")
    (whole : ∀ c ∈ text.toList, isSeparator c = false) : fields isSeparator text = [text] := by
  have present : text.toList.isEmpty = false := by
    rw [List.isEmpty_eq_false_iff]
    exact fun empty => notEmpty (String.toList_eq_nil_iff.mp empty)
  simp [fields, splitOn_whole whole, present]

/-- A separator at the end of a text ends its last field. -/
theorem fields_push {separator : Char} (separates : isSeparator separator = true)
    (text : String) : fields isSeparator (text.push separator) = fields isSeparator text := by
  simp only [fields, String.toList_push, splitOn_eq_splitOnP,
    List.splitOnP_append_cons _ _ separates, List.splitOnP_nil, List.filter_append]
  simp

end

/-- A text without blanks. -/
def Unbroken (text : String) : Prop :=
  ∀ c ∈ text.toList, isBlank c = false

instance (text : String) : Decidable (Unbroken text) :=
  decidable_of_iff (text.toList.all (fun c => !isBlank c) = true) (by simp [Unbroken])

/-- Lines that hold words in turn: blanks may stand before each word, a blank or the end of the
line follows it, and the line may end with blanks. -/
inductive Spaced : List String → List Char → Prop where
  | nil {blanks : List Char} (allBlank : ∀ c ∈ blanks, isBlank c = true) : Spaced [] blanks
  | cons {blanks rest : List Char} {word : String} {others : List String}
      (allBlank : ∀ c ∈ blanks, isBlank c = true) (ended : ∀ c ∈ rest.head?, isBlank c = true)
      (spaced : Spaced others rest) : Spaced (word :: others) (blanks ++ word.toList ++ rest)

theorem words_blanks_append {blanks : List Char} (allBlank : ∀ c ∈ blanks, isBlank c = true)
    (rest : List Char) : words (String.ofList (blanks ++ rest)) = words (String.ofList rest) := by
  induction blanks with
  | nil => rfl
  | cons c blanks ih =>
      obtain ⟨isBlank, allBlank⟩ := List.forall_mem_cons.mp allBlank
      rw [List.cons_append, ← List.nil_append (c :: _), words,
        fields_append_cons (List.forall_mem_nil _) isBlank]
      exact ih allBlank

/-- Words come back from every line that holds them. -/
theorem words_of_spaced {held : List String} {line : List Char} (spaced : Spaced held line)
    (whole : ∀ word ∈ held, word ≠ "" ∧ Unbroken word) :
    words (String.ofList line) = held := by
  induction spaced with
  | @nil blanks allBlank =>
      rw [← List.append_nil blanks, words_blanks_append allBlank]
      rfl
  | @cons blanks rest word others allBlank ended spaced ih =>
      obtain ⟨⟨notEmpty, unbroken⟩, othersWhole⟩ := List.forall_mem_cons.mp whole
      have isWord : words word = [word] := fields_of_whole notEmpty unbroken
      have areOthers := ih othersWhole
      rw [List.append_assoc, words_blanks_append allBlank]
      cases rest with
      | nil =>
          obtain rfl : others = [] := areOthers.symm
          rw [List.append_nil, String.ofList_toList, isWord]
      | cons c rest =>
          -- the blank after the word belongs to no word
          have isBlank : isBlank c = true := ended c rfl
          have dropped := words_blanks_append (List.forall_mem_singleton.mpr isBlank) rest
          rw [words, fields_append_cons unbroken isBlank, String.ofList_toList]
          rw [List.singleton_append, areOthers] at dropped
          exact congrArg₂ (· ++ ·) isWord dropped.symm

/-- Joined texts of which none is last: the first, a comma, a blank, and the others. -/
theorem toList_join_cons_cons (first second : String) (rest : List String) :
    (join ", " (first :: second :: rest)).toList =
      first.toList ++ ',' :: ' ' :: (join ", " (second :: rest)).toList := by
  simp [join, String.toList_intercalate]

/-- Texts without separators come back from their joined form when commas and blanks
separate. -/
theorem fields_join {isSeparator : Char → Bool} (comma : isSeparator ',' = true)
    (space : isSeparator ' ' = true) {texts : List String}
    (whole : ∀ text ∈ texts, text ≠ "" ∧ ∀ c ∈ text.toList, isSeparator c = false) :
    fields isSeparator (join ", " texts) = texts := by
  induction texts with
  | nil => rfl
  | cons first rest ih =>
      obtain ⟨⟨notEmpty, firstWhole⟩, restWhole⟩ := List.forall_mem_cons.mp whole
      have isFirst := fields_of_whole notEmpty firstWhole
      cases rest with
      | nil => simpa [join] using isFirst
      | cons second rest =>
          have isRest := ih restWhole
          have nothing : fields isSeparator (String.ofList []) = [] := rfl
          rw [← String.ofList_toList (s := join ", " (first :: second :: rest)),
            toList_join_cons_cons, fields_append_cons firstWhole comma, String.ofList_toList,
            isFirst, ← List.nil_append (' ' :: _),
            fields_append_cons (List.forall_mem_nil _) space, nothing, String.ofList_toList,
            isRest]
          rfl

theorem isComma_eq_false {chars : List Char} (noComma : ',' ∉ chars) :
    ∀ c ∈ chars, decide (c = ',') = false :=
  fun _ member => decide_eq_false fun isComma => noComma (isComma ▸ member)

/-- Texts without commas come back from their joined form when only commas separate and
the pieces are trimmed.  The blank after a comma goes with the piece that follows. -/
theorem trimmed_fields_join {blanks : List Char} (allBlank : ∀ c ∈ blanks, isBlank c = true)
    (noComma : ',' ∉ blanks) {texts : List String}
    (whole : ∀ text ∈ texts, Filled text ∧ ',' ∉ text.toList) :
    (fields (fun c => c = ',') (String.ofList (blanks ++ (join ", " texts).toList))).filterMap
      nonBlank? = texts := by
  induction texts generalizing blanks with
  | nil =>
      have nothing : nonBlank? (String.ofList blanks) = none := by
        simpa [nonBlank?, blank] using allBlank
      have noText : blanks ++ (join ", " []).toList = blanks := by
        simp [join]
      rw [noText]
      cases blanks with
      | nil => rfl
      | cons c rest =>
          have notEmpty : String.ofList (c :: rest) ≠ "" := by
            simp [← String.toList_eq_nil_iff]
          rw [fields_of_whole notEmpty (by simpa using isComma_eq_false noComma),
            List.filterMap_cons_none nothing, List.filterMap_nil]
  | cons first rest ih =>
      obtain ⟨⟨filled, noCommaFirst⟩, restWhole⟩ := List.forall_mem_cons.mp whole
      have pieceWhole := isComma_eq_false (List.not_mem_append noComma noCommaFirst)
      have isTrimmed : nonBlank? (String.ofList (blanks ++ first.toList)) = some first := by
        rw [nonBlank?_eq, trim_blanks_append allBlank, trim_of_trimmed filled.2, if_neg filled.1]
      have notEmpty : String.ofList (blanks ++ first.toList) ≠ "" := by
        intro empty
        rw [empty] at isTrimmed
        cases isTrimmed
      have isPiece : (fields (fun c => c = ',') (String.ofList (blanks ++ first.toList))).filterMap
          nonBlank? = [first] := by
        rw [fields_of_whole notEmpty (by simpa using pieceWhole),
          List.filterMap_cons_some isTrimmed, List.filterMap_nil]
      cases rest with
      | nil => simpa [join] using isPiece
      | cons second rest =>
          have space : ∀ c ∈ [' '], isBlank c = true := List.forall_mem_singleton.mpr rfl
          have isRest := ih space (by decide) restWhole
          rw [toList_join_cons_cons, ← List.append_assoc,
            fields_append_cons pieceWhole (by decide), List.filterMap_append, isPiece]
          exact congrArg (first :: ·) isRest

/-- A list is cut at the first mark. -/
theorem cut_append_cons {mark : Char} {before : List Char} (noMark : ∀ c ∈ before, c ≠ mark)
    (after : List Char) : cut mark (before ++ mark :: after) = some (before, after) := by
  induction before with
  | nil => rw [List.nil_append, cut, if_pos rfl]
  | cons c before ih =>
      obtain ⟨notMark, noMark⟩ := List.forall_mem_cons.mp noMark
      rw [List.cons_append, cut, if_neg notMark, ih noMark]
      rfl

theorem eq_of_cut {mark : Char} {chars before after : List Char}
    (isCut : cut mark chars = some (before, after)) : chars = before ++ mark :: after := by
  induction chars generalizing before with
  | nil => cases isCut
  | cons c rest ih =>
      rw [cut] at isCut
      split at isCut
      next isMark =>
        cases isCut
        rw [isMark, List.nil_append]
      next =>
        obtain ⟨⟨front, back⟩, isRest, isPair⟩ := Option.map_eq_some_iff.mp isCut
        cases isPair
        rw [ih isRest, List.cons_append]

/-- There is one way to cut a list at its last mark. -/
theorem eq_of_append_cons_eq {mark : Char} {before after other rest : List Char}
    (lastMark : ∀ c ∈ after, c ≠ mark) (otherLastMark : ∀ c ∈ rest, c ≠ mark)
    (same : before ++ mark :: after = other ++ mark :: rest) : before = other ∧ after = rest := by
  have turned :
      after.reverse ++ mark :: before.reverse = rest.reverse ++ mark :: other.reverse := by
    simpa using congrArg List.reverse same
  have cuts := congrArg (cut mark) turned
  rw [cut_append_cons (by simpa using lastMark), cut_append_cons (by simpa using otherLastMark)]
    at cuts
  simpa [and_comm] using cuts

/-- Texts come back from their joined form when none of them holds the separator. -/
theorem splitOn_join {separator : Char} {texts : List String} (present : texts ≠ [])
    (whole : ∀ text ∈ texts, ∀ c ∈ text.toList, c ≠ separator) :
    splitOn (fun c => c = separator) (join (String.singleton separator) texts).toList =
      texts.map String.toList := by
  have noSeparator : ∀ chars ∈ texts.map String.toList, separator ∉ chars := by
    intro chars member inChars
    obtain ⟨text, isText, rfl⟩ := List.mem_map.mp member
    exact whole text isText separator inChars rfl
  have split := List.splitOn_intercalate separator noSeparator (by simpa using present)
  rw [splitOn_eq_splitOnP, join, String.toList_intercalate, String.toList_singleton]
  exact split

end Text

end ConnectorConsole
