import ConnectorConsole.Proofs.Web.FormReadBack
import ConnectorConsole.Web.Url

/-!
# Segments of a path

A text that is appended to a path becomes one segment, from which it can be read back.  The
exceptions are the two texts that are taken for dot segments, and texts with line controls,
which lose those.  A text whose line controls hide a dot segment even leaves a folder.
-/

namespace ConnectorConsole

namespace Percent

/-- Encoding is undone by decoding when at least the percent sign and the characters beyond
ASCII are encoded. -/
theorem decode_encode {escapes : Char → Bool}
    (kept : ∀ c, escapes c = false → c.toNat < 128 ∧ c ≠ '%') (text : String) :
    decode (encode escapes text) = text := by
  have char (c : Char) (rest : List UInt8) :
      decodeBytes ((encodeChar escapes c).flatMap String.utf8EncodeChar ++ rest) =
        String.utf8EncodeChar c ++ decodeBytes rest := by
    rw [encodeChar]
    split_ifs with escaped
    · exact decodeBytes_encodeBytes _ rest
    · obtain ⟨ascii, notPercent⟩ := kept c (Bool.eq_false_iff.mpr escaped)
      rw [List.flatMap_singleton]
      exact decodeBytes_utf8EncodeChar ascii notPercent rest
  have chars (given : List Char) :
      decodeBytes ((given.flatMap (encodeChar escapes)).flatMap String.utf8EncodeChar) =
        given.flatMap String.utf8EncodeChar := by
    induction given with
    | nil => rfl
    | cons c rest ih =>
        rw [List.flatMap_cons, List.flatMap_append, char, ih, List.flatMap_cons]
  rw [decode, encode, Utf8.encode, String.toList_ofList, chars]
  exact Utf8.repair_encode text

end Percent

namespace Url

/-- The segment that a text is written as. -/
def written (text : String) : String :=
  Percent.encode segmentEscapes text

theorem segmentEscapes_eq_false {c : Char} (kept : segmentEscapes c = false) :
    c.toNat < 128 ∧ c ≠ '%' := by
  simp only [segmentEscapes, pathEscapes, fragmentEscapes, alwaysEncoded, Bool.or_eq_false_iff,
    decide_eq_false_iff_not] at kept
  refine ⟨?_, ?_⟩
  · omega
  · rintro rfl
    simp at kept

theorem decode_written (text : String) : Percent.decode (written text) = text :=
  Percent.decode_encode (fun _ => segmentEscapes_eq_false) text

theorem written_injective : Function.Injective written :=
  Function.LeftInverse.injective decode_written

/-! ### Dot segments -/

theorem decode_of_isSingleDot {segment : String} (isDot : isSingleDot segment = true) :
    Percent.decode segment = "." := by
  have spellings : ∀ lower ∈ [".", "%2e"],
      ∀ chars ∈ (lower.toList.map fun c => [c, c.toUpper]).sections,
        Percent.decode (String.ofList chars) = "." := by
    decide
  rw [isSingleDot, List.contains_iff_mem] at isDot
  simpa using spellings _ isDot _ (Text.mem_spellings segment)

theorem decode_of_isDoubleDot {segment : String} (isDots : isDoubleDot segment = true) :
    Percent.decode segment = ".." := by
  have spellings : ∀ lower ∈ ["..", "%2e.", ".%2e", "%2e%2e"],
      ∀ chars ∈ (lower.toList.map fun c => [c, c.toUpper]).sections,
        Percent.decode (String.ofList chars) = ".." := by
    decide
  rw [isDoubleDot, List.contains_iff_mem] at isDots
  simpa using spellings _ isDots _ (Text.mem_spellings segment)

/-- Only the two dot segments themselves are written as dot segments. -/
theorem finish_written {text : String} (notDot : text ≠ ".") (notDots : text ≠ "..")
    (folders : List String) : finish folders (written text) = folders ++ [written text] := by
  have single : ¬isSingleDot (written text) = true := fun isDot =>
    notDot (by rw [← decode_written text, decode_of_isSingleDot isDot])
  have double : ¬isDoubleDot (written text) = true := fun isDots =>
    notDots (by rw [← decode_written text, decode_of_isDoubleDot isDots])
  rw [finish, if_neg double, if_neg single]

theorem written_ne_empty {text : String} (present : text ≠ "") : written text ≠ "" := by
  intro empty
  apply present
  rw [← decode_written text, empty]
  rfl

/-! ### Appending to a path -/

/-- A text that is no dot segment and has no line control in it. -/
def PlainSegment (text : String) : Prop :=
  text ≠ "." ∧ text ≠ ".." ∧ ∀ c ∈ text.toList, isLineControl c = false

instance (text : String) : Decidable (PlainSegment text) :=
  decidable_of_iff
    (text ≠ "." ∧ text ≠ ".." ∧ text.toList.all (fun c => !isLineControl c) = true)
    (by simp [PlainSegment])

variable {path : List String} {text : String}

theorem append_plain (plain : PlainSegment text) :
    append path text = (if path = [""] then [] else path) ++ [written text] := by
  obtain ⟨notDot, notDots, noControl⟩ := plain
  have kept : text.toList.filter (fun c => !isLineControl c) = text.toList :=
    List.filter_eq_self.mpr fun c member => by rw [noControl c member]; rfl
  rw [append, if_neg (by simp [notDot, notDots]), kept, String.ofList_toList]
  exact finish_written notDot notDots _

theorem foldl_append_plain {texts : List String} (plain : ∀ text ∈ texts, PlainSegment text)
    (notNil : path ≠ []) (notRoot : path ≠ [""]) :
    texts.foldl append path = path ++ texts.map written := by
  induction texts generalizing path with
  | nil => simp
  | cons text rest ih =>
      obtain ⟨first, others, rfl⟩ := List.exists_cons_of_ne_nil notNil
      rw [List.foldl_cons, append_plain (plain text List.mem_cons_self), if_neg notRoot,
        ih (fun other member => plain other (List.mem_cons_of_mem _ member)) (by simp) (by simp)]
      simp

theorem leave_cases (path : List String) : leave path = path ∨ (leave path).length < path.length := by
  rw [leave]
  cases path using List.reverseRecOn with
  | nil => exact .inl rfl
  | append_singleton front last =>
      rw [List.getLast?_concat]
      dsimp only
      split_ifs
      · exact .inl rfl
      · exact .inr (by simp)

/-- Closing a path adds one segment, or leaves a folder. -/
theorem finish_cases (folders : List String) (segment : String) :
    (finish folders segment = folders ++ [segment] ∨ finish folders segment = folders ++ [""]) ∨
      (finish folders segment).length ≤ folders.length := by
  rw [finish]
  split_ifs
  · rcases leave_cases folders with stays | leaves
    · exact .inl (.inr (by rw [stays]))
    · exact .inr (by simpa using Nat.succ_le_of_lt leaves)
  · exact .inl (.inr rfl)
  · exact .inl (.inl rfl)

theorem length_finish_le (folders : List String) (segment : String) :
    (finish folders segment).length ≤ folders.length + 1 := by
  rcases finish_cases folders segment with (isAdded | isAdded) | shorter
  · simp [isAdded]
  · simp [isAdded]
  · omega

theorem length_append_le (path : List String) (text : String) :
    (append path text).length ≤ path.length + 1 := by
  rw [append]
  split_ifs with isDot isRoot
  · omega
  · exact (length_finish_le [] _).trans (by simp)
  · exact length_finish_le path _

/-- Any other text is passed over, leaves a folder, or becomes a segment that stands for another
text. -/
theorem append_not_plain (notPlain : ¬PlainSegment text) (notRoot : path ≠ [""]) :
    (append path text).length ≤ path.length ∨
      ∃ segment, append path text = path ++ [segment] ∧ Percent.decode segment ≠ text := by
  rw [append, if_neg notRoot]
  split_ifs with isDot
  · exact .inl le_rfl
  · have controlled : ∃ c ∈ text.toList, isLineControl c = true := by
      simpa [PlainSegment, not_or.mp isDot] using notPlain
    obtain ⟨c, member, isControl⟩ := controlled
    have lost (segment : String) (kept : c ∉ (Percent.decode segment).toList) :
        Percent.decode segment ≠ text := by
      rintro rfl
      exact kept member
    rcases finish_cases path (written (String.ofList (text.toList.filter fun c =>
      !isLineControl c))) with (isAdded | isAdded) | shorter
    · refine .inr ⟨_, isAdded, lost _ ?_⟩
      simp [decode_written, isControl]
    · exact .inr ⟨_, isAdded, lost _ (by simp [show Percent.decode "" = "" from rfl])⟩
    · exact .inl shorter

theorem length_foldl_append_le (path texts : List String) :
    (texts.foldl append path).length ≤ path.length + texts.length := by
  induction texts generalizing path with
  | nil => exact le_rfl
  | cons text rest ih =>
      have first := length_append_le path text
      have others := ih (append path text)
      simp only [List.foldl_cons, List.length_cons]
      omega

/-- A text is read back from its place between plain segments exactly when it is plain. -/
theorem append_in_place_iff {after : List String} (notNil : path ≠ []) (notRoot : path ≠ [""])
    (plainAfter : ∀ other ∈ after, PlainSegment other) :
    (∃ segment, Percent.decode segment = text ∧
      after.foldl append (append path text) = path ++ segment :: after.map written) ↔
    PlainSegment text := by
  have longer (segment : String) : path ++ [segment] ≠ [""] := by
    intro isRoot
    exact notNil (List.length_eq_zero_iff.mp (by simpa using congrArg List.length isRoot))
  constructor
  · rintro ⟨segment, standsFor, inPlace⟩
    by_contra notPlain
    rcases append_not_plain notPlain notRoot with shorter | ⟨other, isAdded, lost⟩
    · -- what comes after cannot make up for the segment that is missing
      have total := congrArg List.length inPlace
      have others := length_foldl_append_le (append path text) after
      simp only [List.length_append, List.length_cons, List.length_map] at total
      omega
    · rw [isAdded, foldl_append_plain plainAfter (by simp) (longer other), List.append_assoc,
        List.append_cancel_left_eq, List.singleton_append, List.cons.injEq] at inPlace
      exact lost (inPlace.1 ▸ standsFor)
  · intro plain
    refine ⟨written text, decode_written text, ?_⟩
    rw [append_plain plain, if_neg notRoot, foldl_append_plain plainAfter (by simp) (longer _)]
    simp

/-! ### Addresses under a base address -/

/-- A path without one empty segment at its end. -/
def trunk (path : List String) : List String :=
  if path.getLast? = some "" then path.dropLast else path

theorem folders_eq (path : List String) :
    folders path = if trunk path = [""] then [] else trunk path := by
  rw [folders, trunk]
  cases path using List.reverseRecOn with
  | nil => rfl
  | append_singleton front last =>
      by_cases isEmpty : last = ""
      · simp [isEmpty]
      · simp [isEmpty]

theorem folders_ne_root (path : List String) : folders path ≠ [""] := by
  rw [folders_eq]
  split_ifs with isRoot
  · simp
  · exact isRoot

theorem trunk_eq_root_iff : trunk path = [""] ↔ path = ["", ""] := by
  constructor
  · intro isRoot
    rw [trunk] at isRoot
    split_ifs at isRoot with closed
    · rw [← List.dropLast_append_getLast? _ closed, isRoot]
      rfl
    · rw [isRoot] at closed
      exact absurd rfl closed
  · rintro rfl
    rfl

theorem folders_eq_trunk_iff : folders path = trunk path ↔ path ≠ ["", ""] := by
  rw [folders_eq, ne_eq, ← trunk_eq_root_iff]
  split_ifs with isRoot <;> simp [isRoot]

theorem folders_eq_trunk (long : (trunk path).length ≤ (folders path).length) :
    folders path = trunk path := by
  rw [folders_eq] at long ⊢
  split_ifs at long ⊢ with isRoot
  · simp [isRoot] at long
  · rfl

theorem append_cons_ne_root (folders : List String) {segment : String} (named : segment ≠ "")
    (rest : List String) : folders ++ segment :: rest ≠ [""] := by
  cases folders with
  | nil => simp [named]
  | cons folder others => simp

theorem endpoint_append (base : Url) (front rest : List String) :
    (base.endpoint (front ++ rest)).path = rest.foldl append (base.endpoint front).path := by
  simp only [endpoint, List.foldl_append]

/-- Plain segments follow the folders of the base address, each in encoded form. -/
theorem path_endpoint (base : Url) {first : String} {rest : List String} (named : first ≠ "")
    (plain : ∀ text ∈ first :: rest, PlainSegment text) :
    (base.endpoint (first :: rest)).path = folders base.path ++ (first :: rest).map written := by
  have start : (base.endpoint [first]).path = folders base.path ++ [written first] := by
    rw [endpoint]
    simp only [List.foldl_cons, List.foldl_nil]
    rw [append_plain (plain first List.mem_cons_self)]
    cases isRoot : folders base.path with
    | nil => rfl
    | cons folder others =>
        have kept : folder :: others ≠ [""] := isRoot ▸ folders_ne_root base.path
        dsimp only
        rw [if_neg kept]
  have others : ∀ text ∈ rest, PlainSegment text := fun text member =>
    plain text (List.mem_cons_of_mem _ member)
  rw [← List.singleton_append, endpoint_append, start,
    foldl_append_plain others (by simp) (append_cons_ne_root _ (written_ne_empty named) _)]
  simp

/-- A text is read back from the place that the plain segments around it leave, exactly when
it is plain itself and the base address keeps its segments. -/
theorem segment_in_place_iff (base : Url) {first : String} {before after : List String}
    (named : first ≠ "") (plainBefore : ∀ text ∈ first :: before, PlainSegment text)
    (plainAfter : ∀ text ∈ after, PlainSegment text) :
    (∃ segment, Percent.decode segment = text ∧
      (base.endpoint (first :: before ++ text :: after)).path =
        trunk base.path ++ (first :: before).map written ++ segment :: after.map written) ↔
    PlainSegment text ∧ base.path ≠ ["", ""] := by
  have notRoot : folders base.path ++ (first :: before).map written ≠ [""] :=
    append_cons_ne_root _ (written_ne_empty named) _
  have inPlace : _ ↔ PlainSegment text := append_in_place_iff (by simp) notRoot plainAfter
  rw [endpoint_append, path_endpoint base named plainBefore, List.foldl_cons, ← inPlace,
    ← folders_eq_trunk_iff]
  constructor
  · rintro ⟨segment, standsFor, isPath⟩
    have keepsRoot : folders base.path = trunk base.path := by
      -- no appended text adds more than one segment, so none of the base path is lost
      have total := congrArg List.length isPath
      have one := length_append_le (folders base.path ++ (first :: before).map written) text
      have others := length_foldl_append_le
        (append (folders base.path ++ (first :: before).map written) text) after
      simp only [List.length_append, List.length_cons, List.length_map] at total one
      exact folders_eq_trunk (by omega)
    exact ⟨⟨segment, standsFor, by rw [isPath, keepsRoot]⟩, keepsRoot⟩
  · rintro ⟨⟨segment, standsFor, isPath⟩, keepsRoot⟩
    exact ⟨segment, standsFor, by rw [isPath, keepsRoot]⟩

end Url

end ConnectorConsole
