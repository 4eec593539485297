import ConnectorConsole.Json.Reader

/-!
# What scans read

A scan reads a value off the front of a text, whatever the place it starts at.  The
rules follow the steps that a scan is made of, so that a scan is followed through a
text without looking at the marks of the cursor.
-/

namespace ConnectorConsole

namespace Scan

variable {α β : Type}

/-- A scan turns a text into a value and the rest of the text. -/
def Reads (scan : Scan α) (text : List Char) (value : α) (rest : List Char) : Prop :=
  ∀ mark, ∃ last, scan ⟨text, mark⟩ = .ok value ⟨rest, last⟩

/-- The text does not go on with a character that satisfies a test. -/
def Stops (test : Char → Bool) (text : List Char) : Prop :=
  ∀ c ∈ text.head?, test c = false

@[simp]
theorem stops_nil (test : Char → Bool) : Stops test [] := by
  simp [Stops]

@[simp]
theorem stops_cons {test : Char → Bool} {c : Char} {rest : List Char} :
    Stops test (c :: rest) ↔ test c = false := by
  simp [Stops]

theorem Reads.pure (value : α) (text : List Char) : Reads (pure value) text value text :=
  fun mark => ⟨mark, rfl⟩

theorem Reads.bind {scan : Scan α} {next : α → Scan β} {text between rest : List Char} {part : α}
    {value : β} (first : Reads scan text part between)
    (second : Reads (next part) between value rest) :
    Reads (scan >>= next) text value rest := by
  intro mark
  obtain ⟨middle, isFirst⟩ := first mark
  obtain ⟨last, isSecond⟩ := second middle
  refine ⟨last, ?_⟩
  change EStateM.bind scan next ⟨text, mark⟩ = _
  rw [EStateM.bind, isFirst]
  exact isSecond

theorem Reads.map {scan : Scan α} {text rest : List Char} {part : α} (f : α → β)
    (reads : Reads scan text part rest) :
    Reads (do return f (← scan)) text (f part) rest :=
  reads.bind (.pure _ _)

theorem Reads.peek (text : List Char) : Reads peek text text.head? text :=
  fun mark => ⟨mark, rfl⟩

theorem Reads.bump (c : Char) (rest : List Char) : Reads bump (c :: rest) () rest :=
  fun mark => ⟨mark.after c, rfl⟩

theorem Reads.stepsLeft (text : List Char) :
    Reads Json.stepsLeft text (text.length + 1) text :=
  fun mark => ⟨mark, rfl⟩

theorem takeWhile_append_of_stops {test : Char → Bool} {run rest : List Char}
    (inside : ∀ c ∈ run, test c = true) (stops : Stops test rest) :
    (run ++ rest).takeWhile test = run ∧ (run ++ rest).dropWhile test = rest := by
  rw [List.takeWhile_append_of_pos inside, List.dropWhile_append_of_pos inside]
  cases rest with
  | nil => simp
  | cons c rest => simp [stops_cons.mp stops]

theorem Reads.takeWhile {test : Char → Bool} {run rest : List Char}
    (inside : ∀ c ∈ run, test c = true) (stops : Stops test rest) :
    Reads (takeWhile test) (run ++ rest) run rest := by
  intro mark
  obtain ⟨taken, left⟩ := takeWhile_append_of_stops inside stops
  refine ⟨mark.afterAll run, ?_⟩
  change EStateM.Result.ok ((run ++ rest).takeWhile test)
    (Cursor.mk ((run ++ rest).dropWhile test) (mark.afterAll ((run ++ rest).takeWhile test))) = _
  rw [taken, left]

theorem Reads.peekToken {filler rest : List Char}
    (inside : ∀ c ∈ filler, Cursor.isFiller c = true) (stops : Stops Cursor.isFiller rest) :
    Reads peekToken (filler ++ rest) rest.head? rest := by
  intro mark
  obtain ⟨taken, left⟩ := takeWhile_append_of_stops inside stops
  refine ⟨mark.afterAll filler, ?_⟩
  change EStateM.Result.ok ((filler ++ rest).dropWhile Cursor.isFiller).head?
    (Cursor.mk ((filler ++ rest).dropWhile Cursor.isFiller)
      (mark.afterAll ((filler ++ rest).takeWhile Cursor.isFiller))) = _
  rw [taken, left]

/-- The next character is a token when it is not filler. -/
theorem Reads.token {c : Char} (rest : List Char) (notFiller : Cursor.isFiller c = false) :
    Reads Scan.peekToken (c :: rest) (some c) (c :: rest) :=
  Reads.peekToken (List.forall_mem_nil _) (stops_cons.mpr notFiller)

theorem Reads.closing {inside : Scan α} {ending : Scan Unit} {text between rest : List Char}
    {value : α} (first : Reads inside text value between) (second : Reads ending between () rest) :
    Reads (closing inside ending) text value rest := by
  intro mark
  obtain ⟨middle, isFirst⟩ := first mark
  obtain ⟨last, isSecond⟩ := second middle
  exact ⟨last, by simp only [Scan.closing, isFirst, isSecond]⟩

/-- A property of every value that a scan returns. -/
def Yields (scan : Scan α) (property : α → Prop) : Prop :=
  ∀ cursor value last, scan cursor = .ok value last → property value

namespace Yields

theorem pure {property : α → Prop} {value : α} (holds : property value) :
    Yields (pure value) property := by
  intro cursor result last isResult
  cases isResult
  exact holds

theorem throw {property : α → Prop} (failure : ReadFailure) :
    Yields (throw failure) property := by
  intro cursor result last isResult
  cases isResult

theorem bind {scan : Scan α} {next : α → Scan β} {part : α → Prop} {property : β → Prop}
    (first : Yields scan part) (second : ∀ value, part value → Yields (next value) property) :
    Yields (scan >>= next) property := by
  intro cursor result last isResult
  change EStateM.bind scan next cursor = _ at isResult
  cases isFirst : scan cursor with
  | ok value middle =>
      simp only [EStateM.bind, isFirst] at isResult
      exact second value (first _ _ _ isFirst) _ _ _ isResult
  | error failure middle =>
      simp only [EStateM.bind, isFirst] at isResult
      cases isResult

theorem trivial (scan : Scan α) : Yields scan fun _ => True :=
  fun _ _ _ _ => True.intro

/-- What a scan returns does not depend on a part about which nothing is known. -/
theorem after {scan : Scan α} {next : α → Scan β} {property : β → Prop}
    (second : ∀ value, Yields (next value) property) : Yields (scan >>= next) property :=
  (trivial scan).bind fun value _ => second value

theorem closing {inside : Scan α} {ending : Scan Unit} {property : α → Prop}
    (yields : Yields inside property) : Yields (closing inside ending) property := by
  intro cursor result last isResult
  rw [Scan.closing] at isResult
  cases isInside : inside cursor with
  | ok value middle =>
      rw [isInside] at isResult
      cases isEnding : ending middle with
      | ok _ _ =>
          simp only [isEnding] at isResult
          cases isResult
          exact yields _ _ _ isInside
      | error _ _ => simp only [isEnding] at isResult; cases isResult
  | error failure middle =>
      rw [isInside] at isResult
      cases isEnding : ending middle <;> simp only [isEnding] at isResult <;> cases isResult

end Yields

end Scan

end ConnectorConsole
