import ConnectorConsole.Text.Uppercase
import Mathlib.Data.List.Basic
import Mathlib.Data.Nat.Bitwise

/-!
# Texts in capital letters

No character of an upper-case form has another upper-case form.  Putting a text in capital
letters twice is therefore the same as doing it once.  The two sets of letters that have to
be disjoint are compared as bit sets.
-/

namespace ConnectorConsole

namespace Text

/-- The code points of the letters that differ from their upper-case form. -/
def smallLetters : List Nat :=
  (upperRuns.flatMap fun (first, last, step, _) =>
    (List.range ((last - first) / step + 1)).map fun index => first + step * index) ++
  upperExpansions.map Prod.fst

def capitalLetters : List Nat :=
  (upperRuns.flatMap fun (first, last, step, distance) =>
    (List.range ((last - first) / step + 1)).map fun index =>
      (Int.ofNat (first + step * index) + distance).toNat) ++
  upperExpansions.flatMap Prod.snd

/-- Numbers as the number in which their bits are set. -/
def bitSet (numbers : List Nat) : Nat :=
  numbers.foldr (fun number set => 1 <<< number ||| set) 0

theorem testBit_bitSet_iff {numbers : List Nat} {number : Nat} :
    (bitSet numbers).testBit number = true ↔ number ∈ numbers := by
  induction numbers with
  | nil => simp [bitSet]
  | cons head rest ih =>
      have headBit : (1 <<< head).testBit number = true ↔ number = head := by
        rw [Nat.one_shiftLeft, Nat.testBit_two_pow, decide_eq_true_eq]
        exact eq_comm
      rw [bitSet, List.foldr_cons, ← bitSet, Nat.testBit_or, Bool.or_eq_true, headBit, ih,
        List.mem_cons]

theorem bitSet_letters : bitSet smallLetters &&& bitSet capitalLetters = 0 := by
  -- two numbers of as many bits as there are code points, not all pairs of letters
  decide +kernel

theorem not_small_of_capital {code : Nat} (capital : code ∈ capitalLetters) :
    code ∉ smallLetters := by
  intro small
  have both : (bitSet smallLetters &&& bitSet capitalLetters).testBit code = true := by
    rw [Nat.testBit_and, testBit_bitSet_iff.mpr small, testBit_bitSet_iff.mpr capital]
    rfl
  rw [bitSet_letters, Nat.zero_testBit] at both
  cases both

section Runs

variable {code first last step : Nat} {distance : Int}

/-- A letter is found in a run by its distance from the first one. -/
theorem exists_index_of_found
    (found : (upperRuns.find? fun (first, last, step, _) =>
      first ≤ code && code ≤ last && (code - first) % step == 0) =
        some (first, last, step, distance)) :
    (first, last, step, distance) ∈ upperRuns ∧
      ∃ index ∈ List.range ((last - first) / step + 1), first + step * index = code := by
  have inRun := List.find?_some found
  simp only [Bool.and_eq_true, decide_eq_true_eq, beq_iff_eq] at inRun
  obtain ⟨⟨above, below⟩, onStep⟩ := inRun
  refine ⟨List.mem_of_find?_eq_some found, (code - first) / step, List.mem_range.mpr ?_, ?_⟩
  · exact Nat.lt_succ_of_le (Nat.div_le_div_right (by omega))
  · have whole := Nat.div_add_mod (code - first) step
    omega

end Runs

theorem expansion_of_found {code : Nat} {codes : List Nat}
    (found : upperExpansions.lookup code = some codes) : (code, codes) ∈ upperExpansions := by
  obtain ⟨before, after, split, _⟩ := List.lookup_eq_some_iff.mp found
  rw [split]
  exact List.mem_append_right before List.mem_cons_self

/-- The letters that are listed nowhere are their own upper-case form. -/
theorem upperCodes_of_not_small {code : Nat} (notSmall : code ∉ smallLetters) :
    upperCodes code = [code] := by
  rw [upperCodes]
  split
  next first last step distance found =>
    obtain ⟨isRun, index, inRange, isCode⟩ := exists_index_of_found found
    refine absurd (List.mem_append_left _ (List.mem_flatMap.mpr ⟨_, isRun, ?_⟩)) notSmall
    exact List.mem_map.mpr ⟨index, inRange, isCode⟩
  next =>
    split
    next codes found =>
      refine absurd (List.mem_append_right _ ?_) notSmall
      exact List.mem_map.mpr ⟨_, expansion_of_found found, rfl⟩
    next => rfl

/-- An upper-case form consists of capital letters, or is that of a letter that is its own. -/
theorem capital_of_mem_upperCodes {code upper : Nat} (member : upper ∈ upperCodes code) :
    upper ∈ capitalLetters ∨ upperCodes upper = [upper] := by
  rw [upperCodes] at member
  split at member
  next first last step distance found =>
    obtain ⟨isRun, index, inRange, rfl⟩ := exists_index_of_found found
    refine .inl (List.mem_append_left _ (List.mem_flatMap.mpr ⟨_, isRun, ?_⟩))
    exact List.mem_map.mpr ⟨index, inRange, (List.mem_singleton.mp member).symm⟩
  next notInRun =>
    split at member
    next codes found =>
      have isExpansion := expansion_of_found found
      exact .inl (List.mem_append_right _ (List.mem_flatMap.mpr ⟨_, isExpansion, member⟩))
    next notExpanded =>
      obtain rfl := List.mem_singleton.mp member
      refine .inr ?_
      simp only [upperCodes, notInRun, notExpanded]

theorem upperCodes_of_mem_upperCodes {code upper : Nat} (member : upper ∈ upperCodes code) :
    upperCodes upper = [upper] := by
  rcases capital_of_mem_upperCodes member with capital | own
  · exact upperCodes_of_not_small (not_small_of_capital capital)
  · exact own

/-- The characters of an upper-case form are upper-case already.  A code point that is not
that of a character has become the null character, which is. -/
theorem upperChar_of_mem_upperChar {c upper : Char} (member : upper ∈ upperChar c) :
    upperChar upper = [upper] := by
  obtain ⟨code, isCode, rfl⟩ := List.mem_map.mp member
  by_cases valid : code.isValidChar
  · have sameCode : (Char.ofNat code).toNat = code := by
      rw [Char.ofNat, dif_pos valid]
      rfl
    rw [upperChar, sameCode, upperCodes_of_mem_upperCodes isCode]
    rfl
  · have isNull : Char.ofNat code = '\x00' := by
      rw [Char.ofNat, dif_neg valid]
      rfl
    rw [isNull]
    decide

@[simp]
theorem upper_empty : upper "" = "" :=
  rfl

/-- Putting a text in capital letters twice is the same as doing it once. -/
theorem upper_upper (text : String) : upper (upper text) = upper text := by
  have again : ∀ c ∈ text.toList.flatMap upperChar, upperChar c = [c] := by
    intro c member
    obtain ⟨given, _, inGiven⟩ := List.mem_flatMap.mp member
    exact upperChar_of_mem_upperChar inGiven
  rw [upper, upper, String.toList_ofList, List.flatMap_congr again, List.flatMap_singleton']

end Text

end ConnectorConsole
