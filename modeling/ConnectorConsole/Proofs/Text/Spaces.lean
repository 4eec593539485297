import ConnectorConsole.Proofs.Text.Trimming
import Mathlib.Data.String.Lemmas

/-!
# Texts among spaces

A line of a terminal goes on with spaces as far as one looks.  What stands at given positions of
it does not depend on the spaces at its end, so that trimming a text whose only blanks are spaces
changes nothing that can be read by position.
-/

namespace ConnectorConsole

namespace Text

/-- A text whose only blanks are spaces. -/
def Plain (text : String) : Prop :=
  ∀ c ∈ text.toList, isBlank c = true → c = ' '

instance (text : String) : Decidable (Plain text) :=
  decidable_of_iff (text.toList.all (fun c => !isBlank c || c == ' ') = true)
    (by simp [Plain, or_iff_not_imp_left])

/-- The characters of a text at so many positions from `start` on, as far as it reaches. -/
def slice (text : String) (start size : Nat) : String :=
  String.ofList ((text.toList.drop start).take size)

/-- The text at so many positions of a line, from `start` on, when spaces follow the line. -/
def textAt (line : String) (start size : Nat) : String :=
  slice (line.rightpad (start + size)) start size

theorem toList_rightpad (text : String) (width : Nat) :
    (text.rightpad width).toList = text.toList ++ List.replicate (width - text.length) ' ' := by
  rw [String.rightpad, String.replicate, String.toList_append, String.toList_ofList]

theorem length_rightpad (text : String) (width : Nat) :
    (text.rightpad width).length = max width text.length := by
  rw [← String.length_toList, toList_rightpad, List.length_append, List.length_replicate,
    String.length_toList]
  omega

theorem rightpad_of_length_le {text : String} {width : Nat} (long : width ≤ text.length) :
    text.rightpad width = text := by
  rw [String.rightpad, Nat.sub_eq_zero_of_le long]
  exact String.append_empty

theorem rightpad_rightpad (text : String) (first second : Nat) :
    (text.rightpad first).rightpad second = text.rightpad (max first second) := by
  have together : first - text.length + (second - max first text.length) =
      max first second - text.length := by omega
  rw [← String.toList_inj, toList_rightpad, toList_rightpad, toList_rightpad, length_rightpad,
    List.append_assoc, List.replicate_append_replicate, together]

section Positions

variable {text : String} {start size : Nat}

theorem length_slice : (slice text start size).length = min size (text.length - start) := by
  rw [slice, String.length_ofList, List.length_take, List.length_drop, String.length_toList]

/-- In a line that goes on far enough, what the text itself holds comes first, and spaces fill the
rest. -/
theorem slice_rightpad {width : Nat} (farEnough : start + size ≤ width) :
    slice (text.rightpad width) start size = (slice text start size).rightpad size := by
  have filled : min (size - (text.length - start)) (width - text.length - (start - text.length)) =
      size - min size (text.length - start) := by omega
  rw [← String.toList_inj, toList_rightpad, length_slice, slice, slice, String.toList_ofList,
    String.toList_ofList, toList_rightpad, List.drop_append, List.take_append,
    List.drop_replicate, List.take_replicate, List.length_drop, String.length_toList, filled]

theorem textAt_eq_rightpad :
    textAt text start size = (slice text start size).rightpad size :=
  slice_rightpad le_rfl

theorem length_textAt : (textAt text start size).length = size := by
  rw [textAt_eq_rightpad, length_rightpad, length_slice]
  omega

/-- No spaces are needed where the line reaches. -/
theorem textAt_eq_slice (within : start + size ≤ text.length) :
    textAt text start size = slice text start size := by
  rw [textAt, rightpad_of_length_le within]

/-- Spaces at the end of a line are no part of what it holds. -/
theorem textAt_rightpad (width : Nat) :
    textAt (text.rightpad width) start size = textAt text start size := by
  rw [textAt, rightpad_rightpad, slice_rightpad (Nat.le_max_right _ _), textAt_eq_rightpad]

/-- Positions inside a part of a line are positions of the line. -/
theorem textAt_textAt {inner count : Nat} (inside : inner + count ≤ size) :
    textAt (textAt text start size) inner count = textAt text (start + inner) count := by
  have farEnough : start + inner + count ≤ start + size := by omega
  have onLine : textAt text (start + inner) count =
      slice (text.rightpad (start + size)) (start + inner) count :=
    textAt_eq_rightpad.trans (slice_rightpad farEnough).symm
  rw [textAt_eq_slice (length_textAt.symm ▸ inside), onLine, textAt, slice, slice, slice,
    String.toList_ofList, List.drop_take, List.take_take, List.drop_drop,
    Nat.min_eq_left (by omega)]

theorem textAt_zero (fits : text.length ≤ size) : textAt text 0 size = text.rightpad size := by
  rw [textAt_eq_rightpad, slice, List.drop_zero,
    List.take_of_length_le (by rwa [String.length_toList]), String.ofList_toList]

theorem textAt_of_length_le (behind : text.length ≤ start) :
    textAt text start size = String.replicate size ' ' := by
  rw [textAt_eq_rightpad, slice, List.drop_of_length_le (by rwa [String.length_toList]),
    List.take_nil, String.rightpad]
  exact String.empty_append

end Positions

/-- Spaces at the end of a text go with trimming. -/
theorem trimEnd_rightpad (text : String) (width : Nat) :
    trimEnd (text.rightpad width) = trimEnd text := by
  have dropped (count : Nat) :
      trimRight (text.toList ++ List.replicate count ' ') = trimRight text.toList := by
    induction count with
    | zero => rw [List.replicate_zero, List.append_nil]
    | succ count ih =>
        rw [List.replicate_succ', ← List.append_assoc, trimRight_eq_rdropWhile,
          List.rdropWhile_concat_pos _ _ _ rfl]
        exact ih
  rw [trimEnd, toList_rightpad, dropped, trimEnd]

/-- A text whose only blanks are spaces is its trimmed form with spaces behind it. -/
theorem rightpad_trimEnd {text : String} (plain : Plain text) :
    (trimEnd text).rightpad text.length = text := by
  have whole : (trimEnd text).toList ++ text.toList.rtakeWhile isBlank = text.toList := by
    rw [trimEnd, String.toList_ofList, trimRight_eq_rdropWhile]
    exact List.rdropWhile_append_rtakeWhile
  have length := congrArg List.length whole
  rw [List.length_append, String.length_toList, String.length_toList] at length
  have spaces : text.toList.rtakeWhile isBlank =
      List.replicate (text.length - (trimEnd text).length) ' ' := by
    rw [List.eq_replicate_iff]
    refine ⟨by omega, fun c member => plain c ?_ (List.mem_rtakeWhile_imp member)⟩
    exact (List.rtakeWhile_suffix isBlank text.toList).subset member
  rw [← String.toList_inj, toList_rightpad, ← spaces, whole]

theorem length_trimEnd_le (text : String) : (trimEnd text).length ≤ text.length := by
  rw [trimEnd, String.length_ofList, trimRight_eq_rdropWhile, ← String.length_toList]
  exact (List.rdropWhile_prefix isBlank text.toList).length_le

theorem Plain.trimEnd {text : String} (plain : Plain text) : Plain (trimEnd text) := by
  intro c member
  rw [Text.trimEnd, String.toList_ofList, trimRight_eq_rdropWhile] at member
  exact plain c ((List.rdropWhile_prefix isBlank text.toList).subset member)

/-- Trimming changes nothing that is read by position. -/
theorem textAt_trimEnd {text : String} (plain : Plain text) (start size : Nat) :
    textAt (trimEnd text) start size = textAt text start size := by
  rw [← textAt_rightpad text.length, rightpad_trimEnd plain]

/-- A separator behind the last of the texts stands behind each of them. -/
theorem join_append_separator {separator : String} {texts : List String} (present : texts ≠ []) :
    join separator texts ++ separator = String.join (texts.map (· ++ separator)) := by
  induction texts with
  | nil => exact absurd rfl present
  | cons first rest ih =>
      cases rest with
      | nil => simp [join]
      | cons second rest =>
          rw [join, String.intercalate_cons_cons, String.append_assoc, List.map_cons,
            String.join_cons, ← ih (List.cons_ne_nil second rest)]
          rfl

/-- Two spaces behind the last of the texts are dropped with the blanks at its end. -/
theorem trimEnd_join_spaces (texts : List String) :
    trimEnd (join "  " texts) = trimEnd (String.join (texts.map (· ++ "  "))) := by
  cases texts with
  | nil => rfl
  | cons first rest =>
      have padded : join "  " (first :: rest) ++ "  " =
          (join "  " (first :: rest)).rightpad ((join "  " (first :: rest)).length + 2) := by
        rw [String.rightpad, Nat.add_sub_cancel_left]
        rfl
      rw [← join_append_separator (List.cons_ne_nil first rest), padded, trimEnd_rightpad]

end Text

end ConnectorConsole
