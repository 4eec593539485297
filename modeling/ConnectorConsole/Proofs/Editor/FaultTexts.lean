import ConnectorConsole.Editor.Build
import ConnectorConsole.Proofs.Json.Openings

/-!
# The wording of faults that keep a form from building

What is said about a form that does not build is a sentence.  It quotes what the operator
typed, but it begins with words of its own, so that it is never taken for a JSON object.
-/

namespace ConnectorConsole

namespace Text

/-- A text that begins neither with filler nor with the brace of a JSON object. -/
def Sentence (text : String) : Prop :=
  ∃ c, text.toList.head? = some c ∧ Cursor.isFiller c = false ∧ c ≠ '\x7b'

theorem Sentence.append {start : String} (sentence : Sentence start) (rest : String) :
    Sentence (start ++ rest) := by
  obtain ⟨c, first, properties⟩ := sentence
  refine ⟨c, ?_, properties⟩
  rw [String.toList_append, List.head?_append, first, Option.some_or]

/-- A sentence is read as no object, if it is read at all. -/
theorem Sentence.not_object {text : String} (sentence : Sentence text) {value : Json}
    (isRead : Json.read text = .ok value) : ∀ entries, value ≠ .object entries := by
  obtain ⟨c, first, notFiller, notBrace⟩ := sentence
  exact Json.not_object_of_read isRead first notFiller notBrace

end Text

open Text

/-- An outcome whose problem, if it has one, is worded as a sentence. -/
def Worded {α : Type} (outcome : Except BuildProblem α) : Prop :=
  ∀ problem, outcome = .error problem → Sentence problem.fault.message

namespace Worded

variable {α β : Type}

theorem ok (value : α) : Worded (.ok value) :=
  nofun

theorem error {problem : BuildProblem} (sentence : Sentence problem.fault.message) :
    Worded (.error problem : Except BuildProblem α) := by
  rintro _ ⟨⟩
  exact sentence

theorem bind {outcome : Except BuildProblem α} {rest : α → Except BuildProblem β}
    (first : Worded outcome) (second : ∀ value, Worded (rest value)) :
    Worded (outcome >>= rest) := by
  cases outcome with
  | ok value => exact second value
  | error problem => exact error (first problem rfl)

theorem map {outcome : Except BuildProblem α} (f : α → β) (worded : Worded outcome) :
    Worded (outcome.map f) := by
  cases outcome with
  | ok value => exact ok _
  | error problem => exact error (worded problem rfl)

theorem readName [Named α] (complaint : ∀ text names, Sentence (Named.complaint α text names))
    (text : String) : Worded (Form.readName text : Except BuildProblem α) := by
  rw [Form.readName, Named.read]
  split
  · exact ok _
  · exact error (complaint _ _)

end Worded

namespace Form

variable (form : Form)

theorem worded_readPayload (text : String) : Worded (readPayload text) := by
  rw [readPayload]
  split
  · exact .ok _
  · split
    · exact .error (.append ⟨'P', rfl, by decide⟩ _)
    · exact .ok _
    · exact .ok _
    · exact .error ⟨'P', rfl, by decide⟩

theorem worded_readHeaders (text : String) : Worded (readHeaders text) := by
  rw [readHeaders]
  split
  · exact .ok _
  · split
    · exact .error (.append ⟨'H', rfl, by decide⟩ _)
    · exact .ok _
    · exact .error ⟨'H', rfl, by decide⟩

theorem worded_checkSourceType : Worded form.checkSourceType := by
  rw [checkSourceType]
  split
  · exact .ok _
  · have named : Sentence form.mode.name := by
      cases form.mode <;> exact ⟨_, rfl, by decide⟩
    exact .error (((((named.append _).append _).append _).append _).append _)

theorem worded_client : Worded form.client := by
  rw [client]
  split
  · exact .error (.append ⟨'O', rfl, by decide⟩ _)
  dsimp only
  split
  · exact .error (.append ⟨'O', rfl, by decide⟩ _)
  split
  · exact .ok _
  · refine .bind (.readName (fun _ _ => ?_) _) fun _ => .ok _
    exact ((Sentence.append ⟨'I', rfl, by decide⟩ _).append _).append _

theorem worded_restAuth : Worded form.restAuth := by
  rw [restAuth]
  split
  · exact .ok _
  · exact form.worded_client.map _

theorem worded_source : Worded form.source := by
  rw [source]
  split
  · refine .bind (.readName (fun _ _ => ?_) _) fun _ => .ok _
    exact ((Sentence.append ⟨'S', rfl, by decide⟩ _).append _).append _
  · exact form.worded_checkSourceType.bind fun _ => form.worded_restAuth.bind fun _ =>
      (worded_readPayload _).bind fun _ => (worded_readHeaders _).bind fun _ => .ok _
  · exact form.worded_checkSourceType.bind fun _ => .ok _
  · refine form.worded_checkSourceType.bind fun _ => ?_
    split
    · exact .error ⟨'f', rfl, by decide⟩
    · refine .bind (.readName (fun _ _ => ?_) _) fun _ => .ok _
      exact ((Sentence.append ⟨'I', rfl, by decide⟩ _).append _).append _

theorem worded_assemble : Worded form.assemble := by
  rw [assemble]
  refine form.worded_source.bind fun _ => .bind (.readName (fun _ _ => ?_) _) fun _ => ?_
  · exact ((Sentence.append ⟨'I', rfl, by decide⟩ _).append _).append _
  split
  · exact .ok _
  · exact .error (((Sentence.append ⟨'I', rfl, by decide⟩ _).append _).append _)

/-- What keeps a form from building is said in a sentence. -/
theorem sentence_of_build {problem : BuildProblem} (refused : form.build = .error problem) :
    Sentence problem.fault.message :=
  form.applyDefaults.worded_assemble problem refused

end Form

end ConnectorConsole
