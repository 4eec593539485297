import ConnectorConsole.CommandLine.Invocation

/-!
# Words of a command line

What single words do to the reading of a command: a name opens a subcommand, an option
takes its value from the same word or from the next one, and a value that stands alone is
noted once the next word or the end is reached.
-/

namespace ConnectorConsole

namespace CommandReading

section Words

variable {reading next : CommandReading} {word name value : String} {rest : List String}
  {option : OptionSpec}

theorem run_subcommand {sub : CommandSpec} {below : List Given}
    (admits : reading.admitsSubcommand = true) (isSub : reading.spec.subcommand? word = some sub)
    (inner : run (start sub (reading.spec.shared ++ reading.inherited)) rest = .ok below)
    (nothingHeld : reading.pending = .none) :
    run reading (word :: rest) = .ok (⟨reading.spec.name, reading.given⟩ :: below) := by
  rw [run, if_pos admits, isSub]
  dsimp only
  rw [inner, settle, nothingHeld]
  rfl

theorem run_word (admits : reading.admitsSubcommand = false)
    (isRead : reading.readWord word = .ok next) : run reading (word :: rest) = run next rest := by
  rw [run, if_neg (Bool.eq_false_iff.mp admits), isRead]
  rfl

theorem note_fresh (fresh : reading.given.any (fun entry => entry.1 == option.name) = false)
    (admitted : option.complaint value = none) :
    reading.note option value =
      .ok { reading with given := reading.given ++ [(option.name, value)] } := by
  rw [note, fresh, Bool.and_false, if_neg Bool.false_ne_true, admitted]

/-- An option with its value in the same word. -/
theorem readOption_attached (isOther : ¬(name = "help" ∨ name = "version"))
    (isOption : reading.option? name = some option) (takesValue : option.takesValue = true)
    (settles : reading.settle = .ok next) :
    reading.readOption name (some value) = next.note option value := by
  unfold readOption
  rw [if_neg isOther, isOption]
  dsimp only
  rw [if_pos takesValue, settles]
  rfl

theorem readOption_alone (isOther : ¬(name = "help" ∨ name = "version"))
    (isOption : reading.option? name = some option) (takesValue : option.takesValue = true)
    (settles : reading.settle = .ok next) :
    reading.readOption name none = .ok { next with pending := .awaiting option } := by
  unfold readOption
  rw [if_neg isOther, isOption]
  dsimp only
  rw [settles]
  exact if_pos takesValue

theorem readWord_value (options : reading.argumentsOnly = false) (plain : shape word = .plain)
    (awaits : reading.pending = .awaiting option) :
    reading.readWord word = .ok { reading with pending := .held option word } := by
  rw [readWord, options, plain, CommandReading.awaits, awaits]
  rfl

end Words

end CommandReading

/-- The command that submits what a wizard makes for a connector. -/
def StudioCommand.ofWizard (wizard : WizardMode) (id : String) : StudioCommand :=
  .propose ⟨wizard, some id, none, none, []⟩ none

namespace Invocation

open CommandReading

/-- A command for a wizard and a connector, with nothing else asked for. -/
def ofWizard (wizard : WizardMode) (id : String) : Invocation :=
  ⟨⟨none, none, none, none⟩, .studio (.ofWizard wizard id)⟩

theorem complaint_typed {α : Type} (name : String) {read : String → Option α} {value : String}
    (readable : (read value).isSome = true) : (typed name read).complaint value = none := by
  rw [typed, OptionSpec.checked]
  exact if_pos readable

section Wizard

variable (wizard : WizardMode) (id : String)

theorem wizard?_name : wizard? (Named.name wizard) = some wizard := by
  cases wizard with
  | run => rfl
  | propose action => cases action <;> rfl

theorem shape_wizardName : shape (Named.name wizard) = .plain := by
  cases wizard with
  | run => rfl
  | propose action => cases action <;> rfl

theorem shape_connector : shape ("--connector=" ++ id) = .long "connector" (some id) := by
  have chars : ("--connector=" ++ id).toList = "--connector=".toList ++ id.toList := by simp
  rw [shape, chars]
  change Shape.long "connector" (some (String.ofList id.toList)) = _
  rw [String.ofList_toList]

def wizardOption : OptionSpec :=
  typed "wizard" wizard?

/-- The reading of the command that submits a proposal. -/
def submitting (given : List (String × String)) (pending : PendingValue) : CommandReading :=
  ⟨.mk "propose" (draftOptions ++ [typed "action" action?]) [] [] [], settingOptions, given,
    pending, false, []⟩

theorem settle_wizard :
    (submitting [] (.held wizardOption (Named.name wizard))).settle =
      .ok (submitting [("wizard", Named.name wizard)] .none) := by
  have admitted : wizardOption.complaint (Named.name wizard) = none :=
    complaint_typed "wizard" (by rw [wizard?_name]; rfl)
  change (submitting [] .none).note wizardOption (Named.name wizard) = _
  rw [note_fresh rfl admitted]
  rfl

theorem note_connector :
    (submitting [("wizard", Named.name wizard)] .none).note (.text "connector") id =
      .ok (submitting [("wizard", Named.name wizard), ("connector", id)] .none) :=
  note_fresh rfl rfl

theorem option?_connector (given : List (String × String)) (pending : PendingValue) :
    (submitting given pending).option? "connector" = some (.text "connector") :=
  rfl

/-- The words after the name of a wizard decide what is read. -/
theorem read_of_connector {words : List String}
    (noted : (submitting [] (.held wizardOption (Named.name wizard))).run words =
      .ok [⟨"propose", [("wizard", Named.name wizard), ("connector", id)]⟩]) :
    read ("studio" :: "propose" :: "--wizard" :: Named.name wizard :: words) =
      .ok (ofWizard wizard id) := by
  have awaits : (submitting [] .none).readWord "--wizard" =
      .ok (submitting [] (.awaiting wizardOption)) := rfl
  have named : (submitting [] (.awaiting wizardOption)).readWord (Named.name wizard) =
      .ok (submitting [] (.held wizardOption (Named.name wizard))) :=
    readWord_value rfl (shape_wizardName wizard) rfl
  have given :
      consoleSpec.read ("studio" :: "propose" :: "--wizard" :: Named.name wizard :: words) =
        .ok [⟨"console", []⟩, ⟨"studio", []⟩,
          ⟨"propose", [("wizard", Named.name wizard), ("connector", id)]⟩] := by
    -- two names of subcommands, then the words of the innermost command
    refine run_subcommand rfl rfl ?_ rfl
    refine run_subcommand rfl rfl ?_ rfl
    change (submitting [] .none).run _ = _
    rw [run_word rfl awaits, run_word rfl named]
    exact noted
  rw [read, given]
  cases wizard with
  | run => rfl
  | propose action => cases action <;> rfl

/-- The connector stands in the word of its option, whatever it is called. -/
theorem read_attached :
    read ["studio", "propose", "--wizard", Named.name wizard, "--connector=" ++ id] =
      .ok (ofWizard wizard id) := by
  have isOption := option?_connector [] (.held wizardOption (Named.name wizard))
  have noted : (submitting [] (.held wizardOption (Named.name wizard))).readWord
      ("--connector=" ++ id) =
        .ok (submitting [("wizard", Named.name wizard), ("connector", id)] .none) := by
    rw [readWord, shape_connector]
    exact (readOption_attached (by decide) isOption rfl (settle_wizard wizard)).trans
      (note_connector wizard id)
  refine read_of_connector wizard id ?_
  rw [run_word rfl noted]
  rfl

/-- The connector stands in a word of its own, which does not look like an option. -/
theorem read_alone (plain : shape id = .plain) :
    read ["studio", "propose", "--wizard", Named.name wizard, "--connector", id] =
      .ok (ofWizard wizard id) := by
  have isOption := option?_connector [] (.held wizardOption (Named.name wizard))
  have awaits : (submitting [] (.held wizardOption (Named.name wizard))).readWord "--connector" =
      .ok (submitting [("wizard", Named.name wizard)] (.awaiting (.text "connector"))) := by
    have isLong : shape "--connector" = .long "connector" none := rfl
    have waits := readOption_alone (by decide) isOption rfl (settle_wizard wizard)
    rw [readWord, isLong]
    exact waits
  have held : (submitting [("wizard", Named.name wizard)] (.awaiting (.text "connector"))).readWord
      id = .ok (submitting [("wizard", Named.name wizard)] (.held (.text "connector") id)) :=
    readWord_value rfl plain rfl
  have noted : (submitting [("wizard", Named.name wizard)] (.held (.text "connector") id)).settle =
      .ok (submitting [("wizard", Named.name wizard), ("connector", id)] .none) :=
    note_connector wizard id
  refine read_of_connector wizard id ?_
  rw [run_word rfl awaits, run_word rfl held, run, finish, noted]
  rfl

end Wizard

end Invocation

end ConnectorConsole
