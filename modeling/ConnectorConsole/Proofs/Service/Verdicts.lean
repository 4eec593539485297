import ConnectorConsole.Proofs.Service.Deliveries
import ConnectorConsole.Service.Validation

/-!
# Verdicts on a draft

A reply is taken for JSON when it is announced as JSON and parses.  The status and that alone
decide what becomes of it.  A JSON value is a verdict when it has an entry for the flag and
the shape of one, and a verdict has lines for the operator.
-/

namespace ConnectorConsole

namespace Reply

/-- A reply that is announced as JSON, and whose body writes a value. -/
def Announces (reply : Reply) (value : Json) : Prop :=
  (∃ contentType ∈ reply.contentType, announcesJson contentType = true) ∧
    Json.read reply.body = .ok value

variable {reply : Reply} {value : Json}

theorem json?_eq_some_iff : reply.json? = some value ↔ reply.Announces value := by
  constructor
  · intro isJson
    refine ⟨?_, read_of_json? isJson⟩
    rw [json?] at isJson
    split at isJson
    · exact (Option.any_eq_true _ _).mp ‹_›
    · cases isJson
  · rintro ⟨⟨contentType, given, announced⟩, isRead⟩
    rw [json?, Option.mem_def.mp given, Option.any_some, if_pos announced, Json.read?, isRead]
    rfl

/-- A refusal in JSON is explained by the service. -/
theorem accept_explained (refused : reply.succeeded = false) (announced : reply.Announces value) :
    reply.accept = .error (.service reply.status (explanation value)) := by
  simp [accept, json?_eq_some_iff.mpr announced, refused]

end Reply

/-- An object that is sent in its compact form announces itself with its entries in order. -/
theorem WireReply.announces_compact {value : Json} {entries : List (String × Json)}
    (isObject : value = .object entries) {status : Nat} (hasBody : status ≠ 204 ∧ status ≠ 304)
    (floatFree : value.FloatFree) (sized : value.MachineSized)
    (shallow : value.nesting ≤ Json.greatestDepth) :
    ((WireReply.mk status (some "application/json") (Utf8.encode value.compact)).reply
      Charset.bodyText).Announces value.sorted := by
  refine ⟨⟨"application/json", rfl, by decide⟩, ?_⟩
  rw [body_of_compact isObject hasBody (by decide), Json.read_compact floatFree sized shallow]

namespace ValidationOutcome

/-- The lines that a JSON value has for the operator: of a verdict those of its errors and
then those of its warnings, and of any other value none. -/
inductive Lists (value : Json) : List String → Prop where
  | verdict {flag : Json} {outcome : ValidationOutcome} (flagged : value.get? "valid" = some flag)
      (decodes : decoder.ofJson value = .ok outcome) :
      Lists value
        (outcome.errors.map (fun entry => "error: " ++ entry.scalarText) ++
          outcome.warnings.map fun entry => "warning: " ++ entry.scalarText)
  | unflagged (missing : value.get? "valid" = none) : Lists value []
  | misshapen {problem : JsonProblem} (refused : decoder.ofJson value = .error problem) :
      Lists value []

variable {value : Json} {lines : List String}

theorem ofBody?_json (value : Json) :
    ofBody? (.json value) =
      (value.get? "valid").bind fun _ => (decoder.ofJson value).toOption := by
  change (do discard (value.get? "valid"); (decoder.ofJson value).toOption) = _
  cases value.get? "valid" <;> rfl

theorem Lists.eq_messages (lists : Lists value lines) :
    ((ofBody? (.json value)).map messages).getD [] = lines := by
  rw [ofBody?_json]
  cases lists with
  | verdict flagged decodes =>
      rw [flagged, Option.bind_some, decodes]
      rfl
  | unflagged missing =>
      rw [missing]
      rfl
  | misshapen refused =>
      rw [refused]
      cases value.get? "valid" <;> rfl

theorem exists_lists (value : Json) : ∃ lines, Lists value lines := by
  cases flagged : value.get? "valid" with
  | none => exact ⟨_, .unflagged flagged⟩
  | some flag =>
      cases decodes : decoder.ofJson value with
      | ok outcome => exact ⟨_, .verdict flagged decodes⟩
      | error problem => exact ⟨_, .misshapen decodes⟩

theorem failure_panel (body : ReplyBody) : (panel body).failure = none := by
  rw [panel]
  split <;> rfl

end ValidationOutcome

end ConnectorConsole
