import ConnectorConsole.Proofs.Connector.WrittenNumbers
import ConnectorConsole.Proofs.Json.ReadBack
import ConnectorConsole.Proofs.Service.Exchanges
import ConnectorConsole.Proofs.Text.Utf8ReadBack

/-!
# Drafts on their way in

A stored draft is taken from a reply of success whose body is JSON that decodes to it,
whatever type of content the reply announces and however the JSON is laid out.
-/

namespace ConnectorConsole

namespace Delivery

section Contents

variable (reader : BodyReader)

/-- A reply of success whose body is a JSON text for a value. -/
def Carries (delivery : Delivery) (value : Json) : Prop :=
  ∃ wire, delivery = .reply wire ∧ (wire.reply reader).succeeded = true ∧
    Json.read (wire.reply reader).body = .ok value.sorted

/-- A reply of success whose body is JSON that decodes to a draft. -/
def Holds (delivery : Delivery) (draft : Draft) : Prop :=
  ∃ wire value, delivery = .reply wire ∧ (wire.reply reader).succeeded = true ∧
    Json.read (wire.reply reader).body = .ok value ∧
      DraftEnvelope.decoder.ofJson value = .ok ⟨draft⟩

end Contents

variable {reader : BodyReader}

/-- What carries the envelope of a draft holds the draft, when sorting keeps the draft. -/
theorem Carries.holds {delivery : Delivery} {draft : Draft}
    (carries : delivery.Carries reader (DraftEnvelope.mk draft).toJson) (ordered : draft.Ordered) :
    delivery.Holds reader draft := by
  obtain ⟨wire, isReply, succeeded, isRead⟩ := carries
  exact ⟨wire, _, isReply, succeeded, isRead,
    DraftEnvelope.decoder_ofJson_arrange .asRead (Source.keptBy_asRead ordered)⟩

/-- Every spacing of the JSON text is read. -/
theorem carries_of_chars {wire : WireReply} {value : Json} (spacing : Json.Spacing)
    (succeeded : (wire.reply reader).succeeded = true)
    (body : (wire.reply reader).body = String.ofList (spacing.chars 0 value))
    (floatFree : value.FloatFree) (sized : value.MachineSized)
    (shallow : value.nesting ≤ Json.greatestDepth) :
    (Delivery.reply wire).Carries reader value :=
  ⟨wire, rfl, succeeded, body ▸ spacing.read_chars floatFree sized shallow⟩

end Delivery

/-- Octets that open without a mark are read in the announced set. -/
theorem Charset.bodyText_of_unmarked (contentType : Option String) {octet : UInt8}
    (unmarked : octet < 0xEF) (rest : List UInt8) :
    bodyText contentType (octet :: rest) = (ofType contentType).read (octet :: rest) := by
  have none : (marks.find? fun entry => entry.1.isPrefixOf (octet :: rest)) = none := by
    simp only [marks, List.find?_eq_none, List.mem_cons, List.not_mem_nil, or_false,
      forall_eq_or_imp, forall_eq, List.isPrefixOf_cons_cons, Bool.and_eq_true, beq_iff_eq]
    refine ⟨?_, ?_, ?_⟩ <;> rintro ⟨rfl, _⟩ <;> revert unmarked <;> decide
  rw [bodyText, none]

/-- The compact text of an object arrives as it was sent, when it is announced as UTF-8 or with no
character set. -/
theorem WireReply.body_of_compact {value : Json} {entries : List (String × Json)}
    (isObject : value = .object entries) {status : Nat} (hasBody : status ≠ 204 ∧ status ≠ 304)
    {contentType : Option String} (inUtf8 : Charset.ofType (contentType.filter isVisible) = .utf8) :
    ((WireReply.mk status contentType (Utf8.encode value.compact)).reply Charset.bodyText).body =
      value.compact := by
  have octets : Utf8.encode value.compact =
      0x7B :: (Json.compactEntries entries).flatMap String.utf8EncodeChar := by
    rw [isObject, Json.compact, Utf8.encode, String.toList_ofList, Json.compactChars]
    rfl
  rw [WireReply.reply, WireReply.hasBody, if_pos (by simpa using hasBody), octets,
    Charset.bodyText_of_unmarked _ (by decide), inUtf8, ← octets]
  exact Utf8.repair_encode _

namespace Reply

variable {reply : Reply}

theorem read_of_json? {value : Json} (isJson : reply.json? = some value) :
    Json.read reply.body = .ok value := by
  rw [json?] at isJson
  split at isJson
  · rw [Json.read?] at isJson
    cases isRead : Json.read reply.body with
    | ok read =>
        rw [isRead] at isJson
        cases isJson
        rfl
    | error failure =>
        rw [isRead] at isJson
        cases isJson
  · cases isJson

/-- The body of a reply of success is read as JSON, announced or not. -/
theorem accept_bind_jsonOf (succeeded : reply.succeeded = true) :
    (reply.accept >>= Service.jsonOf) = (Json.read reply.body).mapError fun failure =>
      .transport s!"invalid response body: {failure.message}" := by
  cases isJson : reply.json? with
  | some value =>
      rw [accept, isJson, read_of_json? isJson]
      dsimp only
      rw [if_pos succeeded]
      rfl
  | none =>
      rw [accept, isJson]
      dsimp only
      rw [if_pos succeeded]
      rfl

theorem accept_of_not_succeeded (refused : reply.succeeded = false) :
    ∃ fault, reply.accept = .error fault := by
  rw [accept, refused]
  split
  · exact ⟨_, rfl⟩
  · split
    · contradiction
    · split <;> exact ⟨_, rfl⟩

end Reply

namespace Service

/-- The draft that a JSON value decodes to. -/
def draftOf (value : Json) : Except Fault Draft := do
  let envelope ← (DraftEnvelope.decoder.ofJson value).mapError fun problem =>
    .transport s!"invalid response body: {problem.message}"
  return envelope.draft

variable {service : Service} {id : String} {delivery : Delivery} {draft : Draft}

theorem deliveredDraft_eq : service.deliveredDraft id delivery =
    (Call.answer service.reader (service.draftRequest id) delivery >>= jsonOf) >>= draftOf := by
  rw [deliveredDraft]
  cases Call.answer service.reader (service.draftRequest id) delivery with
  | error fault => rfl
  | ok body =>
      change (do return (← decodeBody DraftEnvelope.decoder body).draft) = jsonOf body >>= draftOf
      rw [decodeBody]
      cases jsonOf body <;> rfl

theorem draftOf_eq_ok_iff {value : Json} :
    draftOf value = .ok draft ↔ DraftEnvelope.decoder.ofJson value = .ok ⟨draft⟩ := by
  rw [draftOf]
  cases DraftEnvelope.decoder.ofJson value with
  | error problem => exact ⟨nofun, nofun⟩
  | ok envelope =>
      constructor
      · rintro ⟨⟩
        rfl
      · rintro ⟨⟩
        rfl

/-- A draft is delivered exactly when the delivery holds it. -/
theorem deliveredDraft_eq_ok_iff :
    service.deliveredDraft id delivery = .ok draft ↔ delivery.Holds service.reader draft := by
  rw [deliveredDraft_eq]
  cases delivery with
  | broken => exact ⟨nofun, nofun⟩
  | reply wire =>
      rw [Call.answer]
      cases success : (wire.reply service.reader).succeeded with
      | false =>
          obtain ⟨fault, refused⟩ := Reply.accept_of_not_succeeded success
          rw [refused]
          refine ⟨nofun, ?_⟩
          rintro ⟨_, _, ⟨⟩, succeeded, _⟩
          rw [success] at succeeded
          cases succeeded
      | true =>
          rw [Reply.accept_bind_jsonOf success]
          constructor
          · intro delivered
            cases isRead : Json.read (wire.reply service.reader).body with
            | error failure =>
                rw [isRead] at delivered
                cases delivered
            | ok value =>
                rw [isRead] at delivered
                exact ⟨wire, value, rfl, success, isRead, draftOf_eq_ok_iff.mp delivered⟩
          · rintro ⟨_, value, ⟨⟩, _, isRead, decodes⟩
            rw [isRead]
            exact draftOf_eq_ok_iff.mpr decodes

end Service

end ConnectorConsole
