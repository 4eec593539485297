import ConnectorConsole.Proofs.Connector.WrittenForm
import ConnectorConsole.Proofs.Json.Values

/-!
# Numbers in written drafts

The only setting that may hold numbers is the payload of a polled service.  A property that
every other value has therefore holds everywhere in a written draft once it holds
everywhere in the payload.
-/

namespace ConnectorConsole

open Json

section Everywhere

variable {property : Json → Prop}
  (plain : ∀ value, (∀ number, value ≠ .number number) → property value)

include plain

theorem Json.everywhere_ofTexts (texts : List String) : (ofTexts texts).Everywhere property := by
  refine everywhere_list.mpr ⟨plain _ nofun, fun item member => ?_⟩
  obtain ⟨text, _, rfl⟩ := List.mem_map.mp member
  exact everywhere_text.mpr (plain _ nofun)

theorem everywhere_optionalText (value : Option String) :
    (optionalText value).Everywhere property := by
  cases value with
  | none => exact everywhere_null.mpr (plain _ nofun)
  | some text => exact everywhere_text.mpr (plain _ nofun)

theorem everywhere_headersJson (headers : List (String × String)) :
    (headersJson headers).Everywhere property := by
  refine everywhere_object.mpr ⟨plain _ nofun, fun entry member => ?_⟩
  obtain ⟨value, isText⟩ := headersJson_texts member
  exact isText ▸ everywhere_text.mpr (plain _ nofun)

theorem OAuthClient.everywhere_entries (client : OAuthClient) :
    ∀ entry ∈ client.entries, entry.2.Everywhere property := by
  have texts (value : String) : (Json.text value).Everywhere property :=
    everywhere_text.mpr (plain _ nofun)
  cases secret : client.clientSecretRef <;>
    simp [OAuthClient.entries, secret, texts, everywhere_ofTexts plain,
      everywhere_optionalText plain, -everywhere_text]

theorem Source.everywhere_toJson {source : Source}
    (payload : ∀ payload ∈ source.payload?, payload.Everywhere property) :
    source.toJson.Everywhere property := by
  have text (value : String) : property (.text value) := plain _ nofun
  have object (entries : List (String × Json)) : property (.object entries) := plain _ nofun
  have null : property .null := plain _ nofun
  cases source with
  | sqlPull source => simp [Source.toJson, text, object, null]
  | restPush source => simp [Source.toJson, text, object]
  | filePull source => simp [Source.toJson, text, object]
  | restPull source =>
      have headers := everywhere_headersJson plain source.headers
      have auth : ∀ entry ∈ source.auth.entries, entry.2.Everywhere property := by
        cases source.auth with
        | staticBearer => exact List.forall_mem_nil _
        | clientCredentials client =>
            refine List.forall_mem_singleton.mpr (everywhere_object.mpr ⟨object _, ?_⟩)
            exact fun entry member =>
              client.everywhere_entries plain entry (mem_of_mem_sortedEntries member)
      have entries : (ofOption .object source.payload).Everywhere property := by
        cases isPayload : source.payload with
        | none => exact everywhere_null.mpr null
        | some held =>
            exact payload _ (by rw [Source.payload?, isPayload]; rfl)
      refine everywhere_object.mpr ⟨object _, ?_⟩
      rw [List.forall_mem_append, List.forall_mem_append]
      refine ⟨⟨?_, auth⟩, ?_⟩
      · exact List.forall_mem_cons.mpr ⟨headers, by simp [text]⟩
      · simp [everywhere_optionalText plain, entries, text, null]

theorem DraftEnvelope.everywhere_toJson {envelope : DraftEnvelope}
    (payload : ∀ payload ∈ envelope.draft.spec.source.payload?, payload.Everywhere property) :
    envelope.toJson.Everywhere property := by
  have text (value : String) : property (.text value) := plain _ nofun
  have boolean (value : Bool) : property (.boolean value) := plain _ nofun
  have object (entries : List (String × Json)) : property (.object entries) := plain _ nofun
  have source := Source.everywhere_toJson plain payload
  simp [DraftEnvelope.toJson, Draft.toJson, Spec.toJson, Schedule.toJson, Mapping.toJson,
    Staging.toJson, Destination.toJson, everywhere_optionalText plain, everywhere_ofTexts plain,
    text, boolean, object, source]

end Everywhere

variable {envelope : DraftEnvelope}

theorem DraftEnvelope.floatFree_toJson
    (payload : ∀ payload ∈ envelope.draft.spec.source.payload?, payload.FloatFree) :
    envelope.toJson.FloatFree :=
  everywhere_toJson (fun _ noNumber _ => noNumber _) payload

theorem DraftEnvelope.machineSized_toJson
    (payload : ∀ payload ∈ envelope.draft.spec.source.payload?, payload.MachineSized) :
    envelope.toJson.MachineSized := by
  refine everywhere_toJson (fun value noNumber => ?_) payload
  split
  · exact absurd rfl (noNumber _)
  · trivial

end ConnectorConsole
