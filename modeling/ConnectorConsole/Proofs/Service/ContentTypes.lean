import ConnectorConsole.Proofs.Service.Deliveries

/-!
# Reads and the announced type

A body that is announced as JSON is read when the reply comes in, and any other body when its
value is asked for.  Both ways read the same text, and a text that is announced but cannot be
read is tried again.  A read therefore makes the same of replies of success whose bodies are one
text.  The announced type can still decide which text the octets of a body are.
-/

namespace ConnectorConsole

namespace Delivery

variable (reader : BodyReader)

/-- A reply of success with a text for its body. -/
def Brings (delivery : Delivery) (text : String) : Prop :=
  ∃ wire, delivery = .reply wire ∧ (wire.reply reader).succeeded = true ∧
    (wire.reply reader).body = text

/-- Deliveries that are equal, or successes that bring the same text. -/
def Alike (first second : Delivery) : Prop :=
  first = second ∨ ∃ text, first.Brings reader text ∧ second.Brings reader text

end Delivery

namespace Service

section Reading

variable {α σ : Type} {service : Service} {request : Request} {decode : Json → Except Fault α}

/-- Ask once, and decode the value of the body. -/
def reading (service : Service) (request : Request) (decode : Json → Except Fault α) :
    Call α := do
  let body ← Call.send service.reader request
  liftM (jsonOf body >>= decode)

theorem run_reading : (service.reading request decode).run = .ask request fun delivery =>
    .done ((Call.answer service.reader request delivery >>= jsonOf) >>= decode) := by
  have direct (body : ReplyBody) :
      (liftM (jsonOf body >>= decode) : Call α).run = .done (jsonOf body >>= decode) := by
    cases jsonOf body >>= decode <;> rfl
  rw [reading, Call.run_send_bind service.reader request direct]
  simp only [bind_assoc]

theorem runs_reading (serve : Request → σ → Delivery × σ) (before : σ) :
    (service.reading request decode).run.run serve before =
      ((Call.answer service.reader request (serve request before).1 >>= jsonOf) >>= decode,
        [request], (serve request before).2) := by
  rw [run_reading]
  rfl

/-- A text has the same value in every reply that brings it. -/
theorem answer_bind_jsonOf {delivery : Delivery} {text : String}
    (brings : delivery.Brings service.reader text) :
    (Call.answer service.reader request delivery >>= jsonOf) = jsonOf (.text text) := by
  obtain ⟨wire, rfl, succeeded, rfl⟩ := brings
  exact Reply.accept_bind_jsonOf succeeded

theorem answer_bind_jsonOf_congr {first second : Delivery}
    (alike : first.Alike service.reader second) :
    (Call.answer service.reader request first >>= jsonOf) =
      (Call.answer service.reader request second >>= jsonOf) := by
  rcases alike with rfl | ⟨text, brings, alsoBrings⟩
  · rfl
  · rw [answer_bind_jsonOf brings, answer_bind_jsonOf alsoBrings]

theorem runs_reading_congr {serve other : Request → σ → Delivery × σ} {before : σ}
    (alike : (serve request before).1.Alike service.reader (other request before).1)
    (sameState : (serve request before).2 = (other request before).2) :
    (service.reading request decode).run.run serve before =
      (service.reading request decode).run.run other before := by
  rw [runs_reading, runs_reading, answer_bind_jsonOf_congr alike, sameState]

theorem runs_reading_of_brings {serve : Request → σ → Delivery × σ} {before : σ} {text : String}
    (brings : (serve request before).1.Brings service.reader text) :
    ((service.reading request decode).run.run serve before).1 =
      jsonOf (.text text) >>= decode := by
  rw [runs_reading, answer_bind_jsonOf brings]

end Reading

section Endpoints

variable (service : Service)

/-- The request for a page of the catalog. -/
def catalogRequest (query : CatalogQuery) : Request :=
  ⟨.get, (service.base.endpoint ["v1", "studio", "catalog"]).withPairs query.pairs, none⟩

/-- The page of the catalog that a JSON value decodes to. -/
def pageOf (value : Json) : Except Fault CatalogPage :=
  (CatalogPage.decoder.ofJson value).mapError fun problem =>
    .transport s!"invalid response body: {problem.message}"

theorem fetchOps_eq_reading (state : QueryState) : service.fetchOps state =
    service.reading (service.opsRequest state) (OpsPayload.decode state.view) := by
  refine ExceptT.ext ?_
  rw [run_fetchOps, run_reading]
  simp only [bind_assoc]

theorem fetchDraft_eq_reading (id : String) :
    service.fetchDraft id = service.reading (service.draftRequest id) draftOf := by
  refine ExceptT.ext ?_
  rw [run_fetchDraft, run_reading]
  simp only [deliveredDraft_eq]

theorem fetchCatalog_eq_reading (query : CatalogQuery) :
    service.fetchCatalog query = service.reading (service.catalogRequest query) pageOf := by
  rfl

end Endpoints

/-- Services whose successes bring the same texts, whatever types they announce for them, are not
told apart by those who read from them.  What is read is what the text of the body decodes to. -/
theorem reads_ignore_content_type (service : Service) {σ : Type}
    {serve other : Request → σ → Delivery × σ}
    (alike : ∀ request state,
      (serve request state).1.Alike service.reader (other request state).1 ∧
        (serve request state).2 = (other request state).2) (before : σ) :
    ((∀ state, (service.fetchOps state).run.run serve before =
        (service.fetchOps state).run.run other before) ∧
      (∀ id, (service.fetchDraft id).run.run serve before =
        (service.fetchDraft id).run.run other before) ∧
      ∀ query, (service.fetchCatalog query).run.run serve before =
        (service.fetchCatalog query).run.run other before) ∧
    ∀ text, (∀ request, (serve request before).1.Brings service.reader text) →
      (∀ state, ((service.fetchOps state).run.run serve before).1 =
        jsonOf (.text text) >>= OpsPayload.decode state.view) ∧
      (∀ id, ((service.fetchDraft id).run.run serve before).1 =
        jsonOf (.text text) >>= draftOf) ∧
      ∀ query, ((service.fetchCatalog query).run.run serve before).1 =
        jsonOf (.text text) >>= pageOf := by
  have same {α : Type} (request : Request) (decode : Json → Except Fault α) :
      (service.reading request decode).run.run serve before =
        (service.reading request decode).run.run other before :=
    runs_reading_congr (alike request before).1 (alike request before).2
  simp only [fetchOps_eq_reading, fetchDraft_eq_reading, fetchCatalog_eq_reading]
  refine ⟨⟨fun _ => same _ _, fun _ => same _ _, fun _ => same _ _⟩, fun text brings => ?_⟩
  have read {α : Type} (request : Request) (decode : Json → Except Fault α) :
      ((service.reading request decode).run.run serve before).1 =
        jsonOf (.text text) >>= decode :=
    runs_reading_of_brings (brings request)
  exact ⟨fun _ => read _ _, fun _ => read _ _, fun _ => read _ _⟩

/-- A page of the catalog that is null, announced as JSON in UTF-16 by one service and not at all
by the other. -/
theorem reads_ignore_content_type_null :
    let service : Service :=
      ⟨⟨false, "", "", "localhost", some 8080, [], none, none⟩, Charset.bodyText⟩
    let query : CatalogQuery := ⟨"", "", "", 50, 0⟩
    let wide : WireReply := ⟨200, some "application/json; charset=utf-16le",
      [0x6E, 0, 0x75, 0, 0x6C, 0, 0x6C, 0]⟩
    let narrow : WireReply := ⟨201, none, Utf8.encode "null"⟩
    let announced (_ : Request) (_ : Unit) : Delivery × Unit := (.reply wide, ())
    let plain (_ : Request) (_ : Unit) : Delivery × Unit := (.reply narrow, ())
    (∀ request state, (announced request state).1.Alike service.reader (plain request state).1 ∧
      (announced request state).2 = (plain request state).2) ∧
    (∀ request, (announced request ()).1.Brings service.reader "null") ∧
    (service.fetchCatalog query).run.run announced () =
      (service.fetchCatalog query).run.run plain () ∧
    ((service.fetchCatalog query).run.run announced ()).1 = .error (.transport
      "invalid response body: invalid type: null, expected struct CatalogPage") := by
  intro service query wide narrow announced plain
  have brings : (Delivery.reply wide).Brings service.reader "null" := ⟨_, rfl, rfl, by decide⟩
  have alsoBrings : (Delivery.reply narrow).Brings service.reader "null" := ⟨_, rfl, rfl, by decide⟩
  have alike (request : Request) (state : Unit) :
      (announced request state).1.Alike service.reader (plain request state).1 ∧
        (announced request state).2 = (plain request state).2 :=
    ⟨.inr ⟨"null", brings, alsoBrings⟩, rfl⟩
  obtain ⟨⟨_, _, same⟩, read⟩ := service.reads_ignore_content_type alike ()
  refine ⟨alike, fun _ => brings, same query, ?_⟩
  have isRead : Json.read "null" = .ok .null :=
    Json.null.read_compact (by simp [Json.FloatFree]) (by simp [Json.MachineSized]) (by decide)
  rw [(read "null" fun _ => brings).2.2 query, jsonOf, isRead]
  rfl

end Service

end ConnectorConsole
