import ConnectorConsole.Service.Calls

/-!
# What comes of a request

A request is answered by the body of the reply or by a fault, and no such fault is one of
those that arise locally.  A call that sends one request and makes something of the answer
is a tree of one request, whatever it makes of the answer.
-/

namespace ConnectorConsole

namespace Fault

/-- An outcome whose fault, if it has one, is a local one or not as stated. -/
def Among {α : Type} (isLocal : Bool) (outcome : Except Fault α) : Prop :=
  ∀ fault, outcome = .error fault → fault.isLocal = isLocal

namespace Among

variable {α β : Type} {isLocal : Bool}

theorem ok (value : α) : Among isLocal (.ok value) :=
  nofun

theorem error {fault : Fault} (kind : fault.isLocal = isLocal) :
    Among isLocal (.error fault : Except Fault α) := by
  rintro _ ⟨⟩
  exact kind

theorem mapError {ε : Type} (outcome : Except ε α) {name : ε → Fault}
    (kind : ∀ problem, (name problem).isLocal = isLocal) :
    Among isLocal (outcome.mapError name) := by
  cases outcome with
  | ok value => exact ok value
  | error problem => exact error (kind problem)

theorem bind {outcome : Except Fault α} {rest : α → Except Fault β} (first : Among isLocal outcome)
    (second : ∀ value, Among isLocal (rest value)) : Among isLocal (outcome >>= rest) := by
  cases outcome with
  | ok value => exact second value
  | error fault => exact error (first fault rfl)

end Among

end Fault

open Fault (Among)

/-- A request is answered, and what follows is run after it. -/
theorem Exchange.run_ask {α σ : Type} (serve : Request → σ → Delivery × σ) (state : σ)
    (request : Request) (next : Delivery → Exchange α) :
    (ask request next).run serve state =
      let (delivery, after) := serve request state
      let rest := (next delivery).run serve after
      (rest.1, request :: rest.2.1, rest.2.2) :=
  rfl

/-- What follows an exchange is run where the exchange left off. -/
theorem Exchange.run_bind {α β σ : Type} (serve : Request → σ → Delivery × σ) (state : σ)
    (exchange : Exchange α) (rest : α → Exchange β) :
    (exchange.bind rest).run serve state =
      let (value, asked, after) := exchange.run serve state
      let (result, more, last) := (rest value).run serve after
      (result, asked ++ more, last) := by
  induction exchange generalizing state with
  | done value => rfl
  | ask request next ih => simp only [Exchange.bind, run_ask, ih, List.cons_append]

namespace Reply

theorem among_accept (reply : Reply) : Among false reply.accept := by
  rw [accept]
  split
  · split
    · exact .ok _
    · exact .error rfl
  · split
    · exact .ok _
    · split
      · exact .error rfl
      · exact .error rfl

end Reply

namespace Service

theorem among_jsonOf (body : ReplyBody) : Among false (jsonOf body) := by
  cases body with
  | json value => exact .ok value
  | text text => exact .mapError _ fun _ => rfl

/-- A body that is not what it should be is a fault that is not local. -/
theorem among_decodeBody {α : Type} (decoder : Decoder α) (body : ReplyBody) :
    Among false (decodeBody decoder body) :=
  (among_jsonOf body).bind fun _ => .mapError _ fun _ => rfl

end Service

namespace Call

variable (reader : BodyReader) (request : Request)

/-- What a delivery answers to a request. -/
def answer : Delivery → Except Fault ReplyBody
  | .reply wire => (wire.reply reader).accept
  | .broken =>
    .error (.transport
      s!"HTTP request failed: error sending request for url ({request.url.withoutUser.text})")

theorem among_answer (delivery : Delivery) : Among false (answer reader request delivery) := by
  cases delivery with
  | reply wire => exact Reply.among_accept (wire.reply reader)
  | broken => exact .error rfl

theorem run_send : (send reader request).run =
    .ask request fun delivery => .done (answer reader request delivery) := by
  rw [send]
  refine congrArg (Exchange.ask request) (funext fun delivery => ?_)
  cases delivery <;> rfl

/-- What is made of an answer without asking for more is made of it at the end. -/
theorem run_send_bind {α : Type} {rest : ReplyBody → Call α}
    {ending : ReplyBody → Except Fault α} (direct : ∀ body, (rest body).run = .done (ending body)) :
    (send reader request >>= rest).run =
      .ask request fun delivery => .done (answer reader request delivery >>= ending) := by
  rw [ExceptT.run_bind, run_send]
  refine congrArg (Exchange.ask request) (funext fun delivery => ?_)
  change (Exchange.done (answer reader request delivery)).bind _ = _
  cases answer reader request delivery with
  | error fault => rfl
  | ok body => exact direct body

end Call

namespace Service

variable (service : Service)

/-- The request for what a screen shows. -/
def opsRequest (state : QueryState) : Request :=
  ⟨.get, (service.base.endpoint state.target.segments).withPairs state.pairs, none⟩

theorem run_fetchOps (state : QueryState) :
    (service.fetchOps state).run = .ask (service.opsRequest state) fun delivery =>
      .done (Call.answer service.reader (service.opsRequest state) delivery >>= fun body =>
        jsonOf body >>= OpsPayload.decode state.view) := by
  refine Call.run_send_bind service.reader (service.opsRequest state) fun body => ?_
  cases jsonOf body with
  | error fault => rfl
  | ok value =>
      change (liftM (OpsPayload.decode state.view value) : Call OpsPayload).run =
        .done (OpsPayload.decode state.view value)
      cases OpsPayload.decode state.view value <;> rfl

/-- The request for a stored draft. -/
def draftRequest (id : String) : Request :=
  ⟨.get, (service.base.endpoint ["v1", "studio", "connectors", id]).withPairs [], none⟩

/-- The draft that a delivery holds. -/
def deliveredDraft (id : String) (delivery : Delivery) : Except Fault Draft := do
  let body ← Call.answer service.reader (service.draftRequest id) delivery
  return (← decodeBody DraftEnvelope.decoder body).draft

theorem run_fetchDraft (id : String) :
    (service.fetchDraft id).run =
      .ask (service.draftRequest id) fun delivery =>
        .done (service.deliveredDraft id delivery) := by
  refine Call.run_send_bind service.reader (service.draftRequest id) fun body => ?_
  change (do return (← decodeBody DraftEnvelope.decoder body).draft : Call Draft).run =
    .done (do return (← decodeBody DraftEnvelope.decoder body).draft)
  cases decodeBody DraftEnvelope.decoder body <;> rfl

theorem among_deliveredDraft (id : String) (delivery : Delivery) :
    Among false (service.deliveredDraft id delivery) :=
  (Call.among_answer _ _ delivery).bind fun body =>
    (among_decodeBody DraftEnvelope.decoder body).bind fun _ => .ok _

end Service

end ConnectorConsole
