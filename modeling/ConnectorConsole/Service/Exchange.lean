import ConnectorConsole.Service.Reply
import ConnectorConsole.Web.Url

/-!
# Exchanges with the service

A program that talks to the service is a tree: it is done, or it asks one
request and goes on with whatever is delivered. What it asks and what it answers
can be read off the tree for every behaviour of the service; running it against
one behaviour is a separate step.
-/

namespace ConnectorConsole

/-- How a request acts on what it addresses. -/
inductive Method where
  | get
  | post
deriving DecidableEq, Repr

def Method.name : Method → String
  | .get => "GET"
  | .post => "POST"

/-- A request to the service. -/
structure Request where
  method : Method
  url : Url
  /-- The compact text of the JSON sent along. -/
  body : Option String
deriving DecidableEq, Repr

namespace Request

/-- The type of content that every request accepts and every body has. -/
def jsonType : String := "application/json"

end Request

/-- How the text of a body is taken from the announced type and from the octets. -/
abbrev BodyReader := Option String → List UInt8 → String

/-- A reply on its way in. -/
structure WireReply where
  status : Nat
  contentType : Option String
  body : List UInt8
deriving DecidableEq, Repr

namespace WireReply

/-- Whether a content type consists of visible characters of ASCII, blanks and
tabs. One that does not is treated as missing. -/
def isVisible (contentType : String) : Bool :=
  contentType.toList.all fun c => (0x20 ≤ c.toNat && c.toNat < 0x7F) || c = '\t'

def hasBody (wire : WireReply) : Bool :=
  wire.status != 204 && wire.status != 304

def reply (reader : BodyReader) (wire : WireReply) : Reply where
  status := wire.status
  contentType := wire.contentType.filter isVisible
  body := if wire.hasBody then reader (wire.contentType.filter isVisible) wire.body else ""

end WireReply

/-- What comes of a request: a reply, or a connection that breaks. -/
inductive Delivery where
  | reply (wire : WireReply)
  | broken
deriving DecidableEq, Repr

/-- A program that talks to the service. -/
inductive Exchange (α : Type) where
  | done (value : α)
  | ask (request : Request) (next : Delivery → Exchange α)

namespace Exchange

def bind {α β : Type} (exchange : Exchange α) (rest : α → Exchange β) : Exchange β :=
  match exchange with
  | .done value => rest value
  | .ask request next => .ask request fun delivery => (next delivery).bind rest

instance : Monad Exchange where
  pure := .done
  bind := bind

/-- Run an exchange against a service with a state. The answer holds the requests
in the order in which they were asked. -/
def run {α σ : Type} (serve : Request → σ → Delivery × σ) (state : σ) :
    Exchange α → α × List Request × σ
  | .done value => (value, [], state)
  | .ask request next =>
    let (delivery, state) := serve request state
    let (value, requests, state) := (next delivery).run serve state
    (value, request :: requests, state)

theorem bind_assoc {α β γ : Type} (exchange : Exchange α) (first : α → Exchange β)
    (second : β → Exchange γ) :
    (exchange.bind first).bind second = exchange.bind fun value => (first value).bind second := by
  induction exchange with
  | done value => rfl
  | ask request next ih => simp only [bind]; congr 1; funext delivery; exact ih delivery

end Exchange

abbrev Call := ExceptT Fault Exchange

namespace Call

def send (reader : BodyReader) (request : Request) : Call ReplyBody :=
  ExceptT.mk <| .ask request fun
    | .reply wire => .done (wire.reply reader).accept
    | .broken =>
      .done (.error (.transport
        s!"HTTP request failed: error sending request for url ({request.url.withoutUser.text})"))

end Call

end ConnectorConsole
