import RouteNetlink.Attribute.Outline
import RouteNetlink.Message.Entity
import RouteNetlink.Message.Header

/-! Messages: a header and one of five kinds of body. -/
namespace RouteNetlink

inductive Body where
  | noop
  | done
  /-- The answer to a request: a negated error number, or zero for an acknowledgement, and
  the header of the request. -/
  | reply (code : Int32) (request : Header)
  /-- A request that names no more than an address family. -/
  | query (family : Family)
  | entity (entity : Entity) (attributes : Table)
  deriving DecidableEq

structure Message where
  header : Header
  body : Body
  deriving DecidableEq

structure Reply where
  header : Header
  code : Int32
  request : Header
  deriving DecidableEq

namespace Reply

def new (code : Int32) (request : Header) : Reply := ⟨Header.new .error 0, code, request⟩

def isAck (reply : Reply) : Bool := reply.code = 0

/-- What the caller of the request learns. -/
def result (reply : Reply) : Except Fault Unit :=
  if reply.isAck then .ok () else .error (Fault.ofCode reply.code)

def toMessage (reply : Reply) : Message := ⟨reply.header, .reply reply.code reply.request⟩

end Reply

namespace Message

def kind (message : Message) : RecordKind := message.header.kind

def bare (kind : RecordKind) (body : Body) : Message := ⟨Header.new kind 0, body⟩

/-- A request for all state of a kind in one address family. -/
def dump (kind : RecordKind) (family : Family) : Message :=
  ⟨Header.new kind (HeaderFlag.request ||| HeaderFlag.dump), .query family⟩

def reply? (message : Message) : Option Reply :=
  match message.body with
  | .reply code request => some ⟨message.header, code, request⟩
  | _ => none

@[simp] theorem reply?_toMessage (reply : Reply) : reply.toMessage.reply? = some reply := rfl

def outline (message : Message) : Outline :=
  .block message.kind.label <| message.header.outline ++
    match message.body with
    | .noop => []
    | .done => []
    | .reply code request =>
      [.field "error" (if code = 0 then "none" else OsError.describe (Fault.magnitude code)),
       .block ("req: " ++ request.kind.label) request.outline]
    | .query family => [.field "family" family.label]
    | .entity entity attributes =>
      entity.outline ++ Table.outline entity.schema.name attributes

def text (message : Message) : String := Outline.render [message.outline]

end Message
end RouteNetlink
