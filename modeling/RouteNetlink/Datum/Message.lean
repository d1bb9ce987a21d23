import RouteNetlink.Datum.Attribute
import RouteNetlink.Message.Accessors
import RouteNetlink.Message.Encode

/-! Headers and messages as plain data. A message written so holds its fields, its
attributes, and what its accessors say. -/
namespace RouteNetlink

instance : ToDatum Family := ⟨fun family => datum family.code⟩
instance : ToDatum RecordKind := ⟨fun kind => datum kind.code⟩
instance : OfDatum Family := ⟨fun d => Family.mk <$> OfDatum.read d⟩
instance : OfDatum RecordKind := ⟨fun d => RecordKind.mk <$> OfDatum.read d⟩

namespace Header

instance : ToDatum Header where
  datum header := .record
    [("length", datum header.length), ("kind", datum header.kind), ("flags", datum header.flags),
     ("sequence", datum header.sequence), ("port_id", datum header.port),
     ("nsid", datum header.namespaceId?)]

def overwriteOf (header : Header) (d : Datum) : Except Misfit Header := do
  return {
    length := ← d.getD "length" header.length
    kind := ← d.getD "kind" header.kind
    flags := ← d.getD "flags" header.flags
    sequence := ← d.getD "sequence" header.sequence
    port := ← d.getD "port_id" header.port
    namespaceId? := (← d.optional "nsid").or header.namespaceId? }

instance : OfDatum Header := ⟨overwriteOf (new ⟨0⟩ 0)⟩

def report (header : Header) : Datum :=
  .record
    [("header", datum header), ("payload_len", datum header.payloadLength),
     ("is_multi", datum header.isMultipart),
     ("is_dump_interrupted", datum header.isDumpInterrupted),
     ("text", datum (Outline.render header.outline))]

end Header

namespace Entity

def tag : Entity → String
  | link _ => "Link"
  | address _ => "Address"
  | route _ => "Route"
  | neighbor _ => "Neighbor"
  | networkNamespace _ => "Netns"

def fields : Entity → List (String × Datum)
  | link e =>
    [("family", datum e.family), ("link_type", datum e.hardware), ("index", datum e.index),
     ("flags", datum e.flags), ("change", datum e.change)]
  | address e =>
    [("family", datum e.family), ("prefix_len", datum e.prefixLength), ("flags", datum e.flags),
     ("scope", datum e.scope), ("index", datum e.index)]
  | route e =>
    [("family", datum e.family), ("dst_len", datum e.destinationLength),
     ("src_len", datum e.sourceLength), ("tos", datum e.tos), ("table", datum e.table),
     ("protocol", datum e.origin), ("scope", datum e.scope), ("route_type", datum e.type),
     ("flags", datum e.flags)]
  | neighbor e =>
    [("family", datum e.family), ("index", datum e.index), ("state", datum e.state),
     ("flags", datum e.flags), ("neigh_type", datum e.type)]
  | networkNamespace family => [("family", datum family)]

def getters (attributes : Table) : Entity → List (String × Datum)
  | link e =>
    [("name", datum (LinkEntity.name? attributes)), ("mtu", datum (LinkEntity.mtu? attributes)),
     ("address", datum (LinkEntity.address? attributes)),
     ("master", datum (LinkEntity.master? attributes)),
     ("oper_state", datum (LinkEntity.operState? attributes)),
     ("stats", datum (LinkEntity.counters? attributes)),
     ("kind", datum (LinkEntity.deviceKind? attributes)), ("is_up", datum e.isUp),
     ("is_loopback", datum e.isLoopback)]
  | address e =>
    [("address", datum (AddressEntity.address? attributes)),
     ("local", datum (AddressEntity.local? attributes)),
     ("label", datum (AddressEntity.label? attributes)),
     ("cache_info", datum (AddressEntity.cacheInfo? attributes)),
     ("all_flags", datum (e.allFlags attributes))]
  | route e =>
    [("destination", datum (RouteEntity.destination? attributes)),
     ("gateway", datum (RouteEntity.gateway? attributes)),
     ("pref_src", datum (RouteEntity.preferredSource? attributes)),
     ("oif", datum (RouteEntity.outgoing? attributes)),
     ("priority", datum (RouteEntity.priority? attributes)),
     ("table_id", datum (e.tableId attributes)), ("is_default", datum e.isDefault),
     ("cache_info", datum (RouteEntity.cacheInfo? attributes))]
  | neighbor e =>
    [("destination", datum (NeighborEntity.destination? attributes)),
     ("lladdr", datum (NeighborEntity.linkAddress? attributes)),
     ("is_reachable", datum e.isReachable)]
  | networkNamespace _ =>
    [("nsid", datum (NamespaceAttributes.id? attributes)),
     ("pid", datum (NamespaceAttributes.process? attributes))]

def overwriteOf (d : Datum) : Entity → Except Misfit Entity
  | link e => do
    return .link
      { family := e.family
        hardware := ← d.getD "link_type" e.hardware
        index := ← d.getD "index" e.index
        flags := ← d.getD "flags" e.flags
        change := ← d.getD "change" e.change }
  | address e => do
    return .address
      { family := e.family
        prefixLength := ← d.getD "prefix_len" e.prefixLength
        flags := ← d.getD "flags" e.flags
        scope := ← d.getD "scope" e.scope
        index := ← d.getD "index" e.index }
  | route e => do
    return .route
      { family := e.family
        destinationLength := ← d.getD "dst_len" e.destinationLength
        sourceLength := ← d.getD "src_len" e.sourceLength
        tos := ← d.getD "tos" e.tos
        table := ← d.getD "table" e.table
        origin := ← d.getD "protocol" e.origin
        scope := ← d.getD "scope" e.scope
        type := ← d.getD "route_type" e.type
        flags := ← d.getD "flags" e.flags }
  | neighbor e => do
    return .neighbor
      { family := e.family
        index := ← d.getD "index" e.index
        state := ← d.getD "state" e.state
        flags := ← d.getD "flags" e.flags
        type := ← d.getD "neigh_type" e.type }
  | networkNamespace family => .ok (.networkNamespace family)

end Entity

namespace Message

def tag (message : Message) : String :=
  match message.body with
  | .noop => "Noop"
  | .done => "Done"
  | .reply .. => "Error"
  | .query _ => "Generic"
  | .entity e _ => e.tag

def bodyFields (message : Message) : List (String × Datum) :=
  match message.body with
  | .noop => []
  | .done => []
  | .reply code request =>
    let reply : Reply := ⟨message.header, code, request⟩
    [("errno", datum code), ("request", datum request),
     ("get", .record [("is_ack", datum reply.isAck), ("result", datum reply.result)])]
  | .query family => [("family", datum family)]
  | .entity e attributes =>
    e.fields ++
      [("get", .record (e.getters attributes)), ("slots", datum attributes.length),
       ("attrs", attributes.toDatum)]

instance : ToDatum Message where
  datum message :=
    .record ([("type", datum message.tag), ("header", datum message.header)] ++ message.bodyFields)

instance : ToDatum Reply := ⟨fun reply => datum reply.toMessage⟩

/-- A message about an entity, with the given fields in place of the blank ones. -/
def ofEntity (kind : RecordKind) (subject : Subject) (d : Datum) : Except Misfit Message := do
  let kind ← d.getD "kind" kind
  let blank := subject.blank (← d.getD "family" .unspecified)
  let e ← blank.overwriteOf d
  let attributes := Table.empty blank.schema.slots
  match d.field? "attrs" with
  | some attrs => return ⟨Header.new kind 0, .entity e (← attributes.extendOf attrs)⟩
  | none => return ⟨Header.new kind 0, .entity e attributes⟩

def ofTagged (d : Datum) : Except Misfit Message := do
  match ← (d.need "type" : Except Misfit String) with
  | "Noop" => return bare (← d.getD "kind" .noop) .noop
  | "Done" => return bare (← d.getD "kind" .done) .done
  | "Error" =>
    return (Reply.new (← d.getD "errno" 0) (← d.getD "request" (Header.new ⟨0⟩ 0))).toMessage
  | "Generic" => return dump (← d.getD "kind" .getLink) (← d.getD "family" .unspecified)
  | "Link" => ofEntity .newLink .link d
  | "Address" => ofEntity .newAddress .address d
  | "Route" => ofEntity .newRoute .route d
  | "Neighbor" => ofEntity .newNeighbor .neighbor d
  | "Netns" => ofEntity .newNamespace .networkNamespace d
  | _ => throw (.expected "a type of message")

instance : OfDatum Message where
  read d := do
    let message ← ofTagged d
    match d.field? "header" with
    | some fields => return { message with header := ← message.header.overwriteOf fields }
    | none => return message

def report (message : Message) : Datum :=
  .record [("message", datum message), ("text", datum message.text)]

end Message

instance : ToDatum Framing where
  datum framing :=
    match framing.fault? with
    | none =>
      .record [("header", datum framing.message.header), ("hex", Datum.hex framing.buffer.bytes)]
    | some fault => datum fault

end RouteNetlink
