import RouteNetlink.Bytes.Cursor
import RouteNetlink.Message.Schema
import RouteNetlink.Text.Outline
import RouteNetlink.Vocabulary.Flags
import RouteNetlink.Vocabulary.RecordKind
import RouteNetlink.Vocabulary.Route

/-! What a message is about: a link, an address, a route, a neighbor or a namespace, as
the fixed part of its body describes it. -/
namespace RouteNetlink

inductive Subject where
  | link
  | address
  | route
  | neighbor
  | networkNamespace
  deriving DecidableEq

namespace RecordKind

def subject? (kind : RecordKind) : Option Subject :=
  if kind ∈ [newLink, deleteLink, getLink, setLink] then some .link
  else if kind ∈ [newAddress, deleteAddress, getAddress] then some .address
  else if kind ∈ [newRoute, deleteRoute, getRoute] then some .route
  else if kind ∈ [newNeighbor, deleteNeighbor, getNeighbor] then some .neighbor
  else if kind ∈ [newNamespace, deleteNamespace, getNamespace] then some .networkNamespace
  else none

def isQuery (kind : RecordKind) : Bool :=
  kind ∈ [getLink, getAddress, getRoute, getNeighbor, getNamespace]

end RecordKind

structure LinkEntity where
  family : Family
  hardware : UInt16
  index : UInt32
  flags : UInt32
  change : UInt32
  deriving DecidableEq

namespace LinkEntity

abbrev Wire := UInt8 × UInt8 × UInt16 × UInt32 × UInt32 × UInt32

def wire : Layout Wire :=
  Layout.u8.pair (Layout.u8.pair (Layout.u16.pair (Layout.u32.pair
    (Layout.u32.pair Layout.u32))))

/-- The second byte is padding. -/
def ofWire : Wire → LinkEntity
  | (family, _, hardware, index, flags, change) => ⟨⟨family⟩, hardware, index, flags, change⟩

def toWire (link : LinkEntity) : Wire :=
  (link.family.code, 0, link.hardware, link.index, link.flags, link.change)

def up : UInt32 := 0x1
def loopback : UInt32 := 0x8

def isUp (link : LinkEntity) : Bool := link.flags &&& up = up

def isLoopback (link : LinkEntity) : Bool := link.flags &&& loopback = loopback

def outline (link : LinkEntity) : List Outline :=
  [.field "index" (toString link.index), .field "family" link.family.label,
   .field "type" (Vocabulary.hardware.label link.hardware.toNat),
   .field "ifinfo flags" (FlagNames.link.text link.flags.toUInt64)] ++
    if link.change = 0 then []
    else [.field "changed flags" (FlagNames.link.text link.change.toUInt64)]

end LinkEntity

structure AddressEntity where
  family : Family
  prefixLength : UInt8
  /-- Only the low eight bits are in the body. -/
  flags : UInt32
  scope : UInt8
  index : UInt32
  deriving DecidableEq

namespace AddressEntity

abbrev Wire := UInt8 × UInt8 × UInt8 × UInt8 × UInt32

def wire : Layout Wire :=
  Layout.u8.pair (Layout.u8.pair (Layout.u8.pair (Layout.u8.pair Layout.u32)))

def ofWire : Wire → AddressEntity
  | (family, prefixLength, flags, scope, index) =>
    ⟨⟨family⟩, prefixLength, flags.toUInt32, scope, index⟩

def toWire (address : AddressEntity) : Wire :=
  (address.family.code, address.prefixLength, address.flags.toUInt8, address.scope,
    address.index)

def outline (address : AddressEntity) : List Outline :=
  [.field "index" (toString address.index), .field "family" address.family.label,
   .field "prefix" (toString address.prefixLength),
   .field "ifaddr flags" (FlagNames.address.text address.flags.toUInt64),
   .field "scope" (Vocabulary.scope.label address.scope.toNat)]

end AddressEntity

structure RouteEntity where
  family : Family
  destinationLength : UInt8
  sourceLength : UInt8
  tos : UInt8
  /-- The table where its number fits eight bits. -/
  table : UInt8
  origin : UInt8
  scope : UInt8
  type : UInt8
  flags : UInt32
  deriving DecidableEq

namespace RouteEntity

abbrev Wire :=
  UInt8 × UInt8 × UInt8 × UInt8 × UInt8 × UInt8 × UInt8 × UInt8 × UInt32

def wire : Layout Wire :=
  Layout.u8.pair (Layout.u8.pair (Layout.u8.pair (Layout.u8.pair (Layout.u8.pair
    (Layout.u8.pair (Layout.u8.pair (Layout.u8.pair Layout.u32)))))))

def ofWire : Wire → RouteEntity
  | (family, destinationLength, sourceLength, tos, table, origin, scope, type, flags) =>
    ⟨⟨family⟩, destinationLength, sourceLength, tos, table, origin, scope, type, flags⟩

def toWire (route : RouteEntity) : Wire :=
  (route.family.code, route.destinationLength, route.sourceLength, route.tos, route.table,
    route.origin, route.scope, route.type, route.flags)

def mainTable : UInt8 := 254
def staticOrigin : UInt8 := 4
def unicast : UInt8 := 1

def outline (route : RouteEntity) : List Outline :=
  [.field "family" route.family.label, .field "srclen" (toString route.sourceLength),
   .field "dstlen" (toString route.destinationLength), .field "tos" (toString route.tos),
   .field "table" (Vocabulary.routeTable.label route.table.toNat),
   .field "protocol" (Vocabulary.routeOrigin.label route.origin.toNat),
   .field "scope" (Vocabulary.scope.label route.scope.toNat),
   .field "type" (Vocabulary.routeType.label route.type.toNat)] ++
    if route.flags = 0 then []
    else [.field "route flags" (FlagNames.route.text route.flags.toUInt64)]

end RouteEntity

structure NeighborEntity where
  family : Family
  index : UInt32
  state : UInt16
  flags : UInt8
  type : UInt8
  deriving DecidableEq

namespace NeighborEntity

abbrev Wire := UInt8 × UInt8 × UInt16 × UInt32 × UInt16 × UInt8 × UInt8

def wire : Layout Wire :=
  Layout.u8.pair (Layout.u8.pair (Layout.u16.pair (Layout.u32.pair (Layout.u16.pair
    (Layout.u8.pair Layout.u8)))))

/-- Three bytes behind the family are padding. -/
def ofWire : Wire → NeighborEntity
  | (family, _, _, index, state, flags, type) => ⟨⟨family⟩, index, state, flags, type⟩

def toWire (neighbor : NeighborEntity) : Wire :=
  (neighbor.family.code, 0, 0, neighbor.index, neighbor.state, neighbor.flags, neighbor.type)

def reachable : UInt16 := 0x2

def isReachable (neighbor : NeighborEntity) : Bool := neighbor.state &&& reachable = reachable

def outline (neighbor : NeighborEntity) : List Outline :=
  [.field "index" (toString neighbor.index), .field "address family" neighbor.family.label,
   .field "type" (Vocabulary.routeType.label neighbor.type.toNat),
   .field "state" (FlagNames.neighborState.text neighbor.state.toUInt64)] ++
    if neighbor.flags = 0 then []
    else [.field "neighbor flags" (FlagNames.neighbor.text neighbor.flags.toUInt64)]

end NeighborEntity

inductive Entity where
  | link (fields : LinkEntity)
  | address (fields : AddressEntity)
  | route (fields : RouteEntity)
  | neighbor (fields : NeighborEntity)
  | networkNamespace (family : Family)
  deriving DecidableEq

namespace Subject

def fixedSize : Subject → Nat
  | link => LinkEntity.wire.width
  | address => AddressEntity.wire.width
  | route => RouteEntity.wire.width
  | neighbor => NeighborEntity.wire.width
  | networkNamespace => 4

/-- The fixed part at the front of a body and the attribute run behind it. Only for
namespaces may the body end inside the padding. -/
def split (subject : Subject) (body : List UInt8) : Except Fault (Entity × List UInt8) := do
  let cursor : Cursor := ⟨body⟩
  match subject with
  | link =>
    cursor.require LinkEntity.wire.width
    let (fields, cursor) ← cursor.read LinkEntity.wire
    return (.link (LinkEntity.ofWire fields), cursor.rest)
  | address =>
    cursor.require AddressEntity.wire.width
    let (fields, cursor) ← cursor.read AddressEntity.wire
    return (.address (AddressEntity.ofWire fields), cursor.rest)
  | route =>
    cursor.require RouteEntity.wire.width
    let (fields, cursor) ← cursor.read RouteEntity.wire
    return (.route (RouteEntity.ofWire fields), cursor.rest)
  | neighbor =>
    cursor.require NeighborEntity.wire.width
    let (fields, cursor) ← cursor.read NeighborEntity.wire
    return (.neighbor (NeighborEntity.ofWire fields), cursor.rest)
  | networkNamespace =>
    let (family, cursor) ← cursor.read Layout.u8
    return (.networkNamespace ⟨family⟩, (cursor.skip 3).rest)

/-- An entity with nothing set but what every new one has: routes are static unicast routes
of the main table. -/
def blank (family : Family) : Subject → Entity
  | link => .link ⟨family, 0, 0, 0, 0⟩
  | address => .address ⟨family, 0, 0, 0, 0⟩
  | route =>
    .route ⟨family, 0, 0, 0, RouteEntity.mainTable, RouteEntity.staticOrigin, 0,
      RouteEntity.unicast, 0⟩
  | neighbor => .neighbor ⟨family, 0, 0, 0, 0⟩
  | networkNamespace => .networkNamespace family

end Subject

namespace Entity

def subject : Entity → Subject
  | link _ => .link
  | address _ => .address
  | route _ => .route
  | neighbor _ => .neighbor
  | networkNamespace _ => .networkNamespace

def schema : Entity → Schema
  | link fields => Schema.link fields.family
  | address fields => Schema.address fields.family
  | route fields => Schema.route fields.family
  | neighbor fields => Schema.neighbor fields.family
  | networkNamespace _ => Schema.networkNamespace

def encode : Entity → List UInt8
  | link fields => LinkEntity.wire.encode fields.toWire
  | address fields => AddressEntity.wire.encode fields.toWire
  | route fields => RouteEntity.wire.encode fields.toWire
  | neighbor fields => NeighborEntity.wire.encode fields.toWire
  | networkNamespace family => [family.code, 0, 0, 0]

def outline : Entity → List Outline
  | link fields => fields.outline
  | address fields => fields.outline
  | route fields => fields.outline
  | neighbor fields => fields.outline
  | networkNamespace family => [.field "family" family.label]

@[simp] theorem length_encode (entity : Entity) :
    entity.encode.length = entity.subject.fixedSize := by
  cases entity <;> simp [encode, subject, Subject.fixedSize]

end Entity
end RouteNetlink
