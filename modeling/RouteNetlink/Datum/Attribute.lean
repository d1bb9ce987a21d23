import RouteNetlink.Attribute.Encode
import RouteNetlink.Attribute.Listing
import RouteNetlink.Attribute.Outline
import RouteNetlink.Datum.Fault

/-! Attributes and tables as plain data: a type and what it says. Addresses are the
hexadecimal digits of their octets. -/
namespace RouteNetlink

open Datum (hex)

instance : ToDatum AddressCacheInfo :=
  ⟨fun i => datum [i.preferred, i.valid, i.created, i.updated]⟩

instance : ToDatum NeighborCacheInfo :=
  ⟨fun i => datum [i.confirmed, i.used, i.updated, i.references]⟩

instance : ToDatum RouteCacheInfo :=
  ⟨fun i => .list [datum i.clientReferences, datum i.lastUse, datum i.expires, datum i.error,
    datum i.used, datum i.id, datum i.stamp, datum i.stampAge]⟩

instance : ToDatum Inet6CacheInfo :=
  ⟨fun i => datum [i.maxReassembly, i.stamp, i.reachable, i.retransmit]⟩

instance : ToDatum Ip := ⟨fun address => .text address.text⟩
instance : ToDatum Ethernet := ⟨fun address => .text address.text⟩
instance : ToDatum Nest := ⟨fun nest => .text nest.tag⟩

instance : OfDatum Nest where
  read d := do
    let tag : String ← OfDatum.read d
    match [Nest.families, .inet, .inet6, .linkInfo].find? (·.tag = tag) with
    | some nest => return nest
    | none => throw (.expected "a kind of table")

namespace Value

def payloadDatum : Value → Datum
  | i8 n => datum n
  | i16 n => datum n
  | i32 n => datum n
  | i64 n => datum n
  | u8 n => datum n
  | u16 n => datum n
  | u32 n => datum n
  | u64 n => datum n
  | text s => datum s
  | operState n => datum n
  | addressFlags n => datum n
  | inet6LinkFlags n => datum n
  | counters32 counters => datum counters
  | counters64 counters => datum counters
  | addressCacheInfo info => datum info
  | neighborCacheInfo info => datum info
  | routeCacheInfo info => datum info
  | inet6CacheInfo info => datum info
  | inetSettings values => datum values
  | inet6Settings values => datum values
  | value => hex value.encode

def ofLayout {α : Type} (layout : Layout α) (d : Datum) : Except Misfit α := do
  let bs ← d.ofHex
  if bs.length = layout.width then return layout.decode bs
  else throw (.expected (toString layout.width ++ " bytes"))

def fourWords {α : Type} (make : UInt32 → UInt32 → UInt32 → UInt32 → α) (d : Datum) :
    Except Misfit α := do
  let (words : Vector UInt32 4) ← OfDatum.read d
  return make words[0] words[1] words[2] words[3]

def routeCacheInfoOf : Datum → Except Misfit RouteCacheInfo
  | .list [a, b, c, d, e, f, g, h] => open OfDatum in do
    return ⟨← read a, ← read b, ← read c, ← read d, ← read e, ← read f, ← read g, ← read h⟩
  | _ => .error (.expected "8 items")

open OfDatum in
def readers : List (String × (Datum → Except Misfit Value)) :=
  [("I8", fun d => i8 <$> read d), ("I16", fun d => i16 <$> read d),
   ("I32", fun d => i32 <$> read d), ("I64", fun d => i64 <$> read d),
   ("U8", fun d => u8 <$> read d), ("U16", fun d => u16 <$> read d),
   ("U32", fun d => u32 <$> read d), ("U64", fun d => u64 <$> read d),
   ("String", fun d => text <$> read d),
   ("Ethernet", fun d => ethernet <$> ofLayout Ethernet.layout d),
   ("Ip4", fun d => ip4 <$> ofLayout Ipv4.layout d),
   ("Ip6", fun d => ip6 <$> ofLayout Ipv6.layout d),
   ("OperState", fun d => operState <$> read d),
   ("IfAddrFlags", fun d => addressFlags <$> read d),
   ("Ip6IfFlags", fun d => inet6LinkFlags <$> read d),
   ("LinkStats", fun d => counters32 <$> read d),
   ("LinkStats64", fun d => counters64 <$> read d),
   ("IfAddrCacheInfo", fun d => addressCacheInfo <$> fourWords AddressCacheInfo.mk d),
   ("NdaCacheInfo", fun d => neighborCacheInfo <$> fourWords NeighborCacheInfo.mk d),
   ("RtaCacheInfo", fun d => routeCacheInfo <$> routeCacheInfoOf d),
   ("Ip6IfCacheInfo", fun d => inet6CacheInfo <$> fourWords Inet6CacheInfo.mk d),
   ("Ip4DevConf", fun d => inetSettings <$> read d),
   ("Ip6DevConf", fun d => inet6Settings <$> read d),
   ("Hex", fun d => raw <$> d.bytes)]

end Value

namespace Attribute

def tagged (tag : String) (payload : Datum) : Datum := .record [("t", .text tag), ("v", payload)]

mutual

def toDatum : Attribute → Datum
  | value v => tagged v.tag v.payloadDatum
  | table nest slots =>
    tagged "Array" (.record [("kind", datum nest), ("slots", datum slots.length),
      ("attrs", .list (slotsDatum 0 slots))])

def slotsDatum (kind : Nat) : List (Option Attribute) → List Datum
  | [] => []
  | none :: slots => slotsDatum (kind + 1) slots
  | some a :: slots => .list [datum kind, toDatum a] :: slotsDatum (kind + 1) slots

end

instance : ToDatum Attribute := ⟨toDatum⟩

mutual

/-- Attributes nested no deeper than `depth`. -/
def ofDatum (depth : Nat) (d : Datum) : Except Misfit Attribute := do
  let tag : String ← d.need "t"
  let payload : Datum ← d.need "v"
  match Value.readers.lookup tag with
  | some reader => return value (← reader payload)
  | none =>
    if tag = "Array" then
      match depth with
      | 0 => throw (.expected "fewer levels")
      | depth + 1 =>
        let nest : Nest ← payload.need "kind"
        return table nest
          (← storeAll depth (Table.empty (← payload.need "slots")) (← payload.needItems "attrs"))
    else throw (.expected "a type of attribute")
termination_by (depth, 0)

def storeAll (depth : Nat) (slots : Table) : List Datum → Except Misfit Table
  | [] => .ok slots
  | .list [kind, a] :: ds => do
    storeAll depth (slots.put (← kind.nat) (← ofDatum depth a)) ds
  | _ => .error (.expected "a kind and its attribute")
termination_by ds => (depth, ds.length + 1)

end

instance : OfDatum Attribute := ⟨fun d => ofDatum d.depth d⟩

end Attribute

namespace Table

def toDatum (table : Table) : Datum := .list (Attribute.slotsDatum 0 table)

def extendOf (table : Table) (d : Datum) : Except Misfit Table := do
  Attribute.storeAll d.depth table (← d.items)

def ofDatum (d : Datum) : Except Misfit Table := do
  extendOf (Table.empty (← d.need "slots")) (← d.need "attrs")

end Table

instance : ToDatum Filled where
  datum filled :=
    match filled.fault? with
    | none => hex filled.bytes
    | some fault => datum fault

def Attribute.report (a : Attribute) : Datum :=
  .record
    [("attr", datum a), ("size", datum a.size), ("multiline", datum a.isMultiline),
     ("text", datum a.text), ("rendered", datum (Outline.render [.block "X" a.outline])),
     ("bytes", datum a.encode),
     ("as", .record
       [("u8", datum a.asU8?), ("u16", datum a.asU16?), ("u32", datum a.asU32?),
        ("i32", datum a.asI32?), ("str", datum a.asText?), ("ip", datum a.asIp?),
        ("ethernet", datum a.asEthernet?), ("array", datum (a.asTable?.map Prod.fst))])]

def Format.names : List (String × Format) :=
  [("I8", .plain .i8), ("I16", .plain .i16), ("I32", .plain .i32), ("I64", .plain .i64),
   ("U8", .plain .u8), ("U16", .plain .u16), ("U32", .plain .u32), ("U64", .plain .u64),
   ("String", .plain .text), ("Ip6", .plain .ip6), ("OperState", .plain .operState),
   ("IfAddrFlags", .plain .addressFlags), ("Ip6IfFlags", .plain .inet6LinkFlags),
   ("LinkStats", .plain .counters32), ("LinkStats64", .plain .counters64),
   ("IfAddrCacheInfo", .plain .addressCacheInfo), ("NdaCacheInfo", .plain .neighborCacheInfo),
   ("RtaCacheInfo", .plain .routeCacheInfo), ("Ip6IfCacheInfo", .plain .inet6CacheInfo),
   ("Ip4DevConf", .plain .inetSettings), ("Ip6DevConf", .plain .inet6Settings),
   ("Hex", .plain .raw), ("AfSpec", Nest.families.format), ("Inet", Nest.inet.format),
   ("Inet6", Nest.inet6.format), ("LinkInfo", Nest.linkInfo.format)]

instance : OfDatum Format where
  read
    | .text name =>
      match Format.names.lookup name with
      | some format => .ok format
      | none => .error (.expected "a format")
    | d => do return .plain (.address ⟨← d.need "Address"⟩)

end RouteNetlink
