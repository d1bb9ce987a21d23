import RouteNetlink.Attribute.Basic
import RouteNetlink.Attribute.Form

/-! Which attributes a table knows: one row for each kind, in the order of the kinds, with
the name of the kind and the format of its payload. -/
namespace RouteNetlink

inductive Format where
  | plain (form : Form)
  | nested (nest : Nest) (label : String) (rows : List (String × Format))

structure Schema where
  /-- How faults name the attributes of this table. -/
  label : String
  rows : List (String × Format)

namespace Schema

def slots (schema : Schema) : Nat := schema.rows.length

def name? (schema : Schema) (kind : Nat) : Option String := schema.rows[kind]?.map Prod.fst

def name (schema : Schema) (kind : Nat) : String := (schema.name? kind).getD (toString kind)

def format? (schema : Schema) (kind : Nat) : Option Format := schema.rows[kind]?.map Prod.snd

end Schema

namespace Nest

def linkInfoSchema : Schema where
  label := "IFLA_INFO"
  rows :=
    [("UNSPEC", .plain .raw), ("KIND", .plain .text), ("DATA", .plain .raw),
     ("XSTATS", .plain .raw), ("SLAVE_KIND", .plain .text), ("SLAVE_DATA", .plain .raw)]

def inetSchema : Schema where
  label := "IFLA_INET"
  rows := [("UNSPEC", .plain .raw), ("CONF", .plain .inetSettings)]

def inet6Schema : Schema where
  label := "IFLA_INET6"
  rows :=
    [("UNSPEC", .plain .raw), ("FLAGS", .plain .inet6LinkFlags),
     ("CONF", .plain .inet6Settings), ("STATS", .plain .raw), ("MULTICAST", .plain .raw),
     ("CACHEINFO", .plain .inet6CacheInfo), ("ICMP6STATS", .plain .raw),
     ("TOKEN", .plain .ip6), ("ADDR_GEN_MODE", .plain .u8), ("RA_MTU", .plain .u32)]

/-- One slot for each address family; the two internet families have tables of their own. -/
def familiesSchema : Schema where
  label := "AF"
  rows := (List.range 46).map fun code =>
    (Family.vocabulary.label code,
      if code = 2 then .nested inet inetSchema.label inetSchema.rows
      else if code = 10 then .nested inet6 inet6Schema.label inet6Schema.rows
      else .plain .raw)

def schema : Nest → Schema
  | families => familiesSchema
  | inet => inetSchema
  | inet6 => inet6Schema
  | linkInfo => linkInfoSchema

def format (nest : Nest) : Format := .nested nest nest.schema.label nest.schema.rows

end Nest
end RouteNetlink
