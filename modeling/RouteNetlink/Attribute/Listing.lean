import RouteNetlink.Attribute.Basic
import RouteNetlink.Text.Listing

/-! A table on one line: each present kind with the constructor and the payload of its
attribute. -/
namespace RouteNetlink

namespace Value

def tag : Value → String
  | i8 _ => "I8"
  | i16 _ => "I16"
  | i32 _ => "I32"
  | i64 _ => "I64"
  | u8 _ => "U8"
  | u16 _ => "U16"
  | u32 _ => "U32"
  | u64 _ => "U64"
  | text _ => "String"
  | ethernet _ => "Ethernet"
  | ip4 _ => "Ip4"
  | ip6 _ => "Ip6"
  | operState _ => "OperState"
  | addressFlags _ => "IfAddrFlags"
  | inet6LinkFlags _ => "Ip6IfFlags"
  | counters32 _ => "LinkStats"
  | counters64 _ => "LinkStats64"
  | addressCacheInfo _ => "IfAddrCacheInfo"
  | neighborCacheInfo _ => "NdaCacheInfo"
  | routeCacheInfo _ => "RtaCacheInfo"
  | inet6CacheInfo _ => "Ip6IfCacheInfo"
  | inetSettings _ => "Ip4DevConf"
  | inet6Settings _ => "Ip6DevConf"
  | raw _ => "Hex"

/-- Numbers, text and addresses as themselves, anything else as a list of its words or
bytes. -/
def payloadText : Value → String
  | i8 n => toString n
  | i16 n => toString n
  | i32 n => toString n
  | i64 n => toString n
  | u8 n => toString n
  | u16 n => toString n
  | u32 n => toString n
  | u64 n => toString n
  | text s => Listing.quoted s
  | ip4 address => address.text
  | ip6 address => address.text
  | operState code => toString code
  | addressFlags bits => toString bits
  | inet6LinkFlags bits => toString bits
  | inetSettings values => Listing.list (values.map toString)
  | inet6Settings values => Listing.list (values.map toString)
  | counters32 counters => Listing.list (counters.toList.map toString)
  | counters64 counters => Listing.list (counters.toList.map toString)
  | value => Listing.list (value.encode.map toString)

def listing (value : Value) : String := Listing.wrapped value.tag value.payloadText

end Value

def Nest.tag : Nest → String
  | .families => "AddressFamily"
  | .inet => "Inet"
  | .inet6 => "Inet6"
  | .linkInfo => "LinkInfo"

namespace Attribute

mutual

def listing : Attribute → String
  | value v => v.listing
  | table nest slots =>
    Listing.wrapped nest.tag (Listing.map (listingSlots 0 slots))

def listingSlots (kind : Nat) : List (Option Attribute) → List (String × String)
  | [] => []
  | none :: slots => listingSlots (kind + 1) slots
  | some a :: slots => (toString kind, listing a) :: listingSlots (kind + 1) slots

end

end Attribute

def Table.listing (table : Table) : String :=
  Listing.map (Attribute.listingSlots 0 table)

end RouteNetlink
