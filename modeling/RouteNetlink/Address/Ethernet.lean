import RouteNetlink.Bytes.Layout
import RouteNetlink.Text.Hex

/-! Hardware addresses of 48 bits. -/
namespace RouteNetlink

structure Ethernet where
  octets : Vector UInt8 6
  deriving DecidableEq

namespace Ethernet

def layout : Layout Ethernet :=
  (Layout.u8.many 6).rename Ethernet.mk Ethernet.octets (fun _ => rfl) (fun _ => rfl)

/-- Two digits for each octet, with colons between them. -/
def text (address : Ethernet) : String :=
  ":".intercalate (address.octets.toList.map fun b => String.ofList (Hex.byte b))

end Ethernet
end RouteNetlink
