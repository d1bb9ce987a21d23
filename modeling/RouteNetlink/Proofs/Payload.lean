import RouteNetlink.Attribute.Form
import RouteNetlink.Proofs.Layout
import RouteNetlink.Proofs.Outcome
import RouteNetlink.Proofs.Utf8

/-! Payloads that are no tables. A form admits the values that come back from their own
bytes, and whatever it decodes is one of them. -/
namespace RouteNetlink

@[simp] theorem length_flatMap_u32 (values : List UInt32) :
    (values.flatMap Layout.u32.encode).length = 4 * values.length := by
  induction values with
  | nil => rfl
  | cons value values ih =>
    have hw : (Layout.u32.encode value).length = 4 := Layout.u32.length_encode value
    rw [List.flatMap_cons, List.length_append, hw, ih, List.length_cons]
    omega

namespace Counters

@[simp] theorem width_layout32 : layout32.width = 92 := Layout.width_many Layout.u32 23

@[simp] theorem width_layout64 : layout64.width = 184 := Layout.width_many Layout.u64 23

end Counters

namespace Value

/-- A value is encoded to its size. -/
@[simp] theorem length_encode (value : Value) : value.encode.length = value.size := by
  cases value with
  | text s => simp [encode, size]
  | counters32 counters => simp [encode, size]
  | counters64 counters => simp [encode, size]
  | inetSettings values | inet6Settings values =>
    rw [encode, length_flatMap_u32]
    rfl
  | raw bytes => rfl
  | _ => simp only [encode, Layout.length_encode]; rfl

end Value

namespace Form

theorem words?_flatMap (values : List UInt32) :
    words? (values.flatMap Layout.u32.encode) = some values := by
  induction values with
  | nil => rfl
  | cons value values ih =>
    obtain ⟨a, b, c, d, he⟩ : ∃ a b c d, Layout.u32.encode value = [a, b, c, d] :=
      ⟨_, _, _, _, rfl⟩
    rw [List.flatMap_cons, he, List.cons_append, List.cons_append, List.cons_append,
      List.singleton_append, words?, ih, ← he]
    simp

theorem eq_flatMap_of_words? {bs : List UInt8} {values : List UInt32}
    (h : words? bs = some values) : bs = values.flatMap Layout.u32.encode := by
  fun_induction words? bs generalizing values with
  | case1 =>
    cases h
    rfl
  | case2 a b c d rest ih =>
    obtain ⟨more, hm, rfl⟩ := Option.map_eq_some_iff.1 h
    have he : Layout.u32.encode (Layout.u32.decode [a, b, c, d]) = [a, b, c, d] :=
      Layout.u32.encode_decode _ rfl
    rw [List.flatMap_cons, he, ← ih hm]
    rfl
  | case3 => cases h

theorem decodeSettings_eq_ok_iff {bs : List UInt8} {values : List UInt32} :
    decodeSettings bs = .ok values ↔ values ≠ [] ∧ bs = values.flatMap Layout.u32.encode := by
  constructor
  · intro h
    unfold decodeSettings wordTable? at h
    split at h
    · rename_i hw
      cases h
      split at hw
      · cases hw
      · rename_i hne
        have hb := eq_flatMap_of_words? hw
        refine ⟨fun hv => hne ?_, hb⟩
        rw [hb, hv, List.flatMap_nil]
    · cases h
  · rintro ⟨hne, rfl⟩
    have hb : values.flatMap Layout.u32.encode ≠ [] := by
      intro h
      have := congrArg List.length h
      rw [length_flatMap_u32, List.length_nil] at this
      exact hne (List.length_eq_zero_iff.1 (by omega))
    simp only [decodeSettings, wordTable?, if_neg hb, words?_flatMap]

/-- The values that a form brings back from their own bytes. -/
inductive Admits : Form → Value → Prop where
  | i8 (n : Int8) : Admits .i8 (.i8 n)
  | i16 (n : Int16) : Admits .i16 (.i16 n)
  | i32 (n : Int32) : Admits .i32 (.i32 n)
  | i64 (n : Int64) : Admits .i64 (.i64 n)
  | u8 (n : UInt8) : Admits .u8 (.u8 n)
  | u16 (n : UInt16) : Admits .u16 (.u16 n)
  | u32 (n : UInt32) : Admits .u32 (.u32 n)
  | u64 (n : UInt64) : Admits .u64 (.u64 n)
  | text {s : String} (h : '\x00' ∉ s.toList) : Admits .text (.text s)
  | inet (address : Ipv4) : Admits (.address .inet) (.ip4 address)
  | inet6 (address : Ipv6) : Admits (.address .inet6) (.ip6 address)
  | ip4 {family : Family} (h : addressWidth? family = none) (address : Ipv4) :
      Admits (.address family) (.ip4 address)
  | ip6OfWidth {family : Family} (h : addressWidth? family = none) (address : Ipv6) :
      Admits (.address family) (.ip6 address)
  | ethernet {family : Family} (h : addressWidth? family = none) (address : Ethernet) :
      Admits (.address family) (.ethernet address)
  | otherWidth {family : Family} (h : addressWidth? family = none) {bytes : List UInt8}
      (hl : bytes.length ∉ [4, 6, 16]) : Admits (.address family) (.raw bytes)
  | ip6 (address : Ipv6) : Admits .ip6 (.ip6 address)
  | operState (code : UInt8) : Admits .operState (.operState code)
  | addressFlags (bits : UInt32) : Admits .addressFlags (.addressFlags bits)
  | inet6LinkFlags (bits : UInt32) : Admits .inet6LinkFlags (.inet6LinkFlags bits)
  | counters32 (counters : Counters UInt32) : Admits .counters32 (.counters32 counters)
  | counters64 (counters : Counters UInt64) : Admits .counters64 (.counters64 counters)
  | addressCacheInfo (info : AddressCacheInfo) :
      Admits .addressCacheInfo (.addressCacheInfo info)
  | neighborCacheInfo (info : NeighborCacheInfo) :
      Admits .neighborCacheInfo (.neighborCacheInfo info)
  | routeCacheInfo (info : RouteCacheInfo) : Admits .routeCacheInfo (.routeCacheInfo info)
  | inet6CacheInfo (info : Inet6CacheInfo) : Admits .inet6CacheInfo (.inet6CacheInfo info)
  | inetSettings {values : List UInt32} (h : values ≠ []) :
      Admits .inetSettings (.inetSettings values)
  | inet6Settings {values : List UInt32} (h : values ≠ []) :
      Admits .inet6Settings (.inet6Settings values)
  | raw (bytes : List UInt8) : Admits .raw (.raw bytes)

theorem addressOfWidth_raw {bytes : List UInt8} (h : bytes.length ∉ [4, 6, 16]) :
    addressOfWidth bytes = .raw bytes := by
  unfold addressOfWidth
  split <;> simp_all

theorem addressOfWidth_ip4 (address : Ipv4) :
    addressOfWidth (Ipv4.layout.encode address) = .ip4 address := by
  have hl : (Ipv4.layout.encode address).length = 4 := Ipv4.layout.length_encode address
  simp [addressOfWidth, hl]

theorem addressOfWidth_ip6 (address : Ipv6) :
    addressOfWidth (Ipv6.layout.encode address) = .ip6 address := by
  have hl : (Ipv6.layout.encode address).length = 16 := Ipv6.layout.length_encode address
  simp [addressOfWidth, hl]

theorem addressOfWidth_ethernet (address : Ethernet) :
    addressOfWidth (Ethernet.layout.encode address) = .ethernet address := by
  have hl : (Ethernet.layout.encode address).length = 6 := Ethernet.layout.length_encode address
  simp [addressOfWidth, hl]

/-- Decoding undoes encoding on the values that a form admits. -/
theorem decode_encode {form : Form} {value : Value} (h : form.Admits value) :
    form.decode value.encode = .ok value := by
  cases h with
  | text h => simp only [decode, Value.encode, Utf8.decodeTerminated_encode h]
  | inet address =>
    have hl : (Ipv4.layout.encode address).length = 4 := Ipv4.layout.length_encode address
    simp [decode, Value.encode, decodeAddress, addressWidth?, hl, addressOfWidth_ip4]
  | inet6 address =>
    have hl : (Ipv6.layout.encode address).length = 16 := Ipv6.layout.length_encode address
    simp [decode, Value.encode, decodeAddress, addressWidth?, hl, addressOfWidth_ip6, Family.inet,
      Family.inet6]
  | ip4 h address =>
    simp only [decode, Value.encode, decodeAddress, h, addressOfWidth_ip4]
  | ip6OfWidth h address =>
    simp only [decode, Value.encode, decodeAddress, h, addressOfWidth_ip6]
  | ethernet h address =>
    simp only [decode, Value.encode, decodeAddress, h, addressOfWidth_ethernet]
  | otherWidth h hl =>
    simp only [decode, Value.encode, decodeAddress, h, addressOfWidth_raw hl]
  | counters32 counters =>
    rw [decode, Value.encode, Layout.leading_encode]
    rfl
  | counters64 counters =>
    rw [decode, Value.encode, Layout.leading_encode]
    rfl
  | inetSettings h | inet6Settings h =>
    rw [decode, Value.encode, decodeSettings_eq_ok_iff.2 ⟨h, rfl⟩]
    rfl
  | raw bytes => rfl
  | _ =>
    rw [decode, Value.encode, Layout.exactly_encode]
    rfl

theorem addressWidth?_eq_some {family : Family} {width : Nat}
    (h : addressWidth? family = some width) :
    family = .inet ∧ width = 4 ∨ family = .inet6 ∧ width = 16 := by
  unfold addressWidth? at h
  split at h
  · exact .inl ⟨by assumption, (Option.some.inj h).symm⟩
  · split at h
    · exact .inr ⟨by assumption, (Option.some.inj h).symm⟩
    · cases h

/-- An address of any width keeps its bytes. -/
theorem encode_addressOfWidth (bs : List UInt8) : (addressOfWidth bs).encode = bs := by
  unfold addressOfWidth
  split
  · exact Ipv4.layout.encode_decode bs (by assumption)
  · exact Ipv6.layout.encode_decode bs (by assumption)
  · exact Ethernet.layout.encode_decode bs (by assumption)
  · rfl

theorem admits_addressOfWidth {family : Family} (h : addressWidth? family = none)
    (bs : List UInt8) : (address family).Admits (addressOfWidth bs) := by
  unfold addressOfWidth
  split
  · exact .ip4 h _
  · exact .ip6OfWidth h _
  · exact .ethernet h _
  · rename_i h4 h16 h6
    exact .otherWidth h (by simpa using ⟨h4, h6, h16⟩)

theorem decodeAddress_eq_ok {family : Family} {bs : List UInt8} {value : Value}
    (h : decodeAddress family bs = .ok value) :
    value = addressOfWidth bs ∧ ∀ width, addressWidth? family = some width → bs.length = width := by
  unfold decodeAddress at h
  split at h
  · rename_i width hw
    split at h
    · cases h
      refine ⟨rfl, fun other ho => ?_⟩
      obtain rfl := Option.some.inj (hw.symm.trans ho)
      assumption
    · cases h
  · rename_i hw
    cases h
    exact ⟨rfl, fun width h => by simp [hw] at h⟩

theorem admits_of_decodeAddress {family : Family} {bs : List UInt8} {value : Value}
    (h : decodeAddress family bs = .ok value) : (address family).Admits value := by
  obtain ⟨rfl, hl⟩ := decodeAddress_eq_ok h
  cases hw : addressWidth? family with
  | none => exact admits_addressOfWidth hw bs
  | some width =>
    have hl := hl width hw
    rcases addressWidth?_eq_some hw with ⟨rfl, rfl⟩ | ⟨rfl, rfl⟩
    · simp only [addressOfWidth, hl]
      exact .inet _
    · simp only [addressOfWidth, hl]
      exact .inet6 _

/-- Every value that a form decodes is one that it admits. -/
theorem admits_of_decode {form : Form} {bs : List UInt8} {value : Value}
    (h : form.decode bs = .ok value) : form.Admits value := by
  cases form with
  | text =>
    cases h
    exact .text (Utf8.zero_not_mem_decodeTerminated bs)
  | address family => exact admits_of_decodeAddress h
  | raw =>
    cases h
    exact .raw bs
  | inetSettings =>
    obtain ⟨values, hv, rfl⟩ := Outcome.map_eq_ok_iff.1 h
    exact .inetSettings (decodeSettings_eq_ok_iff.1 hv).1
  | inet6Settings =>
    obtain ⟨values, hv, rfl⟩ := Outcome.map_eq_ok_iff.1 h
    exact .inet6Settings (decodeSettings_eq_ok_iff.1 hv).1
  | _ =>
    obtain ⟨a, _, rfl⟩ := Outcome.map_eq_ok_iff.1 h
    constructor

/-- Text may grow to three times its payload and a terminator; nothing else grows. -/
theorem size_le_of_decode {form : Form} {bs : List UInt8} {value : Value}
    (h : form.decode bs = .ok value) : value.size ≤ 3 * bs.length + 1 := by
  cases form with
  | text =>
    cases h
    have := Utf8.utf8ByteSize_decodeTerminated_le bs
    simp only [Value.size]
    omega
  | address family =>
    obtain ⟨rfl, _⟩ := decodeAddress_eq_ok h
    rw [← Value.length_encode, encode_addressOfWidth]
    omega
  | raw =>
    cases h
    simp only [Value.size]
    omega
  | inetSettings | inet6Settings =>
    obtain ⟨values, hv, rfl⟩ := Outcome.map_eq_ok_iff.1 h
    rw [(decodeSettings_eq_ok_iff.1 hv).2, length_flatMap_u32]
    simp only [Value.size]
    omega
  | counters32 =>
    obtain ⟨counters, hc, rfl⟩ := Outcome.map_eq_ok_iff.1 h
    have := Counters.layout32.width_le_of_leading hc
    rw [Counters.width_layout32] at this
    simp only [Value.size]
    omega
  | counters64 =>
    obtain ⟨counters, hc, rfl⟩ := Outcome.map_eq_ok_iff.1 h
    have := Counters.layout64.width_le_of_leading hc
    rw [Counters.width_layout64] at this
    simp only [Value.size]
    omega
  | _ =>
    obtain ⟨a, ha, rfl⟩ := Outcome.map_eq_ok_iff.1 h
    obtain rfl := (Layout.exactly_eq_ok_iff _).1 ha
    rw [← Value.length_encode]
    simp only [Value.encode]
    omega

end Form
end RouteNetlink
