import RouteNetlink.Message.Decode
import RouteNetlink.Proofs.Conformance
import RouteNetlink.Proofs.Record

/-! Messages come back from the records that they are framed as, and a received message can
be framed again. -/
namespace RouteNetlink

theorem Cursor.read_encode {α : Type} (layout : Layout α) (a : α) (rest : List UInt8) :
    (Cursor.mk (layout.encode a ++ rest)).read layout = .ok (a, ⟨rest⟩) := by
  simp only [read, layout.split?_encode]

theorem Cursor.read_u8 (a : UInt8) (rest : List UInt8) :
    (Cursor.mk (a :: rest)).read Layout.u8 = .ok (a, ⟨rest⟩) := by
  have ha : Layout.u8.encode a = [a] := congrArg (· :: []) UInt8.ofNat_toNat
  have hread := read_encode Layout.u8 a rest
  rwa [ha] at hread

theorem Cursor.require_of_le {cursor : Cursor} {n : Nat} (h : n ≤ cursor.rest.length) :
    cursor.require n = .ok () := if_neg (Nat.not_lt.2 h)

namespace Header

theorem decode_encode {header : Header} (h : header.namespaceId? = none) (rest : List UInt8) :
    decode (header.encode ++ rest) = .ok header := by
  have hw : ofWire header.toWire = header := by rw [ofWire_toWire, ← h]
  rw [decode, encode, wire.leading_encode_append, Outcome.ok_map, hw]

theorem namespaceId?_of_decode {bs : List UInt8} {header : Header}
    (h : decode bs = .ok header) : header.namespaceId? = none := by
  obtain ⟨fields, _, rfl⟩ := Outcome.map_eq_ok_iff.1 h
  rfl

end Header

namespace Subject

def kinds : Subject → List RecordKind
  | link => [.newLink, .deleteLink, .getLink, .setLink]
  | address => [.newAddress, .deleteAddress, .getAddress]
  | route => [.newRoute, .deleteRoute, .getRoute]
  | neighbor => [.newNeighbor, .deleteNeighbor, .getNeighbor]
  | networkNamespace => [.newNamespace, .deleteNamespace, .getNamespace]

theorem subject?_eq_some_iff {kind : RecordKind} {subject : Subject} :
    kind.subject? = some subject ↔ kind ∈ subject.kinds := by
  constructor
  · intro h
    unfold RecordKind.subject? at h
    split_ifs at h <;> obtain rfl := Option.some.inj h <;> assumption
  · intro h
    cases subject <;> simp only [kinds, List.mem_cons, List.not_mem_nil, or_false] at h
    · rcases h with rfl | rfl | rfl | rfl <;> rfl
    all_goals rcases h with rfl | rfl | rfl <;> rfl

theorem fixedSize_le (subject : Subject) : subject.fixedSize ≤ 16 := by
  cases subject <;> decide

/-- The kinds that ask for state about a subject are kinds of records about it. -/
theorem exists_of_isQuery {kind : RecordKind} (h : kind.isQuery = true) :
    ∃ subject : Subject, kind.subject? = some subject := by
  simp only [RecordKind.isQuery, List.mem_cons, List.not_mem_nil, or_false,
    decide_eq_true_eq] at h
  rcases h with rfl | rfl | rfl | rfl | rfl
  · exact ⟨.link, rfl⟩
  · exact ⟨.address, rfl⟩
  · exact ⟨.route, rfl⟩
  · exact ⟨.neighbor, rfl⟩
  · exact ⟨.networkNamespace, rfl⟩

end Subject

namespace Entity

/-- The fixed part has eight bits for the flags of an address. -/
def Representable : Entity → Prop
  | address fields => fields.flags.toNat < 256
  | _ => True

theorem narrow_schema (e : Entity) : e.schema.narrow = true := by
  cases e with
  | link fields => exact Schema.narrow_link fields.family
  | _ => rfl

/-- The fixed part of an entity is split off as it was. -/
theorem split_encode {e : Entity} (h : e.Representable) (run : List UInt8) :
    e.subject.split (e.encode ++ run) = .ok (e, run) := by
  have hr : (Cursor.mk (e.encode ++ run)).require e.subject.fixedSize = .ok () := by
    apply Cursor.require_of_le
    simp
  cases e with
  | address fields =>
    have hw : AddressEntity.ofWire fields.toWire = fields := by
      have hflags : fields.flags.toUInt8.toUInt32 = fields.flags := by
        apply UInt32.toNat.inj
        rw [UInt8.toNat_toUInt32, UInt32.toNat_toUInt8]
        exact Nat.mod_eq_of_lt h
      simp only [AddressEntity.ofWire, AddressEntity.toWire, hflags]
    simp only [subject, Subject.fixedSize, encode] at hr
    simp only [subject, Subject.split, encode, hr, Cursor.read_encode, Outcome.ok_bind, hw]
    rfl
  | networkNamespace family =>
    simp only [subject, Subject.split, encode, List.cons_append, List.nil_append,
      Cursor.read_u8, Outcome.ok_bind]
    rfl
  | _ =>
    simp only [subject, Subject.fixedSize, encode] at hr
    simp only [subject, Subject.split, encode, hr, Cursor.read_encode, Outcome.ok_bind]
    rfl

theorem of_split {subject : Subject} {body run : List UInt8} {e : Entity}
    (h : subject.split body = .ok (e, run)) : e.subject = subject ∧ e.Representable := by
  unfold Subject.split at h
  cases subject with
  | networkNamespace =>
    obtain ⟨_, _, h⟩ := Outcome.bind_eq_ok_iff.1 h
    cases h
    exact ⟨rfl, trivial⟩
  | address =>
    obtain ⟨_, _, h⟩ := Outcome.bind_eq_ok_iff.1 h
    obtain ⟨⟨⟨_, _, flags, _⟩, _⟩, _, h⟩ := Outcome.bind_eq_ok_iff.1 h
    cases h
    refine ⟨rfl, ?_⟩
    have := flags.toNat_lt
    simpa [Representable, AddressEntity.ofWire] using this
  | _ =>
    obtain ⟨_, _, h⟩ := Outcome.bind_eq_ok_iff.1 h
    obtain ⟨_, _, h⟩ := Outcome.bind_eq_ok_iff.1 h
    cases h
    exact ⟨rfl, trivial⟩

end Entity

namespace Body

def kinds : Body → List RecordKind
  | noop => [.noop]
  | done => [.done]
  | reply _ _ => [.error]
  | query _ => [.getLink, .getAddress, .getRoute, .getNeighbor, .getNamespace]
  | entity e _ => e.subject.kinds

/-- What comes back from its own encoding: headers without a namespace, entities that their
fixed part has room for, tables that conform to their schema and fit. -/
def Conforms : Body → Prop
  | reply _ request => request.namespaceId? = none
  | entity e attributes =>
    e.Representable ∧ e.schema.Admits attributes ∧ attributes.fits = true
  | _ => True

theorem Conforms.fits {body : Body} (h : body.Conforms) : body.fits = true := by
  cases body with
  | entity e attributes => exact h.2.2
  | _ => rfl

/-- Tables that fit are far from filling the length field of a record. -/
theorem Conforms.size_lt {body : Body} (h : body.Conforms) :
    Header.size + body.size < UInt32.size := by
  cases body with
  | entity e attributes =>
    obtain ⟨_, ha, hf⟩ := h
    have hn : e.schema.slots ≤ 2 ^ 14 := by
      have := e.narrow_schema
      simp only [Schema.narrow, Bool.and_eq_true, decide_eq_true_eq] at this
      exact this.1
    have hsize := Table.size_le hf
    have hfixed := e.subject.fixedSize_le
    have hslots := ha.slots
    have hh : Header.size = 16 := rfl
    have hw : UInt32.size = 4294967296 := rfl
    simp only [size]
    omega
  | _ =>
    simp only [size]
    decide

end Body

/-- The answer to a request comes back from its own body. -/
theorem Opened.reply_spelled {request : Header} (h : request.namespaceId? = none)
    (header : Header) (code : Int32) :
    reply header (Body.reply code request).spelled = .ok ⟨header, .reply code request⟩ := by
  have hrequest : Header.ofWire request.toWire = request := by
    rw [Header.ofWire_toWire, ← h]
  have hr : (Cursor.mk (Layout.i32.encode code ++ request.encode)).require replyWidth =
      .ok () := by
    apply Cursor.require_of_le
    simp [replyWidth]
  have hread : (Cursor.mk request.encode).read Header.wire = .ok (request.toWire, ⟨[]⟩) := by
    have := Cursor.read_encode Header.wire request.toWire []
    rwa [List.append_nil] at this
  simp only [reply, Body.spelled, hr, Cursor.read_encode, Outcome.ok_bind, hread, hrequest]
  rfl

namespace Message

/-- A message of a kind that its body can have, which nothing but its own bytes is needed to
bring back. -/
structure Conforms (message : Message) : Prop where
  kind : message.header.kind ∈ message.body.kinds
  namespaceId : message.header.namespaceId? = none
  body : message.body.Conforms

theorem Conforms.stamped {message : Message} (h : message.Conforms) (buffer : TransmitBuffer) :
    (message.stamped buffer).Conforms := ⟨h.kind, h.namespaceId, h.body⟩

/-- A stamped header says how long the record is. -/
theorem Conforms.length_stamped {message : Message} (h : message.Conforms)
    (buffer : TransmitBuffer) : (message.stamped buffer).header.length.toNat =
      Header.size + (message.stamped buffer).body.size :=
  TransmitBuffer.length_stamped h.body.size_lt

/-- A record whose header says its length is opened as its body, whatever follows it. -/
theorem ofRecord_record {message : Message} (hn : message.header.namespaceId? = none)
    (hl : message.header.length.toNat = Header.size + message.body.size) (gap : List UInt8) :
    Opened.ofRecord (message.record ++ gap) =
      Opened.ofBody message.header message.body.spelled := by
  have hd : Header.decode (message.record ++ gap) = .ok message.header := by
    rw [record, List.append_assoc]
    exact Header.decode_encode hn _
  have hlen : (message.record ++ gap).length =
      Header.size + message.body.size + gap.length := by simp
  have hc : ¬(message.header.length.toNat < Header.size ∨
      (message.record ++ gap).length < message.header.length.toNat) := by omega
  have hbody : ((message.record ++ gap).take message.header.length.toNat).drop Header.size =
      message.body.spelled := by
    rw [hl, List.take_left' message.length_record, record, List.drop_left' (by simp)]
  simp only [Opened.ofRecord, hd, Outcome.ok_bind, if_neg hc, hbody]

/-- Opening the body of a conforming message leaves at most its attributes to be decoded. -/
theorem ofBody_spelled {message : Message} (h : message.Conforms) :
    Opened.ofBody message.header message.body.spelled =
      match message.body with
      | .entity e attributes => .ok (.attributed message.header e attributes.spelled)
      | _ => .ok (.complete message) := by
  obtain ⟨⟨length, kind, flags, sequence, port, namespaceId?⟩, body⟩ := message
  obtain ⟨hk, rfl, hb⟩ := h
  cases body with
  | noop =>
    obtain rfl := List.mem_singleton.1 hk
    rfl
  | done =>
    obtain rfl := List.mem_singleton.1 hk
    rfl
  | reply code request =>
    obtain rfl := List.mem_singleton.1 hk
    exact Outcome.map_eq_ok_iff.2 ⟨_, Opened.reply_spelled hb _ code, rfl⟩
  | query family =>
    have hq : kind.isQuery = true := decide_eq_true hk
    obtain ⟨subject, hs⟩ := Subject.exists_of_isQuery hq
    -- One byte is less than the fixed part of any subject, so it is read as a family.
    have hshort : 1 < subject.fixedSize := by cases subject <;> decide
    have hc : kind.isQuery = true ∧ [family.code].length < subject.fixedSize := ⟨hq, hshort⟩
    simp only [Opened.ofBody, hs, Body.spelled, if_pos hc, Opened.query, Cursor.read_u8,
      Outcome.ok_bind]
    rfl
  | entity e attributes =>
    have hs : kind.subject? = some e.subject := Subject.subject?_eq_some_iff.2 hk
    have hc : ¬(kind.isQuery = true ∧
        (e.encode ++ attributes.spelled).length < e.subject.fixedSize) := by
      simp
    simp only [Opened.ofBody, hs, Body.spelled, if_neg hc, Entity.split_encode hb.1,
      Outcome.ok_map]

/-- Decoding undoes encoding on the bytes of a record and whatever follows them. -/
theorem decode_record {message : Message} (h : message.Conforms)
    (hl : message.header.length.toNat = Header.size + message.body.size) (gap : List UInt8) :
    decode (message.record ++ gap) = .ok message := by
  rw [decode, ofRecord_record h.namespaceId hl, ofBody_spelled h]
  obtain ⟨header, body⟩ := message
  cases body with
  | entity e attributes =>
    have hrun : e.schema.decode attributes.spelled = .ok attributes :=
      Schema.decode_spelled h.body.2.1 e.narrow_schema h.body.2.2
    simp only [Outcome.ok_bind, hrun]
    rfl
  | _ => rfl

theorem Conforms.appendTo {message : Message} (h : message.Conforms) (buffer : TransmitBuffer) :
    message.appendTo buffer =
      ⟨message.stamped buffer,
        { buffer.counted message.header with
          bytes := buffer.bytes ++ (message.stamped buffer).padded },
        none⟩ :=
  appendTo_of_fits h.body.fits h.body.size_lt buffer

theorem Conforms.decode_padded {message : Message} (h : message.Conforms)
    (buffer : TransmitBuffer) :
    decode (message.stamped buffer).padded = .ok (message.stamped buffer) :=
  decode_record (h.stamped buffer) (h.length_stamped buffer) _

/-- Decoding undoes encoding: whatever a buffer holds, a conforming message is appended to it,
with nothing but its header stamped, as bytes that decode to the message. -/
theorem decode_appendTo {message : Message} (h : message.Conforms) (buffer : TransmitBuffer) :
    let framing := message.appendTo buffer
    framing.fault? = none ∧ framing.message = message.stamped buffer ∧
      ∃ record, framing.buffer.bytes = buffer.bytes ++ record ∧
        decode record = .ok framing.message := by
  intro framing
  have hf : framing = _ := h.appendTo buffer
  rw [hf]
  exact ⟨rfl, rfl, _, rfl, h.decode_padded buffer⟩

/-- A new bridge, with its name and a table that says what it is. -/
def bridgeLink : Message where
  header := Header.new .newLink 0
  body :=
    .entity (Subject.blank .unspecified .link)
      (((Table.empty (Schema.link .unspecified).slots).put LinkKind.name
        (.value (.text "br0"))).put LinkKind.info
          (.table .linkInfo ((Table.empty Nest.linkInfo.schema.slots).put LinkInfoKind.kind
            (.value (.text "bridge")))))

theorem decode_appendTo_bridgeLink :
    bridgeLink.Conforms ∧ (bridgeLink.appendTo ⟨[1, 2, 3, 4], 4242, 0⟩).fault? = none ∧
      ∃ record, (bridgeLink.appendTo ⟨[1, 2, 3, 4], 4242, 0⟩).buffer.bytes =
          [1, 2, 3, 4] ++ record ∧
        decode record = .ok (bridgeLink.appendTo ⟨[1, 2, 3, 4], 4242, 0⟩).message := by
  have hinfo : Nest.linkInfo.schema.Admits ((Table.empty Nest.linkInfo.schema.slots).put
      LinkInfoKind.kind (.value (.text "bridge"))) := by
    apply (Schema.admits_empty _).put
    rintro format ⟨⟩
    exact .value (.text (by decide))
  have hc : bridgeLink.Conforms := by
    refine ⟨by decide, rfl, trivial, ?_, by decide +kernel⟩
    refine ((Schema.admits_empty _).put ?_).put ?_
    · rintro format ⟨⟩
      exact .value (.text (by decide))
    · rintro format ⟨⟩
      exact .table hinfo.slots fun kind row a hrow =>
        hinfo.row kind row.2 a (congrArg (Option.map Prod.snd) hrow)
  obtain ⟨hfault, _, hrecord⟩ := decode_appendTo hc ⟨[1, 2, 3, 4], 4242, 0⟩
  exact ⟨hc, hfault, hrecord⟩

end Message

namespace Opened

/-- The payloads of the attributes on the top level of a record. -/
def payloads (record : List UInt8) : List (List UInt8) :=
  match ofRecord record with
  | .ok (.attributed _ _ run) => (RunItem.all run).filterMap fun
    | .ok item => some item.payload
    | .error _ => none
  | _ => []

/-- What holds of an opened record before its attributes are decoded. -/
def Sound (header : Header) : Opened → Prop
  | complete message => message.header = header ∧ header.kind ∈ message.body.kinds ∧
      message.body.Conforms
  | attributed header' e _ => header' = header ∧ header.kind ∈ e.subject.kinds ∧ e.Representable

theorem sound_of_query {header : Header} {body : List UInt8} {message : Message}
    (hq : header.kind.isQuery = true) (h : query header body = .ok message) :
    Sound header (complete message) := by
  obtain ⟨_, _, h⟩ := Outcome.bind_eq_ok_iff.1 h
  cases h
  exact ⟨rfl, of_decide_eq_true hq, trivial⟩

theorem sound_of_reply {header : Header} {body : List UInt8} {message : Message}
    (hk : header.kind = .error) (h : reply header body = .ok message) :
    Sound header (complete message) := by
  obtain ⟨_, _, h⟩ := Outcome.bind_eq_ok_iff.1 h
  obtain ⟨_, _, h⟩ := Outcome.bind_eq_ok_iff.1 h
  obtain ⟨_, _, h⟩ := Outcome.bind_eq_ok_iff.1 h
  cases h
  exact ⟨rfl, List.mem_singleton.2 hk, rfl⟩

theorem sound_of_ofBody {header : Header} {body : List UInt8} {opened : Opened}
    (h : ofBody header body = .ok opened) : Sound header opened := by
  unfold ofBody at h
  split at h
  · rename_i subject hs
    split at h
    · rename_i hq
      obtain ⟨message, hm, rfl⟩ := Outcome.map_eq_ok_iff.1 h
      exact sound_of_query hq.1 hm
    · obtain ⟨⟨e, run⟩, hsplit, rfl⟩ := Outcome.map_eq_ok_iff.1 h
      obtain ⟨rfl, hr⟩ := Entity.of_split hsplit
      exact ⟨rfl, Subject.subject?_eq_some_iff.1 hs, hr⟩
  · split_ifs at h with hn hd he
    · cases h
      exact ⟨rfl, List.mem_singleton.2 hn, trivial⟩
    · cases h
      exact ⟨rfl, List.mem_singleton.2 hd, trivial⟩
    · obtain ⟨message, hm, rfl⟩ := Outcome.map_eq_ok_iff.1 h
      exact sound_of_reply he hm

theorem sound_of_ofRecord {record : List UInt8} {opened : Opened}
    (h : ofRecord record = .ok opened) :
    ∃ header : Header, header.namespaceId? = none ∧ Sound header opened := by
  obtain ⟨header, hd, h⟩ := Outcome.bind_eq_ok_iff.1 h
  dsimp only at h
  split_ifs at h
  exact ⟨header, Header.namespaceId?_of_decode hd, sound_of_ofBody h⟩

end Opened

namespace Message

/-- A message that was decoded from a record without long attributes conforms. -/
theorem conforms_of_decode {record : List UInt8} {message : Message}
    (h : decode record = .ok message)
    (hp : ∀ payload ∈ Opened.payloads record, payload.length ≤ RunItem.growthLimit) :
    message.Conforms := by
  obtain ⟨opened, ho, h⟩ := Outcome.bind_eq_ok_iff.1 h
  obtain ⟨header, hn, hs⟩ := Opened.sound_of_ofRecord ho
  cases opened with
  | complete message =>
    cases h
    obtain ⟨rfl, hk, hb⟩ := hs
    exact ⟨hk, hn, hb⟩
  | attributed header' e run =>
    obtain ⟨rfl, hk, hr⟩ := hs
    obtain ⟨attributes, ha, h⟩ := Outcome.bind_eq_ok_iff.1 h
    cases h
    refine ⟨hk, hn, hr, Schema.admits_of_decode ha, Schema.fits_of_decode ha ?_⟩
    intro item hi
    apply hp
    rw [Opened.payloads, ho]
    exact List.mem_filterMap.2 ⟨.ok item, hi, rfl⟩

/-- What was received can be sent again. Unless an attribute of the record was so long that
its text may outgrow it, a decoded message is appended as bytes that decode to it, and these
bytes are appended again wherever that message is. -/
theorem appendTo_of_decode {record : List UInt8} {message : Message} {buffer : TransmitBuffer}
    (h : decode record = .ok message)
    (hp : ∀ payload ∈ Opened.payloads record, payload.length ≤ RunItem.growthLimit)
    (hb : buffer.Reached) :
    let framing := message.appendTo buffer
    framing.fault? = none ∧ framing.message = message.stamped buffer ∧
      ∃ sent, framing.buffer.bytes = buffer.bytes ++ sent ∧
        decode sent = .ok framing.message ∧
        ∀ other : TransmitBuffer, other.port = buffer.port →
          let again := framing.message.appendTo other
          again.fault? = none ∧ again.message = framing.message ∧
            again.buffer.bytes = other.bytes ++ sent := by
  intro framing
  have hc := conforms_of_decode h hp
  have hf : framing = _ := hc.appendTo buffer
  rw [hf]
  refine ⟨rfl, rfl, _, rfl, hc.decode_padded buffer, ?_⟩
  intro other hport again
  -- The first framing left no sequence number of zero, so the second one takes no new number.
  have hstamped : (message.stamped buffer).stamped other = message.stamped buffer := by
    have hs := hb.stamped_sequence_ne_zero message.header message.body.size
    have hsame := TransmitBuffer.stamped_stamped hport hs
    exact congrArg (Message.mk · message.body) hsame
  have ha : again = _ := (hc.stamped buffer).appendTo other
  rw [ha, hstamped]
  exact ⟨rfl, rfl, rfl⟩

/-- A received address with two labels. The second one has flag bits on its kind, a byte that
is no text, and neither a terminator nor padding. -/
def labelledRecord : List UInt8 :=
  [38, 0, 0, 0, 20, 0, 0, 0, 0, 0, 0, 0, 0, 0, 0, 0, 2, 8, 0, 0, 1, 0, 0, 0,
    7, 0, 3, 0, 0x65, 0x66, 0, 7, 6, 0, 3, 0x80, 0x65, 0xff]

theorem appendTo_of_decode_labelledRecord :
    ∃ message sent, decode labelledRecord = .ok message ∧
      (message.appendTo (.new 4242)).buffer.bytes = sent ∧
      decode sent = .ok (message.appendTo (.new 4242)).message := by
  let message : Message :=
    ⟨⟨38, .newAddress, 0, 0, 0, none⟩, .entity (.address ⟨.inet, 8, 0, 0, 1⟩)
      ((Table.empty 12).put AddressKind.label (.value (.text "e\uFFFD")))⟩
  have hm : decode labelledRecord = .ok message := by decide +kernel
  have hp : ∀ payload ∈ Opened.payloads labelledRecord,
      payload.length ≤ RunItem.growthLimit := by decide +kernel
  obtain ⟨_, _, sent, hbytes, hsent, _⟩ := appendTo_of_decode hm hp (.new 4242)
  exact ⟨message, sent, hm, hbytes, hsent⟩

end Message
end RouteNetlink
