import RouteNetlink.Proofs.Fates

/-! Where the bytes of a record came from. A buffer knows the namespace of its latest datagram
alone; that this is the one a record was completed by rests on when the loop reads. -/
namespace RouteNetlink

namespace ReceiveBuffer

theorem next?_eq_none_iff {buffer : ReceiveBuffer} :
    buffer.next? = none ↔ front buffer.bytes = .partialRecord := by
  unfold next?
  cases front buffer.bytes <;> simp

/-- A record that is complete with more bytes and was not without them ends in these. -/
theorem length_lt_of_front {old more : List UInt8} {length : Nat}
    (h : front old = .partialRecord) (hn : front (old ++ more) = .record length) :
    old.length < align4 length := by
  obtain ⟨hd, hl, -⟩ := front_eq_record_iff.1 hn
  by_contra hlt
  have hs : Header.size = 16 := rfl
  have hle := le_align4 length
  have hold : front old = .record length := by
    refine front_eq_record_iff.2 ⟨?_, hl, by omega⟩
    rw [← hd, declared_append old more (by omega)]
  rw [h] at hold
  cases hold

end ReceiveBuffer

namespace Office

/-- All datagrams that were read, and the bytes of them that wait to be taken, each with the
number of its datagram. -/
structure Inbox where
  datagrams : List (List UInt8 × Option Int32)
  waiting : List (UInt8 × Nat)

namespace Inbox

def empty : Inbox := ⟨[], []⟩

/-- A datagram is added behind all that waits. A record is taken with its padding, and what is
no record with all that waits behind it. -/
def after (inbox : Inbox) : Event → Inbox
  | .received bytes namespaceId? =>
    ⟨inbox.datagrams ++ [(bytes, namespaceId?)],
      inbox.waiting ++ bytes.map (·, inbox.datagrams.length)⟩
  | .took _ (.ok record) _ _ =>
    { inbox with waiting := inbox.waiting.drop (align4 record.length) }
  | .took _ (.error _) _ _ => { inbox with waiting := [] }
  | _ => inbox

def bytes (inbox : Inbox) : List UInt8 := inbox.waiting.map Prod.fst

/-- The namespace of the datagram that the byte at a place came in. -/
def namespaceAt? (inbox : Inbox) (place : Nat) : Option (Option Int32) :=
  inbox.waiting[place]?.bind fun byte => inbox.datagrams[byte.2]?.map Prod.snd

/-- A record is what waits first, and its padding with it. -/
structure Starts (inbox : Inbox) (record : List UInt8) : Prop where
  first : record <+: inbox.bytes
  header : Header.size ≤ record.length
  padded : align4 record.length ≤ inbox.waiting.length

/-- A buffer holds what waits. What of this came before the datagrams of its namespace is not a
whole record. -/
structure Mirrors (inbox : Inbox) (buffer : ReceiveBuffer) : Prop where
  same : buffer.bytes = inbox.bytes
  fresh : ∃ old new, inbox.waiting = old ++ new ∧
    ReceiveBuffer.front (old.map Prod.fst) = .partialRecord ∧
    ∀ byte ∈ new, inbox.datagrams[byte.2]?.map Prod.snd = some buffer.namespaceId?

variable {inbox : Inbox} {buffer rest : ReceiveBuffer} {record : List UInt8} {phase : Phase}
  {namespaceId? : Option Int32} {fate : Fate}

theorem Mirrors.empty : Mirrors .empty .empty := ⟨rfl, [], [], rfl, rfl, by simp⟩

/-- While no record is complete, a datagram may come of another namespace. -/
theorem Mirrors.receive (h : Mirrors inbox buffer) (hn : buffer.next? = none)
    (bs : List UInt8) (namespaceId? : Option Int32) :
    Mirrors (inbox.after (.received bs namespaceId?)) ⟨buffer.bytes ++ bs, namespaceId?⟩ := by
  constructor
  · simp [after, Inbox.bytes, h.same, Function.comp_def]
  · refine ⟨inbox.waiting, bs.map (·, inbox.datagrams.length), rfl, ?_, ?_⟩
    · have hfront := ReceiveBuffer.next?_eq_none_iff.1 hn
      rwa [h.same] at hfront
    · intro byte hb
      obtain ⟨b, -, rfl⟩ := List.mem_map.1 hb
      simp [after]

theorem Mirrors.discard {fault : Fault} (hn : buffer.next? = some (.error fault, rest)) :
    Mirrors (inbox.after (.took phase (.error fault) namespaceId? fate)) rest := by
  have hrest : rest.bytes = [] := by
    unfold ReceiveBuffer.next? at hn
    split at hn <;> cases hn
    rfl
  exact ⟨hrest, [], [], rfl, rfl, by simp⟩

/-- A record is taken off the front with its padding, whose last byte is of the namespace that
the buffer knows. -/
theorem Mirrors.take (h : Mirrors inbox buffer) (hn : buffer.next? = some (.ok record, rest)) :
    Mirrors { inbox with waiting := inbox.waiting.drop (align4 record.length) } rest ∧
      inbox.Starts record ∧
      inbox.namespaceAt? (align4 record.length - 1) = some rest.namespaceId? := by
  obtain ⟨old, new, hwaiting, hold, hnew⟩ := h.fresh
  obtain ⟨hl, ha, hrecord, rfl⟩ := ReceiveBuffer.next?_eq_ok_iff.1 hn
  have hs : Header.size = 16 := rfl
  have hle := le_align4 (ReceiveBuffer.declared buffer.bytes)
  have hlength : record.length = ReceiveBuffer.declared buffer.bytes := by
    rw [hrecord, List.length_take]
    omega
  have hbytes : buffer.bytes = old.map Prod.fst ++ new.map Prod.fst := by
    rw [h.same, Inbox.bytes, hwaiting, List.map_append]
  -- the record reaches past all that is older
  have hpast : old.length < align4 record.length := by
    rw [hlength]
    have hfront := ReceiveBuffer.front_eq_record_iff.2 ⟨rfl, hl, ha⟩
    rw [hbytes] at hfront ⊢
    simpa using ReceiveBuffer.length_lt_of_front hold hfront
  rw [← hlength] at ha hl
  refine ⟨⟨?_, [], new.drop (align4 record.length - old.length), ?_, rfl, ?_⟩, ?_, ?_⟩
  · simp [Inbox.bytes, h.same, hlength, List.map_drop]
  · simp only [hwaiting, List.drop_append, List.drop_eq_nil_of_le (Nat.le_of_lt hpast)]
  · intro byte hb
    exact hnew byte (List.mem_of_mem_drop hb)
  · refine ⟨?_, hl, by simpa [h.same, Inbox.bytes] using ha⟩
    rw [hrecord, h.same]
    exact List.take_prefix _ _
  · have hplace : align4 record.length - 1 - old.length < new.length := by
      have hall := congrArg List.length hbytes
      simp only [List.length_append, List.length_map] at hall
      omega
    rw [namespaceAt?, hwaiting, List.getElem?_append_right (by omega),
      List.getElem?_eq_getElem hplace]
    exact hnew _ (List.getElem_mem hplace)

/-- Where a record came with its padding in one datagram, so did its last byte. -/
theorem Starts.namespaceAt?_of_whole (h : inbox.Starts record) {source : Nat} {bs : List UInt8}
    (hw : ∀ byte ∈ inbox.waiting.take (align4 record.length), byte.2 = source)
    (hd : inbox.datagrams[source]? = some (bs, namespaceId?)) :
    inbox.namespaceAt? (align4 record.length - 1) = some namespaceId? := by
  have hs : Header.size = 16 := rfl
  have hle := le_align4 record.length
  obtain ⟨-, hheader, hpadded⟩ := h
  have hlast : align4 record.length - 1 < inbox.waiting.length := by omega
  have hmem : inbox.waiting[align4 record.length - 1] ∈
      inbox.waiting.take (align4 record.length) :=
    List.mem_take_iff_getElem.2 ⟨_, by omega, rfl⟩
  rw [namespaceAt?, List.getElem?_eq_getElem hlast, Option.bind_some, hw _ hmem, hd]
  rfl

end Inbox

def inbox (trace : List Event) : Inbox := trace.foldl Inbox.after .empty

theorem inbox_append (past events : List Event) :
    inbox (past ++ events) = events.foldl Inbox.after (inbox past) := List.foldl_append

/-- What a fate has of the message of its record. -/
def Fate.Carries (message : Message) : Fate → Prop
  | .dropped => False
  | .delivered _ reply => message.reply? = some reply
  | .failed _ code => ∃ reply, message.reply? = some reply ∧ reply.code = code
  | .pushed other => other = message

/-- The next record that waits is taken, and the message in it is marked with the namespace of
the datagram that brought its last byte, padding included. -/
structure Marked (inbox : Inbox) (record : List UInt8) (namespaceId? : Option Int32)
    (fate : Fate) : Prop where
  starts : inbox.Starts record
  latest : inbox.namespaceAt? (align4 record.length - 1) = some namespaceId?
  undecoded : fate = .dropped ↔ ∀ message, Message.decode record ≠ .ok message
  carries : ∀ message, Message.decode record = .ok message →
    fate.Carries { message with header := { message.header with namespaceId? } }

/-- Every record that is taken is marked so; what is no record is dropped. -/
def Originates (past : List Event) : Event → Prop
  | .took _ (.ok record) namespaceId? fate => Marked (inbox past) record namespaceId? fate
  | .took _ (.error _) _ fate => fate = .dropped
  | _ => True

variable {given : Message → Prop} {past events : List Event} {office next : Office}

theorem heard_eq_some_iff {record : List UInt8} {namespaceId? : Option Int32}
    {message : Message} :
    heard (.ok record) namespaceId? = some message ↔
      ∃ decoded, Message.decode record = .ok decoded ∧
        { decoded with header := { decoded.header with namespaceId? } } = message := by
  change (Message.decode record).toOption.map _ = some message ↔ _
  cases Message.decode record with
  | error fault => simp [Except.toOption]
  | ok decoded => simp [Except.toOption]

theorem reply?_of_answer? {port : UInt32} {message : Message} {reply : Reply}
    (h : answer? port message = some reply) : message.reply? = some reply :=
  (Option.filter_eq_some_iff.1 h).1

/-- The inbox is what the buffer of the running loop holds. -/
structure Stocked (past : List Event) (office : Office) : Prop where
  idle : office.session.receiving = .idle → inbox past = .empty
  running : ∀ loop, office.session.receiving = .running loop →
    (inbox past).Mirrors loop.buffer

theorem Stocked.new (settings : Settings) (port : UInt32) (transport : Transport) :
    Stocked [] (.new settings port transport) where
  idle := fun _ => rfl
  running := by simp [Office.new, Session.new]

/-- Where the inbox stays as it is, and the loop keeps its buffer. -/
theorem Stocked.still (h : Stocked past office) (he : inbox (past ++ events) = inbox past)
    (hi : next.session.receiving = .idle → office.session.receiving = .idle)
    (hl : ∀ loop, next.session.receiving = .running loop →
      ∃ before, office.session.receiving = .running before ∧ before.buffer = loop.buffer) :
    Stocked (past ++ events) next := by
  constructor
  · intro hn
    rw [he]
    exact h.idle (hi hn)
  · intro loop hn
    obtain ⟨before, hb, hbuffer⟩ := hl loop hn
    rw [he, ← hbuffer]
    exact h.running before hb

theorem Stocked.take (h : Stocked past office) {loop : ReceiveLoop} {phase : Phase}
    {item : Except Fault (List UInt8)} {rest : ReceiveBuffer} {namespaceId? : Option Int32}
    {fate : Fate} (hl : office.session.receiving = .running loop)
    (hn : loop.buffer.next? = some (item, rest))
    (he : ∀ inbox : Inbox, events.foldl Inbox.after inbox = inbox)
    (hnext : ∀ after, next.session.receiving = .running after → after.buffer = rest)
    (hi : next.session.receiving ≠ .idle) :
    Stocked (past ++ .took phase item namespaceId? fate :: events) next := by
  constructor
  · exact fun hidle => absurd hidle hi
  · intro after ha
    rw [hnext after ha, inbox_append, List.foldl_cons, he]
    cases item with
    | error fault => exact Inbox.Mirrors.discard hn
    | ok record => exact ((h.running loop hl).take hn).1

theorem Stocked.effect (h : Stocked past office) (he : Effect given office events next) :
    Stocked (past ++ events) next := by
  cases he with
  | start requests hl hi =>
    constructor
    · rintro ⟨⟩
    · rintro _ ⟨⟩
      rw [inbox_append, h.idle hi]
      exact .empty
  | drop hl hn =>
    exact h.take hl.running hn (fun _ => rfl) (by rintro _ ⟨⟩; rfl) (by simp)
  | deliver hl hn =>
    exact h.take hl.running hn (fun _ => rfl) (by rintro _ ⟨⟩; rfl) (by simp)
  | retry hl hn =>
    exact h.take hl.running hn (fun _ => rfl) (by rintro _ ⟨⟩; rfl) (by simp)
  | exhaust hl hn =>
    exact h.take hl.running hn (fun _ => rfl) (by simp [Session.stop]) (by simp [Session.stop])
  | push hl hn =>
    exact h.take hl.running hn (fun _ => rfl) (by rintro _ ⟨⟩; rfl) (by simp)
  | receive hl hn =>
    constructor
    · rintro ⟨⟩
    · rintro _ ⟨⟩
      rw [inbox_append]
      exact (h.running _ hl.running).receive hn _ _
  | stop | founder =>
    exact h.still (inbox_append ..) (by simp [Session.stop]) (by simp [Session.stop])
  | ask hl => exact h.still (inbox_append ..) (by simp) (by rintro _ ⟨⟩; exact ⟨_, hl, rfl⟩)
  | await hl => exact h.still (inbox_append ..) (by simp) (by rintro _ ⟨⟩; exact ⟨_, hl, rfl⟩)
  | forward hl =>
    exact h.still (inbox_append ..) (by simp) (by rintro _ ⟨⟩; exact ⟨_, hl, rfl⟩)
  | close hc =>
    rw [close_of_open hc]
    exact h.still (inbox_append ..) id fun loop hl => ⟨loop, hl, rfl⟩
  | @crash session held receipt =>
    obtain ⟨sequence, reservation?⟩ := receipt
    cases reservation? <;>
      exact h.still (inbox_append ..) id fun loop hl => ⟨loop, hl, rfl⟩
  | _ => exact h.still (inbox_append ..) id fun loop hl => ⟨loop, hl, rfl⟩

section Take

variable {loop : ReceiveLoop} {phase : Phase} {item : Except Fault (List UInt8)}
  {rest : ReceiveBuffer} {fate : Fate}

theorem originates_dropped (h : Stocked past office)
    (hl : office.session.receiving = .running loop)
    (hn : loop.buffer.next? = some (item, rest)) (hh : heard item rest.namespaceId? = none) :
    Originates past (.took phase item rest.namespaceId? .dropped) := by
  cases item with
  | error fault => rfl
  | ok record =>
    obtain ⟨-, hnext, hlatest⟩ := (h.running loop hl).take hn
    have hundecoded : ∀ message, Message.decode record ≠ .ok message := by
      intro message hm
      have hsome : heard (.ok record) rest.namespaceId? = some _ :=
        heard_eq_some_iff.2 ⟨message, hm, rfl⟩
      rw [hh] at hsome
      cases hsome
    exact ⟨hnext, hlatest, iff_of_true rfl hundecoded,
      fun message hm => absurd hm (hundecoded message)⟩

/-- What is taken from a buffer is marked with the namespace that the buffer knows, which is
the right one. -/
theorem originates_carried (h : Stocked past office)
    (hl : office.session.receiving = .running loop)
    (hn : loop.buffer.next? = some (item, rest)) {message : Message}
    (hh : heard item rest.namespaceId? = some message) (hcarries : fate.Carries message) :
    Originates past (.took phase item rest.namespaceId? fate) := by
  cases item with
  | error fault => cases hh
  | ok record =>
    obtain ⟨-, hnext, hlatest⟩ := (h.running loop hl).take hn
    obtain ⟨decoded, hdecoded, rfl⟩ := heard_eq_some_iff.1 hh
    refine ⟨hnext, hlatest, iff_of_false ?_ fun hall => hall decoded hdecoded, ?_⟩
    · rintro rfl
      exact hcarries
    · intro message hm
      rw [hdecoded] at hm
      cases hm
      exact hcarries

end Take

theorem originates_effect (hs : Stocked past office) (h : Each Originates past)
    (he : Effect given office events next) : Each Originates (past ++ events) := by
  cases he with
  | drop hl hn hh =>
    exact h.append_cons (originates_dropped hs hl.running hn hh) (by simp)
  | deliver hl hn hh ha =>
    refine h.append_cons (originates_carried hs hl.running hn hh ?_) (by simp)
    exact reply?_of_answer? ha
  | retry hl hn hh ha =>
    refine h.append_cons (originates_carried hs hl.running hn hh ?_) (by simp)
    exact ⟨_, reply?_of_answer? ha, rfl⟩
  | exhaust hl hn hh ha =>
    refine h.append_cons (originates_carried hs hl.running hn hh ?_) (by simp [Originates])
    exact ⟨_, reply?_of_answer? ha, rfl⟩
  | push hl hn hh =>
    refine h.append_cons (originates_carried hs hl.running hn hh ?_) (by simp)
    rfl
  | crash =>
    refine h.append_free fun event hm past => ?_
    cases event with
    | took => simp at hm
    | _ => trivial
  | _ => exact h.append_free (by simp [Originates])

/-- A record with that fate was taken, and a datagram of the namespace completed it. -/
def Completed (trace : List Event) (fate : Fate) (namespaceId? : Option Int32) : Prop :=
  ∃ past phase record later,
    trace = past ++ .took phase (.ok record) namespaceId? fate :: later ∧
      (inbox past).namespaceAt? (align4 record.length - 1) = some namespaceId?

/-- What was not dropped is a message of a record. -/
theorem carried_of_took {trace : List Event} (h : Each Originates trace) {phase : Phase}
    {item : Except Fault (List UInt8)} {namespaceId? : Option Int32} {fate : Fate}
    (hm : .took phase item namespaceId? fate ∈ trace) (hf : fate ≠ .dropped) :
    Completed trace fate namespaceId? ∧
      ∃ message : Message, message.header.namespaceId? = namespaceId? ∧ fate.Carries message := by
  obtain ⟨past, later, rfl⟩ := List.append_of_mem hm
  have horiginates := h past _ later rfl
  cases item with
  | error fault => exact absurd horiginates hf
  | ok record =>
    obtain ⟨-, hlatest, hundecoded, hcarries⟩ := horiginates
    refine ⟨⟨past, phase, record, later, rfl, hlatest⟩, ?_⟩
    obtain ⟨message, hmessage⟩ := not_forall_not.1 (mt hundecoded.2 hf)
    exact ⟨_, rfl, hcarries message hmessage⟩

theorem completed_pushed {trace : List Event} (h : Each Originates trace) {message : Message}
    (hm : message ∈ pushed trace) :
    Completed trace (.pushed message) message.header.namespaceId? := by
  obtain ⟨event, he, hp⟩ := List.mem_filterMap.1 hm
  split at hp
  · cases hp
    obtain ⟨hcompleted, other, hnamespace, rfl⟩ := carried_of_took h he (by simp)
    exact hnamespace ▸ hcompleted
  · cases hp

theorem completed_delivered {trace : List Event} (h : Each Originates trace) {r : Reservation}
    {reply : Reply} (hd : .delivered r reply ∈ entries trace) :
    Completed trace (.delivered r reply) reply.header.namespaceId? := by
  obtain ⟨phase, item, namespaceId?, he⟩ := delivered_mem_entries.1 hd
  obtain ⟨hcompleted, message, rfl, hcarries⟩ := carried_of_took h he (by simp)
  have hreply : message.reply? = some reply := hcarries
  have hheader : reply.header = message.header := by
    unfold Message.reply? at hreply
    split at hreply <;> cases hreply
    rfl
  exact hheader ▸ hcompleted

variable {settings : Settings} {port : UInt32} {transport : Transport} {actions : List Action}
  {trace : List Event}

/-- Whatever is read, asked for and tried again, every message has the namespace of the datagram
that completed its record: in the stream, with the reader, with the holder of a reservation
and as the failure of a dump. Where a record came whole, that is the one it came in. -/
theorem run_originates
    (h : (Office.new settings port transport).run actions = some (office, trace)) :
    Each Originates trace ∧
      (∀ past phase record namespaceId? fate later,
        trace = past ++ .took phase (.ok record) namespaceId? fate :: later →
        ∀ source bs other,
          (∀ byte ∈ (inbox past).waiting.take (align4 record.length), byte.2 = source) →
          (inbox past).datagrams[source]? = some (bs, other) → other = namespaceId?) ∧
      (∀ message, message ∈ forwarded trace ∨ message ∈ seen trace →
        Completed trace (.pushed message) message.header.namespaceId?) ∧
      ∀ r ∈ office.held, ∀ reply, office.session.ledger.standing r = .answered reply →
        Completed trace (.delivered r reply) reply.header.namespaceId? := by
  have hgiven : ∀ action ∈ actions, action.Given fun _ => True :=
    fun action _ => given_true action
  have hbooked := keep_run Booked (.new ..) (fun _ _ _ _ hb he => hb.effect he) hgiven h
  have hpassed := keep_run (fun past office => Booked past office ∧ Passed past office)
    ⟨.new .., .new ..⟩ (fun _ _ _ _ hp he => ⟨hp.1.effect he, hp.2.effect hp.1 he⟩) hgiven h
  have hstreamed := keep_run Streamed (.new ..) (fun _ _ _ _ hs he => hs.effect he) hgiven h
  obtain ⟨-, horiginates⟩ := keep_run
    (fun past office => Stocked past office ∧ Each Originates past) ⟨.new .., .nil⟩
    (fun _ _ _ _ hs he => ⟨hs.1.effect he, originates_effect hs.1 hs.2 he⟩) hgiven h
  refine ⟨horiginates, ?_, ?_, ?_⟩
  · intro past phase record namespaceId? fate later heq source bs other hw hd
    obtain ⟨hstarts, hlatest, -, -⟩ := horiginates past _ later heq
    have hwhole := hstarts.namespaceAt?_of_whole hw hd
    exact Option.some.inj (hwhole.symm.trans hlatest)
  · intro message hm
    apply completed_pushed horiginates
    have hforwarded : message ∈ forwarded trace := by
      rcases hm with hm | hm
      · exact hm
      · exact hstreamed.ahead.subset (List.mem_append_left _ hm)
    exact hpassed.2.ahead.subset hforwarded
  · intro r hr reply hs
    apply completed_delivered horiginates
    obtain ⟨hregistered, hkept⟩ := (hbooked.alive r).1 (.inl hr)
    exact (hbooked.history.tied.standing_eq_answered_iff hregistered hkept).1 hs

/-- The end of a dump and half of a record from one namespace, and the other half from
another. -/
def dividedRecord : List Action :=
  [.listen [⟨.getLink, .packet⟩], .tick, .tick,
    .arrive (.datagram
      ([16, 0, 0, 0, 3, 0, 0, 0, 1, 0, 0, 0, 7, 0, 0, 0] ++ [17, 0, 0, 0, 3, 0, 0, 0])
      (some 3)),
    .tick, .tick, .tick,
    .arrive (.datagram ([2, 0, 0, 0, 7, 0, 0, 0] ++ [255, 0, 0, 0]) (some 5)),
    .tick, .tick, .tick, .read, .read]

theorem run_originates_dividedRecord :
    ∃ office trace,
      (Office.new .standard 7 (.new none)).run dividedRecord = some (office, trace) ∧
        (seen trace).map (·.header.namespaceId?) = [some 3, some 5] ∧
        ∀ message ∈ seen trace,
          Completed trace (.pushed message) message.header.namespaceId? := by
  have h : ((Office.new .standard 7 (.new none)).run dividedRecord).isSome := by decide +kernel
  have hrun := (Option.some_get h).symm
  obtain ⟨-, -, hcompleted, -⟩ := run_originates hrun
  exact ⟨_, _, hrun, by decide +kernel, fun message hm => hcompleted message (.inr hm)⟩

end Office
end RouteNetlink
