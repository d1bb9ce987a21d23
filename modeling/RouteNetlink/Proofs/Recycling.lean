import RouteNetlink.Named
import RouteNetlink.Pool.Decode
import RouteNetlink.Proofs.Conformance

/-! Decoding into recycled tables. Whatever was done with a pool before, its idle tables are
empty, and a record says the same as with tables of its own. -/
namespace RouteNetlink

namespace Pool

variable {pool : Pool}

/-- No idle table holds an attribute. -/
def Clean (pool : Pool) : Prop := ∀ slots ∈ pool.idle, ∀ slot ∈ slots, slot = none

theorem Clean.new (capacity : Nat) : (new capacity).Clean := nofun

theorem resize_of_vacant {slots : List (Option Held)} (h : ∀ slot ∈ slots, slot = none)
    (size : Nat) : resize slots size = List.replicate size none := by
  refine List.eq_replicate_iff.2 ⟨?_, fun slot hm => ?_⟩
  · simp only [resize, List.length_append, List.length_take, List.length_replicate]
    omega
  · rcases List.mem_append.1 hm with hm | hm
    · exact h slot (List.mem_of_mem_take hm)
    · exact List.eq_of_mem_replicate hm

/-- A clean pool lends an empty table, and stays clean. -/
theorem Clean.borrow (h : pool.Clean) (size : Nat) :
    (pool.borrow size).1 = ⟨true, List.replicate size none⟩ ∧ (pool.borrow size).2.Clean := by
  unfold Pool.borrow
  split
  · exact ⟨by rw [resize_of_vacant (by simp)], h⟩
  · rename_i slots idle hi
    have hslots : ∀ slot ∈ slots, slot = none := h slots (by simp [hi])
    refine ⟨by rw [resize_of_vacant hslots], fun other hm => h other ?_⟩
    simp [hi, hm]

theorem Clean.giveBack (h : pool.Clean) : pool.giveBack.Clean := by
  unfold Pool.giveBack
  split
  · intro slots hm
    rcases List.mem_cons.1 hm with rfl | hm
    · nofun
    · exact h slots hm
  · exact h

mutual

theorem Clean.release {pool : Pool} (h : pool.Clean) : (a : Held) → (pool.release a).Clean
  | .value _ => by simpa only [Pool.release] using h
  | .table _ pooled slots => by
    have hslots := h.releaseSlots slots
    rw [Pool.release]
    split
    · exact hslots.giveBack
    · exact hslots

theorem Clean.releaseSlots {pool : Pool} (h : pool.Clean) :
    (slots : List (Option Held)) → (pool.releaseSlots slots).Clean
  | [] => by simpa only [Pool.releaseSlots] using h
  | none :: slots => by simpa only [Pool.releaseSlots] using h.releaseSlots slots
  | some a :: slots => by simpa only [Pool.releaseSlots] using (h.release a).releaseSlots slots

end

theorem Clean.releaseTable (h : pool.Clean) (table : HeldTable) :
    (pool.releaseTable table).Clean := by
  have hslots := h.releaseSlots table.slots
  unfold Pool.releaseTable
  split
  · exact hslots.giveBack
  · exact hslots

theorem Clean.releaseLeft (h : pool.Clean) (left? : Option Held) :
    (pool.releaseLeft left?).Clean := by
  cases left? with
  | none => exact h
  | some a => exact h.release a

end Pool

/-- An outcome says what is expected, and the pool that it leaves is clean. -/
structure Mirrors {α β : Type} (plain : α → β) (outcome : Except Fault α × Pool)
    (expected : Except Fault β) : Prop where
  same : outcome.1.map plain = expected
  clean : outcome.2.Clean

namespace HeldTable

variable {decoders : List Decoder} {fresh : Table.Decoders}

def Agree (decoders : List Decoder) (fresh : Table.Decoders) : Prop :=
  decoders.length = fresh.length ∧
    ∀ (kind : Nat) (decoder : Decoder) (plain : List UInt8 → Except Fault Attribute),
      decoders[kind]? = some decoder → fresh[kind]? = some plain →
        ∀ pool : Pool, pool.Clean → ∀ bs, Mirrors Held.plain (decoder pool bs) (plain bs)

theorem Agree.decodeItem (h : Agree decoders fresh) (label : String) {pool : Pool}
    (hp : pool.Clean) (item : RunItem) :
    Mirrors Held.plain (decodeItem label decoders pool item)
      (Table.decodeItem label fresh item) := by
  unfold HeldTable.decodeItem Table.decodeItem
  cases hd : decoders[item.kind]? with
  | none =>
    have hf : fresh[item.kind]? = none := by
      rw [List.getElem?_eq_none_iff] at hd ⊢
      exact h.1 ▸ hd
    rw [hf, h.1]
    exact ⟨rfl, hp⟩
  | some decoder =>
    have hk : item.kind < fresh.length := h.1 ▸ (List.getElem?_eq_some_iff.1 hd).1
    have hf : fresh[item.kind]? = some fresh[item.kind] := List.getElem?_eq_getElem hk
    rw [hf]
    exact h.2 item.kind decoder _ hd hf pool hp item.payload

/-- The items of a run go into a lent table as into a fresh one, up to the first fault. -/
theorem Agree.fill (h : Agree decoders fresh) (label : String) {pool : Pool}
    (hp : pool.Clean) (table : HeldTable) (items : List (Except Fault RunItem)) :
    Mirrors HeldTable.plain (fill label decoders pool table items)
      (items.foldlM (Table.decodeInto label fresh) table.plain) := by
  induction items generalizing pool table with
  | nil => exact ⟨rfl, hp⟩
  | cons item? items ih =>
    cases item? with
    | error fault => exact ⟨rfl, hp.releaseTable table⟩
    | ok item =>
      -- the pool after an item is again clean, which is all that the next one needs
      obtain ⟨hsame, hclean⟩ := h.decodeItem label hp item
      rw [List.foldlM_cons, HeldTable.fill, Table.decodeInto, Outcome.ok_bind, ← hsame]
      revert hclean
      cases HeldTable.decodeItem label decoders pool item with
      | mk outcome after =>
        intro hclean
        cases outcome with
        | error fault => exact ⟨rfl, hclean.releaseTable table⟩
        | ok a =>
          have hnext := ih (hclean.releaseLeft (table.put item.kind a).2)
            (table.put item.kind a).1
          rw [plain_put] at hnext
          exact hnext

/-- So does a whole run. -/
theorem Agree.decodeRun (h : Agree decoders fresh) (label : String) {pool : Pool}
    (hp : pool.Clean) (bs : List UInt8) :
    Mirrors HeldTable.plain (decodeRun label decoders pool bs)
      (Table.decodeRun label fresh bs) := by
  obtain ⟨hlent, hclean⟩ := hp.borrow decoders.length
  have hfill := h.fill label hclean (pool.borrow decoders.length).1 (RunItem.all bs)
  have hempty : (pool.borrow decoders.length).1.plain = Table.empty fresh.length := by
    rw [hlent, ← h.1]
    simp [HeldTable.plain, Held.plainSlots_eq_map, Table.empty]
  rw [hempty] at hfill
  exact hfill

end HeldTable

namespace Format

theorem agree_holders {rows : List (String × Format)}
    (h : ∀ row ∈ rows, ∀ pool : Pool, pool.Clean → ∀ bs,
      Mirrors Held.plain (row.2.hold pool bs) (row.2.decode bs)) :
    HeldTable.Agree (holders rows) (decoders rows) := by
  refine ⟨by simp, fun kind decoder plain hd hf => ?_⟩
  rw [holders_eq_map, List.getElem?_map] at hd
  rw [decoders_eq_map, List.getElem?_map] at hf
  obtain ⟨row, hrow, rfl⟩ := Option.map_eq_some_iff.1 hd
  obtain ⟨row', hrow', rfl⟩ := Option.map_eq_some_iff.1 hf
  obtain rfl : row = row' := Option.some.inj (hrow.symm.trans hrow')
  exact h row (List.mem_of_getElem? hrow)

/-- A payload says the same whether its tables are lent or its own, at any depth. -/
theorem mirrors_hold (format : Format) :
    ∀ pool : Pool, pool.Clean → ∀ bs,
      Mirrors Held.plain (format.hold pool bs) (format.decode bs) := by
  induction format with
  | plain form =>
    intro pool hp bs
    rw [hold, decode]
    refine ⟨?_, hp⟩
    dsimp only
    cases form.decode bs with
    | error fault => rfl
    | ok v => simp [Held.plain]
  | nested nest label rows ih =>
    intro pool hp bs
    obtain ⟨hsame, hclean⟩ := (agree_holders ih).decodeRun label hp bs
    rw [hold, decode]
    refine ⟨?_, hclean⟩
    dsimp only
    rw [← hsame]
    cases (HeldTable.decodeRun label (holders rows) pool bs).1 with
    | error fault => rfl
    | ok table => simp [HeldTable.nested, HeldTable.plain, Held.plain]

end Format

namespace HeldMessage

/-- A record says the same whether its tables are lent or its own. -/
theorem mirrors_decode {pool : Pool} (hp : pool.Clean) (record : List UInt8) :
    Mirrors HeldMessage.plain (decode pool record) (Message.decode record) := by
  unfold HeldMessage.decode Message.decode
  cases Opened.ofRecord record with
  | error fault => exact ⟨rfl, hp⟩
  | ok opened =>
    cases opened with
    | complete message => exact ⟨rfl, hp⟩
    | attributed header e run =>
      obtain ⟨hsame, hclean⟩ :=
        (Format.agree_holders fun row (_ : row ∈ e.schema.rows) =>
          row.2.mirrors_hold).decodeRun e.schema.label hp run
      rw [Outcome.ok_bind]
      dsimp only [Schema.decode]
      rw [← hsame]
      refine ⟨?_, hclean⟩
      dsimp only
      cases (HeldTable.decodeRun e.schema.label (Format.holders e.schema.rows) pool run).1 with
      | error fault => rfl
      | ok table => rfl

end HeldMessage

theorem Pool.Clean.releaseMessage {pool : Pool} (h : pool.Clean) (held : HeldMessage) :
    (held.release pool).Clean := by
  cases held with
  | bare message => exact h
  | entity header e table => exact h.releaseTable table

/-- What callers hold beside a pool. -/
inductive Holding where
  | table (held : HeldTable)
  | loose (held : Held)
  | message (held : HeldMessage)

namespace Holding

def release (pool : Pool) : Holding → Pool
  | table held => pool.releaseTable held
  | loose held => pool.release held
  | message held => held.release pool

def clone : Holding → Holding
  | table held => .table held.clone
  | loose held => .loose (.ofPlain held.plain)
  | message held => .message held.clone

end Holding

theorem Pool.Clean.releaseHolding {pool : Pool} (h : pool.Clean) (holding : Holding) :
    (holding.release pool).Clean := by
  cases holding with
  | table held => exact h.releaseTable held
  | loose held => exact h.release held
  | message held => exact h.releaseMessage held

/-- A pool, and all that was made beside it and not dropped since. -/
structure Holdings where
  pool : Pool
  held : Named Holding

namespace Holdings

inductive Action where
  | borrow (name : String) (size : Nat)
  | create (name : String) (size : Nat)
  | make (name : String) (a : Attribute)
  /-- Moves an attribute into a table. What its slot held takes its name. -/
  | set (table : String) (kind : Nat) (name : String)
  | take (table : String) (kind : Nat) (name : String)
  | nest (name : String) (nest : Nest)
  | unnest (name : String)
  | exchange (message name : String)
  | clone (name source : String)
  | drop (name : String)
  | decode (name : String) (record : List UInt8)

def drop (holdings : Holdings) (name : String) : Holdings where
  pool := (holdings.held.lookup name).elim holdings.pool (·.release holdings.pool)
  held := holdings.held.forget name

def hold (holdings : Holdings) (name : String) (holding : Holding) : Holdings :=
  let holdings := holdings.drop name
  { holdings with held := holdings.held.keep name holding }

/-- Changes what is held without dropping any of it. -/
def move (holdings : Holdings) (change : Named Holding → Named Holding) : Holdings :=
  { holdings with held := change holdings.held }

/-- What an action makes of the holdings. One that is not possible changes nothing. -/
def step (holdings : Holdings) : Action → Holdings
  | .borrow name size =>
    let (table, pool) := holdings.pool.borrow size
    hold { holdings with pool } name (.table table)
  | .create name size => holdings.hold name (.table (.new size))
  | .make name a => holdings.hold name (.loose (.ofPlain a))
  | .set place kind name =>
    match holdings.held.lookup place, holdings.held.lookup name with
    | some (.table table), some (.loose a) =>
      let (filled, left?) := table.put kind a
      let moved := holdings.move fun held => (held.forget name).keep place (.table filled)
      if table.contains kind then
        left?.elim moved fun left => moved.move (·.keep name (.loose left))
      else { moved with pool := moved.pool.releaseLeft left? }
    | _, _ => holdings
  | .take place kind name =>
    match holdings.held.lookup place with
    | some (.table table) =>
      let (rest, taken?) := table.take kind
      let moved := holdings.move (·.keep place (.table rest))
      taken?.elim moved fun a => moved.hold name (.loose a)
    | _ => holdings
  | .nest name nest =>
    match holdings.held.lookup name with
    | some (.table table) => holdings.move (·.keep name (.loose (table.nested nest)))
    | _ => holdings
  | .unnest name =>
    match holdings.held.lookup name with
    | some (.loose (.table _ pooled slots)) =>
      holdings.move (·.keep name (.table ⟨pooled, slots⟩))
    | _ => holdings
  | .exchange message name =>
    match holdings.held.lookup message, holdings.held.lookup name with
    | some (.message (.entity header e table)), some (.table other) =>
      holdings.move fun held =>
        (held.keep message (.message (.entity header e other))).keep name (.table table)
    | _, _ => holdings
  | .clone name source =>
    (holdings.held.lookup source).elim holdings fun holding => holdings.hold name holding.clone
  | .drop name => holdings.drop name
  | .decode name record =>
    let (outcome, pool) := HeldMessage.decode holdings.pool record
    match outcome with
    | .ok message => hold { holdings with pool } name (.message message)
    | .error _ => { holdings with pool }

def run (capacity : Nat) (actions : List Action) : Holdings :=
  actions.foldl step ⟨.new capacity, []⟩

variable {holdings : Holdings}

theorem clean_drop (h : holdings.pool.Clean) (name : String) : (holdings.drop name).pool.Clean := by
  unfold drop
  cases holdings.held.lookup name with
  | none => exact h
  | some holding => exact h.releaseHolding holding

theorem clean_hold (holdings : Holdings) (h : holdings.pool.Clean) (name : String)
    (holding : Holding) : (holdings.hold name holding).pool.Clean := clean_drop h name

/-- Every action leaves a clean pool behind. -/
theorem clean_step (h : holdings.pool.Clean) (action : Action) :
    (holdings.step action).pool.Clean := by
  cases action with
  | borrow name size =>
    exact clean_hold { holdings with pool := (holdings.pool.borrow size).2 }
      (h.borrow size).2 name _
  | create name size => exact clean_hold _ h name _
  | make name a => exact clean_hold _ h name _
  | set place kind name =>
    simp only [step]
    split
    · rename_i table a _ _
      split
      · cases (table.put kind a).2 <;> exact h
      · exact h.releaseLeft _
    · exact h
  | take place kind name =>
    simp only [step]
    split
    · rename_i table _
      cases (table.take kind).2 with
      | none => exact h
      | some a => exact clean_hold (holdings.move _) h name _
    · exact h
  | nest | unnest | exchange =>
    simp only [step]
    split <;> exact h
  | clone name source =>
    simp only [step]
    cases holdings.held.lookup source with
    | none => exact h
    | some holding => exact clean_hold _ h name _
  | drop name => exact clean_drop h name
  | decode name record =>
    have hdecoded := (HeldMessage.mirrors_decode h record).clean
    simp only [step]
    split
    · exact clean_hold { holdings with pool := _ } hdecoded name _
    · exact hdecoded

theorem clean_run (capacity : Nat) (actions : List Action) : (run capacity actions).pool.Clean := by
  suffices ∀ holdings : Holdings, holdings.pool.Clean →
      (actions.foldl step holdings).pool.Clean from this _ (.new capacity)
  induction actions with
  | nil => exact fun _ h => h
  | cons action actions ih => exact fun holdings h => ih _ (clean_step h action)

/-- After whatever was done with a pool, it holds nothing of earlier messages, and every record
says what it says with tables of its own: the same message, or the same fault. -/
theorem decode_recycled (capacity : Nat) (actions : List Action) :
    (run capacity actions).pool.Clean ∧
      ∀ record, (HeldMessage.decode (run capacity actions).pool record).1.map HeldMessage.plain =
        Message.decode record := by
  have hclean := clean_run capacity actions
  exact ⟨hclean, fun record => (HeldMessage.mirrors_decode hclean record).same⟩

end Holdings
end RouteNetlink
