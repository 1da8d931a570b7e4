import Scatter.Basic

/-! `wss::ConnectionStorage` is not in the repository; this is its model from the spec
(§4.2): a map `user → (conn-id → connection)` whose values may be null, with a
ping/pong liveness flag per connection. One `Slot` is one entry of the inner maps. -/

namespace Scatter

/-- Entry `cid` of user `user`'s connection map; `connection = none` is a null pointer. -/
structure Slot where
  user : UserId
  cid : ConnId
  connection : Option Connection
  pongWait : Bool
  deriving DecidableEq, Repr

def Slot.key (s : Slot) : UserId × ConnId := (s.user, s.cid)

/-- Modelled from the spec: `ConnectionStorage`. Keys are unique, as in the maps. -/
structure ConnectionStorage where
  slots : List Slot
  nodup : (slots.map Slot.key).Nodup

namespace ConnectionStorage

variable (st : ConnectionStorage)

def empty : ConnectionStorage := ⟨[], List.nodup_nil⟩

theorem nodup_filter (p : Slot → Bool) : ((st.slots.filter p).map Slot.key).Nodup :=
  st.nodup.sublist ((List.filter_sublist _).map _)

/-- Keep the slots satisfying `p`. -/
def keep (p : Slot → Bool) : ConnectionStorage := ⟨st.slots.filter p, st.nodup_filter p⟩

/-- Change slots without touching their keys. -/
def modify (f : Slot → Slot) (hf : ∀ s, (f s).key = s.key) : ConnectionStorage :=
  ⟨st.slots.map f, by rw [List.map_map, show Slot.key ∘ f = Slot.key from funext hf]; exact st.nodup⟩

/-- `remove(user-id, conn-id)`. -/
def remove (id : UserId) (cid : ConnId) : ConnectionStorage :=
  st.keep fun s => s.key != (id, cid)

/-- `remove(connection)`. -/
def removeConnection (c : Connection) : ConnectionStorage := st.remove c.id c.uniqueId

/-- `add(user-id, connection)`: the connection, now carrying `id`, replaces any entry
of its key and is active. -/
def add (id : UserId) (c : Connection) : ConnectionStorage :=
  ⟨(st.remove id c.uniqueId).slots ++ [⟨id, c.uniqueId, some { c with id := id }, false⟩], by
    rw [List.map_append, List.nodup_append]
    refine ⟨(st.remove id c.uniqueId).nodup, List.nodup_singleton _, ?_⟩
    simp [List.disjoint_singleton, remove, keep, Slot.key]⟩

def «exists» (id : UserId) : Bool := st.slots.any (·.user == id)

/-- The entries of user `id`, null ones included. -/
def slotsOf (id : UserId) : List Slot := st.slots.filter (·.user == id)

def size (id : UserId) : Nat := (st.slotsOf id).length

/-- The connections registered under `id`: those `add` closes when it overrides them. -/
def connectionsOf (id : UserId) : List Connection := (st.slotsOf id).filterMap (·.connection)

/-- `get(user-id)`: a copy of the user's map, or `ConnectionNotFound`. -/
def get (id : UserId) : Option (List Slot) := if st.exists id then some (st.slotsOf id) else none

def setPongWait (c : Connection) (b : Bool) : ConnectionStorage :=
  st.modify (fun s => if s.key = (c.id, c.uniqueId) then { s with pongWait := b } else s)
    (fun s => by dsimp only; split <;> rfl)

/-- `markPongWait(connection)`. -/
def markPongWait (c : Connection) : ConnectionStorage := st.setPongWait c true

/-- `markPongReceived(connection)`. -/
def markPongReceived (c : Connection) : ConnectionStorage := st.setPongWait c false

/-- `disconnectWithoutPong()`: the connections still awaiting a pong are closed and
removed. Returns the storage and the closed connections; their number is the result. -/
def disconnectWithoutPong : ConnectionStorage × List Connection :=
  (st.keep (!·.pongWait), (st.slots.filter (·.pongWait)).filterMap (·.connection))

end ConnectionStorage

end Scatter
