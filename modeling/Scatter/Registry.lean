import Scatter.Watchdog

/-! The registry seen one key at a time. Keys are unique, so `lookup k` is the registry's
whole content at `k`, and every operation the handlers perform on it (`add`, `remove`,
`setPongWait`, the watchdog's `disconnectWithoutPong`) acts on each key on its own: the
registry is a family of independent one-entry registers, one per `(user, connection)` key.

* `lookup_eq_some`: under unique keys, lookup is membership.
* `RegOp.lookup_apply`, `RegOp.lookup_applyAll`: an operation, and a sequence of them, seen
  at one key.
* `RegOp.foldl_onKey_quiet`: operations that do not write a key leave its entry alone, except
  that a sweep drops it while it awaits a pong. -/

namespace Scatter

namespace ConnectionStorage

variable (st : ConnectionStorage)

/-- The entry of key `k`, if any. -/
def lookup (k : UserId × ConnId) : Option Slot := st.slots.find? fun sl => sl.key = k

variable {st} {k : UserId × ConnId}

/-- What `lookup` finds is a slot of key `k`. -/
theorem mem_of_lookup {sl : Slot} (h : st.lookup k = some sl) : sl ∈ st.slots ∧ sl.key = k :=
  ⟨List.mem_of_find?_eq_some h,
    of_decide_eq_true (List.find?_some (p := fun x : Slot => x.key = k) h)⟩

theorem lookup_eq_some {sl : Slot} : st.lookup k = some sl ↔ sl ∈ st.slots ∧ sl.key = k := by
  refine ⟨mem_of_lookup, fun ⟨hsl, hk⟩ => ?_⟩
  cases h : st.lookup k with
  | none => exact absurd (decide_eq_true hk) (List.find?_eq_none.mp h sl hsl)
  | some x =>
    obtain ⟨hx, hxk⟩ := mem_of_lookup h
    rw [st.eq_of_key_eq hsl hx (hk.trans hxk.symm)]

theorem lookup_eq_none : st.lookup k = none ↔ ∀ sl ∈ st.slots, sl.key ≠ k := by
  simp [lookup, List.find?_eq_none]

/-- A registry's entry at `k` is fixed by which of its slots carry key `k`. -/
theorem lookup_eq_of_mem {st' : ConnectionStorage} {o : Option Slot}
    (h : ∀ sl, sl ∈ st'.slots ∧ sl.key = k ↔ o = some sl) : st'.lookup k = o := by
  cases o with
  | none => exact lookup_eq_none.mpr fun sl hsl hk => nomatch (h sl).mp ⟨hsl, hk⟩
  | some sl => exact lookup_eq_some.mpr ((h sl).mpr rfl)

theorem lookup_remove (id : UserId) (cid : ConnId) :
    (st.remove id cid).lookup k = if k = (id, cid) then none else st.lookup k := by
  refine lookup_eq_of_mem fun sl => ?_
  rw [mem_remove]
  split
  · subst k; simp
  · rw [lookup_eq_some]
    exact ⟨fun h => ⟨h.1.1, h.2⟩, fun h => ⟨⟨h.1, h.2 ▸ ‹_›⟩, h.2⟩⟩

/-- The slot `add id c` stores. -/
def added (id : UserId) (c : Connection) : Slot := ⟨id, c.uniqueId, some { c with id := id }, false⟩

theorem lookup_add (id : UserId) (c : Connection) :
    (st.add id c).lookup k = if k = (id, c.uniqueId) then some (added id c) else st.lookup k := by
  have h : (st.add id c).lookup k = ((st.remove id c.uniqueId).lookup k).or
      ([added id c].find? fun sl => sl.key = k) := List.find?_append
  rw [h, lookup_remove]
  by_cases hk : k = (id, c.uniqueId)
  · subst hk; simp [added, Slot.key]
  · simp [hk, added, Slot.key, Ne.symm hk]

theorem lookup_setPongWait (c : Connection) (b : Bool) :
    (st.setPongWait c b).lookup k =
      if k = (c.id, c.uniqueId) then (st.lookup k).map ({ · with pongWait := b }) else st.lookup k := by
  have hmap : (st.setPongWait c b).lookup k = (st.lookup k).map fun x =>
      if x.key = (c.id, c.uniqueId) then { x with pongWait := b } else x := by
    simp only [lookup, setPongWait, modify, List.find?_map]
    congr 2
    funext x
    simp only [Function.comp_apply]
    split <;> rfl
  rw [hmap]
  cases h : st.lookup k with
  | none => simp
  | some x => simp only [Option.map_some', (mem_of_lookup h).2]; split <;> rfl

theorem lookup_disconnectWithoutPong :
    st.disconnectWithoutPong.1.lookup k = (st.lookup k).filter (!·.pongWait) := by
  refine lookup_eq_of_mem fun sl => ?_
  rw [mem_disconnectWithoutPong, Option.filter_eq_some, Option.mem_def, lookup_eq_some,
    Bool.not_eq_true']
  exact and_right_comm

end ConnectionStorage

/-- An operation the handlers perform on the registry. -/
inductive RegOp
  /-- `add(user-id, connection)`. -/
  | add (id : UserId) (c : Connection)
  /-- `remove(user-id, conn-id)`; `remove(connection)` is `remove c.id c.uniqueId`. -/
  | remove (id : UserId) (cid : ConnId)
  /-- `markPongWait(connection)` (`true`) or `markPongReceived(connection)` (`false`). -/
  | setPongWait (c : Connection) (b : Bool)
  /-- `disconnectWithoutPong()`. -/
  | sweep
  deriving DecidableEq, Repr

namespace RegOp

def apply : RegOp → ConnectionStorage → ConnectionStorage
  | add id c, st => st.add id c
  | remove id cid, st => st.remove id cid
  | setPongWait c b, st => st.setPongWait c b
  | sweep, st => st.disconnectWithoutPong.1

/-- The operations `ops` one after another. -/
def applyAll (ops : List RegOp) (st : ConnectionStorage) : ConnectionStorage :=
  ops.foldl (fun st o => o.apply st) st

section Apply

variable (st : ConnectionStorage)

@[simp] theorem apply_add (id : UserId) (c : Connection) : (add id c).apply st = st.add id c := rfl
@[simp] theorem apply_remove (id : UserId) (cid : ConnId) :
    (remove id cid).apply st = st.remove id cid := rfl
@[simp] theorem apply_setPongWait (c : Connection) (b : Bool) :
    (setPongWait c b).apply st = st.setPongWait c b := rfl
@[simp] theorem apply_sweep : sweep.apply st = st.disconnectWithoutPong.1 := rfl

@[simp] theorem applyAll_nil : applyAll [] st = st := rfl
@[simp] theorem applyAll_cons (o : RegOp) (ops : List RegOp) :
    applyAll (o :: ops) st = applyAll ops (o.apply st) := rfl

theorem applyAll_append (ops ops' : List RegOp) :
    applyAll (ops ++ ops') st = applyAll ops' (applyAll ops st) :=
  List.foldl_append _ _ _ _

end Apply

/-- What an operation does to the entry of key `k`. -/
def onKey (k : UserId × ConnId) : RegOp → Option Slot → Option Slot
  | add id c, e => if k = (id, c.uniqueId) then some (ConnectionStorage.added id c) else e
  | remove id cid, e => if k = (id, cid) then none else e
  | setPongWait c b, e => if k = (c.id, c.uniqueId) then e.map ({ · with pongWait := b }) else e
  | sweep, e => e.filter (!·.pongWait)

/-- The operation names key `k`: every operation but the sweep writes one key. -/
def writes (k : UserId × ConnId) : RegOp → Bool
  | add id c => k = (id, c.uniqueId)
  | remove id cid => k = (id, cid)
  | setPongWait c _ => k = (c.id, c.uniqueId)
  | sweep => false

variable {k : UserId × ConnId}

theorem lookup_apply (o : RegOp) (st : ConnectionStorage) :
    (o.apply st).lookup k = o.onKey k (st.lookup k) := by
  cases o with
  | add id c => exact st.lookup_add id c
  | remove id cid => exact st.lookup_remove id cid
  | setPongWait c b => exact st.lookup_setPongWait c b
  | sweep => exact st.lookup_disconnectWithoutPong

/-- **The registry is a family of registers.** After any sequence of operations, the entry
of each key is what the operations, seen at that key alone, make of its first entry. -/
theorem lookup_applyAll (ops : List RegOp) : ∀ st : ConnectionStorage,
    (applyAll ops st).lookup k = ops.foldl (fun e o => o.onKey k e) (st.lookup k) := by
  induction ops with
  | nil => exact fun _ => rfl
  | cons o ops ih => intro st; rw [applyAll_cons, ih, lookup_apply]; rfl

theorem onKey_of_writes_false {o : RegOp} (h : o.writes k = false) (e : Option Slot) :
    o.onKey k e = if o = sweep then e.filter (!·.pongWait) else e := by
  cases o <;> simp_all [writes, onKey]

theorem filter_filter_pongWait (e : Option Slot) :
    (e.filter (!·.pongWait)).filter (!·.pongWait) = e.filter (!·.pongWait) := by
  cases e with
  | none => rfl
  | some sl => cases h : sl.pongWait <;> simp [Option.filter, h]

/-- Operations that do not write `k` leave its entry alone, except that a sweep among them
drops it if it awaits a pong. -/
theorem foldl_onKey_quiet (post : List RegOp) (hq : ∀ o ∈ post, o.writes k = false) : ∀ e,
    post.foldl (fun e o => o.onKey k e) e = if sweep ∈ post then e.filter (!·.pongWait) else e := by
  induction post with
  | nil => simp
  | cons o post ih =>
    intro e
    rw [List.foldl_cons, ih (fun o' h => hq o' (List.mem_cons_of_mem _ h)),
      onKey_of_writes_false (hq o (List.mem_cons_self _ _))]
    by_cases ho : o = sweep
    · subst ho; by_cases hs : sweep ∈ post <;> simp [hs, filter_filter_pongWait]
    · simp [ho, Ne.symm ho]

end RegOp

end Scatter
