import FederatedSearch.Proofs.Engine.Attaching

/-!
# Changes aside from sessions

Attaching a caller to a session looks at the sessions of the server, at whether it can be reached,
and at the descriptions of its backends. It looks at no record and no single backend, so it goes the
same way whatever records there are and whichever backends are down, whatever store the rows are in.

* `FederatedSearch.Server.alter`: a server with other indexes and with other backends down.
* `FederatedSearch.Visit.attach_alter`: such a change plays no part in attaching.
* `FederatedSearch.Visit.withDown`: the same visit with other backends down.
-/

namespace FederatedSearch

open FederatedSearch.Action Calendar

/-! ### Other indexes and backends -/

section

variable (g : List BackendIndex → List BackendIndex) (d : List Nat → List Nat)

/-- **The server with its indexes changed**, and with the backends that are down changed. -/
def Server.alter (s : Server) : Server := { s with indexes := g s.indexes, down := d s.down }

/-- The cache over the server with these changes. -/
def Cache.alter (c : Cache) : Cache := { c with server := c.server.alter g d }

/-- The engine over the server with these changes. -/
def Engine.alter (e : Engine) : Engine := { e with cache := e.cache.alter g d }

/-- The visit of the engine over the server with these changes. -/
def Visit.alter (v : Visit) : Visit := { v with engine := v.engine.alter g d }

namespace Server

variable (s : Server)

theorem connect_alter (host : String) (port : Nat) :
    (s.alter g d).connect host port = (s.connect host port).map (alter g d) := by
  unfold connect
  by_cases h : s.reachable = true
  · rw [if_pos h, if_pos (show (s.alter g d).reachable = true from h)]
    rfl
  · rw [if_neg h, if_neg (show ¬(s.alter g d).reachable = true from h)]
    rfl

theorem createSession_alter (user : Nat) : (s.alter g d).createSession user =
    (s.createSession user).map fun p => (p.1, p.2.alter g d) := by
  unfold createSession
  by_cases h : s.connected = true
  · rw [if_pos h, if_pos (show (s.alter g d).connected = true from h)]
    rfl
  · rw [if_neg h, if_neg (show ¬(s.alter g d).connected = true from h)]
    rfl

end Server

namespace Cache

variable (c : Cache)

theorem putRow_alter (row : Row) :
    (c.alter g d).putRow row = (c.putRow row).map (alter g d) := by
  unfold putRow
  rw [show (c.alter g d).store = c.store from rfl]
  cases c.store.upsert row <;> rfl

theorem register_alter (session : String) :
    (c.alter g d).register session = (c.register session).map (alter g d) := by
  unfold register
  rw [show (c.alter g d).entry session = c.entry session from rfl]
  cases c.entry session with
  | error e => rfl
  | ok row? =>
    cases row? with
    | some row => rfl
    | none => exact c.putRow_alter g d _

theorem removeRow_alter (session : String) : (c.alter g d).removeRow session =
    (c.removeRow session).map fun p => (p.1, p.2.alter g d) := by
  unfold removeRow
  rw [show (c.alter g d).store = c.store from rfl]
  cases c.store.remove session <;> rfl

theorem close_alter (session : String) : Commutes (alter g d) (close session) :=
  .bind (.modify fun _ => rfl) fun _ => .stepWith fun c => c.removeRow_alter g d session

theorem sweepSession_alter (cutoff : Instant) (session : String) :
    Commutes (alter g d) (sweepSession cutoff session) := by
  refine .bind (.look fun _ => rfl) fun row? => ?_
  cases row? with
  | none => exact .pure _
  | some row =>
    dsimp only
    split
    · exact close_alter g d session
    · exact .pure _

theorem sweepSessions_alter (cutoff : Instant) (sessions : List String) :
    Commutes (alter g d) (sweepSessions cutoff sessions) := by
  induction sessions with
  | nil => exact .pure _
  | cons session rest ih =>
    exact .bind (sweepSession_alter g d cutoff session) fun _ => .bind ih fun _ => .pure _

theorem clearAll_alter (cutoff? : Option Instant) : Commutes (alter g d) (clearAll cutoff?) :=
  .get_bind (fun _ => rfl) fun _ =>
    .bind (.look fun _ => rfl) fun _ => sweepSessions_alter g d _ _

end Cache

/-! ### Attaching -/

variable {g} (hg : ∀ is, (g is).map (·.backend) = is.map (·.backend))

include hg

/-- The catalog stays where the descriptions of the backends do. -/
theorem Server.catalog_alter (s : Server) : (s.alter g d).catalog = s.catalog :=
  congrArg Catalog.mk (hg s.indexes)

namespace Engine

theorem connect_alter : Commutes (alter g d) (Action.step connect) := by
  refine .step fun e => ?_
  unfold connect
  by_cases hconnected : e.connected = true
  · rw [if_pos hconnected, if_pos (show (e.alter g d).connected = true from hconnected)]
    rfl
  · rw [if_neg hconnected, if_neg (show ¬(e.alter g d).connected = true from hconnected),
      show (e.alter g d).catalog = e.catalog from Server.catalog_alter d hg e.server]
    split
    · rfl
    · rw [show (e.alter g d).server = e.server.alter g d from rfl,
        show (e.alter g d).config = e.config from rfl, Server.connect_alter]
      cases e.server.connect e.config.server.host e.config.server.port <;> rfl

omit hg in
theorem sweep_alter : Commutes (alter g d) sweep :=
  .bind (.look fun _ => rfl) fun _ =>
    (Cache.clearAll_alter g d _).onPart (fun _ => rfl) fun _ _ => rfl

end Engine

namespace Visit

omit hg in
theorem onEngine_alter {α : Type} {x : Action Engine α} (hx : Commutes (Engine.alter g d) x) :
    Commutes (alter g d) (onEngine x) :=
  hx.onPart (fun _ => rfl) fun _ _ => rfl

omit hg in
theorem onCache_alter {α : Type} {x : Action Cache α} (hx : Commutes (Cache.alter g d) x) :
    Commutes (alter g d) (onCache x) :=
  onEngine_alter d (hx.onPart (fun _ => rfl) fun _ _ => rfl)

omit hg in
theorem attachNew_alter (user : Nat) : Commutes (alter g d) (attachNew user) := by
  refine .bind (onCache_alter d (.stepWith fun c => ?_)) fun session =>
    .bind (onCache_alter d (.step fun c => c.register_alter g d session)) fun _ =>
      .bind (.modify fun _ => rfl) fun _ => .pure _
  unfold openSession
  rw [show (c.alter g d).server = c.server.alter g d from rfl, Server.createSession_alter]
  cases c.server.createSession user <;> rfl

omit hg in
theorem checkSession_alter : Commutes (alter g d) checkSession := by
  refine .get_bind (fun _ => rfl) fun v => ?_
  cases v.caller.user with
  | none => exact .fail _
  | some user =>
    dsimp only
    cases v.ownSession? user with
    | none => exact attachNew_alter d user
    | some session =>
      exact .bind (onCache_alter d (.step fun c => c.register_alter g d session)) fun _ => .pure _

/-- **Attaching a caller** goes the same way whatever the indexes hold and whichever backends are
down. -/
theorem attach_alter (text : String) : Commutes (alter g d) (attach text) :=
  .bind (.bind (.look fun _ => rfl) fun _ =>
    .bind (onEngine_alter d (Engine.connect_alter d hg)) fun _ =>
      .bind (onEngine_alter d (Engine.sweep_alter d)) fun _ => .pure _)
    fun _ => checkSession_alter d

end Visit

end

/-! ### Other backends that are down -/

/-- The server with these backends down and no others. -/
def Server.withDown (s : Server) (down : List Nat) : Server := { s with down }

/-- The cache over the server with these backends down. -/
def Cache.withDown (c : Cache) (down : List Nat) : Cache :=
  { c with server := c.server.withDown down }

/-- The engine over the server with these backends down. -/
def Engine.withDown (e : Engine) (down : List Nat) : Engine :=
  { e with cache := e.cache.withDown down }

/-- The visit of the engine over the server with these backends down. -/
def Visit.withDown (v : Visit) (down : List Nat) : Visit :=
  { v with engine := v.engine.withDown down }

/-- **Attaching a caller** goes the same way whichever backends are down. -/
theorem Visit.attach_withDown (down : List Nat) (text : String) :
    Commutes (withDown · down) (attach text) :=
  attach_alter (g := id) (fun _ => down) (fun _ => rfl) text

end FederatedSearch
