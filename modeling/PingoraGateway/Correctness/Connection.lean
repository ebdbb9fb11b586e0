import PingoraGateway.Correctness.SyncerSpec
import PingoraGateway.Correctness.StatusWriter

/-!
# The proxy connection

The syncer holds a connection object and the routing client made from it.
`Close` drops both, `SyncAllRoutes` connects only while it holds no client and
drops the connection after a transport error, and a refused update keeps it.
Over every sequence of calls in which a `Connect` made while connected does not
fail, the client is the connection's and the connection is open. A `Connect`
made while connected that fails has already closed the old connection and keeps
both fields.
-/

namespace PingoraGateway

/-- A call on the syncer, with the environment's outcomes. -/
inductive SyncerCall
  | connect (c : Cluster) (dialOk : Bool)
  | close
  | syncAllRoutes (c : Cluster) (env : SyncEnv)

namespace SyncerCall

/-- The syncer after a call. -/
def apply (s : PingoraRouteSyncer) : SyncerCall → PingoraRouteSyncer
  | connect c dialOk => (s.connect c dialOk).1
  | close => s.close
  | syncAllRoutes c env => (s.syncAllRoutes c env).1

/-- Whether a call avoids the failing reconnect: a `Connect` made while
connected must succeed. -/
def admissible (s : PingoraRouteSyncer) : SyncerCall → Bool
  | connect c dialOk => !s.isConnected || (s.connect c dialOk).2.isNone
  | _ => true

end SyncerCall

/-- The syncer after a sequence of calls. -/
def runCalls (s : PingoraRouteSyncer) (calls : List SyncerCall) : PingoraRouteSyncer :=
  calls.foldl SyncerCall.apply s

/-- Whether each call of a sequence is admissible where it is made. -/
def admissibleCalls : PingoraRouteSyncer → List SyncerCall → Bool
  | _, [] => true
  | s, call :: calls => call.admissible s && admissibleCalls (call.apply s) calls

namespace PingoraRouteSyncer

/-- The connection invariant: the client is the held connection's, the held
connection is open, and every connection object comes from a dial. -/
structure ConnInvariant (s : PingoraRouteSyncer) : Prop where
  client_eq_conn : s.grpcClient = s.conn
  conn_open : ∀ cc, s.conn = some cc → cc.id ∉ s.closed
  conn_dialed : ∀ cc, s.conn = some cc → cc.id < s.dials
  closed_dialed : ∀ id ∈ s.closed, id < s.dials

namespace ConnInvariant

variable {s : PingoraRouteSyncer} (c : Cluster) (env : SyncEnv)

/-- A new syncer holds nothing. -/
theorem init (clusterDomain gatewayClassName : String) (configResolver : PingoraResolver) :
    ConnInvariant (newPingoraRouteSyncer clusterDomain gatewayClassName configResolver) :=
  ⟨rfl, by simp [newPingoraRouteSyncer], by simp [newPingoraRouteSyncer],
    by simp [newPingoraRouteSyncer]⟩

theorem isConnected_eq (hs : ConnInvariant s) : s.isConnected = s.conn.isSome := by
  simp [isConnected, hs.client_eq_conn]

/-- The version is not part of the invariant. -/
theorem withVersion (hs : ConnInvariant s) (v : UInt64) : ConnInvariant { s with version := v } :=
  ⟨hs.1, hs.2, hs.3, hs.4⟩

/-- Every connection object closed by `closeConn` comes from a dial. -/
theorem closeConn_closed_dialed (hs : ConnInvariant s) :
    ∀ id ∈ s.closeConn.closed, id < s.dials := by
  intro id hid
  rw [closeConn_closed] at hid
  rcases List.mem_append.mp hid with h | h
  · cases hc : s.conn with
    | none => simp [hc] at h
    | some cc =>
      simp only [hc, Option.map_some', Option.toList_some, List.mem_singleton] at h
      exact h ▸ hs.conn_dialed cc hc
  · exact hs.closed_dialed id h

theorem close (hs : ConnInvariant s) : ConnInvariant s.close := by
  unfold PingoraRouteSyncer.close
  split
  · rename_i cc hcc
    refine ⟨rfl, by simp, by simp, fun id hid => ?_⟩
    rcases List.mem_cons.mp hid with rfl | h
    · exact hs.conn_dialed _ hcc
    · exact hs.closed_dialed id h
  · exact hs

theorem close_isConnected (hs : ConnInvariant s) : s.close.isConnected = false := by
  rw [hs.close.isConnected_eq]
  unfold PingoraRouteSyncer.close
  split <;> simp_all

/-- A `Connect` keeps the invariant unless it fails while connected. -/
theorem connect (hs : ConnInvariant s) (dialOk : Bool)
    (hadm : s.isConnected → (s.connect c dialOk).2 = none) :
    ConnInvariant (s.connect c dialOk).1 := by
  rcases s.connect_cases c dialOk with ⟨e, h⟩ | ⟨r, h⟩
  · have hnc : s.conn = none := by
      cases hc : s.conn with
      | none => rfl
      | some cc => simp [h, hs.isConnected_eq, hc] at hadm
    have hcl : s.closeConn = s := by simp [PingoraRouteSyncer.closeConn, hnc]
    rw [h, hcl]
    exact hs
  · rw [h]
    refine ⟨rfl, ?_, ?_, fun id hid => Nat.lt_succ_of_lt (hs.closeConn_closed_dialed id hid)⟩
    · rintro cc hcc hmem
      simp only [Option.some.injEq] at hcc
      subst hcc
      exact Nat.lt_irrefl _ (hs.closeConn_closed_dialed _ hmem)
    · rintro cc hcc
      simp only [Option.some.injEq] at hcc
      subst hcc
      exact Nat.lt_succ_self _

theorem ensureConnected (hs : ConnInvariant s) (dialOk : Bool) :
    ConnInvariant (s.ensureConnected c dialOk).1 := by
  unfold PingoraRouteSyncer.ensureConnected
  split
  · exact hs
  · exact hs.connect c dialOk (by simp_all)

theorem syncSend (hs : ConnInvariant s) (p : PendingPush) (reply : UpdateReply) :
    ConnInvariant (s.syncSend p reply).1 := by
  rcases s.syncSend_cases p reply with ⟨-, h⟩ | ⟨_, -, -, h⟩ |
      ⟨_, -, -, ⟨_, -, h⟩ | ⟨_, _, -, h⟩ | ⟨_, _, -, h⟩⟩ <;>
    rw [h]
  all_goals first | exact hs | exact hs.close

theorem syncAllRoutes (hs : ConnInvariant s) : ConnInvariant (s.syncAllRoutes c env).1 := by
  have he := hs.ensureConnected c env.dialOk
  rcases s.syncBegin_cases c env with ⟨-, h⟩ | ⟨-, o, -, h⟩ | ⟨-, _, _, _, -, h⟩ <;>
    simp only [PingoraRouteSyncer.syncAllRoutes, h]
  · exact he
  · exact he
  · exact (he.withVersion _).syncSend _ _

/-- An admissible call keeps the invariant. -/
theorem apply (hs : ConnInvariant s) (call : SyncerCall) (hadm : call.admissible s = true) :
    ConnInvariant (call.apply s) := by
  cases call with
  | connect c dialOk =>
    refine hs.connect c dialOk fun hc => ?_
    simpa [SyncerCall.admissible, hc] using hadm
  | close => exact hs.close
  | syncAllRoutes c env => exact hs.syncAllRoutes c env

/-- An admissible sequence of calls keeps the invariant. -/
theorem runCalls (hs : ConnInvariant s) (calls : List SyncerCall)
    (hadm : admissibleCalls s calls = true) : ConnInvariant (PingoraGateway.runCalls s calls) := by
  induction calls generalizing s with
  | nil => exact hs
  | cons call calls ih =>
    simp only [admissibleCalls, Bool.and_eq_true] at hadm
    exact ih (hs.apply call hadm.1) hadm.2

end ConnInvariant

/-- The errors that a `List` error or a builder panic end the middle of
`SyncAllRoutes` with: a `List` error returns no delay. -/
theorem collectRoutes_error {s : PingoraRouteSyncer} {c : Cluster} {env : SyncEnv} {o : SyncOutcome}
    (h : s.collectRoutes c env = .error o) :
    (∃ e, o = .returned ⟨0⟩ none (some e)) ∨ ∃ e, o = .panicked e := by
  unfold collectRoutes at h
  repeat' split at h
  all_goals cases h
  all_goals first | exact .inl ⟨_, rfl⟩ | exact .inr ⟨_, rfl⟩

/-- A refused update and a transport error return different errors. -/
theorem refusal_ne_transport_error (e : String) :
    "route update failed: " ++ e ≠ "failed to update routes via gRPC" := by
  intro h
  have := congrArg (fun s => s.data.head?) h
  simp at this

namespace ConnInvariant

variable {s : PingoraRouteSyncer} (c : Cluster) (env : SyncEnv)

/-- A failed connection check leaves the syncer disconnected. -/
theorem ensureConnected_failed (dialOk : Bool)
    (h : (s.ensureConnected c dialOk).2.isSome) :
    (s.ensureConnected c dialOk).1.isConnected = false := by
  unfold PingoraRouteSyncer.ensureConnected at h ⊢
  by_cases hc : s.isConnected = true
  · simp [hc] at h
  · simp only [hc, if_false] at h ⊢
    rcases s.connect_cases c dialOk with ⟨e, he⟩ | ⟨r, he⟩ <;> rw [he] at h ⊢
    · simpa [isConnected] using hc
    · simp at h

/-- A call ending with the connection delay leaves the syncer disconnected
when its connection attempt failed or its update failed in transport, and
connected when the proxy refused the update. -/
theorem syncAllRoutes_connection (hs : ConnInvariant s) {s' : PingoraRouteSyncer}
    {push : Option Push} {sr : Option SyncResult} {err : Option String}
    (h : s.syncAllRoutes c env = (s', push, .returned ⟨apiErrorRequeueDelay⟩ sr err)) :
    (err = none ∨ err = some "failed to update routes via gRPC" → s'.isConnected = false) ∧
    (∀ e, err = some ("route update failed: " ++ e) → s'.isConnected = true) := by
  rcases s.syncBegin_cases c env with ⟨hfail, hb⟩ | ⟨-, o, ho, hb⟩ |
      ⟨-, _, _, _, -, hb⟩ <;>
    simp only [PingoraRouteSyncer.syncAllRoutes, hb] at h
  · simp only [Prod.mk.injEq, SyncOutcome.returned.injEq] at h
    obtain ⟨rfl, -, -, -, rfl⟩ := h
    exact ⟨fun _ => ensureConnected_failed c env.dialOk hfail, by simp⟩
  · rcases collectRoutes_error ho with ⟨e, rfl⟩ | ⟨e, rfl⟩ <;>
      simp [apiErrorRequeueDelay] at h
  · have ht := (hs.ensureConnected c env.dialOk).withVersion (s.version + 1)
    rcases PingoraRouteSyncer.syncSend_cases _ _ env.reply with ⟨hn, hs'⟩ | ⟨_, -, -, hs'⟩ |
        ⟨cl, hcl, -, ⟨_, -, hs'⟩ | ⟨e, _, -, hs'⟩ | ⟨_, _, -, hs'⟩⟩ <;>
      rw [hs'] at h <;> simp only [Prod.mk.injEq, SyncOutcome.returned.injEq, Result.mk.injEq] at h
    · obtain ⟨rfl, -, -, -, rfl⟩ := h
      exact ⟨fun _ => by simpa [isConnected] using congrArg Option.isSome hn, by simp⟩
    · obtain ⟨rfl, -, -, -, rfl⟩ := h
      exact ⟨fun _ => ht.close_isConnected, fun e he => absurd (Option.some.inj he).symm
        (refusal_ne_transport_error e)⟩
    · obtain ⟨rfl, -, -, -, rfl⟩ := h
      exact ⟨fun _ => ht.close_isConnected, fun e he => absurd (Option.some.inj he).symm
        (refusal_ne_transport_error e)⟩
    · obtain ⟨rfl, -, -, -, rfl⟩ := h
      refine ⟨?_, fun _ _ => by simpa [isConnected] using congrArg Option.isSome hcl⟩
      rintro (he | he)
      · cases he
      · exact absurd (Option.some.inj he) (refusal_ne_transport_error e)
    · simp [apiErrorRequeueDelay] at h

end ConnInvariant

end PingoraRouteSyncer

/-- What a syncer keeps of the connection claim: it holds a client exactly when
it holds a connection, which is open; and a `SyncAllRoutes` ending with the
connection delay disconnects after a failed connection attempt or a transport
error and stays connected after a refused update. -/
def ConnectionContract (s : PingoraRouteSyncer) : Prop :=
  (s.isConnected = s.conn.isSome ∧ ∀ cc, s.conn = some cc → cc.id ∉ s.closed) ∧
  ∀ c env s' push sr err,
    s.syncAllRoutes c env = (s', push, .returned ⟨apiErrorRequeueDelay⟩ sr err) →
      (err = none ∨ err = some "failed to update routes via gRPC" → s'.isConnected = false) ∧
      (∀ e, err = some ("route update failed: " ++ e) → s'.isConnected = true)

/-- Over every sequence of `Connect`, `Close` and `SyncAllRoutes` calls on a new
syncer in which no `Connect` made while connected fails, the syncer keeps the
connection contract. -/
theorem admissible_calls_keep_connection_contract (clusterDomain gatewayClassName : String)
    (configResolver : PingoraResolver) (calls : List SyncerCall)
    (hadm : admissibleCalls
      (newPingoraRouteSyncer clusterDomain gatewayClassName configResolver) calls) :
    ConnectionContract
      (runCalls (newPingoraRouteSyncer clusterDomain gatewayClassName configResolver) calls) := by
  have hs := (PingoraRouteSyncer.ConnInvariant.init clusterDomain gatewayClassName
    configResolver).runCalls calls hadm
  exact ⟨⟨hs.isConnected_eq, hs.conn_open⟩,
    fun c env _ _ _ _ h => hs.syncAllRoutes_connection c env h⟩

/-- The default class's GatewayClass and PingoraConfig with no Gateway or route. -/
def configOnlyCluster : Cluster := defaultCluster Store.empty Store.empty

/-- A sync whose update the proxy refuses. -/
def refusedSyncEnv : SyncEnv := ⟨true, true, true, .response false "rejected" 1⟩

/-- A sync, a close, a reconnect and a refused sync keep the contract. -/
theorem admissible_calls_keep_connection_contract_default :
    admissibleCalls defaultSyncer [.syncAllRoutes configOnlyCluster okSyncEnv, .close,
      .connect configOnlyCluster true, .syncAllRoutes configOnlyCluster refusedSyncEnv] = true ∧
    ConnectionContract (runCalls defaultSyncer [.syncAllRoutes configOnlyCluster okSyncEnv, .close,
      .connect configOnlyCluster true, .syncAllRoutes configOnlyCluster refusedSyncEnv]) :=
  ⟨by decide, admissible_calls_keep_connection_contract _ _ _ _ (by decide)⟩

/-- A `Connect` made while connected whose dial fails closes the held
connection and keeps it with its client, so the syncer reports itself connected
over a closed connection; and a `SyncAllRoutes` whose update the proxy refuses
fails and stays connected. -/
theorem failed_reconnect_keeps_closed_connection :
    (runCalls defaultSyncer
      [.connect configOnlyCluster true, .connect configOnlyCluster false]).isConnected ∧
    (runCalls defaultSyncer [.connect configOnlyCluster true,
      .connect configOnlyCluster false]).conn.map (·.id) = some 0 ∧
    0 ∈ (runCalls defaultSyncer
      [.connect configOnlyCluster true, .connect configOnlyCluster false]).closed ∧
    (defaultSyncer.syncAllRoutes configOnlyCluster refusedSyncEnv).2.2.returnsNoError = false ∧
    (defaultSyncer.syncAllRoutes configOnlyCluster refusedSyncEnv).1.isConnected := by
  decide

end PingoraGateway
