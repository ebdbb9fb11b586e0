import PingoraGateway.Controller.Syncer

/-!
# What each step of the syncer can do

One lemma per operation of `PingoraRouteSyncer` lists every way it can end,
guards included, so that the invariants over runs of the syncer never unfold
the operations again. The fields the controller configures once (the cluster
domain, the class and the resolver) are never written.
-/

namespace PingoraGateway

namespace PingoraRouteSyncer

variable (s : PingoraRouteSyncer) (c : Cluster) (env : SyncEnv)

@[simp] theorem closeConn_conn : s.closeConn.conn = s.conn := by
  unfold closeConn; split <;> simp_all

@[simp] theorem closeConn_grpcClient : s.closeConn.grpcClient = s.grpcClient := by
  unfold closeConn; split <;> rfl

@[simp] theorem closeConn_dials : s.closeConn.dials = s.dials := by
  unfold closeConn; split <;> rfl

@[simp] theorem closeConn_version : s.closeConn.version = s.version := by
  unfold closeConn; split <;> rfl

/-- The connection objects closed after `closeConn`: the held one joins them. -/
theorem closeConn_closed : s.closeConn.closed = (s.conn.map (·.id)).toList ++ s.closed := by
  unfold closeConn; split <;> simp_all

/-- The configured fields: the cluster domain, the class and the resolver. -/
def statics (s : PingoraRouteSyncer) : String × String × PingoraResolver :=
  (s.clusterDomain, s.gatewayClassName, s.configResolver)

@[simp] theorem statics_closeConn : s.closeConn.statics = s.statics := by
  unfold closeConn; split <;> rfl

@[simp] theorem statics_close : s.close.statics = s.statics := by
  unfold close; split <;> rfl

@[simp] theorem version_close : s.close.version = s.version := by
  unfold close; split <;> rfl

/-- Taking the next version adds one to its value modulo `2 ^ 64`. -/
theorem toNat_version_succ : (s.version + 1).toNat = (s.version.toNat + 1) % 2 ^ 64 := by
  simp [UInt64.add_def, UInt64.toNat, BitVec.toNat_add]

/-- How `Connect` ends: a failed resolution or dial leaves the old connection
closed but held; a dial that succeeds holds a new connection numbered by the
dial count. -/
theorem connect_cases (dialOk : Bool) :
    (∃ e, s.connect c dialOk = (s.closeConn, some e)) ∨
    ∃ r : ResolvedPingoraConfig, s.connect c dialOk =
      ({ s.closeConn with
          conn := some ⟨s.dials, r⟩
          grpcClient := some ⟨s.dials, r⟩
          configName := r.configName
          dials := s.dials + 1 }, none) := by
  rcases hr : s.closeConn.configResolver.resolveFromGatewayClassName c s.closeConn.gatewayClassName
    with e | r
  · exact .inl ⟨"failed to resolve Pingora config: " ++ e, by simp only [connect, hr]⟩
  · cases dialOk
    · exact .inl ⟨"failed to create gRPC connection", by simp [connect, hr]⟩
    · exact .inr ⟨r, by simp [connect, hr]⟩

@[simp] theorem statics_connect (dialOk : Bool) : (s.connect c dialOk).1.statics = s.statics := by
  rcases s.connect_cases c dialOk with ⟨e, h⟩ | ⟨r, h⟩ <;> rw [h] <;>
    exact statics_closeConn s

@[simp] theorem version_connect (dialOk : Bool) : (s.connect c dialOk).1.version = s.version := by
  rcases s.connect_cases c dialOk with ⟨e, h⟩ | ⟨r, h⟩ <;> rw [h] <;> simp

@[simp] theorem statics_ensureConnected (dialOk : Bool) :
    (s.ensureConnected c dialOk).1.statics = s.statics := by
  unfold ensureConnected; split <;> simp

@[simp] theorem version_ensureConnected (dialOk : Bool) :
    (s.ensureConnected c dialOk).1.version = s.version := by
  unfold ensureConnected; split <;> simp

/-- `collectRoutes` reads the syncer only through its configured fields. -/
theorem collectRoutes_congr {s t : PingoraRouteSyncer} (h : s.statics = t.statics) :
    s.collectRoutes c env = t.collectRoutes c env := by
  simp only [statics, Prod.mk.injEq] at h
  simp only [collectRoutes, getRelevantHTTPRoutes, getRelevantGRPCRoutes, builder, h]

/-- How the first step of `SyncAllRoutes` ends: a failed connection attempt, a
`List` error or builder panic, or a request with the next version. -/
theorem syncBegin_cases :
    ((s.ensureConnected c env.dialOk).2.isSome ∧
      s.syncBegin c env = ((s.ensureConnected c env.dialOk).1,
        .done (.returned ⟨apiErrorRequeueDelay⟩ none none))) ∨
    ((s.ensureConnected c env.dialOk).2 = none ∧
      ∃ o, (s.ensureConnected c env.dialOk).1.collectRoutes c env = .error o ∧
        s.syncBegin c env = ((s.ensureConnected c env.dialOk).1, .done o)) ∨
    ((s.ensureConnected c env.dialOk).2 = none ∧
      ∃ h g sr, (s.ensureConnected c env.dialOk).1.collectRoutes c env = .ok (h, g, sr) ∧
        s.syncBegin c env =
          ({ (s.ensureConnected c env.dialOk).1 with version := s.version + 1 },
            .ready ⟨⟨h, g, (s.version + 1).toNat⟩, sr⟩)) := by
  rcases hc : s.ensureConnected c env.dialOk with ⟨t, e⟩
  have hv : t.version = s.version := by rw [← version_ensureConnected s c env.dialOk, hc]
  cases e with
  | some e => exact .inl ⟨rfl, by simp [syncBegin, hc]⟩
  | none =>
    cases hr : t.collectRoutes c env with
    | error o => exact .inr (.inl ⟨rfl, o, rfl, by simp [syncBegin, hc, hr]⟩)
    | ok x =>
      obtain ⟨h, g, sr⟩ := x
      exact .inr (.inr ⟨rfl, h, g, sr, rfl, by simp [syncBegin, hc, hr, hv]⟩)

/-- A first step that ends the call keeps the version. -/
theorem version_syncBegin_done {t : PingoraRouteSyncer} {o : SyncOutcome}
    (h : s.syncBegin c env = (t, .done o)) : t.version = s.version := by
  rcases s.syncBegin_cases c env with ⟨-, hb⟩ | ⟨-, _, -, hb⟩ | ⟨-, _, _, _, -, hb⟩ <;>
    simp only [hb, Prod.mk.injEq, reduceCtorEq, and_false] at h <;> simp [← h.1]

/-- A first step that leaves a request takes the next version and puts it in the
request. -/
theorem syncBegin_ready {t : PingoraRouteSyncer} {p : PendingPush}
    (h : s.syncBegin c env = (t, .ready p)) :
    t.version = s.version + 1 ∧ p.request.version = (s.version + 1).toNat := by
  rcases s.syncBegin_cases c env with ⟨-, hb⟩ | ⟨-, _, -, hb⟩ | ⟨-, _, _, _, -, hb⟩ <;>
    simp only [hb, Prod.mk.injEq, BeginOutcome.ready.injEq, reduceCtorEq, and_false] at h
  obtain ⟨rfl, rfl⟩ := h
  exact ⟨rfl, rfl⟩

/-- How the second step of `SyncAllRoutes` ends: no client; a client whose
connection was closed, which fails before sending; or a request on the wire
answered by a transport error, a refusal or a success. -/
theorem syncSend_cases (p : PendingPush) (reply : UpdateReply) :
    (s.grpcClient = none ∧
      s.syncSend p reply = (s, none, .returned ⟨apiErrorRequeueDelay⟩ none none)) ∨
    (∃ client, s.grpcClient = some client ∧ client.id ∈ s.closed ∧
      s.syncSend p reply = (s.close, none, .returned ⟨apiErrorRequeueDelay⟩ (some p.syncResult)
        (some "failed to update routes via gRPC"))) ∨
    (∃ client, s.grpcClient = some client ∧ client.id ∉ s.closed ∧
      ((∃ applied, reply = .transportError applied ∧
        s.syncSend p reply = (s.close, some ⟨client, p.request, reply⟩,
          .returned ⟨apiErrorRequeueDelay⟩ (some p.syncResult)
            (some "failed to update routes via gRPC"))) ∨
      (∃ e v, reply = .response false e v ∧
        s.syncSend p reply = (s, some ⟨client, p.request, reply⟩,
          .returned ⟨apiErrorRequeueDelay⟩ (some p.syncResult)
            (some ("route update failed: " ++ e)))) ∨
      (∃ e v, reply = .response true e v ∧
        s.syncSend p reply = (s, some ⟨client, p.request, reply⟩,
          .returned ⟨0⟩ (some p.syncResult) none)))) := by
  cases hc : s.grpcClient with
  | none => exact .inl ⟨rfl, by simp [syncSend, hc]⟩
  | some client =>
    by_cases hcl : client.id ∈ s.closed
    · exact .inr (.inl ⟨client, rfl, hcl, by simp [syncSend, hc, hcl]⟩)
    · refine .inr (.inr ⟨client, rfl, hcl, ?_⟩)
      cases reply with
      | transportError applied => exact .inl ⟨applied, rfl, by simp [syncSend, hc, hcl]⟩
      | response success e v =>
        cases success
        · exact .inr (.inl ⟨e, v, rfl, by simp [syncSend, hc, hcl]⟩)
        · exact .inr (.inr ⟨e, v, rfl, by simp [syncSend, hc, hcl]⟩)

/-- A push carries the request of the call in flight. -/
theorem syncSend_push {p : PendingPush} {reply : UpdateReply} {q : Push}
    (h : (s.syncSend p reply).2.1 = some q) : q.request = p.request := by
  rcases s.syncSend_cases p reply with ⟨-, hs⟩ | ⟨_, -, -, hs⟩ |
      ⟨_, -, -, ⟨_, -, hs⟩ | ⟨_, _, -, hs⟩ | ⟨_, _, -, hs⟩⟩ <;>
    rw [hs] at h <;> simp only [Option.some.injEq, reduceCtorEq] at h <;> rw [← h]

@[simp] theorem version_syncSend (p : PendingPush) (reply : UpdateReply) :
    (s.syncSend p reply).1.version = s.version := by
  rcases s.syncSend_cases p reply with ⟨-, h⟩ | ⟨_, -, -, h⟩ |
      ⟨_, -, -, ⟨_, -, h⟩ | ⟨_, _, -, h⟩ | ⟨_, _, -, h⟩⟩ <;>
    simp [h]

end PingoraRouteSyncer

end PingoraGateway
