import PingoraGateway.Correctness.Connection

/-!
# Versions of the pushes

The HTTP and gRPC reconcilers share one syncer, whose `SyncAllRoutes` calls the
sync lock serializes, while `Close` takes only the connection lock. A run here
interleaves the two steps of each call with `Close`: at most one call is in
flight between taking its version and sending. The run records, for each
version taken, its ordinal among all versions taken, so that what the 64-bit
counter wraps stays visible.

A version is taken before the client is read, so a call that finds no client
or a closed one sends nothing and its version is never sent: the versions sent
increase but may skip. A call returns with no error and no requeue only after a
reply with `success`; the reply's `applied_version` is never compared, and the
calls that end for want of a connection return no error either, with a requeue.
-/

namespace PingoraGateway

/-- What happens next around the syncer: a `SyncAllRoutes` call takes the sync
lock and runs up to its version, the call in flight reads the client and
sends, or `Close` runs. -/
inductive SyncerEvent
  | begin (c : Cluster) (env : SyncEnv)
  | send (reply : UpdateReply)
  | close

/-- The syncer, the call in flight with the ordinal of its version, the number
of versions taken, the pushes sent with their call's ordinal, and the finished
calls with their outcome and push, in order. -/
structure SyncerRun where
  syncer : PingoraRouteSyncer
  inFlight : Option (Nat × PendingPush)
  taken : Nat
  sent : List (Nat × Push)
  finished : List (SyncOutcome × Option Push)

namespace SyncerRun

/-- A run that has done nothing yet. -/
def start (s : PingoraRouteSyncer) : SyncerRun := ⟨s, none, 0, [], []⟩

/-- One event; a call waits for the sync lock while another is in flight. -/
def step (r : SyncerRun) : SyncerEvent → SyncerRun
  | .begin c env =>
    match r.inFlight with
    | some _ => r
    | none =>
      match r.syncer.syncBegin c env with
      | (s, .done o) => { r with syncer := s, finished := r.finished ++ [(o, none)] }
      | (s, .ready p) =>
        { r with syncer := s, inFlight := some (r.taken + 1, p), taken := r.taken + 1 }
  | .send reply =>
    match r.inFlight with
    | none => r
    | some (n, p) =>
      let (s, push, o) := r.syncer.syncSend p reply
      { r with
        syncer := s
        inFlight := none
        sent := r.sent ++ (push.map ((n, ·))).toList
        finished := r.finished ++ [(o, push)] }
  | .close => { r with syncer := r.syncer.close }

/-- A run of events. -/
def run (r : SyncerRun) (evs : List SyncerEvent) : SyncerRun := evs.foldl step r

/-- A finished call that returned no error and no requeue had its own request
answered with `success`. -/
def SucceededOnSuccess (x : SyncOutcome × Option Push) : Prop :=
  ∀ sr, x.1 = .returned ⟨0⟩ sr none →
    ∃ p, x.2 = some p ∧ ∃ e v, p.reply = .response true e v

/-- The invariant of a run: the counter is the number of versions taken modulo
`2 ^ 64`, the call in flight holds the last one, the pushes sent hold earlier
ones in increasing order, and every finished call succeeded if it says so. -/
structure VersionInvariant (r : SyncerRun) : Prop where
  version_eq : r.syncer.version.toNat = r.taken % 2 ^ 64
  inFlight_last :
    ∀ n p, r.inFlight = some (n, p) → n = r.taken ∧ p.request.version = n % 2 ^ 64
  sent_le : ∀ x ∈ r.sent, x.1 ≤ r.taken
  sent_lt_inFlight : ∀ n p, r.inFlight = some (n, p) → ∀ x ∈ r.sent, x.1 < n
  sent_sorted : (r.sent.map (·.1)).Pairwise (· < ·)
  sent_version : ∀ x ∈ r.sent, x.2.request.version = x.1 % 2 ^ 64
  finished_ok : ∀ x ∈ r.finished, SucceededOnSuccess x

namespace VersionInvariant

variable {r : SyncerRun}

theorem start (s : PingoraRouteSyncer) (hv : s.version = 0) : VersionInvariant (start s) :=
  ⟨by simp [SyncerRun.start, hv], by simp [SyncerRun.start], by simp [SyncerRun.start],
    by simp [SyncerRun.start], by simp [SyncerRun.start], by simp [SyncerRun.start],
    by simp [SyncerRun.start]⟩

/-- A call that ends in its first step never returns success. -/
theorem done_ok {s : PingoraRouteSyncer} {c : Cluster} {env : SyncEnv} {t : PingoraRouteSyncer}
    {o : SyncOutcome} (h : s.syncBegin c env = (t, .done o)) : SucceededOnSuccess (o, none) := by
  intro sr ho
  rcases s.syncBegin_cases c env with ⟨-, hb⟩ | ⟨-, o', hc, hb⟩ |
      ⟨-, _, _, _, -, hb⟩ <;>
    rw [hb] at h <;> simp only [Prod.mk.injEq, BeginOutcome.done.injEq] at h
  · rw [← h.2] at ho
    simp [apiErrorRequeueDelay] at ho
  · rw [← h.2] at ho
    rcases PingoraRouteSyncer.collectRoutes_error hc with ⟨e, rfl⟩ | ⟨e, rfl⟩ <;> simp at ho
  · exact absurd h.2 (by simp)

/-- A call that sends returns success only on a `success` reply. -/
theorem send_ok (s : PingoraRouteSyncer) (p : PendingPush) (reply : UpdateReply) :
    SucceededOnSuccess ((s.syncSend p reply).2.2, (s.syncSend p reply).2.1) := by
  intro sr ho
  rcases s.syncSend_cases p reply with ⟨-, h⟩ | ⟨_, -, -, h⟩ |
      ⟨_, -, -, ⟨_, -, h⟩ | ⟨_, _, -, h⟩ | ⟨e, v, hr, h⟩⟩ <;>
    rw [h] at ho ⊢ <;> simp [apiErrorRequeueDelay] at ho
  exact ⟨_, rfl, e, v, hr⟩

theorem begin_step (hr : VersionInvariant r) (c : Cluster) (env : SyncEnv) :
    VersionInvariant (r.step (.begin c env)) := by
  cases hf : r.inFlight with
  | some _ => simpa [step, hf] using hr
  | none =>
    rcases hb : r.syncer.syncBegin c env with ⟨t, o | p⟩ <;> simp only [step, hf, hb]
    · refine ⟨by rw [PingoraRouteSyncer.version_syncBegin_done _ _ _ hb]; exact hr.version_eq,
        by simp, hr.sent_le, by simp, hr.sent_sorted, hr.sent_version, fun x hx => ?_⟩
      rcases List.mem_append.mp hx with hx | hx
      · exact hr.finished_ok x hx
      · rw [List.mem_singleton.mp hx]; exact done_ok hb
    · obtain ⟨ht, hp⟩ := PingoraRouteSyncer.syncBegin_ready _ _ _ hb
      have hsucc : t.version.toNat = (r.taken + 1) % 2 ^ 64 := by
        rw [ht, PingoraRouteSyncer.toNat_version_succ, hr.version_eq]; omega
      refine ⟨hsucc, fun n q hnq => ?_, fun x hx => Nat.le_succ_of_le (hr.sent_le x hx),
        fun n q hnq x hx => ?_, hr.sent_sorted, hr.sent_version, hr.finished_ok⟩ <;>
        simp only [Option.some.injEq, Prod.mk.injEq] at hnq
      · obtain ⟨rfl, rfl⟩ := hnq
        exact ⟨rfl, by rw [hp, ← ht, hsucc]⟩
      · rw [← hnq.1]
        exact Nat.lt_succ_of_le (hr.sent_le x hx)

theorem send_step (hr : VersionInvariant r) (reply : UpdateReply) :
    VersionInvariant (r.step (.send reply)) := by
  cases hf : r.inFlight with
  | none => simpa [step, hf] using hr
  | some np =>
    obtain ⟨n, p⟩ := np
    obtain ⟨rfl, hpv⟩ := hr.inFlight_last n p hf
    have hpush : ∀ q, (r.syncer.syncSend p reply).2.1 = some q → q.request = p.request :=
      fun q hq => PingoraRouteSyncer.syncSend_push _ hq
    have hok := send_ok r.syncer p reply
    have hv := PingoraRouteSyncer.version_syncSend r.syncer p reply
    rcases hs : r.syncer.syncSend p reply with ⟨s, push, o⟩
    rw [hs] at hpush hok hv
    simp only [step, hf, hs]
    refine ⟨hv ▸ hr.version_eq, by simp, fun x hx => ?_, by simp, ?_, fun x hx => ?_,
      fun x hx => ?_⟩
    · rcases List.mem_append.mp hx with hx | hx
      · exact hr.sent_le x hx
      · cases push <;> simp_all
    · rw [List.map_append, List.pairwise_append]
      refine ⟨hr.sent_sorted, by cases push <;> simp, fun a ha b hb => ?_⟩
      obtain ⟨x, hx, rfl⟩ := List.mem_map.mp ha
      cases push <;> simp at hb
      exact hb ▸ hr.sent_lt_inFlight _ p hf x hx
    · rcases List.mem_append.mp hx with hx | hx
      · exact hr.sent_version x hx
      · cases push with
        | none => simp at hx
        | some q =>
          simp only [Option.map_some', Option.toList_some, List.mem_singleton] at hx
          subst hx
          rw [hpush q rfl, hpv]
    · rcases List.mem_append.mp hx with hx | hx
      · exact hr.finished_ok x hx
      · rw [List.mem_singleton.mp hx]; exact hok

theorem close_step (hr : VersionInvariant r) : VersionInvariant (r.step .close) :=
  ⟨by simpa [step] using hr.version_eq, hr.inFlight_last, hr.sent_le, hr.sent_lt_inFlight,
    hr.sent_sorted, hr.sent_version, hr.finished_ok⟩

theorem step (hr : VersionInvariant r) (ev : SyncerEvent) : VersionInvariant (r.step ev) := by
  cases ev with
  | begin c env => exact hr.begin_step c env
  | send reply => exact hr.send_step reply
  | close => exact hr.close_step

theorem run (hr : VersionInvariant r) (evs : List SyncerEvent) : VersionInvariant (r.run evs) := by
  induction evs generalizing r with
  | nil => exact hr
  | cons ev evs ih => exact ih (hr.step ev)

end VersionInvariant

/-- What a run keeps of the version claim: the pushes sent carry the versions of
strictly increasing call ordinals modulo `2 ^ 64`, so strictly increasing
versions until the counter wraps; and a call returns no error and no requeue
only after its own request was answered with `success`. -/
def VersionContract (r : SyncerRun) : Prop :=
  (r.sent.map (·.1)).Pairwise (· < ·) ∧
  (∀ x ∈ r.sent, x.2.request.version = x.1 % 2 ^ 64) ∧
  (r.taken < 2 ^ 64 → (r.sent.map (·.2.request.version)).Pairwise (· < ·)) ∧
  ∀ x ∈ r.finished, SucceededOnSuccess x

theorem VersionInvariant.contract {r : SyncerRun} (hr : VersionInvariant r) :
    VersionContract r := by
  refine ⟨hr.sent_sorted, hr.sent_version, fun ht => ?_, hr.finished_ok⟩
  have hsmall : ∀ x ∈ r.sent, x.2.request.version = x.1 := fun x hx => by
    rw [hr.sent_version x hx, Nat.mod_eq_of_lt (lt_of_le_of_lt (hr.sent_le x hx) ht)]
  have hs := hr.sent_sorted
  rw [List.pairwise_map] at hs ⊢
  exact hs.imp_of_mem fun ha hb hab => by rwa [hsmall _ ha, hsmall _ hb]

end SyncerRun

/-- For every interleaving of `SyncAllRoutes` calls on the controller's syncer,
serialized by the sync lock, with `Close` calls, and every reply of the proxy,
the run keeps the version contract. -/
theorem syncer_runs_keep_version_contract (clusterDomain gatewayClassName : String)
    (configResolver : PingoraResolver) (evs : List SyncerEvent) :
    SyncerRun.VersionContract
      ((SyncerRun.start (newPingoraRouteSyncer clusterDomain gatewayClassName
        configResolver)).run evs) :=
  ((SyncerRun.VersionInvariant.start _ rfl).run evs).contract

/-- A call takes version 1, a `Close` runs before it reads the client, and the
next call connects again and sends version 2, which the proxy answers with
`success` and applied version 7. -/
def closeRaceEvents : List SyncerEvent :=
  [.begin configOnlyCluster okSyncEnv, .close, .send (.response true "" 1),
    .begin configOnlyCluster okSyncEnv, .send (.response true "" 7)]

/-- In `closeRaceEvents` the only request sent carries version 2, not 1; the
first call returns no error without any reply, and the second returns no error
on a reply whose applied version is 7. -/
theorem close_race_skips_version :
    ((SyncerRun.start defaultSyncer).run closeRaceEvents).sent.map (·.2.request.version) = [2] ∧
    ((SyncerRun.start defaultSyncer).run closeRaceEvents).finished.map
      (fun x => (x.1.returnsNoError, x.2.map (·.reply))) =
      [(true, none), (true, some (.response true "" 7))] := by
  decide

end PingoraGateway
