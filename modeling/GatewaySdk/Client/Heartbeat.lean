import GatewaySdk.Client.Subscriptions

/-!
# The heartbeat

While connected with the heartbeat enabled, each poll runs `processHeartbeat`: it sends a Ping
once `interval` has passed since the last one, and, once a pong has ever arrived, counts a
missed pong on every check more than `timeout` after the last pong, disconnecting the
transport with "Heartbeat timeout" when the count reaches `missedPongsBeforeDisconnect`.  A
pong resets the count and the time of the last pong.

The count is of checks, not of Pings: polls after a single late pong disconnect although every
Ping was answered.  Nothing is counted before the first pong, so a peer that never answers is
never detected.  And nothing resets the heartbeat fields when a session starts, so a count from
an earlier session carries over.
-/

namespace GatewaySdk

namespace GatewayClient

variable {Text : Type} (env : Environment Text) {client : GatewayClient Text}

/-- While no pong has arrived in the life of the client, `processHeartbeat` only sends its
Ping when one is due: it never counts a missed pong, so it never disconnects. -/
theorem processHeartbeat_of_no_pong (never : client.lastPongReceived = 0)
    (transportFree : client.transportLockHeld = false) :
    (processHeartbeat env).run client = some ((),
      if (client.config.heartbeat.interval : Int) ≤ client.clock.steady - client.lastPingSent then
        let text := Protocol.serialize env.codec .ping client.clock.system
        { client with
          transport := (client.transport.send text).1
          log := client.log ++ [.sent .ping (client.transport.send text).2.toBool]
          lastPingSent := client.clock.steady }
      else client) := by
  by_cases due : (client.config.heartbeat.interval : Int) ≤ client.clock.steady - client.lastPingSent
  · simp [processHeartbeat, due, never, transportSend_run, transportFree, discard_run]
  · simp [processHeartbeat, due, never]

/-- A check more than `timeout` after the last pong counts a missed pong even when no Ping
went out since that pong, and disconnects once the count reaches
`missedPongsBeforeDisconnect`. -/
theorem processHeartbeat_counts_check
    (notDue : client.clock.steady - client.lastPingSent < client.config.heartbeat.interval)
    (late : client.lastPongReceived ≠ 0 ∧
      (client.config.heartbeat.timeout : Int) < client.clock.steady - client.lastPongReceived) :
    (processHeartbeat env).run client =
      (if client.config.heartbeat.missedPongsBeforeDisconnect ≤ (client.missedPongs + 1) % 2 ^ 32
        then transportDisconnect env "Heartbeat timeout" else pure ()).run
        { client with missedPongs := (client.missedPongs + 1) % 2 ^ 32 } := by
  have quiet : ¬ (client.config.heartbeat.interval : Int) ≤ client.clock.steady - client.lastPingSent :=
    not_le.mpr notDue
  simp only [processHeartbeat, StateT.run_bind, StateT.run_get, pure_bind, quiet, if_false, late,
    ne_eq, not_false_eq_true, and_self, if_true, StateT.run_modify]

/-- A connected sensor on the default heartbeat settings (a Ping every 30 s, a 10 s timeout,
two missed pongs).  Its peer never answers: after three Pings, two of them unanswered for
longer than the timeout, the sensor is still connected.  Its peer answers the only Ping at
once: two polls 10.001 s later disconnect it.  And a missed pong counted before a
`disconnect()` carries over: the first poll of the next session disconnects it before that
session sends any Ping. -/
theorem heartbeat_counts_checks_not_pings :
    ((new sensorConfig).run (documentEnv passiveUser)
        (connectInputs authAccepted ++ [.tick { steady := 30000 }, .poll 0,
          .tick { steady := 60000 }, .poll 0, .tick { steady := 90000 }, .poll 0])).map
      (fun final => (final.state, (sentMessages final.log).count .ping,
        final.log.count (.transportDisconnect "Heartbeat timeout"))) = some (.connected, 3, 0) ∧
    ((new sensorConfig).run (documentEnv passiveUser)
        (connectInputs authAccepted ++ [.tick { steady := 30000 }, .poll 0,
          .receive (gatewayFrame { type := .pong }), .tick { steady := 40001 }, .poll 0, .poll 0])).map
      (fun final => ((sentMessages final.log).count .ping,
        final.log.count (.transportDisconnect "Heartbeat timeout"))) = some (1, 1) ∧
    ((new sensorConfig).run (documentEnv passiveUser)
        (connectInputs authAccepted ++ [.tick { steady := 30000 }, .poll 0,
          .receive (gatewayFrame { type := .pong }), .tick { steady := 40001 }, .poll 0,
          .disconnect] ++ connectInputs authAccepted ++ [.poll 0])).map
      (fun final => ((sentMessages final.log).count .ping,
        final.log.count (.transportDisconnect "Heartbeat timeout"))) = some (1, 1) := by
  simp (disch := decide) only [List.append_assoc, run_append_runOr]
  decide

end GatewayClient

end GatewaySdk
