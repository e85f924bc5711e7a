import GatewaySdk.Client.Handshake

/-!
# Disconnecting, and what comes after

`disconnect()` disables the reconnect policy, enters `Closing`, disconnects the transport,
resets the `AuthManager` and enters `Closed`.  No other code writes the policy's `enabled`
switch, so it stays off for the rest of the client's life: neither a later `connect()` nor a
successful authentication turns it back on, and every later transport loss is terminal.

Neither transport handler looks at the connection state.  A reconnection asleep in its delay
when `disconnect()` runs still opens the transport, and the transport's `onConnected` handler
takes the engine from `Closed` to `Authenticating`; the carrier's `CLIENT_CLOSED` event that
follows `disconnect()` runs the `onDisconnected` handler, which takes it to `Disconnected`.
-/

namespace GatewaySdk

namespace GatewayClient

variable {Text : Type} (env : Environment Text)

/-- `disconnect()` from a state other than `Disconnected` and `Closed` ends `Closed` with the
reconnect policy disabled. -/
theorem disconnect_disables_policy {client final : GatewayClient Text} {result : Unit}
    (active : client.state ≠ .disconnected ∧ client.state ≠ .closed)
    (ran : (disconnect env).run client = some (result, final)) :
    final.policy.enabled = false ∧ final.state = .closed := by
  obtain ⟨proceed, closing, locked, finished⟩ := run_bind_eq_some ran
  obtain ⟨-, inside, body, rfl⟩ := withLock_run locked
  simp only [StateT.run_bind, StateT.run_get, pure_bind, StateT.run_modify, active, or_self,
    if_false, Option.bind_eq_bind, Option.bind_eq_some] at body
  obtain ⟨⟨_, closing⟩, entered, returned⟩ := body
  obtain ⟨rfl, rfl⟩ := Prod.mk.inj (Option.some.inj returned)
  have disabled := setState_run env policyStaysDisabled_engineStable.toCallStable entered rfl
  obtain ⟨_, disconnected, transportRan, rest⟩ := run_bind_eq_some finished
  obtain ⟨_, reset, resetRan, closed⟩ := run_bind_eq_some rest
  have stillDisabled := transportDisconnect_guarantees env policyStaysDisabled_engineStable
    _ _ _ _ transportRan disabled
  obtain ⟨-, rfl⟩ := Prod.mk.inj (Option.some.inj resetRan)
  exact ⟨setState_guarantees env policyStaysDisabled_engineStable.toHandlerStable _ _ _ _ closed
    stillDisabled, setState_state env closed⟩

/-- Once the reconnect policy is disabled, a transport loss at the end of any later run leaves
the engine `Disconnected`. -/
theorem loss_after_disable_disconnects {client current final : GatewayClient Text}
    {inputs : List (ClientInput Text)} {code : ErrorCode} {reason : String} {result : Unit}
    (disabled : client.policy.enabled = false) (ran : run env client inputs = some current)
    (lost : (onTransportDisconnected env code reason).run current = some (result, final)) :
    final.state = .disconnected := by
  have kept := onTransportDisconnected_run env (keeps_callStable fun state _ _ => state) lost
  simpa [Keeps, run_keeps_policy_disabled env ran disabled] using kept

/-- A connected sensor loses its transport and is asleep before its first reconnect attempt
when `disconnect()` runs: the attempt still opens the transport and takes the sensor from
`Closed` to `Authenticating`.  And after a `disconnect()` of a connected sensor, the carrier's
report of the closed connection takes it from `Closed` to `Disconnected` and calls
`onDisconnected` again. -/
theorem transport_events_leave_closed :
    ((new sensorConfig).run (documentEnv passiveUser)
        (connectInputs authAccepted ++
          [.closed, .poll 0, .disconnect, .reconnect .established])).map
      (fun final => (final.state, ((invokedCallbacks final.log).map Prod.fst).reverse.take 2)) =
      some (.authenticating,
        [.stateChanged .closed .authenticating, .stateChanged .closing .closed]) ∧
    ((new sensorConfig).run (documentEnv passiveUser)
        (connectInputs authAccepted ++ [.disconnect, .closed])).map
      (fun final => (final.state, ((invokedCallbacks final.log).map Prod.fst).reverse.take 2)) =
      some (.disconnected,
        [.disconnected .connectionClosed "Connection closed",
          .stateChanged .closed .disconnected]) := by
  simp (disch := decide) only [run_append_runOr]
  decide

/-- A sensor connects, disconnects and connects again; when the gateway then closes the
connection, the sensor ends `Disconnected`, its reconnect policy still disabled and no attempt
made. -/
theorem reconnect_disabled_after_disconnect_cycle :
    ((new sensorConfig).run (documentEnv passiveUser)
        (connectInputs authAccepted ++ [.disconnect] ++ connectInputs authAccepted)).map
      (·.state) = some .connected ∧
    ((new sensorConfig).run (documentEnv passiveUser)
        (connectInputs authAccepted ++ [.disconnect] ++ connectInputs authAccepted ++
          [.closed])).map
      (fun final => (final.state, final.policy.enabled, final.policy.attemptCount)) =
      some (.disconnected, false, 0) := by
  simp (disch := decide) only [List.append_assoc, run_append_runOr]
  decide

end GatewayClient

end GatewaySdk
