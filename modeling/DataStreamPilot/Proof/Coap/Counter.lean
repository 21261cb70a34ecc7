/-
This file proves that the resource of the counter counts the requests that leave the board.
The abstract counter is an integer, and the board keeps its last sixteen bits.
-/

import DataStreamPilot.Proof.Coap.ProxySession

namespace DataStreamPilot.Coap

open Library

/-- The text of a count. -/
def countText (count : ℤ) : List Char := PythonText.decimal (count % 2 ^ 16)

/-- The counter after an event and its effect. -/
def countAfter (count : ℤ) : Event → Effect → ℤ
  | .command _ _, .command .sent _ => count + 1
  | .stats (.put payload), .stats .changed => CText.strtoul payload
  | _, _ => count

/-- What an effect may show of the counter. Only a request that is sent shows anything to the
network, and each number that is shown is the count at that time. -/
def ShowsCount (count : ℤ) : Event → Effect → Prop
  | .command _ _, .command .sent outputs => ∃ remote request,
      outputs = [.request remote request] ∨
        outputs = [.request remote request, .notification (countText (count + 1))]
  | .command _ _, .command (.info requestsSent _) outputs =>
      requestsSent = UInt16.ofInt count ∧ outputs = []
  | .command _ _, .command _ outputs => outputs = []
  | .stats .get, .stats response => response = .content (countText count)
  | .stats (.put payload), .stats response =>
      response = if payload.length ≤ maxStatsPayload then .changed else .badRequest
  | _, _ => True

/-- The observer with the abstract counter. -/
def countObserver : FallibleMachine.Observer ℤ Event Effect where
  advance := countAfter
  accepts := ShowsCount

/-- The board keeps the last sixteen bits. -/
def CountsModulo (count : ℤ) (state : State) : Prop := state.reqCount = UInt16.ofInt count

theorem decimal_reqCount {count : ℤ} {reqCount : UInt16} (same : reqCount = UInt16.ofInt count) :
    PythonText.decimal reqCount.toNat = countText count := by
  subst same
  have number : ((UInt16.ofInt count).toNat : ℤ) = count % 2 ^ 16 := by
    have bound : (count % 2 ^ 16).toNat < 2 ^ 16 := by omega
    rw [UInt16.ofInt, UInt16.toNat_ofNat', Nat.mod_eq_of_lt bound]
    omega
  rw [number, countText]

/-- The effect of a request on the counter and on the network. -/
def SendCounts (before after : UInt16) (result : Result) (outputs : List Output) : Prop :=
  (result = .sent ∧ after = before + 1 ∧ ∃ remote request,
    outputs = [.request remote request] ∨ outputs =
      [.request remote request, .notification (PythonText.decimal (before + 1).toNat)]) ∨
  result ∈ [Result.bufferTooSmall, .sendFailed] ∧ after = before ∧ outputs = []

/-- A transmission counts exactly when the stack accepts it. -/
theorem send_counts (stack : Stack) (state : State) (request : Request) (addr port : List Char)
    (transmission : Transmission) :
    SendCounts state.reqCount (send stack state request addr port transmission).1.reqCount
      (send stack state request addr port transmission).2.1
      (send stack state request addr port transmission).2.2 := by
  have failed : Result.sendFailed ∈ [Result.bufferTooSmall, .sendFailed] := by decide
  unfold send
  split
  split
  · exact Or.inr ⟨failed, rfl, rfl⟩
  · split
    · rename_i remote _ _ _
      refine Or.inl ⟨rfl, rfl, remote, request, ?_⟩
      cases transmission.observed with
      | false => exact Or.inl rfl
      | true => exact Or.inr rfl
    · exact Or.inr ⟨failed, rfl, rfl⟩

/-- A request counts exactly when it leaves the board. -/
theorem sendRequest_counts {stack : Stack} {room : PayloadRoom} {state final : State}
    {arguments : Arguments} {transmission : Transmission} {result : Result}
    {outputs : List Output}
    (returns : sendRequest stack room state arguments transmission =
      .ok (final, result, outputs)) :
    SendCounts state.reqCount final.reqCount result outputs := by
  simp only [sendRequest] at returns
  obtain ⟨⟨uri, uriLength⟩, _, returns⟩ := exists_of_bind_eq_ok returns
  dsimp only at returns
  split at returns
  · obtain ⟨rfl, rest⟩ := Prod.mk.inj (Except.ok.inj returns)
    obtain ⟨rfl, rfl⟩ := Prod.mk.inj rest
    exact Or.inr ⟨by decide, rfl, rfl⟩
  · have counted := send_counts stack { state with lastReqPath := retainedPath uri uriLength }
      (formRequest state.proxied arguments uri) arguments.addr arguments.port transmission
    rw [Except.ok.inj returns] at counted
    exact counted

/-- The observer accepts a command with the effect of a request. -/
theorem observes_request {count : ℤ} {state next : State} {arguments : List (List Char)}
    {transmission : Transmission} {result : Result} {outputs : List Output}
    (counts : CountsModulo count state)
    (counted : SendCounts state.reqCount next.reqCount result outputs) :
    ShowsCount count (.command arguments transmission) (.command result outputs) ∧
      CountsModulo (countAfter count (.command arguments transmission) (.command result outputs))
        next := by
  rw [CountsModulo] at counts
  have later : state.reqCount + 1 = UInt16.ofInt (count + 1) := by
    rw [counts, UInt16.ofInt_add, UInt16.ofInt_one]
  rcases counted with ⟨rfl, after, remote, request, shown⟩ | ⟨failed, after, rfl⟩
  · rw [decimal_reqCount later] at shown
    exact ⟨⟨remote, request, shown⟩, after.trans later⟩
  · simp only [List.mem_cons, List.not_mem_nil, or_false] at failed
    rcases failed with rfl | rfl
    · exact ⟨rfl, after.trans counts⟩
    · exact ⟨rfl, after.trans counts⟩

/-- A result that shows no count. -/
def Silent : Result → Bool
  | .sent => false
  | .info _ _ => false
  | _ => true

/-- The observer accepts a command that shows no count. -/
theorem observes_silent {count : ℤ} {state next : State} (arguments : List (List Char))
    (transmission : Transmission) {result : Result} (silent : Silent result = true)
    (counts : CountsModulo count state) (kept : next.reqCount = state.reqCount) :
    ShowsCount count (.command arguments transmission) (.command result []) ∧
      CountsModulo (countAfter count (.command arguments transmission) (.command result []))
        next := by
  have same : CountsModulo count next := kept.trans counts
  cases result with
  | sent => cases silent
  | info requestsSent proxy => cases silent
  | _ => exact ⟨rfl, same⟩

/-- The observer accepts every call of the command. -/
theorem execute_counts {stack : Stack} {room : PayloadRoom} {count : ℤ} {state next : State}
    {command : Command} {transmission : Transmission} {result : Result} {outputs : List Output}
    (arguments : List (List Char)) (counts : CountsModulo count state)
    (executes : command.execute stack room state transmission = .ok (next, result, outputs)) :
    ShowsCount count (.command arguments transmission) (.command result outputs) ∧
      CountsModulo (countAfter count (.command arguments transmission) (.command result outputs))
        next := by
  cases command with
  | info ignored =>
      obtain ⟨rfl, rest⟩ := Prod.mk.inj (Except.ok.inj executes)
      obtain ⟨rfl, rfl⟩ := Prod.mk.inj rest
      exact ⟨⟨counts, rfl⟩, counts⟩
  | proxySet addr port =>
      rw [Command.execute] at executes
      split at executes
      · obtain ⟨rfl, rest⟩ := Prod.mk.inj (Except.ok.inj executes)
        obtain ⟨rfl, rfl⟩ := Prod.mk.inj rest
        exact observes_silent _ _ rfl counts rfl
      · obtain ⟨rfl, rest⟩ := Prod.mk.inj (Except.ok.inj executes)
        obtain ⟨rfl, rfl⟩ := Prod.mk.inj rest
        exact observes_silent _ _ rfl counts rfl
  | proxyUnset =>
      obtain ⟨rfl, rest⟩ := Prod.mk.inj (Except.ok.inj executes)
      obtain ⟨rfl, rfl⟩ := Prod.mk.inj rest
      exact observes_silent _ _ rfl counts rfl
  | request confirm addr port target =>
      exact observes_request counts (sendRequest_counts executes)

/-- The observer accepts every step. -/
theorem sessionStep_counts (stack : Stack) (room : PayloadRoom) (count : ℤ) (state : State)
    (event : Event) (next : State) (effect : Effect) (counts : CountsModulo count state)
    (steps : sessionStep stack room state event = .ok (next, effect)) :
    ShowsCount count event effect ∧ CountsModulo (countAfter count event effect) next := by
  cases event with
  | stats request =>
      obtain ⟨rfl, rfl⟩ := Prod.mk.inj (Except.ok.inj steps)
      cases request with
      | get =>
          refine ⟨?_, counts⟩
          show StatsResponse.content (PythonText.decimal state.reqCount.toNat) = _
          rw [decimal_reqCount counts]
      | put payload =>
          by_cases short : payload.length ≤ maxStatsPayload
          · simp only [if_pos short]
            exact ⟨(if_pos short).symm, rfl⟩
          · simp only [if_neg short]
            exact ⟨(if_neg short).symm, counts⟩
      | other => exact ⟨trivial, counts⟩
  | command arguments transmission =>
      obtain ⟨result, outputs, rfl, returns⟩ := exists_of_sessionStep_command steps
      by_cases rendered : ∃ command : Command, command.Plain ∧ command.render = arguments
      · obtain ⟨command, plain, rfl⟩ := rendered
        rw [gcoapCliCmd_render stack room state transmission plain] at returns
        exact execute_counts command.render counts returns
      · have foreign (command : Command) (plain : command.Plain) : command.render ≠ arguments :=
          fun same => rendered ⟨command, plain, same⟩
        obtain ⟨shown, listed, prints⟩ := gcoapCliCmd_unrendered stack room transmission foreign
        obtain ⟨rfl, rest⟩ := Prod.mk.inj (Except.ok.inj ((prints state).symm.trans returns))
        obtain ⟨rfl, rfl⟩ := Prod.mk.inj rest
        have silent : ∀ result ∈ [Result.usage, .proxyUsage, .requestUsage],
            Silent result = true := by decide
        exact observes_silent arguments transmission (silent shown listed) counts rfl

/-- A printed count fits into the payload of a put. -/
theorem countText_length (count : ℤ) : (countText count).length ≤ maxStatsPayload := by
  have digits : (count % 2 ^ 16).natAbs < 10 ^ 5 := by omega
  have unsigned : ¬count % 2 ^ 16 < 0 := by omega
  rw [countText, PythonText.decimal_eq, if_neg unsigned, List.nil_append]
  exact (Nat.length_toDigits_le_iff (by decide) (by decide)).mpr digits

/-- A printed count reads back as its last sixteen bits. -/
theorem strtoul_countText (count : ℤ) : CText.strtoul (countText count) = count % 2 ^ 16 := by
  obtain ⟨number, same⟩ : ∃ number : Nat, (number : ℤ) = count % 2 ^ 16 :=
    ⟨(count % 2 ^ 16).toNat, by omega⟩
  rw [countText, ← same]
  exact CText.strtoul_decimal number

/-- A put of a printed count brings it back. -/
theorem statsHandler_restores (reqCount : UInt16) (earlier : ℤ) :
    statsHandler reqCount (.put (countText earlier)) = (UInt16.ofInt earlier, .changed) := by
  have lastBits : UInt16.ofInt (earlier % 2 ^ 16) = UInt16.ofInt earlier := by
    rw [UInt16.ofInt, UInt16.ofInt, Int.emod_emod]
  rw [statsHandler, if_pos (countText_length earlier), strtoul_countText, lastBits]

/-- Every session counts its requests. A get shows the counter, each notification shows it after
its request, nothing else reaches the network, and a put of a text that a get has shown brings
back that count. -/
theorem session_counts (stack : Stack) (room : PayloadRoom) (count : ℤ) (state : State)
    (start : state.reqCount = UInt16.ofInt count) (events : List Event) (final : State)
    (effects : List Effect) (runs : (session stack room).run state events = .ok (final, effects)) :
    countObserver.AcceptsAll count (events.zip effects) ∧
      final.reqCount = UInt16.ofInt (countObserver.follow count (events.zip effects)) ∧
      ∀ earlier : ℤ, ∃ restored,
        (session stack room).run state (events ++ [.stats (.put (countText earlier))]) =
          .ok (restored, effects ++ [.stats .changed]) ∧
        restored = { final with reqCount := UInt16.ofInt earlier } := by
  have entry : CountsModulo count state := start
  have observed : countObserver.AcceptsAll count (events.zip effects) ∧
      CountsModulo (countObserver.follow count (events.zip effects)) final :=
    FallibleMachine.run_observer (sessionStep_counts stack room) entry runs
  obtain ⟨all, counts⟩ := observed
  refine ⟨all, counts, fun earlier => ⟨_, ?_, rfl⟩⟩
  have puts : (session stack room).step final (.stats (.put (countText earlier))) =
      .ok ({ final with reqCount := UInt16.ofInt earlier }, .stats .changed) := by
    change sessionStep stack room final (.stats (.put (countText earlier))) = _
    rw [sessionStep, statsHandler_restores]
  rw [FallibleMachine.run_concat_ok runs, puts]
  rfl

/-- Events of a session with an observer of the counter. -/
def labEvents : List Event :=
  [.stats (.put "65535".toList),
    .command (["get", "2001:db8::1", "5683", "/a"].map fun text => text.toList) ⟨true, true⟩,
    .stats .get, .command ["info".toList] ⟨true, false⟩]

/-- The effects of these events. The counter wraps around. -/
def labEffects : List Effect :=
  [.stats .changed,
    .command .sent [.request labRemote (labGet "/a".toList), .notification "0".toList],
    .stats (.content "0".toList), .command (.info 0 none) []]

theorem session_labEvents : (session labStack (fun _ => 128)).run start labEvents =
    .ok (⟨false, zeroEndpoint, "/a".toList, 0⟩, labEffects) := by
  decide

theorem session_counts_lab :
    countObserver.AcceptsAll 0 (labEvents.zip labEffects) ∧
      (0 : UInt16) = UInt16.ofInt (countObserver.follow 0 (labEvents.zip labEffects)) ∧
      ∀ earlier : ℤ, ∃ restored,
        (session labStack (fun _ => 128)).run start
            (labEvents ++ [.stats (.put (countText earlier))]) =
          .ok (restored, labEffects ++ [.stats .changed]) ∧
        restored = ⟨false, zeroEndpoint, "/a".toList, UInt16.ofInt earlier⟩ :=
  session_counts labStack (fun _ => 128) 0 start rfl labEvents _ labEffects session_labEvents

end DataStreamPilot.Coap
