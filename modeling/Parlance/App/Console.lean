import Parlance.App.Command
import Parlance.Network.Messaging.Connection
import Parlance.Network.Discovery.Engine

namespace Parlance.App

open Json Lines Messaging Str

inductive Output where
  | info (message : String)
  | success (message : String)
  | error (message : String)
  | prompt (message : String)
  | messageReceived (formatted : String)
  | peerList (peers : List (String × SocketAddr))
deriving DecidableEq, Repr

/-- The registry, the clock and the network as the input task meets them on one line: it reads the
    registry at most once a line, and `Utc::now()` once. -/
structure World (ε : Type) where
  registry : PeerRegistry
  now : I64
  net : NetOp → Except ε Unit

structure Handled where
  outputs : List Output
  ops : List NetOp
  events : List MessageEvent
deriving DecidableEq, Repr

def handlePeersCommand (registry : PeerRegistry) : Output :=
  .peerList (registry.getAll.map fun p => (p.nickname, p.addr))

def sendFeedback {ε : Type} (display : ε → String) (toNickname : String) :
    Except (ParlanceError ε) Unit → Output
  | .ok () => .success ("Message sent to " ++ toNickname)
  | .error e => .error ("Failed to send message: " ++ e.message display)

def handleCommand {ε : Type} (display : ε → String) (nickname : String) (world : World ε) :
    Except CommandParseError Command → Option Handled
  | .ok (.send toNickname content) =>
    let run := sendMessage nickname world.registry toNickname content world.now world.net
    some ⟨[sendFeedback display toNickname run.result], run.ops, run.events⟩
  | .ok .peers => some ⟨[handlePeersCommand world.registry], [], []⟩
  | .ok .quit => none
  | .ok .help => some ⟨[.info ("\n" ++ Command.helpText)], [], []⟩
  | .error e =>
    some ⟨.error e.message :: match e with
      | .unknownCommand _ => [.info "Type /help for available commands"]
      | _ => [], [], []⟩

/-- The input task's loop body on a line of stdin; `none` ends the task, at `/quit` or at a panic of
    `Command::parse`. -/
def handleLine {ε : Type} (display : ε → String) (nickname : String) (world : World ε) (line : String) :
    Option Handled :=
  if trim line = "" then some ⟨[], [], []⟩
  else (Command.parse (trim line)).bind (handleCommand display nickname world)

/-- The task `spawn_input_handler` spawns, on stdin from line `round` on, where `world n` is what
    line `n` meets. -/
def spawnInputHandler {ε : Type} (display : ε → String) (nickname : String) (world : Nat → World ε)
    (round : Nat) (input : List UInt8) : List Handled :=
  forEachLine (fun round line => (handleLine display nickname (world round) line).map ([·], round + 1))
    round input

def handleEvent (representable : I64 → Bool) : MessageEvent → List Output
  | .received msg => [.messageReceived (msg.format representable)]
  | .sent _ _ => []
  | .sendError toNickname error => [.error ("Error sending to " ++ toNickname ++ ": " ++ error), .prompt "> "]

def spawnEventHandler (representable : I64 → Bool) (events : List MessageEvent) : List Output :=
  events.flatMap (handleEvent representable)

section

variable {ε : Type} (display : ε → String) (nickname : String)

theorem handleLine_trim {world : World ε} {line line' : String} (same : trim line = trim line') :
    handleLine display nickname world line = handleLine display nickname world line' := by
  rw [handleLine, handleLine, same]

theorem handleLine_stripNewline (world : World ε) (line : String) :
    handleLine display nickname world ⟨stripNewline (line.data ++ ['\n'])⟩ =
      handleLine display nickname world line := by
  refine handleLine_trim display nickname ?_
  rw [stripNewline_append_newline]
  split
  · next last =>
    obtain ⟨front, ending⟩ := List.getLast?_eq_some_iff.mp last
    obtain ⟨data⟩ := line
    dsimp only at ending ⊢
    rw [ending, List.dropLast_concat, trim_append_whitespace front (by decide)]
  · rfl

theorem handleLine_eq_none (world : World ε) {line : String} :
    handleLine display nickname world line = none ↔ Command.parse (trim line) = some (.ok .quit) := by
  unfold handleLine
  by_cases blank : trim line = ""
  · rw [if_pos blank, blank]
    decide
  · rw [if_neg blank, parse_eq_commandGrammar]
    cases commandGrammar (trim line) with
    | ok command => cases command <;> simp [handleCommand]
    | error e => simp [handleCommand]

theorem handleLine_send (world : World ε) {line toNickname content : String}
    (parsed : Command.parse (trim line) = some (.ok (.send toNickname content))) :
    handleLine display nickname world line =
      some ⟨[sendFeedback display toNickname
          (sendMessage nickname world.registry toNickname content world.now world.net).result],
        (sendMessage nickname world.registry toNickname content world.now world.net).ops,
        (sendMessage nickname world.registry toNickname content world.now world.net).events⟩ := by
  have nonblank : trim line ≠ "" := fun blank => by rw [blank] at parsed; cases parsed
  rw [handleLine, if_neg nonblank, parsed]
  rfl

/-- `/peers` after any run of the discovery engine that has the input task's nickname: one peer
    list with an entry for each record of the registry, none of them the local nickname, each at
    the endpoint a datagram of the run announced; no network operation and no event. -/
theorem peers_after_discovery (config : Discovery.DiscoveryConfig) (fromAddr : SocketAddr → PeerId)
    (steps : List Discovery.DiscoveryStep) (world : World ε)
    (built : world.registry = Discovery.run config fromAddr steps) {line : String}
    (parsed : Command.parse (trim line) = some (.ok .peers)) :
    ∃ peers, handleLine display config.nickname world line = some ⟨[.peerList peers], [], []⟩ ∧
      peers.length = world.registry.count ∧
      ∀ entry ∈ peers, entry.1 ≠ config.nickname ∧
        ∃ payload source tcpPort seen, Discovery.DiscoveryStep.receive payload source seen ∈ steps ∧
          Discovery.DiscoveryMessage.fromSlice (payload.take Discovery.bufferSize) = .ok (.announce entry.1 tcpPort) ∧
          entry.2 = SocketAddr.new source.ip tcpPort := by
  have keys : KeysMatch fromAddr world.registry :=
    built ▸ Discovery.keysMatch_foldl_step config fromAddr KeysMatch.new steps
  have filled : trim line ≠ "" := fun blank => by rw [blank] at parsed; cases parsed
  refine ⟨_, by rw [handleLine, if_neg filled, parsed]; rfl, by simp [PeerRegistry.getAll, PeerRegistry.count,
    HashMap.values, HashMap.len], fun entry member => ?_⟩
  obtain ⟨p, inside, rfl⟩ := List.mem_map.mp member
  have stored := keys.get_of_mem_getAll inside
  rw [built] at stored
  obtain ⟨-, foreign, payload, source, tcpPort, received, decoded, addr, -⟩ :=
    Discovery.get_run_some config fromAddr stored
  exact ⟨foreign, payload, source, tcpPort, p.lastSeen, received, decoded, addr⟩

/-- Bob, his peer timeout 15 ns, hears Alice's announcement at 1 ns and lists her alone on
    `/peers`. -/
theorem bob_lists_alice :
    ∃ peers, handleLine (fun _ => "") "bob" ⟨Discovery.run ⟨"bob", 9001, 15⟩ (fun _ => ⟨0⟩)
        [.receive (Discovery.announcement ⟨"alice", 9000, 15⟩) (.v4 0x0A000001 5000) 1], ⟨0, by decide⟩,
        fun _ => (.ok () : Except Unit Unit)⟩ "/peers" = some ⟨[.peerList peers], [], []⟩ ∧
      peers.length = 1 ∧ ∀ entry ∈ peers, entry.1 ≠ "bob" := by
  obtain ⟨peers, listed, counted, named⟩ := peers_after_discovery (fun _ => "") ⟨"bob", 9001, 15⟩ (fun _ => ⟨0⟩)
    [.receive (Discovery.announcement ⟨"alice", 9000, 15⟩) (.v4 0x0A000001 5000) 1]
    ⟨Discovery.run ⟨"bob", 9001, 15⟩ (fun _ => ⟨0⟩)
      [.receive (Discovery.announcement ⟨"alice", 9000, 15⟩) (.v4 0x0A000001 5000) 1], ⟨0, by decide⟩,
      fun _ => .ok ()⟩ rfl (show Command.parse (trim "/peers") = some (.ok .peers) by decide)
  exact ⟨peers, listed, counted.trans (by decide), fun entry member => (named entry member).1⟩

variable (world : Nat → World ε)

theorem spawnInputHandler_text_line {round : Nat} {line : String} (noNewline : '\n' ∉ line.data)
    (rest : List UInt8) :
    spawnInputHandler display nickname world round (Utf8.encode line.data ++ byte '\n' :: rest) =
      match handleLine display nickname (world round) line with
      | some handled => handled :: spawnInputHandler display nickname world (round + 1) rest
      | none => [] := by
  rw [spawnInputHandler, forEachLine_of_line _ (nextLine_text noNewline rest),
    handleLine_stripNewline]
  cases handleLine display nickname (world round) line <;> rfl

theorem spawnInputHandler_lines (round : Nat) {pre : List String} (noNewline : ∀ l ∈ pre, '\n' ∉ l.data)
    (stay : ∀ l ∈ pre, Command.parse (trim l) ≠ some (.ok .quit)) (rest : List UInt8) :
    spawnInputHandler display nickname world round
        ((pre.flatMap fun l => Utf8.encode l.data ++ [byte '\n']) ++ rest) =
      (pre.enumFrom round).filterMap (fun (i, l) => handleLine display nickname (world i) l) ++
        spawnInputHandler display nickname world (round + pre.length) rest := by
  induction pre generalizing round with
  | nil => rfl
  | cons l pre ih =>
    simp only [List.forall_mem_cons] at noNewline stay
    obtain ⟨handled, handles⟩ := Option.ne_none_iff_exists'.mp
      (fun quits => stay.1 ((handleLine_eq_none display nickname _).mp quits))
    rw [List.flatMap_cons, List.append_assoc, List.append_assoc, List.singleton_append,
      spawnInputHandler_text_line display nickname world noNewline.1, handles]
    simp only [ih (round + 1) noNewline.2 stay.2, List.enumFrom_cons, List.filterMap_cons, handles,
      List.length_cons, List.cons_append, show round + 1 + pre.length = round + (pre.length + 1) by omega]

/-- The input task reads stdin line by line and handles each line in the world of its round, in
    order. A `/quit` line ends it: no line after it is read. A line that is not UTF-8 ends it too,
    as a read error. -/
theorem spawnInputHandler_session (round : Nat) (pre : List String) (noNewline : ∀ l ∈ pre, '\n' ∉ l.data)
    (stay : ∀ l ∈ pre, Command.parse (trim l) ≠ some (.ok .quit)) :
    (∀ rest, spawnInputHandler display nickname world round
        ((pre.flatMap fun l => Utf8.encode l.data ++ [byte '\n']) ++ rest) =
      (pre.enumFrom round).filterMap (fun (i, l) => handleLine display nickname (world i) l) ++
        spawnInputHandler display nickname world (round + pre.length) rest) ∧
    (∀ (quit : String) (post : List String) (rest : List UInt8), '\n' ∉ quit.data →
      Command.parse (trim quit) = some (.ok .quit) →
      spawnInputHandler display nickname world round
          (((pre ++ quit :: post).flatMap fun l => Utf8.encode l.data ++ [byte '\n']) ++ rest) =
        (pre.enumFrom round).filterMap fun (i, l) => handleLine display nickname (world i) l) ∧
    (∀ bad rest : List UInt8, (∀ b ∈ bad, b.toNat ≠ 0x0A) → Utf8.decode (bad ++ [byte '\n']) = none →
      spawnInputHandler display nickname world round
          ((pre.flatMap fun l => Utf8.encode l.data ++ [byte '\n']) ++ bad ++ byte '\n' :: rest) =
        (pre.enumFrom round).filterMap fun (i, l) => handleLine display nickname (world i) l) := by
  have lines := spawnInputHandler_lines display nickname world round noNewline stay
  refine ⟨lines, fun quit post rest newline quits => ?_, fun bad rest badNewline invalid => ?_⟩
  · rw [List.flatMap_append, List.append_assoc, lines, List.flatMap_cons, List.append_assoc,
      List.append_assoc, List.singleton_append, spawnInputHandler_text_line display nickname world newline,
      (handleLine_eq_none display nickname _).mpr quits]
    exact List.append_nil _
  · rw [List.append_assoc, lines, spawnInputHandler, forEachLine_error _ (nextLine_invalid badNewline invalid rest),
      List.append_nil]

theorem help_then_quit :
    (∀ l ∈ ["/help"], '\n' ∉ l.data) ∧ (∀ l ∈ ["/help"], Command.parse (trim l) ≠ some (.ok .quit)) ∧
      '\n' ∉ "/quit".data ∧ Command.parse (trim "/quit") = some (.ok .quit) ∧
      spawnInputHandler (fun _ => "") "alice"
          (fun _ => ⟨PeerRegistry.new, ⟨0, by decide⟩, fun _ => (.ok () : Except Unit Unit)⟩) 0
          ((["/help", "/quit", "/peers"].flatMap fun l => Utf8.encode l.data ++ [byte '\n']) ++ []) =
        [⟨[.info ("\n" ++ Command.helpText)], [], []⟩] :=
  ⟨by decide, by decide, by decide, by decide,
    ((spawnInputHandler_session (fun _ => "") "alice"
      (fun _ => ⟨PeerRegistry.new, ⟨0, by decide⟩, fun _ => .ok ()⟩) 0 ["/help"]
      (by decide) (by decide)).2.1 "/quit" ["/peers"] [] (by decide) (by decide)).trans rfl⟩

theorem sent_of_handleLine {world : World ε} {line : String} {handled : Handled}
    (handles : handleLine display nickname world line = some handled) :
    ∀ event ∈ handled.events, ∃ toNickname content, event = .sent toNickname content := by
  unfold handleLine at handles
  split at handles
  · cases handles
    simp
  · obtain ⟨result, -, commands⟩ := Option.bind_eq_some.mp handles
    match result, commands with
    | .ok (.send toNickname content), commands =>
      cases commands
      intro event inside
      rw [sendMessage_events] at inside
      split at inside
      · exact ⟨toNickname, content, List.mem_singleton.mp inside⟩
      · cases inside
    | .ok .peers, commands => cases commands; simp
    | .ok .quit, commands => cases commands
    | .ok .help, commands => cases commands; simp
    | .error _, commands => cases commands; simp

theorem sent_of_mem_events {round : Nat} {input : List UInt8} {event : MessageEvent}
    (member : event ∈ (spawnInputHandler display nickname world round input).flatMap Handled.events) :
    ∃ toNickname content, event = .sent toNickname content := by
  obtain ⟨handled, read, inside⟩ := List.mem_flatMap.mp member
  obtain ⟨_, _, _, _, emitted, chosen⟩ := forEachLine_mem _ read
  obtain ⟨handled', handles, paired⟩ := Option.map_eq_some'.mp emitted
  obtain ⟨rfl, -⟩ := Prod.mk.inj paired
  exact sent_of_handleLine display nickname handles event (List.mem_singleton.mp chosen ▸ inside)

end

theorem spawnEventHandler_frames (representable : I64 → Bool) (ms : List TextMessage) :
    spawnEventHandler representable (handleConnection true (ms.flatMap fun m => m.toVec ++ [byte '\n'])) =
      ms.map fun m => .messageReceived (m.format representable) := by
  rw [handleConnection_frames, spawnEventHandler]
  induction ms with
  | nil => rfl
  | cons m ms ih => exact congrArg (List.cons _) ih

theorem spawnEventHandler_input (representable : I64 → Bool) {ε : Type} (display : ε → String)
    (nickname : String) (world : Nat → World ε) (round : Nat) (input : List UInt8) :
    spawnEventHandler representable ((spawnInputHandler display nickname world round input).flatMap Handled.events) =
      [] := by
  refine List.flatMap_eq_nil_iff.mpr fun event member => ?_
  obtain ⟨toNickname, content, rfl⟩ := sent_of_mem_events display nickname world member
  rfl

/-- What the console shows of the event stream: each message a connection receives, formatted, in
    order, and nothing for the input task's sends, whose only events are `Sent`; the handler's
    `SendError` arm never runs for them. -/
theorem console_shows_received (representable : I64 → Bool) :
    (∀ ms : List TextMessage,
      spawnEventHandler representable (handleConnection true (ms.flatMap fun m => m.toVec ++ [byte '\n'])) =
        ms.map fun m => .messageReceived (m.format representable)) ∧
    ∀ {ε : Type} (display : ε → String) (nickname : String) (world : Nat → World ε) (round : Nat)
      (input : List UInt8),
      spawnEventHandler representable
        ((spawnInputHandler display nickname world round input).flatMap Handled.events) = [] :=
  ⟨spawnEventHandler_frames representable, spawnEventHandler_input representable⟩

/-- Who sent an event on the channel: the handler of the `n`-th connection `MessagingService::run`
    accepted, each with its own clone of `event_tx`, or `send_message` on the input task. -/
inductive Sender where
  | connection (n : Nat)
  | input
deriving DecidableEq, Repr

def fromSender {α : Type} (sender : Sender) (items : List (Sender × α)) : List α :=
  (items.filter fun item => item.1 = sender).map Prod.snd

/-- The unbounded channel delivers the senders' streams interleaved, each in the order it was
    sent. -/
def Interleaves {α : Type} (streams : Sender → List α) (items : List (Sender × α)) : Prop :=
  ∀ sender, fromSender sender items = streams sender

theorem fromSender_append {α : Type} (sender : Sender) (items items' : List (Sender × α)) :
    fromSender sender (items ++ items') = fromSender sender items ++ fromSender sender items' := by
  simp [fromSender, List.filter_append]

theorem fromSender_tagged {α : Type} (sender source : Sender) (xs : List α) :
    fromSender sender (xs.map (source, ·)) = if source = sender then xs else [] := by
  induction xs with
  | nil => split <;> rfl
  | cons x xs ih =>
    by_cases same : source = sender
    · simp_all [fromSender]
    · simp_all [fromSender]

theorem fromSender_flatMap {α β : Type} (f : α → List β) (sender : Sender) (items : List (Sender × α)) :
    fromSender sender (items.flatMap fun item => (f item.2).map (item.1, ·)) =
      (fromSender sender items).flatMap f := by
  induction items with
  | nil => rfl
  | cons item items ih =>
    rw [List.flatMap_cons, fromSender_append, ih, fromSender_tagged]
    by_cases same : item.1 = sender
    · simp [fromSender, same]
    · simp [fromSender, same]

/-- Whatever the interleaving of the connection handlers and the input task on the event channel,
    the console shows an interleaving of what each connection carried: every connection's messages
    formatted, in the order they were framed, and nothing from the input task. -/
theorem console_keeps_sender_order (representable : I64 → Bool) {ε : Type} (display : ε → String)
    (nickname : String) (world : Nat → World ε) (round : Nat) (input : List UInt8)
    (ms : Nat → List TextMessage) (events : List (Sender × MessageEvent))
    (delivered : Interleaves (fun
      | .connection n => handleConnection true ((ms n).flatMap fun m => m.toVec ++ [byte '\n'])
      | .input => (spawnInputHandler display nickname world round input).flatMap Handled.events) events) :
    ∃ shown : List (Sender × Output), shown.map Prod.snd = spawnEventHandler representable (events.map Prod.snd) ∧
      Interleaves (fun
        | .connection n => (ms n).map fun m => .messageReceived (m.format representable)
        | .input => []) shown := by
  refine ⟨events.flatMap fun item => (handleEvent representable item.2).map (item.1, ·), ?_, fun sender => ?_⟩
  · simp [spawnEventHandler, List.map_flatMap, List.flatMap_map, Function.comp_def]
  · rw [fromSender_flatMap, ← spawnEventHandler, delivered sender]
    cases sender with
    | connection n => exact spawnEventHandler_frames representable (ms n)
    | input => exact spawnEventHandler_input representable display nickname world round input

theorem two_connections_in_order :
    Interleaves (fun
      | .connection n => handleConnection true
          ((if n = 0 then [⟨"alice", "hi", ⟨0, by decide⟩⟩] else if n = 1 then [⟨"bob", "yo", ⟨0, by decide⟩⟩]
            else ([] : List TextMessage)).flatMap fun m => m.toVec ++ [byte '\n'])
      | .input => (spawnInputHandler (fun _ => "") "carol"
          (fun _ => ⟨PeerRegistry.new, ⟨0, by decide⟩, fun _ => (.ok () : Except Unit Unit)⟩) 0 []).flatMap
          Handled.events)
      [(.connection 1, .received ⟨"bob", "yo", ⟨0, by decide⟩⟩), (.connection 0, .received ⟨"alice", "hi", ⟨0, by decide⟩⟩)] ∧
    ∃ shown : List (Sender × Output), shown.map Prod.snd = spawnEventHandler (fun _ => true)
        (([(.connection 1, .received ⟨"bob", "yo", ⟨0, by decide⟩⟩),
          (.connection 0, .received ⟨"alice", "hi", ⟨0, by decide⟩⟩)] : List (Sender × MessageEvent)).map Prod.snd) ∧
      Interleaves (fun
        | .connection n => ((if n = 0 then [⟨"alice", "hi", ⟨0, by decide⟩⟩] else if n = 1 then
            [⟨"bob", "yo", ⟨0, by decide⟩⟩] else ([] : List TextMessage))).map
              fun m => .messageReceived (m.format fun _ => true)
        | .input => []) shown := by
  have delivered : Interleaves (fun
      | .connection n => handleConnection true
          ((if n = 0 then [⟨"alice", "hi", ⟨0, by decide⟩⟩] else if n = 1 then [⟨"bob", "yo", ⟨0, by decide⟩⟩]
            else ([] : List TextMessage)).flatMap fun m => m.toVec ++ [byte '\n'])
      | .input => (spawnInputHandler (fun _ => "") "carol"
          (fun _ => ⟨PeerRegistry.new, ⟨0, by decide⟩, fun _ => (.ok () : Except Unit Unit)⟩) 0 []).flatMap
          Handled.events)
      [(.connection 1, .received ⟨"bob", "yo", ⟨0, by decide⟩⟩), (.connection 0, .received ⟨"alice", "hi", ⟨0, by decide⟩⟩)] := by
    intro sender
    cases sender with
    | connection n =>
      dsimp only
      rw [handleConnection_frames]
      rcases n with _ | _ | n <;> rfl
    | input =>
      dsimp only
      rw [spawnInputHandler, forEachLine_nil]
      rfl
  exact ⟨delivered, console_keeps_sender_order (fun _ => true) (fun _ => "") "carol"
    (fun _ => ⟨PeerRegistry.new, ⟨0, by decide⟩, fun _ => .ok ()⟩) 0 [] _ _ delivered⟩

end Parlance.App
