import Parlance.Core.Str

namespace Parlance.App

open Str

inductive Command where
  | send (toNickname content : String)
  | peers
  | quit
  | help
deriving DecidableEq, Repr

inductive CommandParseError where
  | unknownCommand (command : String)
  | missingArguments (command usage : String)
  | notACommand
deriving DecidableEq, Repr

def CommandParseError.message : CommandParseError → String
  | .unknownCommand command => "Unknown command: " ++ command
  | .missingArguments command usage => "Usage: " ++ command ++ " " ++ usage
  | .notACommand => "Commands must start with /"

def sendUsage : CommandParseError := .missingArguments "/send" "<nickname> <message>"

/-- `Command::parse`; `none` stands for a panic of the slice `input[1..]` or of an index into
    `parts`. -/
def Command.parse (input : String) : Option (Except CommandParseError Command) :=
  let input := (trim input).data
  if input.head? ≠ some '/' then some (.error .notACommand)
  else (sliceFrom input 1).bind fun tail =>
    let parts := splitn2 ' ' tail
    (parts.get? 0).bind fun cmd =>
      match String.mk cmd with
      | "send" =>
        if parts.length < 2 then some (.error sendUsage)
        else (parts.get? 1).map fun rest =>
          match splitOnce ' ' rest with
          | some (toNickname, content) => .ok (.send ⟨toNickname⟩ ⟨content⟩)
          | none => .error sendUsage
      | "peers" => some (.ok .peers)
      | "quit" | "exit" | "q" => some (.ok .quit)
      | "help" | "h" => some (.ok .help)
      | unknown => some (.error (.unknownCommand unknown))

def Command.helpText : String :=
  "Available commands:\n  /send <nickname> <message>  Send a message to a peer\n  /peers                      List discovered peers\n  /quit                       Exit the application\n  /help                       Show this help"

/-- The command grammar as the help text describes it: `/word rest`, the word up to the first space.
    -/
def commandGrammar (s : String) : Except CommandParseError Command :=
  match (trim s).data with
  | '/' :: after =>
    let word : List Char := ((splitOnce ' ' after).map Prod.fst).getD after
    let rest := (splitOnce ' ' after).map Prod.snd
    match String.mk word with
    | "send" =>
      match rest.bind (splitOnce ' ') with
      | some (toNickname, content) => .ok (.send ⟨toNickname⟩ ⟨content⟩)
      | none => .error sendUsage
    | "peers" => .ok .peers
    | "quit" | "exit" | "q" => .ok .quit
    | "help" | "h" => .ok .help
    | w => .error (.unknownCommand w)
  | _ => .error .notACommand

theorem parse_eq_commandGrammar (s : String) : Command.parse s = some (commandGrammar s) := by
  unfold Command.parse commandGrammar
  match (trim s).data with
  | [] => rfl
  | c :: after =>
    by_cases slash : c = '/'
    · subst slash
      simp only [List.head?_cons, ne_eq, not_true_eq_false, if_false, sliceFrom_slash,
        Option.some_bind, splitn2]
      cases split : splitOnce ' ' after with
      | none =>
        simp only [List.get?_cons_zero, Option.some_bind, List.length_singleton, Option.map_none',
          Option.getD_none, Option.none_bind]
        split <;> simp_all
      | some parts =>
        simp only [List.get?_cons_zero, Option.some_bind, List.length_cons, List.length_singleton,
          Option.map_some', Option.getD_some]
        split <;> simp_all
    · simp [slash]

theorem parse_send {toNickname content : String} (noSpace : ' ' ∉ toNickname.data) (nonempty : content ≠ "")
    (last : ∀ c ∈ content.data.getLast?, isWhitespace c = false) :
    Command.parse ("/send " ++ toNickname ++ " " ++ content) = some (.ok (.send toNickname content)) := by
  obtain ⟨toNickname⟩ := toNickname
  obtain ⟨content⟩ := content
  have line : ("/send " ++ String.mk toNickname ++ " " ++ String.mk content).data =
      '/' :: ("send".data ++ ' ' :: (toNickname ++ ' ' :: content)) := by
    simp [String.append]
  have nonempty : content ≠ [] := fun empty => nonempty (by simp [empty])
  have ending : ('/' :: ("send".data ++ ' ' :: (toNickname ++ ' ' :: content))).getLast? =
      content.getLast? := by
    simp [List.getLast?_cons, List.getLast?_eq_getLast content nonempty]
  have trimmed : trim ("/send " ++ String.mk toNickname ++ " " ++ String.mk content) =
      "/send " ++ String.mk toNickname ++ " " ++ String.mk content := by
    have same : trim ⟨'/' :: ("send".data ++ ' ' :: (toNickname ++ ' ' :: content))⟩ =
        ⟨'/' :: ("send".data ++ ' ' :: (toNickname ++ ' ' :: content))⟩ :=
      trim_eq_self (by simp; decide) (by rw [ending]; exact last)
    rw [← line] at same
    exact same
  rw [parse_eq_commandGrammar, commandGrammar, trimmed, line]
  have word : splitOnce ' ' ("send".data ++ ' ' :: (toNickname ++ ' ' :: content)) =
      some ("send".data, toNickname ++ ' ' :: content) := splitOnce_append (by decide) _
  simp only [word, Option.map_some', Option.getD_some, Option.some_bind, splitOnce_append noSpace]

/-- `Command::parse` never panics and follows the grammar; a `/send` line whose recipient has no
    space and whose message does not end in whitespace parses to exactly that send. -/
theorem parse_follows_grammar :
    (∀ s, Command.parse s = some (commandGrammar s)) ∧
      ∀ toNickname content : String, ' ' ∉ toNickname.data → content ≠ "" →
        (∀ c ∈ content.data.getLast?, isWhitespace c = false) →
        Command.parse ("/send " ++ toNickname ++ " " ++ content) =
          some (.ok (.send toNickname content)) :=
  ⟨parse_eq_commandGrammar, fun _ _ => parse_send⟩

end Parlance.App
