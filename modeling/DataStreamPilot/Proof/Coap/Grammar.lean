/-
This file proves that the command reads a grammar without ambiguity.
The abstract commands say what a user can ask for, and each has one rendering as arguments.
-/

import DataStreamPilot.Proof.Coap.Transmission

namespace DataStreamPilot.Coap

open Library

/-- What a request asks of a resource. -/
inductive Target where
  | ping
  | get (path : List Char)
  | post (path data : List Char)
  | put (path data : List Char)
  deriving DecidableEq

def Target.method : Target → Method
  | .ping => .ping
  | .get _ => .get
  | .post _ _ => .post
  | .put _ _ => .put

def Target.path : Target → Option (List Char)
  | .ping => none
  | .get path => some path
  | .post path _ => some path
  | .put path _ => some path

def Target.data : Target → Option (List Char)
  | .ping => none
  | .get _ => none
  | .post _ data => some data
  | .put _ data => some data

/-- The four commands. The arguments after `info` are ignored. -/
inductive Command where
  | info (ignored : List (List Char))
  | proxySet (addr port : List Char)
  | proxyUnset
  | request (confirm : Bool) (addr port : List Char) (target : Target)
  deriving DecidableEq

def Method.name : Method → List Char
  | .ping => "ping".toList
  | .get => "get".toList
  | .post => "post".toList
  | .put => "put".toList

/-- The arguments of a command after its own name. -/
def Command.render : Command → List (List Char)
  | .info ignored => "info".toList :: ignored
  | .proxySet addr port => ["proxy".toList, "set".toList, addr, port]
  | .proxyUnset => ["proxy".toList, "unset".toList]
  | .request confirm addr port target =>
      target.method.name :: (if confirm then ["-c".toList] else []) ++
        addr :: port :: target.path.toList ++ target.data.toList

/-- The text of the option is an address only behind the option itself. -/
def Command.Plain : Command → Prop
  | .request false addr _ _ => addr ≠ "-c".toList
  | _ => True

/-- The arguments of a request after the options are parsed. -/
def requestArguments (confirm : Bool) (addr port : List Char) (target : Target) : Arguments where
  method := target.method
  confirmable := confirm || decide (target = .ping)
  addr := addr
  port := port
  uri := target.path
  data := target.data

/-- The effect of a command. -/
def Command.execute (stack : Stack) (room : PayloadRoom) (state : State)
    (transmission : Transmission) :
    Command → Except Undefined (State × Result × List Output)
  | .info _ => .ok (state, infoCommand state, [])
  | .proxySet addr port =>
      match parseEndpoint stack state.proxyRemote addr port with
      | (remote, some error) => .ok ({ state with proxyRemote := remote }, .proxyNotSet error, [])
      | (remote, none) =>
          .ok ({ state with proxyRemote := remote, proxied := true }, .proxySet, [])
  | .proxyUnset =>
      .ok ({ state with proxyRemote := zeroEndpoint, proxied := false }, .proxyUnset, [])
  | .request confirm addr port target =>
      sendRequest stack room state (requestArguments confirm addr port target) transmission

theorem codePos_name (method : Method) : codePos method.name = some method := by
  cases method <;> decide

/-- The array of the methods has the names of the methods. -/
theorem name_of_codePos {name : List Char} {method : Method}
    (found : codePos name = some method) : name = method.name := by
  simp only [codePos, methodCodes, List.foldl_cons, List.foldl_nil] at found
  split at found
  · rename_i same
    cases found
    exact same
  · split at found
    · rename_i same
      cases found
      exact same
    · split at found
      · rename_i same
        cases found
        exact same
      · split at found
        · rename_i same
          cases found
          exact same
        · cases found

/-- The rendering of a request parses to its arguments. -/
theorem parseArguments_render {confirm : Bool} {addr : List Char} (port : List Char)
    (target : Target) (plain : confirm = true ∨ addr ≠ "-c".toList) :
    parseArguments target.method ((if confirm then ["-c".toList] else []) ++
        addr :: port :: target.path.toList ++ target.data.toList) =
      some (requestArguments confirm addr port target) := by
  cases confirm with
  | true => cases target <;> rfl
  | false =>
      have noOption : addr ≠ "-c".toList := plain.resolve_left (by decide)
      have kept (method : Method) (rest : List (List Char)) :
          parseOption method (addr :: rest) = (decide (method = .ping), addr :: rest) :=
        if_neg noOption
      cases target
      all_goals
        simp only [Bool.false_eq_true, if_false, List.nil_append, Target.path, Target.data,
          Option.toList, List.append_nil, List.cons_append, Target.method, parseArguments, kept]
        rfl

/-- The option is read once. -/
theorem parseOption_eq {method : Method} {arguments body : List (List Char)} {confirmable : Bool}
    (parsed : parseOption method arguments = (confirmable, body)) :
    ∃ confirm, arguments = (if confirm then ["-c".toList] else []) ++ body ∧
      confirmable = (confirm || decide (method = .ping)) ∧
      (confirm = true ∨ ∀ addr ∈ body.head?, addr ≠ "-c".toList) := by
  cases arguments with
  | nil =>
      obtain ⟨rfl, rfl⟩ := Prod.mk.inj parsed
      exact ⟨false, rfl, rfl, Or.inr fun _ member => by cases member⟩
  | cons option rest =>
      by_cases same : option = "-c".toList
      · rw [parseOption, if_pos same] at parsed
        obtain ⟨rfl, rfl⟩ := Prod.mk.inj parsed
        exact ⟨true, by rw [same]; rfl, rfl, Or.inl rfl⟩
      · rw [parseOption, if_neg same] at parsed
        obtain ⟨rfl, rfl⟩ := Prod.mk.inj parsed
        refine ⟨false, rfl, rfl, Or.inr fun addr member => ?_⟩
        obtain rfl := Option.some.inj member
        exact same

/-- Arguments that parse are the rendering of a request. -/
theorem render_of_parseArguments {method : Method} {rest : List (List Char)}
    {arguments : Arguments} (parsed : parseArguments method rest = some arguments) :
    ∃ confirm addr port target, (confirm = true ∨ addr ≠ "-c".toList) ∧
      target.method = method ∧ arguments = requestArguments confirm addr port target ∧
      rest = (if confirm then ["-c".toList] else []) ++
        addr :: port :: target.path.toList ++ target.data.toList := by
  unfold parseArguments at parsed
  split at parsed
  · rename_i confirmable addr port option
    obtain ⟨confirm, rfl, rfl, plain⟩ := parseOption_eq option
    obtain rfl := Option.some.inj parsed
    exact ⟨confirm, addr, port, .ping, plain.imp_right fun head => head addr rfl, rfl, rfl,
      by simp [Target.path, Target.data]⟩
  · rename_i confirmable addr port path option
    obtain ⟨confirm, rfl, rfl, plain⟩ := parseOption_eq option
    obtain rfl := Option.some.inj parsed
    exact ⟨confirm, addr, port, .get path, plain.imp_right fun head => head addr rfl, rfl, rfl,
      by simp [Target.path, Target.data]⟩
  · rename_i confirmable addr port path data option
    obtain ⟨confirm, rfl, rfl, plain⟩ := parseOption_eq option
    obtain rfl := Option.some.inj parsed
    exact ⟨confirm, addr, port, .post path data, plain.imp_right fun head => head addr rfl, rfl,
      rfl, by simp [Target.path, Target.data]⟩
  · rename_i confirmable addr port path data option
    obtain ⟨confirm, rfl, rfl, plain⟩ := parseOption_eq option
    obtain rfl := Option.some.inj parsed
    exact ⟨confirm, addr, port, .put path data, plain.imp_right fun head => head addr rfl, rfl,
      rfl, by simp [Target.path, Target.data]⟩
  · cases parsed

/-- A command with a rendering without ambiguity is executed. -/
theorem gcoapCliCmd_render (stack : Stack) (room : PayloadRoom) (state : State)
    (transmission : Transmission) {command : Command} (plain : command.Plain) :
    gcoapCliCmd stack room state command.render transmission =
      command.execute stack room state transmission := by
  cases command with
  | info ignored => rfl
  | proxySet addr port =>
      have entered : gcoapCliCmd stack room state (Command.proxySet addr port).render transmission =
          .ok ((proxyCommand stack state ["set".toList, addr, port]).1,
            (proxyCommand stack state ["set".toList, addr, port]).2, []) := rfl
      rw [entered, Command.execute]
      simp only [proxyCommand, if_true]
      cases parseEndpoint stack state.proxyRemote addr port with
      | mk remote error => cases error <;> rfl
  | proxyUnset => rfl
  | request confirm addr port target =>
      have clear : confirm = true ∨ addr ≠ "-c".toList := by
        cases confirm with
        | true => exact Or.inl rfl
        | false => exact Or.inr plain
      exact gcoapCliCmd_parsed stack room state (codePos_name target.method)
        (parseArguments_render port target clear) transmission

/-- All other arguments print a usage message, whatever the state, and change nothing. -/
theorem gcoapCliCmd_unrendered (stack : Stack) (room : PayloadRoom) (transmission : Transmission)
    {arguments : List (List Char)}
    (foreign : ∀ command : Command, command.Plain → command.render ≠ arguments) :
    ∃ result, result ∈ [Result.usage, .proxyUsage, .requestUsage] ∧ ∀ state,
      gcoapCliCmd stack room state arguments transmission = .ok (state, result, []) := by
  cases arguments with
  | nil => exact ⟨.usage, by decide, fun _ => rfl⟩
  | cons name rest =>
      have notInfo : name ≠ "info".toList := by
        rintro rfl
        exact foreign (.info rest) trivial rfl
      by_cases proxy : name = "proxy".toList
      · subst proxy
        refine ⟨.proxyUsage, by decide, fun state => ?_⟩
        have entered : gcoapCliCmd stack room state ("proxy".toList :: rest) transmission =
            .ok ((proxyCommand stack state rest).1, (proxyCommand stack state rest).2, []) := rfl
        rw [entered]
        unfold proxyCommand
        split
        · rename_i action addr port
          have notSet : action ≠ "set".toList := by
            rintro rfl
            exact foreign (.proxySet addr port) trivial rfl
          rw [if_neg notSet]
        · rename_i action
          have notUnset : action ≠ "unset".toList := by
            rintro rfl
            exact foreign .proxyUnset trivial rfl
          rw [if_neg notUnset]
        · rfl
      · cases found : codePos name with
        | none =>
            refine ⟨.usage, by decide, fun state => ?_⟩
            simp only [gcoapCliCmd, if_neg notInfo, if_neg proxy, found]
        | some method =>
            refine ⟨.requestUsage, by decide, fun state =>
              gcoapCliCmd_unparsed stack room state found ?_ transmission⟩
            cases parsed : parseArguments method rest with
            | none => rfl
            | some arguments =>
                obtain ⟨confirm, addr, port, target, plain, rfl, _, rfl⟩ :=
                  render_of_parseArguments parsed
                rw [name_of_codePos found] at foreign
                refine absurd rfl (foreign (.request confirm addr port target) ?_)
                cases confirm with
                | true => trivial
                | false => exact plain.resolve_left (by decide)

theorem method_name_injective {first second : Method} (same : first.name = second.name) :
    first = second := by
  have found := codePos_name first
  rw [same, codePos_name] at found
  exact (Option.some.inj found).symm

/-- The texts of a target and its method determine it. -/
theorem Target.eq_of_texts {first second : Target} (method : first.method = second.method)
    (texts : first.path.toList ++ first.data.toList = second.path.toList ++ second.data.toList) :
    first = second := by
  cases first <;> cases second
  all_goals simp_all [Target.method, Target.path, Target.data]

theorem Target.length_texts {first second : Target} (method : first.method = second.method) :
    (first.path.toList ++ first.data.toList).length =
      (second.path.toList ++ second.data.toList).length := by
  cases first <;> cases second
  all_goals first | rfl | cases method

/-- The rendering of a request determines it. -/
theorem request_injective {confirm otherConfirm : Bool} {addr otherAddr port otherPort : List Char}
    {target other : Target}
    (same : (Command.request confirm addr port target).render =
      (Command.request otherConfirm otherAddr otherPort other).render) :
    Command.request confirm addr port target =
      .request otherConfirm otherAddr otherPort other := by
  simp only [Command.render, List.cons_append, List.append_assoc, List.cons.injEq] at same
  obtain ⟨name, texts⟩ := same
  have method := method_name_injective name
  have lengths := congrArg List.length texts
  have counts := Target.length_texts method
  simp only [List.length_append, List.length_cons] at lengths counts
  have option : confirm = otherConfirm := by
    cases confirm <;> cases otherConfirm
    all_goals simp_all
  subst option
  have rest := List.append_cancel_left texts
  simp only [List.cons.injEq] at rest
  obtain ⟨rfl, rfl, last⟩ := rest
  rw [Target.eq_of_texts method last]

/-- The first word separates the three kinds of commands. -/
theorem name_ne_keyword (method : Method) :
    method.name ≠ "info".toList ∧ method.name ≠ "proxy".toList := by
  cases method <;> decide

/-- A rendering belongs to one command. -/
theorem render_injective {first second : Command} (same : first.render = second.render) :
    first = second := by
  have heads := congrArg List.head? same
  have keywords : "info".toList ≠ "proxy".toList := by decide
  cases first with
  | info ignored =>
      cases second with
      | info other => exact congrArg Command.info (List.cons.inj same).2
      | proxySet addr port => exact absurd (Option.some.inj heads) keywords
      | proxyUnset => exact absurd (Option.some.inj heads) keywords
      | request confirm addr port target =>
          exact absurd (Option.some.inj heads).symm (name_ne_keyword target.method).1
  | proxySet addr port =>
      cases second with
      | info other => exact absurd (Option.some.inj heads).symm keywords
      | proxySet otherAddr otherPort =>
          simp only [Command.render, List.cons.injEq, true_and, and_true] at same
          rw [same.1, same.2]
      | proxyUnset => exact absurd (congrArg List.length same) (by simp [Command.render])
      | request confirm addr port target =>
          exact absurd (Option.some.inj heads).symm (name_ne_keyword target.method).2
  | proxyUnset =>
      cases second with
      | info other => exact absurd (Option.some.inj heads).symm keywords
      | proxySet addr port => exact absurd (congrArg List.length same) (by simp [Command.render])
      | proxyUnset => rfl
      | request confirm addr port target =>
          exact absurd (Option.some.inj heads).symm (name_ne_keyword target.method).2
  | request confirm addr port target =>
      cases second with
      | info other => exact absurd (Option.some.inj heads) (name_ne_keyword target.method).1
      | proxySet otherAddr otherPort =>
          exact absurd (Option.some.inj heads) (name_ne_keyword target.method).2
      | proxyUnset => exact absurd (Option.some.inj heads) (name_ne_keyword target.method).2
      | request otherConfirm otherAddr otherPort other => exact request_injective same

/-- Every argument list either is the rendering of exactly one command, which is executed, or
prints a usage message and changes nothing. -/
theorem gcoapCliCmd_grammar (stack : Stack) (room : PayloadRoom) (state : State)
    (arguments : List (List Char)) (transmission : Transmission) :
    (∃ command : Command, command.Plain ∧ command.render = arguments ∧
      (∀ other : Command, other.render = arguments → other = command) ∧
      gcoapCliCmd stack room state arguments transmission =
        command.execute stack room state transmission) ∨
    (∀ command : Command, command.Plain → command.render ≠ arguments) ∧
      ∃ result, result ∈ [Result.usage, .proxyUsage, .requestUsage] ∧
        gcoapCliCmd stack room state arguments transmission = .ok (state, result, []) := by
  by_cases rendered : ∃ command : Command, command.Plain ∧ command.render = arguments
  · obtain ⟨command, plain, rfl⟩ := rendered
    exact Or.inl ⟨command, plain, rfl, fun other same => render_injective same,
      gcoapCliCmd_render stack room state transmission plain⟩
  · have foreign (command : Command) (plain : command.Plain) : command.render ≠ arguments :=
      fun same => rendered ⟨command, plain, same⟩
    obtain ⟨result, usage, returns⟩ := gcoapCliCmd_unrendered stack room transmission foreign
    exact Or.inr ⟨foreign, result, usage, returns state⟩

end DataStreamPilot.Coap
