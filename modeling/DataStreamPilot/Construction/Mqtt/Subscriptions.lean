/-
This file models the subscriptions of the batching node.
The answer of the broker is an input of each command.
-/

import DataStreamPilot.Library.CharArray
import DataStreamPilot.Library.FallibleMachine

namespace DataStreamPilot.Mqtt

open Library

abbrev numOfSubs : Nat := 16

abbrev topicMaxlen : Nat := 64

/-- The fields of `emcute_sub_t` that the commands read. A name is the row of its own slot, and
the callback is always `on_pub`. -/
structure Subscription where
  named : Bool
  id : UInt16
  deriving DecidableEq

/-- The static arrays. The rows of `topics` stand one after the other. -/
structure State where
  topics : Nat → Char
  subscriptions : Fin numOfSubs → Subscription

/-- The arrays after `initizlize_mqtt_client` has cleared the subscriptions. -/
def start : State where
  topics _ := CharArray.terminator
  subscriptions _ := ⟨false, 0⟩

/-- A text that does not fit into the array has no defined effect. -/
inductive Undefined where
  | outOfBounds
  deriving DecidableEq, Repr

/-- How a command ends. -/
inductive Result where
  | usage
  | topicTooLong
  | noMemory
  | unableToSubscribe
  | subscribed
  | unsubscribed
  | unsubscriptionFailed
  | noSubscription
  deriving DecidableEq, Repr

/-- The return value of a command. A refused `emcute_unsub` is not an error. -/
def Result.exitCode : Result → Nat
  | .subscribed => 0
  | .unsubscribed => 0
  | .unsubscriptionFailed => 0
  | _ => 1

/-- The position of a row in the array. -/
def rowOf (slot : Fin numOfSubs) : Nat := topicMaxlen * slot.val

/-- The text of a row, which may go on in the next row. -/
def State.topicOf (state : State) (slot : Fin numOfSubs) : List Char :=
  CharArray.textAt state.topics (rowOf slot) (numOfSubs * topicMaxlen - rowOf slot)

/-- `strcpy(topics[i], text)` -/
def strcpy (topics : Nat → Char) (slot : Fin numOfSubs) (text : List Char) :
    Except Undefined (Nat → Char) :=
  if rowOf slot + text.length < numOfSubs * topicMaxlen then
    .ok (CharArray.copy topics (rowOf slot) text)
  else .error .outOfBounds

/-- The first slot whose topic has no id. -/
def State.emptySlot (state : State) : Option (Fin numOfSubs) :=
  (List.finRange numOfSubs).find? fun slot => (state.subscriptions slot).id = 0

/-- The broker acknowledges a topic with an id that is not zero. -/
abbrev TopicId := { id : UInt16 // id ≠ 0 }

/-- The id of a topic after the answer of the broker. A refused topic has none. -/
def answeredId (acknowledged : Option TopicId) : UInt16 :=
  (acknowledged.map Subtype.val).getD 0

/-- The command `sub` with the arguments after its own name. A refused topic keeps its row and
its name. -/
def cmdSub1 (state : State) (arguments : List CharArray.CString) (acknowledged : Option TopicId) :
    Except Undefined (State × Result) :=
  match arguments with
  | [] => .ok (state, .usage)
  | topic :: _ =>
      if topicMaxlen < topic.val.length then .ok (state, .topicTooLong)
      else
        match state.emptySlot with
        | none => .ok (state, .noMemory)
        | some slot => do
            let topics ← strcpy state.topics slot topic.val
            let subscriptions :=
              Function.update state.subscriptions slot ⟨true, answeredId acknowledged⟩
            return (⟨topics, subscriptions⟩,
              if acknowledged.isSome then .subscribed else .unableToSubscribe)

/-- The first slot with a name that equals the text. -/
def State.namedSlot (state : State) (topic : List Char) : Option (Fin numOfSubs) :=
  (List.finRange numOfSubs).find? fun slot =>
    (state.subscriptions slot).named && decide (state.topicOf slot = topic)

/-- The command `unsub` with the arguments after its own name. It clears the slot and keeps the
row. -/
def cmdUnsub (state : State) (arguments : List CharArray.CString) (accepted : Bool) :
    State × Result :=
  match arguments with
  | [] => (state, .usage)
  | topic :: _ =>
      match state.namedSlot topic.val with
      | none => (state, .noSubscription)
      | some slot =>
          if accepted then
            ({ state with
              subscriptions := Function.update state.subscriptions slot ⟨false, 0⟩ },
              .unsubscribed)
          else (state, .unsubscriptionFailed)

/-- A command with the answer of the broker. -/
inductive Event where
  | sub (arguments : List CharArray.CString) (acknowledged : Option TopicId)
  | unsub (arguments : List CharArray.CString) (accepted : Bool)

/-- One command. -/
def step (state : State) : Event → Except Undefined (State × Result)
  | .sub arguments acknowledged => cmdSub1 state arguments acknowledged
  | .unsub arguments accepted => .ok (cmdUnsub state arguments accepted)

/-- The commands as a machine. -/
def client : FallibleMachine Undefined State Event Result := ⟨step⟩

end DataStreamPilot.Mqtt
