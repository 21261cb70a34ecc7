/-
This file proves that the subscriptions of the batching node are a table of topics.
A topic of exactly sixty-four characters leaves no room for its terminator.
-/

import DataStreamPilot.Construction.Mqtt.Subscriptions

namespace DataStreamPilot.Mqtt

open Library

/-- The name and the id of each slot in use. A refused topic has the id zero. -/
abbrev Table := Fin numOfSubs → Option (List Char × UInt16)

namespace Table

def emptySlot (table : Table) : Option (Fin numOfSubs) :=
  (List.finRange numOfSubs).find? fun slot => (table slot).all fun entry => entry.2 = 0

def namedSlot (table : Table) (topic : List Char) : Option (Fin numOfSubs) :=
  (List.finRange numOfSubs).find? fun slot => (table slot).any fun entry => entry.1 = topic

/-- A subscription takes the first slot without an id. -/
def subscribe (table : Table) (arguments : List CharArray.CString)
    (acknowledged : Option TopicId) : Table × Result :=
  match arguments with
  | [] => (table, .usage)
  | topic :: _ =>
      if topicMaxlen < topic.val.length then (table, .topicTooLong)
      else
        match table.emptySlot with
        | none => (table, .noMemory)
        | some slot =>
            (Function.update table slot (some (topic.val, answeredId acknowledged)),
              if acknowledged.isSome then .subscribed else .unableToSubscribe)

/-- The end of a subscription frees the first slot with its name. -/
def unsubscribe (table : Table) (arguments : List CharArray.CString) (accepted : Bool) :
    Table × Result :=
  match arguments with
  | [] => (table, .usage)
  | topic :: _ =>
      match table.namedSlot topic.val with
      | none => (table, .noSubscription)
      | some slot =>
          if accepted then (Function.update table slot none, .unsubscribed)
          else (table, .unsubscriptionFailed)

def step (table : Table) : Event → Table × List Result
  | .sub arguments acknowledged =>
      ((table.subscribe arguments acknowledged).1, [(table.subscribe arguments acknowledged).2])
  | .unsub arguments accepted =>
      ((table.unsubscribe arguments accepted).1, [(table.unsubscribe arguments accepted).2])

end Table

/-- The table as a machine. -/
def topicTable : Machine Table Event Result := ⟨Table.step⟩

/-- The table that the arrays show. -/
def State.table (state : State) : Table := fun slot =>
  if (state.subscriptions slot).named then
    some (state.topicOf slot, (state.subscriptions slot).id)
  else none

/-- Each name ends in its own row, and a slot without a name has no id. -/
structure State.Sound (state : State) : Prop where
  unnamed : ∀ slot, (state.subscriptions slot).named = false → (state.subscriptions slot).id = 0
  terminated : ∀ slot, (state.subscriptions slot).named = true →
    ∃ stop, rowOf slot ≤ stop ∧ stop < rowOf slot + topicMaxlen ∧
      state.topics stop = CharArray.terminator

theorem start_sound : start.Sound where
  unnamed _ _ := rfl
  terminated slot named := by cases named

/-- The table finds the slot that the array finds. -/
theorem State.Sound.emptySlot_table {state : State} (sound : state.Sound) :
    state.table.emptySlot = state.emptySlot := by
  rw [Table.emptySlot, State.emptySlot]
  congr 1
  funext slot
  rw [State.table]
  cases named : (state.subscriptions slot).named with
  | true => rfl
  | false =>
      rw [sound.unnamed slot named]
      rfl

theorem State.namedSlot_table (state : State) (topic : List Char) :
    state.table.namedSlot topic = state.namedSlot topic := by
  rw [Table.namedSlot, State.namedSlot]
  congr 1
  funext slot
  rw [State.table]
  cases (state.subscriptions slot).named with
  | true => rfl
  | false => rfl

/-- Rows do not overlap. -/
theorem rowOf_disjoint {slot other : Fin numOfSubs} (distinct : other ≠ slot) :
    rowOf other + topicMaxlen ≤ rowOf slot ∨ rowOf slot + topicMaxlen ≤ rowOf other := by
  rcases Nat.lt_or_gt_of_ne (Fin.val_ne_of_ne distinct) with before | behind
  · exact Or.inl (Nat.mul_le_mul_left topicMaxlen before)
  · exact Or.inr (Nat.mul_le_mul_left topicMaxlen behind)

theorem rowOf_room (slot : Fin numOfSubs) :
    rowOf slot + topicMaxlen ≤ numOfSubs * topicMaxlen := by
  rw [Nat.mul_comm numOfSubs]
  exact Nat.mul_le_mul_left topicMaxlen slot.isLt

/-- The arrays after a text has been copied into a slot. -/
def State.store (state : State) (slot : Fin numOfSubs) (text : List Char) (id : UInt16) :
    State where
  topics := CharArray.copy state.topics (rowOf slot) text
  subscriptions := Function.update state.subscriptions slot ⟨true, id⟩

/-- The arrays after a slot has been cleared. -/
def State.clear (state : State) (slot : Fin numOfSubs) : State where
  topics := state.topics
  subscriptions := Function.update state.subscriptions slot ⟨false, 0⟩

section Store

variable {state : State} {slot other : Fin numOfSubs} {text : List Char}

theorem subscriptions_store_same (state : State) (slot : Fin numOfSubs) (text : List Char)
    (id : UInt16) : (state.store slot text id).subscriptions slot = ⟨true, id⟩ :=
  Function.update_self _ _ _

theorem subscriptions_store_other (distinct : other ≠ slot) (id : UInt16) :
    (state.store slot text id).subscriptions other = state.subscriptions other :=
  Function.update_of_ne distinct _ _

theorem subscriptions_clear_same (state : State) (slot : Fin numOfSubs) :
    (state.clear slot).subscriptions slot = ⟨false, 0⟩ :=
  Function.update_self _ _ _

theorem subscriptions_clear_other (distinct : other ≠ slot) :
    (state.clear slot).subscriptions other = state.subscriptions other :=
  Function.update_of_ne distinct _ _

/-- A slot shows the text that it was given when the array has room for it. -/
theorem topicOf_store (solid : CharArray.terminator ∉ text)
    (room : rowOf slot + text.length < numOfSubs * topicMaxlen) (id : UInt16) :
    (state.store slot text id).topicOf slot = text :=
  CharArray.textAt_copy _ _ _ _ solid (by omega)

/-- A name that ends in its own row stays when the copied text does not reach this row. -/
theorem State.Sound.topicOf_store_of_apart (sound : state.Sound)
    (named : (state.subscriptions other).named = true)
    (apart : rowOf other + topicMaxlen ≤ rowOf slot ∨ rowOf slot + text.length < rowOf other)
    (id : UInt16) : (state.store slot text id).topicOf other = state.topicOf other := by
  obtain ⟨stop, above, below, ends⟩ := sound.terminated other named
  have room := rowOf_room other
  apply CharArray.textAt_congr above (by omega) ends
  intro index lower upper
  rcases apart with before | behind
  · exact CharArray.copy_before _ _ (by omega)
  · exact CharArray.copy_after _ _ (by omega)

/-- The table after a copy that disturbs no other name. -/
theorem table_store (solid : CharArray.terminator ∉ text)
    (room : rowOf slot + text.length < numOfSubs * topicMaxlen) (id : UInt16)
    (undisturbed : ∀ other, other ≠ slot → (state.subscriptions other).named = true →
      (state.store slot text id).topicOf other = state.topicOf other) :
    (state.store slot text id).table = Function.update state.table slot (some (text, id)) := by
  funext other
  by_cases same : other = slot
  · subst same
    rw [Function.update_self, State.table, subscriptions_store_same, if_pos rfl,
      topicOf_store solid room]
  · rw [Function.update_of_ne same, State.table, State.table, subscriptions_store_other same]
    by_cases named : (state.subscriptions other).named = true
    · rw [if_pos named, if_pos named, undisturbed other same named]
    · rw [if_neg named, if_neg named]

/-- A text with room for its terminator in its row disturbs no other name. -/
theorem State.Sound.table_store_of_short (sound : state.Sound)
    (solid : CharArray.terminator ∉ text) (short : text.length < topicMaxlen) (id : UInt16) :
    (state.store slot text id).table = Function.update state.table slot (some (text, id)) := by
  have room := rowOf_room slot
  apply table_store solid (by omega)
  intro other distinct named
  apply sound.topicOf_store_of_apart named
  rcases rowOf_disjoint distinct with before | behind
  · exact Or.inl before
  · exact Or.inr (by omega)

theorem State.Sound.store (sound : state.Sound) (short : text.length < topicMaxlen)
    (id : UInt16) : (state.store slot text id).Sound where
  unnamed other hidden := by
    by_cases same : other = slot
    · subst same
      rw [subscriptions_store_same] at hidden
      cases hidden
    · rw [subscriptions_store_other same] at hidden ⊢
      exact sound.unnamed other hidden
  terminated other named := by
    by_cases same : other = slot
    · subst same
      exact ⟨rowOf other + text.length, Nat.le_add_right _ _, Nat.add_lt_add_left short _,
        CharArray.copy_terminator _ _ _⟩
    · rw [subscriptions_store_other same] at named
      obtain ⟨stop, above, below, ends⟩ := sound.terminated other named
      refine ⟨stop, above, below, Eq.trans ?_ ends⟩
      rcases rowOf_disjoint same with before | behind
      · exact CharArray.copy_before _ _ (by omega)
      · exact CharArray.copy_after _ _ (by omega)

theorem table_clear (state : State) (slot : Fin numOfSubs) :
    (state.clear slot).table = Function.update state.table slot none := by
  funext other
  by_cases same : other = slot
  · subst same
    rw [Function.update_self, State.table, subscriptions_clear_same]
    rfl
  · rw [Function.update_of_ne same, State.table, State.table, subscriptions_clear_other same]
    rfl

theorem State.Sound.clear (sound : state.Sound) (slot : Fin numOfSubs) :
    (state.clear slot).Sound where
  unnamed other hidden := by
    by_cases same : other = slot
    · subst same
      rw [subscriptions_clear_same]
    · rw [subscriptions_clear_other same] at hidden ⊢
      exact sound.unnamed other hidden
  terminated other named := by
    by_cases same : other = slot
    · subst same
      rw [subscriptions_clear_same] at named
      cases named
    · rw [subscriptions_clear_other same] at named
      exact sound.terminated other named

end Store

/-- The text to subscribe to is not of the one length that the check lets through without room
for its terminator. -/
def Event.Fits : Event → Prop
  | .sub arguments _ => ∀ topic ∈ arguments.head?, topic.val.length ≠ topicMaxlen
  | .unsub _ _ => True

instance (event : Event) : Decidable event.Fits :=
  match event with
  | .sub arguments _ => Option.decidableForallMem arguments.head?
  | .unsub _ _ => instDecidableTrue

/-- A topic with room in the array goes into the first slot without an id. -/
theorem cmdSub1_store {state : State} {slot : Fin numOfSubs} {topic : CharArray.CString}
    (found : state.emptySlot = some slot) (accepted : topic.val.length ≤ topicMaxlen)
    (room : rowOf slot + topic.val.length < numOfSubs * topicMaxlen)
    (rest : List CharArray.CString) (acknowledged : Option TopicId) :
    cmdSub1 state (topic :: rest) acknowledged =
      .ok (state.store slot topic.val (answeredId acknowledged),
        if acknowledged.isSome then .subscribed else .unableToSubscribe) := by
  simp only [cmdSub1, if_neg (Nat.not_lt.mpr accepted), found, strcpy, if_pos room]
  rfl

theorem Table.subscribe_update {table : Table} {slot : Fin numOfSubs} {topic : CharArray.CString}
    (found : table.emptySlot = some slot) (accepted : topic.val.length ≤ topicMaxlen)
    (rest : List CharArray.CString) (acknowledged : Option TopicId) :
    table.subscribe (topic :: rest) acknowledged =
      (Function.update table slot (some (topic.val, answeredId acknowledged)),
        if acknowledged.isSome then .subscribed else .unableToSubscribe) := by
  simp only [Table.subscribe, if_neg (Nat.not_lt.mpr accepted), found]

/-- A subscription to a topic that fits is one of the table. -/
theorem State.Sound.cmdSub1_table {state : State} (sound : state.Sound)
    (arguments : List CharArray.CString) (acknowledged : Option TopicId)
    (fits : ∀ topic ∈ arguments.head?, topic.val.length ≠ topicMaxlen) :
    ∃ next output, cmdSub1 state arguments acknowledged = .ok (next, output) ∧ next.Sound ∧
      state.table.subscribe arguments acknowledged = (next.table, output) := by
  cases arguments with
  | nil => exact ⟨state, .usage, rfl, sound, rfl⟩
  | cons topic rest =>
      have other : topic.val.length ≠ topicMaxlen := fits topic rfl
      by_cases long : topicMaxlen < topic.val.length
      · exact ⟨state, .topicTooLong, if_pos long, sound, if_pos long⟩
      · have short : topic.val.length < topicMaxlen :=
          Nat.lt_of_le_of_ne (Nat.not_lt.mp long) other
        cases found : state.emptySlot with
        | none =>
            refine ⟨state, .noMemory, ?_, sound, ?_⟩
            · simp only [cmdSub1, if_neg long, found]
            · simp only [Table.subscribe, if_neg long, sound.emptySlot_table, found]
        | some slot =>
            have room := rowOf_room slot
            refine ⟨_, _, cmdSub1_store found short.le (by omega) rest acknowledged,
              sound.store short _, ?_⟩
            rw [sound.table_store_of_short topic.property short,
              Table.subscribe_update (sound.emptySlot_table.trans found) short.le]

/-- The end of a subscription is one of the table. -/
theorem State.Sound.cmdUnsub_table {state : State} (sound : state.Sound)
    (arguments : List CharArray.CString) (accepted : Bool) :
    (cmdUnsub state arguments accepted).1.Sound ∧
      state.table.unsubscribe arguments accepted =
        ((cmdUnsub state arguments accepted).1.table, (cmdUnsub state arguments accepted).2) := by
  cases arguments with
  | nil => exact ⟨sound, rfl⟩
  | cons topic rest =>
      have same := state.namedSlot_table topic.val
      cases found : state.namedSlot topic.val with
      | none =>
          have kept : cmdUnsub state (topic :: rest) accepted = (state, .noSubscription) := by
            simp only [cmdUnsub, found]
          rw [kept]
          refine ⟨sound, ?_⟩
          simp only [Table.unsubscribe, same, found]
      | some slot =>
          cases accepted with
          | false =>
              have kept : cmdUnsub state (topic :: rest) false =
                  (state, .unsubscriptionFailed) := by
                simp only [cmdUnsub, found, Bool.false_eq_true, if_false]
              rw [kept]
              refine ⟨sound, ?_⟩
              simp only [Table.unsubscribe, same, found, Bool.false_eq_true, if_false]
          | true =>
              have cleared : cmdUnsub state (topic :: rest) true =
                  (state.clear slot, .unsubscribed) := by
                simp only [cmdUnsub, found, if_true]
                rfl
              rw [cleared]
              refine ⟨sound.clear slot, ?_⟩
              rw [table_clear]
              simp only [Table.unsubscribe, same, found, if_true]

/-- One command is one of the table. -/
theorem State.Sound.step_table {state : State} {event : Event} (fits : event.Fits)
    (sound : state.Sound) :
    ∃ next output, client.step state event = .ok (next, output) ∧ next.Sound ∧
      topicTable.step state.table event = (next.table, [output]) := by
  cases event with
  | sub arguments acknowledged =>
      obtain ⟨next, output, runs, soundNext, same⟩ :=
        sound.cmdSub1_table arguments acknowledged fits
      refine ⟨next, output, runs, soundNext, ?_⟩
      show ((state.table.subscribe arguments acknowledged).1,
        [(state.table.subscribe arguments acknowledged).2]) = _
      rw [same]
  | unsub arguments accepted =>
      obtain ⟨soundNext, same⟩ := sound.cmdUnsub_table arguments accepted
      refine ⟨(cmdUnsub state arguments accepted).1, (cmdUnsub state arguments accepted).2, rfl,
        soundNext, ?_⟩
      show ((state.table.unsubscribe arguments accepted).1,
        [(state.table.unsubscribe arguments accepted).2]) =
          ((cmdUnsub state arguments accepted).1.table, [(cmdUnsub state arguments accepted).2])
      rw [same]

/-- The table is empty at the start. -/
def emptyTable : Table := fun _ => none

/-- Every run without a topic of exactly sixty-four characters is a run of the table. -/
theorem run_topicTable {events : List Event} (fits : ∀ event ∈ events, event.Fits) :
    ∃ state results, client.run start events = .ok (state, results) ∧
      topicTable.run emptyTable events = (state.table, results) := by
  obtain ⟨state, results, runs, _, same⟩ :=
    FallibleMachine.run_refines (fun _ _ allowed sound => sound.step_table allowed) fits start_sound
  exact ⟨state, results, runs, same⟩

/-- The node itself gives up an earlier subscription to its one topic and subscribes again. -/
theorem run_topicTable_node :
    ∃ state results,
      client.run start [.unsub [⟨['d'], by decide⟩] true,
        .sub [⟨['d'], by decide⟩] (some ⟨1, by decide⟩)] = .ok (state, results) ∧
      topicTable.run emptyTable [.unsub [⟨['d'], by decide⟩] true,
        .sub [⟨['d'], by decide⟩] (some ⟨1, by decide⟩)] = (state.table, results) :=
  run_topicTable (by decide)

/-- A topic of sixty-four characters fits into the array before another row. -/
theorem rowOf_long {slot next : Fin numOfSubs} (behind : next.val = slot.val + 1)
    {text : List Char} (long : text.length = topicMaxlen) :
    rowOf slot + text.length < numOfSubs * topicMaxlen := by
  have row : rowOf next = rowOf slot + text.length := by
    rw [rowOf, rowOf, behind, long]
    rfl
  have room := rowOf_room next
  have positive : 0 < topicMaxlen := by decide
  omega

/-- A topic of sixty-four characters ends at the first position of the next row. -/
theorem State.Sound.table_store_of_long {state : State} (sound : state.Sound)
    {slot next : Fin numOfSubs} (behind : next.val = slot.val + 1) {text : List Char}
    (solid : CharArray.terminator ∉ text) (long : text.length = topicMaxlen) (id : UInt16) :
    (state.store slot text id).table =
      Function.update (Function.update state.table slot (some (text, id))) next
        ((state.table next).map fun entry => ([], entry.2)) := by
  have row : rowOf next = rowOf slot + text.length := by
    rw [rowOf, rowOf, behind, long]
    rfl
  have distinct : next ≠ slot := fun same => by
    rw [same] at behind
    omega
  have positive : 0 < topicMaxlen := by decide
  funext other
  by_cases last : other = next
  · subst last
    have erased : (state.store slot text id).topicOf other = [] := by
      apply CharArray.textAt_of_terminator
      rw [row]
      exact CharArray.copy_terminator _ _ _
    rw [Function.update_self, State.table, State.table, subscriptions_store_other distinct, erased]
    cases (state.subscriptions other).named with
    | true => rfl
    | false => rfl
  · rw [Function.update_of_ne last]
    by_cases same : other = slot
    · subst same
      rw [Function.update_self, State.table, subscriptions_store_same, if_pos rfl,
        topicOf_store solid (rowOf_long behind long)]
    · rw [Function.update_of_ne same, State.table, State.table, subscriptions_store_other same]
      by_cases named : (state.subscriptions other).named = true
      · have apart : rowOf other + topicMaxlen ≤ rowOf slot ∨
            rowOf slot + text.length < rowOf other := by
          rcases rowOf_disjoint same with before | after
          · exact Or.inl before
          · rcases rowOf_disjoint last with before | further
            · omega
            · exact Or.inr (by omega)
        rw [if_pos named, if_pos named, sound.topicOf_store_of_apart named apart]
      · rw [if_neg named, if_neg named]

/-- A topic of sixty-four characters for the last slot does not fit into the array. -/
theorem cmdSub1_outOfBounds {state : State} {slot : Fin numOfSubs} {topic : CharArray.CString}
    (found : state.emptySlot = some slot) (long : topic.val.length = topicMaxlen)
    (last : slot.val + 1 = numOfSubs) (rest : List CharArray.CString)
    (acknowledged : Option TopicId) :
    cmdSub1 state (topic :: rest) acknowledged = .error .outOfBounds := by
  have full : ¬ rowOf slot + topic.val.length < numOfSubs * topicMaxlen := by
    have bottom : rowOf slot + topicMaxlen = numOfSubs * topicMaxlen := by
      rw [Nat.mul_comm numOfSubs]
      exact congrArg (topicMaxlen * ·) last
    rw [long, bottom]
    exact lt_irrefl _
  simp only [cmdSub1, if_neg (Nat.not_lt.mpr long.le), found, strcpy, if_neg full]
  rfl

/-- The next slot keeps its name exactly when it has none to lose. -/
theorem erased_eq_iff (table : Table) (next : Fin numOfSubs) :
    ((table next).map fun entry => ([], entry.2)) = table next ↔
      ∀ entry ∈ table next, entry.1 = [] := by
  cases table next with
  | none => exact iff_of_true rfl fun _ member => absurd member (Option.not_mem_none _)
  | some entry =>
      rw [Option.map_some, Option.some.injEq, Prod.ext_iff]
      constructor
      · rintro ⟨empty, _⟩ other member
        rw [← Option.some.inj member]
        exact empty.symm
      · exact fun empty => ⟨(empty entry rfl).symm, rfl⟩

/-- The table stores the topic like the array exactly when the next slot has no name to lose. -/
theorem State.Sound.subscribe_long_iff {state : State} (sound : state.Sound)
    {slot next : Fin numOfSubs} (found : state.emptySlot = some slot)
    (behind : next.val = slot.val + 1) {topic : CharArray.CString}
    (long : topic.val.length = topicMaxlen) (rest : List CharArray.CString)
    (acknowledged : Option TopicId) :
    state.table.subscribe (topic :: rest) acknowledged =
      ((state.store slot topic.val (answeredId acknowledged)).table,
        if acknowledged.isSome then .subscribed else .unableToSubscribe) ↔
    ∀ entry ∈ state.table next, entry.1 = [] := by
  have distinct : next ≠ slot := fun same => by
    rw [same] at behind
    omega
  rw [Table.subscribe_update (sound.emptySlot_table.trans found) long.le, Prod.mk.injEq,
    and_iff_left rfl, sound.table_store_of_long behind topic.property long, eq_comm,
    Function.update_eq_self_iff, Function.update_of_ne distinct]
  exact erased_eq_iff state.table next

/-- A run of topics that fit reaches sound arrays. -/
theorem run_sound {events : List Event} (fits : ∀ event ∈ events, event.Fits) {state : State}
    {results : List Result} (runs : client.run start events = .ok (state, results)) :
    state.Sound := by
  apply FallibleMachine.run_preserves _ fits start_sound runs
  intro _ _ _ _ allowed sound steps
  obtain ⟨_, _, succeeds, later, _⟩ := sound.step_table allowed
  obtain ⟨rfl, rfl⟩ := Prod.mk.inj (Except.ok.inj (succeeds.symm.trans steps))
  exact later

/-- A topic of sixty-four characters is stored like any other exactly when no slot is left, or when
the next slot exists and has no name to lose. -/
theorem State.Sound.stores_long_iff {state : State} (sound : state.Sound)
    {topic : CharArray.CString} (long : topic.val.length = topicMaxlen)
    (rest : List CharArray.CString) (acknowledged : Option TopicId) :
    (∃ next result, cmdSub1 state (topic :: rest) acknowledged = .ok (next, result) ∧
      state.table.subscribe (topic :: rest) acknowledged = (next.table, result)) ↔
    ∀ slot ∈ state.table.emptySlot, ∃ next : Fin numOfSubs, next.val = slot.val + 1 ∧
      ∀ entry ∈ state.table next, entry.1 = [] := by
  rw [sound.emptySlot_table]
  cases found : state.emptySlot with
  | none =>
      refine iff_of_true ⟨state, .noMemory, ?_, ?_⟩ fun _ member =>
        absurd member (Option.not_mem_none _)
      · simp only [cmdSub1, if_neg (Nat.not_lt.mpr long.le), found]
      · simp only [Table.subscribe, if_neg (Nat.not_lt.mpr long.le), sound.emptySlot_table, found]
  | some slot =>
      constructor
      · rintro ⟨after, result, stores, same⟩ other member
        obtain rfl := Option.some.inj member
        by_cases last : slot.val + 1 = numOfSubs
        · rw [cmdSub1_outOfBounds found long last] at stores
          cases stores
        · have inside : slot.val + 1 < numOfSubs := Nat.lt_of_le_of_ne slot.isLt last
          have behind : (⟨slot.val + 1, inside⟩ : Fin numOfSubs).val = slot.val + 1 := rfl
          rw [cmdSub1_store found long.le (rowOf_long behind long)] at stores
          obtain ⟨rfl, rfl⟩ := Prod.mk.inj (Except.ok.inj stores)
          exact ⟨_, behind, (sound.subscribe_long_iff found behind long rest acknowledged).mp same⟩
      · intro free
        obtain ⟨next, behind, empty⟩ := free slot rfl
        exact ⟨_, _, cmdSub1_store found long.le (rowOf_long behind long) rest acknowledged,
          (sound.subscribe_long_iff found behind long rest acknowledged).mpr empty⟩

/-- After a run of topics that fit, a topic of sixty-four characters is stored like any other
exactly when no slot is left, or when the next slot exists and has no name to lose. Behind the last
slot the text leaves the array, and behind any other slot it erases the next name. -/
theorem run_longTopic {events : List Event} (fits : ∀ event ∈ events, event.Fits) {state : State}
    {results : List Result} (runs : client.run start events = .ok (state, results))
    {topic : CharArray.CString} (long : topic.val.length = topicMaxlen)
    (rest : List CharArray.CString) (acknowledged : Option TopicId) :
    ((∃ next result, cmdSub1 state (topic :: rest) acknowledged = .ok (next, result) ∧
      state.table.subscribe (topic :: rest) acknowledged = (next.table, result)) ↔
    ∀ slot ∈ state.table.emptySlot, ∃ next : Fin numOfSubs, next.val = slot.val + 1 ∧
      ∀ entry ∈ state.table next, entry.1 = []) ∧
    ∀ slot ∈ state.table.emptySlot,
      (slot.val + 1 = numOfSubs →
        cmdSub1 state (topic :: rest) acknowledged = .error .outOfBounds) ∧
      ∀ next : Fin numOfSubs, next.val = slot.val + 1 → ∃ after result,
        cmdSub1 state (topic :: rest) acknowledged = .ok (after, result) ∧
        after.table next = (state.table next).map fun entry => ([], entry.2) := by
  have sound := run_sound fits runs
  refine ⟨sound.stores_long_iff long rest acknowledged, fun slot member => ?_⟩
  have found : state.emptySlot = some slot := by
    rw [← sound.emptySlot_table]
    exact member
  refine ⟨fun last => cmdSub1_outOfBounds found long last rest acknowledged,
    fun next behind => ⟨_, _, cmdSub1_store found long.le (rowOf_long behind long) rest
      acknowledged, ?_⟩⟩
  rw [sound.table_store_of_long behind topic.property long, Function.update_self]

/-- After a subscription to `d` and one to `e`, and the end of the first, a topic of sixty-four
characters takes the name of the second. -/
theorem run_longTopic_erased :
    ∃ after result,
      cmdSub1 (((start.store 0 ['d'] 1).store 1 ['e'] 2).clear 0)
        [⟨List.replicate 64 'x', by decide⟩] (some ⟨3, by decide⟩) = .ok (after, result) ∧
      after.table 1 = some ([], 2) := by
  have runs : client.run start [.sub [⟨['d'], by decide⟩] (some ⟨1, by decide⟩),
      .sub [⟨['e'], by decide⟩] (some ⟨2, by decide⟩), .unsub [⟨['d'], by decide⟩] true] =
      .ok (((start.store 0 ['d'] 1).store 1 ['e'] 2).clear 0,
        [.subscribed, .subscribed, .unsubscribed]) := by
    rfl
  obtain ⟨_, erases⟩ := @run_longTopic _ (by decide) _ _ runs
    ⟨List.replicate 64 'x', by decide⟩ (by decide) [] (some ⟨3, by decide⟩)
  obtain ⟨_, takes⟩ := erases 0 (by decide)
  obtain ⟨after, result, stores, name⟩ := takes 1 rfl
  exact ⟨after, result, stores, name⟩

end DataStreamPilot.Mqtt
