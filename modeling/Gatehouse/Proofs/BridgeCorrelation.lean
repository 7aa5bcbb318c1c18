import Mathlib
import Gatehouse.Worker.Bridge
import Gatehouse.Worker.JsonRecord

/-!
# Replies reach the connections they answer

The bridge numbers the client connections handed to its worker and keeps the waiting ones in a
table; answers come back as frames that carry a number.  Over every run, that is, any
interleaving of clients handed over, workers coming and going, answer frames and bytes from the
worker, sweeps and the cleanups of failed hand-overs, five things hold (`RepliesCorrelate`):

1. the table holds each number at most once;
2. with no worker connected the table is empty;
3. a number handed out is never handed out again;
4. bytes are written to a client only as the payload of an answer frame that carried the number
   the client was handed over under;
5. each client handed in either waits in the table under its number with nothing yet done to
   it, or has left the table for good, dropped, shut down unanswered, or answered once and then
   shut down: no client is answered twice, written to after its shutdown, or shut down twice.

They hold when each client is handed in once and fewer than 2^64 - 1 are, so that the numbers
do not wrap.

Beside the bridge the proofs keep a ledger of the run: the clients handed in, those handed over
to the table with their numbers, and the answer frames that reached the bridge.  `Correlated` is
the invariant of a state and its ledger.  Every event keeps it (`Correlated.step`): an event
that takes entries out of the table keeps it by `Correlated.close`, one argument for answers,
sweeps, cleanups and disconnections.  So does every run (`Correlated.run`).

Main statement: `run_correlates_replies`.
-/

namespace Gatehouse.Worker

/-- The client an event hands in, if it hands one in. -/
def BridgeEvent.clients : BridgeEvent → List Nat
  | .submit client _ _ _ => [client]
  | _ => []

namespace Bridge

/-! ## The ledger of a run -/

/-- The client and number that an event puts into the table. -/
def handedOverBy (b : Bridge) : BridgeEvent → List (Nat × UInt64)
  | .submit client _ _ _ => if b.connected then [(client, b.nextId)] else []
  | _ => []

/-- The answer frames that an event brings to the bridge. -/
def answersBy (b : Bridge) : BridgeEvent → List Frame
  | .deliver frame => [frame]
  | .receive bytes =>
    match (b.incoming.push bytes).2 with
    | .ok frames => frames
    | .error _ => []
  | _ => []

/-- The clients a run puts into the table, with their numbers, in order. -/
def handedOver (b : Bridge) : List BridgeEvent → List (Nat × UInt64)
  | [] => []
  | event :: events => b.handedOverBy event ++ (b.step event).handedOver events

/-- The answer frames that reach the bridge in a run, in order. -/
def answered (b : Bridge) : List BridgeEvent → List Frame
  | [] => []
  | event :: events => b.answersBy event ++ (b.step event).answered events

/-- What happened to one client, in order. -/
def history (b : Bridge) (client : Nat) : List ClientEvent :=
  b.log.filterMap fun entry => if entry.1 = client then some entry.2 else none

/-- Whether a client waits in the table. -/
def Waits (b : Bridge) (client : Nat) : Prop :=
  ∃ entry ∈ b.pending, entry.2.client = client

end Bridge

/-- The histories of a client that has left the table: dropped, shut down unanswered, or
answered and then shut down. -/
inductive Settled : List ClientEvent → Prop
  | dropped : Settled [.dropped]
  | shutDown : Settled [.shutDown]
  | answered (bytes : List UInt8) : Settled [.wrote bytes, .shutDown]

/-- The five guarantees of reply correlation at the state that a run from `start` reaches. -/
structure RepliesCorrelate (start : Bridge) (events : List BridgeEvent) : Prop where
  numbers_distinct : ((start.run events).pending.map (·.1)).Nodup
  idle_empty : (start.run events).connected = false → (start.run events).pending = []
  numbers_fresh : ((start.handedOver events).map (·.2)).Nodup
  written_answers : ∀ client bytes,
    (client, ClientEvent.wrote bytes) ∈ (start.run events).log →
    ∃ id, (client, id) ∈ start.handedOver events ∧
      (⟨id, bytes⟩ : Frame) ∈ start.answered events
  clients_settle : ∀ client ∈ events.flatMap BridgeEvent.clients,
    (∃ entry ∈ (start.run events).pending, entry.2.client = client ∧
        (client, entry.1) ∈ start.handedOver events ∧
        (start.run events).history client = []) ∨
      (¬ (start.run events).Waits client ∧ Settled ((start.run events).history client))

namespace Bridge

/-! ## What the operations do to the table and the log -/

theorem shutAll_eq (b : Bridge) (entries : List (UInt64 × Waiting)) :
    b.shutAll entries =
      { b with log := b.log ++ entries.map fun entry => (entry.2.client, .shutDown) } := by
  induction entries generalizing b with
  | nil => simp [shutAll]
  | cons entry entries induction =>
    obtain ⟨id, waiting⟩ := entry
    have rest := induction (b.note waiting.client [.shutDown])
    unfold shutAll at rest ⊢
    rw [List.foldl_cons, rest]
    simp [note]

theorem find?_eq_none_iff {b : Bridge} {id : UInt64} :
    b.find? id = none ↔ ∀ entry ∈ b.pending, entry.1 ≠ id := by
  simp [find?, List.find?_eq_none]

theorem mem_of_find? {b : Bridge} {id : UInt64} {waiting : Waiting}
    (found : b.find? id = some waiting) : (id, waiting) ∈ b.pending := by
  obtain ⟨entry, first, rfl⟩ := Option.map_eq_some_iff.mp found
  have sameId : entry.1 = id := by
    simpa using List.find?_some first
  rw [← sameId]
  exact List.mem_of_find?_eq_some first

theorem filter_number_eq_singleton {b : Bridge} (distinct : (b.pending.map (·.1)).Nodup)
    {id : UInt64} {waiting : Waiting} (found : b.find? id = some waiting) :
    b.pending.filter (fun entry => !(entry.1 != id)) = [(id, waiting)] := by
  have member := mem_of_find? found
  generalize b.pending = entries at distinct member
  induction entries with
  | nil => cases member
  | cons entry entries induction =>
    rw [List.map_cons, List.nodup_cons] at distinct
    rcases List.mem_cons.mp member with rfl | later
    · have noLater : entries.filter (fun entry => !(entry.1 != id)) = [] := by
        rw [List.filter_eq_nil_iff]
        intro other inLater sameId
        have same : other.1 = id := by
          simpa using sameId
        exact distinct.1 (List.mem_map.mpr ⟨other, inLater, same⟩)
      simp [noLater]
    · have other : entry.1 ≠ id := fun same =>
        distinct.1 (same ▸ List.mem_map.mpr ⟨(id, waiting), later, rfl⟩)
      simp [other, induction distinct.2 later]

theorem submit_of_idle {b : Bridge} (idle : b.connected = false) (client now : Nat)
    (record : Gateway.Variables) (writable : Bool) :
    (b.submit client now record writable).1 = b.note client [.dropped] := by
  simp [submit, idle]

theorem submit_of_connected {b : Bridge} (live : b.connected = true)
    (free : b.find? b.nextId = none) (client now : Nat) (record : Gateway.Variables)
    (writable : Bool) :
    (b.submit client now record writable).1.pending =
      b.pending ++ [(b.nextId, ⟨client, now⟩)] ∧
    (b.submit client now record writable).1.nextId = b.nextId + 1 ∧
    (b.submit client now record writable).1.log = b.log ∧
    (b.submit client now record writable).1.connected = true := by
  unfold submit
  simp only [live, Bool.not_true, Bool.false_eq_true, if_false, free]
  split <;> simp

end Bridge

/-! ## The invariant -/

/-- The invariant of a bridge and the ledger of the run that reached it: the clients handed in
(`clients`, refused ones too), those put into the table with their numbers (`handed`), and the
answer frames that reached the bridge (`answers`). -/
structure Correlated (b : Bridge) (clients : List Nat) (handed : List (Nat × UInt64))
    (answers : List Frame) : Prop where
  ids_nodup : (b.pending.map (·.1)).Nodup
  clients_nodup : (b.pending.map (·.2.client)).Nodup
  idle_empty : b.connected = false → b.pending = []
  pending_handed : ∀ entry ∈ b.pending, (entry.2.client, entry.1) ∈ handed
  handed_clients : ∀ entry ∈ handed, entry.1 ∈ clients
  handed_numbers : handed.map (·.2.toNat) = (List.range handed.length).map (· + 1)
  next_number : b.nextId.toNat = handed.length + 1
  wrote_answer : ∀ client bytes, (client, ClientEvent.wrote bytes) ∈ b.log →
    ∃ id, (client, id) ∈ handed ∧ (⟨id, bytes⟩ : Frame) ∈ answers
  fresh_quiet : ∀ client, client ∉ clients → b.history client = []
  settled : ∀ client ∈ clients,
    (b.Waits client ∧ b.history client = []) ∨
      (¬ b.Waits client ∧ Settled (b.history client))

namespace Bridge

/-! ## Histories -/

theorem filterMap_events (client other : Nat) (events : List ClientEvent) :
    (events.map fun event => (client, event)).filterMap
        (fun entry => if entry.1 = other then some entry.2 else none) =
      if client = other then events else [] := by
  by_cases same : client = other <;> simp [same, List.filterMap_map]

theorem history_of_log {b b' : Bridge} {extra : List (Nat × ClientEvent)}
    (log : b'.log = b.log ++ extra) (client : Nat) :
    b'.history client =
      b.history client ++ extra.filterMap fun entry =>
        if entry.1 = client then some entry.2 else none := by
  rw [history, log, List.filterMap_append, history]

theorem history_note (b : Bridge) (client : Nat) (events : List ClientEvent) (other : Nat) :
    (b.note client events).history other =
      b.history other ++ if client = other then events else [] := by
  rw [history_of_log rfl, filterMap_events]

theorem filterMap_closing (closed : List (UInt64 × Waiting))
    (ending : UInt64 × Waiting → List ClientEvent) (client : Nat) :
    (closed.flatMap fun entry => (ending entry).map fun event => (entry.2.client, event)).filterMap
        (fun entry => if entry.1 = client then some entry.2 else none) =
      closed.flatMap fun entry => if entry.2.client = client then ending entry else [] := by
  simp only [List.filterMap_flatMap, filterMap_events]

theorem closing_of_forall_ne {closed : List (UInt64 × Waiting)} {client : Nat}
    (others : ∀ entry ∈ closed, entry.2.client ≠ client)
    (ending : UInt64 × Waiting → List ClientEvent) :
    (closed.flatMap fun entry => if entry.2.client = client then ending entry else []) = [] := by
  rw [List.flatMap_eq_nil_iff]
  intro entry member
  rw [if_neg (others entry member)]

theorem closing_of_mem {closed : List (UInt64 × Waiting)}
    (distinct : (closed.map (·.2.client)).Nodup) {entry : UInt64 × Waiting}
    (member : entry ∈ closed) (ending : UInt64 × Waiting → List ClientEvent) :
    (closed.flatMap fun other =>
        if other.2.client = entry.2.client then ending other else []) = ending entry := by
  induction closed with
  | nil => cases member
  | cons first closed induction =>
    rw [List.map_cons, List.nodup_cons] at distinct
    rw [List.flatMap_cons]
    rcases List.mem_cons.mp member with rfl | later
    · have others : ∀ other ∈ closed, other.2.client ≠ entry.2.client :=
        fun other inLater same => distinct.1 (List.mem_map.mpr ⟨other, inLater, same⟩)
      rw [if_pos rfl, closing_of_forall_ne others, List.append_nil]
    · have other : first.2.client ≠ entry.2.client := fun same =>
        distinct.1 (same ▸ List.mem_map.mpr ⟨entry, later, rfl⟩)
      rw [if_neg other, List.nil_append, induction distinct.2 later]

end Bridge

namespace Correlated

variable {b b' : Bridge} {clients : List Nat} {handed : List (Nat × UInt64)}
  {answers : List Frame}

theorem client_mem (inv : Correlated b clients handed answers) {entry : UInt64 × Waiting}
    (member : entry ∈ b.pending) : entry.2.client ∈ clients :=
  inv.handed_clients _ (inv.pending_handed entry member)

theorem eq_of_client_eq (inv : Correlated b clients handed answers)
    {entry other : UInt64 × Waiting}
    (member : entry ∈ b.pending) (otherMember : other ∈ b.pending)
    (same : entry.2.client = other.2.client) : entry = other :=
  List.inj_on_of_nodup_map inv.clients_nodup member otherMember same

theorem number_lt (inv : Correlated b clients handed answers) {entry : Nat × UInt64}
    (member : entry ∈ handed) : entry.2.toNat < b.nextId.toNat := by
  have listed : entry.2.toNat ∈ handed.map (·.2.toNat) := List.mem_map_of_mem member
  rw [inv.handed_numbers] at listed
  obtain ⟨position, below, number⟩ := List.mem_map.mp listed
  rw [List.mem_range] at below
  rw [inv.next_number, ← number]
  omega

theorem mono_answers (inv : Correlated b clients handed answers) {more : List Frame}
    (within : answers ⊆ more) : Correlated b clients handed more :=
  { inv with
    wrote_answer := fun client bytes wrote => by
      obtain ⟨id, handedOver, answered⟩ := inv.wrote_answer client bytes wrote
      exact ⟨id, handedOver, within answered⟩ }

/-! ## Taking entries out of the table -/

/-- An event that takes some entries out of the table, writes each client taken out a history
that settles it, and leaves the numbering alone keeps the invariant.  Only answer frames that
reached the bridge may be written, each to the client of its number. -/
theorem close (inv : Correlated b clients handed answers) (keep : UInt64 × Waiting → Bool)
    (ending : UInt64 × Waiting → List ClientEvent)
    (settles : ∀ entry ∈ b.pending, keep entry = false → Settled (ending entry))
    (answered : ∀ entry ∈ b.pending, keep entry = false → ∀ bytes,
      ClientEvent.wrote bytes ∈ ending entry → (⟨entry.1, bytes⟩ : Frame) ∈ answers)
    (pending : b'.pending = b.pending.filter keep)
    (log : b'.log = b.log ++ (b.pending.filter fun entry => !keep entry).flatMap
      fun entry => (ending entry).map fun event => (entry.2.client, event))
    (next : b'.nextId = b.nextId) (idle : b'.connected = false → b'.pending = []) :
    Correlated b' clients handed answers := by
  have kept : ∀ entry ∈ b'.pending, entry ∈ b.pending ∧ keep entry = true := by
    intro entry member
    rw [pending] at member
    exact List.mem_filter.mp member
  have closedDistinct :
      ((b.pending.filter fun entry => !keep entry).map (·.2.client)).Nodup :=
    inv.clients_nodup.sublist (List.filter_sublist.map _)
  have history : ∀ client, b'.history client = b.history client ++
      (b.pending.filter fun entry => !keep entry).flatMap fun entry =>
        if entry.2.client = client then ending entry else [] := by
    intro client
    rw [Bridge.history_of_log log, Bridge.filterMap_closing]
  have unchanged : ∀ client, (∀ entry ∈ b.pending, keep entry = false →
      entry.2.client ≠ client) → b'.history client = b.history client := by
    intro client others
    rw [history, Bridge.closing_of_forall_ne, List.append_nil]
    intro entry member
    have closed := List.mem_filter.mp member
    exact others entry closed.1 (by simpa using closed.2)
  refine ⟨?ids_nodup, ?clients_nodup, idle, ?pending_handed, inv.handed_clients,
    inv.handed_numbers, ?next_number, ?wrote_answer, ?fresh_quiet, ?settled⟩
  case ids_nodup =>
    rw [pending]
    exact inv.ids_nodup.sublist (List.filter_sublist.map _)
  case clients_nodup =>
    rw [pending]
    exact inv.clients_nodup.sublist (List.filter_sublist.map _)
  case pending_handed => exact fun entry member => inv.pending_handed entry (kept entry member).1
  case next_number => rw [next, inv.next_number]
  case wrote_answer =>
    intro client bytes wrote
    rw [log, List.mem_append] at wrote
    rcases wrote with before | written
    · exact inv.wrote_answer client bytes before
    · obtain ⟨entry, closed, event⟩ := List.mem_flatMap.mp written
      obtain ⟨inTable, notKept⟩ := List.mem_filter.mp closed
      obtain ⟨_, wroteEvent, same⟩ := List.mem_map.mp event
      simp only [Prod.mk.injEq] at same
      obtain ⟨rfl, rfl⟩ := same
      have notKept : keep entry = false := by simpa using notKept
      exact ⟨entry.1, inv.pending_handed entry inTable,
        answered entry inTable notKept bytes wroteEvent⟩
  case fresh_quiet =>
    intro client fresh
    rw [unchanged client fun entry member _ same => fresh (same ▸ inv.client_mem member)]
    exact inv.fresh_quiet client fresh
  case settled =>
    intro client member
    rcases inv.settled client member with
      ⟨⟨entry, inTable, isClient⟩, quiet⟩ | ⟨away, done⟩
    · subst isClient
      cases keepEntry : keep entry
      · right
        constructor
        · rintro ⟨other, inNew, same⟩
          have otherKept := kept other inNew
          rw [inv.eq_of_client_eq otherKept.1 inTable same] at otherKept
          rw [keepEntry] at otherKept
          cases otherKept.2
        · have closed : entry ∈ b.pending.filter fun entry => !keep entry :=
            List.mem_filter.mpr ⟨inTable, by simp [keepEntry]⟩
          rw [history, quiet, List.nil_append, Bridge.closing_of_mem closedDistinct closed]
          exact settles entry inTable keepEntry
      · left
        refine ⟨⟨entry, ?_, rfl⟩, ?_⟩
        · rw [pending]
          exact List.mem_filter.mpr ⟨inTable, keepEntry⟩
        · rw [unchanged _ fun other member notKept same => ?_, quiet]
          rw [inv.eq_of_client_eq member inTable same, keepEntry] at notKept
          cases notKept
    · right
      have others : ∀ entry ∈ b.pending, keep entry = false → entry.2.client ≠ client :=
        fun entry member _ same => away ⟨entry, member, same⟩
      refine ⟨fun ⟨entry, inNew, same⟩ => away ⟨entry, (kept entry inNew).1, same⟩, ?_⟩
      rw [unchanged client others]
      exact done

/-- A step that leaves the table, the numbering and the log alone keeps the invariant. -/
theorem frame (inv : Correlated b clients handed answers) (pending : b'.pending = b.pending)
    (next : b'.nextId = b.nextId) (log : b'.log = b.log)
    (idle : b'.connected = false → b'.pending = []) : Correlated b' clients handed answers :=
  inv.close (fun _ => true) (fun _ => []) (by simp) (by simp) (by simp [pending])
    (by simp [log]) next idle

/-- Taking the entry of a number out of the table, with a history that settles its client. -/
theorem closeOne (inv : Correlated b clients handed answers) {id : UInt64} {waiting : Waiting}
    (found : b.find? id = some waiting) {ending : List ClientEvent} (settles : Settled ending)
    (answered : ∀ bytes, ClientEvent.wrote bytes ∈ ending →
      (⟨id, bytes⟩ : Frame) ∈ answers) :
    Correlated ((b.without id).note waiting.client ending) clients handed answers := by
  have only := Bridge.filter_number_eq_singleton inv.ids_nodup found
  apply inv.close (fun entry => entry.1 != id) (fun _ => ending)
  · exact fun _ _ _ => settles
  · intro entry _ notKept bytes wrote
    have same : entry.1 = id := by simpa using notKept
    rw [same]
    exact answered bytes wrote
  · rfl
  · simp [Bridge.note, Bridge.without, only]
  · rfl
  · intro idle
    simp [Bridge.note, Bridge.without, inv.idle_empty idle]

theorem shut (inv : Correlated b clients handed answers) (id : UInt64) :
    Correlated (b.shut id) clients handed answers := by
  unfold Bridge.shut
  split
  · next waiting found =>
    exact inv.closeOne found .shutDown fun _ wrote => by simp at wrote
  · exact inv

/-- An answer that reached the bridge goes to the client of its number, if one waits. -/
theorem deliver (inv : Correlated b clients handed answers) {frame : Frame}
    (answered : frame ∈ answers) : Correlated (b.deliver frame) clients handed answers := by
  unfold Bridge.deliver
  split
  · next waiting found =>
    refine inv.closeOne found (.answered frame.payload) fun bytes wrote => ?_
    have same : bytes = frame.payload := by simpa using wrote
    rw [same]
    exact answered
  · exact inv

theorem deliverAll (inv : Correlated b clients handed answers) {frames : List Frame}
    (answered : ∀ frame ∈ frames, frame ∈ answers) :
    Correlated (frames.foldl Bridge.deliver b) clients handed answers := by
  induction frames generalizing b with
  | nil => exact inv
  | cons frame frames induction =>
    rw [List.foldl_cons]
    exact induction (inv.deliver (answered frame List.mem_cons_self))
      fun later member => answered later (List.mem_cons_of_mem frame member)

theorem sweep (inv : Correlated b clients handed answers) (now : Nat) :
    Correlated (b.sweep now) clients handed answers := by
  unfold Bridge.sweep
  rw [Bridge.shutAll_eq]
  apply inv.close (fun entry => !(b.timeout ≤ now - entry.2.since)) (fun _ => [.shutDown])
  · exact fun _ _ _ => .shutDown
  · intro _ _ _ bytes wrote
    simp at wrote
  · rfl
  · simp [List.map_eq_flatMap]
  · rfl
  · intro idle
    simp [inv.idle_empty idle]

theorem disconnect (inv : Correlated b clients handed answers) :
    Correlated b.disconnect clients handed answers := by
  unfold Bridge.disconnect
  rw [Bridge.shutAll_eq]
  apply inv.close (fun _ => false) (fun _ => [.shutDown])
  · exact fun _ _ _ => .shutDown
  · intro _ _ _ bytes wrote
    simp at wrote
  · simp
  · simp [List.map_eq_flatMap]
  · rfl
  · exact fun _ => rfl

theorem connect (inv : Correlated b clients handed answers) :
    Correlated b.connect clients handed answers :=
  inv.frame rfl rfl rfl fun idle => by simp [Bridge.connect] at idle

/-- Bytes from the worker deliver the frames they complete, or end the session. -/
theorem receive (inv : Correlated b clients handed answers) (bytes : List UInt8) :
    Correlated (b.receive bytes) clients handed
      (answers ++ b.answersBy (.receive bytes)) := by
  have buffered : ∀ incoming : Assembler, ∀ more, answers ⊆ more →
      Correlated { b with incoming := incoming } clients handed more :=
    fun _ _ within => (inv.mono_answers within).frame rfl rfl rfl inv.idle_empty
  simp only [Bridge.receive, Bridge.answersBy]
  rcases b.incoming.push bytes with ⟨incoming, frames | frames⟩
  · exact (buffered incoming _ (List.subset_append_left _ _)).disconnect
  · exact (buffered incoming _ (List.subset_append_left _ _)).deliverAll
      fun frame member => List.mem_append_right answers member

/-! ## Handing clients in -/

/-- A client handed in while no worker is connected is dropped. -/
theorem submitIdle (inv : Correlated b clients handed answers) (idle : b.connected = false)
    {client : Nat} (fresh : client ∉ clients) :
    Correlated (b.note client [.dropped]) (clients ++ [client]) handed answers := by
  refine ⟨inv.ids_nodup, inv.clients_nodup, inv.idle_empty, inv.pending_handed,
    fun entry member => List.mem_append_left _ (inv.handed_clients entry member),
    inv.handed_numbers, inv.next_number, ?wrote_answer, ?fresh_quiet, ?settled⟩
  case wrote_answer =>
    intro other bytes wrote
    simp only [Bridge.note, List.map_cons, List.map_nil, List.mem_append, List.mem_singleton,
      Prod.mk.injEq, reduceCtorEq, and_false, or_false] at wrote
    exact inv.wrote_answer other bytes wrote
  case fresh_quiet =>
    intro other notIn
    have notNew : client ≠ other := fun same =>
      notIn (same ▸ List.mem_append_right _ (List.mem_singleton_self _))
    rw [Bridge.history_note, if_neg notNew, List.append_nil]
    exact inv.fresh_quiet other fun old => notIn (List.mem_append_left _ old)
  case settled =>
    intro other member
    rcases List.mem_append.mp member with old | new
    · have notNew : client ≠ other := fun same => fresh (same ▸ old)
      rw [Bridge.history_note, if_neg notNew, List.append_nil]
      exact inv.settled other old
    · rw [List.mem_singleton] at new
      subst new
      right
      constructor
      · rintro ⟨entry, inTable, _⟩
        simp [Bridge.note, inv.idle_empty idle] at inTable
      · rw [Bridge.history_note, if_pos rfl, inv.fresh_quiet _ fresh]
        exact .dropped

/-- A client handed in to a connected bridge waits under the next number. -/
theorem submitLive (inv : Correlated b clients handed answers) (live : b.connected = true)
    {client : Nat} (fresh : client ∉ clients) (room : handed.length + 2 < UInt64.size)
    (now : Nat) (record : Gateway.Variables) (writable : Bool) :
    Correlated (b.submit client now record writable).1 (clients ++ [client])
      (handed ++ [(client, b.nextId)]) answers := by
  have free : b.find? b.nextId = none := by
    rw [Bridge.find?_eq_none_iff]
    intro entry member same
    have below : entry.1.toNat < b.nextId.toNat := inv.number_lt (inv.pending_handed entry member)
    rw [same] at below
    exact Nat.lt_irrefl _ below
  obtain ⟨pending, next, log, connected⟩ :=
    Bridge.submit_of_connected live free client now record writable
  generalize (b.submit client now record writable).1 = b' at pending next log connected
  have history : ∀ other, b'.history other = b.history other := by
    intro other
    rw [Bridge.history, log, Bridge.history]
  have newEntry : (b.nextId, (⟨client, now⟩ : Waiting)) ∈ b'.pending := by
    rw [pending]
    exact List.mem_append_right _ (List.mem_singleton_self _)
  refine ⟨?ids_nodup, ?clients_nodup, ?idle_empty, ?pending_handed, ?handed_clients,
    ?handed_numbers, ?next_number, ?wrote_answer, ?fresh_quiet, ?settled⟩
  case ids_nodup =>
    rw [pending, List.map_append, List.map_singleton, ← List.concat_eq_append]
    refine inv.ids_nodup.concat fun old => ?_
    obtain ⟨entry, member, same⟩ := List.mem_map.mp old
    exact Bridge.find?_eq_none_iff.mp free entry member same
  case clients_nodup =>
    rw [pending, List.map_append, List.map_singleton, ← List.concat_eq_append]
    refine inv.clients_nodup.concat fun old => ?_
    obtain ⟨entry, member, same⟩ := List.mem_map.mp old
    have isClient : entry.2.client = client := same
    exact fresh (isClient ▸ inv.client_mem member)
  case idle_empty =>
    intro idle
    rw [connected] at idle
    cases idle
  case pending_handed =>
    intro entry member
    rw [pending, List.mem_append, List.mem_singleton] at member
    rcases member with old | rfl
    · exact List.mem_append_left _ (inv.pending_handed entry old)
    · exact List.mem_append_right _ (List.mem_singleton_self _)
  case handed_clients =>
    intro entry member
    rcases List.mem_append.mp member with old | new
    · exact List.mem_append_left _ (inv.handed_clients entry old)
    · rw [List.mem_singleton] at new
      subst new
      exact List.mem_append_right _ (List.mem_singleton_self _)
  case handed_numbers =>
    rw [List.map_append, inv.handed_numbers, List.length_append, List.length_singleton,
      List.range_succ, List.map_append]
    simp [inv.next_number]
  case next_number =>
    have size : UInt64.size = 2 ^ 64 := rfl
    have one : (1 : UInt64).toNat = 1 := rfl
    rw [next, UInt64.toNat_add, inv.next_number, one, List.length_append, List.length_singleton,
      Nat.mod_eq_of_lt (by omega)]
  case wrote_answer =>
    intro other bytes wrote
    rw [log] at wrote
    obtain ⟨id, handedOver, answered⟩ := inv.wrote_answer other bytes wrote
    exact ⟨id, List.mem_append_left _ handedOver, answered⟩
  case fresh_quiet =>
    intro other notIn
    rw [history]
    exact inv.fresh_quiet other fun old => notIn (List.mem_append_left _ old)
  case settled =>
    intro other member
    rw [history]
    rcases List.mem_append.mp member with old | new
    · rcases inv.settled other old with
        ⟨⟨entry, inTable, isClient⟩, quiet⟩ | ⟨away, done⟩
      · left
        refine ⟨⟨entry, ?_, isClient⟩, quiet⟩
        rw [pending]
        exact List.mem_append_left _ inTable
      · right
        refine ⟨fun ⟨entry, inNew, same⟩ => ?_, done⟩
        rw [pending, List.mem_append, List.mem_singleton] at inNew
        rcases inNew with inOld | rfl
        · exact away ⟨entry, inOld, same⟩
        · have isClient : client = other := same
          exact fresh (isClient ▸ old)
    · rw [List.mem_singleton] at new
      subst new
      exact .inl ⟨⟨_, newEntry, rfl⟩, inv.fresh_quiet _ fresh⟩

/-! ## Runs -/

theorem step (inv : Correlated b clients handed answers) (event : BridgeEvent)
    (fresh : ∀ client ∈ event.clients, client ∉ clients)
    (room : handed.length + event.clients.length + 1 < UInt64.size) :
    Correlated (b.step event) (clients ++ event.clients) (handed ++ b.handedOverBy event)
      (answers ++ b.answersBy event) := by
  cases event
  all_goals simp only [Bridge.step, BridgeEvent.clients, Bridge.handedOverBy, Bridge.answersBy,
    List.append_nil] at room fresh ⊢
  case submit client now record writable =>
    have notIn : client ∉ clients := fresh client (List.mem_singleton_self _)
    cases live : b.connected
    · simp only [Bool.false_eq_true, if_false, List.append_nil]
      rw [Bridge.submit_of_idle live]
      exact inv.submitIdle live notIn
    · simp only [if_true]
      exact inv.submitLive live notIn (by simpa using room) now record writable
  case connect => exact inv.connect
  case abandon id => exact inv.shut id
  case receive bytes => exact inv.receive bytes
  case deliver frame =>
    exact (inv.mono_answers (List.subset_append_left _ _)).deliver
      (List.mem_append_right _ (List.mem_singleton_self _))
  case sweep now => exact inv.sweep now
  case disconnect => exact inv.disconnect

end Correlated

theorem Bridge.length_handedOverBy_le (b : Bridge) (event : BridgeEvent) :
    (b.handedOverBy event).length ≤ event.clients.length := by
  cases event with
  | submit =>
    simp only [Bridge.handedOverBy, BridgeEvent.clients]
    split <;> simp
  | _ => simp [Bridge.handedOverBy]

namespace Correlated

variable {b : Bridge} {clients : List Nat} {handed : List (Nat × UInt64)}
  {answers : List Frame}

/-- Every run keeps the invariant while each client is handed in once and the numbers do not
wrap. -/
theorem run (inv : Correlated b clients handed answers) (events : List BridgeEvent)
    (oneEach : (clients ++ events.flatMap BridgeEvent.clients).Nodup)
    (room : handed.length + (events.flatMap BridgeEvent.clients).length + 1 < UInt64.size) :
    Correlated (b.run events) (clients ++ events.flatMap BridgeEvent.clients)
      (handed ++ b.handedOver events) (answers ++ b.answered events) := by
  induction events generalizing b clients handed answers with
  | nil => simpa [Bridge.run, Bridge.handedOver, Bridge.answered] using inv
  | cons event events induction =>
    rw [List.flatMap_cons, ← List.append_assoc] at oneEach ⊢
    rw [List.flatMap_cons, List.length_append] at room
    have fresh : ∀ client ∈ event.clients, client ∉ clients := by
      intro client new old
      have distinct := (List.nodup_append.mp oneEach).1
      exact (List.nodup_append.mp distinct).2.2 client old client new rfl
    have handedOver := b.length_handedOverBy_le event
    have next := inv.step event fresh (by omega)
    have rest := induction next oneEach (by rw [List.length_append]; omega)
    have runs : b.run (event :: events) = (b.step event).run events := rfl
    rw [runs, Bridge.handedOver, Bridge.answered, ← List.append_assoc, ← List.append_assoc]
    exact rest

theorem initial (timeout : Nat) (codec : RecordCodec) :
    Correlated { timeout := timeout, codec := codec } [] [] [] where
  ids_nodup := List.nodup_nil
  clients_nodup := List.nodup_nil
  idle_empty := fun _ => rfl
  pending_handed := by simp
  handed_clients := by simp
  handed_numbers := rfl
  next_number := rfl
  wrote_answer := by simp
  fresh_quiet := fun _ _ => rfl
  settled := by simp

theorem numbers_nodup (inv : Correlated b clients handed answers) :
    (handed.map (·.2)).Nodup := by
  apply List.Nodup.of_map UInt64.toNat
  rw [List.map_map]
  have numbers : handed.map (UInt64.toNat ∘ (·.2)) = handed.map (·.2.toNat) := rfl
  rw [numbers, inv.handed_numbers]
  exact List.nodup_range.map (add_left_injective 1)

end Correlated

/-! ## Replies correlate over every run -/

theorem run_correlates_replies (timeout : Nat) (codec : RecordCodec) (events : List BridgeEvent)
    (oneEach : (events.flatMap BridgeEvent.clients).Nodup)
    (fewer : (events.flatMap BridgeEvent.clients).length + 1 < UInt64.size) :
    RepliesCorrelate { timeout := timeout, codec := codec } events := by
  have inv := (Correlated.initial timeout codec).run events (by simpa using oneEach)
    (by simpa using fewer)
  simp only [List.nil_append] at inv
  refine ⟨inv.ids_nodup, inv.idle_empty, inv.numbers_nodup, inv.wrote_answer, ?_⟩
  intro client member
  rcases inv.settled client member with ⟨⟨entry, inTable, isClient⟩, quiet⟩ | away
  · left
    have handedOver := inv.pending_handed entry inTable
    rw [isClient] at handedOver
    exact ⟨entry, inTable, isClient, handedOver, quiet⟩
  · exact .inr away

/-- A run of ten events: a client answered, one refused, a failed hand-over cleaned up, one
swept, one shut down with the worker, and one handed in after. -/
def mixedRun : List BridgeEvent :=
  let record : Gateway.Variables := ⟨"", "", "", "", "", "", "", "", "", "", "", ""⟩
  [.submit 1 0 record true, .connect, .submit 2 0 record true, .submit 3 1 record false,
    .abandon 2, .deliver ⟨1, [104, 105]⟩, .submit 4 2 record true, .sweep 9,
    .submit 5 9 record true, .disconnect, .submit 6 10 record true]

theorem run_correlates_replies_mixed :
    (mixedRun.flatMap BridgeEvent.clients).Nodup ∧
      (mixedRun.flatMap BridgeEvent.clients).length + 1 < UInt64.size ∧
      RepliesCorrelate { timeout := 5, codec := jsonCodec } mixedRun :=
  ⟨by decide, by decide, run_correlates_replies 5 jsonCodec mixedRun (by decide) (by decide)⟩

end Gatehouse.Worker
