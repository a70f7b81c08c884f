import RealtimeChat.Proofs.Engine.Routes
import RealtimeChat.Proofs.Event
/-!
# What history brings again

Messages from history go the way of live events, and the window drops those that it knows. It knows
a message if an event without an id of its own brought it: an event with an id is remembered under
that id, and its message comes again with history.

* `Brought` -- the record shows that a message was brought under its own id, and not long ago;
* `deliver_replayed` -- what becomes of a message from history when its turn comes;
* **`replay_drops`** -- in every run a message is dropped exactly if it was brought in this way, and
  then everything goes on as if history had not contained it.
-/

namespace RealtimeChat

namespace Engine

open Router (Routed Windowed Repeats delivered)

variable {τ : Type}

/-! ## 1. The turn of a message -/

/-- A message from history as an event of its chat. -/
def replayed (chat : String) (m : Message) : Event := ⟨none, some chat, .message m, m.timestamp, true⟩

/-- An event without an id of its own brought the message of this id. It was handed out, not too
long ago and with not too many others since. -/
def Brought (log : List Routed) (capacity : Nat) (ttl : Duration) (id : String) (now : Instant) :
    Prop :=
  ∃ newer x older, log = newer ++ x :: older ∧ x.outcome ≠ .duplicate ∧
    x.event.id = none ∧ x.event.message?.bind (·.id) = some id ∧
    now - x.time < ttl ∧ (delivered newer).length < capacity

theorem brought_iff {log : List Routed} {capacity : Nat} {ttl : Duration} {id : String}
    {now : Instant} : Brought log capacity ttl id now ↔
      ∃ later t earlier, delivered log = later ++ (t, "msg:" ++ id) :: earlier ∧ now - t < ttl ∧
        later.length < capacity := by
  constructor
  · rintro ⟨newer, x, older, rfl, hx, hnone, hid, hage, hfew⟩
    refine ⟨delivered newer, x.time, delivered older, ?_, hage, hfew⟩
    have hkey := Event.dedupKey?_eq_message.mpr ⟨hnone, hid⟩
    have hx? : x.delivered? = some (x.time, "msg:" ++ id) := by
      rw [Routed.delivered?, if_neg hx, hkey]
      rfl
    rw [delivered, List.filterMap_append, List.filterMap_cons_some hx?]
    rfl
  · rintro ⟨later, t, earlier, hlog, hage, hfew⟩
    obtain ⟨newer, rest, rfl, rfl, hrest⟩ := List.filterMap_eq_append_iff.mp hlog
    obtain ⟨silent, x, older, rfl, hsilent, hx?, -⟩ := List.filterMap_eq_cons_iff.mp hrest
    unfold Routed.delivered? at hx?
    split at hx?
    · cases hx?
    · rename_i hx
      obtain ⟨key, hkey, heq⟩ := Option.map_eq_some_iff.mp hx?
      cases heq
      obtain ⟨hnone, hid⟩ := Event.dedupKey?_eq_message.mp hkey
      refine ⟨newer ++ silent, x, older, by rw [List.append_assoc], hx, hnone, hid, hage, ?_⟩
      have hfew' : delivered silent = [] := List.filterMap_eq_nil_iff.mpr hsilent
      rw [delivered, List.filterMap_append, ← delivered, ← delivered, hfew', List.append_nil]
      exact hfew

section Turn

variable {e : Engine τ} {capacity : Nat} {ttl : Duration} {log : List Routed} {now : Instant}

theorem repeats_iff_brought (h : Windowed capacity ttl ⟨e.router, log⟩ now) (chat : String)
    {m : Message} {id : String} (hid : m.id = some id) :
    Repeats capacity ttl log (replayed chat m) now ↔ Brought log (max capacity 1) ttl id now := by
  have hkey : (replayed chat m).dedupKey? = some ("msg:" ++ id) :=
    Event.dedupKey?_eq_message.mpr ⟨rfl, hid⟩
  rw [brought_iff]
  constructor
  · rintro ⟨key, hkey', t, later, earlier, hlog, -, hage, hfew⟩
    rw [hkey] at hkey'
    cases hkey'
    exact ⟨later, t, earlier, hlog, hage, hfew⟩
  · rintro ⟨later, t, earlier, hlog, hage, hfew⟩
    have hrecent := h.recalls.recent (Nat.le_refl now) hlog (h.ttl ▸ hage) (h.capacity ▸ hfew)
    rw [h.capacity, h.ttl] at hrecent
    exact ⟨_, hkey, hrecent⟩

/-- What becomes of a message from history: one that was brought before touches nothing but the
window, any other one is handed out. -/
theorem deliver_replayed (h : Windowed capacity ttl ⟨e.router, log⟩ now) (chat : String)
    {m : Message} {id : String} (hid : m.id = some id) :
    (Brought log (max capacity 1) ttl id now → ∃ dedup,
      e.deliver (replayed chat m) now = (false, { e with router := { e.router with dedup } })) ∧
    (¬ Brought log (max capacity 1) ttl id now → (e.deliver (replayed chat m) now).1 = true) := by
  rw [← repeats_iff_brought h chat hid]
  rcases h.outcome (Nat.le_refl now) (replayed chat m) e.timers with
    ⟨hrepeats, dedup, heq⟩ | ⟨hnew, dedup, typing, timers', heq⟩
  · refine ⟨fun _ => ⟨dedup, ?_⟩, fun hnew => absurd hrepeats hnew⟩
    unfold deliver
    dsimp only at heq
    rw [heq]
  · refine ⟨fun hrepeats => absurd hrepeats hnew, fun _ => ?_⟩
    unfold deliver
    dsimp only at heq
    rw [heq]

end Turn

/-! ## 2. Answers to requests -/

theorem deliver_generation (e : Engine τ) (event : Event) (now : Instant) :
    (e.deliver event now).2.generation = e.generation := by
  obtain ⟨router, timers, cursors, store, heq⟩ := e.deliver_eq event now
  rw [heq]

theorem applyHistory_ok {e : Engine τ} {generation : Nat} (h : generation = e.generation)
    (chat : String) (messages : List Message) (now : Instant) :
    e.applyHistory chat generation (.ok messages) now =
      (messages.map (replayed chat)).foldl (fun e event => (e.deliver event now).2) e := if_pos h

theorem applyHistory_generation (e : Engine τ) (chat : String) (messages : List Message)
    (now : Instant) :
    (e.applyHistory chat e.generation (.ok messages) now).generation = e.generation := by
  have along : ∀ (events : List Event) (e : Engine τ),
      (events.foldl (fun e event => (e.deliver event now).2) e).generation = e.generation := by
    intro events
    induction events with
    | nil => exact fun _ => rfl
    | cons event rest ih => exact fun e => (ih _).trans (deliver_generation e event now)
  rw [applyHistory_ok rfl]
  exact along _ e

/-- An answer is the messages before one of them, this message, and the messages after it. -/
theorem applyHistory_append (e : Engine τ) (chat : String) (before after : List Message)
    (m : Message) (now : Instant) :
    e.applyHistory chat e.generation (.ok (before ++ m :: after)) now =
      ((e.applyHistory chat e.generation (.ok before) now).deliver (replayed chat m)
        now).2.applyHistory chat e.generation (.ok after) now := by
  have hgeneration : e.generation = ((e.applyHistory chat e.generation (.ok before) now).deliver
      (replayed chat m) now).2.generation := by
    rw [deliver_generation, applyHistory_generation]
  rw [applyHistory_ok hgeneration, applyHistory_ok rfl, applyHistory_ok rfl, List.map_append,
    List.foldl_append]
  rfl

section Runs

variable [Transport τ]

/-- The record when the turn of a message comes, after the messages before it in the answer. -/
def routedBefore (e : Engine τ) (inputs : List (Input τ)) (chat : String) (before : List Message)
    (now : Instant) : List Routed :=
  e.routed [] (inputs ++ [.history chat (e.run inputs).generation (.ok before) now])

/-- **A message from history is dropped exactly if an event without an id of its own has brought it
not long ago**, and then everything goes on as if the answer had not contained it. -/
theorem replay_drops {e : Engine τ} (he : e.Fresh) (inputs : List (Input τ)) (chat : String)
    (before after : List Message) {m : Message} {id : String} (hid : m.id = some id) (now : Instant)
    (hrising : (inputs.filterMap Input.time? ++ [now]).Pairwise (· ≤ ·)) :
    let e' := e.run inputs
    let turn := e'.applyHistory chat e'.generation (.ok before) now
    let brought := Brought (e.routedBefore inputs chat before now) e.router.dedup.capacity
      e.router.dedup.ttl id now
    (brought → ∃ dedup,
      e'.applyHistory chat e'.generation (.ok (before ++ m :: after)) now =
        { turn with router := { turn.router with dedup } }.applyHistory chat e'.generation
          (.ok after) now) ∧
    (¬ brought → (turn.deliver (replayed chat m) now).1 = true) := by
  intro e' turn brought
  have htimes : (0 :: ((inputs ++ [Input.history chat e'.generation (.ok before) now]).filterMap
      Input.time? ++ [now])).Pairwise (· ≤ ·) := by
    refine .cons (fun _ _ => Nat.zero_le _) ?_
    rw [List.filterMap_append]
    refine List.pairwise_append.mpr ⟨hrising, List.pairwise_singleton _ _, fun t ht t' ht' => ?_⟩
    rw [List.mem_singleton.mp ht']
    rcases List.mem_append.mp ht with ht | ht
    · exact (List.pairwise_append.mp hrising).2.2 t ht now (List.mem_singleton_self now)
    · exact Nat.le_of_eq (List.mem_singleton.mp ht)
  have hwindowed := run_windowed he.windowed _ now htimes
  rw [run_append] at hwindowed
  have hturn := deliver_replayed (e := turn) hwindowed chat hid
  rw [← he.windowed.capacity] at hturn
  refine ⟨fun hbrought => ?_, hturn.2⟩
  obtain ⟨dedup, hdeliver⟩ := hturn.1 hbrought
  rw [applyHistory_append, hdeliver]
  exact ⟨dedup, rfl⟩

/-- A live event without an id of its own brings a message. -/
def liveMessage : List (Input MemoryTransport) :=
  [.subscribe .message, .connect ⟨"u1", "t1"⟩ 0, .event 1 .opened 1,
    .event 1 (.frame "\x7b\"type\": \"auth_ok\"\x7d") 2,
    .event 1 (.frame ("\x7b\"type\": \"message\", \"chatId\": \"42\", " ++
      "\"message\": \x7b\"id\": \"m1\", \"content\": \"one\"\x7d\x7d")) 3]

/-- A message of this id. -/
def plainMessage (id : String) : Message := { Message.plain "one" with id := some id }

/-- History brings this message again, and it is dropped; the one behind it is new. -/
theorem replay_drops_unnamed : ∃ e : Engine MemoryTransport, e.Fresh ∧
    let e' := e.run liveMessage
    let first := e'.applyHistory "42" e'.generation (.ok []) 4
    let second := e'.applyHistory "42" e'.generation (.ok [plainMessage "m1"]) 4
    (∃ dedup, e'.applyHistory "42" e'.generation (.ok [plainMessage "m1", plainMessage "m2"]) 4 =
      { first with router := { first.router with dedup } }.applyHistory "42" e'.generation
        (.ok [plainMessage "m2"]) 4) ∧
    (second.deliver (replayed "42" (plainMessage "m2")) 4).1 = true ∧
    (e'.applyHistory "42" e'.generation
      (.ok [plainMessage "m1", plainMessage "m2"]) 4).router.deliveries.map
        (fun d => d.event.message?.bind (·.id)) = [some "m1", some "m2"] := by
  have ⟨e, he, hroom, hfirst, hsecond, hdelivered⟩ := exists_fresh_of
    (fun e => (0 < e.router.dedup.capacity ∧ 4 - 3 < e.router.dedup.ttl) ∧
      delivered (e.routedBefore liveMessage "42" [] 4) = [(3, "msg:m1")] ∧
      delivered (e.routedBefore liveMessage "42" [plainMessage "m1"] 4) = [(3, "msg:m1")] ∧
      ((e.run liveMessage).applyHistory "42" (e.run liveMessage).generation
        (.ok [plainMessage "m1", plainMessage "m2"]) 4).router.deliveries.map
          (fun d => d.event.message?.bind (·.id)) = [some "m1", some "m2"]) (by decide +kernel)
  have hbrought : Brought (e.routedBefore liveMessage "42" [] 4) e.router.dedup.capacity
      e.router.dedup.ttl "m1" 4 :=
    brought_iff.mpr ⟨[], 3, [], hfirst, hroom.2, hroom.1⟩
  have hnew : ¬ Brought (e.routedBefore liveMessage "42" [plainMessage "m1"] 4)
      e.router.dedup.capacity e.router.dedup.ttl "m2" 4 := by
    rw [brought_iff, hsecond]
    rintro ⟨later, t, earlier, heq, -⟩
    have hmem : (t, "msg:" ++ "m2") ∈ later ++ (t, "msg:" ++ "m2") :: earlier := by simp
    rw [← heq] at hmem
    simp at hmem
  have hrising : (liveMessage.filterMap Input.time? ++ [4]).Pairwise (· ≤ ·) := by decide
  exact ⟨e, he, (replay_drops he liveMessage "42" [] [plainMessage "m2"] rfl 4 hrising).1 hbrought,
    (replay_drops he liveMessage "42" [plainMessage "m1"] [] rfl 4 hrising).2 hnew, hdelivered⟩

/-- A live event with an id of its own brings a message, and history brings it again. -/
theorem replay_repeats_named : ∃ e : Engine MemoryTransport, e.Fresh ∧
    let before := e.run [.subscribe .message, .connect ⟨"u1", "t1"⟩ 0, .event 1 .opened 1,
      .event 1 (.frame "\x7b\"type\": \"auth_ok\"\x7d") 2,
      .event 1 (.frame ("\x7b\"type\": \"message\", \"eventId\": \"e1\", \"chatId\": \"42\", " ++
        "\"message\": \x7b\"id\": \"m1\", \"content\": \"one\"\x7d\x7d")) 3]
    let after := before.step
      (.history "42" before.generation (.ok [{ Message.plain "one" with id := some "m1" }]) 4)
    let brought := fun e' : Engine MemoryTransport =>
      e'.router.deliveries.map fun d => d.event.message?.bind (·.id)
    4 < 3 + e.router.dedup.ttl ∧ 1 ≤ e.router.dedup.capacity ∧
      brought before = [some "m1"] ∧ brought after = [some "m1", some "m1"] :=
  exists_fresh_of _ (by decide +kernel)

end Runs

end Engine

end RealtimeChat
