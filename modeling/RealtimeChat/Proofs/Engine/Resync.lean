import RealtimeChat.Proofs.Engine.Cursors
import RealtimeChat.Proofs.Timestamp
/-!
# Nothing is missed after a lost connection

Each time the session becomes active again after a lost connection, the client asks once for the
messages of every known chat, from the newest one on that was handed out there. The answer is heard
only as long as the user stays logged in.

* `KnownChat`, `messageTimes` -- the chats on record, and the times of their messages;
* **`recollect_exact`** -- what is remembered are the known chats with the newest of these times;
* `Resync`, **`run_resyncs`** -- the property, and that it holds in every run.
-/

namespace RealtimeChat

/-! ## 1. The chats on record -/

/-- The message event of this chat that was handed out. -/
def Landmark.messageOf? (chat : String) : Landmark → Option Event
  | .handed event => if event.chat = some chat ∧ event.message?.isSome then some event else none
  | _ => none

/-- The message events of a chat that were handed out since the user logged out last. -/
def messagesOf (log : List Landmark) (chat : String) : List Event :=
  (sinceLogout log).filterMap (Landmark.messageOf? chat)

/-- A message event of the chat was handed out or a valid action was put forward for it, since the
user logged out last. -/
def KnownChat (log : List Landmark) (chat : String) : Prop :=
  messagesOf log chat ≠ [] ∨ .addressed chat ∈ sinceLogout log

/-- The times of the messages of a chat, the server's or else their own. -/
def messageTimes (log : List Landmark) (chat : String) : List Timestamp :=
  (messagesOf log chat).filterMap Event.effectiveTime?

section Chats

variable {log : List Landmark} {chat : String}

/-- The landmark makes the chat known. -/
def Landmark.Names (x : Landmark) (chat : String) : Prop :=
  (x.messageOf? chat).isSome = true ∨ x = .addressed chat

theorem messagesOf_cons {x : Landmark} (hx : x ≠ .ended) :
    messagesOf (x :: log) chat = (x.messageOf? chat).toList ++ messagesOf log chat := by
  have hsince : sinceLogout (x :: log) = x :: sinceLogout log := by simp [sinceLogout, hx]
  rw [messagesOf, messagesOf, hsince, List.filterMap_cons]
  cases x.messageOf? chat <;> rfl

theorem knownChat_cons {x : Landmark} (hx : x ≠ .ended) :
    KnownChat (x :: log) chat ↔ x.Names chat ∨ KnownChat log chat := by
  have hsince : sinceLogout (x :: log) = x :: sinceLogout log := by simp [sinceLogout, hx]
  rw [KnownChat, KnownChat, messagesOf_cons hx, hsince, Landmark.Names, List.mem_cons,
    eq_comm (a := Landmark.addressed chat)]
  cases x.messageOf? chat with
  | none => simp; tauto
  | some event => simp

theorem messageTimes_cons {x : Landmark} (hx : x ≠ .ended) : messageTimes (x :: log) chat =
    ((x.messageOf? chat).bind Event.effectiveTime?).toList ++ messageTimes log chat := by
  rw [messageTimes, messagesOf_cons hx, List.filterMap_append, messageTimes]
  cases x.messageOf? chat with
  | none => rfl
  | some event => cases htime : event.effectiveTime? <;> simp [htime]

/-- A landmark moves the chat that it names, and no other one. -/
theorem note_get? {x : Landmark} (hx : x ≠ .ended)
    (chats : OrderedMap String (Option Timestamp)) (chat : String) :
    (x.Names chat → (x.note chats).get? chat = some (Timestamp.later ((chats.get? chat).getD none)
      ((x.messageOf? chat).bind Event.effectiveTime?))) ∧
    (¬ x.Names chat → (x.note chats).get? chat = chats.get? chat) := by
  cases x with
  | ended => exact absurd rfl hx
  | began _ | activated => simp [Landmark.Names, Landmark.messageOf?, Landmark.note]
  | addressed other =>
      simp only [Landmark.Names, Landmark.messageOf?, Landmark.note, OrderedMap.get?_insert]
      by_cases hchat : other = chat
      · simp [hchat]
      · simp [hchat]
  | handed event =>
      simp only [Landmark.Names, Landmark.messageOf?, Landmark.note]
      cases hm : event.message? with
      | none => simp
      | some message =>
          cases hc : event.chat with
          | none => simp
          | some other =>
              simp only [OrderedMap.get?_insert]
              by_cases hchat : other = chat
              · simp [hchat]
              · simp [hchat]

/-- **What is remembered** are the known chats, each with the newest time of its messages. -/
theorem recollect_exact (log : List Landmark) (chat : String) :
    (((recollect log).get? chat).isSome = true ↔ KnownChat log chat) ∧
      Newest (messageTimes log chat) (((recollect log).get? chat).getD none) := by
  induction log with
  | nil => exact ⟨by simp [recollect, KnownChat, messagesOf, sinceLogout], .nil⟩
  | cons x rest ih =>
      obtain ⟨hknown, hnewest⟩ := ih
      by_cases hx : x = .ended
      · subst hx
        exact ⟨by simp [recollect, Landmark.note, KnownChat, messagesOf, sinceLogout], .nil⟩
      · have hnote := note_get? hx (recollect rest) chat
        have hcons : recollect (x :: rest) = x.note (recollect rest) := rfl
        rw [hcons, knownChat_cons hx, messageTimes_cons hx]
        by_cases hnames : x.Names chat
        · rw [hnote.1 hnames]
          exact ⟨by simp [hnames], hnewest.later _⟩
        · rw [hnote.2 hnames]
          have hnone : x.messageOf? chat = none := by
            rw [← Option.not_isSome_iff_eq_none]
            exact fun hsome => hnames (.inl hsome)
          rw [hnone]
          exact ⟨by simp [hnames, hknown], hnewest⟩

end Chats

namespace Engine

variable {τ : Type} [Transport τ]

/-! ## 2. Requests -/

/-- What a client in a state that a record leads to asks for with one more input. -/
structure Resync (e : Engine τ) (log : List Landmark) (i : Input τ) (batch : List History.Request) :
    Prop where
  /-- These requests are added to those that the input leaves alone. -/
  asked : (e.step i).historyRequests = e.outstanding i ++ batch
  /-- On record is when the session becomes active, -/
  entry : .activated ∈ e.landmarks i ↔ e.state ≠ .active ∧ (e.step i).state = .active
  /-- and nothing else happens then. -/
  alone : .activated ∈ e.landmarks i → e.landmarks i = [.activated]
  /-- Messages are asked for only when the session becomes active, and not for the first time since
  somebody was logged in. -/
  again : batch ≠ [] → .activated ∈ e.landmarks i ∧ 0 < activeTimes log
  /-- Then they are asked for in every known chat and in no other one, -/
  chats : .activated ∈ e.landmarks i → 0 < activeTimes log →
    ∀ chat, (∃ r ∈ batch, r.chat = chat) ↔ KnownChat log chat
  /-- once and in the order of the chats, -/
  rising : batch.Pairwise fun r r' => r.chat < r'.chat
  /-- from the newest message on, by whoever is logged in, for this login. -/
  each : ∀ r ∈ batch, Newest (messageTimes log r.chat) r.since ∧
    (∃ c, loggedIn? log = some c ∧ r.token = c.token) ∧ r.generation = logouts log
  /-- The answer to a request has no effect after a logout. -/
  answers : ∀ r ∈ batch, ∀ after now, .logout now ∈ after → ∀ chat result now,
    ((e.step i).run after).applyHistory chat r.generation result now = (e.step i).run after

omit [Transport τ] in
theorem wanted_rising (log : List Landmark) (c : Credentials) :
    (wanted log c).Pairwise fun r r' => r.chat < r'.chat :=
  (recollect log).rising.map _ fun _ _ h => compareOfLessAndEq_eq_lt.mp h

omit [Transport τ] in
theorem mem_wanted {log : List Landmark} {c : Credentials} {r : History.Request} :
    r ∈ wanted log c ↔ (recollect log).get? r.chat = some r.since ∧ r.token = c.token ∧
      r.generation = logouts log := by
  rw [OrderedMap.get?_eq_some_iff]
  constructor
  · intro hr
    obtain ⟨⟨chat, since⟩, hentry, rfl⟩ := List.mem_map.mp hr
    exact ⟨hentry, rfl, rfl⟩
  · rintro ⟨hentry, htoken, hgeneration⟩
    refine List.mem_map.mpr ⟨_, hentry, ?_⟩
    rw [← htoken, ← hgeneration]

omit [Transport τ] in
/-- One request for each known chat. -/
theorem wanted_chats (log : List Landmark) (c : Credentials) (chat : String) :
    (∃ r ∈ wanted log c, r.chat = chat) ↔ KnownChat log chat := by
  rw [← (recollect_exact log chat).1, Option.isSome_iff_exists]
  constructor
  · rintro ⟨r, hr, rfl⟩
    exact ⟨_, (mem_wanted.mp hr).1⟩
  · rintro ⟨since, hsince⟩
    exact ⟨⟨chat, since, c.token, logouts log⟩, mem_wanted.mpr ⟨hsince, rfl, rfl⟩, rfl⟩

omit [Transport τ] in
theorem wanted_newest {log : List Landmark} {c : Credentials} {r : History.Request}
    (h : r ∈ wanted log c) : Newest (messageTimes log r.chat) r.since := by
  have hnewest := (recollect_exact log r.chat).2
  rwa [(mem_wanted.mp h).1] at hnewest

/-- Every logout is on record. -/
theorem logouts_pos {e : Engine τ} {inputs : List (Input τ)} {now : Instant}
    (h : .logout now ∈ inputs) : 0 < logouts (e.record inputs) := by
  obtain ⟨before, after, rfl⟩ := List.append_of_mem h
  rw [logouts, List.count_pos_iff, record_append, record]
  refine List.mem_append_left _ (List.mem_append_right _ (List.mem_append_right _ ?_))
  exact List.mem_append_right _ (List.mem_singleton_self _)

/-- An answer from before a logout has no effect. -/
theorem applyHistory_stale {e : Engine τ} {log : List Landmark} (h : e.Recalls log)
    (hrest : e.AtRest) {after : List (Input τ)} {now : Instant} (hlogout : .logout now ∈ after)
    (chat : String) (result : Except String (List Message)) (now' : Instant) :
    (e.run after).applyHistory chat (logouts log) result now' = e.run after := by
  refine if_neg (Nat.ne_of_lt ?_)
  rw [(run_recalls h hrest after).generation, logouts, logouts, List.count_append]
  exact Nat.lt_add_of_pos_left (logouts_pos hlogout)

/-- A session that gets to be active is noted. -/
theorem mem_landmarks_of_active {e : Engine τ} (hrest : e.AtRest) {i : Input τ}
    (hbefore : e.state ≠ .active) (hafter : (e.step i).state = .active) :
    .activated ∈ e.landmarks i := by
  obtain ⟨journal, hstage⟩ := hrest.stage
  obtain ⟨a, ha⟩ := (step_course hrest.told hstage.held i).1.activates hbefore hafter
  obtain ⟨n, hn, hnews⟩ := List.mem_filterMap.mp ha
  refine List.mem_append_left _ (List.mem_filterMap.mpr ⟨n, hn, ?_⟩)
  cases n with
  | stateChanged before after =>
      cases hnews
      rfl
  | _ => cases hnews

/-- **In every run with history enabled** messages are asked for exactly when the session becomes
active again, in exactly the known chats, and exactly from the newest message on. -/
theorem run_resyncs {e : Engine τ} (he : e.Fresh) (hon : e.historyEnabled = true)
    (inputs : List (Input τ)) (i : Input τ) :
    ∃ batch, (e.run inputs).Resync (e.record inputs) i batch := by
  have hrecalls := run_recalls (he.recalls hon) he.atRest inputs
  rw [List.append_nil] at hrecalls
  have hrest : (e.run inputs).AtRest := ⟨run_quiet he.quiet inputs, run_told he.told inputs, _,
    run_gate he.stage inputs⟩
  generalize e.run inputs = e' at *
  generalize e.record inputs = log at *
  obtain ⟨hstep, hasks⟩ := step_heeds hrecalls hrest.told hrest.stage i
  cases hasks with
  | nothing h hr =>
      have hentry : .activated ∈ e'.landmarks i ↔
          e'.state ≠ .active ∧ (e'.step i).state = .active :=
        ⟨fun hmem => absurd hmem h, fun hs => mem_landmarks_of_active hrest hs.1 hs.2⟩
      refine ⟨[], by rw [hr, List.append_nil], hentry, fun hmem => absurd hmem h, by simp,
        fun hmem => absurd hmem h, .nil, by simp, by simp⟩
  | @all hbefore hafter h c hc hr =>
      have hmem : .activated ∈ e'.landmarks i := h ▸ List.mem_singleton_self _
      have hentry : .activated ∈ e'.landmarks i ↔
          e'.state ≠ .active ∧ (e'.step i).state = .active :=
        iff_of_true hmem ⟨hbefore, hafter⟩
      have hgeneration : logouts (e'.landmarks i ++ log) = logouts log := by
        rw [h]
        exact List.count_cons_of_ne (by simp)
      have hanswers : ∀ r ∈ wanted log c, ∀ after now, .logout now ∈ after → ∀ chat result now,
          ((e'.step i).run after).applyHistory chat r.generation result now =
            (e'.step i).run after := by
        intro r hr after now hlogout chat result now'
        rw [(mem_wanted.mp hr).2.2, ← hgeneration]
        exact applyHistory_stale hstep (happen_atRest hrest (.input i)) hlogout chat result now'
      by_cases hagain : 0 < activeTimes log
      · rw [if_pos hagain] at hr
        exact ⟨wanted log c, hr, hentry, fun _ => h, fun _ => ⟨hmem, hagain⟩,
          fun _ _ => wanted_chats log c, wanted_rising log c,
          fun r hr => ⟨wanted_newest hr, ⟨c, hc, (mem_wanted.mp hr).2.1⟩, (mem_wanted.mp hr).2.2⟩,
          hanswers⟩
      · rw [if_neg hagain] at hr
        exact ⟨[], hr, hentry, fun _ => h, by simp, fun _ h => absurd h hagain, .nil, by simp,
          by simp⟩

omit [Transport τ] in
theorem Fresh.withHistory {e : Engine τ} (h : e.Fresh) :
    Fresh { e with historyEnabled := true } := by
  obtain ⟨settings, transport, entropy, ids, e₀, store, _, hnew, rfl⟩ := h
  exact ⟨settings, transport, entropy, ids, e₀, store, true, hnew, rfl⟩

/-- The first second of a year. -/
def newYear : Timestamp := ⟨2026, 1, 1, 0, 0, by decide⟩

/-- A message comes in one chat and an action is put forward for another one, the connection is lost
and a new one is opened. -/
def interrupted : List (Input MemoryTransport) :=
  [.connect ⟨"u1", "t1"⟩ 0, .event 1 .opened 1,
    .event 1 (.frame "\x7b\"type\": \"auth_ok\"\x7d") 2,
    .event 1 (.frame ("\x7b\"type\": \"message\", \"chatId\": \"42\", " ++
      "\"timestamp\": \"2026-01-01T00:00:00Z\", " ++
      "\"message\": \x7b\"id\": \"m1\", \"content\": \"one\"\x7d\x7d")) 3,
    .submit (.new "a1" (.typingStart "7") 4) 4, .event 1 .closed 5,
    .timers 1000000000000, .event 2 .opened 1000000000001]

/-- The server accepts the user on the new connection. -/
theorem run_resyncs_interrupted : ∃ e : Engine MemoryTransport, e.Fresh ∧
    (e.run interrupted).Resync (e.record interrupted)
      (.event 2 (.frame "\x7b\"type\": \"auth_ok\"\x7d") 1000000000002)
      [⟨"42", some newYear, "t1", 0⟩, ⟨"7", none, "t1", 0⟩] := by
  obtain ⟨e, he, hnone, hall⟩ := exists_fresh_of (fun e =>
    let e' := { e with historyEnabled := true }.run interrupted
    let accepted : Input MemoryTransport :=
      .event 2 (.frame "\x7b\"type\": \"auth_ok\"\x7d") 1000000000002
    e'.outstanding accepted = [] ∧ (e'.step accepted).historyRequests =
      [⟨"42", some newYear, "t1", 0⟩, ⟨"7", none, "t1", 0⟩])
    (by decide +kernel)
  obtain ⟨batch, hbatch⟩ := run_resyncs he.withHistory rfl interrupted
    (.event 2 (.frame "\x7b\"type\": \"auth_ok\"\x7d") 1000000000002)
  have hasked := hbatch.asked
  rw [hnone, hall, List.nil_append] at hasked
  exact ⟨_, he.withHistory, hasked ▸ hbatch⟩

end Engine

end RealtimeChat
