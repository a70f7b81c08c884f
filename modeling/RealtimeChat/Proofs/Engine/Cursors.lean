import RealtimeChat.Proofs.Engine.Course
import RealtimeChat.Proofs.Engine.Routes
import RealtimeChat.Proofs.Session.Activations
/-!
# What a client remembers of its chats

A client remembers for each chat the newest time of a message seen there, who is logged in, how
often the session became active for them, and how often the user logged out. All of this can be read
off a record of the run that says what happened and nothing of how the client works.

* `Landmark` -- what is on record, `landmarks`, `record` -- of an input and of a run;
* `recollect`, `loggedIn?`, `activeTimes`, `logouts` -- what the record says;
* `Learns` -- a part of an input is remembered as these landmarks;
* `Recalls`, `Asks` -- the memory is in step with the record, and what an input asks for;
* **`step_heeds`**, **`run_recalls`** -- so it is after every input and in every run.
-/

namespace RealtimeChat

open Router (Operation Routed)

/-! ## 1. The record -/

/-- What in a run matters for the messages that a client may have missed. -/
inductive Landmark where
  /-- Somebody was logged in. -/
  | began (credentials : Credentials)
  /-- The user logged out. -/
  | ended
  /-- The session became active. -/
  | activated
  /-- An event was handed out. -/
  | handed (event : Event)
  /-- The user put forward a valid action for a chat. -/
  | addressed (chat : String)
deriving DecidableEq

/-- What an event that was routed is noted as. One that was dropped is not noted. -/
def Router.Routed.landmark? (x : Routed) : Option Landmark :=
  match x.outcome with
  | .delivered .. => some (.handed x.event)
  | _ => none

/-- The events that a router hands out during these operations, the newest one in front. -/
def Router.handed (r : Router) (ops : List Operation) : List Landmark :=
  ((⟨r, []⟩ : Run).performAll ops).log.filterMap Routed.landmark?

/-- What a notice is noted as. -/
def Notice.landmark? : Notice → Option Landmark
  | .stateChanged _ .active => some .activated
  | _ => none

namespace Engine

variable {τ : Type}

section Record

variable [Transport τ]

/-- What an input is noted as by itself. One that is refused is not noted. -/
def intended (e : Engine τ) : Input τ → List Landmark
  | .connect credentials now =>
    match e.session.connect credentials now e.timers with
    | .ok _ => [.began credentials]
    | .error _ => []
  | .logout _ => [.ended]
  | .submit a _ =>
    match a.intent.check with
    | .ok () => [.addressed a.chat]
    | .error _ => []
  | _ => []

/-- What an input is noted as, the newest landmark in front: the input by itself, the events that
the router hands out, and what is published about the session. -/
def landmarks (e : Engine τ) (i : Input τ) : List Landmark :=
  (e.stepNotices i).filterMap Notice.landmark? ++ (e.router.handed (e.stepRoutes i) ++ e.intended i)

/-- The record of a run. -/
def record : Engine τ → List (Input τ) → List Landmark
  | _, [] => []
  | e, i :: rest => record (e.step i) rest ++ e.landmarks i

end Record

end Engine

/-! ## 2. Reading the record -/

namespace Landmark

/-- Who is logged in from here on. -/
def credentials? : Landmark → Option Credentials
  | .began credentials => some credentials
  | _ => none

/-- Whether the landmark is about a chat. -/
def isOfChat : Landmark → Bool
  | .handed _ | .addressed _ => true
  | _ => false

/-- The chats with their newest times after one more landmark. -/
def note : Landmark → OrderedMap String (Option Timestamp) → OrderedMap String (Option Timestamp)
  | .ended, _ => ∅
  | .handed event, chats =>
    match event.chat, event.message? with
    | some chat, some _ => chats.insert chat
      (Timestamp.later ((chats.get? chat).getD none) event.effectiveTime?)
    | _, _ => chats
  | .addressed chat, chats =>
    chats.insert chat (Timestamp.later ((chats.get? chat).getD none) none)
  | _, chats => chats

end Landmark

/-- The known chats with their newest times. -/
def recollect (log : List Landmark) : OrderedMap String (Option Timestamp) :=
  log.foldr Landmark.note ∅

/-- What happened since the user logged out last. -/
def sinceLogout (log : List Landmark) : List Landmark := log.takeWhile (· ≠ .ended)

/-- Who is logged in. -/
def loggedIn? (log : List Landmark) : Option Credentials :=
  (sinceLogout log).findSome? Landmark.credentials?

/-- How often the session became active since somebody was logged in last. -/
def activeTimes (log : List Landmark) : Nat :=
  (log.takeWhile (·.credentials?.isNone)).count .activated

/-- How often the user logged out. -/
def logouts (log : List Landmark) : Nat := log.count .ended

/-- Requests for the messages of every known chat, from whoever is logged in. -/
def wanted (log : List Landmark) (c : Credentials) : List History.Request :=
  (recollect log).entries.map fun (chat, since) => ⟨chat, since, c.token, logouts log⟩

section Reading

variable {log marks : List Landmark}

/-- What is about chats is not about the login. -/
theorem loggedIn?_append (h : ∀ x ∈ marks, x.isOfChat = true) :
    loggedIn? (marks ++ log) = loggedIn? log := by
  induction marks with
  | nil => rfl
  | cons x rest ih =>
      obtain ⟨hx, hrest⟩ := List.forall_mem_cons.mp h
      rw [← ih hrest]
      cases x with
      | handed _ | addressed _ => rfl
      | _ => cases hx

theorem activeTimes_append (h : ∀ x ∈ marks, x.isOfChat = true) :
    activeTimes (marks ++ log) = activeTimes log := by
  induction marks with
  | nil => rfl
  | cons x rest ih =>
      obtain ⟨hx, hrest⟩ := List.forall_mem_cons.mp h
      rw [← ih hrest]
      cases x with
      | handed _ | addressed _ => simp [activeTimes, Landmark.credentials?]
      | _ => cases hx

theorem logouts_append (h : ∀ x ∈ marks, x.isOfChat = true) :
    logouts (marks ++ log) = logouts log := by
  rw [logouts, logouts, List.count_append, Nat.add_eq_right, List.count_eq_zero]
  intro hended
  cases h _ hended

theorem Router.handed_isOfChat {r : Router} {ops : List Operation} :
    ∀ x ∈ r.handed ops, x.isOfChat = true := by
  intro x hx
  obtain ⟨routed, -, heq⟩ := List.mem_filterMap.mp hx
  unfold Routed.landmark? at heq
  split at heq <;> cases heq
  rfl

end Reading

namespace Engine

variable {τ : Type}

/-! ## 3. Parts of inputs -/

/-- What a client remembers apart from its chats is left alone, and nothing is asked for. -/
structure Keeps (e e' : Engine τ) : Prop where
  requests : e'.historyRequests = e.historyRequests
  enabled : e'.historyEnabled = e.historyEnabled
  generation : e'.generation = e.generation
  user : e'.session.user? = e.session.user?
  activations : e'.session.activations = e.session.activations

/-- A part of an input is remembered as these landmarks. -/
structure Learns (e : Engine τ) (marks : List Landmark) (e' : Engine τ) : Prop extends
    e.Keeps e' where
  cursors : e'.cursors = marks.foldr Landmark.note e.cursors

namespace Learns

variable {e e' e'' : Engine τ} {marks marks' : List Landmark}

theorem refl (e : Engine τ) : Learns e [] e := ⟨⟨rfl, rfl, rfl, rfl, rfl⟩, rfl⟩

theorem trans (h : Learns e marks e') (h' : Learns e' marks' e'') :
    Learns e (marks' ++ marks) e'' :=
  ⟨⟨h'.requests.trans h.requests, h'.enabled.trans h.enabled, h'.generation.trans h.generation,
    h'.user.trans h.user, h'.activations.trans h.activations⟩,
    by rw [h'.cursors, h.cursors, List.foldr_append]⟩

/-- What comes afterwards is not remembered. -/
theorem before (h : Learns e marks e') (h' : Learns e' [] e'') : Learns e marks e'' := h.trans h'

/-- What comes before is not remembered. -/
theorem after (h : Learns e [] e') (h' : Learns e' marks e'') : Learns e marks e'' := by
  have hboth := h.trans h'
  rwa [List.append_nil] at hboth

end Learns

/-- What is handed out one after the other. -/
theorem Routes.handed_append {e e' : Engine τ} {ops : List Operation} (h : Routes e ops e')
    (ops' : List Operation) :
    e.router.handed (ops ++ ops') = e'.router.handed ops' ++ e.router.handed ops := by
  rw [h [], Router.handed, Router.Run.performAll_append]
  show ((⟨_, ((⟨e.router, []⟩ : Router.Run).performAll ops).log⟩ : Router.Run).performAll
    ops').log.filterMap _ = _
  rw [Router.Run.performAll_eq, List.filterMap_append]
  rfl

section Parts

variable {e : Engine τ} {now : Instant}

theorem deliver_learns (e : Engine τ) (event : Event) (now : Instant) :
    Learns e (e.router.handed [.dispatch event now e.timers]) (e.deliver event now).2 := by
  have hhanded : e.router.handed [.dispatch event now e.timers] =
      [(⟨event, now, (e.router.dispatch event now e.timers).1⟩ : Routed)].filterMap
        Routed.landmark? := rfl
  rw [hhanded]
  unfold deliver
  dsimp only
  rcases e.router.dispatch event now e.timers with ⟨_ | _ | _, router, timers⟩
  · dsimp only
    refine ⟨?_, ?_⟩
    · split <;> exact ⟨rfl, rfl, rfl, rfl, rfl⟩
    · show _ = Landmark.note (.handed event) e.cursors
      dsimp only [Landmark.note]
      cases event.chat <;> cases event.message? <;> rfl
  · exact ⟨⟨rfl, rfl, rfl, rfl, rfl⟩, rfl⟩
  · exact ⟨⟨rfl, rfl, rfl, rfl, rfl⟩, rfl⟩

theorem events_learns (events : List Event) (e : Engine τ) (now : Instant) :
    Learns e (e.router.handed (eventRoutes now e events))
      (events.foldl (fun e event => (e.deliver event now).2) e) := by
  induction events generalizing e with
  | nil => exact .refl e
  | cons event rest ih =>
      show Learns e (e.router.handed ([_] ++ _)) _
      rw [(deliver_routes event now).handed_append]
      exact (deliver_learns e event now).trans (ih _)

theorem publishSettled_learns (e : Engine τ) : Learns e [] e.publishSettled := by
  obtain ⟨store, heq⟩ := e.publishSettled_eq
  rw [heq]
  exact ⟨⟨rfl, rfl, rfl, rfl, rfl⟩, rfl⟩

variable [Transport τ]

theorem flush_learns (e : Engine τ) (now : Instant) : Learns e [] (e.flush now) := by
  unfold flush
  split
  · have hsent := Outbox.flush_sink
      (Q := fun s : Session τ =>
        s.user? = e.session.user? ∧ s.activations = e.session.activations)
      Session.sendFrame (fun s a h => by
        have hcalm := s.sendFrame_calm a.frame
        exact ⟨hcalm.user.trans h.1, hcalm.activations.trans h.2⟩) e.outbox ⟨rfl, rfl⟩ now e.timers
    exact ⟨⟨rfl, rfl, rfl, hsent.1, hsent.2⟩, rfl⟩
  · exact .refl e

theorem handleSignal_learns (e : Engine τ) {x : Session.Signal} (hx : x.activates = false)
    (now : Instant) :
    Learns e (e.router.handed (e.signalRoutes now x)) (e.handleSignal x now) := by
  have hstill : Learns e [] e := .refl e
  cases x with
  | stateChanged before after =>
      have hafter : after ≠ .active := by
        rintro rfl
        cases hx
      dsimp only [handleSignal, handleStateChange]
      rw [if_neg hafter]
      split <;> exact ⟨⟨rfl, rfl, rfl, rfl, rfl⟩, rfl⟩
  | inbound frame =>
      cases frame with
      | ack ack =>
          have hacked : Learns e [] { e with
              outbox := (e.outbox.acknowledge e.timers ack).2.1
              timers := (e.outbox.acknowledge e.timers ack).2.2 } :=
            ⟨⟨rfl, rfl, rfl, rfl, rfl⟩, rfl⟩
          simp only [handleSignal, handleInbound]
          split
          · exact hacked.trans (flush_learns _ now)
          · exact hacked
      | event event => exact deliver_learns e event now
      | error code message => exact ⟨⟨rfl, rfl, rfl, rfl, rfl⟩, rfl⟩
      | _ => exact hstill
  | connectionLost id reason => exact hstill
  | _ => exact ⟨⟨rfl, rfl, rfl, rfl, rfl⟩, rfl⟩

theorem signals_learns {signals : List Session.Signal} (h : ∀ x ∈ signals, x.activates = false)
    (e : Engine τ) (now : Instant) :
    Learns e (e.router.handed (signalsRoutes now e signals))
      (signals.foldl (fun e x => handleSignal e x now) e) := by
  induction signals generalizing e with
  | nil => exact .refl e
  | cons x rest ih =>
      obtain ⟨hx, hrest⟩ := List.forall_mem_cons.mp h
      rw [signalsRoutes, (handleSignal_routes x now).handed_append]
      exact (handleSignal_learns e hx now).trans (ih hrest _)

theorem processSignals_learns (h : ∀ x ∈ e.session.signals, x.activates = false) (now : Instant) :
    Learns e (e.router.handed (e.processRoutes now)) (e.processSignals now) := by
  have htaken : Learns e [] { e with session := e.session.takeSignals.2 } :=
    ⟨⟨rfl, rfl, rfl, rfl, rfl⟩, rfl⟩
  have hsignals := signals_learns h { e with session := e.session.takeSignals.2 } now
  exact (htaken.after hsignals).before (publishSettled_learns _)

theorem handleTimer_learns (htold : e.session.signals = []) (key : Timer.Key) (now : Instant) :
    Learns e (e.router.handed (e.keyRoutes now key)) (e.handleTimer key now) := by
  unfold keyRoutes handleTimer
  cases hkey : e.session.handleTimer key now e.timers with
  | none =>
      dsimp only
      have hstill : Learns e [] e := .refl e
      have hdone : ∀ e' : Engine τ, Learns e [] e' → Learns e [] e'.publishSettled :=
        fun e' h => h.before (publishSettled_learns e')
      cases key with
      | action id =>
          have hexpired : Learns e [] { e with
              outbox := (e.outbox.expire e.timers id now).1
              timers := (e.outbox.expire e.timers id now).2 } := ⟨⟨rfl, rfl, rfl, rfl, rfl⟩, rfl⟩
          exact hdone _ (hexpired.before (flush_learns _ now))
      | localTyping chat =>
          refine hdone _ ?_
          simp only [endLocalTyping]
          split
          · have hended : Learns e [] ({ e with
                localTyping := e.localTyping.erase chat }.enqueueNew (.typingStop chat) now) :=
              ⟨⟨rfl, rfl, rfl, rfl, rfl⟩, rfl⟩
            exact hended.before (flush_learns _ now)
          · exact hstill
      | typingSweep =>
          refine hdone _ ?_
          obtain ⟨store, hsweep⟩ := e.sweepTyping_eq now
          simp only [hsweep]
          exact ⟨⟨rfl, rfl, rfl, rfl, rfl⟩, rfl⟩
      | _ => exact hdone _ hstill
  | some answer =>
      have hcalm := Session.handleTimer_calm hkey
      have hturned : Learns e [] { e with session := answer.1, timers := answer.2 } :=
        ⟨⟨rfl, rfl, rfl, hcalm.user, hcalm.activations⟩, rfl⟩
      exact hturned.after (processSignals_learns (hcalm.quiet htold) now)

theorem keys_learns (htold : e.session.signals = []) (keys : List Timer.Key) (now : Instant) :
    Learns e (e.router.handed (keysRoutes now e keys))
      (keys.foldl (fun e key => handleTimer e key now) e) := by
  induction keys generalizing e with
  | nil => exact .refl e
  | cons key rest ih =>
      have htold' := handleTimer_kept told_kept htold key now fun _ _ => trivial
      rw [keysRoutes, (handleTimer_routes key now).handed_append]
      exact (handleTimer_learns htold key now).trans (ih htold')

theorem applyHistory_learns (e : Engine τ) (chat : String) (generation : Nat)
    (result : Except String (List Message)) (now : Instant) :
    Learns e (e.router.handed (e.stepRoutes (.history chat generation result now)))
      (e.applyHistory chat generation result now) := by
  unfold applyHistory
  cases result with
  | ok messages =>
      dsimp only [stepRoutes]
      split
      · exact events_learns _ e now
      · exact .refl e
  | error reason =>
      split
      · exact ⟨⟨rfl, rfl, rfl, rfl, rfl⟩, rfl⟩
      · exact .refl e

theorem submit_learns (e : Engine τ) (a : Action) (now : Instant) :
    Learns e (e.intended (.submit a now)) (e.step (.submit a now)) := by
  dsimp only [intended, step, submit]
  cases a.intent.check with
  | error fault => exact .refl e
  | ok _ =>
      dsimp only
      have hstopped : Learns e []
          (if a.kind = .sendMessage then e.stopTyping a.chat now else e) := by
        obtain ⟨_, _, _, _, heq⟩ := e.stopTyping_eq a now
        rw [heq]
        exact ⟨⟨rfl, rfl, rfl, rfl, rfl⟩, rfl⟩
      generalize (if a.kind = .sendMessage then e.stopTyping a.chat now else e) = stopped at *
      have hnoted : Learns stopped [.addressed a.chat]
          ((stopped.noteChat a.chat none).enqueue a).2 := ⟨⟨rfl, rfl, rfl, rfl, rfl⟩, rfl⟩
      refine (hstopped.after (hnoted.before ?_)).before (publishSettled_learns _)
      refine Learns.before ?_ (flush_learns _ now)
      split <;> exact ⟨⟨rfl, rfl, rfl, rfl, rfl⟩, rfl⟩

theorem keystroke_learns (e : Engine τ) (chat : String) (now : Instant) :
    Learns e [] (e.step (.keystroke chat now)) := by
  dsimp only [step, keystroke]
  cases checkChat chat with
  | error fault => exact .refl e
  | ok _ =>
      dsimp only
      refine Learns.before (Learns.before ?_ (flush_learns _ now)) (publishSettled_learns _)
      split <;> exact ⟨⟨rfl, rfl, rfl, rfl, rfl⟩, rfl⟩

end Parts

/-! ## 4. What is published -/

section Notices

variable [Transport τ] {e : Engine τ} {now : Instant}

omit [Transport τ] in
theorem settledSince_landmarks (e e' : Engine τ) :
    (e.settledSince e').filterMap Notice.landmark? = [] := by
  rw [settledSince, List.filterMap_map]
  exact List.filterMap_eq_nil_iff.mpr fun _ _ => rfl

theorem processNotices_landmarks (e : Engine τ) (now : Instant) :
    (e.processNotices now).filterMap Notice.landmark? =
      (e.session.signals.filter (·.activates)).map fun _ => .activated := by
  have hsignal : ∀ x : Session.Signal, x.notice?.bind Notice.landmark? =
      if x.activates then some .activated else none := by
    intro x
    cases x with
    | stateChanged before after => cases after <;> rfl
    | inbound frame => cases frame <;> rfl
    | _ => rfl
  rw [processNotices, List.filterMap_append, settledSince_landmarks, List.append_nil,
    List.filterMap_filterMap, funext hsignal, ← List.filterMap_eq_map, ← List.filterMap_filter]
  rfl

theorem processNotices_calm (h : ∀ x ∈ e.session.signals, x.activates = false) (now : Instant) :
    (e.processNotices now).filterMap Notice.landmark? = [] := by
  have hnone : e.session.signals.filter (·.activates) = [] :=
    List.filter_eq_nil_iff.mpr fun x hx => by simp [h x hx]
  rw [processNotices_landmarks, hnone]
  rfl

theorem keysNotices_calm (htold : e.session.signals = []) (keys : List Timer.Key) (now : Instant) :
    (keysNotices now e keys).filterMap Notice.landmark? = [] := by
  induction keys generalizing e with
  | nil => rfl
  | cons key rest ih =>
      have hfirst : (e.keyNotices now key).filterMap Notice.landmark? = [] := by
        unfold keyNotices
        cases hkey : e.session.handleTimer key now e.timers with
        | none => exact settledSince_landmarks _ _
        | some answer =>
            exact processNotices_calm
              (e := { e with session := answer.1, timers := answer.2 })
              ((Session.handleTimer_calm hkey).quiet htold) now
      rw [keysNotices, List.filterMap_append, hfirst,
        ih (handleTimer_kept told_kept htold key now fun _ _ => trivial)]
      rfl

end Notices

/-! ## 5. Inputs -/

/-- What a client remembers is what the record says. -/
structure Recalls (e : Engine τ) (log : List Landmark) : Prop where
  cursors : e.cursors = recollect log
  user : e.session.user? = loggedIn? log
  activations : e.session.activations = activeTimes log
  generation : e.generation = logouts log
  enabled : e.historyEnabled = true

theorem Recalls.learns {e e' : Engine τ} {log marks : List Landmark} (h : e.Recalls log)
    (hlearns : e.Learns marks e') (hof : ∀ x ∈ marks, x.isOfChat = true) :
    e'.Recalls (marks ++ log) where
  cursors := by rw [hlearns.cursors, h.cursors, recollect, recollect, List.foldr_append]
  user := by rw [hlearns.user, h.user, loggedIn?_append hof]
  activations := by rw [hlearns.activations, h.activations, activeTimes_append hof]
  generation := by rw [hlearns.generation, h.generation, logouts_append hof]
  enabled := hlearns.enabled.trans h.enabled

section Steps

variable [Transport τ] {e : Engine τ} {log : List Landmark}

omit [Transport τ] in
/-- The requests of before that an input leaves alone. -/
def outstanding (e : Engine τ) : Input τ → List History.Request
  | .logout _ | .takeHistoryRequests => []
  | _ => e.historyRequests

omit [Transport τ] in
/-- Requests for the messages of every chat that the client remembers. -/
def everyChat (e : Engine τ) (c : Credentials) : List History.Request :=
  e.cursors.entries.map fun (chat, since) => ⟨chat, since, c.token, e.generation⟩

/-- What an input asks for: nothing, or the messages of every known chat if the session becomes
active once more. -/
inductive Asks (e : Engine τ) (log : List Landmark) (i : Input τ) : Prop where
  | nothing (h : .activated ∉ e.landmarks i) (hr : (e.step i).historyRequests = e.outstanding i)
  | all (hbefore : e.session.state ≠ .active) (hafter : (e.step i).session.state = .active)
      (h : e.landmarks i = [.activated]) {c : Credentials} (hc : loggedIn? log = some c)
      (hr : (e.step i).historyRequests =
        e.outstanding i ++ if 0 < activeTimes log then wanted log c else [])

/-- After an input the memory is in step with the record again, and it asked for what it had to. -/
structure Heeds (e : Engine τ) (log : List Landmark) (i : Input τ) : Prop where
  recalls : (e.step i).Recalls (e.landmarks i ++ log)
  asks : e.Asks log i

/-- An input that does not make the session active. -/
theorem heeds_calm {e' : Engine τ} {i : Input τ} {marks first : List Landmark}
    (hmarks : e.landmarks i = marks ++ first) (hof : ∀ x ∈ marks, x.isOfChat = true)
    (hfirst : .activated ∉ first) (h : e'.Recalls (first ++ log))
    (hrequests : e'.historyRequests = e.outstanding i) (hlearns : e'.Learns marks (e.step i)) :
    e.Heeds log i := by
  refine ⟨?_, .nothing ?_ (hlearns.requests.trans hrequests)⟩
  · rw [hmarks, List.append_assoc]
    exact h.learns hlearns hof
  · rw [hmarks]
    intro hmem
    rcases List.mem_append.mp hmem with hmem | hmem
    · cases hof _ hmem
    · exact hfirst hmem

/-- An input of which nothing is noted. -/
theorem heeds_still {i : Input τ} (hmarks : e.landmarks i = [] ++ []) (h : e.Recalls log)
    (hlearns : Learns { e with historyRequests := e.outstanding i } [] (e.step i)) :
    e.Heeds log i := by
  have hrecalls : Recalls { e with historyRequests := e.outstanding i } log :=
    ⟨h.cursors, h.user, h.activations, h.generation, h.enabled⟩
  exact heeds_calm hmarks (by simp) List.not_mem_nil hrecalls rfl hlearns

omit [Transport τ] in
theorem requestResync_learns {c : Credentials} (hc : e.session.user? = some c)
    (hon : e.historyEnabled = true) :
    Learns { e with historyRequests := e.historyRequests ++ e.everyChat c } [] e.requestResync := by
  obtain ⟨login, hlogin, rfl⟩ := Option.map_eq_some_iff.mp hc
  unfold requestResync
  simp only [hlogin, hon, if_true]
  exact ⟨⟨rfl, rfl, rfl, rfl, rfl⟩, rfl⟩

/-- The session becomes active. -/
theorem processSignals_awakes {c : Credentials}
    (h : e.session.signals = [.stateChanged .authenticating .active])
    (hc : e.session.user? = some c) (hon : e.historyEnabled = true) (now : Instant) :
    Learns { e with historyRequests :=
        e.historyRequests ++ if 1 < e.session.activations then e.everyChat c else [] } []
      (e.processSignals now) := by
  let told : Engine τ := { e with session := e.session.takeSignals.2 }.publish
    (.stateChanged .authenticating .active)
  have hprocess : e.processSignals now = (((if 1 < told.session.activations then told.requestResync
      else told).flush now).publishSettled) := by
    unfold processSignals
    rw [show e.session.takeSignals = (e.session.signals, e.session.takeSignals.2) from rfl, h]
    rfl
  rw [hprocess]
  refine Learns.before (Learns.before ?_ (flush_learns _ now)) (publishSettled_learns _)
  have hcount : told.session.activations = e.session.activations := rfl
  rw [hcount]
  split
  · have htold : Learns { e with historyRequests := e.historyRequests ++ e.everyChat c } []
        { told with historyRequests := told.historyRequests ++ told.everyChat c } :=
      ⟨⟨rfl, rfl, rfl, rfl, rfl⟩, rfl⟩
    exact htold.before (requestResync_learns hc hon)
  · exact ⟨⟨(List.append_nil _).symm, rfl, rfl, rfl, rfl⟩, rfl⟩

omit [Transport τ] in
/-- What is remembered of chats and logouts is left alone, and all else is known. -/
theorem Recalls.of_session {e' : Engine τ} {x : Landmark} (h : e.Recalls log)
    (hcursors : e'.cursors = x.note e.cursors) (hgeneration : e'.generation = logouts (x :: log))
    (henabled : e'.historyEnabled = e.historyEnabled)
    (huser : e'.session.user? = loggedIn? (x :: log))
    (hcount : e'.session.activations = activeTimes (x :: log)) : e'.Recalls (x :: log) :=
  ⟨by rw [hcursors, h.cursors]; rfl, huser, hcount, hgeneration, henabled.trans h.enabled⟩

theorem Recalls.connect (h : e.Recalls log) {credentials : Credentials} {now : Instant}
    {answer : Session τ × Timers}
    (hanswer : e.session.connect credentials now e.timers = .ok answer) :
    Recalls { e with session := answer.1, timers := answer.2 } (.began credentials :: log) := by
  have hcalm := Session.connect_calm hanswer
  refine h.of_session rfl ?_ rfl (hcalm.user.trans ?_) (hcalm.activations.trans ?_)
  · exact h.generation.trans (List.count_cons_of_ne (by simp)).symm
  · simp [loggedIn?, sinceLogout, List.findSome?_cons, Landmark.credentials?, Session.user?]
  · simp [activeTimes, Landmark.credentials?]

theorem Recalls.endLogin (h : e.Recalls log) : e.endLogin.Recalls (.ended :: log) := by
  obtain ⟨timers, hsession⟩ := e.endLogin_session
  have hcalm := e.session.logout_calm timers
  rw [← hsession] at hcalm
  refine h.of_session rfl ?_ rfl (hcalm.user.trans ?_) (hcalm.activations.trans ?_)
  · exact (congrArg (· + 1) h.generation).trans List.count_cons_self.symm
  · simp [loggedIn?, sinceLogout, Session.user?]
  · exact h.activations.trans (by simp [activeTimes, Landmark.credentials?])

omit [Transport τ] in
/-- The session becomes active: it is known who is logged in, and it is counted. -/
theorem Recalls.awakes {e' : Engine τ} (h : e.Recalls log)
    (hawake : Session.Awakes e.session e'.session)
    (hcursors : e'.cursors = e.cursors) (hgeneration : e'.generation = e.generation)
    (henabled : e'.historyEnabled = e.historyEnabled) : e'.Recalls (.activated :: log) := by
  refine h.of_session hcursors ?_ henabled (hawake.user.trans ?_) (hawake.activations.trans ?_)
  · exact (hgeneration.trans h.generation).trans (List.count_cons_of_ne (by simp)).symm
  · rw [h.user]
    simp [loggedIn?, sinceLogout, List.findSome?_cons, Landmark.credentials?]
  · rw [h.activations]
    simp [activeTimes, Landmark.credentials?]

theorem connect_heeds (h : e.Recalls log) (htold : e.session.signals = [])
    (credentials : Credentials) (now : Instant) : e.Heeds log (.connect credentials now) := by
  cases hanswer : e.session.connect credentials now e.timers with
  | ok answer =>
      let e' : Engine τ := { e with session := answer.1, timers := answer.2 }
      have hquiet := (Session.connect_calm hanswer).quiet htold
      have hmarks : e.landmarks (.connect credentials now) =
          e'.router.handed (e'.processRoutes now) ++ [.began credentials] := by
        simp only [landmarks, stepNotices, stepRoutes, intended, hanswer]
        rw [processNotices_calm hquiet]
        rfl
      have hstep : e.step (.connect credentials now) = e'.processSignals now := by
        simp only [step, Engine.connect, hanswer]
        rfl
      have hlearns := processSignals_learns (e := e') hquiet now
      rw [← hstep] at hlearns
      exact heeds_calm hmarks Router.handed_isOfChat (by simp) (h.connect hanswer) rfl hlearns
  | error state =>
      have hmarks : e.landmarks (.connect credentials now) = [] := by
        simp only [landmarks, stepNotices, stepRoutes, intended, hanswer]
        rfl
      refine heeds_still hmarks h ?_
      simp only [step, Engine.connect, hanswer]
      exact .refl e

theorem logout_heeds (h : e.Recalls log) (htold : e.session.signals = []) (now : Instant) :
    e.Heeds log (.logout now) := by
  have hquiet : ∀ x ∈ e.endLogin.session.signals, x.activates = false := by
    obtain ⟨timers, hsession⟩ := e.endLogin_session
    rw [hsession]
    exact (e.session.logout_calm timers).quiet htold
  have hmarks : e.landmarks (.logout now) =
      e.endLogin.router.handed (e.endLogin.processRoutes now) ++ [.ended] := by
    simp only [landmarks, stepNotices, stepRoutes, intended]
    rw [processNotices_calm hquiet]
    rfl
  exact heeds_calm hmarks Router.handed_isOfChat (by simp) h.endLogin rfl
    (processSignals_learns hquiet now)

theorem event_heeds (h : e.Recalls log) (htold : e.session.signals = [])
    (hstage : ∃ journal, e.session.Stage journal) (connection : ConnectionId)
    (event : Transport.Event) (now : Instant) : e.Heeds log (.event connection event now) := by
  let e' : Engine τ := { e with
    session := (e.session.handleEvent connection event now e.timers).1
    timers := (e.session.handleEvent connection event now e.timers).2 }
  have hmarks : e.landmarks (.event connection event now) =
      (e'.processNotices now).filterMap Notice.landmark? ++
        (e'.router.handed (e'.processRoutes now) ++ []) := rfl
  rcases e.session.handleEvent_wakes connection event now e.timers with hcalm | ⟨hid, hawake⟩
  · have hquiet := hcalm.quiet htold
    have hrecalls : e'.Recalls log := ⟨h.cursors, hcalm.user.trans h.user,
      hcalm.activations.trans h.activations, h.generation, h.enabled⟩
    rw [processNotices_calm (e := e') hquiet, List.nil_append] at hmarks
    exact heeds_calm hmarks Router.handed_isOfChat List.not_mem_nil hrecalls rfl
      (processSignals_learns hquiet now)
  · -- the session was about to become active, so somebody is logged in
    obtain ⟨journal, hstage⟩ := hstage
    obtain ⟨current, hcurrent, -⟩ := Option.map_eq_some_iff.mp hid
    obtain ⟨c, hc, -⟩ := hstage.authenticating hawake.accepted current hcurrent
    have hsignals : e'.session.signals = [.stateChanged .authenticating .active] := by
      rw [show e'.session.signals = _ from hawake.told, htold]
      rfl
    have hsilent : e'.processRoutes now = [] := by
      rw [processRoutes, hsignals]
      rfl
    rw [processNotices_landmarks, hsignals, hsilent] at hmarks
    have hlearns := processSignals_awakes hsignals (hawake.user.trans hc) h.enabled now
    have hcount : (1 < e'.session.activations) = (0 < activeTimes log) := by
      rw [show e'.session.activations = _ from hawake.activations, h.activations]
      simp
    have hevery : e'.everyChat c = wanted log c := by
      rw [everyChat, wanted, ← h.cursors, ← h.generation]
    simp only [hcount, hevery] at hlearns
    have hrecalls : Recalls { e' with historyRequests :=
        e'.historyRequests ++ if 0 < activeTimes log then wanted log c else [] }
        (.activated :: log) := h.awakes hawake rfl rfl rfl
    have hbefore : e.session.state ≠ .active := by
      rw [hawake.accepted]
      decide
    have hafter := (processSignals_utters e' now).state.trans hawake.active
    refine ⟨?_, ?_⟩
    · rw [hmarks]
      exact hrecalls.learns hlearns (by simp)
    · exact .all hbefore hafter hmarks (h.user.symm.trans hc) hlearns.requests

theorem history_heeds (h : e.Recalls log) (chat : String) (generation : Nat)
    (result : Except String (List Message)) (now : Instant) :
    e.Heeds log (.history chat generation result now) := by
  have hnotices : (e.stepNotices (.history chat generation result now)).filterMap
      Notice.landmark? = [] := by
    cases result with
    | ok messages => rfl
    | error reason =>
        dsimp only [stepNotices]
        split <;> rfl
  have hmarks : e.landmarks (.history chat generation result now) =
      e.router.handed (e.stepRoutes (.history chat generation result now)) ++ [] := by
    rw [landmarks, hnotices]
    rfl
  exact heeds_calm hmarks Router.handed_isOfChat List.not_mem_nil h rfl
    (applyHistory_learns e chat generation result now)

/-- **Every input keeps the memory in step with the record**, and asks for the messages of every
known chat only if it makes the session active once more. -/
theorem step_heeds (h : e.Recalls log) (htold : e.session.signals = [])
    (hstage : ∃ journal, e.session.Stage journal) (i : Input τ) : e.Heeds log i := by
  cases i with
  | connect credentials now => exact connect_heeds h htold credentials now
  | logout now => exact logout_heeds h htold now
  | event connection event now => exact event_heeds h htold hstage connection event now
  | history chat generation result now => exact history_heeds h chat generation result now
  | submit a now =>
      have hmarks : e.landmarks (.submit a now) = e.intended (.submit a now) ++ [] := by
        rw [List.append_nil, landmarks, stepNotices, settledSince_landmarks]
        rfl
      refine heeds_calm hmarks ?_ List.not_mem_nil h rfl (submit_learns e a now)
      dsimp only [intended]
      split <;> simp [Landmark.isOfChat]
  | keystroke chat now =>
      have hmarks : e.landmarks (.keystroke chat now) = [] := by
        rw [landmarks, stepNotices, settledSince_landmarks]
        rfl
      exact heeds_still hmarks h (keystroke_learns e chat now)
  | timers now =>
      let e' : Engine τ := { e with timers := (e.timers.drain now).2 }
      have hmarks : e.landmarks (.timers now) =
          e'.router.handed (keysRoutes now e' (e.timers.due now)) ++ [] := by
        rw [landmarks, stepNotices, keysNotices_calm (e := e') htold]
        rfl
      have hrecalls : e'.Recalls log := ⟨h.cursors, h.user, h.activations, h.generation, h.enabled⟩
      exact heeds_calm hmarks Router.handed_isOfChat List.not_mem_nil hrecalls rfl
        (keys_learns (e := e') htold (e.timers.due now) now)
  | _ => exact heeds_still rfl h ⟨⟨rfl, rfl, rfl, rfl, rfl⟩, rfl⟩

theorem record_append (e : Engine τ) (before after : List (Input τ)) :
    e.record (before ++ after) = (e.run before).record after ++ e.record before := by
  induction before generalizing e with
  | nil => exact (List.append_nil _).symm
  | cons i rest ih =>
      rw [List.cons_append, record, ih, record, List.append_assoc]
      rfl

/-- **In every run** the memory is in step with the record. -/
theorem run_recalls (h : e.Recalls log) (hrest : e.AtRest) (inputs : List (Input τ)) :
    (e.run inputs).Recalls (e.record inputs ++ log) := by
  induction inputs generalizing e log with
  | nil => exact h
  | cons i rest ih =>
      obtain ⟨journal, hstage⟩ := hrest.stage
      have hstep := (step_heeds h hrest.told hrest.stage i).recalls
      rw [record, List.append_assoc]
      exact ih hstep (happen_atRest hrest (.input i))

omit [Transport τ] in
theorem Fresh.recalls (h : e.Fresh) : e.historyEnabled = true → e.Recalls [] := by
  refine h.rule fun settings endpoint transport entropy ids store historyEnabled hon => ?_
  exact ⟨rfl, rfl, rfl, rfl, hon⟩

end Steps

end Engine

end RealtimeChat
