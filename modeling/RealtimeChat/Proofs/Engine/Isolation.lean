import RealtimeChat.Proofs.Engine.Gate
import RealtimeChat.Proofs.Session.Transport
/-!
# Logins do not mix

Logging out puts away all that belongs to the login: queued actions are cancelled, requests are
dropped, and answers to earlier requests are recognised by their generation. So as long as nobody is
logged in over somebody else, nothing of one login reaches another.

* `Carries` -- of the frames on record those of actions are frames of these actions;
* `Holding` -- the outbox holds only these actions, and the requests are those of this generation;
* **`step_holding`** -- an input lets in and sends only these actions;
* `Apart` -- nobody is logged in over somebody else;
* `Isolated`, **`run_isolated`** -- the property, and that it holds in every run of this kind;
* `failed_login_inherited` -- the login after one that failed is not of this kind, and inherits.
-/

namespace RealtimeChat

open Transport (Call Recorded)

/-- Of the frames that were sent those of actions are frames of these actions. -/
def Transport.Carries (S : Action → Prop) (calls : List Call) : Prop :=
  ∀ id frame ok, .sent id frame ok ∈ calls → frame.actionId?.isSome = true →
    ∃ a, S a ∧ frame = a.frame

namespace Transport.Carries

variable {S : Action → Prop} {calls : List Call}

theorem nil : Carries S [] := fun _ _ _ h => absurd h List.not_mem_nil

theorem cons (h : Carries S calls) {call : Call}
    (hcall : ∀ id frame ok, call = .sent id frame ok → frame.actionId?.isSome = true →
      ∃ a, S a ∧ frame = a.frame) : Carries S (call :: calls) := by
  intro id frame ok hmem
  rcases List.mem_cons.mp hmem with heq | hmem
  · exact hcall id frame ok heq.symm
  · exact h id frame ok hmem

/-- What a session says by itself is about no action. -/
theorem spoken {τ : Type} [Transport τ] (S : Action → Prop) :
    Session.Spoken fun t : Recorded τ => Carries S t.calls where
  opened _ _ _ h := h.cons nofun
  closed _ h := h.cons nofun
  introduced _ _ _ h := h.cons fun _ _ _ heq hsome => by cases heq; cases hsome
  alive _ h := h.cons fun _ _ _ heq hsome => by cases heq; cases hsome

end Transport.Carries

/-- The frame of one of these actions is sent. -/
theorem Session.sendFrame_carries {τ : Type} [Transport τ] {S : Action → Prop}
    {s : Session (Recorded τ)} (h : Transport.Carries S s.transport.calls) {a : Action} (ha : S a) :
    Transport.Carries S (s.sendFrame a.frame).2.transport.calls := by
  unfold sendFrame
  split
  · split
    · exact h.cons fun _ _ _ heq _ => ⟨a, ha, by cases heq; rfl⟩
    · exact h
  · exact h

namespace Engine

open Outbox (Operation)
open Session (Mark current Introduced Admitted)
open Transport (Carries)

variable {τ : Type}

/-! ## 1. What belongs to a login -/

/-- The outbox holds only these actions, and the requests that nobody has taken are those of this
generation. -/
structure Holding (S : Action → Prop) (e : Engine τ) : Prop where
  sound : e.outbox.Sound
  held : e.outbox.Holds S
  asked : ∀ r ∈ e.historyRequests, r.generation = e.generation

/-- The same in the middle of an input that is on record, together with what was sent so far. -/
structure Owned (S : Action → Prop) (generation : Nat) (e : Engine (Recorded τ)) : Prop
    extends e.Holding S where
  carries : Carries S e.session.transport.calls
  unchanged : e.generation = generation

section Steps

variable {S : Action → Prop} {generation : Nat}

theorem requestResync_asked {e : Engine τ} (h : ∀ r ∈ e.historyRequests, r.generation = e.generation) :
    ∀ r ∈ e.requestResync.historyRequests, r.generation = e.generation := by
  unfold requestResync
  repeat' split
  · intro r hr
    rcases List.mem_append.mp hr with hr | hr
    · exact h r hr
    · obtain ⟨_, _, rfl⟩ := List.mem_map.mp hr
      rfl
  · exact h
  · exact h

variable [Transport τ]

theorem kept_owned : Kept (fun a => S a.initial) (Owned (τ := τ) S generation) where
  about h hs ho hr hg :=
    ⟨⟨ho ▸ h.sound, ho ▸ h.held, by rw [hr, hg]; exact h.asked⟩, by rw [hs]; exact h.carries,
      hg.trans h.unchanged⟩
  operate {e} op hop h :=
    ⟨⟨Outbox.perform_sound h.sound e.timers op, Outbox.perform_holds h.sound h.held e.timers op hop,
      h.asked⟩, h.carries, h.unchanged⟩
  flush {e} now h := by
    unfold Engine.flush
    split
    · let op : Operation := .flush Session.sendFrame e.session now
      have hsound := Outbox.perform_sound h.sound e.timers op
      have hholds := Outbox.perform_holds h.sound h.held e.timers op nofun
      have hsent : Carries S
          (e.outbox.flush Session.sendFrame e.session now e.timers).2.2.1.transport.calls :=
        Outbox.flush_holds (Q := fun s : Session (Recorded τ) => Carries S s.transport.calls)
        (fun _ _ ha hs => Session.sendFrame_carries hs ha) h.held h.carries now e.timers
      exact ⟨⟨hsound, hholds, h.asked⟩, hsent, h.unchanged⟩
    · exact h
  resync {e} h := by
    have hasked := requestResync_asked h.asked
    obtain ⟨historyRequests, heq⟩ := e.requestResync_eq
    rw [heq] at hasked ⊢
    exact ⟨⟨h.sound, h.held, hasked⟩, h.carries, h.unchanged⟩
  timer {e key now answer} h hanswer :=
    ⟨⟨h.sound, h.held, h.asked⟩,
      Session.handleTimer_spoken (Carries.spoken S) h.carries key now e.timers hanswer, h.unchanged⟩

/-! ## 2. Inputs -/

/-- A logout makes a clean start. -/
theorem entered_logout {e : Engine τ} (hs : e.outbox.Sound) (now : Instant) :
    (e.onRecord.entered (.logout now)).Owned S (e.generation + 1) := by
  obtain ⟨timers, hsession⟩ := e.onRecord.endLogin_session
  have hlogout := Session.logout_spoken (s := e.onRecord.session) (Carries.spoken S) .nil timers
  rw [← hsession] at hlogout
  exact ⟨⟨Outbox.perform_sound hs e.timers .cancelAll, Outbox.cancelAll_holds S e.outbox e.timers,
    fun _ hr => absurd hr List.not_mem_nil⟩, hlogout, rfl⟩

/-- An input that enters lets nobody in, and says nothing about actions. -/
theorem entered_owned {e : Engine τ} (i : Input τ) (h : e.Holding S) :
    (e.onRecord.entered i.recorded).Owned S (e.entered i).generation := by
  have hnone : Carries S e.onRecord.session.transport.calls := .nil
  have hstill : e.onRecord.Owned S e.generation := ⟨⟨h.sound, h.held, h.asked⟩, hnone, rfl⟩
  have hspoken := Carries.spoken (τ := τ) S
  cases i with
  | connect credentials now =>
      have hgeneration : (e.entered (.connect credentials now)).generation = e.generation := by
        dsimp only [entered]
        split <;> rfl
      rw [hgeneration]
      dsimp only [entered, Input.recorded]
      split
      · rename_i session timers hconnect
        have hanswer := Session.connect_spoken hspoken hnone credentials now _ hconnect
        exact ⟨⟨h.sound, h.held, h.asked⟩, hanswer, rfl⟩
      · exact hstill
  | logout now => exact entered_logout h.sound now
  | event connection event now =>
      have hanswer := Session.handleEvent_spoken hspoken hnone connection event now
        e.onRecord.timers
      exact ⟨⟨h.sound, h.held, h.asked⟩, hanswer, rfl⟩
  | takeHistoryRequests =>
      exact ⟨⟨h.sound, h.held, fun _ hr => absurd hr List.not_mem_nil⟩, hnone, rfl⟩
  | transport f => exact ⟨⟨h.sound, h.held, h.asked⟩, hnone, rfl⟩
  | _ => exact hstill

/-- What is so when an input has entered on record is so after the input. -/
theorem holding_of_entered {e : Engine τ} {i : Input τ}
    (h : (e.onRecord.entered i.recorded).Owned S generation)
    (hS : ∀ a, .enqueue a ∈ e.stepCalls i → S a.initial) :
    (e.step i).Holding S ∧ Carries S (e.called i) ∧ (e.step i).generation = generation := by
  have howned := step_kept kept_owned i.recorded
    (fun a ha => hS a (enqueue_mem_stepCalls_bare e.onRecord i ha)) h
  rw [← step_onRecord e i]
  exact ⟨⟨howned.sound, howned.held, howned.asked⟩, howned.carries, howned.unchanged⟩

/-- **An input lets in and sends these actions only**, if it queues no others. -/
theorem step_holding {e : Engine τ} (h : e.Holding S) (i : Input τ)
    (hS : ∀ a, .enqueue a ∈ e.stepCalls i → S a.initial) :
    (e.step i).Holding S ∧ Carries S (e.called i) ∧
      (e.step i).generation = (e.entered i).generation :=
  holding_of_entered (entered_owned i h) hS

/-- **After a logout** nobody is in line, and nothing was sent about actions. -/
theorem logout_holding {e : Engine τ} (hs : e.outbox.Sound) (now : Instant) (S : Action → Prop) :
    (e.step (.logout now)).Holding S ∧ Carries S (e.called (.logout now)) :=
  have hlogout := holding_of_entered (S := S) (entered_logout hs now)
    fun _ ha => absurd ha enqueue_not_mem_logout
  ⟨hlogout.1, hlogout.2.1⟩

/-! ## 3. Runs -/

/-- What is sent in a run is about these actions only, if no others are queued. -/
theorem run_carries {e : Engine τ} (h : e.Holding S) (inputs : List (Input τ))
    (hS : ∀ a, .enqueue a ∈ e.calls inputs → S a.initial) {id : ConnectionId} {frame : Outgoing}
    {ok : Bool} (hmem : .did (.sent id frame ok) ∈ e.journal [] inputs)
    (hframe : frame.actionId?.isSome = true) : ∃ a, S a ∧ frame = a.frame := by
  induction inputs generalizing e with
  | nil => exact absurd hmem List.not_mem_nil
  | cons i rest ih =>
      obtain ⟨hstep, hcarries, -⟩ := step_holding h i fun a ha =>
        hS a (List.mem_append_left _ ha)
      rw [journal_cons] at hmem
      rcases List.mem_append.mp hmem with hmem | hmem
      · exact ih hstep (fun a ha => hS a (List.mem_append_right _ ha)) hmem
      · exact hcarries id frame ok (mem_marks_sent.mp hmem) hframe

/-- Whatever is queued, the requests stay those of the generation. -/
theorem step_sane {e : Engine τ} (h : e.Holding fun _ => True) (i : Input τ) :
    (e.step i).Holding fun _ => True :=
  (step_holding h i fun _ _ => trivial).1

theorem run_sane {e : Engine τ} (h : e.Holding fun _ => True) (inputs : List (Input τ)) :
    (e.run inputs).Holding fun _ => True := by
  induction inputs generalizing e with
  | nil => exact h
  | cons i rest ih => exact ih (step_sane h i)

/-- **What is sent after a logout is about actions that were queued after it.** -/
theorem run_ended {e : Engine τ} (h : e.Holding fun _ => True) (inputs : List (Input τ))
    {newer mid : List Mark} {id : ConnectionId} {frame : Outgoing} {ok : Bool}
    (hlog : e.journal [] inputs = newer ++ .did (.sent id frame ok) :: mid) (hended : .ended ∈ mid)
    (hframe : frame.actionId?.isSome = true) :
    ∃ a, .enqueue a ∈ e.calls inputs ∧ frame = a.frame := by
  induction inputs generalizing e newer mid with
  | nil => simp [journal] at hlog
  | cons i rest ih =>
      rw [journal_cons] at hlog
      -- during a logout nothing is sent about actions
      have hnow : ∀ newer, (e.called i).map Mark.did ++ e.announced i ≠
          newer ++ .did (.sent id frame ok) :: mid := by
        intro newer heq
        obtain ⟨now, rfl⟩ := mem_marks_ended.mp (heq ▸ List.mem_append_right _
          (List.mem_cons_of_mem _ hended))
        have hsent : .did (.sent id frame ok) ∈
            (e.called (.logout now)).map Mark.did ++ e.announced (.logout now) :=
          heq ▸ List.mem_append_right _ List.mem_cons_self
        obtain ⟨_, hfalse, -⟩ := (logout_holding h.sound now fun _ => False).2 id frame ok
          (mem_marks_sent.mp hsent) hframe
        exact hfalse
      rcases List.append_eq_append_iff.mp hlog with ⟨newer', -, heq⟩ | ⟨rest', hrest, heq⟩
      · exact absurd heq (hnow newer')
      · cases rest' with
        | nil => exact absurd heq.symm (hnow [])
        | cons mark older =>
            obtain ⟨rfl, rfl⟩ := List.cons.inj heq
            rcases List.mem_append.mp hended with hended | hended
            · obtain ⟨a, ha, hframe⟩ := ih (step_sane h i) hrest hended
              exact ⟨a, List.mem_append_right _ ha, hframe⟩
            · obtain ⟨now, rfl⟩ := mem_marks_ended.mp hended
              obtain ⟨_, ⟨a, ha, rfl⟩, hframe⟩ := run_carries
                (logout_holding h.sound now
                  fun x => ∃ a, .enqueue a ∈ (e.step (.logout now)).calls rest ∧ x = a.initial).1
                rest (fun a ha => ⟨a, ha, rfl⟩) (hrest ▸ List.mem_append_right _ List.mem_cons_self)
                hframe
              exact ⟨a, List.mem_append_right _ ha, hframe⟩

theorem entered_generation (e : Engine τ) (i : Input τ) :
    e.generation ≤ (e.entered i).generation ∧
      ((∃ now, i = .logout now) → e.generation < (e.entered i).generation) := by
  cases i with
  | connect credentials now =>
      dsimp only [entered]
      split <;> exact ⟨Nat.le_refl _, fun ⟨_, heq⟩ => nomatch heq⟩
  | logout now => exact ⟨Nat.le_succ _, fun _ => Nat.lt_succ_self _⟩
  | _ => exact ⟨Nat.le_refl _, fun ⟨_, heq⟩ => nomatch heq⟩

/-- The generation never falls, and every logout lets it rise. -/
theorem run_generation {e : Engine τ} (h : e.Holding fun _ => True) (inputs : List (Input τ)) :
    e.generation ≤ (e.run inputs).generation ∧
      (.ended ∈ e.journal [] inputs → e.generation < (e.run inputs).generation) := by
  induction inputs generalizing e with
  | nil => exact ⟨Nat.le_refl _, fun hmem => absurd hmem List.not_mem_nil⟩
  | cons i rest ih =>
      obtain ⟨hle, hlt⟩ := ih (step_sane h i)
      obtain ⟨hle', hlt'⟩ := entered_generation e i
      have heq := (step_holding h i fun _ _ => trivial).2.2
      rw [← heq] at hle' hlt'
      refine ⟨Nat.le_trans hle' hle, fun hmem => ?_⟩
      rw [journal_cons] at hmem
      rcases List.mem_append.mp hmem with hmem | hmem
      · exact Nat.lt_of_le_of_lt hle' (hlt hmem)
      · exact Nat.lt_of_lt_of_le (hlt' (mem_marks_ended.mp hmem)) hle

omit [Transport τ] in
theorem Fresh.sane {e : Engine τ} (h : e.Fresh) : e.Holding fun _ => True := by
  refine ⟨h.quiet.sound, fun _ _ _ => trivial, ?_⟩
  refine h.rule fun settings endpoint transport entropy ids store historyEnabled => ?_
  exact fun _ hr => absurd hr List.not_mem_nil

end Steps

/-! ## 4. One login after the other -/

/-- Nobody is logged in over somebody else: each login begins when nobody is logged in. -/
def Apart : List Mark → Bool
  | [] => true
  | .began _ :: log => (current log).isNone && Apart log
  | _ :: log => Apart log

theorem Apart.behind {newer : List Mark} {x : Mark} {older : List Mark}
    (h : Apart (newer ++ x :: older) = true) : Apart older = true := by
  induction newer with
  | nil =>
      cases x with
      | began c => exact (Bool.and_eq_true_iff.mp h).2
      | _ => exact h
  | cons y rest ih =>
      cases y with
      | began c => exact ih (Bool.and_eq_true_iff.mp h).2
      | _ => exact ih h

/-- As long as it does not end, a login goes on, and no other one begins. -/
theorem current_of_apart {mid log : List Mark} {c : Credentials} (h : Apart (mid ++ log) = true)
    (hended : .ended ∉ mid) (hc : current log = some c) :
    current (mid ++ log) = some c ∧ ∀ c', .began c' ∉ mid := by
  induction mid with
  | nil => exact ⟨hc, fun _ => List.not_mem_nil⟩
  | cons x rest ih =>
      have hrest := fun h => ih h fun hmem => hended (List.mem_cons_of_mem _ hmem)
      cases x with
      | did call =>
          obtain ⟨hcurrent, hbegan⟩ := hrest h
          exact ⟨hcurrent, fun c' hmem => hbegan c' (by simpa using hmem)⟩
      | heard id event =>
          obtain ⟨hcurrent, hbegan⟩ := hrest h
          exact ⟨hcurrent, fun c' hmem => hbegan c' (by simpa using hmem)⟩
      | began c' =>
          have hboth : (current (rest ++ log)).isNone = true ∧ Apart (rest ++ log) = true :=
            Bool.and_eq_true_iff.mp h
          obtain ⟨hnone, hapart⟩ := hboth
          rw [(hrest hapart).1] at hnone
          cases hnone
      | ended => exact absurd List.mem_cons_self hended

/-- What was queued or asked for until now, while this user is logged in, is theirs. -/
structure Isolated [Transport τ] (e : Engine τ) (log : List Mark) (c : Credentials)
    (after : List (Input τ)) : Prop where
  /-- A frame of an action is sent where this user was introduced and accepted, unless the action is
  queued later. -/
  sent : ∀ newer id frame ok mid, e.journal [] after = newer ++ .did (.sent id frame ok) :: mid →
    frame.actionId?.isSome = true →
    Admitted id c (mid ++ log) ∨ ∃ a, .enqueue a ∈ e.calls after ∧ frame = a.frame
  /-- No login has begun or ended since a request was made, or no answer to it has an effect. -/
  answers : ∀ r ∈ e.historyRequests,
    (∀ x ∈ e.journal [] after, x ≠ .ended ∧ ∀ c', x ≠ .began c') ∨
    ∀ result now, (e.run after).applyHistory r.chat r.generation result now = e.run after

/-- **As long as nobody is logged in over somebody else**, nothing that was queued or asked for in
one login reaches another. -/
theorem run_isolated [Transport τ] {e : Engine τ} (he : e.Fresh) (before after : List (Input τ))
    {c : Credentials} (hc : (e.run before).session.user? = some c)
    (hapart : Apart (e.journal [] (before ++ after)) = true) :
    (e.run before).Isolated (e.journal [] before) c after := by
  have hsane := run_sane he.sane before
  have hstage := run_gate he.stage before
  have hgated := (run_gate he.stage (before ++ after)).gated
  have hcurrent : current (e.journal [] before) = some c := hstage.login.symm.trans hc
  rw [journal_append] at hapart hgated
  refine ⟨fun newer id frame ok mid hlog hframe => ?_, fun r hr => ?_⟩
  · by_cases hended : .ended ∈ mid
    · exact .inr (run_ended hsane after hlog hended hframe)
    · rw [hlog, List.append_assoc] at hapart hgated
      have hbehind := hgated.behind
      cases hbehind with
      | mute hx => exact hx.elim
      | introduction hfirst hc' => cases hframe
      | @other _ c' _ _ _ hframe' hc' hadmitted =>
          have hsame := (current_of_apart (Apart.behind hapart) hended hcurrent).1
          obtain rfl : c' = c := Option.some.inj (hc'.symm.trans hsame)
          exact .inl hadmitted
  · by_cases hended : .ended ∈ (e.run before).journal [] after
    · refine .inr fun result now => if_neg (Nat.ne_of_lt ?_)
      rw [hsane.asked r hr]
      exact (run_generation hsane after).2 hended
    · have hbegan := (current_of_apart hapart hended hcurrent).2
      exact .inl fun x hx => ⟨fun heq => hended (heq ▸ hx), fun c' heq => hbegan c' (heq ▸ hx)⟩

/-- A user starts to type and logs out, and another user logs in. -/
theorem run_isolated_next : ∃ e : Engine MemoryTransport, e.Fresh ∧
    let before := [.connect ⟨"u1", "t1"⟩ 0, .submit (.new "a1" (.typingStart "42") 1) 1]
    (e.run before).Isolated (e.journal [] before) ⟨"u1", "t1"⟩
      [.logout 2, .connect ⟨"u2", "t2"⟩ 3] := by
  let before : List (Input MemoryTransport) :=
    [.connect ⟨"u1", "t1"⟩ 0, .submit (.new "a1" (.typingStart "42") 1) 1]
  obtain ⟨e, he, huser, hapart⟩ := exists_fresh_of (fun e =>
    (e.run before).session.user? = some ⟨"u1", "t1"⟩ ∧
      Apart (e.journal [] (before ++ [.logout 2, .connect ⟨"u2", "t2"⟩ 3])) = true)
    (by decide +kernel)
  exact ⟨e, he, run_isolated he _ _ huser hapart⟩

/-- A user whom the server rejected has written a message, and another one is logged in over them:
the message is sent for the other user. -/
theorem failed_login_inherited : ∃ e : Engine MemoryTransport, e.Fresh ∧
    let message : Action := .new "a1" (.sendMessage "42" "for u1 only" .text none none) 1
    let e' := e.run [.connect ⟨"u1", "t1"⟩ 0, .submit message 1, .event 1 .opened 2,
      .event 1 (.frame "\x7b\"type\": \"auth_error\", \"reason\": \"expired\"\x7d") 3,
      .connect ⟨"u2", "t2"⟩ 4, .event 2 .opened 5, .event 2 (.frame "\x7b\"type\": \"auth_ok\"\x7d") 6]
    e'.session.transport.sent = [(1, Credentials.introduction ⟨"u1", "t1"⟩),
      (2, Credentials.introduction ⟨"u2", "t2"⟩), (2, message.frame)] :=
  exists_fresh_of _ (by decide +kernel)

end Engine

end RealtimeChat
