import RealtimeChat.Proofs.Session.Parts
import RealtimeChat.Proofs.Timer
/-!
# The deadlines of a session

In each of its states a session waits for certain deadlines and for no others, so that something
moves it on. Deadlines that have passed are taken out of the timers together and handled one after
the other; those that still have to be handled are owed.

* `State.Awaits` -- what is waited for in a state;
* `Clocked` -- the armed keys of a session are those of its state, apart from what is owed;
* `Bare` -- a session without connection and without deadlines;
* **`handleEvent_clocked`**, **`handleTimer_clocked`** and the others -- operations keep it;
* **`Clocked.movesOn`** -- a live session waits for something that moves it on.
-/

namespace RealtimeChat.Session

open Timer (Key)
open Timers (SameBut PaidBut)

variable {τ : Type}

/-- What is waited for in a state. -/
def State.Awaits (x : State) : Key → Prop
  | .handshake => x = .connecting ∨ x = .authenticating
  | .reconnect => x = .reconnecting
  | .heartbeat => x = .active
  | .liveness => x = .active
  | _ => False

/-- A state in which nothing is tried waits for nothing. -/
theorem State.Awaits.isLive {x : State} {key : Key} (h : x.Awaits key) : x.isLive = true := by
  cases key with
  | handshake => rcases h with rfl | rfl <;> rfl
  | reconnect | heartbeat | liveness => exact h ▸ rfl
  | action | typingSweep | localTyping => exact h.elim

theorem State.Awaits.owner {x : State} {key : Key} (h : x.Awaits key) : key.owner = .session := by
  cases key with
  | handshake | reconnect | heartbeat | liveness => rfl
  | action | typingSweep | localTyping => exact h.elim

theorem State.Connected.isLive {x : State} (h : x.Connected) : x.isLive = true := by
  rcases h with rfl | rfl | rfl <;> rfl

/-- The armed keys of a session are those of its state, apart from what is owed. -/
structure Clocked (s : Session τ) (t : Timers) (owed : List Key) : Prop where
  held : s.connection.isSome = true ↔ s.state.Connected
  login : s.state.isLive = true → s.login.isSome = true
  armed : ∀ key : Key, key.owner = .session →
    (t.isScheduled key = true ↔ s.state.Awaits key ∧ key ∉ owed)
  handshakeAt : ∀ deadline, t.deadline? .handshake = some deadline →
    ∃ c, s.connection = some c ∧ deadline = c.created + s.plan.handshakeTimeout
  livenessAt : ∀ deadline, t.deadline? .liveness = some deadline →
    ∃ c, s.connection = some c ∧ deadline = c.lastActivity + s.plan.heartbeatTimeout
  /-- What ends a state of trying is not owed in another one. -/
  ending : ∀ key ∈ owed, key = .handshake ∨ key = .reconnect → s.state.Awaits key

/-- Neither a connection nor deadlines, but somebody to log in. -/
structure Bare (s : Session τ) (t : Timers) (owed : List Key) : Prop where
  unconnected : s.connection = none
  login : s.login.isSome = true
  unarmed : ∀ key : Key, key.owner = .session → t.deadline? key = none
  free : ∀ key ∈ owed, ¬ (key = .handshake ∨ key = .reconnect)

section Parts

variable {s s' : Session τ} {t t' : Timers} {owed : List Key}

theorem Bare.unscheduled (h : s.Bare t owed) (key : Key) (hkey : key.owner = .session) :
    t.isScheduled key = false := by
  rw [Timers.isScheduled, h.unarmed key hkey]
  rfl

theorem Bare.handshake_free (h : s.Bare t owed) : .handshake ∉ owed :=
  fun hmem => h.free _ hmem (.inl rfl)

theorem Bare.reconnect_free (h : s.Bare t owed) : .reconnect ∉ owed :=
  fun hmem => h.free _ hmem (.inr rfl)

/-- A session that does not try again waits for nothing. -/
theorem Clocked.of_idle (hnone : s.connection = none) (hstate : s.state.isLive = false)
    (hunarmed : ∀ key : Key, key.owner = .session → t.deadline? key = none)
    (hfree : ∀ key ∈ owed, ¬ (key = .handshake ∨ key = .reconnect)) : s.Clocked t owed := by
  have hno : ¬ s.state.isLive = true := by simp [hstate]
  have hidle : ∀ key : Key, ¬ s.state.Awaits key := fun key h => hno h.isLive
  constructor
  · simpa [hnone] using fun h => hno (State.Connected.isLive h)
  · exact fun h => absurd h hno
  · intro key hkey
    rw [Timers.isScheduled, hunarmed key hkey]
    simp [hidle key]
  · simp [hunarmed .handshake rfl]
  · simp [hunarmed .liveness rfl]
  · exact fun key hmem hkey => absurd hkey (hfree key hmem)

theorem Retry.clocked (hr : Retry s t s' t') (h : s.Bare t owed) : s'.Clocked t' owed := by
  cases hr with
  | later entropy signals deadline =>
      constructor
      · simp [h.unconnected, State.Connected]
      · exact fun _ => h.login
      · intro key hkey
        rw [Timers.isScheduled_schedule, h.unscheduled key hkey]
        cases key <;> simp [State.Awaits, h.reconnect_free]
      · simp [Timers.deadline?_schedule, h.unarmed .handshake rfl]
      · simp [Timers.deadline?_schedule, h.unarmed .liveness rfl]
      · exact fun key hmem hkey => absurd hkey (h.free key hmem)
  | never signals => exact .of_idle h.unconnected rfl h.unarmed h.free

theorem Retry.sameBut (hr : Retry s t s' t') : SameBut .session t t' := by
  cases hr with
  | later entropy signals deadline => exact SameBut.schedule t .reconnect deadline
  | never signals => exact .refl _ t

theorem deadline?_cancelConnectionTimers (t : Timers) (key : Key) :
    (cancelConnectionTimers t).deadline? key =
      if key = .handshake ∨ key = .heartbeat ∨ key = .liveness then none else t.deadline? key := by
  simp only [cancelConnectionTimers, Timers.deadline?_cancel]
  cases key <;> simp

theorem deadline?_cancelTimers (t : Timers) (key : Key) :
    (cancelTimers t).deadline? key = if key.owner = .session then none else t.deadline? key := by
  simp only [cancelTimers, Timers.deadline?_cancel, deadline?_cancelConnectionTimers]
  cases key <;> simp [Key.owner]

theorem cancelConnectionTimers_sameBut (t : Timers) :
    SameBut .session t (cancelConnectionTimers t) := by
  intro key hkey
  rw [deadline?_cancelConnectionTimers, if_neg]
  rintro (rfl | rfl | rfl) <;> exact hkey rfl

theorem cancelTimers_sameBut (t : Timers) : SameBut .session t (cancelTimers t) := by
  intro key hkey
  rw [deadline?_cancelTimers, if_neg hkey]

/-- The transport plays no part, nor do counters and signals. -/
theorem Clocked.of_eq (h : s.Clocked t owed) (hp : s'.plan = s.plan) (hstate : s'.state = s.state)
    (hc : s'.connection = s.connection) (hl : s'.login = s.login) : s'.Clocked t owed := by
  obtain ⟨plan, transport, state, login, connection⟩ := s'
  dsimp only at hp hstate hc hl
  subst hp hstate hc hl
  exact ⟨h.held, h.login, h.armed, h.handshakeAt, h.livenessAt, h.ending⟩

variable [Transport τ]

/-- A session that loses its connection is bare. -/
theorem Clocked.bare {paid : List Key} (h : s.Clocked t owed) (hstate : s.state.Connected)
    (hfree : ∀ key ∈ paid, ¬ (key = .handshake ∨ key = .reconnect)) (signals : List Signal) :
    Bare { s.dropConnection with signals } (cancelConnectionTimers t) paid := by
  have hidle : t.deadline? .reconnect = none := by
    have hno : ¬ t.isScheduled .reconnect = true := fun ht => by
      have hx : s.state = .reconnecting := ((h.armed .reconnect rfl).mp ht).1
      rcases hstate with hy | hy | hy <;> rw [hy] at hx <;> cases hx
    simpa [Timers.isScheduled] using hno
  rw [dropConnection_eq]
  refine ⟨rfl, h.login hstate.isLive, fun key hkey => ?_, hfree⟩
  rw [deadline?_cancelConnectionTimers]
  cases key <;> first | rfl | exact hidle | cases hkey

theorem Clocked.lose {paid : List Key} (h : s.Clocked t owed) (hstate : s.state.Connected)
    (hfree : ∀ key ∈ paid, ¬ (key = .handshake ∨ key = .reconnect)) (reason : String)
    (now : Instant) :
    (s.connectionFailed reason now t).1.Clocked (s.connectionFailed reason now t).2 paid ∧
      SameBut .session t (s.connectionFailed reason now t).2 := by
  obtain ⟨signals, hretry⟩ := s.connectionFailed_retry reason now t
  exact ⟨hretry.clocked (h.bare hstate hfree signals),
    (cancelConnectionTimers_sameBut t).trans hretry.sameBut⟩

omit [Transport τ] in
theorem Dialled.clocked [Transport τ] {login : Login} {now : Instant}
    (hd : Dialled s login now t s' t') (h : s.Bare t owed) :
    s'.Clocked t' owed ∧ SameBut .session t t' := by
  cases hd with
  | opening transport signals hopen =>
      refine ⟨?_, SameBut.schedule t .handshake _⟩
      constructor
      · simp [State.Connected]
      · exact fun _ => rfl
      · intro key hkey
        rw [Timers.isScheduled_schedule, h.unscheduled key hkey]
        cases key <;> simp [State.Awaits, h.handshake_free]
      · simp [Timers.deadline?_schedule]
      · simp [Timers.deadline?_schedule, h.unarmed .liveness rfl]
      · exact fun key hmem hkey => absurd hkey (h.free key hmem)
  | refused transport fault signals _ _ hopen hretry =>
      exact ⟨hretry.clocked ⟨h.unconnected, rfl, h.unarmed, h.free⟩, hretry.sameBut⟩

theorem Bare.dial (h : s.Bare t owed) (now : Instant) :
    (s.openConnection now t).1.Clocked (s.openConnection now t).2 owed ∧
      SameBut .session t (s.openConnection now t).2 := by
  obtain ⟨login, hl⟩ := Option.isSome_iff_exists.mp h.login
  exact (openConnection_dialled hl now t).clocked h

end Parts

/-! ## 2. Events -/

section Events

variable {s : Session τ} {t : Timers}

theorem not_owed (key : Key) : key ∈ ([] : List Key) → ¬ (key = .handshake ∨ key = .reconnect) :=
  fun hmem => absurd hmem List.not_mem_nil

/-- What is received moves the deadline for the next sign of life. -/
theorem Clocked.hear (h : s.Clocked t []) (now : Instant) :
    Clocked { s with connection := s.connection.map ({ · with lastActivity := now }) }
      (if s.state = .active then t.schedule .liveness (now + s.plan.heartbeatTimeout) else t) [] ∧
    SameBut .session t
      (if s.state = .active then t.schedule .liveness (now + s.plan.heartbeatTimeout) else t) := by
  have hheld : (s.connection.map ({ · with lastActivity := now })).isSome = true ↔
      s.state.Connected := by rw [Option.isSome_map]; exact h.held
  have hcreated : ∀ deadline, t.deadline? .handshake = some deadline →
      ∃ c, s.connection.map ({ · with lastActivity := now }) = some c ∧
        deadline = c.created + s.plan.handshakeTimeout := by
    intro deadline hd
    obtain ⟨c, hc, hdeadline⟩ := h.handshakeAt deadline hd
    exact ⟨{ c with lastActivity := now }, by rw [hc]; rfl, hdeadline⟩
  by_cases hactive : s.state = .active
  · rw [if_pos hactive]
    refine ⟨⟨hheld, h.login, fun key hkey => ?_, ?_, ?_, h.ending⟩,
      SameBut.schedule t .liveness _⟩
    · rw [Timers.isScheduled_schedule, h.armed key hkey]
      cases key <;> simp [State.Awaits, hactive]
    · simpa [Timers.deadline?_schedule] using hcreated
    · intro deadline hd
      obtain ⟨c, hc⟩ := Option.isSome_iff_exists.mp (h.held.mpr (.inr (.inr hactive)))
      rw [Timers.deadline?_schedule, if_pos rfl] at hd
      cases hd
      exact ⟨{ c with lastActivity := now }, by rw [hc]; rfl, rfl⟩
  · rw [if_neg hactive]
    refine ⟨⟨hheld, h.login, h.armed, hcreated, ?_, h.ending⟩, .refl _ t⟩
    intro deadline hd
    exact absurd ((h.armed .liveness rfl).mp
      (Timers.isScheduled_eq_true_iff.mpr ⟨deadline, hd⟩)).1 hactive

theorem activate_clocked (h : s.Clocked t []) (hstate : s.state = .authenticating) (now : Instant)
    (hnow : ∀ c, s.connection = some c → c.lastActivity = now) :
    (s.activate now t).1.Clocked (s.activate now t).2 [] ∧
      SameBut .session t (s.activate now t).2 := by
  have hsome : s.connection.isSome = true := h.held.mpr (.inr (.inl hstate))
  obtain ⟨signals, heq⟩ := ({ s with failures := 0, activations := s.activations + 1 } :
    Session τ).transition_eq .active
  unfold activate
  rw [heq]
  refine ⟨⟨?_, fun _ => h.login (by rw [hstate]; rfl), fun key hkey => ?_, ?_, ?_, ?_⟩, ?_⟩
  · simpa [State.Connected] using hsome
  · simp only [Timers.isScheduled_schedule, Timers.isScheduled_cancel, h.armed key hkey]
    cases key <;> simp [State.Awaits, hstate]
  · simp [Timers.deadline?_schedule, Timers.deadline?_cancel]
  · intro deadline hd
    obtain ⟨c, hc⟩ := Option.isSome_iff_exists.mp hsome
    rw [Timers.deadline?_schedule, if_pos rfl] at hd
    cases hd
    exact ⟨c, hc, by rw [hnow c hc]⟩
  · exact fun key hmem => absurd hmem List.not_mem_nil
  · exact ((SameBut.cancel t .handshake).trans (SameBut.schedule _ .heartbeat _)).trans
      (SameBut.schedule _ .liveness _)

variable [Transport τ]

theorem opened_clocked (h : s.Clocked t []) (now : Instant) :
    (s.opened now t).1.Clocked (s.opened now t).2 [] ∧ SameBut .session t (s.opened now t).2 := by
  unfold opened
  split
  · rename_i c login hstate hc hl
    -- the handshake goes on, whatever was received
    have hmet : ∀ transport : τ, Clocked { s with
        connection := some { c with phase := .open, lastActivity := now }, transport } t [] := by
      intro transport
      refine ⟨by simp [State.Connected, hstate], h.login, h.armed, fun deadline hd => ?_,
        fun deadline hd => ?_, h.ending⟩
      · obtain ⟨c', hc', hdeadline⟩ := h.handshakeAt deadline hd
        rw [hc] at hc'
        cases hc'
        exact ⟨_, rfl, hdeadline⟩
      · have hactive : s.state = .active := ((h.armed .liveness rfl).mp
          (Timers.isScheduled_eq_true_iff.mpr ⟨deadline, hd⟩)).1
        rw [hstate] at hactive
        cases hactive
    dsimp only
    split
    · rename_i transport hsend
      obtain ⟨signals, heq⟩ := ({ s with
        connection := some { c with phase := .open, lastActivity := now }, transport } :
          Session τ).transition_eq .authenticating
      rw [heq]
      have hm := hmet transport
      refine ⟨⟨by simp [State.Connected], fun _ => by rw [hl]; rfl, fun key hkey => ?_,
        hm.handshakeAt, hm.livenessAt, fun key hmem => absurd hmem List.not_mem_nil⟩, .refl _ t⟩
      rw [h.armed key hkey]
      cases key <;> simp [State.Awaits, hstate]
    · rename_i fault transport hsend
      exact (hmet transport).lose (.inl hstate) not_owed _ now
  · exact ⟨h, .refl _ t⟩

theorem rejected_clocked (s : Session τ) (reason : String) (t : Timers) :
    (s.rejected reason t).1.Clocked (s.rejected reason t).2 [] ∧
      SameBut .session t (s.rejected reason t).2 := by
  obtain ⟨signals, heq⟩ := (s.dropConnection.signal (.authRejected reason)).transition_eq .failed
  unfold rejected
  rw [heq]
  refine ⟨.of_idle ?_ rfl (fun key hkey => ?_) not_owed, cancelTimers_sameBut t⟩
  · show s.dropConnection.connection = none
    rw [dropConnection_eq]
  · rw [deadline?_cancelTimers, if_pos hkey]

theorem received_clocked (h : s.Clocked t []) (connection : ConnectionId) (text : String)
    (now : Instant) :
    (s.received connection text now t).1.Clocked (s.received connection text now t).2 [] ∧
      SameBut .session t (s.received connection text now t).2 := by
  obtain ⟨hhear, hsame⟩ := h.hear now
  unfold received
  dsimp only
  generalize (if s.state = .active then t.schedule .liveness (now + s.plan.heartbeatTimeout)
    else t) = timers at *
  split
  · exact ⟨hhear.of_eq rfl rfl rfl rfl, hsame⟩
  · split
    · rename_i hstate
      obtain ⟨hactive, hsame'⟩ := activate_clocked hhear hstate now (fun c hc => by
        obtain ⟨c', -, rfl⟩ := Option.map_eq_some_iff.mp hc
        rfl)
      exact ⟨hactive, hsame.trans hsame'⟩
    · exact ⟨hhear, hsame⟩
  · rename_i reason _
    obtain ⟨hfailed, hsame'⟩ := rejected_clocked { s with
      connection := s.connection.map ({ · with lastActivity := now }) } reason timers
    exact ⟨hfailed, hsame.trans hsame'⟩
  · exact ⟨hhear, hsame⟩
  · split
    · exact ⟨hhear.of_eq rfl rfl rfl rfl, hsame⟩
    · exact ⟨hhear, hsame⟩

/-- **Whatever happens to a connection**, the session waits for what its state is about. -/
theorem handleEvent_clocked (h : s.Clocked t []) (connection : ConnectionId)
    (event : Transport.Event) (now : Instant) :
    (s.handleEvent connection event now t).1.Clocked (s.handleEvent connection event now t).2 [] ∧
      SameBut .session t (s.handleEvent connection event now t).2 := by
  unfold handleEvent
  split
  · rename_i hcurrent
    have hsome : s.connection.isSome = true := by
      rw [← Option.isSome_map (f := (·.id)), hcurrent]
      rfl
    have hstate := h.held.mp hsome
    cases event with
    | opened => exact opened_clocked h now
    | frame text => exact received_clocked h connection text now
    | failed reason => exact h.lose hstate not_owed reason now
    | closed => exact h.lose hstate not_owed _ now
  · exact ⟨h, .refl _ t⟩

end Events

/-! ## 3. Deadlines and the user -/

section Rest

variable {s s' : Session τ} {t t' : Timers} {owed : List Key}

/-- What is not waited for is paid by doing nothing. -/
theorem Clocked.pay {key : Key} (h : s.Clocked t (key :: owed)) (hidle : ¬ s.state.Awaits key) :
    s.Clocked t owed := by
  refine ⟨h.held, h.login, fun other hother => ?_, h.handshakeAt, h.livenessAt,
    fun other hmem => h.ending other (List.mem_cons_of_mem key hmem)⟩
  rw [h.armed other hother, List.mem_cons, not_or]
  constructor
  · rintro ⟨hawaits, -, hmem⟩
    exact ⟨hawaits, hmem⟩
  · rintro ⟨hawaits, hmem⟩
    exact ⟨hawaits, fun heq => hidle (heq ▸ hawaits), hmem⟩

/-- The keys of another part of a client play no part. -/
theorem Clocked.frame {owner : Timer.Owner} {owed' : List Key} (h : s.Clocked t owed)
    (hsame : SameBut owner t t') (hpaid : PaidBut owner owed owed') (howner : owner ≠ .session) :
    s.Clocked t' owed' := by
  have hother : ∀ key : Key, key.owner = .session → key.owner ≠ owner :=
    fun key hkey heq => howner (heq ▸ hkey)
  refine ⟨h.held, h.login, fun key hkey => ?_, ?_, ?_, fun key hmem hkey => ?_⟩
  · rw [hsame.isScheduled key (hother key hkey), hpaid key (hother key hkey)]
    exact h.armed key hkey
  · rw [hsame .handshake (hother _ rfl)]
    exact h.handshakeAt
  · rw [hsame .liveness (hother _ rfl)]
    exact h.livenessAt
  · have hsession : key.owner = .session := by rcases hkey with rfl | rfl <;> rfl
    exact h.ending key ((hpaid key (hother key hsession)).mp hmem) hkey

/-- When keys are taken out of the timers, they are owed. -/
theorem Clocked.drain (h : s.Clocked t []) (now : Instant) :
    s.Clocked (t.drain now).2 (t.due now) := by
  have hkeep : ∀ key deadline, (t.drain now).2.deadline? key = some deadline →
      t.deadline? key = some deadline := by
    intro key deadline hd
    rw [Timers.deadline?_drain] at hd
    split at hd
    · cases hd
    · exact hd
  refine ⟨h.held, h.login, fun key hkey => ?_, fun deadline hd => h.handshakeAt _ (hkeep _ _ hd),
    fun deadline hd => h.livenessAt _ (hkeep _ _ hd), fun key hmem hkey => ?_⟩
  · rw [Timers.isScheduled_drain, h.armed key hkey]
    simp
  · obtain ⟨deadline, hd, -⟩ := Timers.mem_due.mp hmem
    have howner : key.owner = .session := by rcases hkey with rfl | rfl <;> rfl
    exact ((h.armed key howner).mp (Timers.isScheduled_eq_true_iff.mpr ⟨deadline, hd⟩)).1

/-- While one key is about to end a state, no other one that would is owed. -/
theorem Clocked.free {key : Key} (h : s.Clocked t (key :: owed)) (hkey : key ∉ owed)
    (hother : ∀ k : Key, k = .handshake ∨ k = .reconnect → k ≠ key → ¬ s.state.Awaits k) :
    ∀ k ∈ owed, ¬ (k = .handshake ∨ k = .reconnect) := by
  intro k hmem hk
  have hne : k ≠ key := fun heq => hkey (heq ▸ hmem)
  exact hother k hk hne (h.ending k (List.mem_cons_of_mem key hmem) hk)

theorem Clocked.free_of_active {key : Key} (h : s.Clocked t (key :: owed)) (hkey : key ∉ owed)
    (hactive : s.state = .active) : ∀ k ∈ owed, ¬ (k = .handshake ∨ k = .reconnect) := by
  refine h.free hkey fun k hk _ => ?_
  rcases hk with rfl | rfl <;> simp [State.Awaits, hactive]

theorem Retry.inactive (hr : Retry s t s' t') : s'.state ≠ .active := by
  cases hr <;> simp

variable [Transport τ]

theorem sendFrame_eq (s : Session τ) (frame : Outgoing) :
    ∃ transport, (s.sendFrame frame).2 = { s with transport } := by
  unfold sendFrame
  repeat' split
  all_goals exact ⟨_, rfl⟩

/-- A sign of life goes out and the next one is due later, or the connection is lost. -/
theorem heartbeat_clocked (h : s.Clocked t (.heartbeat :: owed)) (hkey : .heartbeat ∉ owed)
    (hactive : s.state = .active) (now : Instant) :
    (s.heartbeat now t).1.Clocked (s.heartbeat now t).2 owed ∧
      SameBut .session t (s.heartbeat now t).2 := by
  obtain ⟨transport, heq⟩ := s.sendFrame_eq .ping
  have hsent : Clocked (s.sendFrame .ping).2 t (.heartbeat :: owed) := by
    rw [heq]
    exact h.of_eq rfl rfl rfl rfl
  have hstate : (s.sendFrame .ping).2.state = .active := by
    rw [heq]
    exact hactive
  unfold heartbeat
  generalize s.sendFrame .ping = answer at hsent hstate
  obtain ⟨_ | ⟨⟩, sent⟩ := answer
  · exact hsent.lose (.inr (.inr hstate)) (hsent.free_of_active hkey hstate) _ now
  · refine ⟨⟨hsent.held, hsent.login, fun key howner => ?_, ?_, ?_,
      fun key hmem => hsent.ending key (List.mem_cons_of_mem _ hmem)⟩,
      SameBut.schedule t .heartbeat _⟩
    · rw [Timers.isScheduled_schedule, hsent.armed key howner]
      by_cases hk : key = .heartbeat
      · subst hk
        simpa [State.Awaits, hkey] using hstate
      · simp [hk, Ne.symm hk]
    · simpa [Timers.deadline?_schedule] using hsent.handshakeAt
    · simpa [Timers.deadline?_schedule] using hsent.livenessAt

/-- **A deadline that has passed** is paid: the session waits for what its state is about, apart
from the other keys that are owed. -/
theorem handleTimer_clocked {key : Key} (h : s.Clocked t (key :: owed)) (hkey : key ∉ owed)
    (now : Instant) {r : Session τ × Timers} (hr : s.handleTimer key now t = some r) :
    r.1.Clocked r.2 owed ∧ SameBut .session t r.2 := by
  cases key with
  | handshake =>
      have hstate : s.state = .connecting ∨ s.state = .authenticating :=
        h.ending .handshake List.mem_cons_self (.inl rfl)
      rw [handleTimer, if_pos hstate] at hr
      cases hr
      refine h.lose (hstate.imp_right .inl) (h.free hkey fun k hk hne => ?_) _ now
      obtain rfl := hk.resolve_left hne
      rcases hstate with hx | hx <;> simp [State.Awaits, hx]
  | reconnect =>
      have hstate : s.state = .reconnecting := h.ending .reconnect List.mem_cons_self (.inr rfl)
      rw [handleTimer, if_pos hstate] at hr
      cases hr
      refine Bare.dial ⟨?_, h.login (by rw [hstate]; rfl), fun k hk => ?_,
        h.free hkey fun k hk hne => ?_⟩ now
      · simpa [State.Connected, hstate] using h.held
      · have hnot : ¬ t.isScheduled k = true := by
          rw [h.armed k hk]
          cases k <;> simp [State.Awaits, hstate]
        simpa [Timers.isScheduled] using hnot
      · obtain rfl := hk.resolve_right hne
        simp [State.Awaits, hstate]
  | heartbeat =>
      rw [handleTimer] at hr
      cases hr
      split
      · rename_i hactive
        exact heartbeat_clocked h hkey hactive now
      · rename_i hidle
        exact ⟨h.pay hidle, .refl _ t⟩
  | liveness =>
      rw [handleTimer] at hr
      cases hr
      split
      · rename_i hactive
        exact h.lose (.inr (.inr hactive)) (h.free_of_active hkey hactive) _ now
      · rename_i hidle
        exact ⟨h.pay hidle, .refl _ t⟩
  | action id => cases hr
  | typingSweep => cases hr
  | localTyping chat => cases hr

/-- A failure does not leave the session active. -/
theorem connectionFailed_inactive (s : Session τ) (reason : String) (now : Instant) (t : Timers) :
    (s.connectionFailed reason now t).1.state ≠ .active := by
  obtain ⟨signals, hretry⟩ := s.connectionFailed_retry reason now t
  exact hretry.inactive

theorem openConnection_inactive (hs : s.state ≠ .active) (now : Instant) (t : Timers) :
    (s.openConnection now t).1.state ≠ .active := by
  cases hl : s.login with
  | none => simpa [openConnection, hl] using hs
  | some login =>
      have hdialled := openConnection_dialled hl now t
      generalize s.openConnection now t = r at hdialled
      obtain ⟨s', t'⟩ := r
      cases hdialled with
      | opening transport signals hopen => simp
      | refused transport fault signals _ _ hopen hretry => exact hretry.inactive

/-- No deadline makes a session active, and one that stays active has nothing new to tell. -/
theorem handleTimer_quiet {key : Key} {now : Instant} {r : Session τ × Timers}
    (hr : s.handleTimer key now t = some r) (hactive : r.1.state = .active) :
    s.state = .active ∧ r.1.signals = s.signals := by
  unfold handleTimer at hr
  cases key with
  | handshake =>
      cases hr
      split at hactive
      · exact absurd hactive (connectionFailed_inactive s _ now t)
      · rename_i hother
        rw [if_neg hother]
        exact ⟨hactive, rfl⟩
  | reconnect =>
      cases hr
      split at hactive
      · rename_i hstate
        exact absurd hactive (openConnection_inactive (by rw [hstate]; simp) now t)
      · rename_i hother
        rw [if_neg hother]
        exact ⟨hactive, rfl⟩
  | heartbeat =>
      cases hr
      split at hactive
      · rename_i hstate
        rw [if_pos hstate]
        refine ⟨hstate, ?_⟩
        obtain ⟨transport, heq⟩ := s.sendFrame_eq .ping
        have hsent : (s.sendFrame .ping).2.signals = s.signals := by rw [heq]
        unfold heartbeat at hactive ⊢
        generalize s.sendFrame .ping = answer at *
        obtain ⟨_ | ⟨⟩, sent⟩ := answer
        · exact absurd hactive (connectionFailed_inactive sent _ now t)
        · exact hsent
      · rename_i hother
        exact absurd hactive hother
  | liveness =>
      cases hr
      split at hactive
      · exact absurd hactive (connectionFailed_inactive s _ now t)
      · rename_i hother
        exact absurd hactive hother
  | action id => cases hr
  | typingSweep => cases hr
  | localTyping chat => cases hr

/-- When its deadline has passed, the key takes the session to another state, or it counts one more
attempt that failed. -/
def MovesOn (s : Session τ) (key : Key) : Prop :=
  ∀ now t, ∃ r, s.handleTimer key now t = some r ∧
    (r.1.state ≠ s.state ∨ r.1.failures = s.failures + 1)

theorem connectionFailed_moves (hstate : s.state.Connected) (reason : String) (now : Instant)
    (t : Timers) : (s.connectionFailed reason now t).1.state ≠ s.state := by
  obtain ⟨signals, hretry⟩ := s.connectionFailed_retry reason now t
  generalize s.connectionFailed reason now t = r at hretry
  obtain ⟨s', t'⟩ := r
  rcases hstate with hx | hx | hx <;> rw [hx] <;> cases hretry <;> simp

theorem openConnection_moves (hstate : s.state = .reconnecting) (hlogin : s.login.isSome = true)
    (now : Instant) (t : Timers) :
    (s.openConnection now t).1.state ≠ s.state ∨
      (s.openConnection now t).1.failures = s.failures + 1 := by
  obtain ⟨login, hl⟩ := Option.isSome_iff_exists.mp hlogin
  have hdialled := openConnection_dialled hl now t
  generalize s.openConnection now t = r at hdialled
  obtain ⟨s', t'⟩ := r
  rw [hstate]
  cases hdialled with
  | opening transport signals hopen => simp
  | refused transport fault signals _ _ hopen hretry => cases hretry <;> simp

/-- **A session that is live** waits for something that moves it on. -/
theorem Clocked.movesOn (h : s.Clocked t []) (hlive : s.state.isLive = true) :
    ∃ key, t.isScheduled key = true ∧ s.MovesOn key := by
  have harmed : ∀ key : Key, s.state.Awaits key → t.isScheduled key = true := fun key hawaits =>
    (h.armed key hawaits.owner).mpr ⟨hawaits, List.not_mem_nil⟩
  have hhandshake : (s.state = .connecting ∨ s.state = .authenticating) →
      ∃ key, t.isScheduled key = true ∧ s.MovesOn key := by
    refine fun hstate => ⟨.handshake, harmed .handshake hstate, fun now t => ⟨_, rfl, .inl ?_⟩⟩
    rw [if_pos hstate]
    exact connectionFailed_moves (hstate.imp_right .inl) _ now t
  cases hstate : s.state with
  | connecting => exact hhandshake (.inl hstate)
  | authenticating => exact hhandshake (.inr hstate)
  | active =>
      refine ⟨.liveness, harmed .liveness hstate, fun now t => ⟨_, rfl, .inl ?_⟩⟩
      rw [if_pos hstate]
      exact connectionFailed_moves (.inr (.inr hstate)) _ now t
  | reconnecting =>
      refine ⟨.reconnect, harmed .reconnect hstate, fun now t => ⟨_, rfl, ?_⟩⟩
      rw [if_pos hstate]
      exact openConnection_moves hstate (h.login hlive) now t
  | disconnected | failed =>
      rw [hstate] at hlive
      cases hlive

theorem connect_clocked (h : s.Clocked t []) (credentials : Credentials) (now : Instant)
    {r : Session τ × Timers} (hr : s.connect credentials now t = .ok r) :
    r.1.Clocked r.2 [] ∧ SameBut .session t r.2 := by
  unfold connect at hr
  split at hr
  · cases hr
  · rename_i hlive
    cases hr
    refine Bare.dial ⟨?_, rfl, fun key hkey => ?_, not_owed⟩ now
    · have hnone : ¬ s.connection.isSome = true := fun hc => hlive (h.held.mp hc).isLive
      simpa using hnone
    · have hnot : ¬ t.isScheduled key = true := fun hc => hlive ((h.armed key hkey).mp hc).1.isLive
      simpa [Timers.isScheduled] using hnot

/-- Logging out has nothing to tell but the change of the state. -/
theorem logout_signals (h : s.signals = []) (t : Timers) : (s.logout t).1.signals = [] ∨
    ∃ before, (s.logout t).1.signals = [.stateChanged before .disconnected] := by
  have hnone : s.dropConnection.signals = [] := by
    rw [dropConnection_eq]
    exact h
  unfold logout transition
  dsimp only
  split
  · exact .inl hnone
  · refine .inr ⟨s.dropConnection.state, ?_⟩
    simp [signal, hnone]

theorem logout_clocked (s : Session τ) (t : Timers) :
    (s.logout t).1.Clocked (s.logout t).2 [] ∧ SameBut .session t (s.logout t).2 := by
  have hnone : s.dropConnection.connection = none := by rw [dropConnection_eq]
  unfold logout
  generalize s.dropConnection = dropped at hnone
  obtain ⟨signals, heq⟩ := ({ dropped with login := none, failures := 0 } :
    Session τ).transition_eq .disconnected
  dsimp only
  rw [heq]
  refine ⟨.of_idle hnone rfl (fun key hkey => ?_) not_owed, cancelTimers_sameBut t⟩
  rw [deadline?_cancelTimers, if_pos hkey]

end Rest

end RealtimeChat.Session
