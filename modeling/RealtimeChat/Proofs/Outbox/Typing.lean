import Mathlib.Data.List.Chain
import RealtimeChat.Proofs.Outbox.Lane
/-!
# The typing states of a chat alternate

The end of typing takes a start that was not sent yet out of the queue, and a second start is
superfluous. So if starts and ends are queued by turns, the states that were written and those that
still wait make up one row in which they alternate, however long nothing could be sent.

* `Lane.told`, `Lane.waiting`, `Lane.typing` -- the typing states of a chat, written and queued;
* `Lane.Shows` -- they alternate and end with this one, and a start waits only as the last of them;
* `Lane.Spared` -- none was turned away, and none left the queue but written or collapsed;
* `Run.Unanswered` -- none was answered while it was queued;
* `Turns` -- operations that queue starts and ends by turns;
* **`perform_shows`**, **`performAll_shows`** -- operations of this sort keep the row alternating.
-/

namespace RealtimeChat

/-- The typing state that an action of this kind reports: the user types, or has stopped. -/
def Action.Kind.typing? : Action.Kind → Option Bool
  | .typingStart => some true
  | .typingStop => some false
  | .sendMessage | .readReceipt => none

/-- The typing state that an action reports. -/
def Action.typing? (a : Action) : Option Bool := a.kind.typing?

/-- The typing state that a frame reports. -/
def Outgoing.typing? : Outgoing → Option Bool
  | .typing _ _ isTyping => some isTyping
  | _ => none

theorem Action.frame_typing (a : Action) : a.frame.typing? = a.typing? := by
  obtain ⟨id, intent, created, retries, state⟩ := a
  cases intent <;> rfl

theorem Action.startsTyping_iff {a : Action} : a.startsTyping = true ↔ a.typing? = some true := by
  unfold startsTyping typing?
  cases a.kind <;> decide

theorem Action.typing?_of_requiresAck {a : Action} (h : a.kind.requiresAck = true) :
    a.typing? = none := by
  unfold typing?
  cases hkind : a.kind with
  | typingStart | typingStop =>
      rw [hkind] at h
      cases h
  | sendMessage | readReceipt => rfl

namespace Outbox

/-- The typing states that frames report; the newest frame stands in front. -/
def typingStates (frames : List Outgoing) : List Bool := frames.reverse.filterMap Outgoing.typing?

theorem typingStates_append (frames frames' : List Outgoing) :
    typingStates (frames ++ frames') = typingStates frames' ++ typingStates frames := by
  rw [typingStates, List.reverse_append, List.filterMap_append, typingStates, typingStates]

/-- The mark does not tell that a typing state was turned away because of its id, nor that one left
the queue otherwise than written or collapsed. -/
def Mark.Spares : Mark → Prop
  | .enqueued a outcome => outcome = .duplicateId → a.typing? = none
  | .wrote _ => True
  | .settled s => s.kind.typing? = none ∨ s.outcome = .collapsed ∨ s.outcome = .delivered none false

instance : DecidablePred Mark.Spares
  | .enqueued _ _ => inferInstanceAs (Decidable (_ → _))
  | .wrote _ => isTrue trivial
  | .settled _ => inferInstanceAs (Decidable (_ ∨ _))

namespace Lane

/-! ## 1. The typing states of a chat -/

/-- The typing states that were written. -/
def told (l : Lane) : List Bool := typingStates (frames l.record)

/-- The typing states that are queued. -/
def waiting (l : Lane) : List Bool := l.queue.filterMap Action.typing?

/-- The typing states that were written, and behind them those that are queued. -/
def typing (l : Lane) : List Bool := l.told ++ l.waiting

/-- The typing states alternate, beginning with a start and ending with this state; if there are
none, nobody types. A start waits only behind all others. -/
structure Shows (l : Lane) (state : Bool) : Prop where
  chain : (false :: l.typing).IsChain (· ≠ ·)
  last : l.typing.getLast?.getD false = state
  start : true ∉ l.waiting.dropLast

/-- No typing state was turned away because of its id, and none left the queue but written or
collapsed. -/
def Spared (l : Lane) : Prop := ∀ mark ∈ l.record, mark.Spares

instance (l : Lane) : Decidable l.Spared := inferInstanceAs (Decidable (∀ mark ∈ l.record, _))

section Note

variable {l l' : Lane} {queue : List Action} {settled : List Settlement} {marks : List Mark}
  {state x : Bool}

theorem told_note : (l.note queue settled marks).told = l.told ++ typingStates (frames marks) := by
  rw [told, note, frames_append, frames_settled, List.nil_append, frames_append,
    typingStates_append, told]

/-- Where nothing is written, the states that were written stay. -/
theorem told_note_silent (h : frames marks = []) : (l.note queue settled marks).told = l.told := by
  rw [told_note, h]
  exact List.append_nil _

theorem isChain_concat {row : List Bool} :
    (false :: (row ++ [x])).IsChain (· ≠ ·) ↔
      (false :: row).IsChain (· ≠ ·) ∧ row.getLast?.getD false ≠ x := by
  rw [← List.cons_append, List.isChain_append, List.getLast?_cons]
  simp

/-- Nobody has said anything, and nobody types. -/
theorem Shows.silence (htold : l.told = []) (hwaiting : l.waiting = []) : l.Shows false := by
  have htyping : l.typing = [] := by rw [typing, htold, hwaiting, List.append_nil]
  refine ⟨htyping ▸ .singleton _, htyping ▸ rfl, ?_⟩
  rw [hwaiting]
  exact List.not_mem_nil

theorem Shows.getLast?_iff (h : l.Shows state) : l.typing.getLast? = some true ↔ state = true := by
  rw [← h.last]
  cases l.typing.getLast? <;> simp

/-- The states stay, and of those that wait some are written. -/
theorem Shows.of_suffix (h : l.Shows state) (htyping : l'.typing = l.typing)
    (hsuffix : l'.waiting <:+ l.waiting) : l'.Shows state := by
  refine ⟨htyping ▸ h.chain, htyping ▸ h.last, fun hmem => h.start ?_⟩
  obtain ⟨front, hfront⟩ := hsuffix
  rw [← hfront, List.dropLast_append_of_ne_nil (fun hnil => by simp [hnil] at hmem)]
  exact List.mem_append_right _ hmem

/-- Nothing was written, and the same states are queued. -/
theorem Shows.of_same (h : l.Shows state) (htold : l'.told = l.told)
    (hwaiting : l'.waiting = l.waiting) : l'.Shows state :=
  h.of_suffix (by rw [typing, typing, htold, hwaiting]) (hwaiting ▸ List.suffix_refl _)

/-- A start that waits is the last of all. -/
theorem Shows.waiting_eq (h : l.Shows state) (hmem : true ∈ l.waiting) :
    ∃ front, l.waiting = front ++ [true] ∧ true ∉ front := by
  rcases List.eq_nil_or_concat l.waiting with hnil | ⟨front, x, hfront⟩
  · rw [hnil] at hmem
    cases hmem
  · rw [List.concat_eq_append] at hfront
    have hstart := h.start
    rw [hfront, List.dropLast_concat] at hstart
    rw [hfront] at hmem
    rcases List.mem_append.mp hmem with hmem | hmem
    · exact absurd hmem hstart
    · exact ⟨front, List.mem_singleton.mp hmem ▸ hfront, hstart⟩

/-- Nobody waits to say that the user types when the last state is that they do not. -/
theorem Shows.not_mem_waiting (h : l.Shows false) : true ∉ l.waiting := by
  intro hmem
  obtain ⟨front, hfront, -⟩ := h.waiting_eq hmem
  have hlast := h.last
  rw [typing, hfront, ← List.append_assoc, List.getLast?_concat] at hlast
  cases hlast

/-- A start that was written last is still true, or its end waits. -/
theorem Shows.held (h : l.Shows state) (htold : l.told.getLast? = some true) :
    state = true ∨ l.waiting.head? = some false := by
  cases hwaiting : l.waiting with
  | nil =>
      have hlast := h.last
      rw [typing, hwaiting, List.append_nil, htold] at hlast
      exact .inl hlast.symm
  | cons x rest =>
      have hchain := h.chain
      rw [typing, hwaiting, ← List.cons_append, List.isChain_append, List.getLast?_cons,
        htold] at hchain
      have hx : true ≠ x := hchain.2.2 true rfl x rfl
      exact .inr (congrArg some (by simpa using hx.symm))

/-- Another state is queued behind all others, where no start waits. -/
theorem Shows.push (h : l.Shows state) (hx : x ≠ state) (hnone : true ∉ l.waiting)
    (htold : l'.told = l.told) (hwaiting : l'.waiting = l.waiting ++ [x]) : l'.Shows x := by
  have htyping : l'.typing = l.typing ++ [x] := by
    rw [typing, typing, htold, hwaiting, List.append_assoc]
  refine ⟨?_, ?_, ?_⟩
  · rw [htyping, isChain_concat]
    exact ⟨h.chain, fun heq => hx (heq ▸ h.last)⟩
  · rw [htyping, List.getLast?_concat, Option.getD_some]
  · rwa [hwaiting, List.dropLast_concat]

/-- A start that waits is taken back. -/
theorem Shows.collapse (h : l.Shows state) (hmem : true ∈ l.waiting) (htold : l'.told = l.told)
    (hwaiting : l'.waiting = l.waiting.erase true) : l'.Shows false := by
  obtain ⟨front, hfront, hnone⟩ := h.waiting_eq hmem
  have hrest : l'.waiting = front := by
    rw [hwaiting, hfront, List.erase_append_right _ hnone]
    simp
  have htyping : l.typing = l'.typing ++ [true] := by
    rw [typing, typing, htold, hrest, hfront, List.append_assoc]
  have hchain := h.chain
  rw [htyping, isChain_concat] at hchain
  refine ⟨hchain.1, by simpa using hchain.2, fun hmem => hnone ?_⟩
  exact (List.dropLast_sublist front).subset (hrest ▸ hmem)

end Note

/-! ## 2. What the queues do with typing states -/

section Queue

variable {l : Lane} {state : Bool} {a : Action} {capacity : Nat}

theorem mem_waiting_of_find? {start : Action} (h : l.queue.find? (·.startsTyping) = some start) :
    true ∈ l.waiting :=
  List.mem_filterMap.mpr ⟨start, List.mem_of_find?_eq_some h,
    Action.startsTyping_iff.mp (List.find?_some h)⟩

theorem not_mem_waiting_of_find? (h : l.queue.find? (·.startsTyping) = none) :
    true ∉ l.waiting := by
  intro hmem
  obtain ⟨start, hstart, htrue⟩ := List.mem_filterMap.mp hmem
  exact List.find?_eq_none.mp h start hstart (Action.startsTyping_iff.mpr htrue)

/-- To take the first start out of a queue is to take it out of the states that wait. -/
theorem filterMap_eraseP_start (queue : List Action) :
    (queue.eraseP (·.startsTyping)).filterMap Action.typing? =
      (queue.filterMap Action.typing?).erase true := by
  induction queue with
  | nil => rfl
  | cons b rest ih =>
      by_cases hb : b.startsTyping = true
      · rw [List.eraseP_cons_of_pos hb, List.filterMap_cons_some (Action.startsTyping_iff.mp hb),
          List.erase_cons_head]
      · have hne : b.typing? ≠ some true := fun h => hb (Action.startsTyping_iff.mpr h)
        rw [List.eraseP_cons_of_neg hb]
        cases htyping : b.typing? with
        | none => rw [List.filterMap_cons_none htyping, List.filterMap_cons_none htyping, ih]
        | some x =>
            obtain rfl : x = false := by simpa [htyping] using hne
            rw [List.filterMap_cons_some htyping, List.filterMap_cons_some htyping, ih,
              List.erase_cons_tail (by decide)]

/-- An action that is no typing state can go. -/
theorem filterMap_eraseP_other {p : Action → Bool} {queue : List Action} {b : Action}
    (h : queue.find? p = some b) (hb : b.typing? = none) :
    (queue.eraseP p).filterMap Action.typing? = queue.filterMap Action.typing? := by
  obtain ⟨hp, before, after, rfl, hbefore⟩ := List.find?_eq_some_iff_append.mp h
  rw [List.eraseP_append_right _ fun x hx => by simpa using hbefore x hx,
    List.eraseP_cons_of_pos hp, List.filterMap_append, List.filterMap_append,
    List.filterMap_cons_none hb]

/-- Nobody whose typing state counts was dropped, cancelled or failed. -/
theorem Spared.typing?_eq_none {l' : Lane} (h : l'.Spared) {b : Action} {outcome : Action.Outcome}
    (hmem : .settled (b.settlement outcome) ∈ l'.record) (hcollapsed : outcome ≠ .collapsed)
    (hwritten : outcome ≠ .delivered none false) : b.typing? = none := by
  rcases h _ hmem with hnone | hout | hout
  · exact hnone
  · exact absurd hout hcollapsed
  · exact absurd hout hwritten

/-- A new action joins the queue, where others may have left it. -/
theorem Shows.join (h : l.Shows state) (hnew : ∀ x ∈ a.typing?, x ≠ state ∧ true ∉ l.waiting)
    {l' : Lane} (htold : l'.told = l.told)
    (hwaiting : l'.waiting = l.waiting ++ [a].filterMap Action.typing?) :
    l'.Shows (a.typing?.getD state) := by
  cases htyping : a.typing? with
  | none =>
      rw [List.filterMap_cons_none htyping, List.filterMap_nil, List.append_nil] at hwaiting
      exact h.of_same htold hwaiting
  | some x =>
      obtain ⟨hx, hnone⟩ := hnew x htyping
      rw [List.filterMap_cons_some htyping, List.filterMap_nil] at hwaiting
      exact h.push hx hnone htold hwaiting

/-- **Queueing**: a full queue gives way somewhere else, or the lane is not spared. -/
theorem Shows.accept (h : l.Shows state) (hspared : (l.accept capacity a).Spared)
    (hnew : ∀ x ∈ a.typing?, x ≠ state ∧ true ∉ l.waiting) :
    (l.accept capacity a).Shows (a.typing?.getD state) := by
  by_cases hroom : l.queue.length < capacity
  · have haccept : l.accept capacity a = l.note (l.queue ++ [a]) [] [.enqueued a .queued] :=
      if_pos hroom
    rw [haccept]
    exact h.join hnew (told_note_silent rfl) List.filterMap_append
  · cases hfind : l.queue.find? (·.mayGiveWay) with
    | some oldest =>
        have haccept : l.accept capacity a = l.note (l.queue.eraseP (·.mayGiveWay) ++ [a])
            [oldest.settlement .dropped] [.enqueued a .queued] := by
          simp only [Lane.accept, if_neg hroom, hfind]
        rw [haccept] at hspared ⊢
        have holdest := hspared.typing?_eq_none List.mem_cons_self (by simp) (by simp)
        refine h.join hnew (told_note_silent rfl) ?_
        rw [waiting, note, List.filterMap_append, filterMap_eraseP_other hfind holdest, waiting]
    | none =>
        have haccept : l.accept capacity a =
            l.note l.queue [a.settlement .dropped] [.enqueued a .overflow] := by
          simp only [Lane.accept, if_neg hroom, hfind]
        rw [haccept] at hspared ⊢
        have ha := hspared.typing?_eq_none List.mem_cons_self (by simp) (by simp)
        rw [ha]
        exact h.of_same (told_note_silent rfl) rfl

/-- **An end of typing collapses with a start that waits**, and joins the queue if there is none. -/
theorem Shows.enqueue (h : l.Shows state) (hspared : (l.enqueue capacity a).Spared)
    (hnew : ∀ x ∈ a.typing?, x ≠ state) :
    (l.enqueue capacity a).Shows (a.typing?.getD state) := by
  unfold Lane.enqueue at hspared ⊢
  split at hspared
  · rename_i start hkind hfind
    have htyping : a.typing? = some false := congrArg Action.Kind.typing? hkind
    rw [htyping]
    exact h.collapse (mem_waiting_of_find? hfind) (told_note_silent rfl) (filterMap_eraseP_start _)
  · rename_i start hkind hfind
    have htyping : a.typing? = some true := congrArg Action.Kind.typing? hkind
    have hstate : state = false := by simpa using hnew true htyping
    exact absurd (mem_waiting_of_find? hfind) (hstate ▸ h).not_mem_waiting
  · rename_i hstop hstart
    refine h.accept hspared fun x hx => ⟨hnew x hx, ?_⟩
    cases hfind : l.queue.find? (·.startsTyping) with
    | none => exact not_mem_waiting_of_find? hfind
    | some start =>
        cases hkind : a.kind with
        | typingStop => exact (hstop start hkind hfind).elim
        | typingStart => exact (hstart start hkind hfind).elim
        | sendMessage | readReceipt =>
            rw [Action.typing?, hkind] at hx
            cases hx

theorem Shows.acknowledge (h : l.Shows state) {ack : Ack}
    (hack : ∀ b, l.queue.find? (·.id = ack.actionId) = some b → b.typing? = none) :
    (l.acknowledge ack).Shows state := by
  unfold Lane.acknowledge
  split
  · exact h
  · rename_i b hfind
    exact h.of_same (told_note_silent rfl) (filterMap_eraseP_other hfind (hack b hfind))

/-- A change of actions that leaves their intents alone leaves the states alone. -/
theorem waiting_map {f : Action → Action} (hf : ∀ b, (f b).intent = b.intent)
    (queue : List Action) :
    (queue.map f).filterMap Action.typing? = queue.filterMap Action.typing? := by
  rw [List.filterMap_map]
  refine congrArg (List.filterMap · queue) (funext fun b => ?_)
  show (f b).intent.kind.typing? = b.intent.kind.typing?
  rw [hf]

theorem Shows.expire (h : l.Shows state) {retry : Backoff} {id : String}
    (hspared : (l.expire retry id).Spared) : (l.expire retry id).Shows state := by
  have modified : ∀ f : Action → Action, (∀ b, (f b).intent = b.intent) →
      (l.modify id f).Shows state := by
    intro f hf
    refine h.of_same rfl (waiting_map (fun b => ?_) l.queue)
    split
    · exact hf b
    · rfl
  cases hfind : l.queue.find? (·.id = id) with
  | none => simpa only [Lane.expire, hfind] using h
  | some b =>
      cases hstate : b.state with
      | pending => simpa only [Lane.expire, hfind, hstate] using h
      | waiting =>
          simp only [Lane.expire, hfind, hstate]
          exact modified _ fun _ => rfl
      | inFlight =>
          by_cases hretry : retry.exhausted (b.retries + 1) = true
          · simp only [Lane.expire, hfind, hstate, if_pos hretry] at hspared ⊢
            have hb := hspared.typing?_eq_none List.mem_cons_self (by simp) (by simp)
            exact h.of_same (told_note_silent rfl) (filterMap_eraseP_other hfind hb)
          · simp only [Lane.expire, hfind, hstate, if_neg hretry]
            exact modified _ fun _ => rfl

theorem Shows.disconnect (h : l.Shows state) : l.disconnect.Shows state := by
  refine h.of_same rfl (waiting_map (fun b => ?_) l.queue)
  split <;> rfl

/-- Everything is cancelled, so no typing state was there. -/
theorem Shows.cancelAll (h : l.Shows state) (hspared : l.cancelAll.Spared) :
    l.cancelAll.Shows state := by
  have hnone : l.waiting = [] := List.filterMap_eq_nil_iff.mpr fun b hb => by
    have hmark : .settled (b.settlement .cancelled) ∈ l.cancelAll.record :=
      List.mem_append_left _ (List.mem_reverse.mpr
        (List.mem_map_of_mem (List.mem_map_of_mem hb)))
    exact hspared.typing?_eq_none hmark (by simp) (by simp)
  exact h.of_same (told_note_silent rfl) hnone.symm

end Queue

end Lane

/-! ## 3. What a flush does with typing states -/

section Flush

variable {σ : Type} {send : σ → Outgoing → Except SendFault Unit × σ}

/-- The frames of a chat. -/
def framesAbout (c : String) (frames : List Outgoing) : List Outgoing :=
  frames.filter (·.chat? = some c)

theorem frames_about (c : String) (log : List Mark) :
    frames (about c log) = framesAbout c (frames log) := by
  rw [about, frames, List.filterMap_filter, framesAbout, frames, List.filter_filterMap]
  refine congrArg (List.filterMap · log) (funext fun mark => ?_)
  cases mark with
  | wrote frame => rfl
  | enqueued a outcome => exact ite_self none
  | settled s => exact ite_self none

/-- The typing states of a chat that these frames report; the newest frame stands in front. -/
def typingFrames (c : String) (frames : List Outgoing) : List Bool :=
  typingStates (framesAbout c frames)

theorem told_lane (r : Run) (c : String) : (r.lane c).told = typingFrames c (frames r.log) :=
  congrArg typingStates (frames_about c r.log)

theorem typingFrames_cons (c : String) (frame : Outgoing) (frames : List Outgoing) :
    typingFrames c (frame :: frames) = typingFrames c frames ++ typingFrames c [frame] := by
  have happend : framesAbout c ([frame] ++ frames) =
      framesAbout c [frame] ++ framesAbout c frames := List.filter_append ..
  exact (congrArg typingStates happend).trans (typingStates_append _ _)

theorem typingFrames_action (c : String) (a : Action) :
    typingFrames c [a.frame] = if a.chat = c then a.typing?.toList else [] := by
  have hchat : a.frame.chat? = some c ↔ a.chat = c := by rw [a.frame_chat, Option.some_inj]
  by_cases hc : a.chat = c
  · cases htyping : a.typing? <;>
      simp [typingFrames, framesAbout, typingStates, hchat, hc, a.frame_typing, htyping]
  · simp [typingFrames, framesAbout, typingStates, hchat, hc]

/-- The flush so far: everybody is in the queue of their chat, and the states of a chat that were
sent stand in front of those that are left. -/
structure Telling (c : String) (row : List Bool) (m : OrderedMap String (List Action))
    (f : Flush (σ × List Outgoing)) : Prop where
  home : ∀ k queue, m.get? k = some queue → ∀ a ∈ queue, a.chat = k
  row : row = typingFrames c f.sink.2 ++ ((m.get? c).getD []).filterMap Action.typing?

/-- A head is sent, and what is left of its queue has the states behind it. -/
theorem Telling.sent {c k : String} {row : List Bool} {m : OrderedMap String (List Action)}
    {f f' : Flush (σ × List Outgoing)} {a : Action} {rest queue : List Action}
    (h : Telling c row m f) (hk : m.get? k = some (a :: rest))
    (hframes : f'.sink.2 = a.frame :: f.sink.2) (hhome : ∀ b ∈ queue, b.chat = k)
    (hqueue : a.typing?.toList ++ queue.filterMap Action.typing? =
      (a :: rest).filterMap Action.typing?) : Telling c row (m.insert k queue) f' := by
  have ha : a.chat = k := h.home k _ hk a List.mem_cons_self
  refine ⟨fun d l hd b hb => ?_, ?_⟩
  · rw [OrderedMap.get?_insert] at hd
    split at hd
    · rename_i hkd
      cases hd
      exact hkd ▸ hhome b hb
    · exact h.home d l hd b hb
  · rw [hframes, typingFrames_cons, typingFrames_action, ha, OrderedMap.get?_insert, h.row]
    by_cases hc : k = c
    · rw [if_pos hc, if_pos hc, Option.getD_some, List.append_assoc, hqueue, ← hc, hk,
        Option.getD_some]
    · rw [if_neg hc, if_neg hc, List.append_nil]

theorem Telling.walk {c : String} {row : List Bool} (deadline : Instant)
    {m : OrderedMap String (List Action)} {f : Flush (σ × List Outgoing)} (h : Telling c row m f) :
    Telling c row (m.walk (fun f _ queue => flushQueue (recorded send) deadline f queue) f).1
      (m.walk (fun f _ queue => flushQueue (recorded send) deadline f queue) f).2 := by
  refine walk_flush_rule ?_ ?_ ?_ m f h
  · intro m f k a rest sink fault _ hsend hm
    refine ⟨hm.home, ?_⟩
    rw [frames_of_recorded hsend]
    exact hm.row
  · intro m f k a rest sink hk _ hack hsend hm
    have hnone : a.typing? = none := Action.typing?_of_requiresAck hack
    refine hm.sent hk (frames_of_recorded hsend) (fun b hb => ?_) ?_
    · rcases List.mem_cons.mp hb with rfl | hb
      · exact hm.home k _ hk a List.mem_cons_self
      · exact hm.home k _ hk b (List.mem_cons_of_mem _ hb)
    · have hflying : ({ a with state := .inFlight } : Action).typing? = none := hnone
      rw [hnone, List.filterMap_cons_none hnone, List.filterMap_cons_none hflying]
      rfl
  · intro m f k a rest sink hk _ _ hsend hm
    refine hm.sent hk (frames_of_recorded hsend)
      (fun b hb => hm.home k _ hk b (List.mem_cons_of_mem _ hb)) ?_
    cases htyping : a.typing? <;> simp [htyping]

/-- **A flush moves typing states of a chat from those that wait to those that were written**, in
their order. -/
theorem flush_typing {r : Run} (hs : r.outbox.Sound) (sink : σ) (now : Instant) (c : String) :
    ((r.perform (.flush send sink now)).lane c).typing = (r.lane c).typing ∧
      ((r.perform (.flush send sink now)).lane c).waiting <:+ (r.lane c).waiting := by
  let start : Flush (σ × List Outgoing) := ⟨(sink, []), r.timers, 0, [], false⟩
  let w := r.outbox.chats.walk
    (fun f _ queue => flushQueue (recorded send) (now + r.outbox.ackTimeout) f queue) start
  have hstart : Telling c (r.lane c).waiting r.outbox.chats start := by
    refine ⟨fun k queue hk a ha => ?_, rfl⟩
    have hqueue : r.outbox.queue k = queue := by rw [Outbox.queue, hk, Option.getD_some]
    exact hs.home k a.initial (List.mem_map_of_mem (hqueue ▸ ha))
  have hdone : Telling c (r.lane c).waiting w.1 w.2 := hstart.walk (now + r.outbox.ackTimeout)
  have hqueue : (r.outbox.flush send sink now r.timers).2.1.queue c = (w.1.get? c).getD [] := by
    have hflush : (r.outbox.flush send sink now r.timers).2.1 =
        (settleAll (.delivered none false) r.outbox w.2.done).withChats
          (w.1.filter fun _ queue => !queue.isEmpty) := by
      rw [flush_recorded]
      rfl
    rw [hflush]
    exact queue_filter r.outbox w.1 c
  have hway : Way r.outbox ((r.outbox.framesOf send sink now r.timers).map .wrote)
      (r.outbox.flush send sink now r.timers).2.1 := flush_way hs sink now r.timers
  obtain ⟨l, hsettled, -⟩ := hway r.log
  have hlane : (r.perform (.flush send sink now)).lane c = (r.lane c).note
      ((w.1.get? c).getD []) (l.filter (·.chat = c))
      (about c ((r.outbox.framesOf send sink now r.timers).map .wrote)) := by
    rw [← hqueue]
    exact note_lane hsettled
  rw [hlane]
  constructor
  · rw [Lane.typing, Lane.told_note, frames_about, frames_wrote, List.append_assoc]
    exact congrArg ((r.lane c).told ++ ·) hdone.row.symm
  · exact ⟨_, hdone.row.symm⟩

end Flush

/-! ## 4. Operations -/

/-- The typing state of a chat that an operation is to queue. -/
def asked? (c : String) : Operation → Option Bool
  | .enqueue a => if a.chat = c then a.typing? else none
  | _ => none

/-- An operation answers a typing state of a chat that is queued. -/
def Run.answers (r : Run) (c : String) : Operation → Bool
  | .acknowledge ack =>
    (r.outbox.get? ack.actionId).any fun a => a.chat = c && a.typing?.isSome
  | _ => false

/-- In the course of operations no typing state of a chat is answered while it is queued. -/
def Run.Unanswered (c : String) : Run → List Operation → Prop
  | _, [] => True
  | r, op :: ops => r.answers c op = false ∧ Unanswered c (r.perform op) ops

instance Run.decidableUnanswered (c : String) :
    (r : Run) → (ops : List Operation) → Decidable (r.Unanswered c ops)
  | _, [] => isTrue trivial
  | r, op :: ops =>
    have := Run.decidableUnanswered c (r.perform op) ops
    inferInstanceAs (Decidable (_ ∧ _))

section Perform

variable {r : Run} {c : String} {state : Bool}

theorem enqueue_shows (hs : r.outbox.Sound) (h : (r.lane c).Shows state) {a : Action}
    (hspared : ((r.perform (.enqueue a)).lane c).Spared)
    (hasked : ∀ x ∈ asked? c (.enqueue a), x ≠ state) :
    ((r.perform (.enqueue a)).lane c).Shows ((asked? c (.enqueue a)).getD state) := by
  by_cases hknown : (r.outbox.index.contains a.id || r.outbox.settledIds.contains a.id) = true
  · have hperform : r.perform (.enqueue a) =
        r.note r.outbox r.timers [.enqueued a .duplicateId] := by
      rw [Run.perform, Outbox.enqueue, if_pos hknown]
    have hlane : (r.perform (.enqueue a)).lane c =
        (r.lane c).note (r.lane c).queue [] (about c [.enqueued a .duplicateId]) := by
      rw [hperform]
      exact note_lane (List.append_nil _).symm
    have hnone : asked? c (.enqueue a) = none := by
      rw [asked?]
      split
      · rename_i hc
        have hmark : Mark.enqueued a .duplicateId ∈ about c [.enqueued a .duplicateId] :=
          List.mem_filter.mpr ⟨List.mem_singleton_self _, by simp [Mark.chat?, hc]⟩
        rw [hlane] at hspared
        exact hspared _ (List.mem_append_right _ (List.mem_append_left _ hmark)) rfl
      · rfl
    rw [hnone, hlane]
    have hsilent : frames (about c [.enqueued a .duplicateId]) = [] := frames_about c _
    exact h.of_same (Lane.told_note_silent hsilent) rfl
  · simp only [Bool.or_eq_true, not_or, OrderedMap.contains, Option.not_isSome_iff_eq_none]
      at hknown
    rw [enqueue_lane hs hknown.1 hknown.2] at hspared ⊢
    rw [asked?] at hasked ⊢
    split at hspared
    · rename_i hc
      rw [if_pos hc] at hasked ⊢
      rw [if_pos hc]
      exact h.enqueue hspared hasked
    · rename_i hc
      rw [if_neg hc, if_neg hc]
      exact h

/-- **What one operation does**: the states still alternate, and the one that it is to queue is the
last of them. -/
theorem perform_shows (hs : r.outbox.Sound) (h : (r.lane c).Shows state) {op : Operation}
    (hspared : ((r.perform op).lane c).Spared) (hanswers : r.answers c op = false)
    (hasked : ∀ x ∈ asked? c op, x ≠ state) :
    ((r.perform op).lane c).Shows ((asked? c op).getD state) := by
  cases op with
  | enqueue a => exact enqueue_shows hs h hspared hasked
  | flush send sink now =>
      obtain ⟨htyping, hsuffix⟩ := flush_typing hs sink now c
      exact h.of_suffix htyping hsuffix
  | acknowledge ack =>
      rw [acknowledge_lane hs]
      refine h.acknowledge fun b hb => ?_
      obtain ⟨hget, hchat⟩ := hs.find?_iff.mp hb
      rw [Run.answers, hget] at hanswers
      simpa [hchat] using hanswers
  | expire id now =>
      rw [expire_lane hs] at hspared ⊢
      exact h.expire hspared
  | disconnect =>
      rw [disconnect_lane]
      exact h.disconnect
  | cancelAll =>
      rw [cancelAll_lane hs] at hspared ⊢
      exact h.cancelAll hspared
  | takeSettled => exact h

end Perform

/-! ## 5. Runs -/

/-- In the course of operations typing states of a chat are to be queued by turns, the first one
after this state, and the last one is that state. -/
def Turns (c : String) : Bool → List Operation → Bool → Prop
  | state, [], state' => state' = state
  | state, op :: ops, state' =>
    (∀ x ∈ asked? c op, x ≠ state) ∧ Turns c ((asked? c op).getD state) ops state'

theorem Turns.append {c : String} {state between state' : Bool} {ops ops' : List Operation}
    (h : Turns c state ops between) (h' : Turns c between ops' state') :
    Turns c state (ops ++ ops') state' := by
  induction ops generalizing state with
  | nil => exact (show between = state from h) ▸ h'
  | cons op ops ih => exact ⟨h.1, ih h.2⟩

/-- Where no typing state is to be queued, the state stays. -/
theorem turns_nothing {c : String} (state : Bool) {ops : List Operation}
    (h : ∀ a, .enqueue a ∈ ops → a.typing? = none) : Turns c state ops state := by
  induction ops with
  | nil => exact rfl
  | cons op ops ih =>
      have hop : asked? c op = none := by
        cases op with
        | enqueue a => exact ite_eq_right_iff.mpr fun _ => h a List.mem_cons_self
        | _ => rfl
      refine ⟨fun x hx => ?_, ?_⟩
      · rw [hop] at hx
        cases hx
      · rw [hop]
        exact ih fun a ha => h a (List.mem_cons_of_mem _ ha)

/-- **A run in which starts and ends are queued by turns** keeps the row of typing states
alternating, and it ends with the state that was queued last. -/
theorem performAll_shows {r : Run} {c : String} {state state' : Bool} {ops : List Operation}
    (hs : r.outbox.Sound) (h : (r.lane c).Shows state)
    (hspared : ((r.performAll ops).lane c).Spared)
    (hanswers : r.Unanswered c ops) (hturns : Turns c state ops state') :
    ((r.performAll ops).lane c).Shows state' := by
  induction ops generalizing r state with
  | nil => exact (show state' = state from hturns) ▸ h
  | cons op ops ih =>
      have hsound : (r.perform op).outbox.Sound :=
        ((perform_path hs op).sound (hs.stage r.log)).outbox
      obtain ⟨marks, hmarks⟩ := Run.performAll_grows (r.perform op) ops
      have hfirst : ((r.perform op).lane c).Spared := fun mark hmark => hspared mark <| by
        show mark ∈ about c ((r.perform op).performAll ops).log
        rw [hmarks, about_append]
        exact List.mem_append_right _ hmark
      exact ih hsound (perform_shows hs h hfirst hanswers.1 hturns.1) hspared hanswers.2 hturns.2

end Outbox

end RealtimeChat
