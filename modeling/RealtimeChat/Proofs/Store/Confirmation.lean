import RealtimeChat.Proofs.Store.Order
/-!
# An acknowledgement and the server's copy come in either order

The server names a message twice: by the acknowledgement to its author, and by the copy that all
members of the chat get. Which one comes first is up to the network. The acknowledgement completes
the echo, and the copy then takes its place; or the copy takes its place at once, if it names the
action, and stands beside it otherwise until the acknowledgement drops it.

* `eraseP_insertByTime` -- a message that goes makes no difference to where another one is put;
* `Awaits`, `Names` -- an echo that waits for an id, and a copy that brings it;
* `messages_confirm_put`, `messages_put_confirm` -- the log after both, in either order;
* **`apply_confirm_comm`** -- both orders lead to the same store, with one copy and no echo.
-/

namespace RealtimeChat

namespace ChatLog

/-! ## 1. A message that goes and one that comes -/

/-- To take a message out and to put another one in can be done in either order. -/
theorem eraseP_insertByTime {l : List Message} (h : Sorted l) {m : Message}
    {p : Message → Bool} (hm : p m = false) :
    (insertByTime m l).eraseP p = insertByTime m (l.eraseP p) := by
  obtain ⟨before, after, rfl, hbefore, hafter⟩ := h.split m.timestamp
  rw [insertByTime_eq hbefore hafter, List.eraseP_append, List.eraseP_append]
  split
  · rw [insertByTime_eq (fun a ha => hbefore a (List.mem_of_mem_eraseP ha)) hafter]
  · rw [List.eraseP_cons_of_neg (by simp [hm]),
      insertByTime_eq hbefore fun b hb => hafter b (List.mem_of_mem_eraseP hb)]

theorem eraseP_middle {p : Message → Bool} {before : List Message} {x : Message}
    (hbefore : ∀ a ∈ before, ¬ p a = true) (hx : p x = true) (after : List Message) :
    (before ++ x :: after).eraseP p = before ++ after := by
  rw [List.eraseP_append_right _ hbefore, List.eraseP_cons_of_pos hx]

theorem changeFirst_middle {p : Message → Bool} {before : List Message} {x : Message}
    (f : Message → Message) (hbefore : ∀ a ∈ before, ¬ p a = true) (hx : p x = true)
    (after : List Message) :
    changeFirst p f (before ++ x :: after) = before ++ f x :: after := by
  induction before with
  | nil => exact if_pos hx
  | cons a before ih =>
      obtain ⟨ha, hrest⟩ := List.forall_mem_cons.mp hbefore
      rw [List.cons_append, changeFirst, if_neg ha, ih hrest, List.cons_append]

/-! ## 2. An echo, its acknowledgement and its copy -/

/-- One message of an action stands in the log, an echo between others, and none has the id. -/
structure Awaits (log : ChatLog) (clientId id : String) (before : List Message) (echo : Message)
    (after : List Message) : Prop where
  messages : log.messages = before ++ echo :: after
  ofAction : echo.clientId = some clientId
  unnamed : echo.id = none
  others : ∀ x ∈ before ++ after, x.clientId ≠ some clientId ∧ x.id ≠ some id

/-- A message has this id, and is of this action or does not say of which one. -/
structure Names (m : Message) (clientId id : String) : Prop where
  named : m.id = some id
  ofAction : m.clientId = none ∨ m.clientId = some clientId

theorem awaits_of_filter {log : ChatLog} {clientId id : String} {echo : Message}
    (hone : log.messages.filter (·.clientId = some clientId) = [echo]) (hid : echo.id = none)
    (hfree : ∀ x ∈ log.messages, x.id ≠ some id) :
    ∃ before after, Awaits log clientId id before echo after := by
  obtain ⟨before, after, hmessages, hbefore, hecho, hafter⟩ := List.filter_eq_cons_iff.mp hone
  refine ⟨before, after, hmessages, of_decide_eq_true hecho, hid, fun x hx => ⟨?_, ?_⟩⟩
  · rcases List.mem_append.mp hx with hx | hx
    · simpa using hbefore x hx
    · simpa using List.filter_eq_nil_iff.mp hafter x hx
  · refine hfree x ?_
    rw [hmessages]
    rcases List.mem_append.mp hx with hx | hx
    · exact List.mem_append_left _ hx
    · exact List.mem_append_right _ (List.mem_cons_of_mem _ hx)

section

variable {log : ChatLog} {clientId id : String} {before after : List Message} {echo m : Message}

theorem Awaits.isEcho_echo (h : Awaits log clientId id before echo after) :
    isEcho clientId echo = true := by
  simp [isEcho, h.unnamed, h.ofAction]

theorem Awaits.not_isEcho (h : Awaits log clientId id before echo after) :
    ∀ x ∈ before ++ after, ¬ isEcho clientId x = true := by
  intro x hx hecho
  exact (h.others x hx).1 (of_decide_eq_true (Bool.and_eq_true_iff.mp hecho).2)

theorem Awaits.not_isCopyOf (h : Awaits log clientId id before echo after)
    (hm : Names m clientId id) : ∀ x ∈ before ++ after, ¬ isCopyOf m x = true := by
  intro x hx
  obtain ⟨hclient, hid⟩ := h.others x hx
  rcases hm.ofAction with hnone | hsome
  · simp [isCopyOf, hm.named, hid, hnone]
  · simp [isCopyOf, hm.named, hid, hsome, hclient]

/-- What holds of the echo and of the others holds of all messages of the log. -/
theorem Awaits.forall_mem (h : Awaits log clientId id before echo after) {P : Message → Prop}
    (hecho : P echo) (hothers : ∀ x ∈ before ++ after, P x) : ∀ x ∈ log.messages, P x := by
  obtain ⟨hbefore, hafter⟩ := List.forall_mem_append.mp hothers
  rw [h.messages]
  exact List.forall_mem_append.mpr ⟨hbefore, List.forall_mem_cons.mpr ⟨hecho, hafter⟩⟩

/-- The first message that satisfies `p` is the echo, if no other one does. -/
theorem Awaits.eraseP_echo (h : Awaits log clientId id before echo after) {p : Message → Bool}
    (hecho : p echo = true) (hothers : ∀ x ∈ before ++ after, ¬ p x = true) :
    log.messages.eraseP p = before ++ after := by
  rw [h.messages, eraseP_middle (List.forall_mem_append.mp hothers).1 hecho]

/-- The copy came first: the echo makes room for it, or goes with the acknowledgement. -/
theorem messages_confirm_put (h : Awaits log clientId id before echo after)
    (hm : Names m clientId id) (hsorted : Sorted log.messages) :
    ((log.put m).confirm clientId id).messages = insertByTime m (before ++ after) := by
  have hput : (log.put m).messages = insertByTime m (log.messages.eraseP (isCopyOf m)) := rfl
  have hthere : (log.put m).messages.any (·.id = some id) = true :=
    List.any_eq_true.mpr ⟨m, (insertByTime_perm m _).mem_iff.mpr List.mem_cons_self,
      decide_eq_true hm.named⟩
  have hnoecho : isEcho clientId m = false := by simp [isEcho, hm.named]
  have hrest : (log.messages.eraseP (isCopyOf m)).eraseP (isEcho clientId) = before ++ after := by
    rcases hm.ofAction with hnone | hsome
    · have hkept : ¬ isCopyOf m echo = true := by simp [isCopyOf, hm.named, h.unnamed, hnone]
      rw [List.eraseP_of_forall_not (h.forall_mem hkept (h.not_isCopyOf hm)),
        h.eraseP_echo h.isEcho_echo h.not_isEcho]
    · have hgone : isCopyOf m echo = true := by simp [isCopyOf, h.ofAction, hsome]
      rw [h.eraseP_echo hgone (h.not_isCopyOf hm), List.eraseP_of_forall_not h.not_isEcho]
  simp only [confirm, if_pos hthere]
  rw [hput, eraseP_insertByTime (hsorted.sublist List.eraseP_sublist) hnoecho, hrest]

/-- The acknowledgement came first: the completed echo makes room for the copy. -/
theorem messages_put_confirm (h : Awaits log clientId id before echo after)
    (hm : Names m clientId id) :
    ((log.confirm clientId id).put m).messages = insertByTime m (before ++ after) := by
  have hfree : ¬ log.messages.any (·.id = some id) = true := by
    have hnot : ∀ x ∈ log.messages, x.id ≠ some id :=
      h.forall_mem (by simp [h.unnamed]) fun x hx => (h.others x hx).2
    simpa using hnot
  simp only [put, confirm, if_neg hfree]
  rw [h.messages, changeFirst_middle _ (List.forall_mem_append.mp h.not_isEcho).1 h.isEcho_echo,
    eraseP_middle (List.forall_mem_append.mp (h.not_isCopyOf hm)).1 (by simp [isCopyOf, hm.named])]

/-- **Both orders lead to the same log.** -/
theorem confirm_put (h : Awaits log clientId id before echo after) (hm : Names m clientId id)
    (hsorted : Sorted log.messages) :
    (log.put m).confirm clientId id = (log.confirm clientId id).put m :=
  congrArg (ChatLog.mk · (Timestamp.later log.lastTimestamp m.timestamp))
    ((messages_confirm_put h hm hsorted).trans (messages_put_confirm h hm).symm)

end

end ChatLog

namespace ChatStore

open ChatLog (Awaits Names Sorted isEcho insertByTime)

/-! ## 3. The store -/

/-- Stores with the same logs are the same store. -/
theorem ext_log? {s t : ChatStore} (h : ∀ chat, s.log? chat = t.log? chat) : s = t :=
  congrArg ChatStore.mk (OrderedMap.ext_get? h)

/-- The chats after the copy of a message and then its acknowledgement. -/
theorem log?_confirm_apply {s : ChatStore} {e : Event} {chat : String} {m : Message}
    (hchat : e.chat = some chat) (hm : e.payload = .message m) (clientId id k : String) :
    ((s.apply e).confirm chat clientId id).log? k =
      if chat = k then some ((((s.log? chat).getD .empty).put m).confirm clientId id)
      else s.log? k := by
  simp only [apply, hchat, hm, confirm, log?, OrderedMap.get?_modify, OrderedMap.get?_insert]
  split <;> rfl

/-- The chats after the acknowledgement of a message and then its copy. -/
theorem log?_apply_confirm {s : ChatStore} {e : Event} {chat : String} {m : Message}
    (hchat : e.chat = some chat) (hm : e.payload = .message m) (clientId id k : String) :
    ((s.confirm chat clientId id).apply e).log? k =
      if chat = k then some ((((s.log? chat).getD .empty).confirm clientId id).put m)
      else s.log? k := by
  have hlog : ((s.confirm chat clientId id).log? chat).getD .empty =
      ((s.log? chat).getD .empty).confirm clientId id := by
    simp only [log?, confirm, OrderedMap.get?_modify, if_true]
    cases s.chats.get? chat <;> rfl
  have happly : (s.confirm chat clientId id).apply e = ⟨(s.confirm chat clientId id).chats.insert
      chat ((((s.confirm chat clientId id).log? chat).getD .empty).put m)⟩ := by
    simp only [apply, hchat, hm]
  rw [happly, hlog, log?, OrderedMap.get?_insert]
  split
  · rfl
  · rename_i hk
    rw [confirm, OrderedMap.get?_modify, if_neg hk, log?]

/-- **An acknowledgement and the server's copy can come in either order.** Where one message of an
action stands in a chat, an echo, and none has the id that the server gave to it, the store after
both is the same, the echo is gone and the copy stands there once. -/
theorem apply_confirm_comm (ops : List Operation) {chat clientId id : String} {echo : Message}
    (hone : ((run ops).messages chat).filter (·.clientId = some clientId) = [echo])
    (hecho : echo.id = none) (hfree : some id ∉ (run ops).ids chat)
    {e : Event} {m : Message} (hchat : e.chat = some chat) (hm : e.payload = .message m)
    (hid : m.id = some id) (hclient : m.clientId = none ∨ m.clientId = some clientId) :
    ((run ops).apply e).confirm chat clientId id = ((run ops).confirm chat clientId id).apply e ∧
      (∀ x ∈ (((run ops).apply e).confirm chat clientId id).messages chat,
        isEcho clientId x = false) ∧
      ((((run ops).apply e).confirm chat clientId id).messages chat).filter (·.id = some id) =
        [m] := by
  have hsorted := (run_arrivals ops chat).sorted
  have hnames : Names m clientId id := ⟨hid, hclient⟩
  have hget := log?_confirm_apply (s := run ops) hchat hm clientId id
  have hget' := log?_apply_confirm (s := run ops) hchat hm clientId id
  have hunused : ∀ x ∈ (run ops).messages chat, x.id ≠ some id := fun x hx h =>
    hfree (List.mem_map.mpr ⟨x, hx, h⟩)
  obtain ⟨before, after, hawaits⟩ := ChatLog.awaits_of_filter hone hecho hunused
  have hmessages : (((run ops).apply e).confirm chat clientId id).messages chat =
      insertByTime m (before ++ after) := by
    rw [messages, hget, if_pos rfl]
    exact ChatLog.messages_confirm_put hawaits hnames hsorted
  have hperm := ChatLog.insertByTime_perm m (before ++ after)
  refine ⟨?_, fun x hx => ?_, ?_⟩
  · refine ext_log? fun k => ?_
    rw [hget, hget', ChatLog.confirm_put hawaits hnames hsorted]
  · rw [hmessages, hperm.mem_iff] at hx
    rcases List.mem_cons.mp hx with rfl | hx
    · simp [isEcho, hid]
    · simpa using hawaits.not_isEcho x hx
  · have hothers : (before ++ after).filter (·.id = some id) = [] :=
      List.filter_eq_nil_iff.mpr fun x hx => by simpa using (hawaits.others x hx).2
    have hfilter := hperm.filter (·.id = some id)
    rw [List.filter_cons_of_pos (by simp [hid]), hothers] at hfilter
    rw [hmessages]
    exact hfilter.eq_singleton

/-- A text of chat 42 with a time of the first day of 2026. -/
def textAt (id clientId : Option String) (hour : Fin 24) : Message :=
  { Message.plain "text" with
    id, clientId, timestamp := Timestamp.ofFields? 2026 1 1 (hour * 3600) 0 }

/-- The event that brings a text to chat 42. -/
def bringing (m : Message) : Event := ⟨none, some "42", .message m, m.timestamp, false⟩

/-- An echo behind somebody else's message, and a copy of it that has an earlier time and does not
name the action. -/
theorem apply_confirm_comm_earlier :
    let ops : List Operation := [.apply (bringing (textAt (some "m1") none 9)),
      .apply (bringing (textAt none (some "a1") 12))]
    let copy := textAt (some "m2") none 8
    (((run ops).messages "42").filter (·.clientId = some "a1") = [textAt none (some "a1") 12] ∧
      some "m2" ∉ (run ops).ids "42") ∧
    ((run ops).apply (bringing copy)).confirm "42" "a1" "m2" =
        ((run ops).confirm "42" "a1" "m2").apply (bringing copy) ∧
      (∀ x ∈ (((run ops).apply (bringing copy)).confirm "42" "a1" "m2").messages "42",
        isEcho "a1" x = false) ∧
      ((((run ops).apply (bringing copy)).confirm "42" "a1" "m2").messages "42").filter
        (·.id = some "m2") = [copy] := by
  intro ops copy
  have hone : ((run ops).messages "42").filter (·.clientId = some "a1") =
      [textAt none (some "a1") 12] := by decide
  have hfree : some "m2" ∉ (run ops).ids "42" := by decide
  exact ⟨⟨hone, hfree⟩, apply_confirm_comm ops hone rfl hfree rfl rfl rfl (.inl rfl)⟩

end ChatStore

end RealtimeChat
