import RealtimeChat.Store
import RealtimeChat.Proofs.OrderedMap
/-!
# Runs of a store and what an operation does to the ids of a chat

A store is worked by its operations, one after the other and in any order, with any events and any
ids. In the course of them the server gives ids to messages: an event brings a message with an id,
or an acknowledgement gives one to an echo.

* `ids`, `copies` -- the ids that stand in a chat, and how often one does;
* `named` -- the ids that the server gave to messages of a chat;
* `Effect`, **`perform_effect`** -- all that an operation can do to the ids of a chat: put one in,
  put one in the place of another, complete an echo, drop an echo, nothing.
-/

namespace RealtimeChat

namespace ChatLog

/-! ## 1. One log -/

theorem insertByTime_perm (m : Message) (l : List Message) :
    (insertByTime m l).Perm (m :: l) := by
  unfold insertByTime
  split
  · exact List.perm_append_singleton m l
  · refine List.perm_middle.trans ?_
    rw [List.takeWhile_append_dropWhile]

/-- The first one that satisfies `p`, and what stays when it is changed or taken out. -/
theorem eraseP_perm {p : Message → Bool} {l : List Message} {a : Message}
    (h : l.find? p = some a) : l.Perm (a :: l.eraseP p) := by
  obtain ⟨hp, before, after, rfl, hbefore⟩ := List.find?_eq_some_iff_append.mp h
  rw [List.eraseP_append_right _ (fun b hb => by simpa using hbefore b hb),
    List.eraseP_cons_of_pos hp]
  exact List.perm_middle

theorem changeFirst_perm {p : Message → Bool} (f : Message → Message) {l : List Message}
    {a : Message} (h : l.find? p = some a) : (changeFirst p f l).Perm (f a :: l.eraseP p) := by
  induction l with
  | nil => cases h
  | cons b rest ih =>
      by_cases hp : p b
      · obtain rfl : b = a := by simpa [hp] using h
        simp [changeFirst, hp]
      · have hrest : rest.find? p = some a := by simpa [hp] using h
        simp only [changeFirst, hp, List.eraseP_cons, Bool.false_eq_true, if_false]
        exact ((ih hrest).cons b).trans (List.Perm.swap ..)

theorem changeFirst_eq_self {p : Message → Bool} (f : Message → Message) {l : List Message}
    (h : l.find? p = none) : changeFirst p f l = l := by
  induction l with
  | nil => rfl
  | cons b rest ih =>
      obtain ⟨hp, hrest⟩ := List.forall_mem_cons.mp (List.find?_eq_none.mp h)
      rw [changeFirst, if_neg hp, ih (List.find?_eq_none.mpr hrest)]

theorem eraseP_eq_self {p : Message → Bool} {l : List Message} (h : l.find? p = none) :
    l.eraseP p = l :=
  List.eraseP_of_forall_not (List.find?_eq_none.mp h)

theorem map_id_changeFirst {p : Message → Bool} {f : Message → Message}
    (h : ∀ m, (f m).id = m.id) (l : List Message) :
    (changeFirst p f l).map Message.id = l.map Message.id := by
  induction l with
  | nil => rfl
  | cons b rest ih =>
      rw [changeFirst]
      split
      · rw [List.map_cons, List.map_cons, h]
      · rw [List.map_cons, List.map_cons, ih]

theorem map_id_setStatus (log : ChatLog) (id : String) (status : Message.Status) :
    (log.setStatus id status).messages.map Message.id = log.messages.map Message.id :=
  map_id_changeFirst (f := fun m => { m with status := some status }) (fun _ => rfl) log.messages

theorem map_id_markFailed (log : ChatLog) (clientId : String) :
    (log.markFailed clientId).messages.map Message.id = log.messages.map Message.id :=
  map_id_changeFirst (f := fun m => { m with status := some .failed }) (fun _ => rfl) log.messages

/-- **An acknowledgement of an action with an echo in the log**: the echo goes if the id stands
there already, and gets it otherwise. -/
theorem confirm_perm {log : ChatLog} {clientId id : String} {echo : Message}
    (h : log.messages.find? (isEcho clientId) = some echo) :
    ((log.confirm clientId id).messages.map Message.id).Perm
      ((if some id ∈ log.messages.map Message.id then [] else [some id]) ++
        (log.messages.eraseP (isEcho clientId)).map Message.id) := by
  have hany : log.messages.any (·.id = some id) = true ↔ some id ∈ log.messages.map Message.id := by
    simp
  simp only [confirm, hany]
  split
  · exact .refl _
  · exact (changeFirst_perm _ h).map Message.id

theorem messages_confirm_of_none {log : ChatLog} {clientId id : String}
    (h : log.messages.find? (isEcho clientId) = none) :
    (log.confirm clientId id).messages = log.messages := by
  simp only [confirm, eraseP_eq_self h, changeFirst_eq_self _ h, ite_self]

end ChatLog

namespace ChatStore

/-! ## 2. Runs -/

/-- The messages of a chat; there are none in a chat without a log. -/
def messages (s : ChatStore) (chat : String) : List Message := ((s.log? chat).getD .empty).messages

/-- The ids that stand in a chat; an echo has none. -/
def ids (s : ChatStore) (chat : String) : List (Option String) := (s.messages chat).map Message.id

/-- In how many messages of a chat an id stands. -/
def copies (s : ChatStore) (chat id : String) : Nat := (s.ids chat).count (some id)

/-- The id that the server gives to a message of the chat with an operation: an event brings it,
or an echo gets it. -/
def named? (s : ChatStore) (chat : String) : Operation → Option String
  | .apply e => if e.chat = some chat then e.message?.bind (·.id) else none
  | .confirm c clientId messageId =>
    if c = chat ∧ (s.messages chat).any (ChatLog.isEcho clientId) then some messageId else none
  | .markFailed .. => none

/-- The ids that the server gives to messages of a chat in the course of operations. -/
def named (chat : String) (s : ChatStore) : List Operation → List String
  | [] => []
  | op :: ops => (s.named? chat op).toList ++ named chat (s.perform op) ops

theorem run_concat (past : List Operation) (op : Operation) :
    run (past ++ [op]) = (run past).perform op := List.foldl_append

theorem named_concat (chat : String) (s : ChatStore) (past : List Operation) (op : Operation) :
    named chat s (past ++ [op]) =
      named chat s past ++ ((s.performAll past).named? chat op).toList := by
  induction past generalizing s with
  | nil => exact List.append_nil _
  | cons first past ih =>
      rw [List.cons_append, named, ih, named, List.append_assoc]
      rfl

/-! ## 3. What an operation does to the ids of a chat -/

/-- **What an operation does to the ids that stand in a chat**, up to their order. `ids` stand there
before and `ids'` afterwards. -/
inductive Effect (s : ChatStore) (chat : String) : Operation → List (Option String) → Prop where
  /-- The ids are the same, and none was given. -/
  | none (op : Operation) (hnamed : s.named? chat op = .none) : Effect s chat op (s.ids chat)
  /-- A message that nothing in the chat is a copy or an echo of. -/
  | put (e : Event) (m : Message) (ids' : List (Option String)) (hchat : e.chat = some chat)
      (hm : e.payload = .message m)
      (hnew : (s.messages chat).find? (ChatLog.isCopyOf m) = .none)
      (hids : ids'.Perm (m.id :: s.ids chat)) : Effect s chat (.apply e) ids'
  /-- A message in the place of the first one that it is a copy of, or that is its echo. -/
  | replace (e : Event) (m old : Message) (rest ids' : List (Option String))
      (hchat : e.chat = some chat) (hm : e.payload = .message m)
      (hold : (s.messages chat).find? (ChatLog.isCopyOf m) = some old)
      (hbefore : (s.ids chat).Perm (old.id :: rest)) (hids : ids'.Perm (m.id :: rest)) :
      Effect s chat (.apply e) ids'
  /-- An echo gets an id that did not stand in the chat. -/
  | complete (clientId id : String) (rest ids' : List (Option String))
      (hnamed : s.named? chat (.confirm chat clientId id) = some id)
      (hfree : some id ∉ s.ids chat)
      (hbefore : (s.ids chat).Perm (.none :: rest)) (hids : ids'.Perm (some id :: rest)) :
      Effect s chat (.confirm chat clientId id) ids'
  /-- An echo goes, since its id stands in the chat already. -/
  | drop (clientId id : String) (ids' : List (Option String))
      (hnamed : s.named? chat (.confirm chat clientId id) = some id)
      (hthere : some id ∈ s.ids chat) (hbefore : (s.ids chat).Perm (.none :: ids')) :
      Effect s chat (.confirm chat clientId id) ids'

/-- The messages of the chats after a change of one log that leaves an empty one empty. -/
theorem messages_modify {s : ChatStore} {c : String} {f : ChatLog → ChatLog}
    (hf : (f .empty).messages = []) (chat : String) :
    messages ⟨s.chats.modify c f⟩ chat =
      if c = chat then (f ((s.log? chat).getD .empty)).messages else s.messages chat := by
  simp only [messages, log?, OrderedMap.get?_modify]
  split
  · cases s.chats.get? chat with
    | none => exact hf.symm
    | some log => rfl
  · rfl

/-- A change of one log that keeps its ids keeps the ids of every chat. -/
theorem ids_modify {s : ChatStore} {c : String} {f : ChatLog → ChatLog}
    (h : ∀ log : ChatLog, (f log).messages.map Message.id = log.messages.map Message.id)
    (chat : String) : ids ⟨s.chats.modify c f⟩ chat = s.ids chat := by
  have hempty : (f .empty).messages = [] := List.map_eq_nil_iff.mp (h .empty)
  rw [ids, messages_modify hempty]
  split
  · exact h _
  · rfl

/-- An event that brings no message to the chat keeps the ids there. -/
theorem ids_apply_other {s : ChatStore} {chat : String} {e : Event}
    (h : e.chat = some chat → e.message? = none) : (s.apply e).ids chat = s.ids chat := by
  unfold apply
  split
  · rename_i c m hc hm
    have hne : c ≠ chat := by
      rintro rfl
      simp [Event.message?, hm] at h
      exact h hc
    simp only [ids, messages, log?, OrderedMap.get?_insert, if_neg hne]
  · exact ids_modify (fun log => log.map_id_setStatus _ _) chat
  · rfl

/-- The ids of a chat after a message: one that it is a copy of, or its echo, makes room for it. -/
theorem ids_apply {s : ChatStore} {chat : String} {e : Event} {m : Message}
    (hchat : e.chat = some chat) (hm : e.payload = .message m) :
    ((s.apply e).ids chat).Perm
      (m.id :: ((s.messages chat).eraseP (ChatLog.isCopyOf m)).map Message.id) := by
  have hperm := (ChatLog.insertByTime_perm m
    ((s.messages chat).eraseP (ChatLog.isCopyOf m))).map Message.id
  simpa only [apply, hchat, hm, ids, messages, log?, OrderedMap.get?_insert, if_true,
    Option.getD_some, ChatLog.put, List.map_cons] using hperm

theorem apply_effect (s : ChatStore) (chat : String) (e : Event) :
    Effect s chat (.apply e) ((s.apply e).ids chat) := by
  by_cases hmsg : ∃ m, e.chat = some chat ∧ e.payload = .message m
  · obtain ⟨m, hchat, hm⟩ := hmsg
    have hids := ids_apply (s := s) hchat hm
    cases hold : (s.messages chat).find? (ChatLog.isCopyOf m) with
    | none =>
        rw [ChatLog.eraseP_eq_self hold] at hids
        exact .put e m _ hchat hm hold hids
    | some old =>
        exact .replace e m old _ _ hchat hm hold ((ChatLog.eraseP_perm hold).map Message.id) hids
  · have hnone : e.chat = some chat → e.message? = none := fun hchat => by
      cases hp : e.payload with
      | message m => exact absurd ⟨m, hchat, hp⟩ hmsg
      | typing | statusChange | presence => simp [Event.message?, hp]
    rw [ids_apply_other hnone]
    refine .none _ ?_
    rw [named?]
    split
    · rename_i hchat
      rw [hnone hchat, Option.bind_none]
    · rfl

theorem confirm_effect (s : ChatStore) (chat c clientId id : String) :
    Effect s chat (.confirm c clientId id) ((s.confirm c clientId id).ids chat) := by
  have hmsgs := messages_modify (s := s) (c := c) (f := (·.confirm clientId id)) rfl chat
  by_cases hc : c = chat
  case neg =>
    rw [if_neg hc] at hmsgs
    have hids : (s.confirm c clientId id).ids chat = s.ids chat :=
      congrArg (List.map Message.id) hmsgs
    rw [hids]
    exact .none _ (if_neg fun h => hc h.1)
  subst hc
  rw [if_pos rfl] at hmsgs
  cases hecho : (s.messages c).find? (ChatLog.isEcho clientId) with
  | none =>
      have hany : (s.messages c).any (ChatLog.isEcho clientId) = false :=
        List.any_eq_false.mpr fun m hm => List.find?_eq_none.mp hecho m hm
      have hids : (s.confirm c clientId id).ids c = s.ids c :=
        congrArg (List.map Message.id) (hmsgs.trans (ChatLog.messages_confirm_of_none hecho))
      rw [hids]
      exact .none _ (if_neg fun h => by simp [hany] at h)
  | some echo =>
      have hp : ChatLog.isEcho clientId echo = true := List.find?_some hecho
      have hnamed : s.named? c (.confirm c clientId id) = some id :=
        if_pos ⟨rfl, List.any_eq_true.mpr ⟨echo, List.mem_of_find?_eq_some hecho, hp⟩⟩
      have hid : echo.id = none := by
        simpa [ChatLog.isEcho] using (Bool.and_eq_true_iff.mp hp).1
      have hbefore := (ChatLog.eraseP_perm hecho).map Message.id
      rw [List.map_cons, hid] at hbefore
      have hperm : ((s.confirm c clientId id).ids c).Perm
          ((if some id ∈ s.ids c then [] else [some id]) ++
            ((s.messages c).eraseP (ChatLog.isEcho clientId)).map Message.id) := by
        rw [ids, confirm, hmsgs]
        exact ChatLog.confirm_perm hecho
      by_cases hthere : some id ∈ s.ids c
      · rw [if_pos hthere, List.nil_append] at hperm
        exact .drop clientId id _ hnamed hthere (hbefore.trans (hperm.symm.cons none))
      · rw [if_neg hthere] at hperm
        exact .complete clientId id _ _ hnamed hthere hbefore hperm

theorem perform_effect (s : ChatStore) (chat : String) (op : Operation) :
    Effect s chat op ((s.perform op).ids chat) := by
  cases op with
  | apply e => exact apply_effect s chat e
  | confirm c clientId id => exact confirm_effect s chat c clientId id
  | markFailed c clientId =>
      have hids : (s.markFailed c clientId).ids chat = s.ids chat :=
        ids_modify (fun log => log.map_id_markFailed clientId) chat
      rw [perform, hids]
      exact .none _ rfl

end ChatStore

end RealtimeChat
