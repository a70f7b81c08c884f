import Mathlib.Data.List.Perm.Basic
import RealtimeChat.Proofs.Store.Run
import RealtimeChat.Proofs.Timestamp
/-!
# The messages of a chat stand in order

Whatever is done to a store, the messages of a chat stand by time, with those that have no time at
the end. Messages of the same time stand as they were inserted: a message that takes the place of
an earlier copy, or of its echo, is inserted anew, one that is only completed or marked is not.

* `NotAfter` -- the order of times, where an absent one is the last;
* `insertByTime_eq` -- in a log that is in order, a message goes where the order splits it;
* `Change`, `change`, **`messages_perform`** -- what an operation does to the messages of a chat;
* `arrivals` -- the messages of a chat as they were inserted last;
* **`run_ordered`** -- the messages are in order, those of one time as they were inserted, and the
  last time of the chat is the newest that a message came with.
-/

namespace RealtimeChat

/-! ## 1. Messages by time -/

/-- One time is not after another, where an absent one is after all others. -/
def NotAfter (a b : Option Timestamp) : Prop := ∀ t ∈ b, ∃ s ∈ a, s ≤ t

theorem NotAfter.refl (a : Option Timestamp) : NotAfter a a :=
  fun t ht => ⟨t, ht, Int.le_refl t.order⟩

theorem NotAfter.trans {a b c : Option Timestamp} (hab : NotAfter a b) (hbc : NotAfter b c) :
    NotAfter a c := by
  intro t ht
  obtain ⟨s, hs, hst⟩ := hbc t ht
  obtain ⟨r, hr, hrs⟩ := hab s hs
  exact ⟨r, hr, Int.le_trans hrs hst⟩

theorem NotAfter.of_not {a b : Option Timestamp} (h : ¬ NotAfter a b) : NotAfter b a := by
  cases b with
  | none => exact absurd (fun _ ht => nomatch ht) h
  | some t =>
      rintro s rfl
      have hlater : ¬ s.order ≤ t.order := fun hle => h fun t' ht' =>
        ⟨s, rfl, (Option.some_inj.mp ht') ▸ hle⟩
      exact ⟨t, rfl, Int.le_of_lt (Int.not_le.mp hlater)⟩

namespace ChatLog

/-- The messages stand by time. -/
def Sorted (l : List Message) : Prop := l.Pairwise fun a b => NotAfter a.timestamp b.timestamp

theorem staysBefore_iff {time : Timestamp} {old : Message} :
    staysBefore time old = true ↔ NotAfter old.timestamp (some time) := by
  unfold staysBefore
  cases h : old.timestamp with
  | none => simp [NotAfter]
  | some t => simp [NotAfter]

/-- **Where a message goes**: behind all that stay before it, if these are at the front. -/
theorem insertByTime_eq {m : Message} {before after : List Message}
    (hbefore : ∀ a ∈ before, NotAfter a.timestamp m.timestamp)
    (hafter : ∀ b ∈ after, ¬ NotAfter b.timestamp m.timestamp) :
    insertByTime m (before ++ after) = before ++ m :: after := by
  unfold insertByTime
  cases htime : m.timestamp with
  | none =>
      have hnil : after = [] := List.eq_nil_iff_forall_not_mem.mpr fun b hb =>
        hafter b hb (htime ▸ fun _ ht => nomatch ht)
      rw [hnil, List.append_nil]
  | some time =>
      rw [htime] at hbefore hafter
      have htrue : ∀ a ∈ before, staysBefore time a = true := fun a ha =>
        staysBefore_iff.mpr (hbefore a ha)
      have hfalse : ∀ b ∈ after, ¬ staysBefore time b = true := fun b hb h =>
        hafter b hb (staysBefore_iff.mp h)
      have htake : after.takeWhile (staysBefore time) = [] := by
        cases after with
        | nil => rfl
        | cons b rest => exact List.takeWhile_cons_of_neg (hfalse b List.mem_cons_self)
      have hdrop : after.dropWhile (staysBefore time) = after := by
        cases after with
        | nil => rfl
        | cons b rest => exact List.dropWhile_cons_of_neg (hfalse b List.mem_cons_self)
      dsimp only
      rw [List.takeWhile_append_of_pos htrue, List.dropWhile_append_of_pos htrue, htake, hdrop,
        List.append_nil]

/-- Messages that stand by time are split by one more. -/
theorem Sorted.split {l : List Message} (h : Sorted l) (time : Option Timestamp) :
    ∃ before after, l = before ++ after ∧ (∀ a ∈ before, NotAfter a.timestamp time) ∧
      ∀ b ∈ after, ¬ NotAfter b.timestamp time := by
  induction l with
  | nil => exact ⟨[], [], rfl, by simp, by simp⟩
  | cons a rest ih =>
      obtain ⟨hfirst, hrest⟩ := List.pairwise_cons.mp h
      by_cases ha : NotAfter a.timestamp time
      · obtain ⟨before, after, rfl, hbefore, hafter⟩ := ih hrest
        exact ⟨a :: before, after, rfl, List.forall_mem_cons.mpr ⟨ha, hbefore⟩, hafter⟩
      · refine ⟨[], a :: rest, rfl, by simp, List.forall_mem_cons.mpr ⟨ha, fun b hb hle => ?_⟩⟩
        exact ha ((hfirst b hb).trans hle)

theorem Sorted.insertByTime {l : List Message} (h : Sorted l) (m : Message) :
    Sorted (insertByTime m l) := by
  obtain ⟨before, after, rfl, hbefore, hafter⟩ := h.split m.timestamp
  obtain ⟨hb, ha, hba⟩ := List.pairwise_append.mp h
  rw [insertByTime_eq hbefore hafter]
  refine List.pairwise_append.mpr
    ⟨hb, List.pairwise_cons.mpr ⟨fun b hb => .of_not (hafter b hb), ha⟩, fun a ha b hb => ?_⟩
  rcases List.mem_cons.mp hb with rfl | hb
  · exact hbefore a ha
  · exact hba a ha b hb

/-- The messages of one time. -/
def ofTime (time : Option Timestamp) (l : List Message) : List Message :=
  l.filter (·.timestamp = time)

/-- Among the messages of its time, a message is inserted at the end. -/
theorem ofTime_insertByTime {l : List Message} (h : Sorted l) (m : Message)
    (time : Option Timestamp) :
    ofTime time (insertByTime m l) = ofTime time (l ++ [m]) := by
  obtain ⟨before, after, rfl, hbefore, hafter⟩ := h.split m.timestamp
  rw [insertByTime_eq hbefore hafter]
  by_cases hm : m.timestamp = time
  · have hnone : ofTime time after = [] := List.filter_eq_nil_iff.mpr fun b hb hb' => by
      have htime : b.timestamp = m.timestamp := (of_decide_eq_true hb').trans hm.symm
      exact hafter b hb (htime ▸ .refl _)
    unfold ofTime at hnone ⊢
    simp [List.filter_append, hm, hnone]
  · simp [ofTime, List.filter_append, hm]

/-! ## 2. Messages that are changed where they stand -/

theorem eraseP_eq_erase {p : Message → Bool} {l : List Message} {a : Message}
    (h : l.find? p = some a) : l.eraseP p = l.erase a := by
  obtain ⟨hp, before, after, rfl, hbefore⟩ := List.find?_eq_some_iff_append.mp h
  have hnot : a ∉ before := fun ha => by simpa [hp] using hbefore a ha
  rw [List.eraseP_append_right _ (fun b hb => by simpa using hbefore b hb),
    List.eraseP_cons_of_pos hp, List.erase_append_right _ hnot, List.erase_cons_head]

theorem replace_cons_of_ne {old new b : Message} (h : b ≠ old) (rest : List Message) :
    (b :: rest).replace old new = b :: rest.replace old new := by
  rw [List.replace_cons, beq_eq_false_iff_ne.mpr h.symm]

theorem changeFirst_eq_replace {p : Message → Bool} {f : Message → Message} {l : List Message}
    {a : Message} (h : l.find? p = some a) : changeFirst p f l = l.replace a (f a) := by
  induction l with
  | nil => cases h
  | cons b rest ih =>
      by_cases hp : p b
      · obtain rfl : b = a := by simpa [hp] using h
        rw [changeFirst, if_pos hp, List.replace_cons_self]
      · have hrest : rest.find? p = some a := by simpa [hp] using h
        have hne : b ≠ a := by
          rintro rfl
          exact hp (List.find?_some hrest)
        rw [changeFirst, if_neg hp, ih hrest, replace_cons_of_ne hne]

theorem map_timestamp_replace {old new : Message} (h : new.timestamp = old.timestamp)
    (l : List Message) :
    (l.replace old new).map Message.timestamp = l.map Message.timestamp := by
  induction l with
  | nil => rfl
  | cons b rest ih =>
      by_cases hb : b = old
      · rw [hb, List.replace_cons_self, List.map_cons, List.map_cons, h]
      · rw [replace_cons_of_ne hb, List.map_cons, List.map_cons, ih]

theorem ofTime_replace {old new : Message} (h : new.timestamp = old.timestamp)
    (time : Option Timestamp) (l : List Message) :
    ofTime time (l.replace old new) = (ofTime time l).replace old new := by
  induction l with
  | nil => rfl
  | cons b rest ih =>
      unfold ofTime at ih ⊢
      by_cases hb : b = old
      · subst hb
        by_cases htime : b.timestamp = time
        · simp [htime, h]
        · have hnot : b ∉ rest.filter (·.timestamp = time) := by simp [htime]
          rw [List.replace_cons_self, List.filter_cons_of_neg (by simp [h, htime]),
            List.filter_cons_of_neg (by simp [htime]), List.replace_of_not_mem hnot]
      · by_cases htime : b.timestamp = time
        · simp [replace_cons_of_ne hb, ih, htime]
        · simp [replace_cons_of_ne hb, ih, htime]

end ChatLog

namespace ChatStore

open ChatLog (isCopyOf isEcho insertByTime Sorted ofTime)

/-! ## 3. What an operation does to the messages of a chat -/

/-- A change of the messages of a chat. -/
inductive Change where
  | keep
  /-- A message is inserted. -/
  | insert (m : Message)
  /-- A message goes, and another one is inserted. -/
  | supersede (old m : Message)
  /-- A message is changed where it stands. -/
  | amend (old new : Message)
  | remove (old : Message)

/-- Carry out a change, where `insert` says how a message is inserted. -/
def Change.carryOut (insert : Message → List Message → List Message) :
    Change → List Message → List Message
  | .keep, l => l
  | .insert m, l => insert m l
  | .supersede old m, l => insert m (l.erase old)
  | .amend old new, l => l.replace old new
  | .remove old, l => l.erase old

/-- The first message that satisfies `p` is changed where it stands. -/
def Change.amendFirst (p : Message → Bool) (f : Message → Message) (l : List Message) : Change :=
  match l.find? p with
  | none => .keep
  | some old => .amend old (f old)

/-- The change of a chat by an operation: a message supersedes the first one that it is a copy of,
or that is its echo; an echo is completed, or goes. -/
def change (s : ChatStore) (chat : String) : Operation → Change
  | .apply e =>
    if e.chat = some chat then
      match e.payload with
      | .message m =>
        match (s.messages chat).find? (isCopyOf m) with
        | none => .insert m
        | some old => .supersede old m
      | .statusChange id status =>
        .amendFirst (·.id = some id) (fun m => { m with status := some status }) (s.messages chat)
      | .typing .. | .presence .. => .keep
    else .keep
  | .confirm c clientId id =>
    if c = chat then
      match (s.messages chat).find? (isEcho clientId) with
      | none => .keep
      | some echo =>
        if some id ∈ s.ids chat then .remove echo
        else .amend echo { echo with id := some id, status := echo.status.or (some .sent) }
    else .keep
  | .markFailed c clientId =>
    if c = chat then
      .amendFirst (isEcho clientId) (fun m => { m with status := some .failed }) (s.messages chat)
    else .keep

theorem carryOut_amendFirst (insert : Message → List Message → List Message)
    (p : Message → Bool) (f : Message → Message) (l : List Message) :
    (Change.amendFirst p f l).carryOut insert l = ChatLog.changeFirst p f l := by
  unfold Change.amendFirst
  cases hold : l.find? p with
  | none => exact (ChatLog.changeFirst_eq_self f hold).symm
  | some old => exact (ChatLog.changeFirst_eq_replace hold).symm

theorem apply_statusChange {s : ChatStore} {e : Event} {c id : String} {status : Message.Status}
    (hchat : e.chat = some c) (he : e.payload = .statusChange id status) :
    s.apply e = ⟨s.chats.modify c (·.setStatus id status)⟩ := by
  simp only [apply, hchat, he]

/-- An event of no chat, or one about somebody, is nothing for a store. -/
theorem apply_eq_self {s : ChatStore} {e : Event}
    (h : e.chat = none ∨ e.kind = .typing ∨ e.kind = .presence) : s.apply e = s := by
  unfold apply
  split
  · simp_all [Event.kind, Event.Payload.kind]
  · simp_all [Event.kind, Event.Payload.kind]
  · rfl

theorem messages_apply_message {s : ChatStore} {e : Event} {c : String} {m : Message}
    (hchat : e.chat = some c) (hm : e.payload = .message m) (chat : String) :
    (s.apply e).messages chat =
      if c = chat then insertByTime m ((s.messages c).eraseP (isCopyOf m))
      else s.messages chat := by
  simp only [apply, hchat, hm, messages, log?, OrderedMap.get?_insert]
  split <;> rfl

theorem messages_apply (s : ChatStore) (chat : String) (e : Event) :
    (s.apply e).messages chat =
      (s.change chat (.apply e)).carryOut insertByTime (s.messages chat) := by
  rw [change]
  cases hchat : e.chat with
  | none => rw [apply_eq_self (.inl hchat), if_neg (by simp), Change.carryOut]
  | some c =>
      cases hp : e.payload with
      | message m =>
          rw [messages_apply_message hchat hp]
          by_cases hc : c = chat
          · subst hc
            rw [if_pos rfl, if_pos rfl]
            dsimp only
            cases hold : (s.messages c).find? (isCopyOf m) with
            | none => exact congrArg (insertByTime m) (ChatLog.eraseP_eq_self hold)
            | some old => exact congrArg (insertByTime m) (ChatLog.eraseP_eq_erase hold)
          · rw [if_neg hc, if_neg (by simpa using hc), Change.carryOut]
      | statusChange id status =>
          rw [apply_statusChange hchat hp, messages_modify rfl]
          by_cases hc : c = chat
          · rw [if_pos hc, if_pos (congrArg some hc), carryOut_amendFirst]
            rfl
          · rw [if_neg hc, if_neg (by simpa using hc), Change.carryOut]
      | typing user isTyping =>
          rw [apply_eq_self (.inr (.inl (congrArg Event.Payload.kind hp)))]
          split <;> rfl
      | presence user status =>
          rw [apply_eq_self (.inr (.inr (congrArg Event.Payload.kind hp)))]
          split <;> rfl

theorem messages_confirm (s : ChatStore) (chat c clientId id : String) :
    (s.confirm c clientId id).messages chat =
      (s.change chat (.confirm c clientId id)).carryOut insertByTime (s.messages chat) := by
  rw [change, confirm, messages_modify rfl]
  by_cases hc : c = chat
  case neg => rw [if_neg hc, if_neg hc, Change.carryOut]
  rw [if_pos hc, if_pos hc]
  cases hecho : (s.messages chat).find? (isEcho clientId) with
  | none => exact ChatLog.messages_confirm_of_none hecho
  | some echo =>
      have hany : (s.messages chat).any (·.id = some id) = true ↔ some id ∈ s.ids chat := by
        simp [ids]
      have hlog : (((s.log? chat).getD .empty).confirm clientId id).messages =
          if some id ∈ s.ids chat then (s.messages chat).eraseP (isEcho clientId)
          else ChatLog.changeFirst (isEcho clientId)
            (fun m => { m with id := some id, status := m.status.or (some .sent) })
            (s.messages chat) := by
        simp only [ChatLog.confirm, ← hany]
        rfl
      rw [hlog]
      split
      · rw [ChatLog.eraseP_eq_erase hecho, Change.carryOut]
      · rw [ChatLog.changeFirst_eq_replace hecho, Change.carryOut]

/-- **The messages of a chat after an operation.** -/
theorem messages_perform (s : ChatStore) (chat : String) (op : Operation) :
    (s.perform op).messages chat =
      (s.change chat op).carryOut insertByTime (s.messages chat) := by
  cases op with
  | apply e => exact messages_apply s chat e
  | confirm c clientId id => exact messages_confirm s chat c clientId id
  | markFailed c clientId =>
      rw [perform, markFailed, messages_modify rfl, change]
      split
      · rw [carryOut_amendFirst]
        rfl
      · rw [Change.carryOut]

theorem timestamp_of_amendFirst {p : Message → Bool} {f : Message → Message} {l : List Message}
    {old new : Message} (h : Change.amendFirst p f l = .amend old new)
    (hf : ∀ m, (f m).timestamp = m.timestamp) : new.timestamp = old.timestamp := by
  unfold Change.amendFirst at h
  split at h
  · cases h
  · cases h
    exact hf old

/-- A message that is changed where it stands keeps its time. -/
theorem timestamp_of_change_eq_amend {s : ChatStore} {chat : String} {op : Operation}
    {old new : Message} (h : s.change chat op = .amend old new) :
    new.timestamp = old.timestamp := by
  cases op with
  | apply e =>
      rw [change] at h
      split at h
      case isFalse => cases h
      split at h
      · split at h <;> cases h
      · exact timestamp_of_amendFirst h fun _ => rfl
      · cases h
      · cases h
  | confirm c clientId id =>
      rw [change] at h
      split at h
      case isFalse => cases h
      split at h
      · cases h
      · split at h
        · cases h
        · cases h
          rfl
  | markFailed c clientId =>
      rw [change] at h
      split at h
      · exact timestamp_of_amendFirst h fun _ => rfl
      · cases h

/-! ## 4. The order is kept -/

/-- The messages of a chat in the order in which they were inserted last: `row` before the
operations. -/
def arrivals (chat : String) (s : ChatStore) (row : List Message) : List Operation → List Message
  | [] => row
  | op :: ops =>
    arrivals chat (s.perform op) ((s.change chat op).carryOut (fun m l => l ++ [m]) row) ops

/-- Messages that stand by time, and those of one time as they do in a row. -/
structure Ordered (messages row : List Message) : Prop where
  sorted : Sorted messages
  ties : ∀ time, ofTime time messages = ofTime time row

theorem ofTime_erase (time : Option Timestamp) (old : Message) (l : List Message) :
    ofTime time (l.erase old) = (ofTime time l).erase old := List.erase_filter.symm

theorem Ordered.erase {messages row : List Message} (h : Ordered messages row) (old : Message) :
    Ordered (messages.erase old) (row.erase old) where
  sorted := h.sorted.sublist List.erase_sublist
  ties time := by rw [ofTime_erase, ofTime_erase, h.ties]

theorem Ordered.insert {messages row : List Message} (h : Ordered messages row) (m : Message) :
    Ordered (insertByTime m messages) (row ++ [m]) where
  sorted := h.sorted.insertByTime m
  ties time := by
    rw [ChatLog.ofTime_insertByTime h.sorted]
    simpa only [ofTime, List.filter_append] using congrArg (· ++ ofTime time [m]) (h.ties time)

theorem Ordered.replace {messages row : List Message} (h : Ordered messages row)
    {old new : Message} (htime : new.timestamp = old.timestamp) :
    Ordered (messages.replace old new) (row.replace old new) where
  sorted := by
    have hsorted := h.sorted
    unfold Sorted at hsorted ⊢
    rw [← List.pairwise_map] at hsorted ⊢
    rwa [ChatLog.map_timestamp_replace htime]
  ties time := by rw [ChatLog.ofTime_replace htime, ChatLog.ofTime_replace htime, h.ties]

/-- **What a change keeps**, if one that is made where a message stands leaves its time alone. -/
theorem Ordered.carryOut {messages row : List Message} (h : Ordered messages row) {c : Change}
    (hamend : ∀ old new, c = .amend old new → new.timestamp = old.timestamp) :
    Ordered (c.carryOut insertByTime messages) (c.carryOut (fun m l => l ++ [m]) row) := by
  cases c with
  | keep => exact h
  | insert m => exact h.insert m
  | supersede old m => exact (h.erase old).insert m
  | amend old new => exact h.replace (hamend old new rfl)
  | remove old => exact h.erase old

theorem performAll_ordered {s : ChatStore} {chat : String} {row : List Message}
    (ops : List Operation) (h : Ordered (s.messages chat) row) :
    Ordered ((s.performAll ops).messages chat) (arrivals chat s row ops) := by
  induction ops generalizing s row with
  | nil => exact h
  | cons op ops ih =>
      refine ih ?_
      rw [messages_perform]
      exact h.carryOut fun _ _ => timestamp_of_change_eq_amend

theorem run_arrivals (ops : List Operation) (chat : String) :
    Ordered ((run ops).messages chat) (arrivals chat empty [] ops) := by
  have hstart : Ordered (empty.messages chat) [] := ⟨List.Pairwise.nil, fun _ => rfl⟩
  exact performAll_ordered ops hstart

/-! ## 5. The last time of a chat -/

/-- The time of the message that an operation brings to the chat. -/
def timestamp? (chat : String) : Operation → Option Timestamp
  | .apply e => if e.chat = some chat then e.message?.bind (·.timestamp) else none
  | .confirm .. | .markFailed .. => none

/-- The last time of a chat. -/
def lastTimestamp (s : ChatStore) (chat : String) : Option Timestamp :=
  (s.log? chat).bind (·.lastTimestamp)

theorem lastTimestamp_modify {s : ChatStore} {c : String} {f : ChatLog → ChatLog}
    (hf : ∀ log, (f log).lastTimestamp = log.lastTimestamp) (chat : String) :
    lastTimestamp ⟨s.chats.modify c f⟩ chat = s.lastTimestamp chat := by
  simp only [lastTimestamp, log?, OrderedMap.get?_modify]
  split
  · cases s.chats.get? chat with
    | none => rfl
    | some log => exact hf log
  · rfl

theorem lastTimestamp_apply_message {s : ChatStore} {e : Event} {c : String} {m : Message}
    (hchat : e.chat = some c) (hm : e.payload = .message m) (chat : String) :
    (s.apply e).lastTimestamp chat =
      if c = chat then Timestamp.later (s.lastTimestamp c) m.timestamp
      else s.lastTimestamp chat := by
  simp only [apply, hchat, hm, lastTimestamp, log?, OrderedMap.get?_insert]
  split
  · cases s.chats.get? c <;> rfl
  · rfl

/-- The last time follows the messages that are brought to the chat. -/
theorem lastTimestamp_perform (s : ChatStore) (chat : String) (op : Operation) :
    (s.perform op).lastTimestamp chat =
      Timestamp.later (s.lastTimestamp chat) (timestamp? chat op) := by
  cases op with
  | apply e =>
      rw [perform, timestamp?]
      cases hchat : e.chat with
      | none => rw [apply_eq_self (.inl hchat), if_neg (by simp), Timestamp.later_none]
      | some c =>
          cases hp : e.payload with
          | message m =>
              rw [lastTimestamp_apply_message hchat hp]
              by_cases hc : c = chat
              · simp [hc, Event.message?, hp]
              · simp [hc, Timestamp.later_none]
          | statusChange id status =>
              rw [apply_statusChange hchat hp,
                lastTimestamp_modify (f := (·.setStatus id status)) fun _ => rfl]
              simp [Event.message?, hp, Timestamp.later_none]
          | typing user isTyping =>
              rw [apply_eq_self (.inr (.inl (congrArg Event.Payload.kind hp)))]
              simp [Event.message?, hp, Timestamp.later_none]
          | presence user status =>
              rw [apply_eq_self (.inr (.inr (congrArg Event.Payload.kind hp)))]
              simp [Event.message?, hp, Timestamp.later_none]
  | confirm c clientId id =>
      rw [perform, confirm, lastTimestamp_modify (f := (·.confirm clientId id)) fun _ => rfl,
        timestamp?, Timestamp.later_none]
  | markFailed c clientId =>
      rw [perform, markFailed, lastTimestamp_modify (f := (·.markFailed clientId)) fun _ => rfl,
        timestamp?, Timestamp.later_none]

theorem performAll_newest {s : ChatStore} {chat : String} {times : List Timestamp}
    (ops : List Operation) (h : Newest times (s.lastTimestamp chat)) :
    Newest ((ops.filterMap (timestamp? chat)).reverse ++ times)
      ((s.performAll ops).lastTimestamp chat) := by
  induction ops generalizing s times with
  | nil => exact h
  | cons op ops ih =>
      have hop := h.later (timestamp? chat op)
      rw [← lastTimestamp_perform] at hop
      have hrest := ih hop
      change Newest _ (((s.perform op).performAll ops).lastTimestamp chat)
      cases htime : timestamp? chat op with
      | none => simpa [htime] using hrest
      | some t => simpa [htime] using hrest

/-- **The order of a store.** The messages of a chat stand by time, those without a time last;
messages of the same time, or of none, stand in the order in which they were inserted last; the
last time is the newest that a message came with, if one came with a time. -/
theorem run_ordered (ops : List Operation) (chat : String) :
    Sorted ((run ops).messages chat) ∧
      (∀ time, ofTime time ((run ops).messages chat) =
        ofTime time (arrivals chat empty [] ops)) ∧
      Newest (ops.filterMap (timestamp? chat)) ((run ops).lastTimestamp chat) := by
  have hnobody : Newest [] (empty.lastTimestamp chat) := .nil
  have hnewest := performAll_newest ops hnobody
  rw [List.append_nil] at hnewest
  obtain ⟨hsorted, hties⟩ := run_arrivals ops chat
  refine ⟨hsorted, hties, fun t ht => ?_, fun t ht => ?_⟩
  · exact List.mem_reverse.mp (hnewest.taken t ht)
  · exact hnewest.newest t (List.mem_reverse.mpr ht)

end ChatStore

end RealtimeChat
