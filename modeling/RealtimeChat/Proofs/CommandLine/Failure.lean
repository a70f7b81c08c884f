import Mathlib.Data.List.Infix
import Mathlib.Tactic.Tauto
import RealtimeChat.CommandLine.Run
/-!
# Whether exit status and code of a failure say the same

A script learns of a failure by the exit status and by the code that is printed. Both go by the
cause first and by the words where the cause has nothing of its own to say, but not by the same
causes and not by the same words. So they can part.

* `FailureCode.status` -- the exit status that a code stands for;
* `mentions_iff`, `mentions_text` -- a phrase in the words of a failure;
* `Failure.Clear` -- the failures about which both say the same, cause by cause;
* **`status_code_iff`** -- these and no others; and which faults of the settings end in the exit
  status for wrong settings.
-/

namespace RealtimeChat.CommandLine

/-- The exit status that a code stands for. -/
def FailureCode.status : FailureCode → ExitStatus
  | .authFailure => .auth
  | .reconnectExhausted => .network
  | .networkTimeout => .network
  | .actionFailed => .action
  | .missingEndpoint => .usage
  | .invalidAction => .usage
  | .configError => .usage
  | .clientError => .error

/-! ## 1. Phrases -/

/-- A text with its capital letters made small. -/
def lowered (message : String) : String := String.ofList (message.toList.map Char.toLower)

theorem wordsCode_eq (message : String) : wordsCode message =
    if mentions (lowered message) "timed out" then .networkTimeout
    else if mentions (lowered message) "config" then .configError
    else .clientError := rfl

theorem occursIn_iff {needle hay : List Char} : occursIn needle hay = true ↔ needle <:+: hay := by
  induction hay with
  | nil => simp [occursIn]
  | cons c cs ih =>
      rw [occursIn, Bool.or_eq_true, List.isPrefixOf_iff_prefix, ih, List.infix_cons_iff]

/-- To mention a phrase is to have it as a part. -/
theorem mentions_iff {message phrase : String} :
    mentions message phrase = true ↔ phrase.toList <:+: message.toList := occursIn_iff

/-- A phrase in small letters stays where it is when all letters are made small. -/
theorem mentions_lowered {message phrase : String}
    (hsmall : phrase.toList.map Char.toLower = phrase.toList)
    (h : mentions message phrase = true) : mentions (lowered message) phrase = true := by
  rw [mentions_iff] at h ⊢
  have hmap := h.map Char.toLower
  rwa [hsmall, ← String.toList_ofList (l := message.toList.map Char.toLower)] at hmap

theorem infix_intercalate {α : Type} {sep part : List α} {parts : List (List α)}
    (h : part ∈ parts) : part <:+: sep.intercalate parts := by
  induction parts with
  | nil => cases h
  | cons first rest ih =>
      cases rest with
      | nil =>
          rw [List.mem_singleton.mp h, List.intercalate_singleton]
      | cons second rest =>
          rw [List.intercalate_cons_cons]
          rcases List.mem_cons.mp h with rfl | h
          · exact (List.prefix_append _ _).isInfix.trans (List.prefix_append _ _).isInfix
          · exact (ih h).trans (List.suffix_append _ _).isInfix

/-- What one of the texts mentions that make up the words of a failure, the failure mentions. -/
theorem mentions_text {f : Failure} {part phrase : String}
    (hpart : part ∈ f.contexts ++ f.cause.texts) (h : mentions part phrase = true) :
    mentions f.text phrase = true := by
  rw [mentions_iff] at h ⊢
  rw [Failure.text, String.toList_intercalate]
  exact h.trans (infix_intercalate (List.mem_map_of_mem hpart))

theorem mentions_append {part phrase : String} (h : mentions part phrase = true) (rest : String) :
    mentions (part ++ rest) phrase = true := by
  rw [mentions_iff] at h ⊢
  rw [String.toList_append]
  exact h.trans (List.prefix_append _ _).isInfix

/-! ## 2. Words -/

namespace Failure

/-- The failure has a phrase in its words. -/
def Says (f : Failure) (phrase : String) : Prop := mentions f.text phrase = true

/-- The failure has a phrase in its words, in capital or small letters. -/
def Hints (f : Failure) (phrase : String) : Prop := mentions (lowered f.text) phrase = true

/-- The words are those of no other class than that of all failures. -/
def Plain (f : Failure) : Prop := ¬ f.Hints "timed out" ∧ ¬ f.Hints "config"

/-- The words are about the settings, for the exit status. -/
def BlamesSettings (f : Failure) : Prop :=
  f.Says "invalid client configuration" ∨ f.Says "failed to load config"

instance (f : Failure) (phrase : String) : Decidable (f.Says phrase) :=
  inferInstanceAs (Decidable (_ = _))

instance (f : Failure) (phrase : String) : Decidable (f.Hints phrase) :=
  inferInstanceAs (Decidable (_ = _))

instance (f : Failure) : Decidable f.BlamesSettings := inferInstanceAs (Decidable (_ ∨ _))

variable {f : Failure}

theorem hints_timedOut (h : f.Says "timed out") : f.Hints "timed out" :=
  mentions_lowered (by decide) h

/-- Who blames the settings speaks of them. -/
theorem hints_config_of_blamesSettings (h : f.BlamesSettings) : f.Hints "config" := by
  have hphrase : ∀ phrase, phrase.toList.map Char.toLower = phrase.toList →
      mentions phrase "config" = true → f.Says phrase → f.Hints "config" := by
    intro phrase hsmall hconfig htold
    have hlow := mentions_iff.mp (mentions_lowered hsmall htold)
    exact mentions_iff.mpr ((mentions_iff.mp hconfig).trans hlow)
  rcases h with h | h
  · exact hphrase _ (by decide) (by decide) h
  · exact hphrase _ (by decide) (by decide) h

/-- A part of the words that speaks of the settings makes the failure speak of them. -/
theorem hints_config_of_mem (part : String) {rest : String} (hpart : part ++ rest ∈ f.cause.texts)
    (h : mentions part "config" = true) : f.Hints "config" :=
  mentions_lowered (by decide)
    (mentions_text (List.mem_append_right _ hpart) (mentions_append h rest))

/-- Every fault of the settings speaks of them. -/
theorem hints_config_of_settings {fault : Settings.FileFault} (h : f.cause = .settings fault) :
    f.Hints "config" := by
  cases fault with
  | system inner =>
      exact hints_config_of_mem "config I/O error: " (by rw [h]; exact List.mem_cons_self)
        (by decide)
  | unreadable inner =>
      exact hints_config_of_mem "config parse error: " (by rw [h]; exact List.mem_cons_self)
        (by decide)
  | unwritable inner =>
      exact hints_config_of_mem "config serialize error: "
        (by rw [h]; exact List.mem_cons_self) (by decide)
  | invalid reason =>
      exact hints_config_of_mem "invalid config: " (by rw [h]; exact List.mem_cons_self)
        (by decide)

/-- So does a client that cannot run with its settings. -/
theorem hints_config_of_client {reason : String} (h : f.cause = .client (.settings reason)) :
    f.Hints "config" :=
  hints_config_of_mem "invalid config: " (by rw [h]; exact List.mem_cons_self) (by decide)

/-- What the words come to for the code. -/
theorem status_wordsCode (f : Failure) : (wordsCode f.text).status =
    if f.Hints "timed out" then .network else if f.Hints "config" then .usage else .error := by
  rw [wordsCode_eq, apply_ite FailureCode.status, apply_ite FailureCode.status]
  rfl

/-- What the words come to for the exit status. -/
theorem wordsStatus_eq (f : Failure) : wordsStatus f.text =
    if f.Says "timed out" then .network else if f.BlamesSettings then .usage else .error := by
  unfold wordsStatus BlamesSettings Says
  by_cases hconfiguration : mentions f.text "invalid client configuration" = true
  · simp [hconfiguration]
  · simp [hconfiguration]

/-! ## 3. Causes -/

/-- Nobody answered. -/
def Unanswered (fault : SystemFault) : Prop :=
  fault.kind = .connectionRefused ∨ fault.kind = .timedOut

instance (fault : SystemFault) : Decidable (Unanswered fault) :=
  inferInstanceAs (Decidable (_ ∨ _))

theorem refusalStatus_eq (fault : SystemFault) :
    refusalStatus fault.kind = if Unanswered fault then .network else .error := by
  obtain ⟨kind, text⟩ := fault
  cases kind <;> rfl

/-- Both say the same about the failure: the cause alone decides, or the words ask for what the
cause asks for, or without such a cause the words ask for the same twice. -/
def Clear (f : Failure) : Prop :=
  match f.cause with
  | .session _ => True
  | .client (.invalidAction _) => True
  | .client .missingEndpoint => True
  -- there is no code for an action that was settled before, but an exit status
  | .client (.duplicateAction _) => False
  | .client (.settings _) => ¬ f.Hints "timed out"
  | .client (.alreadyConnected _) => f.Plain
  | .client .shutdown => f.Plain
  -- the words of such a fault speak of the settings, the exit status does not know of them
  | .settings (.system fault) => Unanswered fault ∧ f.Hints "timed out"
  | .system fault => if Unanswered fault then f.Hints "timed out" else f.Plain
  | .settings _ => f.Says "timed out" ∨ ¬ f.Hints "timed out" ∧ f.BlamesSettings
  | .message _ =>
    f.Says "timed out" ∨ ¬ f.Hints "timed out" ∧ (f.BlamesSettings ∨ ¬ f.Hints "config")

/-- The words ask for the code of a status. -/
def Asks (f : Failure) : ExitStatus → Prop
  | .network => f.Hints "timed out"
  | .usage => ¬ f.Hints "timed out" ∧ f.Hints "config"
  | .error => f.Plain
  | _ => False

/-- A cause without a code of its own: the words decide about the code, and something that has a
status of its own about the status. -/
theorem agrees_of_words (hcode : f.code = wordsCode f.text) :
    f.code.status = f.exitStatus ↔ f.Asks f.exitStatus := by
  rw [hcode, status_wordsCode]
  unfold Asks Plain
  by_cases htime : f.Hints "timed out"
  · cases f.exitStatus <;> simp [htime]
  · by_cases hconfig : f.Hints "config" <;> cases f.exitStatus <;> simp [htime, hconfig]

/-- The same where the words decide about both. -/
theorem agrees_of_words_twice (hcode : f.code = wordsCode f.text)
    (hstatus : f.exitStatus = wordsStatus f.text) : f.code.status = f.exitStatus ↔
      f.Says "timed out" ∨ ¬ f.Hints "timed out" ∧ (f.BlamesSettings ∨ ¬ f.Hints "config") := by
  rw [hcode, hstatus, status_wordsCode, wordsStatus_eq]
  by_cases htold : f.Says "timed out"
  · simp [htold, hints_timedOut htold]
  · by_cases hblames : f.BlamesSettings
    · have hconfig := hints_config_of_blamesSettings hblames
      by_cases htime : f.Hints "timed out" <;> simp [htold, hblames, hconfig, htime]
    · by_cases htime : f.Hints "timed out"
      · simp [htold, hblames, htime]
      · by_cases hconfig : f.Hints "config" <;> simp [htold, hblames, htime, hconfig]

/-- Exit status and code say the same about the clear failures and about no others. -/
theorem agrees_iff_clear (f : Failure) : f.code.status = f.exitStatus ↔ f.Clear := by
  cases h : f.cause with
  | session failure =>
      unfold code exitStatus Clear
      cases failure <;> simp [h, FailureCode.status, SessionFailure.exitStatus]
  | client fault =>
      cases fault with
      | invalidAction limit => simp [code, exitStatus, Clear, h, FailureCode.status, faultStatus]
      | missingEndpoint => simp [code, exitStatus, Clear, h, FailureCode.status, faultStatus]
      | settings reason =>
          rw [agrees_of_words (by simp only [code, h])]
          simp only [exitStatus, Clear, h, faultStatus, Asks, hints_config_of_client h, and_true]
      | _ =>
          rw [agrees_of_words (by simp only [code, h])]
          simp only [exitStatus, Clear, h, faultStatus, Asks]
  | settings fault =>
      have hconfig := hints_config_of_settings h
      cases fault with
      | system inner =>
          rw [agrees_of_words (by simp only [code, h])]
          by_cases hnone : Unanswered inner
          · simp [exitStatus, Clear, h, Cause.system?, refusalStatus_eq, Asks, hnone]
          · simp [exitStatus, Clear, h, Cause.system?, refusalStatus_eq, Asks, hnone, Plain,
              hconfig]
      | _ =>
          rw [agrees_of_words_twice (by simp only [code, h])
            (by simp only [exitStatus, h, Cause.system?])]
          simp only [Clear, h, hconfig, not_true, or_false]
  | system fault =>
      rw [agrees_of_words (by simp only [code, h])]
      by_cases hnone : Unanswered fault <;>
        simp [exitStatus, Clear, h, Cause.system?, refusalStatus_eq, Asks, hnone]
  | message text =>
      rw [agrees_of_words_twice (by simp only [code, h])
        (by simp only [exitStatus, h, Cause.system?])]
      simp only [Clear, h]

/-! ## 4. Settings -/

/-- The settings for a command could not be loaded, or the client cannot run with them. -/
inductive OfSettings (f : Failure) : Prop where
  | named {w : World} {path : String} (h : loadNamed w path = .error f)
  | invalid {s : Settings} (h : demandValid s = .error f)
  | session {w : World} {path : Option String} {a : SessionArguments}
      (h : sessionSettings w path a = .error f)

theorem loadNamed_error {w : World} {path : String} (h : loadNamed w path = .error f) :
    (∃ fault, f.cause = .settings fault) ∧ f.BlamesSettings := by
  unfold loadNamed at h
  cases hread : readSettings w path with
  | ok s => rw [hread] at h; cases h
  | error fault =>
      rw [hread] at h
      cases h
      exact ⟨⟨fault, rfl⟩,
        .inr (mentions_text List.mem_cons_self (mentions_append (by decide) path))⟩

theorem demandValid_error {s : Settings} (h : demandValid s = .error f) :
    (∃ fault, f.cause = .settings fault) ∧ f.BlamesSettings := by
  unfold demandValid at h
  split at h
  · cases h
  · cases h
    exact ⟨⟨_, rfl⟩, .inl (mentions_text List.mem_cons_self (by decide))⟩

theorem loadSettings_error {w : World} {path : Option String} (h : loadSettings w path = .error f) :
    ∃ path, loadNamed w path = .error f := by
  cases path with
  | none => cases h
  | some path => exact ⟨path, h⟩

/-- All of these blame the settings, as cause and in words. -/
theorem OfSettings.blames (h : f.OfSettings) :
    (∃ fault, f.cause = .settings fault) ∧ f.BlamesSettings := by
  cases h with
  | named h => exact loadNamed_error h
  | invalid h => exact demandValid_error h
  | @session w path a h =>
      unfold sessionSettings at h
      cases hload : loadSettings w path with
      | ok s =>
          rw [hload] at h
          exact demandValid_error h
      | error fault =>
          rw [hload] at h
          cases h
          obtain ⟨path, hnamed⟩ := loadSettings_error hload
          exact loadNamed_error hnamed

/-- The exit status for wrong settings is that of settings which could be read, unless the words
are those of a timeout. -/
theorem OfSettings.usage_iff (h : f.OfSettings) : f.exitStatus = .usage ↔
    (∀ fault, f.cause ≠ .settings (.system fault)) ∧ ¬ f.Says "timed out" := by
  obtain ⟨⟨fault, hcause⟩, hblames⟩ := h.blames
  cases fault with
  | system inner =>
      have hstatus : f.exitStatus = refusalStatus inner.kind := by
        simp only [exitStatus, hcause, Cause.system?]
      rw [hstatus, refusalStatus_eq]
      refine iff_of_false ?_ fun hno => hno.1 inner hcause
      split <;> simp
  | _ =>
      have hstatus : f.exitStatus = wordsStatus f.text := by
        simp only [exitStatus, hcause, Cause.system?]
      rw [hstatus, wordsStatus_eq, hcause]
      by_cases htold : f.Says "timed out" <;> simp [htold, hblames]

end Failure

/-- **Exit status and code of a failure say the same exactly if the failure is clear**; and where
the settings for a command could not be loaded or are wrong, the exit status says so exactly if
the file could be read and nothing in the words is about a timeout. -/
theorem status_code_iff (f : Failure) : (f.code.status = f.exitStatus ↔ f.Clear) ∧
    (f.OfSettings → (f.exitStatus = .usage ↔
      (∀ fault, f.cause ≠ .settings (.system fault)) ∧ ¬ f.Says "timed out")) :=
  ⟨f.agrees_iff_clear, fun h => h.usage_iff⟩

theorem status_code_iff_impatient : ∃ f : Failure,
    demandValid { server := { connectTimeoutMs := 0 } } = .error f ∧ f.exitStatus = .usage :=
  ⟨⟨["invalid client configuration"],
      .settings (.invalid "server.connect_timeout_ms must be > 0")⟩,
    rfl, ((status_code_iff _).2 (.invalid (s := { server := { connectTimeoutMs := 0 } }) rfl)).mpr
      ⟨nofun, by decide⟩⟩

/-- A file that is not there: the code is that of wrong settings, the exit status is not. -/
theorem absent_file_ambiguous : ∃ f : Failure,
    loadNamed ⟨{}, none, none, none, false, false, {}, ⟨UInt64.ofNat, 0⟩, ⟨Nat.repr, 0⟩⟩
      "chat.toml" = .error f ∧
      f.code = .configError ∧ f.code.status = .usage ∧ f.exitStatus = .error :=
  ⟨⟨["failed to load config from chat.toml"],
      .settings (.system ⟨.notFound, "No such file or directory (os error 2)"⟩)⟩,
    rfl, by decide +kernel, by decide +kernel, rfl⟩

end RealtimeChat.CommandLine
