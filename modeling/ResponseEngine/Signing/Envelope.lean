/-
  Signing/Envelope.lean --- the signing function refines its meaning.

  `Complete` collects the checks of `signingInput`, and `Represents` relates an
  envelope to the command it stands for.  Every value that is not refused with
  `UnsignableCommand` is complete (`complete_of_notUnsignable`), a complete envelope
  stands for a command (`Complete.represents`), and it is signed as that command's
  encoding (`signingInput_refines`).
-/
import ResponseEngine.Signing.SignedCommand

set_option autoImplicit false

namespace ResponseEngine.Signing

open ResponseEngine.Foundation ResponseEngine.Python ResponseEngine.Python.Pydantic
open ResponseEngine.Contract

variable {rt : Runtime}

/-! ## Writing the fields -/

theorem field_eq_ok {name : String} {value : Text} {bytes : List UInt8} :
    field name value = .ok bytes ↔
      ∃ data, value.utf8? = some data ∧
        bytes = Text.decimalPrefix.named 10 (Text.utf8 name.toList, data) := by
  have hcolon : Text.utf8 [':'] = [58] := by decide
  have hnewline : Text.utf8 ['\n'] = [10] := by decide
  simp only [field, bind_eq_ok, encode_eq_ok, pure_eq_ok, Except.ok.injEq, hcolon, hnewline,
    Framing.LengthPrefix.named, Framing.LengthPrefix.netstring, Text.decimalPrefix]
  simp [eq_comm]

theorem field_eq_error {name : String} {value : Text} {e : PyError} :
    field name value = .error e ↔ ¬ value.Encodable ∧ e = .unicodeEncodeError value := by
  simp [field, bind_eq_error, encode_eq_error]

/-- Text fields are written as a record of their encodings. -/
theorem mapM_fieldBytes_of_utf8 {names : List String} {texts : List Text}
    {data : List (List UInt8)} (hlength : names.length = texts.length)
    (h : texts.map Text.utf8? = data.map some) :
    ∃ parts, (names.zip (texts.map PyVal.str)).mapM fieldBytes = .ok parts ∧
      parts.flatten = recordBytes names data := by
  induction texts generalizing names data with
  | nil =>
      obtain rfl := List.eq_nil_of_length_eq_zero hlength
      exact ⟨[], rfl, rfl⟩
  | cons text texts ih =>
      cases names with
      | nil => simp at hlength
      | cons name names =>
          cases data with
          | nil => simp at h
          | cons bytes data =>
              simp only [List.map_cons, List.cons.injEq] at h
              obtain ⟨parts, hparts, hflatten⟩ := ih (by simpa using hlength) h.2
              refine ⟨Text.decimalPrefix.named 10 (Text.utf8 name.toList, bytes) :: parts, ?_, ?_⟩
              · simp only [List.map_cons, List.zip_cons_cons, List.mapM_cons, fieldBytes]
                rw [field_eq_ok.mpr ⟨bytes, h.1, rfl⟩, ok_bind, hparts]
                rfl
              · simp [hflatten, recordBytes, Framing.LengthPrefix.record]

/-- Where one of the texts has no encoding, the first such text is reported. -/
theorem mapM_fieldBytes_of_not_encodable {names : List String} {texts : List Text}
    (hlength : names.length = texts.length) (h : ¬ ∀ t ∈ texts, t.Encodable) :
    ∃ t, (names.zip (texts.map PyVal.str)).mapM fieldBytes = .error (.unicodeEncodeError t) := by
  induction texts generalizing names with
  | nil => simp at h
  | cons text texts ih =>
      cases names with
      | nil => simp at hlength
      | cons name names =>
          simp only [List.map_cons, List.zip_cons_cons, List.mapM_cons, fieldBytes]
          by_cases htext : text.Encodable
          · obtain ⟨bytes, hbytes⟩ := Option.isSome_iff_exists.mp htext
            have hrest : ¬ ∀ t ∈ texts, t.Encodable := fun hall =>
              h (List.forall_mem_cons.mpr ⟨htext, hall⟩)
            obtain ⟨t, ht⟩ := ih (by simpa using hlength) hrest
            exact ⟨t, by rw [field_eq_ok.mpr ⟨bytes, hbytes, rfl⟩, ok_bind, ht]; rfl⟩
          · exact ⟨text, by rw [field_eq_error.mpr ⟨htext, rfl⟩, error_bind]⟩

/-! ## The flattened target -/

section

variable {d : Dict} {t : ClosedTarget}

theorem getD_bootId (h : Dict.Same d t.toDict) :
    Dict.getD d "boot_id" (.str []) = .str (flatten t).bootId := by
  rw [Dict.getD, h]
  cases t <;> simp [ClosedTarget.toDict, flatten]

theorem getD_path (h : Dict.Same d t.toDict) :
    Dict.getD d "path" (.str []) = .str (flatten t).path := by
  rw [Dict.getD, h]
  cases t <;> simp [ClosedTarget.toDict, flatten]

theorem unsignedText_natCast (key : String) (n : Nat) :
    unsignedText key (n : Int) = .ok (Text.ofNat n) := by
  simp [unsignedText]

theorem unsigned_pid (rt : Runtime) (h : Dict.Same d t.toDict) :
    unsigned rt d "pid" = .ok (Text.ofNat (flatten t).pid) := by
  have hzero := unsignedText_natCast "pid" 0
  rw [unsigned, Dict.getD, h]
  cases t <;> simp [ClosedTarget.toDict, flatten, unsignedText_natCast]
  all_goals exact hzero

theorem unsigned_startTimeTicks (rt : Runtime) (h : Dict.Same d t.toDict) :
    unsigned rt d "start_time_ticks" = .ok (Text.ofNat (flatten t).startTimeTicks) := by
  have hzero := unsignedText_natCast "start_time_ticks" 0
  rw [unsigned, Dict.getD, h]
  cases t <;> simp [ClosedTarget.toDict, flatten, unsignedText_natCast]
  all_goals exact hzero

end

/-! ## What an accepted envelope stands for -/

/-- The envelope passes every check, and stands for the command. -/
structure Represents (rt : Runtime) (command : Dict) (s : SignedCommand) : Prop where
  closed : isClosed command = true
  host_eq : Dict.get command "host_id" = .str s.hostId
  host_length : 1 ≤ s.hostId.length ∧ s.hostId.length ≤ 128
  valid : ∃ c, Command.modelValidate rt (commandEntries command) = .ok c
  version_eq : Dict.get command "schema_version" = .str s.version.value
  commandId_eq : Dict.get command "command_id" = .str s.commandId
  correlationId_eq : Dict.get command "correlation_id" = .str s.correlationId
  agentId_eq : Dict.get command "agent_id" = .str s.agentId
  action_eq : Dict.get command "action" = .str s.action.value
  created_eq : epochSeconds rt (Dict.get command "created_at") = .ok (s.createdAt : Int)
  expires_eq : epochSeconds rt (Dict.get command "expires_at") = .ok (s.expiresAt : Int)
  target_eq : ∃ d, targetOf command = .ok d ∧ Dict.Same d s.target.toDict
  fits : s.target.Fits s.version s.action

theorem contains_of_isClosed {command : Dict} (h : isClosed command = true) {k : Key}
    (hk : k ∈ required) : Dict.contains command k = true := by
  simp only [isClosed, Bool.and_eq_true, List.all_eq_true] at h
  exact h.1 k hk

theorem getItem_of_isClosed {command : Dict} (h : isClosed command = true) {k : Key}
    (hk : k ∈ required) : Dict.getItem command k = .ok (Dict.get command k) :=
  Dict.getItem_of_contains (contains_of_isClosed h hk)

/-- The schema version is the one that the target's boot calls for. -/
theorem version_value_eq {t : ClosedTarget} {version : SchemaVersion} {action : Action}
    (h : t.Fits version action) :
    (if (flatten t).bootId.isEmpty then ("1" : Text) else "2") = version.value := by
  cases t with
  | bootProcess t =>
      cases version with
      | v1 => exact h.elim
      | v2 => simp [flatten, bootId_ne_nil t, SchemaVersion.value]
  | _ =>
      cases version with
      | v1 => rfl
      | v2 => exact h.elim

/-- The fields of an envelope that stands for a command. -/
theorem signedFields_of_represents {command target : Dict} {s : SignedCommand}
    (h : Represents rt command s) (htarget : Dict.Same target s.target.toDict) :
    signedFields rt command target (flatten s.target).bootId (flatten s.target).path =
      .ok (SignedCommand.names.zip (s.contents.map PyVal.str)) := by
  have hcreated : Dict.contains command "created_at" = true :=
    contains_of_isClosed h.closed (by simp [required])
  have hitem : ∀ k ∈ required, Dict.getItem command k = .ok (Dict.get command k) :=
    fun k hk => getItem_of_isClosed h.closed hk
  have hversion : PyVal.pyEq (.str s.version.value) (.str s.version.value) = true :=
    PyVal.pyEq_str.mpr rfl
  simp only [signedFields, hcreated, Bool.not_true, raiseIf, Bool.false_eq_true, if_false,
    version_value_eq h.fits, hitem "schema_version" (by simp [required]),
    hitem "command_id" (by simp [required]), hitem "correlation_id" (by simp [required]),
    hitem "agent_id" (by simp [required]), hitem "host_id" (by simp [required]),
    hitem "action" (by simp [required]), hitem "created_at" (by simp [required]),
    hitem "expires_at" (by simp [required]), h.version_eq, h.commandId_eq, h.correlationId_eq,
    h.agentId_eq, h.host_eq, h.action_eq, h.created_eq, h.expires_eq, unsigned_pid rt htarget,
    unsigned_startTimeTicks rt htarget, ok_bind, hversion, Text.ofInt_natCast, pure_eq_ok]
  rfl

/-- An envelope that stands for a command is written field by field. -/
theorem signingInput_of_represents {command : Dict} {s : SignedCommand}
    (h : Represents rt command s) :
    signingInput rt (.dict command) = (do
      let parts ← (SignedCommand.names.zip (s.contents.map PyVal.str)).mapM fieldBytes
      return domain ++ parts.flatten) := by
  obtain ⟨c, hc⟩ := h.valid
  obtain ⟨target, htarget, hsame⟩ := h.target_eq
  have hhost : isHostId (.str s.hostId) = true := by simpa [isHostId] using h.host_length
  rw [signingInput, if_pos h.closed, envelopeBytes,
    getItem_of_isClosed h.closed (by simp [required]), ok_bind, h.host_eq, hhost, hc, htarget]
  simp only [raiseIf, Bool.not_true, Bool.false_eq_true, if_false, orUnsignable, ok_bind,
    getD_bootId hsame, getD_path hsame]
  rw [signedFields_of_represents h hsame, ok_bind]

/-- Every output for a command starts with the command domain. -/
theorem domain_of_signingInput {v : PyVal} {bytes : List UInt8}
    (h : signingInput rt v = .ok bytes) : ∃ rest, bytes = domain ++ rest := by
  unfold signingInput at h
  split at h
  · split_ifs at h
    · simp only [envelopeBytes, bind_eq_ok] at h
      obtain ⟨_, _, _, _, _, _, _, _, h⟩ := h
      split at h
      · obtain ⟨_, _, h⟩ := bind_eq_ok.mp h
        obtain ⟨parts, _, h⟩ := bind_eq_ok.mp h
        exact ⟨_, (Except.ok.inj h).symm⟩
      · simp [unsignable] at h
    · simp [unsignable] at h
  · simp [unsignable] at h

/-! ## Every other value is refused -/

section

variable {α β : Type}

/-- The only exception a step raises is `UnsignableCommand`. -/
def OnlyUnsignable (x : Except PyError α) : Prop :=
  ∀ e, x = .error e → ∃ message, e = .unsignableCommand message

/-- A step does not raise `UnsignableCommand`. -/
def NotUnsignable (x : Except PyError α) : Prop :=
  ∀ message, x ≠ .error (.unsignableCommand message)

theorem OnlyUnsignable.ok (a : α) : OnlyUnsignable (.ok a : Except PyError α) := by
  intro e h
  simp at h

theorem OnlyUnsignable.unsignable (message : Text) :
    OnlyUnsignable (unsignable message : Except PyError α) := by
  rintro e ⟨rfl⟩
  exact ⟨message, rfl⟩

theorem OnlyUnsignable.raiseIf (condition : Bool) (message : Text) :
    OnlyUnsignable (Python.raiseIf condition (.unsignableCommand message)) := by
  intro e h
  obtain ⟨_, rfl⟩ := raiseIf_eq_error.mp h
  exact ⟨message, rfl⟩

theorem OnlyUnsignable.bind {x : Except PyError α} {f : α → Except PyError β}
    (hx : OnlyUnsignable x) (hf : ∀ a, x = .ok a → OnlyUnsignable (f a)) :
    OnlyUnsignable (x >>= f) := by
  intro e h
  rcases bind_eq_error.mp h with h | ⟨a, ha, h⟩
  · exact hx e h
  · exact hf a ha e h

/-- A first step that can only raise `UnsignableCommand` has succeeded. -/
theorem NotUnsignable.bind {x : Except PyError α} {f : α → Except PyError β}
    (h : NotUnsignable (x >>= f)) (hx : OnlyUnsignable x) :
    ∃ a, x = .ok a ∧ NotUnsignable (f a) := by
  cases x with
  | ok a => exact ⟨a, rfl, h⟩
  | error e =>
      obtain ⟨message, rfl⟩ := hx e rfl
      exact absurd rfl (h message)

end

theorem onlyUnsignable_epochSeconds (v : PyVal) : OnlyUnsignable (epochSeconds rt v) := by
  cases v with
  | str text =>
      simp only [epochSeconds]
      split
      · split
        · split_ifs
          · exact .unsignable _
          · exact .ok _
        · exact .unsignable _
      · exact .unsignable _
  | _ => exact .unsignable _

/-- A time before 1970 is refused, so an accepted one is a natural number. -/
theorem exists_nat_of_epochSeconds {v : PyVal} {n : Int} (h : epochSeconds rt v = .ok n) :
    ∃ m : Nat, n = m := by
  refine Int.eq_ofNat_of_zero_le ?_
  cases v with
  | str text =>
      simp only [epochSeconds] at h
      split at h
      · split at h
        · split_ifs at h with hneg
          · simp [unsignable] at h
          · obtain rfl := Except.ok.inj h
            exact not_lt.mp hneg
        · simp [unsignable] at h
      · simp [unsignable] at h
  | _ => simp [epochSeconds, unsignable] at h

theorem onlyUnsignable_modelValidate {d : Dict} (message : Text) :
    OnlyUnsignable (orUnsignable message (Command.modelValidate rt d)) := by
  intro e h
  cases hvalidate : Command.modelValidate rt d with
  | ok c => simp [hvalidate, orUnsignable] at h
  | error e' =>
      have hvalue := Command.isValueError_of_modelValidate hvalidate
      simp only [hvalidate, orUnsignable, hvalue, if_true, unsignable, Except.error.injEq] at h
      exact ⟨message, h.symm⟩

theorem orUnsignable_eq_ok {α : Type} {message : Text} {x : Except PyError α} {a : α} :
    orUnsignable message x = .ok a ↔ x = .ok a := by
  cases x with
  | ok b => simp [orUnsignable]
  | error e => cases he : e.isValueError <;> simp [orUnsignable, unsignable, he]

theorem isHostId_iff {v : PyVal} :
    isHostId v = true ↔ ∃ t, v = .str t ∧ 1 ≤ t.length ∧ t.length ≤ 128 := by
  cases v <;> simp [isHostId]

theorem targetOf_of_dict {command d : Dict} (h : Dict.get command "target" = .dict d) :
    targetOf command = .ok d := by
  rw [targetOf, h]
  cases d <;> rfl

theorem onlyUnsignable_targetOf (command : Dict) : OnlyUnsignable (targetOf command) := by
  simp only [targetOf]
  split
  · split
    · exact .ok _
    · exact .unsignable _
  · exact .ok _

/-- The command part of an envelope keeps the values of its own entries. -/
theorem find?_commandEntries (command : Dict) (k : Key) :
    Dict.find? (commandEntries command) k =
      if k ∈ (["host_id", "created_at", "authorization"] : List Key) then none
      else Dict.find? command k := by
  let kept (k : Key) : Bool := decide (k ∉ (["host_id", "created_at", "authorization"] : List Key))
  refine (Dict.find?_filter (p := kept)).trans ?_
  by_cases hk : k ∈ (["host_id", "created_at", "authorization"] : List Key)
  · rw [if_pos hk, if_neg (fun h => absurd hk (of_decide_eq_true h))]
  · rw [if_neg hk, if_pos (decide_eq_true hk)]

/-- The target that is flattened is the one that was validated. -/
theorem target_eq_of_validated {command target : Dict} {c : Command}
    (hclosed : isClosed command = true) (hc : Command.Validated rt (commandEntries command) c)
    (htarget : targetOf command = .ok target) : c.target = target := by
  obtain ⟨v, hv⟩ := Dict.contains_iff.mp (contains_of_isClosed hclosed (k := "target")
    (by simp [required]))
  have hfind : Dict.find? (commandEntries command) "target" = some v := by
    rw [find?_commandEntries, if_neg (by simp), hv]
  have hdict := (optional_eq_ok_of_find? hfind).mp hc.target
  rw [targetOf, Dict.get_of_find? hv] at htarget
  simp only [laxDict, Option.filter_eq_some_iff] at hdict
  cases v with
  | dict items =>
      have hitems : items = c.target := by simpa [PyVal.asMapping?] using hdict.1
      rw [← hitems]
      cases items with
      | nil => simpa [PyVal.truthy] using htarget
      | cons entry rest => simpa [PyVal.truthy] using htarget
  | mapping items =>
      have hitems : items = c.target := by simpa [PyVal.asMapping?] using hdict.1
      rw [← hitems]
      cases items with
      | nil => simpa [PyVal.truthy] using htarget
      | cons entry rest => simp [PyVal.truthy, unsignable] at htarget
  | _ => simp [PyVal.asMapping?] at hdict

/-- pydantic measures a bounded text as UTF-8. -/
theorem encodable_of_laxStr {t u : Text} (h : laxStr rt 1 128 (.str u) = some t) :
    u.Encodable := by
  simp only [laxStr, boundedText, Bool.and_eq_true, decide_eq_true_eq] at h
  split_ifs at h with hbounds
  exact hbounds.1.1

/-- An identifier that was validated is a text with an encoding, or it is refused
for not being a text. -/
theorem onlyUnsignable_fieldBytes {name : String} {v : PyVal} {t : Text}
    (h : laxStr rt 1 128 v = some t) : OnlyUnsignable (fieldBytes (name, v)) := by
  cases v with
  | str u => exact fun e he => absurd (encodable_of_laxStr h) (field_eq_error.mp he).1
  | _ => exact .unsignable _

theorem exists_str_of_fieldBytes {name : String} {v : PyVal} {bytes : List UInt8}
    (h : fieldBytes (name, v) = .ok bytes) : ∃ t, v = .str t := by
  cases v with
  | str t => exact ⟨t, rfl⟩
  | _ => simp [fieldBytes, unsignable] at h

section

variable {command target : Dict}

theorem onlyUnsignable_getItem (hclosed : isClosed command = true) {k : Key} (hk : k ∈ required) :
    OnlyUnsignable (Dict.getItem command k) :=
  getItem_of_isClosed hclosed hk ▸ .ok _

theorem onlyUnsignable_signedFields {t : ClosedTarget} (hclosed : isClosed command = true)
    (htarget : Dict.Same target t.toDict) (bootId path : Text) :
    OnlyUnsignable (signedFields rt command target bootId path) := by
  have hitem : ∀ k ∈ required, OnlyUnsignable (Dict.getItem command k) :=
    fun _ hk => onlyUnsignable_getItem hclosed hk
  simp only [signedFields, unsigned_pid rt htarget, unsigned_startTimeTicks rt htarget]
  refine .bind (.raiseIf _ _) fun _ _ => .bind (hitem _ (by simp [required])) fun _ _ => ?_
  refine .bind (.raiseIf _ _) fun _ _ => .bind (hitem _ (by simp [required])) fun _ _ => ?_
  refine .bind (hitem _ (by simp [required])) fun _ _ => ?_
  refine .bind (hitem _ (by simp [required])) fun _ _ => ?_
  refine .bind (hitem _ (by simp [required])) fun _ _ => ?_
  refine .bind (hitem _ (by simp [required])) fun _ _ => ?_
  refine .bind (hitem _ (by simp [required])) fun _ _ => ?_
  refine .bind (onlyUnsignable_epochSeconds _) fun _ _ => ?_
  refine .bind (hitem _ (by simp [required])) fun _ _ => ?_
  refine .bind (onlyUnsignable_epochSeconds _) fun _ _ => .ok _

/-- What the steps of `signedFields` read. -/
theorem signedFields_eq_ok {t : ClosedTarget} {fields : List (String × PyVal)}
    (hclosed : isClosed command = true)
    (h : signedFields rt command target (flatten t).bootId (flatten t).path = .ok fields) :
    ∃ createdAt expiresAt : Nat,
      epochSeconds rt (Dict.get command "created_at") = .ok (createdAt : Int) ∧
      epochSeconds rt (Dict.get command "expires_at") = .ok (expiresAt : Int) ∧
      ∃ (version : Text) (rest : List (String × PyVal)), version.Encodable ∧
        fields = ("schema_version", PyVal.str version) ::
        ("command_id", Dict.get command "command_id") ::
        ("correlation_id", Dict.get command "correlation_id") ::
        ("agent_id", Dict.get command "agent_id") :: rest := by
  have hitem : ∀ k ∈ required, Dict.getItem command k = .ok (Dict.get command k) :=
    fun k hk => getItem_of_isClosed hclosed hk
  simp only [signedFields, hitem "schema_version" (by simp [required]),
    hitem "command_id" (by simp [required]), hitem "correlation_id" (by simp [required]),
    hitem "agent_id" (by simp [required]), hitem "host_id" (by simp [required]),
    hitem "action" (by simp [required]), hitem "created_at" (by simp [required]),
    hitem "expires_at" (by simp [required]), ok_bind, bind_eq_ok, pure_eq_ok,
    Except.ok.injEq] at h
  obtain ⟨_, _, _, _, createdAt, hcreated, expiresAt, hexpires, _, _, _, _, rfl⟩ := h
  obtain ⟨created, rfl⟩ := exists_nat_of_epochSeconds hcreated
  obtain ⟨expires, rfl⟩ := exists_nat_of_epochSeconds hexpires
  refine ⟨created, expires, hcreated, hexpires, _, _, ?_, rfl⟩
  split <;> simp

/-- A field that can only be refused has been written, and the rest still was not
refused. -/
theorem NotUnsignable.mapM_fieldBytes {β : Type} {field : String × PyVal}
    {rest : List (String × PyVal)} {f : List (List UInt8) → Except PyError β}
    (h : NotUnsignable ((field :: rest).mapM fieldBytes >>= f))
    (hfield : OnlyUnsignable (fieldBytes field)) :
    (∃ bytes, fieldBytes field = .ok bytes) ∧
      ∃ g : List (List UInt8) → Except PyError β, NotUnsignable (rest.mapM fieldBytes >>= g) := by
  rw [List.mapM_cons, bind_assoc] at h
  obtain ⟨bytes, hbytes, h⟩ := h.bind hfield
  rw [bind_assoc] at h
  exact ⟨⟨bytes, hbytes⟩, _, h⟩

end

/-- An entry of the command part. -/
theorem find?_of_isClosed {command : Dict} (hclosed : isClosed command = true) {k : Key}
    (hk : k ∈ required) (hkept : k ∉ (["host_id", "created_at", "authorization"] : List Key)) :
    Dict.find? (commandEntries command) k = some (Dict.get command k) := by
  obtain ⟨v, hv⟩ := Dict.contains_iff.mp (contains_of_isClosed hclosed hk)
  rw [find?_commandEntries, if_neg hkept, hv, Dict.get_of_find? hv]

/-- A required field of the validated command was parsed from the envelope's entry. -/
theorem parsed_of_required {α : Type} {command : Dict} {name : String} {parse : PyVal → Option α}
    {a : α} (hclosed : isClosed command = true) (hk : (name : Key) ∈ required)
    (hkept : (name : Key) ∉ (["host_id", "created_at", "authorization"] : List Key))
    (h : Pydantic.required (commandEntries command) name parse = .ok a) :
    parse (Dict.get command name) = some a := by
  obtain ⟨v, hv, hparse⟩ := required_eq_ok.mp h
  rw [find?_of_isClosed hclosed hk hkept] at hv
  rwa [Option.some.inj hv]

/-- So was a field with a default, which a closed envelope never leaves out. -/
theorem parsed_of_optional {α : Type} {command : Dict} {name : String} {default a : α}
    {parse : PyVal → Option α} (hclosed : isClosed command = true)
    (hk : (name : Key) ∈ required)
    (hkept : (name : Key) ∉ (["host_id", "created_at", "authorization"] : List Key))
    (h : optional (commandEntries command) name default parse = .ok a) :
    parse (Dict.get command name) = some a :=
  (optional_eq_ok_of_find? (find?_of_isClosed hclosed hk hkept)).mp h

/-- The envelope passes every check that is made before its fields are encoded. -/
structure Complete (rt : Runtime) (command : Dict) : Prop where
  closed : isClosed command = true
  host : isHostId (Dict.get command "host_id") = true
  valid : ∃ c, Command.modelValidate rt (commandEntries command) = .ok c
  target : ∃ d, targetOf command = .ok d
  created : ∃ n, epochSeconds rt (Dict.get command "created_at") = .ok n
  expires : ∃ n, epochSeconds rt (Dict.get command "expires_at") = .ok n
  identifiers : ∀ name ∈ (["command_id", "correlation_id", "agent_id"] : List String),
    ∃ t, Dict.get command name = .str t

/-- The closed target of a validated envelope. -/
theorem exists_closedTarget {command target : Dict} {c : Command}
    (hclosed : isClosed command = true) (v : Command.Validated rt (commandEntries command) c)
    (htarget : targetOf command = .ok target) :
    ∃ t : ClosedTarget, t.Fits c.schemaVersion c.action ∧ Dict.Same target t.toDict := by
  obtain ⟨_, t, hfits, hsame⟩ := Command.enforceClosedTargetSchema_eq_ok.mp v.enforced
  rw [target_eq_of_validated hclosed v htarget] at hsame
  exact ⟨t, hfits, hsame⟩

/-- A value that is not refused is a complete envelope. -/
theorem complete_of_notUnsignable {v : PyVal} (h : NotUnsignable (signingInput rt v)) :
    ∃ command, v = .dict command ∧ Complete rt command := by
  cases v with
  | dict command =>
      rw [signingInput] at h
      split_ifs at h with hclosed
      case neg => exact absurd rfl (h _)
      -- The envelope's own checks.
      obtain ⟨host, hhost, h⟩ := h.bind (onlyUnsignable_getItem hclosed (by simp [required]))
      obtain ⟨_, hhostOk, h⟩ := h.bind (.raiseIf _ _)
      obtain ⟨c, hc, h⟩ := h.bind (onlyUnsignable_modelValidate _)
      obtain ⟨target, htarget, h⟩ := h.bind (onlyUnsignable_targetOf _)
      rw [getItem_of_isClosed hclosed (by simp [required]), Except.ok.injEq] at hhost
      have hvalid := orUnsignable_eq_ok.mp hc
      have v := (Command.modelValidate_eq_ok.mp hvalid).2
      obtain ⟨t, _, hsame⟩ := exists_closedTarget hclosed v htarget
      -- The fields, of which the three identifiers are only now seen to be texts.
      simp only [getD_bootId hsame, getD_path hsame] at h
      obtain ⟨fields, hfields, h⟩ := h.bind (onlyUnsignable_signedFields hclosed hsame _ _)
      obtain ⟨created, expires, hcreated, hexpires, version, rest, hversion, rfl⟩ :=
        signedFields_eq_ok hclosed hfields
      have hcommandId := parsed_of_required hclosed (by simp [required]) (by simp) v.commandId
      have hcorrelationId :=
        parsed_of_optional hclosed (by simp [required]) (by simp) v.correlationId
      have hagentId := parsed_of_required hclosed (by simp [required]) (by simp) v.agentId
      obtain ⟨_, _, h⟩ := h.mapM_fieldBytes fun e he => absurd hversion (field_eq_error.mp he).1
      obtain ⟨⟨_, hcommand⟩, _, h⟩ := h.mapM_fieldBytes (onlyUnsignable_fieldBytes hcommandId)
      obtain ⟨⟨_, hcorrelation⟩, _, h⟩ :=
        h.mapM_fieldBytes (onlyUnsignable_fieldBytes hcorrelationId)
      obtain ⟨⟨_, hagent⟩, _, _⟩ := h.mapM_fieldBytes (onlyUnsignable_fieldBytes hagentId)
      refine ⟨command, rfl, hclosed, ?_, ⟨c, hvalid⟩, ⟨target, htarget⟩, ⟨_, hcreated⟩,
        ⟨_, hexpires⟩, ?_⟩
      · rw [hhost]
        simpa using hhostOk
      · simp only [List.forall_mem_cons, List.not_mem_nil, false_imp_iff, implies_true, and_true]
        exact ⟨exists_str_of_fieldBytes hcommand, exists_str_of_fieldBytes hcorrelation,
          exists_str_of_fieldBytes hagent⟩
  | _ => exact absurd rfl (h _)

/-- **A complete envelope stands for a command.** -/
theorem Complete.represents {command : Dict} (h : Complete rt command) :
    ∃ s, Represents rt command s := by
  obtain ⟨hostId, hhost, hlength⟩ := isHostId_iff.mp h.host
  obtain ⟨c, hc⟩ := h.valid
  obtain ⟨target, htarget⟩ := h.target
  obtain ⟨_, hcreated⟩ := h.created
  obtain ⟨_, hexpires⟩ := h.expires
  obtain ⟨createdAt, rfl⟩ := exists_nat_of_epochSeconds hcreated
  obtain ⟨expiresAt, rfl⟩ := exists_nat_of_epochSeconds hexpires
  obtain ⟨commandId, hcommand⟩ := h.identifiers "command_id" (by simp)
  obtain ⟨correlationId, hcorrelation⟩ := h.identifiers "correlation_id" (by simp)
  obtain ⟨agentId, hagent⟩ := h.identifiers "agent_id" (by simp)
  have v := (Command.modelValidate_eq_ok.mp hc).2
  obtain ⟨t, hfits, hsame⟩ := exists_closedTarget h.closed v htarget
  have hversion := Vocabulary.literal_eq_some_iff.mp
    (parsed_of_optional h.closed (by simp [required]) (by simp) v.schemaVersion)
  have haction := Vocabulary.literal_eq_some_iff.mp
    (parsed_of_required h.closed (by simp [required]) (by simp) v.action)
  exact ⟨⟨c.schemaVersion, commandId, correlationId, agentId, hostId, c.action, createdAt,
    expiresAt, t⟩, h.closed, hhost, hlength, h.valid, hversion, hcommand, hcorrelation, hagent,
    haction, hcreated, hexpires, ⟨target, htarget, hsame⟩, hfits⟩

/-- The identifiers of a represented command were validated, so they are encodable. -/
theorem Represents.encodable_identifiers {command : Dict} {s : SignedCommand}
    (h : Represents rt command s) :
    s.commandId.Encodable ∧ s.correlationId.Encodable ∧ s.agentId.Encodable := by
  obtain ⟨c, hc⟩ := h.valid
  have v := (Command.modelValidate_eq_ok.mp hc).2
  have hcommand := parsed_of_required h.closed (by simp [required]) (by simp) v.commandId
  have hcorrelation := parsed_of_optional h.closed (by simp [required]) (by simp) v.correlationId
  have hagent := parsed_of_required h.closed (by simp [required]) (by simp) v.agentId
  rw [h.commandId_eq] at hcommand
  rw [h.correlationId_eq] at hcorrelation
  rw [h.agentId_eq] at hagent
  exact ⟨encodable_of_laxStr hcommand, encodable_of_laxStr hcorrelation,
    encodable_of_laxStr hagent⟩

/-- **The refinement.**  An envelope that stands for a command is signed exactly
where the command has an encoding, and as that encoding; otherwise the encoding
error escapes. -/
theorem signingInput_refines {command : Dict} {s : SignedCommand} (h : Represents rt command s) :
    (∀ bytes, signingInput rt (.dict command) = .ok bytes ↔ s.encode? = some bytes) ∧
      (s.encode? = none →
        ∃ t, signingInput rt (.dict command) = .error (.unicodeEncodeError t)) := by
  have hlength : SignedCommand.names.length = s.contents.length := rfl
  rw [signingInput_of_represents h]
  cases hencode : Text.utf8All? s.contents with
  | some data =>
      obtain ⟨parts, hparts, hflatten⟩ :=
        mapM_fieldBytes_of_utf8 hlength (Text.utf8All?_eq_some.mp hencode)
      simp [SignedCommand.encode?, hencode, hparts, hflatten]
  | none =>
      have hnot : ¬ ∀ t ∈ s.contents, t.Encodable := by
        rw [← Text.utf8All?_isSome, hencode]
        simp
      obtain ⟨t, ht⟩ := mapM_fieldBytes_of_not_encodable hlength hnot
      simp [SignedCommand.encode?, hencode, ht]

end ResponseEngine.Signing
