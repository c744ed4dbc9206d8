import Switchboard.Proofs.Settings.Acceptance

/-!
# Choosing a classifier

To choose a classifier is to register a client at most, and that only under a name that nothing at
all has been registered under. So the registry keeps what it has, whether a classifier is chosen or
not; a choice that fails leaves it as it is, and the same choice made again finds the name taken and
changes nothing (`create_undisturbed`).

The name must be a text. A number with too many digits is bound before the message about it fails.
-/

namespace Switchboard.Classifier

/-- Whether settings ask for a client that is not registered yet: a classifier is wanted, an address
is configured and the name of the authority is free. -/
def WantsClient (settings : Graph) (name : Scalar) (registry : Registry) : Prop :=
  Settings.enabled settings = true ∧ (Settings.baseUrl settings).isTruthy = true ∧
    Entries.has name registry = false

section Ensuring

variable {name : Scalar} {url : Value} {timeout : Graph} {registry : Registry}

/-- Only an address that is a text has a client. -/
theorem exists_text_of_clientFor {client : Client} (made : clientFor url timeout = .ok client) :
    ∃ content : Scalar, url = .scalar content ∧ content.kind = .text := by
  unfold clientFor at made
  split at made
  next address => exact ⟨.text address, rfl, rfl⟩
  next points => exact ⟨.halved points, rfl, rfl⟩
  all_goals contradiction

/-- Nothing is registered without an address or under a name that is taken. -/
theorem ensureClient_of_needless (needless : url.isTruthy = false ∨ Entries.has name registry = true) :
    ensureClient registry (.scalar name) url timeout = (registry, .ok ()) := by
  unfold ensureClient
  cases configured : url.isTruthy with
  | false => rfl
  | true =>
    have taken : Entries.has name registry = true :=
      needless.resolve_left (by simp [configured])
    simp [Registry.isRegistered, Value.asKey, Except.map, taken]

/-- Where a client is needed one is registered at the end, or the registry is left as it is. The
address is looked at before the name. -/
theorem ensureClient_of_needed (timeout : Graph) (isText : name.kind = .text) (configured : url.isTruthy = true)
    (free : Entries.has name registry = false) :
    (∃ client, clientFor url timeout = .ok client ∧ name.isTruthy = true ∧
      (ensureClient registry (.scalar name) url timeout).1 = registry ++ [(name, .remote client)] ∧
      (ensureClient registry (.scalar name) url timeout).2.result = .ok ()) ∨
    ∃ fault, ensureClient registry (.scalar name) url timeout = (registry, .fail fault) := by
  unfold ensureClient
  simp only [configured, Registry.isRegistered, Value.asKey, Except.map, free, Bool.not_true,
    Bool.false_eq_true, if_false]
  cases made : clientFor url timeout with
  | error misuse => exact .inr ⟨_, rfl⟩
  | ok client =>
    cases truthy : name.isTruthy with
    | false => exact .inr ⟨.emptyName, by simp [Registry.register, Value.isTruthy, truthy]⟩
    | true =>
      refine .inl ⟨client, rfl, rfl, ?_, (Registry.register_eq_ok_iff isText).mpr truthy⟩
      simp [Registry.register, Value.isTruthy, truthy, Value.asKey, Entries.put_of_absent free]

end Ensuring

section Creating

variable {Place : Type} {settings timeout : Graph} {place : Place} {name : Scalar}
  {registry : Registry}

/-- Where no classifier is wanted the registry is not even looked at. -/
theorem create_of_disabled (disabled : Settings.enabled settings = false) :
    (create settings timeout place registry).1 = registry ∧
      (create settings timeout place registry).2.result = .ok .unavailable := by
  have told : (announce [("variant", .text "unavailable")]).result = .ok () :=
    announce_of_scalars (by simp [Scalar.isTooLong])
  simp [create, disabled, Traced.bind_eq_ok_iff, told]

section Enabled

variable (enabled : Settings.enabled settings = true)
  (named : Settings.serviceName settings = .scalar name)
include enabled named

/-- Where classification is enabled, the registry that is left is the one in which a client was ensured. -/
theorem create_registry_of_enabled : (create settings timeout place registry).1 =
    (ensureClient registry (.scalar name) (Settings.baseUrl settings) timeout).1 := by
  simp [create, enabled, named]

/-- A classifier is chosen where a client is ensured and the choice can be told. -/
theorem create_eq_ok_iff_of_enabled {classifier : Classifier Place} :
    (create settings timeout place registry).2.result = .ok classifier ↔
      (ensureClient registry (.scalar name) (Settings.baseUrl settings) timeout).2.result = .ok () ∧
      (announce [("variant", .text "remote"), ("service_name", .scalar name),
        ("base_url", Settings.baseUrl settings)]).result = .ok () ∧
      classifier = .remote place (.scalar name) := by
  simp only [create, enabled, named, Bool.not_true, Bool.false_eq_true, if_false,
    Traced.bind_eq_ok_iff, Traced.result_pure, Except.ok.injEq]
  constructor
  · rintro ⟨⟨⟩, ensured, ⟨⟩, told, rfl⟩
    exact ⟨ensured, told, rfl⟩
  · rintro ⟨ensured, told, rfl⟩
    exact ⟨(), ensured, (), told, rfl⟩

end Enabled

/-- What a choice comes to: nothing is registered, or a client is and the choice succeeds. -/
theorem create_cases (named : Settings.serviceName settings = .scalar name)
    (isText : name.kind = .text) (timeout : Graph) (place : Place) (registry : Registry) :
    ((create settings timeout place registry).1 = registry ∧
      ((∃ classifier, (create settings timeout place registry).2.result = .ok classifier) →
        ¬WantsClient settings name registry)) ∨
    (WantsClient settings name registry ∧
      (∃ client, clientFor (Settings.baseUrl settings) timeout = .ok client ∧
        (create settings timeout place registry).1 = registry ++ [(name, .remote client)]) ∧
      (create settings timeout place registry).2.result = .ok (.remote place (.scalar name))) := by
  cases enabled : Settings.enabled settings with
  | false =>
    exact .inl ⟨(create_of_disabled enabled).1, fun _ wants => by simp [wants.1] at enabled⟩
  | true =>
    rw [create_registry_of_enabled enabled named]
    by_cases needed : (Settings.baseUrl settings).isTruthy = true ∧ Entries.has name registry = false
    · obtain ⟨client, made, _, added, ensured⟩ | ⟨fault, refused⟩ :=
        ensureClient_of_needed timeout isText needed.1 needed.2
      · obtain ⟨content, isUrl, isUrlText⟩ := exists_text_of_clientFor made
        have told : (announce [("variant", .text "remote"), ("service_name", .scalar name),
            ("base_url", Settings.baseUrl settings)]).result = .ok () := by
          refine announce_of_scalars ?_
          simpa [isUrl] using ⟨rfl, isTooLong_of_text isText, isTooLong_of_text isUrlText⟩
        exact .inr ⟨⟨enabled, needed⟩, ⟨client, made, added⟩,
          (create_eq_ok_iff_of_enabled enabled named).mpr ⟨ensured, told, rfl⟩⟩
      · refine .inl ⟨by rw [refused], ?_⟩
        rintro ⟨classifier, chosen⟩
        have ensured := ((create_eq_ok_iff_of_enabled enabled named).mp chosen).1
        simp [refused] at ensured
    · have needless : (Settings.baseUrl settings).isTruthy = false ∨
          Entries.has name registry = true := by
        rw [not_and_or, Bool.not_eq_true, Bool.not_eq_false] at needed
        exact needed
      refine .inl ⟨by rw [ensureClient_of_needless needless], fun _ wants => needed wants.2⟩

/-- A choice that is made where nothing is wanted leaves the registry and depends on nothing in it. -/
theorem create_of_unwanted (named : Settings.serviceName settings = .scalar name)
    {classifier : Classifier Place} {other : Registry}
    (chosen : (create settings timeout place registry).2.result = .ok classifier)
    (unwanted : ¬WantsClient settings name other) :
    (create settings timeout place other).1 = other ∧
      (create settings timeout place other).2.result = .ok classifier := by
  cases enabled : Settings.enabled settings with
  | false =>
    obtain rfl : .unavailable = classifier := by
      simpa [(create_of_disabled enabled).2] using chosen
    exact create_of_disabled enabled
  | true =>
    have needless : (Settings.baseUrl settings).isTruthy = false ∨
        Entries.has name other = true := by
      simpa [WantsClient, enabled, or_iff_not_imp_left] using unwanted
    obtain ⟨_, told, isRemote⟩ := (create_eq_ok_iff_of_enabled enabled named).mp chosen
    rw [create_registry_of_enabled enabled named, create_eq_ok_iff_of_enabled enabled named,
      ensureClient_of_needless needless]
    exact ⟨rfl, rfl, told, isRemote⟩

end Creating

/-- What choosing a classifier for the settings, with `timeout` to wait, leaves of a registry. -/
structure Undisturbed {Place : Type} (settings timeout : Graph) (place : Place) (name : Scalar)
    (registry : Registry) : Prop where
  /-- What a name is bound to it stays bound to, be it to nothing. -/
  kept : ∀ key service, Entries.get? key registry = some service →
    Entries.get? key (create settings timeout place registry).1 = some service
  failed : ∀ fault, (create settings timeout place registry).2.result = .error fault →
    (create settings timeout place registry).1 = registry
  /-- A name is bound anew exactly where a classifier is chosen and a client was wanted. -/
  added : (∃ key, Entries.has key registry = false ∧
      Entries.has key (create settings timeout place registry).1 = true) ↔
    (∃ classifier, (create settings timeout place registry).2.result = .ok classifier) ∧
      WantsClient settings name registry
  /-- It is the name of the authority, and it is bound to a client for the address. -/
  client : (create settings timeout place registry).1 = registry ∨
    ∃ client, clientFor (Settings.baseUrl settings) timeout = .ok client ∧
      (create settings timeout place registry).1 = registry ++ [(name, .remote client)]
  /-- The same choice made again is the same classifier, and changes nothing. -/
  again : ∀ classifier, (create settings timeout place registry).2.result = .ok classifier →
    (create settings timeout place (create settings timeout place registry).1).1 =
        (create settings timeout place registry).1 ∧
      (create settings timeout place (create settings timeout place registry).1).2.result =
        .ok classifier

/-- Whatever the settings hold besides a text for the name, and whatever is registered: choosing a
classifier does not disturb the registry. -/
theorem create_undisturbed {Place : Type} {settings : Graph} {name : Scalar}
    (named : Settings.serviceName settings = .scalar name) (isText : name.kind = .text)
    (timeout : Graph) (place : Place) (registry : Registry) :
    Undisturbed settings timeout place name registry := by
  obtain ⟨same, unwanted⟩ | ⟨wants, ⟨client, made, grown⟩, chosen⟩ :=
    create_cases named isText timeout place registry
  · constructor
    case kept => exact fun key service bound => by rw [same, bound]
    case failed => exact fun _ _ => same
    case client => exact .inl same
    case again =>
      intro classifier chosen
      rw [same]
      exact create_of_unwanted named chosen (unwanted ⟨classifier, chosen⟩)
    case added =>
      rw [same]
      constructor
      · rintro ⟨key, free, taken⟩
        simp [free] at taken
      · rintro ⟨chosen, wants⟩
        exact absurd wants (unwanted chosen)
  · constructor
    case kept => exact fun key service bound => by simp [grown, Entries.get?_append, bound]
    case failed => exact fun fault refused => by simp [chosen] at refused
    case client => exact .inr ⟨client, made, grown⟩
    case again =>
      intro classifier also
      have taken : Entries.has name (create settings timeout place registry).1 = true := by
        rw [grown, Entries.has_eq_true_iff]
        exact ⟨name, by simp [Entries.keys], BEq.rfl⟩
      exact create_of_unwanted named also fun wantsAgain => by simp [wantsAgain.2.2] at taken
    case added =>
      refine ⟨fun _ => ⟨⟨_, chosen⟩, wants⟩, fun _ => ⟨name, wants.2.2, ?_⟩⟩
      rw [grown, Entries.has_eq_true_iff]
      exact ⟨name, by simp [Entries.keys], BEq.rfl⟩

/-! Settings with an address, and a registry that knows a name for nothing. -/

namespace Addressed

/-- Settings with an address and a name. -/
def settings : Graph := .ofValue (.record [("telephony", .record [("emergency_classifier", .record
  [("base_url", .text "http://authority/"), ("timeout", .int 2)])])])

/-- A registry with another name. -/
def registry : Registry := [(.text "dialer", .absent)]

/-- A client is added under the name, beside what was there. -/
theorem create_undisturbed_addressed :
    Settings.serviceName settings = .text "extphone" ∧ (Scalar.text "extphone").kind = .text ∧
      Undisturbed settings (.ofValue (.int 2)) () (.text "extphone") registry := by
  have named : Settings.serviceName settings = .text "extphone" := by rfl
  exact ⟨named, rfl, create_undisturbed named rfl _ _ _⟩

end Addressed

end Switchboard.Classifier
