import Switchboard.Proofs.Registry.Names

/-!
# What a history binds names to

A registry is a map from names to services. A name is registered where a call that registered it
still stands: it succeeded, and no later call unregistered the name. The last such call says which
service the name is bound to, and the names that are listed are the ones that are registered. Calls
about other names change nothing of this (`run_reflects`).
-/

namespace Switchboard.Registry

/-- A call that registered a name for a service succeeded, and none of the calls since then
unregistered the name. -/
def Stands (calls : List Call) (key : Scalar) (service : Service) (since : List Call) : Prop :=
  ∃ before, calls = before ++ .register (.scalar key) service :: since ∧
    ((run before).register (.scalar key) service).2.result = .ok () ∧
    .unregister (.scalar key) ∉ since

/-- Whether a call that registered a name stands. -/
def IsStanding (calls : List Call) (key : Scalar) : Prop :=
  ∃ service since, Stands calls key service since

/-- What a registry answers about names after a history of calls. -/
structure Reflects (calls : List Call) (registry : Registry) : Prop where
  registered : ∀ key : Scalar, key.IsText → ∃ answer,
    registry.isRegistered (.scalar key) = .ok answer ∧ (answer = true ↔ IsStanding calls key)
  /-- The last call that registered the name decides; nothing is no service to be found. -/
  found : ∀ key : Scalar, key.IsText → IsStanding calls key → ∃ service since,
    Stands calls key service since ∧ (∀ other, .register (.scalar key) other ∉ since) ∧
      registry.find (.scalar key) = .ok (if service.isPresent then some service else none)
  missing : ∀ key : Scalar, key.IsText → ¬IsStanding calls key →
    registry.find (.scalar key) = .ok none
  listed : ∃ names, registry.names = .ok names ∧ names.Nodup ∧
    names.Pairwise (fun first second => first.points < second.points) ∧
    ∀ key, key ∈ names ↔ key.IsText ∧ IsStanding calls key
  refused : ∀ service, registry.register (.text "") service = (registry, .fail .emptyName)
  /-- A call about one name leaves the answers about all others. -/
  apart : ∀ (call : Call) (key : Scalar), call.IsNamed → key.IsText → call.name ≠ .scalar key →
    (call.after registry).isRegistered (.scalar key) = registry.isRegistered (.scalar key) ∧
      (call.after registry).find (.scalar key) = registry.find (.scalar key) ∧
      ∃ names others, registry.names = .ok names ∧ (call.after registry).names = .ok others ∧
        (key ∈ others ↔ key ∈ names)

variable {registry : Registry} {calls : List Call} {call : Call} {key : Scalar} {service : Service}

/-- The calls about a name are those that unregister it and those that register it. -/
theorem isAbout_iff (named : call.IsNamed) (isText : key.IsText) :
    call.isAbout key = true ↔ call = .unregister (.scalar key) ∨
      key.isTruthy = true ∧ ∃ service, call = .register (.scalar key) service := by
  obtain ⟨other, otherIsText, name⟩ := named
  cases call with
  | register called service =>
    obtain rfl : called = .scalar other := name
    have about : Call.isAbout key (.register (.scalar other) service) = true ↔
        other.isTruthy = true ∧ other = key := by
      cases truthy : other.isTruthy <;>
        simp [Call.isAbout, Call.key?, Value.isTruthy, truthy, Value.asKey, Except.toOption,
          Scalar.beq_iff_eq_of_text isText.kind]
    rw [about]
    constructor
    · rintro ⟨truthy, rfl⟩
      exact .inr ⟨truthy, service, rfl⟩
    · rintro (impossible | ⟨truthy, _, same⟩)
      · contradiction
      · simp_all
  | unregister called =>
    obtain rfl : called = .scalar other := name
    simp [Call.isAbout, Call.key?, Value.asKey, Except.toOption,
      Scalar.beq_iff_eq_of_text isText.kind]

section Standing

variable (named : ∀ call ∈ calls, call.IsNamed) (isText : key.IsText)
include named isText

/-- The last call about a name binds it where it registers the name. -/
theorem exists_stands_of_bound (known : bound calls key = some service) :
    ∃ since, Stands calls key service since ∧ ∀ other, .register (.scalar key) other ∉ since := by
  obtain ⟨call, last, binding⟩ := Option.bind_eq_some_iff.mp known
  obtain ⟨about, after, before, split, others⟩ := List.find?_eq_some_iff_append.mp last
  have whole : calls = before.reverse ++ call :: after.reverse := by
    simpa using congrArg List.reverse split
  have silent : ∀ call ∈ after.reverse, ¬call.isAbout key = true := fun call member => by
    simpa using others call (List.mem_reverse.mp member)
  have later : ∀ call ∈ after.reverse, call.IsNamed := fun call member =>
    named call (by simp [whole, List.mem_reverse.mp member])
  obtain rfl | ⟨truthy, registered, rfl⟩ :=
    (isAbout_iff (named call (by simp [whole])) isText).mp about
  · simp [Call.binding] at binding
  · obtain rfl : registered = service := by simpa [Call.binding] using binding
    refine ⟨after.reverse, ⟨before.reverse, whole, ?_, fun member => ?_⟩, fun other member => ?_⟩
    · exact (register_eq_ok_iff isText.kind).mpr truthy
    · exact silent _ member ((isAbout_iff (later _ member) isText).mpr (.inl rfl))
    · exact silent _ member ((isAbout_iff (later _ member) isText).mpr (.inr ⟨truthy, other, rfl⟩))

/-- Where a call that registered a name stands, the name is bound. -/
theorem bound_of_stands {since : List Call} (stands : Stands calls key service since) :
    ∃ last, bound calls key = some last := by
  obtain ⟨before, rfl, succeeds, kept⟩ := stands
  have truthy := (register_eq_ok_iff isText.kind).mp succeeds
  have about : Call.isAbout key (.register (.scalar key) service) = true :=
    (isAbout_iff ⟨key, isText, rfl⟩ isText).mpr (.inr ⟨truthy, service, rfl⟩)
  -- The last call about the name is this one, or a later one that registers the name as well.
  cases last : since.reverse.find? (Call.isAbout key) with
  | none => exact ⟨service, by simp [bound, last, about, Call.binding]⟩
  | some call =>
    have isLater : call ∈ since := List.mem_reverse.mp (List.mem_of_find?_eq_some last)
    obtain rfl | ⟨_, other, rfl⟩ :=
      (isAbout_iff (named call (by simp [isLater])) isText).mp (List.find?_some last)
    · contradiction
    · exact ⟨other, by simp [bound, last, Call.binding]⟩

/-- A name is bound exactly where its last call registers something. -/
theorem isSome_bound_iff : (bound calls key).isSome = true ↔ IsStanding calls key := by
  rw [Option.isSome_iff_exists]
  constructor
  · rintro ⟨service, known⟩
    obtain ⟨since, stands, _⟩ := exists_stands_of_bound named isText known
    exact ⟨service, since, stands⟩
  · rintro ⟨service, since, stands⟩
    exact bound_of_stands named isText stands

end Standing

/-- A name is listed where it is bound. -/
theorem IsListable.mem_keys_iff (listable : registry.IsListable) :
    key ∈ Entries.keys registry ↔ key.IsText ∧ Entries.has key registry = true := by
  rw [Entries.has_eq_true_iff]
  constructor
  · exact fun member => ⟨listable.texts key member, key, member, BEq.rfl⟩
  · rintro ⟨isText, other, member, same⟩
    exact (Scalar.beq_iff_eq_of_text isText.kind).mp same ▸ member

/-- The names listed are those that are there. -/
theorem mem_names_iff (listable : registry.IsListable) {names : List Scalar}
    (listed : registry.names = .ok names) :
    key ∈ names ↔ key.IsText ∧ Entries.has key registry = true := by
  obtain ⟨known, isListed, same, _⟩ := names_of_texts listable
  obtain rfl : known = names := by simpa [isListed] using listed
  rw [same.mem_iff, listable.mem_keys_iff]

/-- A call leaves what is bound to other names than its own. -/
theorem get?_after_of_ne (named : call.IsNamed) (isText : key.IsText)
    (other : call.name ≠ .scalar key) :
    Entries.get? key (call.after registry) = Entries.get? key registry := by
  have silent : call.isAbout key = false := by
    rw [Bool.eq_false_iff]
    intro about
    obtain rfl | ⟨_, service, rfl⟩ := (isAbout_iff named isText).mp about <;>
      exact other rfl
  simp [get?_after, silent]

/-- Whatever texts have been registered and unregistered, in whatever order: the registry reflects
the calls that still stand. -/
theorem run_reflects (named : ∀ call ∈ calls, call.IsNamed) : Reflects calls (run calls) := by
  have listable := isListable_run named
  have has : ∀ key : Scalar, key.IsText →
      (Entries.has key (run calls) = true ↔ IsStanding calls key) := fun key isText => by
    rw [Entries.has, get?_run, isSome_bound_iff named isText]
  constructor
  case registered => exact fun key isText => ⟨_, rfl, has key isText⟩
  case found =>
    rintro key isText ⟨service, since, stands⟩
    obtain ⟨last, known⟩ := bound_of_stands named isText stands
    obtain ⟨since, stands, latest⟩ := exists_stands_of_bound named isText known
    refine ⟨last, since, stands, latest, ?_⟩
    rw [find_run, handle, known, Option.filter_some]
  case missing =>
    intro key isText unbound
    rw [← isSome_bound_iff named isText, Option.not_isSome_iff_eq_none] at unbound
    rw [find_run, handle, unbound, Option.filter_none]
  case listed =>
    obtain ⟨names, listed, _, rising⟩ := names_of_texts listable
    refine ⟨names, listed, rising.imp fun falls same => ?_, rising, fun key => ?_⟩
    · exact absurd (same ▸ falls) (lt_irrefl _)
    · rw [mem_names_iff listable listed]
      exact and_congr_right (has key)
  case refused => exact fun service => rfl
  case apart =>
    intro call key isNamed isText other
    have same : Entries.get? key (call.after (run calls)) = Entries.get? key (run calls) :=
      get?_after_of_ne isNamed isText other
    obtain ⟨names, listed, _⟩ := names_of_texts listable
    have afterwards := listable.after isNamed
    obtain ⟨others, otherListed, _⟩ := names_of_texts afterwards
    refine ⟨?_, ?_, names, others, listed, otherListed, ?_⟩
    · simp only [isRegistered, Value.asKey, Except.map, Entries.has, same]
    · simp only [find, Value.asKey, Except.map, same]
    · rw [mem_names_iff afterwards otherListed, mem_names_iff listable listed, Entries.has, same,
        Entries.has]

/-- A name that is bound anew, one that is bound to nothing, one that is taken back, and the empty
one, which is refused. -/
def rebound : List Call :=
  [ .register (.text "remote") (.constant "first" (.bool true)),
    .register (.text "local") .absent,
    .register (.text "gone") .mute,
    .register (.text "") .mute,
    .register (.text "remote") .mute,
    .unregister (.text "gone") ]

/-- Names that were bound anew, unbound and bound to nothing. -/
theorem run_reflects_rebound :
    (∀ call ∈ rebound, call.IsNamed) ∧ Reflects rebound (run rebound) ∧
      (run rebound).names.map (List.map Scalar.points) =
        .ok [Text.points "local", Text.points "remote"] ∧
      (run rebound).isRegistered (.text "local") = .ok true ∧
      (run rebound).find (.text "local") = .ok none ∧
      (run rebound).find (.text "remote") = .ok (some .mute) := by
  have named : ∀ call ∈ rebound, call.IsNamed := by
    simp [rebound, Call.IsNamed, Call.name, Value.text, Scalar.isText_text]
  exact ⟨named, run_reflects named, by decide +kernel, by rfl, by rfl, by rfl⟩

end Switchboard.Registry
