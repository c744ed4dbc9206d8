import Switchboard.Proofs.Registry.Binding

/-!
# Presence

There are four ways to ask a registry whether a service is there under a name: whether the name is
registered, whether it is among the names, whether a service is found under it, and whether one is
unregistered with it. The first two go by the name and the last two by what it is bound to. So after
any history each two of them agree, and all four agree about a name exactly if it is not bound to
nothing: such a name is registered and listed, but nothing is found under it, and it is taken back as
if it had not been there (`run_views`).
-/

namespace Switchboard.Registry

/-- The answers of a registry about one name. -/
structure Views where
  registered : Bool
  listed : Bool
  found : Bool
  unregistered : Bool
deriving DecidableEq, Repr

/-- Whether all answers are the same. -/
def Views.Agree (views : Views) : Prop :=
  views.listed = views.registered ∧ views.found = views.registered ∧
    views.unregistered = views.registered

/-- What a registry answers about a name, each question asked of the registry as it is. There are no
answers if one of the questions fails. -/
def views? (registry : Registry) (name : Scalar) : Option Views := do
  let registered ← (registry.isRegistered (.scalar name)).toOption
  let names ← registry.names.toOption
  let found ← (registry.find (.scalar name)).toOption
  let unregistered ← (registry.unregister (.scalar name)).2.result.toOption
  return { registered, listed := names.any (· == name), found := found.isSome, unregistered }

variable {registry : Registry} {calls : List Call} {name : Scalar}

/-- A service that is bound to a name is unregistered with it; nothing is no service. -/
theorem unregister_eq_ok (isText : name.kind = .text) :
    (registry.unregister (.scalar name)).2.result =
      .ok ((Entries.get? name registry).filter Service.isPresent).isSome := by
  have writable := Scalar.isTooLong_of_text isText
  simp only [unregister, Value.asKey]
  cases known : Entries.get? name registry with
  | none => rfl
  | some service => cases service <;> simp [writable, Service.isPresent, bind] <;> rfl

/-- Whatever it was bound to, a name that is unregistered is no longer registered. -/
theorem isRegistered_unregister :
    (registry.unregister (.scalar name)).1.isRegistered (.scalar name) = .ok false := by
  simp [isRegistered, Value.asKey, Except.map, registry_unregister, Entries.has]

/-- Of a registry whose names are different texts the four questions are answered: two by the name and
two by what it is bound to. -/
theorem IsListable.views?_eq (listable : registry.IsListable) (isText : name.IsText) :
    views? registry name =
      let isBound := (Entries.get? name registry).isSome
      let isServed := ((Entries.get? name registry).filter Service.isPresent).isSome
      some ⟨isBound, isBound, isServed, isServed⟩ := by
  obtain ⟨names, isListed, -⟩ := names_of_texts listable
  have listed : names.any (· == name) = Entries.has name registry := by
    rw [Bool.eq_iff_iff, List.any_eq_true]
    simp only [Scalar.beq_iff_eq_of_text isText.kind, exists_eq_right]
    rw [mem_names_iff listable isListed, and_iff_right isText]
  simp [views?, isRegistered, Value.asKey, Except.map, isListed, listed, find_eq_ok,
    unregister_eq_ok isText.kind, Except.toOption, Entries.has]

/-- Whatever texts have been registered and unregistered, in whatever order: about each text the four
questions are answered. It is listed if it is registered, and one is unregistered if one is found; all
answers are the same unless the text is bound to nothing. -/
theorem run_views (named : ∀ call ∈ calls, call.IsNamed) (isText : name.IsText) :
    ∃ views, views? (run calls) name = some views ∧
      (views.registered = true ↔ IsStanding calls name) ∧
      (views.found = true ↔ ∃ service, handle calls name = some service) ∧
      views.listed = views.registered ∧ views.unregistered = views.found ∧
      (views.Agree ↔ bound calls name ≠ some .absent) ∧
      ((run calls).unregister (.scalar name)).1.isRegistered (.scalar name) = .ok false := by
  refine ⟨_, (isListable_run named).views?_eq isText, ?_, ?_, rfl, rfl, ?_, isRegistered_unregister⟩
  · rw [get?_run, isSome_bound_iff named isText]
  · rw [get?_run, ← handle, Option.isSome_iff_exists]
  · rw [get?_run, Views.Agree]
    cases bound calls name with
    | none => simp
    | some service => cases service <;> simp [Service.isPresent]

/-- The answers about a name that is bound to a service are the same, those about one that is bound to
nothing are not. -/
theorem run_views_rebound :
    (∀ call ∈ rebound, call.IsNamed) ∧ (Scalar.text "remote").IsText ∧
      (Scalar.text "local").IsText ∧
      (∃ views, views? (run rebound) (.text "remote") = some views ∧ views.Agree) ∧
      ∃ views, views? (run rebound) (.text "local") = some views ∧ ¬views.Agree := by
  have named : ∀ call ∈ rebound, call.IsNamed := by
    simp [rebound, Call.IsNamed, Call.name, Value.text, Scalar.isText_text]
  have remote := Scalar.isText_text "remote"
  have hollow := Scalar.isText_text "local"
  have service : bound rebound (.text "remote") = some .mute := by rfl
  have nothing : bound rebound (.text "local") = some .absent := by rfl
  obtain ⟨views, answered, -, -, -, -, agree, -⟩ := run_views named remote
  obtain ⟨others, alsoAnswered, -, -, -, -, disagree, -⟩ := run_views named hollow
  exact ⟨named, remote, hollow, ⟨views, answered, agree.mpr (by simp [service])⟩,
    others, alsoAnswered, fun same => disagree.mp same nothing⟩

/-- A name that is bound to nothing is registered and listed, but nothing is found or unregistered. -/
theorem views_of_nothing :
    (Call.register (.text "remote") .absent).IsNamed ∧
      views? (run [.register (.text "remote") .absent]) (.text "remote") =
        some ⟨true, true, false, false⟩ :=
  ⟨⟨_, Scalar.isText_text "remote", rfl⟩, by decide +kernel⟩

end Switchboard.Registry
