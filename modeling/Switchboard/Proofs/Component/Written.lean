import Switchboard.Component

/-!
# Components in writing

A text names a component exactly where something stands before its first slash and something after
it (`unflatten?_eq_some_iff`). What a component is written as need not name it again: a slash in its
package ends the package early, and a class that starts with a point is taken for relative. Apart from
these and from empty parts nothing is lost (`written_names`).

A component that was read has neither a slash in its package nor empty parts, but its class may still
start with a point: if the package itself does, putting it in front of a relative class leaves a
relative class. Then the written form names another component, whose class has the package in front
once more; in all other cases reading a component once is final (`reread_iff`).

Nothing of this depends on what the code points of a text are, so it holds with halves of pairs as well.
-/

namespace Switchboard.Component

/-- Whether a text has something before its first slash, and something after it. -/
structure Splits (written packageName className : CodePoints) : Prop where
  written_eq : written = packageName ++ slash :: className
  isFirst : slash ∉ packageName
  package_ne : packageName ≠ []
  class_ne : className ≠ []

/-- A text names the component of its two parts, the class read in its package, and no other text names
a component. -/
theorem unflatten?_eq_some_iff {written : CodePoints} {component : Component} :
    unflatten? written = some component ↔ ∃ className,
      Splits written component.packageName className ∧
        component.className = resolveClass component.packageName className := by
  constructor
  · intro named
    unfold unflatten? at named
    split at named
    next => contradiction
    next before after cut =>
      split at named
      next => contradiction
      next full =>
        obtain ⟨whole, isFirst⟩ := Text.eq_append_of_splitAt? cut
        obtain rfl := Option.some.inj named
        simp only [Bool.or_eq_true, List.isEmpty_iff, not_or] at full
        exact ⟨after, ⟨whole, isFirst, full.1, full.2⟩, rfl⟩
  · rintro ⟨className, splits, isClass⟩
    have cut := Text.splitAt?_append splits.isFirst className
    unfold unflatten?
    rw [splits.written_eq, cut]
    simp [splits.package_ne, splits.class_ne, ← isClass]

/-- Whether nothing of a component is lost when it is written. -/
structure IsPlain (component : Component) : Prop where
  package_ne : component.packageName ≠ []
  noSlash : slash ∉ component.packageName
  class_ne : component.className ≠ []
  notRelative : component.className.head? ≠ some point

/-- A class stands for itself in a package exactly where it does not start with a point, or the package
is empty. -/
theorem resolveClass_eq_self_iff {packageName className : CodePoints} :
    resolveClass packageName className = className ↔
      className.head? ≠ some point ∨ packageName = [] := by
  unfold resolveClass
  split
  next relative => simp [relative]
  next absolute => simp [absolute]

/-- The written form of a component names it exactly where nothing of it is lost. -/
theorem unflatten?_flatten_eq_some_iff {component : Component} :
    unflatten? component.flatten = some component ↔ component.IsPlain := by
  rw [unflatten?_eq_some_iff]
  constructor
  · rintro ⟨className, splits, isClass⟩
    -- The package has no slash, so what follows it is the class as it is written.
    obtain rfl : component.className = className := by
      simpa [flatten] using splits.written_eq
    have itself := resolveClass_eq_self_iff.mp isClass.symm
    exact ⟨splits.package_ne, splits.isFirst, splits.class_ne, itself.resolve_right splits.package_ne⟩
  · intro plain
    exact ⟨component.className, ⟨rfl, plain.noSlash, plain.package_ne, plain.class_ne⟩,
      (resolveClass_eq_self_iff.mpr (.inl plain.notRelative)).symm⟩

/-- A text names a component exactly where something stands before its first slash and something after
it; and the written form of a component names this component exactly where its package is not empty and
has no slash, and its class is not empty and does not start with a point. -/
theorem written_names :
    (∀ written, (unflatten? written).isSome ↔
      ∃ packageName className, Splits written packageName className) ∧
    ∀ component : Component, unflatten? component.flatten = some component ↔ component.IsPlain := by
  refine ⟨fun written => ?_, fun component => unflatten?_flatten_eq_some_iff⟩
  rw [Option.isSome_iff_exists]
  constructor
  · rintro ⟨component, named⟩
    obtain ⟨className, splits, -⟩ := unflatten?_eq_some_iff.mp named
    exact ⟨component.packageName, className, splits⟩
  · rintro ⟨packageName, className, splits⟩
    exact ⟨⟨packageName, resolveClass packageName className⟩,
      unflatten?_eq_some_iff.mpr ⟨className, splits, rfl⟩⟩

/-- A class that starts with a point is read as one of the package. -/
example : unflatten? (Component.flatten ⟨"p", ".C"⟩) = some ⟨"p", "p.C"⟩ := by rfl

section Rereading

/-- Whether a text starts with a point. -/
def IsPointed (text : CodePoints) : Prop := text.head? = some point

/-- It is decided whether a class is pointed. -/
instance (text : CodePoints) : Decidable (IsPointed text) :=
  inferInstanceAs (Decidable (text.head? = some point))

/-- Whether a text that names a component has a point in front of both its parts. -/
def IsDoublyPointed (written : CodePoints) : Prop :=
  ∃ packageName className, Splits written packageName className ∧
    IsPointed packageName ∧ IsPointed className

variable {written packageName className : CodePoints} {component : Component}

/-- The parts of a text are its own: the package ends at the first slash. -/
theorem Splits.unique {otherPackage otherClass : CodePoints}
    (splits : Splits written packageName className) (others : Splits written otherPackage otherClass) :
    otherPackage = packageName ∧ otherClass = className := by
  have cut {front back : CodePoints} (parts : Splits written front back) :
      Text.splitAt? slash written = some (front, back) := by
    rw [parts.written_eq, Text.splitAt?_append parts.isFirst]
  have same := (cut others).symm.trans (cut splits)
  simpa using same

/-- The class that is read of two parts starts with a point only where both do: what stands in front
of a relative class is the package, and that is not empty. -/
theorem isPointed_resolveClass (package_ne : packageName ≠ []) :
    IsPointed (resolveClass packageName className) ↔
      IsPointed packageName ∧ IsPointed className := by
  unfold IsPointed resolveClass
  split
  next relative =>
    obtain ⟨first, rest, rfl⟩ := List.exists_cons_of_ne_nil package_ne
    simp [relative]
  next absolute => exact iff_of_false absolute fun both => absolute both.2

/-- A component that was read has a class that starts with a point exactly where it was read of two
parts that both do. -/
theorem isPointed_className_iff (named : unflatten? written = some component) :
    IsPointed component.className ↔ IsDoublyPointed written := by
  obtain ⟨className, splits, isClass⟩ := unflatten?_eq_some_iff.mp named
  rw [isClass, isPointed_resolveClass splits.package_ne]
  constructor
  · intro both
    exact ⟨_, _, splits, both⟩
  · rintro ⟨_, _, others, both⟩
    obtain ⟨rfl, rfl⟩ := splits.unique others
    exact both

/-- A component that was read is written as its own two parts. -/
theorem splits_flatten (named : unflatten? written = some component) :
    Splits component.flatten component.packageName component.className := by
  obtain ⟨className, splits, isClass⟩ := unflatten?_eq_some_iff.mp named
  refine ⟨rfl, splits.isFirst, splits.package_ne, fun empty => splits.class_ne ?_⟩
  rw [isClass, resolveClass] at empty
  split at empty
  next => exact (List.append_eq_nil_iff.mp empty).2
  next => exact empty

/-- What a component that was read is written as names this component again, unless both parts of the
text that it was read of start with a point; then it names the one whose class has the package in front
once more. -/
theorem reread_iff (named : unflatten? written = some component) :
    (unflatten? component.flatten = some component ↔ ¬IsDoublyPointed written) ∧
    (IsDoublyPointed written → unflatten? component.flatten =
      some ⟨component.packageName, component.packageName ++ component.className⟩) := by
  have splits := splits_flatten named
  rw [← isPointed_className_iff named, unflatten?_flatten_eq_some_iff]
  constructor
  · constructor
    · exact IsPlain.notRelative
    · exact fun absolute => ⟨splits.package_ne, splits.isFirst, splits.class_ne, absolute⟩
  · intro relative
    have head : component.className.head? = some point := relative
    refine unflatten?_eq_some_iff.mpr ⟨component.className, splits, ?_⟩
    simp [resolveClass, head]

/-- Which package a relative class is read in decides whether it is read once and for all. -/
theorem reread_relative :
    unflatten? "com.example/.Service" = some ⟨"com.example", "com.example.Service"⟩ ∧
      unflatten? (Component.flatten ⟨"com.example", "com.example.Service"⟩) =
        some ⟨"com.example", "com.example.Service"⟩ ∧
      unflatten? "./.C" = some ⟨".", "..C"⟩ ∧
      unflatten? (Component.flatten ⟨".", "..C"⟩) = some ⟨".", "...C"⟩ := by
  have named : unflatten? "com.example/.Service" =
      some ⟨"com.example", "com.example.Service"⟩ := by rfl
  have namedPoint : unflatten? "./.C" = some ⟨".", "..C"⟩ := by rfl
  have final : ¬IsDoublyPointed "com.example/.Service" :=
    mt (isPointed_className_iff named).mpr (by decide)
  have pointed : IsDoublyPointed "./.C" := (isPointed_className_iff namedPoint).mp (by decide)
  exact ⟨named, (reread_iff named).1.mpr final, namedPoint, (reread_iff namedPoint).2 pointed⟩

/-- A relative class in a package that starts with a point is read as another relative class. -/
theorem reread_pointed :
    unflatten? ".p/.C" = some ⟨".p", ".p.C"⟩ ∧
      unflatten? (Component.flatten ⟨".p", ".p.C"⟩) ≠ some ⟨".p", ".p.C"⟩ :=
  ⟨by rfl, by decide⟩

end Rereading

end Switchboard.Component
