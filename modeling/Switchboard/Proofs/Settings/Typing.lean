import Switchboard.Proofs.Settings.Acceptance

/-!
# The types of settings that were accepted

The check is made of refusals: a rule names what it does not let pass. After a load without fault the
settings have the types that the rules are meant for (`load_typed`): the timeout is a number above zero, the
name of the authority a text with a character that is no white space, its address a text or null, and each
allow-list a list of texts.

Two things get past the refusals. A timeout that is not a number is not zero or less. And no rule
is about whether the classifier is enabled: that setting may be anything (`enabled_untyped`) and is taken for
its truth.
-/

namespace Switchboard

namespace Binary64

variable {x : Binary64}

/-- A number above zero, by its exact fraction. -/
def IsPositive (x : Binary64) : Prop :=
  ∃ (numerator : Int) (denominator : Nat), x.fraction? = some (numerator, denominator) ∧
    0 < numerator ∧ 0 < denominator

/-- The fraction of a number that is not zero has no zero in it. -/
theorem quotient_pos {magnitude : Nat} (some : magnitude ≠ 0) :
    0 < (quotient magnitude).1 ∧ 0 < (quotient magnitude).2 := by
  have power (exponent : Nat) : 0 < Nat.pow 2 exponent := Nat.pow_pos (by decide)
  have significand : 0 < if magnitude / Nat.pow 2 52 = 0 then magnitude % Nat.pow 2 52
      else magnitude % Nat.pow 2 52 + Nat.pow 2 52 := by
    split
    next small =>
      -- Below the least normal number the significand is the magnitude itself.
      have below := (Nat.div_eq_zero_iff_lt (power 52)).mp small
      rw [Nat.mod_eq_of_lt below]
      omega
    next large => exact Nat.add_pos_right _ (power 52)
  unfold quotient
  dsimp only
  split
  · exact ⟨Nat.mul_pos significand (power _), Nat.one_pos⟩
  · exact ⟨significand, power _⟩

/-- What is a number and not zero or less is above zero. -/
theorem isPositive_of_not (isNumber : x.isNotANumber = false)
    (notBelow : x.isNonPositive = false) : x.IsPositive := by
  have above : x.isNegative = false ∧ x.isZero = false := by
    simpa [isNonPositive, isNumber] using notBelow
  have magnitude_ne : x.magnitude ≠ 0 := by simpa [isZero] using above.2
  unfold IsPositive fraction?
  generalize isFraction :
    (if x.isInfinite then (Nat.pow 10 400, 1) else quotient x.magnitude) = fraction
  have fraction_pos : 0 < fraction.1 ∧ 0 < fraction.2 := by
    rw [← isFraction]
    split
    · have power (exponent : Nat) : 0 < Nat.pow 10 exponent := Nat.pow_pos (by decide)
      constructor
      · apply power
      · decide
    · exact quotient_pos magnitude_ne
  refine ⟨fraction.1, fraction.2, ?_, Int.natCast_pos.mpr fraction_pos.1, fraction_pos.2⟩
  simp [isNumber, above.1]

end Binary64

/-- A text that is not blank has a character that is no white space; of a text that is kept by its code points
because there are halves of pairs among them, a half is one. -/
def Scalar.HasInk : Scalar → Prop
  | .text characters => ∃ c ∈ characters.toList, Text.isBlank c = false
  | .halved points => points.any Text.isHalf = true →
    ∃ point ∈ points, ∀ c : Char, Text.isBlank c = true → c.toNat ≠ point
  | _ => False

/-- No character has the code point of a half. -/
theorem Text.toNat_ne_half {point : Nat} (half : Text.isHalf point = true) (c : Char) :
    c.toNat ≠ point := by
  rintro rfl
  have valid := c.valid
  simp only [Text.isHalf, Bool.and_eq_true, decide_eq_true_eq] at half
  simp only [UInt32.isValidChar, Nat.isValidChar] at valid
  have : c.toNat = c.val.toNat := rfl
  omega

namespace Value

/-- A whole number above zero, or a floating-point number that is above zero if it is a number. -/
def IsTimeout (value : Value) : Prop :=
  (∃ number : Int, value = .int number ∧ 0 < number) ∨
    ∃ number : Binary64, value = .float number ∧
      (number.isNotANumber = false → number.IsPositive)

/-- Whether a value is a list of texts. -/
def IsTexts (value : Value) : Prop :=
  ∃ items, value = .list items ∧
    ∀ item ∈ items, ∃ content : Scalar, item = .scalar content ∧ content.kind = .text

end Value

namespace Settings

/-- What passes the check of a timeout is one. -/
theorem isTimeout_of_check {value : Value} (passed : isTimeout value = true) : value.IsTimeout := by
  unfold isTimeout at passed
  split at passed
  next number => exact .inl ⟨number, rfl, by simpa using passed⟩
  next number =>
    refine .inr ⟨number, rfl, fun isNumber => ?_⟩
    apply Binary64.isPositive_of_not isNumber
    simpa using passed
  next => contradiction

/-- What passes the check of a service's name has a character that is not blank. -/
theorem hasInk_of_check {value : Value} (passed : isServiceName value = true) :
    ∃ content, value = .scalar content ∧ content.HasInk := by
  unfold isServiceName at passed
  split at passed
  next characters =>
    refine ⟨.text characters, rfl, ?_⟩
    simpa [Scalar.HasInk, Text.isBlankText] using passed
  next points =>
    refine ⟨.halved points, rfl, fun mixed => ?_⟩
    obtain ⟨point, member, half⟩ := List.any_eq_true.mp mixed
    exact ⟨point, member, fun c _ => Text.toNat_ne_half half c⟩
  next => contradiction

variable {config : Graph}

/-- A key that passes a check which null does not pass is there. -/
theorem exists_at?_of_get {dotted : String} {check : Value → Bool}
    (passed : check (config.get dotted .null) = true) (refused : check .null = false) :
    ∃ found, config.at? (dottedPath dotted) = some found ∧ check found.value = true := by
  unfold Graph.get at passed
  cases present : config.at? (dottedPath dotted) with
  | none => simp [present, refused] at passed
  | some found => exact ⟨found, rfl, by simpa [present] using passed⟩

/-- Settings of the types that the check is meant for. -/
structure Typed (config : Graph) : Prop where
  timeout : ∃ found, config.at? (dottedPath timeoutKey) = some found ∧ found.value.IsTimeout
  name : ∃ found content, config.at? (dottedPath serviceNameKey) = some found ∧
    found.value = .scalar content ∧ content.HasInk
  url : ∃ content, baseUrl config = .scalar content ∧
    (content.kind = .null ∨ content.kind = .text)
  dialers : (dialerClasses config).IsTexts
  inCalls : (inCallClasses config).IsTexts
  /-- Whatever is set, the truth of it is taken. -/
  enabled : Settings.enabled config =
    ((config.at? (dottedPath enabledKey)).map Graph.value).elim true Value.isTruthy

/-- Sound settings are of the types that are asked for. -/
theorem Sound.typed (sound : Sound config)
    (collections : ∀ entry ∈ config.shelf, entry.2.isCollection = true) : Typed config where
  timeout := by
    obtain ⟨found, present, passed⟩ := exists_at?_of_get sound.timeout rfl
    exact ⟨found, present, isTimeout_of_check passed⟩
  name := by
    obtain ⟨found, present, passed⟩ := exists_at?_of_get sound.name rfl
    obtain ⟨content, isScalar, ink⟩ := hasInk_of_check passed
    exact ⟨found, content, present, isScalar, ink⟩
  url := sound.baseUrl collections
  dialers := texts_of_isTextList collections sound.dialers
  inCalls := texts_of_isTextList collections sound.inCalls
  enabled := by
    unfold Settings.enabled Graph.get
    cases config.at? (dottedPath enabledKey) <;> rfl

/-- Settings that were loaded without fault have the types that the check is meant for. -/
theorem load_typed {store : Store} {moment : Nat} {surroundings : Surroundings}
    (accepted : (store.load moment surroundings).2.result = .ok ()) :
    Typed (store.load moment surroundings).1.settings := by
  obtain ⟨layers, assembled, checked⟩ := Store.load_eq_ok_iff.mp accepted
  rw [Store.settings_load_of_ok assembled]
  exact (validate_eq_ok_iff.mp checked).typed (Store.assemble_collections assembled)

/-! Variables that say how long to wait, and of being enabled what is no truth value. -/

namespace Worded

/-- A fresh store. -/
def store : Store := { folder := "config" }

/-- Variables with a word for whether and a number for the timeout. -/
def surroundings : Surroundings where
  environment :=
    [("CALLROUTE_CLASSIFIER_ENABLED", "yes"), ("CALLROUTE_CLASSIFIER_TIMEOUT", "2.5")]

/-- The layers pass the check with the word. -/
theorem merged : ∃ layers, (store.assemble 1 surroundings).result = .ok layers ∧
    validate layers.graph = .ok () ∧ layers.graph.get enabledKey (.bool true) = .text "yes" := by
  have reads : store.Reads 1 surroundings (.ofValue (.map [])) (.ofValue (.map []))
      [(.text "telephony", .record [("emergency_classifier", .record
        [("enabled", .text "yes"), ("timeout", .float (.ofDecimal false 25 (-1)))])])] :=
    .of_no_files rfl 1 rfl
  exact ⟨_, Store.assemble_eq_ok_iff.mpr ⟨_, _, _, _, _, _, rfl, reads, rfl, rfl, rfl⟩, by rfl, by rfl⟩

/-- The load is accepted. -/
theorem load_accepted : (store.load 1 surroundings).2.result = .ok () := by
  obtain ⟨layers, assembled, checked, _⟩ := merged
  exact Store.load_eq_ok_iff.mpr ⟨layers, assembled, checked⟩

/-- The settings with the word are of the types that are asked for. -/
theorem load_typed_worded : (store.load 1 surroundings).2.result = .ok () ∧
    Typed (store.load 1 surroundings).1.settings :=
  ⟨load_accepted, load_typed load_accepted⟩

/-- Settings are accepted with a text that says whether the classifier is enabled. -/
theorem enabled_untyped : (store.load 1 surroundings).2.result = .ok () ∧
    (store.load 1 surroundings).1.settings.get enabledKey (.bool true) = .text "yes" := by
  obtain ⟨layers, assembled, _, isText⟩ := merged
  refine ⟨load_accepted, ?_⟩
  rw [Store.settings_load_of_ok assembled]
  exact isText

end Worded

end Settings

end Switchboard
