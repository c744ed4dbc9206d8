import Switchboard.Proofs.Number.Digits
import Switchboard.Proofs.Settings.Following
import Switchboard.Proofs.Settings.Sections
import Switchboard.Proofs.Text.SmallForm
import Switchboard.Settings.Environment

/-!
# What the variables contribute

The layer that the environment makes holds what the variables say that are set, each under its key,
and nothing else. The texts of variables are read in the order of the cases of `Tells`: truth values,
digits, numbers for the timeout, texts. There is no layer where a text is of digits and no whole number
is read from it, because one of them has no place in a number or because there are too many
(`readEnvironment_settles`).
-/

namespace Switchboard

namespace Text

/-- No digit is a plain letter. -/
theorem isAlpha_of_isDigit {c : Char} (digit : isDigit c = true) : c.isAlpha = false := by
  obtain ⟨span, member, low, high⟩ := exists_span_of_isDigit digit
  have spared : ∀ span ∈ digitSpans, (span.2 < 0x41 ∨ 0x5A < span.1) ∧
      (span.2 < 0x61 ∨ 0x7A < span.1) := by decide
  have apart := spared span member
  rw [← Bool.not_eq_true, isAlpha_iff, isUpper_iff_toNat, isLower_iff_toNat]
  omega

/-- Whether a text is a word of small letters, each in either case. -/
def Spells (text word : String) : Prop := text.toList.map Char.toLower = word.toList

variable {text : String}

/-- The word for yes in either case. -/
theorem lower_eq_true_iff : lower text = "true" ↔ Spells text "true" :=
  lower_eq_iff (by simp [isPlainSmall])

/-- The word for no in either case. -/
theorem lower_eq_false_iff : lower text = "false" ↔ Spells text "false" :=
  lower_eq_iff (by simp [isPlainSmall])

/-- Digits spell no word. -/
theorem not_spells_of_isDigits {word : String} (digits : isDigits text = true)
    (letters : ∀ c ∈ word.toList, c.isLower = true) : ¬Spells text word := by
  intro spelled
  obtain ⟨nonempty, all⟩ := isDigits_iff.mp digits
  obtain ⟨c, rest, characters⟩ := List.exists_cons_of_ne_nil nonempty
  have digit : isDigit c = true := all c (characters ▸ List.mem_cons_self)
  have small : c.toLower.isLower = true := by
    refine letters c.toLower ?_
    rw [← spelled, characters]
    exact List.mem_cons_self
  have isLetter := isAlpha_of_toLower small
  rw [isAlpha_of_isDigit digit] at isLetter
  contradiction

end Text

namespace Settings

open Text (IsDecimal Spells decimalNumber isDigits)

/-! ## Reading a text -/

/-- Whether a text is neither a truth value nor made of digits. -/
structure IsOther (text : String) : Prop where
  notTrue : ¬Spells text "true"
  notFalse : ¬Spells text "false"
  notDigits : ¬isDigits text = true

/-- What the text of a variable tells for a key: a value, or nothing because it is not the number that it
should be. -/
inductive Tells (key text : String) : Option Value → Prop
  | yes (spelled : Spells text "true") : Tells key text (some (.bool true))
  | no (spelled : Spells text "false") : Tells key text (some (.bool false))
  | whole (digits : isDigits text = true) (decimal : IsDecimal text)
      (short : text.length ≤ Numeral.digitLimit) : Tells key text (some (.int (decimalNumber text)))
  | number {size : Binary64} (other : IsOther text) (isTimeout : key = timeoutKey)
      (read : Numeral.readFloat? text = some size) : Tells key text (some (.float size))
  | noNumber (other : IsOther text) (isTimeout : key = timeoutKey)
      (unread : Numeral.readFloat? text = none) : Tells key text none
  | plain (other : IsOther text) (notTimeout : key ≠ timeoutKey) : Tells key text (some (.text text))

variable {key text : String} {said : Option Value}

/-- What a text tells is no map. -/
theorem Tells.not_map {value : Value} (tells : Tells key text (some value)) (entries : Section) :
    value ≠ .map entries := by
  rintro rfl
  cases tells

/-- Every text is a truth value, digits or something else. -/
theorem forms (text : String) :
    Spells text "true" ∨ Spells text "false" ∨ isDigits text = true ∨ IsOther text := by
  by_cases isTrue : Spells text "true"
  · exact .inl isTrue
  by_cases isFalse : Spells text "false"
  · exact .inr (.inl isFalse)
  by_cases digits : isDigits text = true
  · exact .inr (.inr (.inl digits))
  · exact .inr (.inr (.inr ⟨isTrue, isFalse, digits⟩))

/-- Digits are no truth value. -/
theorem not_word_of_digits (digits : isDigits text = true) :
    ¬Spells text "true" ∧ ¬Spells text "false" :=
  ⟨Text.not_spells_of_isDigits digits (by simp), Text.not_spells_of_isDigits digits (by simp)⟩

/-- The word for yes is read as a truth value. -/
theorem readVariable_of_true (spelled : Spells text "true") :
    readVariable key text = .ok (some (.bool true)) := by
  simp [readVariable, Text.lower_eq_true_iff.mpr spelled]

/-- The word for no is read as a truth value. -/
theorem readVariable_of_false (spelled : Spells text "false") :
    readVariable key text = .ok (some (.bool false)) := by
  simp [readVariable, Text.lower_eq_false_iff.mpr spelled]

/-- Digits are read as a whole number, or are refused. -/
theorem readVariable_of_digits (digits : isDigits text = true) :
    readVariable key text = (Numeral.readInt text).map fun number => some (.int number) := by
  simp [readVariable, Text.lower_eq_true_iff, Text.lower_eq_false_iff, not_word_of_digits digits, digits]

/-- Anything else is a number for the timeout, if it is one, and a text for other keys. -/
theorem readVariable_of_other (other : IsOther text) :
    readVariable key text = .ok (if key = timeoutKey then (Numeral.readFloat? text).map .float
      else some (.text text)) := by
  simp only [readVariable, Text.lower_eq_true_iff, Text.lower_eq_false_iff, other.notTrue,
    other.notFalse, other.notDigits, if_false, Bool.false_eq_true]
  split <;> rfl

/-- What anything else tells. -/
theorem tells_of_other (other : IsOther text) :
    Tells key text (if key = timeoutKey then (Numeral.readFloat? text).map .float
      else some (.text text)) := by
  split
  next isTimeout =>
    cases read : Numeral.readFloat? text with
    | none => exact .noNumber other isTimeout read
    | some size => exact .number other isTimeout read
  next notTimeout => exact .plain other notTimeout

/-- A variable is read as what its text tells. -/
theorem readVariable_eq_ok_iff : readVariable key text = .ok said ↔ Tells key text said := by
  constructor
  · intro read
    rcases forms text with isTrue | isFalse | digits | other
    · rw [readVariable_of_true isTrue] at read
      exact Except.ok.inj read ▸ .yes isTrue
    · rw [readVariable_of_false isFalse] at read
      exact Except.ok.inj read ▸ .no isFalse
    · rw [readVariable_of_digits digits] at read
      cases whole : Numeral.readInt text with
      | error fault => simp [whole, Except.map] at read
      | ok number =>
        obtain ⟨decimal, short, rfl⟩ := (Numeral.readInt_of_digits_eq_ok_iff digits).mp whole
        obtain rfl : some (.int (decimalNumber text)) = said := by simpa [whole, Except.map] using read
        exact .whole digits decimal short
    · rw [readVariable_of_other other] at read
      exact Except.ok.inj read ▸ tells_of_other other
  · intro tells
    cases tells with
    | yes spelled => exact readVariable_of_true spelled
    | no spelled => exact readVariable_of_false spelled
    | whole digits decimal short =>
      rw [readVariable_of_digits digits,
        (Numeral.readInt_of_digits_eq_ok_iff digits).mpr ⟨decimal, short, rfl⟩]
      rfl
    | number other isTimeout read => simp [readVariable_of_other other, isTimeout, read]
    | noNumber other isTimeout unread => simp [readVariable_of_other other, isTimeout, unread]
    | plain other notTimeout => simp [readVariable_of_other other, notTimeout]

/-- A text tells something unless it is made of digits and no whole number is read from it. -/
theorem exists_tells_iff : (∃ said, Tells key text said) ↔
    (isDigits text = true → IsDecimal text ∧ text.length ≤ Numeral.digitLimit) := by
  constructor
  · rintro ⟨said, tells⟩ digits
    have noWord := not_word_of_digits digits
    cases tells with
    | yes spelled => exact absurd spelled noWord.1
    | no spelled => exact absurd spelled noWord.2
    | whole _ decimal short => exact ⟨decimal, short⟩
    | number other _ _ | noNumber other _ _ | plain other _ =>
      exact absurd digits other.notDigits
  · intro readable
    rcases forms text with isTrue | isFalse | digits | other
    · exact ⟨_, .yes isTrue⟩
    · exact ⟨_, .no isFalse⟩
    · exact ⟨_, .whole digits (readable digits).1 (readable digits).2⟩
    · exact ⟨_, tells_of_other other⟩

/-! ## Reading the variables -/

/-- Whether a listed variable that is set contributes a value at a path. -/
def Contributes (environment : Environment) (keys : List (String × String)) (path : List Scalar)
    (value : Value) : Prop :=
  ∃ pair ∈ keys, ∃ text, Entries.get? pair.1 environment = some text ∧
    Tells pair.2 text (some value) ∧ path = dottedPath pair.2

/-- Whether neither of two dotted keys leads to what stands under the other. -/
def AreApart (key other : String) : Prop :=
  ¬dottedPath key <+: dottedPath other ∧ ¬dottedPath other <+: dottedPath key

/-- A text tells one thing. -/
theorem Tells.unique {other : Option Value} (tells : Tells key text said)
    (again : Tells key text other) : said = other :=
  Except.ok.inj ((readVariable_eq_ok_iff.mpr tells).symm.trans (readVariable_eq_ok_iff.mpr again))

/-- The keys of a dotted path are texts. -/
theorem text_of_mem_dottedPath {dotted : String} :
    ∀ key ∈ dottedPath dotted, ∃ characters, key = .text characters := by
  intro key member
  obtain ⟨piece, _, rfl⟩ := List.mem_map.mp member
  exact ⟨_, rfl⟩

section Variables

variable {environment : Environment} {keys rest : List (String × String)} {settings layer : Section}
  {written : List Scalar → Value → Prop} {pair : String × String} {path : List Scalar} {value : Value}

/-- A variable that is not set contributes nothing. -/
theorem contributes_of_unset (unset : Entries.get? pair.1 environment = none) :
    Contributes environment (pair :: rest) path value ↔ Contributes environment rest path value := by
  simp [Contributes, unset]

/-- A variable that is set contributes what it says under its key. -/
theorem contributes_of_set (set : Entries.get? pair.1 environment = some text)
    (tells : Tells pair.2 text said) :
    Contributes environment (pair :: rest) path value ↔
      (said = some value ∧ path = dottedPath pair.2) ∨ Contributes environment rest path value := by
  have told : Tells pair.2 text (some value) ↔ said = some value :=
    ⟨fun other => tells.unique other, fun same => same ▸ tells⟩
  simp [Contributes, set, told]

/-- What the first of the listed variables does. -/
theorem addVariables_cons (environment : Environment) (settings : Section) (pair : String × String)
    (rest : List (String × String)) :
    (Entries.get? pair.1 environment = none ∧
      addVariables environment settings (pair :: rest) = addVariables environment settings rest) ∨
    ∃ text, Entries.get? pair.1 environment = some text ∧
      ((∃ value, Tells pair.2 text (some value) ∧
        addVariables environment settings (pair :: rest) =
          addVariables environment (settings.set pair.2 value) rest) ∨
      (Tells pair.2 text none ∧
        addVariables environment settings (pair :: rest) =
          (do
            Traced.log .warning logger s!"Invalid number in {pair.1}: {text}"
            addVariables environment settings rest)) ∨
      ((¬∃ said, Tells pair.2 text said) ∧
        ∃ fault, addVariables environment settings (pair :: rest) = .fail fault)) := by
  cases set : Entries.get? pair.1 environment with
  | none => exact .inl ⟨rfl, by simp [addVariables, set]⟩
  | some text =>
    refine .inr ⟨text, rfl, ?_⟩
    cases read : readVariable pair.2 text with
    | error fault =>
      refine .inr (.inr ⟨?_, .number fault, by simp [addVariables, set, read]⟩)
      rintro ⟨said, tells⟩
      simp [readVariable_eq_ok_iff.mpr tells] at read
    | ok said =>
      have tells := readVariable_eq_ok_iff.mp read
      cases said with
      | none => exact .inr (.inl ⟨tells, by simp only [addVariables, set, read]⟩)
      | some value => exact .inl ⟨value, tells, by simp [addVariables, set, read]⟩

/-- Variables are read to the end where each one that is set tells something. -/
theorem addVariables_isOk_iff : (∃ layer, (addVariables environment settings keys).result = .ok layer) ↔
    ∀ pair ∈ keys, ∀ text, Entries.get? pair.1 environment = some text →
      ∃ said, Tells pair.2 text said := by
  induction keys generalizing settings with
  | nil => simp [addVariables, Traced.ok]
  | cons pair rest ih =>
    rw [List.forall_mem_cons]
    rcases addVariables_cons environment settings pair rest with
      ⟨unset, step⟩ | ⟨text, set, ⟨value, tells, step⟩ | ⟨tells, step⟩ | ⟨silent, fault, step⟩⟩
    · simp [step, unset, ih]
    · have told : ∃ said, Tells pair.2 text said := ⟨_, tells⟩
      simp [step, set, ih, told]
    · have told : ∃ said, Tells pair.2 text said := ⟨_, tells⟩
      simp [step, set, ih, told, Traced.bind_eq_ok_iff]
    · simp [step, set, silent]

/-- What the variables contribute is added to what settings hold, if all of it has paths of its own. -/
theorem holds_addVariables (holds : settings.Holds written)
    (apart : keys.Pairwise fun first second => AreApart first.2 second.2)
    (fresh : ∀ pair ∈ keys, ∀ path value, written path value →
      ¬path <+: dottedPath pair.2 ∧ ¬dottedPath pair.2 <+: path)
    (done : (addVariables environment settings keys).result = .ok layer) :
    layer.Holds fun path value => written path value ∨ Contributes environment keys path value := by
  induction keys generalizing settings written with
  | nil =>
    obtain rfl : settings = layer := Except.ok.inj done
    simpa [Contributes] using holds
  | cons pair rest ih =>
    obtain ⟨firstApart, restApart⟩ := List.pairwise_cons.mp apart
    obtain ⟨firstFresh, restFresh⟩ := List.forall_mem_cons.mp fresh
    rcases addVariables_cons environment settings pair rest with
      ⟨unset, step⟩ | ⟨text, set, ⟨value, tells, step⟩ | ⟨tells, step⟩ | ⟨silent, fault, step⟩⟩
    · rw [step] at done
      refine (ih holds restApart restFresh done).congr fun path value => ?_
      rw [contributes_of_unset unset]
    · rw [step] at done
      have added := holds.write (dottedPath_ne_nil pair.2) text_of_mem_dottedPath tells.not_map firstFresh
      refine (ih added restApart ?_ done).congr fun path other => ?_
      · rintro later member path other (isWritten | ⟨rfl, rfl⟩)
        · exact restFresh later member path other isWritten
        · exact firstApart later member
      · rw [contributes_of_set set tells, or_assoc, Option.some.injEq, and_comm, eq_comm (a := value)]
    · simp only [step, Traced.bind_eq_ok_iff, Traced.result_log] at done
      obtain ⟨_, -, later⟩ := done
      refine (ih holds restApart restFresh later).congr fun path value => ?_
      simp [contributes_of_set set tells]
    · simp [step] at done

/-- What is left in the log where a variable is read for the timeout: a warning if its text is no number,
and nothing otherwise. -/
inductive Warns (environment : Environment) (name : String) : Trace → Prop
  | warned {text : String} (set : Entries.get? name environment = some text)
      (noNumber : Tells timeoutKey text none) :
      Warns environment name [.logged ⟨.warning, logger, s!"Invalid number in {name}: {text}"⟩]
  | silent (told : ∀ text, Entries.get? name environment = some text → ¬Tells timeoutKey text none) :
      Warns environment name []

/-- Only the timeout is warned about. -/
theorem eq_timeoutKey_of_tells (tells : Tells key text none) : key = timeoutKey := by
  cases tells with
  | noNumber _ isTimeout _ => exact isTimeout

/-- The warning is about the timeout, where its text is no number. -/
theorem warns_addVariables {name : String} (others : ∀ pair ∈ keys, pair.2 ≠ timeoutKey)
    (done : (addVariables environment settings (keys ++ [(name, timeoutKey)])).result = .ok layer) :
    Warns environment name
      (addVariables environment settings (keys ++ [(name, timeoutKey)])).trace := by
  induction keys generalizing settings with
  | nil =>
    rw [List.nil_append] at done ⊢
    rcases addVariables_cons environment settings (name, timeoutKey) [] with
      ⟨unset, step⟩ | ⟨text, set, ⟨value, tells, step⟩ | ⟨tells, step⟩ | ⟨silent, fault, step⟩⟩
    · rw [step]
      exact .silent (by simp [unset])
    · rw [step]
      refine .silent fun other found noNumber => ?_
      obtain rfl : text = other := Option.some.inj (set.symm.trans found)
      exact Option.some_ne_none value (tells.unique noNumber)
    · rw [step]
      exact .warned set tells
    · simp [step] at done
  | cons pair rest ih =>
    obtain ⟨other, restOthers⟩ := List.forall_mem_cons.mp others
    rw [List.cons_append] at done ⊢
    rcases addVariables_cons environment settings pair (rest ++ [(name, timeoutKey)]) with
      ⟨unset, step⟩ | ⟨text, set, ⟨value, tells, step⟩ | ⟨tells, step⟩ | ⟨silent, fault, step⟩⟩
    · rw [step] at done ⊢
      exact ih restOthers done
    · rw [step] at done ⊢
      exact ih restOthers done
    · exact absurd (eq_timeoutKey_of_tells tells) other
    · simp [step] at done

end Variables

/-- No variable writes where another does. -/
theorem variableKeys_apart : variableKeys.Pairwise fun first second => AreApart first.2 second.2 := by
  have logLevel : dottedPath logLevelKey = [.text "logging", .text "level"] := by rfl
  have enabled : dottedPath enabledKey =
      [.text "telephony", .text "emergency_classifier", .text "enabled"] := by rfl
  have baseUrl : dottedPath baseUrlKey =
      [.text "telephony", .text "emergency_classifier", .text "base_url"] := by rfl
  have timeout : dottedPath timeoutKey =
      [.text "telephony", .text "emergency_classifier", .text "timeout"] := by rfl
  simp [variableKeys, AreApart, logLevel, enabled, baseUrl, timeout]

/-- The variables make a layer exactly where each text of digits among them is made of decimal digits
that are not too many. The layer holds what each variable tells that is set, at the path of its key, and
nothing else, and there is a warning exactly where the timeout is no number. -/
theorem readEnvironment_settles (environment : Environment) :
    ((∃ layer, (readEnvironment environment).result = .ok layer) ↔
      ∀ pair ∈ variableKeys, ∀ text, Entries.get? pair.1 environment = some text →
        isDigits text = true → IsDecimal text ∧ text.length ≤ Numeral.digitLimit) ∧
    ∀ layer, (readEnvironment environment).result = .ok layer →
      layer.Holds (Contributes environment variableKeys) ∧
      Warns environment "CALLROUTE_CLASSIFIER_TIMEOUT" (readEnvironment environment).trace := by
  refine ⟨?_, fun layer done => ⟨?_, ?_⟩⟩
  · rw [readEnvironment, addVariables_isOk_iff]
    simp only [exists_tells_iff]
  · have held := holds_addVariables Section.holds_nil variableKeys_apart (by simp) done
    exact held.congr fun path value => by simp
  · have others : ∀ pair ∈ variableKeys.take 3, pair.2 ≠ timeoutKey := by
      simp [variableKeys, logLevelKey, enabledKey, baseUrlKey, timeoutKey]
    exact warns_addVariables others done

/-- A superscript is a digit, and no number. -/
theorem readEnvironment_superscript :
    (readEnvironment [("CALLROUTE_CLASSIFIER_ENABLED", "²")]).result =
      .error (.number (.malformed 10 "²")) := by
  rfl

end Settings

end Switchboard
