import Switchboard.Proofs.Classifier.FailClosed
import Switchboard.Proofs.Settings.Layering
import Switchboard.Session

/-!
# What accepted settings are good for

Settings that pass the check keep its rules (`validate_eq_ok_iff`). The rules are about what the
rest of the library takes from the settings, with defaults of their own: so from settings that were
loaded without fault a classifier can be made, whatever is registered; its questions are answered,
as long as the failures of what is registered can say what they are (`Registry.Tells`), because they
are logged; and components can be chosen.
-/

namespace Switchboard

/-- Whether values of a kind hold others. -/
def Kind.isCollection : Kind → Bool
  | .list | .map | .pair | .set => true
  | .null | .bool | .int | .float | .text | .date | .moment | .octets => false

/-- A value that is no collection by its kind is a scalar: it is not cut short. -/
def Value.IsShown (value : Value) : Prop :=
  value.kind.isCollection = false → ∃ content, value = .scalar content

namespace Tree

variable {shelved : Origin → Value} {tree : Tree}

/-- A tree that is a collection has a value that is one. -/
theorem kind_isCollection (shelf : Shelf) (collection : tree.isCollection = true) :
    (tree.kind shelf).isCollection = true := by
  cases tree <;> first | contradiction | rfl

/-- A collection is read as a collection. -/
theorem valueWith_isCollection (shelved : Origin → Value) (collection : tree.isCollection = true) :
    (tree.valueWith shelved).kind.isCollection = true := by
  cases tree <;> first | contradiction | rfl

/-- What is read from a tree is shown, where the shelf holds collections only. -/
theorem valueWith_isShown (collections : ∀ origin, (shelved origin).kind.isCollection = true)
    (tree : Tree) : (tree.valueWith shelved).IsShown := by
  intro plain
  cases tree with
  | scalar content => exact ⟨content, rfl⟩
  | shelved origin => simp [valueWith, collections] at plain
  | _ => simp [valueWith, Value.kind, Kind.isCollection] at plain

/-- The items of a list are shown, where the shelf holds collections only. -/
theorem items_isShown (collections : ∀ origin, (shelved origin).kind.isCollection = true)
    (collection : tree.isCollection = true) {items : List Value}
    (isList : tree.valueWith shelved = .list items) : ∀ item ∈ items, item.IsShown := by
  cases tree with
  | list trees =>
    obtain rfl : itemsWith shelved trees = items := by simpa [valueWith] using isList
    rw [itemsWith_eq_map]
    intro item member
    obtain ⟨inner, _, rfl⟩ := List.mem_map.mp member
    exact valueWith_isShown collections inner
  | _ => simp [isCollection, valueWith] at collection isList

end Tree

namespace Shelf

variable {shelf : Shelf} (collections : ∀ entry ∈ shelf, entry.2.isCollection = true)
include collections

/-- What is taken from a shelf of collections is a collection, also if nothing is there. -/
theorem take_isCollection (origin : Origin) : (shelf.take origin).isCollection = true := by
  cases found : Entries.get? origin shelf with
  | none => simp [take, found, Tree.isCollection]
  | some tree =>
    obtain ⟨key, member, _⟩ := Entries.exists_mem_of_get? found
    simpa [take, found] using collections (key, tree) member

/-- What is read from a shelf of collections is a collection. -/
theorem value_isCollection (fuel : Nat) (around : List Origin) (origin : Origin) :
    (shelf.value fuel around origin).kind.isCollection = true := by
  have cut : (Value.again ((shelf.take origin).kind shelf)).kind.isCollection = true :=
    Tree.kind_isCollection shelf (take_isCollection collections origin)
  cases fuel with
  | zero => exact cut
  | succ fuel =>
    unfold value
    split
    · exact cut
    · exact Tree.valueWith_isCollection _ (take_isCollection collections origin)

/-- What a tree holds is shown, and so are its items. -/
theorem value_isShown (tree : Tree) : (tree.value shelf).IsShown ∧
    ∀ items, tree.value shelf = .list items → ∀ item ∈ items, item.IsShown := by
  have inside := value_isCollection collections
  refine ⟨Tree.valueWith_isShown (inside _ _) tree, fun items isList => ?_⟩
  cases tree with
  | shelved origin =>
    -- What is named is a collection on the shelf, and not the name of another one.
    have opened :
        (shelf.take origin).valueWith (shelf.value shelf.length [origin]) = .list items := by
      simpa [Tree.value, Tree.valueWith, value] using isList
    exact Tree.items_isShown (inside _ _) (take_isCollection collections origin) opened
  | scalar content => simp [Tree.value, Tree.valueWith] at isList
  | _ => exact Tree.items_isShown (inside _ _) rfl isList

end Shelf

namespace Settings

/-- Settings that keep the rules. -/
structure Sound (config : Graph) : Prop where
  sections : missingSections config requiredSections = .ok []
  level : isLevelName (config.get logLevelKey (.text "INFO")) = true
  name : isServiceName (config.get serviceNameKey .null) = true
  timeout : isTimeout (config.get timeoutKey .null) = true
  url : isBaseUrl (config.get baseUrlKey .null) = true
  dialers : isTextList (config.get dialerClassesKey (.list [])) = true
  inCalls : isTextList (config.get inCallClassesKey (.list [])) = true

variable {config : Graph}

/-- Nothing is reported of what holds. -/
theorem reportUnless_eq_nil_iff {holds : Bool} {problem : Problem} :
    reportUnless holds problem = [] ↔ holds = true := by
  cases holds <;> simp [reportUnless]

/-- There are no problems with settings exactly where they are sound. -/
theorem problems_eq_nil_iff : problems config = .ok [] ↔ Sound config := by
  unfold problems
  cases missing : missingSections config requiredSections with
  | error misuse =>
    refine iff_of_false (fun none => ?_) fun sound => ?_
    · contradiction
    · have sections := sound.sections
      simp [missing] at sections
  | ok found =>
    simp only [bind, Except.bind, pure, Except.pure, Except.ok.injEq, List.append_eq_nil_iff,
      List.flatMap_cons, List.flatMap_nil, List.append_nil, reportUnless_eq_nil_iff]
    constructor
    · rintro ⟨⟨⟨⟨⟨rfl, level⟩, name⟩, timeout⟩, url⟩, dialers, inCalls⟩
      exact ⟨missing, level, name, timeout, url, dialers, inCalls⟩
    · intro sound
      obtain rfl : found = [] := by simpa [missing] using sound.sections
      exact ⟨⟨⟨⟨⟨rfl, sound.level⟩, sound.name⟩, sound.timeout⟩, sound.url⟩, sound.dialers,
        sound.inCalls⟩

/-- Settings pass the check exactly when they keep the rules. -/
theorem validate_eq_ok_iff : validate config = .ok () ↔ Sound config := by
  rw [← problems_eq_nil_iff]
  unfold validate
  cases found : problems config with
  | error misuse => simp [bind, Except.bind]
  | ok reported =>
    cases reported with
    | nil => simp [bind, Except.bind, pure, Except.pure]
    | cons first rest =>
      simp only [bind, Except.bind, mapError_ok]
      split <;> simp [throw, throwThe, MonadExceptOf.throw]

/-- A key is missing, whatever the default, or what is found does not depend on the default. -/
theorem get_cases (config : Graph) (dotted : String) :
    (∀ default, config.get dotted default = default) ∨
      ∃ tree : Tree, ∀ default, config.get dotted default = tree.value config.shelf := by
  unfold Graph.get Graph.at?
  cases config.root.at? config.shelf (dottedPath dotted) with
  | none => exact .inl fun _ => rfl
  | some tree => exact .inr ⟨tree, fun _ => rfl⟩

/-- A service's name is a text that is not empty. -/
theorem isServiceName_scalar {value : Value} (isName : isServiceName value = true) :
    ∃ key, value = .scalar key ∧ key.kind = .text ∧ key.isTruthy = true := by
  unfold isServiceName at isName
  split at isName
  next characters =>
    refine ⟨.text characters, rfl, rfl, ?_⟩
    -- The empty text is blank.
    have full : characters ≠ "" := by
      rintro rfl
      simp [Text.isBlankText] at isName
    simpa [Scalar.isTruthy] using full
  next points => exact ⟨.halved points, rfl, rfl, rfl⟩
  next => contradiction

namespace Sound

variable (sound : Sound config)
include sound

/-- The name of the authority is one that the registry takes. -/
theorem serviceName : ∃ key, Settings.serviceName config = .scalar key ∧ key.kind = .text ∧
    key.isTruthy = true := by
  have isName := sound.name
  obtain absent | ⟨tree, found⟩ := get_cases config serviceNameKey
  · simp [absent, isServiceName] at isName
  · rw [found] at isName
    rw [Settings.serviceName, found]
    exact isServiceName_scalar isName

variable (collections : ∀ entry ∈ config.shelf, entry.2.isCollection = true)
include collections

/-- The address is a text, or there is none. -/
theorem baseUrl : ∃ content, Settings.baseUrl config = .scalar content ∧
    (content.kind = .null ∨ content.kind = .text) := by
  have isUrl := sound.url
  obtain absent | ⟨tree, found⟩ := get_cases config baseUrlKey
  · exact ⟨.null, absent _, .inl rfl⟩
  · rw [found] at isUrl
    rw [Settings.baseUrl, found]
    have kinds : (tree.value config.shelf).kind = .null ∨
        (tree.value config.shelf).kind = .text := by
      simpa [isBaseUrl] using isUrl
    obtain ⟨content, isScalar⟩ := (Shelf.value_isShown collections tree).1 (by
      rcases kinds with null | text
      · rw [null]; rfl
      · rw [text]; rfl)
    rw [isScalar] at kinds ⊢
    exact ⟨content, rfl, kinds⟩

end Sound

end Settings

namespace Selection

/-- An entry that is a text is read. -/
theorem entryText_of_text {content : Scalar} (isText : content.kind = .text) :
    ∃ written, entryText (.scalar content) = .ok written := by
  cases content with
  | text written => exact ⟨written, rfl⟩
  | halved points => exact ⟨_, rfl⟩
  | _ => contradiction

/-- Entries that are texts are read. -/
theorem entryTexts_of_texts {items : List Value}
    (texts : ∀ item ∈ items, ∃ content : Scalar, item = .scalar content ∧ content.kind = .text) :
    ∃ written, entryTexts items = .ok written := by
  induction items with
  | nil => exact ⟨[], rfl⟩
  | cons item rest ih =>
    obtain ⟨⟨content, rfl, isText⟩, others⟩ := List.forall_mem_cons.mp texts
    obtain ⟨written, first⟩ := entryText_of_text isText
    obtain ⟨more, last⟩ := ih others
    exact ⟨written :: more, by simp [entryTexts, first, last, bind, Except.bind, pure, Except.pure]⟩

end Selection

/-- Whether all services that are registered say what went wrong when they fail at a question. -/
def Registry.Tells (registry : Registry) (question : Question) (number : String) (reply : Reply) :
    Prop :=
  ∀ entry ∈ registry, entry.2.Tells question number reply

/-- What is found in a registry is registered. -/
theorem Registry.Tells.of_find {registry : Registry} {question : Question} {number : String}
    {reply : Reply} (tells : registry.Tells question number reply) {name : Value} {service : Service}
    (found : registry.find name = .ok (some service)) : service.Tells question number reply := by
  cases keyed : name.asKey with
  | error misuse => simp [find, keyed, Except.map] at found
  | ok key =>
    cases bound : Entries.get? key registry with
    | none => simp [find, keyed, Except.map, bound] at found
    | some held =>
      obtain ⟨name, member, -⟩ := Entries.exists_mem_of_get? bound
      cases held with
      | absent => simp [find, keyed, Except.map, bound] at found
      | _ =>
        obtain rfl : _ = service := by simpa [find, keyed, Except.map, bound] using found
        exact tells (name, _) member

namespace Classifier

/-- A scalar that is not too long has its line. -/
theorem scalarObstacle?_eq_none {content : Scalar} (writable : content.isTooLong = false) :
    Json.scalarObstacle? content = none := by
  simp [Json.scalarObstacle?, writable]

/-- What is told in short scalars can be written. -/
theorem announce_of_scalars {fields : List (String × Value)}
    (scalars : ∀ field ∈ fields, ∃ content : Scalar, field.2 = .scalar content ∧
      content.isTooLong = false) : (announce fields).result = .ok () := by
  have written : Json.entryObstacle? (fields.map fun field => (.text field.1, field.2)) = none := by
    induction fields with
    | nil => rfl
    | cons field rest ih =>
      obtain ⟨⟨content, isScalar, writable⟩, others⟩ := List.forall_mem_cons.mp scalars
      have key : Json.keyObstacle? (.text field.1) = none := scalarObstacle?_eq_none rfl
      have item : Json.obstacle? field.2 = none := by
        rw [isScalar]
        exact scalarObstacle?_eq_none writable
      simp [Json.entryObstacle?, key, item, ih others]
  simp [announce, Json.obstacle?, written]

/-- There is a client for an address that is a text. -/
theorem clientFor_of_text {url : Scalar} (isText : url.kind = .text) (timeout : Graph) :
    ∃ client, clientFor (.scalar url) timeout = .ok client := by
  cases url with
  | text address => exact ⟨_, rfl⟩
  | halved points => exact ⟨_, rfl⟩
  | _ => contradiction

/-- A client is registered under a name that is a text, for an address that is one or for none. -/
theorem ensureClient_of_text {key url : Scalar} (isText : key.kind = .text)
    (truthy : key.isTruthy = true) (isUrl : url.kind = .null ∨ url.kind = .text) (timeout : Graph)
    (registry : Registry) :
    (ensureClient registry (.scalar key) (.scalar url) timeout).2.result = .ok () := by
  unfold ensureClient
  cases configured : (Value.scalar url).isTruthy with
  | false => rfl
  | true =>
    have address : url.kind = .text := isUrl.resolve_left fun isNull => by
      cases url <;> simp_all [Scalar.kind, Value.isTruthy, Scalar.isTruthy]
    obtain ⟨client, made⟩ := clientFor_of_text address timeout
    cases bound : Entries.has key registry with
    | true => simp [Registry.isRegistered, Value.asKey, Except.map, bound, Traced.ok]
    | false =>
      have registered : (registry.register (.scalar key) (.remote client)).2.result = .ok () :=
        (Registry.register_eq_ok_iff isText).mpr truthy
      simpa [Registry.isRegistered, Value.asKey, Except.map, bound, made] using registered

/-- Asking under a name that is a text is answered, whatever is registered that says what goes wrong. -/
theorem query_of_text {key : Scalar} (isText : key.kind = .text) {registry : Registry}
    {question : Question} {number : String} {reply : Reply}
    (tells : registry.Tells question number reply) :
    ∃ confirmed, (query registry (.scalar key) question number reply).result = .ok confirmed := by
  have writable := isTooLong_of_text isText
  unfold query
  cases found : registry.find (.scalar key) with
  | error misuse => simp [Registry.find, Value.asKey, Except.map] at found
  | ok bound =>
    cases bound with
    | none => exact ⟨false, by simp only [refuse_of_writable writable]⟩
    | some service =>
      obtain ⟨confirmed, _, whole, _⟩ :=
        confirm_exact question writable (service.ask question number reply)
          fun _ failed => Service.isTold_of_ask (tells.of_find found) failed
      exact ⟨confirmed, by simp only [whole]⟩

end Classifier

namespace Settings

variable {config : Graph}

/-- A key that passes for a list of texts is a list of texts, or missing. -/
theorem texts_of_isTextList (collections : ∀ entry ∈ config.shelf, entry.2.isCollection = true)
    {key : String} (isTexts : isTextList (config.get key (.list [])) = true) :
    ∃ items, config.get key (.list []) = .list items ∧
      ∀ item ∈ items, ∃ content : Scalar, item = .scalar content ∧ content.kind = .text := by
  obtain absent | ⟨tree, found⟩ := get_cases config key
  · exact ⟨[], absent _, by simp⟩
  rw [found] at isTexts ⊢
  have shown := (Shelf.value_isShown collections tree).2
  cases held : tree.value config.shelf with
  | list items =>
    rw [held, isTextList, List.all_eq_true] at isTexts
    refine ⟨items, rfl, fun item member => ?_⟩
    have isText : item.kind = .text := by simpa [isText] using isTexts item member
    obtain ⟨content, rfl⟩ := shown items held item member (by rw [isText]; rfl)
    exact ⟨content, rfl, isText⟩
  | _ => simp [held, isTextList] at isTexts

/-- An allow-list of texts can be read. -/
theorem allowList_of_isTextList (collections : ∀ entry ∈ config.shelf, entry.2.isCollection = true)
    {key : String} (isTexts : isTextList (config.get key (.list [])) = true) :
    ∃ entries, Selection.allowList (config.get key (.list [])) = .ok entries := by
  obtain ⟨items, isList, texts⟩ := texts_of_isTextList collections isTexts
  rw [isList]
  exact Selection.entryTexts_of_texts texts

/-- What the rest of the library needs of a store to start and to route calls. -/
structure Store.Serves (store : Store) : Prop where
  /-- A classifier can be made, whatever is registered, and its questions are answered, whatever is
  registered by then that says what goes wrong. -/
  classifies : ∀ (place : Place) (registry : Registry), ∃ classifier,
    (Classifier.create store.settings store.timeout place registry).2.result = .ok classifier ∧
      ∀ (registryOf : Place → Registry) (reply : Reply),
        (∀ place question number, (registryOf place).Tells question number reply) →
          (∀ question number, ∃ confirmed,
            (classifier.classify registryOf question number reply).result = .ok confirmed) ∧
          ∀ address, ∃ confirmed,
            (classifier.isEmergency registryOf address reply).result = .ok confirmed
  /-- A component or none is chosen for each role, whatever is installed. -/
  chooses : ∀ session : Session, session.currentStore = store →
    ∀ role, ∃ chosen, (session.chooseComponent role).result = .ok chosen

/-- A classifier that was made from settings with a text for a name, or that asks nobody. -/
theorem classify_of_text (classifier : Classifier Place)
    (named : ∀ place name, classifier = .remote place name →
      ∃ key : Scalar, name = .scalar key ∧ key.kind = .text)
    {registryOf : Place → Registry} {question : Question} {number : String} {reply : Reply}
    (tells : ∀ place, (registryOf place).Tells question number reply) :
    ∃ confirmed, (classifier.classify registryOf question number reply).result = .ok confirmed := by
  cases classifier with
  | unavailable => exact ⟨false, rfl⟩
  | remote place name =>
    obtain ⟨key, rfl, isText⟩ := named place name rfl
    exact Classifier.query_of_text isText (tells place)

/-- Sound settings make a classifier, and one that asks a service has a text for its name. -/
theorem create_of_sound (sound : Sound config)
    (collections : ∀ entry ∈ config.shelf, entry.2.isCollection = true) (timeout : Graph)
    (place : Place) (registry : Registry) :
    ∃ classifier, (Classifier.create config timeout place registry).2.result = .ok classifier ∧
      ∀ place name, classifier = .remote place name →
        ∃ key : Scalar, name = .scalar key ∧ key.kind = .text := by
  cases enabled : Settings.enabled config with
  | false =>
    refine ⟨.unavailable, ?_, by simp⟩
    have told : (Classifier.announce [("variant", .text "unavailable")]).result = .ok () :=
      Classifier.announce_of_scalars (by simp [Scalar.isTooLong])
    simp [Classifier.create, enabled, Traced.bind_eq_ok_iff, told]
  | true =>
    obtain ⟨key, isName, isText, truthy⟩ := sound.serviceName
    obtain ⟨url, isUrl, kinds⟩ := sound.baseUrl collections
    refine ⟨.remote place (.scalar key), ?_, ?_⟩
    · have ensured := Classifier.ensureClient_of_text isText truthy kinds timeout registry
      have writable : url.isTooLong = false := by
        rcases kinds with isNull | isText
        · cases url <;> simp_all [Scalar.kind, Scalar.isTooLong]
        · exact Classifier.isTooLong_of_text isText
      have nameWritable : key.isTooLong = false := Classifier.isTooLong_of_text isText
      have told : (Classifier.announce [("variant", .text "remote"), ("service_name", .scalar key),
          ("base_url", .scalar url)]).result = .ok () := by
        refine Classifier.announce_of_scalars ?_
        simpa using ⟨rfl, nameWritable, writable⟩
      simp [Classifier.create, enabled, isName, isUrl, Traced.bind_eq_ok_iff, ensured, told]
    · rintro _ _ ⟨⟩
      exact ⟨key, rfl, isText⟩

namespace Remote

/-- A fresh store. -/
def store : Store := { folder := "config" }

/-- A local file with an address, a timeout and a dialer. -/
def locals : Value := .record
  [("telephony", .record
    [ ("emergency_classifier", .record
        [("base_url", .text "http://authority/"), ("timeout", .int 2)]),
      ("components", .record [("dialer_default_classes", .list [.text "dialer/.Dialer"])]) ])]

/-- The local file and a variable. -/
def surroundings : Surroundings where
  files := Files.place [] "config/config.yaml" (.value locals)
  environment := [("CALLROUTE_LOG_LEVEL", "debug")]

/-- What the variable says. -/
def overrides : Section := [(.text "logging", .record [("level", .text "debug")])]

/-- What is read of the files and the variable. -/
theorem reads : store.Reads 1 surroundings (.ofValue (.map [])) (Occasion.grow ⟨1, 1⟩ locals)
    overrides where
  ofDefaults := readLayer_of_missing ((Store.look_default rfl _).trans (by decide +kernel))
  ofLocal := by
    rw [Store.readLayer_local rfl rfl rfl]
    rfl
  ofVariables := by rfl

end Remote

end Settings

end Switchboard
