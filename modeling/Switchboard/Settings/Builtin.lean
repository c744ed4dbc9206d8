import Switchboard.Settings.Path

/-!
# Built-in settings

The settings in force where no file and no variable says otherwise, and the dotted keys under which the rest
of the library reads them.
-/

namespace Switchboard.Settings

/-- The key of the level of the package. -/
def logLevelKey : String := "logging.level"

/-- The key of whether emergency calls are classified. -/
def enabledKey : String := "telephony.emergency_classifier.enabled"

/-- The key of the name under which the service is registered. -/
def serviceNameKey : String := "telephony.emergency_classifier.service_name"

/-- The key of the address that a client posts to. -/
def baseUrlKey : String := "telephony.emergency_classifier.base_url"

/-- The key of how long a client waits. -/
def timeoutKey : String := "telephony.emergency_classifier.timeout"

/-- The key of the allow-list of dialers. -/
def dialerClassesKey : String := "telephony.components.dialer_default_classes"

/-- The key of the allow-list of in-call screens. -/
def inCallClassesKey : String := "telephony.components.incall_default_classes"

/-- The name under which the classification authority is registered. -/
def authorityName : String := "extphone"

/-- How long an answer of the authority is waited for when nothing else is said, in seconds. -/
def defaultTimeout : Value := .int 5

/-- The settings that hold where nothing else is said. -/
def builtin : Section :=
  [ (.text "app", .record [("name", .text "callroute"), ("log_level", .text "INFO")]),
    (.text "logging", .record
      [ ("level", .text "INFO"), ("file", .null), ("max_size", .text "10MB"),
        ("backup_count", .int 5), ("console", .bool true), ("services", .map []) ]),
    (.text "telephony", .record
      [ ("emergency_classifier", .record
          [ ("enabled", .bool true), ("service_name", .text authorityName), ("base_url", .null),
            ("timeout", defaultTimeout) ]),
        ("components", .record
          [ ("dialer_default_classes", .list
              [ .text "com.android.dialer/com.android.dialer.DialtactsActivity",
                .text ("com.google.android.dialer/" ++
                  "com.google.android.dialer.extensions.GoogleDialtactsActivity") ]),
            ("incall_default_classes", .list
              [ .text "com.android.dialer/com.android.incallui.InCallServiceImpl",
                .text "com.google.android.dialer/com.android.incallui.InCallServiceImpl" ]) ]) ]) ]

/-- Whether the classifier asks an authority at all. -/
def enabled (settings : Graph) : Bool :=
  (settings.get enabledKey (.bool true)).isTruthy

/-- The name of the authority. -/
def serviceName (settings : Graph) : Value :=
  settings.get serviceNameKey (.text authorityName)

/-- Where the authority is reached, if that is configured. -/
def baseUrl (settings : Graph) : Value :=
  settings.get baseUrlKey .null

/-- How long an answer of the authority is waited for. -/
def timeout (settings : Graph) : Value :=
  settings.get timeoutKey defaultTimeout

/-- The allow-list of dialers. -/
def dialerClasses (settings : Graph) : Value :=
  settings.get dialerClassesKey (.list [])

/-- The allow-list of in-call screens. -/
def inCallClasses (settings : Graph) : Value :=
  settings.get inCallClassesKey (.list [])

end Switchboard.Settings
