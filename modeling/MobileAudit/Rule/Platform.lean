import MobileAudit.Rule.Basic
import MobileAudit.Pattern.Match

namespace MobileAudit.Rule

/-! Unsafe settings in platform manifests. -/

open Pattern

def blanks : Pattern := CharSet.space.many

def trueAttribute (name : String) : Pattern :=
  let quote := Pattern.set (.ofChars "\"'")
  lit name ++ (blanks ++ (lit "=" ++ (blanks ++ (quote ++ (lit "true" ++ quote)))))

/-- One finding for each place of a text where a pattern occurs. -/
def detectEach (card : RuleCard) (pattern : Pattern) (advice : String)
    (textOf : FileContext → Option String) (context : FileContext) : List Finding :=
  (pattern.findAll ((textOf context).getD "").toList).map fun m =>
    card.finding context m.start advice

def cleartextCard : RuleCard where
  id := "ANDROID_CLEARTEXT_TRAFFIC"
  description := "Android app allows cleartext HTTP traffic"
  severity := .medium
  fileTypes := [".xml"]

def cleartextTraffic : Rule :=
  cleartextCard.toRule <| detectEach cleartextCard (trueAttribute "android:usesCleartextTraffic")
    ("Remove android:usesCleartextTraffic or set it to false, and use a " ++
      "network security config for any required exceptions.")
    FileContext.manifest

def debuggableCard : RuleCard where
  id := "ANDROID_DEBUGGABLE_ENABLED"
  description := "Android application is debuggable"
  severity := .high
  fileTypes := [".xml"]

def debuggable : Rule :=
  debuggableCard.toRule <| detectEach debuggableCard (trueAttribute "android:debuggable")
    "Remove android:debuggable; the build system sets it for debug builds only."
    FileContext.manifest

def arbitraryLoadsCard : RuleCard where
  id := "IOS_ATS_ARBITRARY_LOADS"
  description := "App Transport Security allows arbitrary loads"
  severity := .medium
  fileTypes := [".plist"]

def arbitraryLoadsEntry : Pattern :=
  lit "<key>" ++ (blanks ++ (lit "NSAllowsArbitraryLoads" ++ (blanks ++ (lit "</key>" ++
    (blanks ++ (lit "<true" ++ (blanks ++ lit "/>")))))))

def arbitraryLoads : Rule :=
  arbitraryLoadsCard.toRule <| detectEach arbitraryLoadsCard arbitraryLoadsEntry
    ("Set NSAllowsArbitraryLoads to false and declare per-domain " ++
      "NSExceptionDomains where plain HTTP is unavoidable.")
    FileContext.propertyList

end MobileAudit.Rule
