import EventTracker.Double.Reading

/-!
# Browser, system and device of a user agent

A browser is the first of an ordered list whose marks the user agent carries, since some
browsers carry the marks of others. Its version is the number that follows one of the
browser's version marks: the leftmost occurrence that a decimal digit follows counts, and
of the number as many digits as there are, with a fraction if one follows.
-/

namespace EventTracker

/-- A mark in a text: the classes of its characters. -/
abbrev Mark := List (Char → Bool)

/-- Whether a lower-case ASCII letter matches a character in any case. -/
def sameLetter (letter c : Char) : Bool :=
  c.toLower == letter || (letter == 'i' && (c == '\u0130' || c == '\u0131')) ||
    (letter == 's' && c == '\u017f') || (letter == 'k' && c == '\u212a')

namespace Mark

/-- A word as it is. -/
def word (text : String) : Mark := text.toList.map fun letter c => letter == c

/-- A lower-case word in any case. -/
def anyCase (text : String) : Mark := text.toList.map sameLetter

/-- The text after a mark at its front. -/
def rest? : Mark → List Char → Option (List Char)
  | [], cs => some cs
  | p :: mark, c :: cs => if p c then rest? mark cs else none
  | _ :: _, [] => none

/-- Whether a mark occurs in a text. -/
def occursIn (mark : Mark) : List Char → Bool
  | [] => mark.isEmpty
  | c :: cs => (mark.rest? (c :: cs)).isSome || mark.occursIn cs

end Mark

/-- The known browsers. -/
inductive Browser where
  | operaMini
  | opera
  | edge
  | chrome
  | chromeIos
  | firefoxIos
  | mobileSafari
  | safari
  | android
  | firefox
  | mozilla
  deriving DecidableEq

namespace Browser

def name : Browser → String
  | .operaMini => "Opera Mini"
  | .opera => "Opera"
  | .edge => "Microsoft Edge"
  | .chrome => "Chrome"
  | .chromeIos => "Chrome iOS"
  | .firefoxIos => "Firefox iOS"
  | .mobileSafari => "Mobile Safari"
  | .safari => "Safari"
  | .android => "Android Mobile"
  | .firefox => "Firefox"
  | .mozilla => "Mozilla"

/-- The marks that precede a browser's version. -/
def versionMarks : Browser → List Mark
  | .operaMini => []
  | .opera => [.word "Opera/", .word "OPR/"]
  | .edge => [.word "Edge/", .word "Edg/"]
  | .chrome => [.word "Chrome/"]
  | .chromeIos => [.word "CriOS/"]
  | .firefoxIos => [.word "FxiOS/"]
  | .mobileSafari | .safari => [.word "Version/"]
  | .android => [.anyCase "android" ++ [isBlank]]
  | .firefox => [.word "Firefox/"]
  | .mozilla => [.word "rv:"]

/-- The browser of a user agent. The vendor tells Apple's browsers, and `opera` says that the host
is known to be Opera. -/
def detect (userAgent vendor : String) (opera : Bool) : Option Browser :=
  let carries (text : String) : Bool := (Mark.word text).occursIn userAgent.toList
  if opera || carries " OPR/" then
    if carries "Mini" then some .operaMini else some .opera
  else if carries "Edge" || carries "Edg/" then some .edge
  else if carries "Chrome" then some .chrome
  else if carries "CriOS" then some .chromeIos
  else if carries "FxiOS" then some .firefoxIos
  else if (Mark.word "Apple").occursIn vendor.toList then
    if carries "Mobile" then some .mobileSafari else some .safari
  else if carries "Android" then some .android
  else if carries "Firefox" then some .firefox
  else if carries "Gecko" then some .mozilla
  else none

end Browser

/-- The number at the front of a text: digits, and a point and more digits if they follow. -/
def leadingVersion? (cs : List Char) : Option (List Char) :=
  let whole := cs.takeWhile isDecimalDigit
  if whole = [] then none
  else
    match cs.dropWhile isDecimalDigit with
    | '.' :: rest =>
      let fraction := rest.takeWhile isDecimalDigit
      some (if fraction = [] then whole else whole ++ '.' :: fraction)
    | _ => some whole

/-- The number after the leftmost mark that a digit follows. -/
def versionText? (marks : List Mark) : List Char → Option (List Char)
  | [] => none
  | c :: rest =>
    match marks.findSome? fun mark => (mark.rest? (c :: rest)).bind leadingVersion? with
    | some version => some version
    | none => versionText? marks rest

/-- The version of a browser as its user agent states it. -/
def Browser.version? (browser : Browser) (userAgent : String) : Option Double :=
  (versionText? browser.versionMarks userAgent.toList).bind Double.read?

/-- The name beside the first mark that occurs in a text, or nothing. -/
def firstMarked (names : List (Mark × String)) (text : String) : String :=
  ((names.find? fun name => name.1.occursIn text.toList).map Prod.snd).getD ""

/-- The operating system of a user agent, or nothing. -/
def operatingSystem : String → String :=
  firstMarked
    [(.anyCase "windows", "Windows"), (.word "iPhone", "iOS"), (.word "iPad", "iOS"),
     (.word "iPod", "iOS"), (.word "Android", "Android"), (.anyCase "mac", "Mac OS X"),
     (.word "Linux", "Linux"), (.word "CrOS", "Chrome OS")]

/-- The device of a user agent, or nothing. -/
def deviceName : String → String :=
  firstMarked [(.word "iPad", "iPad"), (.word "iPhone", "iPhone"), (.word "Android", "Android")]

/-- The text between the second slash of an address and the third, its host if it has one. -/
def referringDomain (referrer : String) : String :=
  let afterSlash (cs : List Char) : List Char := (cs.dropWhile (· != '/')).drop 1
  String.ofList ((afterSlash (afterSlash referrer.toList)).takeWhile (· != '/'))

end EventTracker
