import SellerAgents.ControlClient.SemVer

namespace SellerAgents.Compatibility
open Js ControlClient

/-- `SemVerV1Schema`. -/
def SemVerV1Schema (value : JsString) : Bool :=
  1 ≤ value.length && value.length ≤ 64 && semverShape value

/-- What `SemVerV1Schema.parse` throws. -/
inductive VersionError where
  | zodError
deriving DecidableEq

/-- Digits are compared by length, then by text. -/
def compareNumeric (l r : JsString) : Ordering :=
  if l.length ≠ r.length then if l.length < r.length then .lt else .gt
  else if l = r then .eq else if l < r then .lt else .gt

structure ParsedVersion where
  major : JsString
  minor : JsString
  patch : JsString
  prerelease : List JsString

/-- `parse` of `compareSemVerV1`; a core that the schema admits has three parts. -/
def parseVersion (value : JsString) : ParsedVersion where
  major := ((coreText value).splitOn 46).getD 0 []
  minor := ((coreText value).splitOn 46).getD 1 []
  patch := ((coreText value).splitOn 46).getD 2 []
  prerelease := prereleaseIds value

/-- The loop over the identifiers of two prereleases, then their lengths. -/
def compareIdentifiers : List JsString → List JsString → Ordering
  | l :: ls, r :: rs =>
    if l = r then compareIdentifiers ls rs
    else if allDigits l && allDigits r then compareNumeric l r
    else if allDigits l != allDigits r then if allDigits l then .lt else .gt
    else if l < r then .lt else .gt
  | ls, rs => if ls.length = rs.length then .eq else if ls.length < rs.length then .lt else .gt

def comparePrereleases (ls rs : List JsString) : Ordering :=
  if ls = [] ∨ rs = [] then
    if ls.length = rs.length then .eq else if ls ≠ [] then .lt else .gt
  else compareIdentifiers ls rs

/-- The server's comparison of two versions. -/
def compareSemVerV1 (a b : JsString) : Except VersionError Ordering :=
  if !SemVerV1Schema a then .error .zodError
  else if !SemVerV1Schema b then .error .zodError
  else
    let x := parseVersion a
    let y := parseVersion b
    .ok ((compareNumeric x.major y.major).then <| (compareNumeric x.minor y.minor).then <|
      (compareNumeric x.patch y.patch).then <| comparePrereleases x.prerelease y.prerelease)

/-- The number 2147483647. -/
def largestNumber : Double := ⟨false, 2147483647 * 2 ^ 22, -22, by decide⟩

/-- `n > 2147483647` of the number of some digits; what no double holds is an infinity. -/
def exceedsLargest : Option Double → Bool
  | some n => largestNumber.lt n
  | none => true

/-- `parse` of `compareBrowserVersionV1`. -/
def parseBrowserVersion (value : JsString) : Option (List Double) :=
  let parts := value.splitOn 46
  if parts.length < 1 || 4 < parts.length || parts.any (fun part => !isNumericId part) then none
  else
    let numbers := parts.map toNumber
    if numbers.any exceedsLargest then none
    else some (numbers.filterMap id ++ List.replicate (4 - numbers.length) (.zero false))

/-- The loop over the four numbers. -/
def compareNumbers : List Double → List Double → Ordering
  | x :: xs, y :: ys => if x.same y then compareNumbers xs ys else if x.lt y then .lt else .gt
  | _, _ => .eq

/-- The server's comparison of two browser versions, none when one is malformed. -/
def compareBrowserVersionV1 (a b : JsString) : Option Ordering :=
  (parseBrowserVersion a).bind fun x => (parseBrowserVersion b).map fun y => compareNumbers x y

end SellerAgents.Compatibility
