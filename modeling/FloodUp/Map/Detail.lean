import Mathlib.Algebra.Order.Ring.Int
import FloodUp.App.Localizations
import FloodUp.Map.Events

/-!
# Sheets and detail pages

What a tap on a marker shows (`Marker.sheet`, the bottom sheet of `map.dart`) and what a tap on
that opens (`Marker.eventDetail` and `EventDetail.build`, the page of `EventDetail.dart`). The
document is read again at each of these, so each can fail on a document that has no such field.
-/

namespace FloodUp

/-! ## Reading the category -/

/-- The value of a digit in a base up to sixteen. -/
def digitValue (base : ℕ) (c : Char) : Option ℕ :=
  let value :=
    if c.isDigit then some (c.toNat - '0'.toNat)
    else if 'a' ≤ c ∧ c ≤ 'f' then some (c.toNat - 'a'.toNat + 10)
    else if 'A' ≤ c ∧ c ≤ 'F' then some (c.toNat - 'A'.toNat + 10)
    else none
  value.filter (· < base)

def digitsValue (base : ℕ) : List Char → Option ℕ
  | [] => none
  | c :: cs => (c :: cs).foldlM (fun n d => (digitValue base d).map (base * n + ·)) 0

/-- `int.parse`: blanks around, a sign and `0x` are allowed, the value has 64 bits; anything else
is a `FormatException`. -/
def intParse (source : String) : Except Thrown ℤ :=
  let blanks (cs : List Char) := cs.dropWhile Char.isWhitespace
  let trimmed := (blanks (blanks source.toList).reverse).reverse
  let (negative, unsigned) := match trimmed with
    | '-' :: cs => (true, cs)
    | '+' :: cs => (false, cs)
    | cs => (false, cs)
  let magnitude := match unsigned with
    | '0' :: 'x' :: cs => digitsValue 16 cs
    | '0' :: 'X' :: cs => digitsValue 16 cs
    | cs => digitsValue 10 cs
  match magnitude with
  | none => .error (.fault .exception)
  | some n =>
    let value : ℤ := if negative then -n else n
    if -2 ^ 63 ≤ value ∧ value < 2 ^ 63 then .ok value else .error (.fault .exception)

/-- The labels of the categories, in the order in which Publish offers them. -/
def categories (locale : Locale) : List String :=
  ["category_floods", "category_storm", "category_landslide", "category_seastorm",
    "category_snowfalls", "category_droughts", "category_forestfire", "category_windstorm",
    "category_other", "category_adaptation", "category_badpractice"].map (translate locale)

/-- `list[index]`. -/
def elementAt (list : List String) (index : ℤ) : Except Thrown String :=
  if index < 0 then .error .rangeError
  else match list[index.toNat]? with
    | some element => .ok element
    | none => .error .rangeError

/-- `categories[int.parse(data["category"]) - 1]`. -/
def eventCategory (locale : Locale) (data : Data) : Except Thrown String := do
  let source ← (data.get "category").asString
  match source with
  | none => .error .typeError
  | some source => elementAt (categories locale) ((← intParse source) - 1)

/-! ## The bottom sheet -/

structure Sheet where
  imageUrl : Option String
  category : String
  date : Option String
  placename : Option String
  categoryIcon : String
deriving DecidableEq

/-- The sheet a tap on the marker shows. -/
def Marker.sheet (locale : Locale) (marker : Marker) : Except Thrown Sheet := do
  let category ← eventCategory locale marker.data
  let date ← (marker.data.get "date").asString
  let placename ← (marker.data.get "placename").asString
  let number ← (marker.data.get "category").asString
  match number with
  | none => .error .typeError
  | some number =>
    return { imageUrl := marker.smallImageUrl, category, date, placename
             categoryIcon := "assets/category_icons/" ++ number ++ ".png" }

/-! ## The detail page -/

/-- The fields of `EventDetail`. -/
structure EventDetail where
  images : List (Option String)
  publisherName : Option String
  eventCategory : String
  eventDate : Option String
  eventLocation : Option String
  caughtAttention : Option String
  informationData : Option String
  isUpload : Option Bool
  climateRating : Option ℤ
  why : Option String
  uploadRating : Option ℤ
  botherRating : Option ℤ
  reduceImpact : Option String
deriving DecidableEq

/-- The name of the publisher, with a default. -/
def publisherName (data : Data) : Except Thrown (Option String) :=
  if data.get "publisher" = .scalar .null then .ok (some "Unknown")
  else (data.get "publisher").asString

/-- The page a tap on the sheet opens. -/
def Marker.eventDetail (locale : Locale) (marker : Marker) : Except Thrown EventDetail := do
  let data := marker.data
  return {
    images := marker.imageFileArray
    publisherName := ← FloodUp.publisherName data
    eventCategory := ← FloodUp.eventCategory locale data
    eventDate := ← (data.get "date").asString
    eventLocation := ← (data.get "placename").asString
    caughtAttention := ← (data.get "attention").asString
    informationData := ← (data.get "information").asString
    isUpload := ← (data.get "uploadobservation").asBool
    climateRating := ← (data.get "rating_climate").asInt
    why := ← (data.get "rating_climate_why").asString
    uploadRating := ← (data.get "rating_upload").asInt
    botherRating := ← (data.get "rating_bother").asInt
    reduceImpact := ← (data.get "reduce_impact").asString }

/-- The texts a detail page shows. -/
structure DetailPage where
  images : List (Option String)
  publisherName : Option String
  eventCategory : String
  eventDate : Option String
  eventLocation : Option String
  caughtAttention : Option String
  informationData : Option String
  isUploadText : String
  climateRatingText : String
  why : Option String
  uploadRatingText : String
  botherRatingText : String
  reduceImpact : Option String
deriving DecidableEq

/-- A free text as it is shown: an empty one as a dash. -/
def dashed (text : Option String) : Option String := if text = some "" then some "-" else text

/-- A rating as it is shown; comparing `null` fails. -/
def ratingText : Option ℤ → Except Thrown String
  | none => .error .noSuchMethod
  | some rating => .ok (if rating > 0 then toString rating else "-")

/-- The answer to the alert question as it is shown; testing `null` fails. -/
def isUploadText (locale : Locale) : Option Bool → Except Thrown String
  | none => .error .typeError
  | some isUpload => .ok (translate locale (if isUpload then "no_title" else "yes_title"))

/-- `_EventDetailState.build`. -/
def EventDetail.build (locale : Locale) (widget : EventDetail) : Except Thrown DetailPage := do
  return {
    images := widget.images
    publisherName := widget.publisherName
    eventCategory := widget.eventCategory
    eventDate := widget.eventDate
    eventLocation := widget.eventLocation
    caughtAttention := dashed widget.caughtAttention
    informationData := dashed widget.informationData
    isUploadText := ← FloodUp.isUploadText locale widget.isUpload
    climateRatingText := ← ratingText widget.climateRating
    why := dashed widget.why
    uploadRatingText := ← ratingText widget.uploadRating
    botherRatingText := ← ratingText widget.botherRating
    reduceImpact := dashed widget.reduceImpact }

end FloodUp
